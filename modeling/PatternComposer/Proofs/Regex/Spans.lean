import PatternComposer.Proofs.Regex.Exploration

/-! # What the program of a node accepts

`Node.Spans` says which stretches of a text a node stands for, without regard to preference. The
code of a node leads from a position to exactly the ends of such stretches (`Node.realizes`),
wherever the code stands in a program. Each way of laying out code has its own combinator of
`Realizes`; the loop is the one that needs paths to have a length.
-/

namespace PatternComposer.Regex

/-- So many stretches in a row. -/
inductive Iterated (spans : Nat → Nat → Prop) : Nat → Nat → Nat → Prop where
  | zero {pos} : Iterated spans 0 pos pos
  | succ {count first middle last} (head : spans first middle)
      (tail : Iterated spans count middle last) : Iterated spans (count + 1) first last

namespace Iterated

variable {spans : Nat → Nat → Prop}

theorem append {count more first middle last : Nat} (head : Iterated spans count first middle)
    (tail : Iterated spans more middle last) : Iterated spans (count + more) first last := by
  induction head with
  | zero => rwa [Nat.zero_add]
  | succ step _ ih => rw [Nat.add_right_comm]; exact .succ step (ih tail)

theorem split {count more first last : Nat} (run : Iterated spans (count + more) first last) :
    ∃ middle, Iterated spans count first middle ∧ Iterated spans more middle last := by
  induction count generalizing first with
  | zero => exact ⟨first, .zero, by rwa [Nat.zero_add] at run⟩
  | succ count ih =>
    rw [Nat.add_right_comm] at run
    cases run with
    | succ head tail =>
      obtain ⟨middle, left, right⟩ := ih tail
      exact ⟨middle, .succ head left, right⟩

/-- Stretches without characters stay where they begin. -/
theorem eq_of_empty {count first last : Nat} (empty : ∀ i j, spans i j → j = i)
    (run : Iterated spans count first last) : last = first := by
  induction run with
  | zero => rfl
  | succ head _ ih => exact ih.trans (empty _ _ head)

/-- Of stretches without characters one stands for any number of them. -/
theorem once_iff {lo : Nat} {hi : Option Nat} {first last : Nat} (empty : ∀ i j, spans i j → j = i)
    (ordered : ∀ limit, hi = some limit → lo ≤ limit) :
    (∃ count, min lo 1 ≤ count ∧ (∀ limit, some (min (hi.getD 1) 1) = some limit → count ≤ limit) ∧
        Iterated spans count first last) ↔
      ∃ count, lo ≤ count ∧ (∀ limit, hi = some limit → count ≤ limit) ∧
        Iterated spans count first last := by
  have filled (here : spans first first) (count : Nat) : Iterated spans count first first := by
    induction count with
    | zero => exact .zero
    | succ count ih => exact .succ here ih
  constructor
  · rintro ⟨count, low, _, run⟩
    obtain rfl := run.eq_of_empty empty
    refine ⟨lo, Nat.le_refl _, ordered, ?_⟩
    cases run with
    | zero =>
      obtain rfl : lo = 0 := by omega
      exact .zero
    | succ head _ =>
      obtain rfl := empty _ _ head
      exact filled head lo
  · rintro ⟨count, low, high, run⟩
    obtain rfl := run.eq_of_empty empty
    refine ⟨min count 1, by omega, ?_, ?_⟩
    · intro limit same
      cases same
      cases hi with
      | none => exact Nat.min_le_right ..
      | some limit =>
        have bound := high limit rfl
        rw [Option.getD_some]
        omega
    · cases run with
      | zero => exact .zero
      | succ head _ =>
        obtain rfl := empty _ _ head
        exact filled head _

end Iterated

namespace Node

/-- The node stands for the stretch of the text between two positions. -/
def Spans (text : Array Char) : Node → Nat → Nat → Prop
  | .empty, i, j => j = i
  | .set members, i, j => ∃ c, text[i]? = some c ∧ c ∈ members ∧ j = i + 1
  | .look l, i, j => l.holds text i = true ∧ j = i
  | .cat first second, i, j => ∃ k, first.Spans text i k ∧ second.Spans text k j
  | .alt first second, i, j => first.Spans text i j ∨ second.Spans text i j
  | .rep body lo hi _, i, j =>
    ∃ count, lo ≤ count ∧ (∀ limit, hi = some limit → count ≤ limit) ∧
      Iterated (body.Spans text) count i j
  | .group _ body, i, j => body.Spans text i j

/-- The bounds of every repetition are in order. -/
def Ordered : Node → Prop
  | .cat first second => first.Ordered ∧ second.Ordered
  | .alt first second => first.Ordered ∧ second.Ordered
  | .rep body lo hi _ => body.Ordered ∧ ∀ limit, hi = some limit → lo ≤ limit
  | .group _ body => body.Ordered
  | _ => True

theorem Spans.eq_of_onlyEmpty {text : Array Char} {node : Node} (only : node.onlyEmpty = true) :
    ∀ i j, node.Spans text i j → j = i := by
  induction node with
  | empty => intro i j same; exact same
  | set members => cases only
  | look l => intro i j held; exact held.2
  | cat first second ihFirst ihSecond =>
    rw [onlyEmpty, Bool.and_eq_true] at only
    rintro i j ⟨k, left, right⟩
    exact (ihSecond only.2 k j right).trans (ihFirst only.1 i k left)
  | alt first second ihFirst ihSecond =>
    rw [onlyEmpty, Bool.and_eq_true] at only
    rintro i j (left | right)
    · exact ihFirst only.1 i j left
    · exact ihSecond only.2 i j right
  | rep body lo hi greedy ih =>
    rw [onlyEmpty, Bool.or_eq_true, beq_iff_eq] at only
    rintro i j ⟨count, low, high, run⟩
    rcases only with only | never
    · exact run.eq_of_empty (ih only)
    · obtain rfl : count = 0 := Nat.le_zero.mp (high 0 never)
      cases run
      rfl
  | group index body ih => exact ih only

end Node

/-! ## Code in a program -/

/-- The code stands in the program from an instruction on. -/
def Placed (program : Program) (start : Nat) (code : List Inst) : Prop :=
  ∀ i inst, code[i]? = some inst → program[start + i]? = some inst

namespace Placed

variable {program : Program} {start : Nat}

theorem left {first second : List Inst} (placed : Placed program start (first ++ second)) :
    Placed program start first := by
  intro i inst here
  apply placed
  rw [List.getElem?_append_left (List.getElem?_eq_some_iff.mp here).1, here]

theorem right {first second : List Inst} (placed : Placed program start (first ++ second)) :
    Placed program (start + first.length) second := by
  intro i inst here
  rw [Nat.add_assoc]
  apply placed
  rw [List.getElem?_append_right (Nat.le_add_right ..), Nat.add_sub_cancel_left, here]

theorem head {inst : Inst} {rest : List Inst} (placed : Placed program start (inst :: rest)) :
    program[start]? = some inst := placed 0 inst rfl

theorem tail {inst : Inst} {rest : List Inst} (placed : Placed program start (inst :: rest)) :
    Placed program (start + 1) rest := by
  have split : Placed program start ([inst] ++ rest) := placed
  exact split.right

theorem of_toArray (code : List Inst) : Placed code.toArray 0 code := by
  intro i inst here
  rwa [Nat.zero_add, List.getElem?_toArray]

end Placed

/-- Wherever the code stands, it leads exactly to the ends of such stretches. -/
structure Realizes (text : Array Char) (code : List Inst) (spans : Nat → Nat → Prop) : Prop where
  sound {program : Program} {start i steps : Nat} (placed : Placed program start code)
    (accepts : Program.AcceptsIn program text steps (start, i)) :
    ∃ j, spans i j ∧ ∃ fewer ≤ steps, Program.AcceptsIn program text fewer (start + code.length, j)
  complete {program : Program} {start i j : Nat} (placed : Placed program start code)
    (spanned : spans i j) (accepts : Program.Accepts program text (start + code.length, j)) :
    Program.Accepts program text (start, i)

/-- A path from an instruction goes on at one of the places that follow it. -/
theorem Program.AcceptsIn.follow {program : Program} {text : Array Char} {steps : Nat}
    {place : Nat × Nat} {inst : Inst} (accepts : AcceptsIn program text steps place)
    (here : program[place.1]? = some inst) :
    ∃ fewer next, steps = fewer + 1 ∧ next ∈ Job.follows text inst place ∧
      AcceptsIn program text fewer next := by
  cases accepts with
  | past past => rw [here] at past; cases past
  | @step fewer _ next _ found follows rest =>
    obtain rfl := Option.some.inj (here.symm.trans found)
    exact ⟨fewer, next, rfl, follows, rest⟩

namespace Job

variable {text : Array Char} {k i : Nat} {next : Nat × Nat}

theorem mem_follows_take {members : CharSet} :
    next ∈ follows text (.take members) (k, i) ↔
      ∃ c, text[i]? = some c ∧ c ∈ members ∧ next = (k + 1, i + 1) := by
  cases here : text[i]? with
  | none => simp [follows, Job.next, here]
  | some c =>
    have same : c ∈ members ↔ members.contains c = true := Iff.rfl
    by_cases member : members.contains c = true <;>
      simp [follows, Job.next, place, here, same, member]

theorem mem_follows_check {look : Look} :
    next ∈ follows text (.check look) (k, i) ↔ look.holds text i = true ∧ next = (k + 1, i) := by
  by_cases holds : look.holds text i = true <;> simp [follows, Job.next, place, holds]

theorem mem_follows_mark {slot : Nat} :
    next ∈ follows text (.mark slot) (k, i) ↔ next = (k + 1, i) := by
  simp [follows, Job.next, place]

theorem mem_follows_fork {skip : Nat} {eager : Bool} :
    next ∈ follows text (.fork skip eager) (k, i) ↔ next = (k + 1, i) ∨ next = (k + 1 + skip, i) := by
  cases eager <;> simp [follows, Job.next, place, or_comm]

theorem mem_follows_again {back : Nat} {eager : Bool} :
    next ∈ follows text (.again back eager) (k, i) ↔ next = (k - back, i) ∨ next = (k + 1, i) := by
  cases eager <;> simp [follows, Job.next, place, or_comm]

theorem mem_follows_jump {skip : Nat} :
    next ∈ follows text (.jump skip) (k, i) ↔ next = (k + 1 + skip, i) := by
  simp [follows, Job.next, place]

end Job

namespace Realizes

variable {text : Array Char} {code first second : List Inst} {spans other : Nat → Nat → Prop}

theorem congr (realizes : Realizes text code spans) (same : ∀ i j, spans i j ↔ other i j) :
    Realizes text code other where
  sound placed accepts := by
    obtain ⟨j, spanned, rest⟩ := realizes.sound placed accepts
    exact ⟨j, (same _ j).mp spanned, rest⟩
  complete placed spanned accepts := realizes.complete placed ((same _ _).mpr spanned) accepts

theorem nil : Realizes text [] fun i j => j = i where
  sound placed accepts := ⟨_, rfl, _, Nat.le_refl _, accepts⟩
  complete placed spanned accepts := by subst spanned; exact accepts

/-- An instruction that goes on at the next one. -/
theorem single {inst : Inst}
    (follows : ∀ k i next, next ∈ Job.follows text inst (k, i) ↔ ∃ j, spans i j ∧ next = (k + 1, j)) :
    Realizes text [inst] spans where
  sound placed accepts := by
    obtain ⟨fewer, next, rfl, followed, rest⟩ := accepts.follow placed.head
    obtain ⟨j, spanned, rfl⟩ := (follows _ _ _).mp followed
    exact ⟨j, spanned, fewer, Nat.le_succ _, rest⟩
  complete placed spanned accepts := .step placed.head ((follows _ _ _).mpr ⟨_, spanned, rfl⟩) accepts

theorem append (left : Realizes text first spans) (right : Realizes text second other) :
    Realizes text (first ++ second) fun i j => ∃ k, spans i k ∧ other k j where
  sound placed accepts := by
    obtain ⟨k, spanned, fewer, le, rest⟩ := left.sound placed.left accepts
    obtain ⟨j, later, least, less, rest⟩ := right.sound placed.right rest
    rw [Nat.add_assoc, ← List.length_append] at rest
    exact ⟨j, ⟨k, spanned, later⟩, least, Nat.le_trans less le, rest⟩
  complete placed spanned accepts := by
    obtain ⟨k, spanned, later⟩ := spanned
    rw [List.length_append, ← Nat.add_assoc] at accepts
    exact left.complete placed.left spanned (right.complete placed.right later accepts)

/-- Where the code of a choice ends. -/
private theorem add_length_choice (start : Nat) (first second : List Inst) (eager : Bool) :
    start + (Inst.fork (first.length + 1) eager :: (first ++ .jump second.length :: second)).length =
      start + 1 + first.length + 1 + second.length := by
  simp only [List.length_cons, List.length_append]
  omega

theorem choice (left : Realizes text first spans) (right : Realizes text second other) (eager : Bool) :
    Realizes text (.fork (first.length + 1) eager :: (first ++ .jump second.length :: second))
      fun i j => spans i j ∨ other i j where
  sound {program start i steps} placed accepts := by
    have tail := placed.tail
    obtain ⟨fewer, next, rfl, followed, rest⟩ := accepts.follow placed.head
    rw [add_length_choice]
    rcases Job.mem_follows_fork.mp followed with rfl | rfl
    · obtain ⟨j, spanned, least, le, rest⟩ := left.sound tail.left rest
      obtain ⟨least, next, rfl, followed, rest⟩ := rest.follow tail.right.head
      rw [Job.mem_follows_jump] at followed
      subst followed
      exact ⟨j, .inl spanned, least, by omega, rest⟩
    · rw [← Nat.add_assoc] at rest
      obtain ⟨j, spanned, least, le, rest⟩ := right.sound tail.right.tail rest
      exact ⟨j, .inr spanned, least, by omega, rest⟩
  complete {program start i j} placed spanned accepts := by
    have tail := placed.tail
    rw [add_length_choice] at accepts
    rcases spanned with spanned | spanned
    · apply Program.Accepts.step placed.head (Job.mem_follows_fork.mpr (.inl rfl))
      apply left.complete tail.left spanned
      exact .step tail.right.head (Job.mem_follows_jump.mpr rfl) accepts
    · apply Program.Accepts.step placed.head (Job.mem_follows_fork.mpr (.inr rfl))
      rw [← Nat.add_assoc]
      exact right.complete tail.right.tail spanned accepts

theorem copies (body : Realizes text code spans) (times : Nat) :
    Realizes text (Program.copies times code) (Iterated spans times) := by
  induction times with
  | zero =>
    refine nil.congr fun i j => ⟨?_, fun run => ?_⟩
    · rintro rfl
      exact .zero
    · cases run
      rfl
  | succ times ih =>
    have laid : Program.copies (times + 1) code = code ++ Program.copies times code := by
      simp [Program.copies, List.replicate_succ]
    rw [laid]
    refine (body.append ih).congr fun i j => ⟨?_, fun run => ?_⟩
    · rintro ⟨k, head, tail⟩
      exact .succ head tail
    · cases run with
      | succ head tail => exact ⟨_, head, tail⟩

theorem length_options (eager : Bool) (code : List Inst) (times : Nat) :
    (Program.options eager code times).length = times * (code.length + 1) := by
  induction times with
  | zero => simp [Program.options]
  | succ times ih =>
    rw [Program.options, List.length_cons, List.length_append, ih, Nat.succ_mul]
    omega

/-- Code that a fork in front of it may leave out. -/
theorem optional (body : Realizes text code spans) (eager : Bool) :
    Realizes text (.fork code.length eager :: code) fun i j => spans i j ∨ j = i where
  sound {program start i steps} placed accepts := by
    have last : start + (Inst.fork code.length eager :: code).length = start + 1 + code.length := by
      rw [List.length_cons]
      omega
    rw [last]
    obtain ⟨fewer, next, rfl, followed, rest⟩ := accepts.follow placed.head
    rcases Job.mem_follows_fork.mp followed with rfl | rfl
    · obtain ⟨j, spanned, least, le, rest⟩ := body.sound placed.tail rest
      exact ⟨j, .inl spanned, least, by omega, rest⟩
    · exact ⟨i, .inr rfl, fewer, by omega, rest⟩
  complete {program start i j} placed spanned accepts := by
    have last : start + (Inst.fork code.length eager :: code).length = start + 1 + code.length := by
      rw [List.length_cons]
      omega
    rw [last] at accepts
    rcases spanned with spanned | rfl
    · apply Program.Accepts.step placed.head (Job.mem_follows_fork.mpr (.inl rfl))
      exact body.complete placed.tail spanned accepts
    · exact .step placed.head (Job.mem_follows_fork.mpr (.inr rfl)) accepts

theorem options (body : Realizes text code spans) (eager : Bool) (times : Nat) :
    Realizes text (Program.options eager code times)
      fun i j => ∃ count ≤ times, Iterated spans count i j := by
  induction times with
  | zero =>
    refine nil.congr fun i j => ⟨?_, ?_⟩
    · rintro rfl
      exact ⟨0, Nat.le_refl _, .zero⟩
    · rintro ⟨count, none, run⟩
      obtain rfl := Nat.le_zero.mp none
      cases run
      rfl
  | succ times ih =>
    have skip : (times + 1) * (code.length + 1) - 1 = (code ++ Program.options eager code times).length := by
      rw [List.length_append, length_options, Nat.succ_mul]
      omega
    rw [Program.options, skip]
    refine ((body.append ih).optional eager).congr fun i j => ⟨?_, ?_⟩
    · rintro (⟨k, head, count, few, run⟩ | rfl)
      · exact ⟨count + 1, by omega, .succ head run⟩
      · exact ⟨0, Nat.zero_le _, .zero⟩
    · rintro ⟨count, few, run⟩
      cases run with
      | zero => exact .inr rfl
      | @succ count _ _ _ head tail => exact .inl ⟨_, head, count, by omega, tail⟩

/-- A loop goes back at the end of its body or leaves. Each way back is a step, so the number of
steps still to go decreases from one iteration to the next. -/
theorem repeated (body : Realizes text code spans) (eager : Bool) :
    Realizes text (Program.repeated eager code) fun i j => ∃ count, Iterated spans (count + 1) i j where
  sound {program start i steps} placed accepts := by
    induction steps using Nat.strongRecOn generalizing i with
    | ind steps ih =>
      obtain ⟨j, head, fewer, le, rest⟩ := body.sound placed.left accepts
      obtain ⟨least, next, rfl, followed, rest⟩ := rest.follow placed.right.head
      rcases Job.mem_follows_again.mp followed with rfl | rfl
      · rw [Nat.add_sub_cancel] at rest
        obtain ⟨last, ⟨count, tail⟩, most, less, rest⟩ := ih least (by omega) rest
        exact ⟨last, ⟨count + 1, .succ head tail⟩, most, by omega, rest⟩
      · rw [Nat.add_assoc] at rest
        rw [Program.repeated, List.length_append]
        exact ⟨j, ⟨0, .succ head .zero⟩, least, by omega, rest⟩
  complete {program start i j} placed spanned accepts := by
    obtain ⟨count, run⟩ := spanned
    rw [Program.repeated, List.length_append, ← Nat.add_assoc] at accepts
    have leave : Program.Accepts program text (start + code.length, j) :=
      .step placed.right.head (Job.mem_follows_again.mpr (.inr rfl)) accepts
    induction count generalizing i with
    | zero =>
      cases run with
      | succ head tail =>
        cases tail
        exact body.complete placed.left head leave
    | succ count ih =>
      cases run with
      | succ head tail =>
        apply body.complete placed.left head
        apply Program.Accepts.step placed.right.head (Job.mem_follows_again.mpr (.inl rfl))
        rw [Nat.add_sub_cancel]
        exact ih tail

theorem repetition (body : Realizes text code spans) {lo : Nat} {hi : Option Nat}
    (ordered : ∀ limit, hi = some limit → lo ≤ limit) (eager : Bool) :
    Realizes text (Program.repetition lo hi eager code) fun i j =>
      ∃ count, lo ≤ count ∧ (∀ limit, hi = some limit → count ≤ limit) ∧ Iterated spans count i j := by
  cases hi with
  | some limit =>
    have order := ordered limit rfl
    refine ((body.copies lo).append (body.options eager (limit - lo))).congr fun i j => ⟨?_, ?_⟩
    · rintro ⟨k, head, count, few, tail⟩
      refine ⟨lo + count, Nat.le_add_right .., ?_, head.append tail⟩
      intro other same
      cases same
      omega
    · rintro ⟨count, low, high, run⟩
      have high := high limit rfl
      rw [← Nat.add_sub_cancel' low] at run
      obtain ⟨k, head, tail⟩ := run.split
      exact ⟨k, head, count - lo, by omega, tail⟩
  | none =>
    cases lo with
    | zero =>
      have skip : code.length + 1 = (Program.repeated eager code).length := by
        rw [Program.repeated, List.length_append, List.length_singleton]
      rw [Program.repetition, skip]
      refine ((body.repeated eager).optional eager).congr fun i j => ⟨?_, ?_⟩
      · rintro (⟨count, run⟩ | rfl)
        · exact ⟨count + 1, Nat.zero_le _, by simp, run⟩
        · exact ⟨0, Nat.zero_le _, by simp, .zero⟩
      · rintro ⟨count, _, _, run⟩
        cases count with
        | zero => cases run; exact .inr rfl
        | succ count => exact .inl ⟨count, run⟩
    | succ lo =>
      refine ((body.copies lo).append (body.repeated eager)).congr fun i j => ⟨?_, ?_⟩
      · rintro ⟨k, head, count, tail⟩
        exact ⟨lo + (count + 1), by omega, by simp, head.append tail⟩
      · rintro ⟨count, low, _, run⟩
        obtain ⟨more, rfl⟩ := Nat.exists_eq_add_of_le low
        rw [show lo + 1 + more = lo + (more + 1) by omega] at run
        obtain ⟨k, head, tail⟩ := run.split
        exact ⟨k, head, more, tail⟩

end Realizes

namespace Node

theorem realizes (text : Array Char) {node : Node} (ordered : node.Ordered) :
    Realizes text node.code (node.Spans text) := by
  induction node with
  | empty => exact .nil
  | set members =>
    apply Realizes.single
    intro k i next
    rw [Job.mem_follows_take]
    constructor
    · rintro ⟨c, here, member, rfl⟩
      exact ⟨i + 1, ⟨c, here, member, rfl⟩, rfl⟩
    · rintro ⟨j, ⟨c, here, member, rfl⟩, rfl⟩
      exact ⟨c, here, member, rfl⟩
  | look l =>
    apply Realizes.single
    intro k i next
    rw [Job.mem_follows_check]
    constructor
    · rintro ⟨holds, rfl⟩
      exact ⟨i, ⟨holds, rfl⟩, rfl⟩
    · rintro ⟨j, ⟨holds, rfl⟩, rfl⟩
      exact ⟨holds, rfl⟩
  | cat first second ihFirst ihSecond => exact (ihFirst ordered.1).append (ihSecond ordered.2)
  | alt first second ihFirst ihSecond => exact (ihFirst ordered.1).choice (ihSecond ordered.2) true
  | rep body lo hi greedy ih =>
    have inner := ih ordered.1
    rw [code]
    split
    · next only =>
      have fixed : ∀ i j, body.Spans text i j → j = i := Spans.eq_of_onlyEmpty only
      have bounds : ∀ limit, some (min (hi.getD 1) 1) = some limit → min lo 1 ≤ limit := by
        rintro limit same
        cases same
        cases hi with
        | none => exact Nat.min_le_right ..
        | some limit =>
          have order := ordered.2 limit rfl
          rw [Option.getD_some]
          omega
      exact (inner.repetition bounds greedy).congr fun i j => Iterated.once_iff fixed ordered.2
    · exact inner.repetition ordered.2 greedy
  | group index body ih =>
    have mark (slot : Nat) : Realizes text [Inst.mark slot] fun i j => j = i := by
      apply Realizes.single
      intro k i next
      rw [Job.mem_follows_mark]
      exact ⟨fun same => ⟨i, rfl, same⟩, fun ⟨j, same, next⟩ => same ▸ next⟩
    refine ((mark _).append ((ih ordered).append (mark _))).congr fun i j => ⟨?_, fun spanned => ?_⟩
    · rintro ⟨_, rfl, _, spanned, rfl⟩
      exact spanned
    · exact ⟨i, rfl, j, spanned, rfl⟩

/-- The program of a node accepts from a position exactly if a stretch of the node begins there. -/
theorem accepts_program_iff {text : Array Char} {node : Node} (ordered : node.Ordered) {i : Nat} :
    node.program.Accepts text (0, i) ↔ ∃ j, node.Spans text i j := by
  have realizes := realizes text ordered
  have placed : Placed node.program 0 node.code := .of_toArray node.code
  constructor
  · rintro ⟨steps, accepts⟩
    obtain ⟨j, spanned, _⟩ := realizes.sound placed accepts
    exact ⟨j, spanned⟩
  · rintro ⟨j, spanned⟩
    apply realizes.complete placed spanned
    refine ⟨0, .past ?_⟩
    rw [Nat.zero_add, program, List.getElem?_toArray, List.getElem?_eq_none (Nat.le_refl _)]

/-- A match with the program of a node is found at a position exactly if a stretch of the node begins there. -/
theorem matchAt?_isSome_iff {text : Array Char} {node : Node} (ordered : node.Ordered) {pos : Nat}
    (inside : pos ≤ text.size) : (node.program.matchAt? text pos).isSome = true ↔ ∃ j, node.Spans text pos j := by
  rw [Program.matchAt?_isSome_iff _ inside, accepts_program_iff ordered]

/-- A search with the program of a node finds a match exactly if the text has a stretch of the node from
the position on. -/
theorem search?_isSome_iff {text : Array Char} {node : Node} (ordered : node.Ordered) {pos : Nat}
    (inside : pos ≤ text.size) :
    (node.program.search? text pos).isSome = true ↔
      ∃ i j, pos ≤ i ∧ i ≤ text.size ∧ node.Spans text i j := by
  rw [Program.search?_isSome_iff _ inside]
  constructor
  · rintro ⟨i, behind, within, accepts⟩
    obtain ⟨j, spanned⟩ := (accepts_program_iff ordered).mp accepts
    exact ⟨i, j, behind, within, spanned⟩
  · rintro ⟨i, j, behind, within, spanned⟩
    exact ⟨i, behind, within, (accepts_program_iff ordered).mpr ⟨j, spanned⟩⟩

end Node

end PatternComposer.Regex
