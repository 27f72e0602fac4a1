import PatternComposer.Proofs.Regex.Exploration

/-! # Where a plain match lies

No instruction goes back in the text or out of it, and slots are written at the position. So what a run
accepts lies between the position where it began and the end of the text, slots included. Code that does not
branch takes the same number of characters in every match (`Program.matchAt?_stop`).
-/

namespace PatternComposer.Regex

/-- Every position that was written into a slot is at least `lo`. -/
def Marks.From (lo : Nat) (marks : Marks) : Prop := ∀ mark ∈ marks, lo ≤ mark.2

theorem Marks.From.span? {lo : Nat} {marks : Marks} (within : marks.From lo) {index start stop : Nat}
    (taken : marks.span? index = some (start, stop)) : lo ≤ start := by
  cases first : marks.get? (2 * index) with
  | none => simp [Marks.span?, first] at taken
  | some begin =>
    cases last : marks.get? (2 * index + 1) with
    | none => simp [Marks.span?, first, last] at taken
    | some finish =>
      obtain ⟨rfl, rfl⟩ : begin = start ∧ finish = stop := by simpa [Marks.span?, first, last] using taken
      obtain ⟨mark, written, rfl⟩ := Option.map_eq_some_iff.mp first
      exact within mark (List.mem_of_find?_eq_some written)

/-- A place of a run that began at `lo`. -/
structure Job.From (lo : Nat) (text : Array Char) (job : Job) : Prop where
  reached : lo ≤ job.pos
  inside : job.pos ≤ text.size
  marks : job.marks.From lo

/-- One instruction keeps a run between its beginning and the end of the text. -/
theorem Job.From.next {lo : Nat} {text : Array Char} {job after : Job} (here : job.From lo text) {inst : Inst}
    (member : after ∈ job.next text inst) : after.From lo text := by
  have inside := Job.pos_of_mem_next here.inside member
  have stays (marks : Marks) (within : marks.From lo) (pos : Nat) (moved : job.pos ≤ pos) (pc : Nat)
      (same : after = ⟨pc, pos, marks⟩) : after.From lo text := by
    subst same
    exact ⟨Nat.le_trans here.reached moved, inside, within⟩
  have here' (pc : Nat) := stays job.marks here.marks job.pos (Nat.le_refl _) pc
  cases inst with
  | take members =>
    simp only [Job.next] at member
    split at member
    · split at member
      · exact stays job.marks here.marks _ (Nat.le_succ _) _ (List.mem_singleton.mp member)
      · cases member
    · cases member
  | check look =>
    simp only [Job.next] at member
    split at member
    · exact here' _ (List.mem_singleton.mp member)
    · cases member
  | mark slot =>
    refine stays _ ?_ job.pos (Nat.le_refl _) _ (List.mem_singleton.mp member)
    exact List.forall_mem_cons.mpr ⟨here.reached, here.marks⟩
  | fork skip eager =>
    cases eager <;> simp only [Job.next, Bool.false_eq_true, ↓reduceIte, List.mem_cons, List.not_mem_nil,
      or_false] at member <;>
      rcases member with same | same <;> exact here' _ same
  | again back eager =>
    cases eager <;> simp only [Job.next, Bool.false_eq_true, ↓reduceIte, List.mem_cons, List.not_mem_nil,
      or_false] at member <;>
      rcases member with same | same <;> exact here' _ same
  | jump skip => exact here' _ (List.mem_singleton.mp member)

/-- An acceptance of a run that began at `lo`. -/
structure Hit.From (lo : Nat) (text : Array Char) (hit : Hit) : Prop where
  reached : lo ≤ hit.stop
  inside : hit.stop ≤ text.size
  marks : hit.marks.From lo

namespace Program

variable {program : Program} {text : Array Char} {lo pos : Nat}

theorem runAt_from (program : Program) {visited : Visited} (inside : pos ≤ text.size) {hit : Hit}
    (found : (program.runAt text visited pos).1 = some hit) : hit.From pos text := by
  have begun : ∀ job ∈ [Job.mk 0 pos []], job.From pos text := by
    intro job member
    obtain rfl := List.mem_singleton.mp member
    exact ⟨Nat.le_refl _, inside, fun mark member => by cases member⟩
  obtain ⟨job, here, _, rfl⟩ := (program.runAt_explores inside).keeps begun
    (fun _ _ _ here _ member => here.next member)
    hit found
  exact ⟨here.reached, here.inside, here.marks⟩

theorem searchFrom_from (program : Program) {visited : Visited} {count start : Nat} {hit : Hit}
    (inside : pos + count ≤ text.size) (found : program.searchFrom text visited pos count = some (start, hit)) :
    pos ≤ start ∧ hit.From start text := by
  induction count generalizing visited pos with
  | zero =>
    obtain ⟨taken, ran, same⟩ := Option.map_eq_some_iff.mp found
    cases same
    exact ⟨Nat.le_refl _, program.runAt_from inside ran⟩
  | succ count ih =>
    rw [searchFrom] at found
    split at found
    · next taken _ ran =>
      cases found
      exact ⟨Nat.le_refl _, program.runAt_from (by omega) (congrArg Prod.fst ran)⟩
    · obtain ⟨later, within⟩ := ih (by omega) found
      exact ⟨by omega, within⟩

/-- A match begins where the search did or later, and does not end before it begins. -/
theorem search?_from (program : Program) (inside : pos ≤ text.size) {start : Nat} {hit : Hit}
    (found : program.search? text pos = some (start, hit)) : pos ≤ start ∧ hit.From start text :=
  program.searchFrom_from (by omega) found

end Program

/-! ## Code that does not branch -/

namespace Inst

/-- The next instruction follows, whatever the instruction does. -/
def isStraight : Inst → Bool
  | .take _ => true
  | .check _ => true
  | .mark _ => true
  | _ => false

/-- The number of characters that an instruction takes. -/
def width : Inst → Nat
  | .take _ => 1
  | _ => 0

end Inst

theorem Job.next_of_straight {text : Array Char} {job after : Job} {inst : Inst} (straight : inst.isStraight = true)
    (member : after ∈ job.next text inst) : after.pc = job.pc + 1 ∧ after.pos = job.pos + inst.width := by
  cases inst with
  | take members =>
    simp only [Job.next] at member
    split at member
    · split at member
      · obtain rfl := List.mem_singleton.mp member
        exact ⟨rfl, rfl⟩
      · cases member
    · cases member
  | check look =>
    simp only [Job.next] at member
    split at member
    · obtain rfl := List.mem_singleton.mp member
      exact ⟨rfl, rfl⟩
    · cases member
  | mark slot =>
    obtain rfl := List.mem_singleton.mp member
    exact ⟨rfl, rfl⟩
  | fork skip eager => cases straight
  | again back eager => cases straight
  | jump skip => cases straight

/-- The number of characters that code takes if it does not branch. -/
def codeWidth (code : List Inst) : Nat := (code.map Inst.width).sum

/-- A match of code that does not branch ends behind as many characters as the code takes. -/
theorem Program.matchAt?_stop {code : List Inst} (straight : ∀ inst ∈ code, inst.isStraight = true)
    {text : Array Char} {pos : Nat} (inside : pos ≤ text.size) {hit : Hit}
    (found : Program.matchAt? code.toArray text pos = some hit) : hit.stop = pos + codeWidth code := by
  -- what the rest of the code takes is always missing up to the end of the match
  let onTheWay (job : Job) : Prop := job.pos + codeWidth (code.drop job.pc) = pos + codeWidth code
  have begun : ∀ job ∈ [Job.mk 0 pos []], onTheWay job := by
    intro job member
    obtain rfl := List.mem_singleton.mp member
    rfl
  have step : ∀ job inst next, onTheWay job → code.toArray[job.pc]? = some inst → next ∈ job.next text inst →
      onTheWay next := by
    intro job inst next here placed member
    rw [List.getElem?_toArray] at placed
    obtain ⟨bound, same⟩ := List.getElem?_eq_some_iff.mp placed
    obtain ⟨pc, moved⟩ := Job.next_of_straight (straight inst (same ▸ List.getElem_mem bound)) member
    change job.pos + codeWidth (code.drop job.pc) = _ at here
    rw [List.drop_eq_getElem_cons bound, same, codeWidth, List.map_cons, List.sum_cons] at here
    change next.pos + codeWidth (code.drop next.pc) = _
    rw [pc, moved, Nat.add_assoc]
    exact here
  obtain ⟨job, here, past, rfl⟩ := (runAt_explores code.toArray inside).keeps begun step hit found
  rw [List.getElem?_toArray, List.getElem?_eq_none_iff] at past
  change job.pos + codeWidth (code.drop job.pc) = _ at here
  rwa [List.drop_eq_nil_of_le past] at here
end PatternComposer.Regex
