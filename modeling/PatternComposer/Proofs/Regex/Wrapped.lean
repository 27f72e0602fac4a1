import PatternComposer.Proofs.Regex.Later
import PatternComposer.Proofs.Regex.Spans
import PatternComposer.Regex.Matcher

/-! # Searching inside a group

Code in a new first group is searched as it was, one instruction later: the places that both
searches know correspond (`Shadows`), so they fail together, or accept together with the same
marks and the two of the new group. No jump of a node's code leaves the code (`Node.closed_code`),
which is why the new marks are never skipped.
-/

namespace PatternComposer.Regex

/-! ## Jumps stay inside -/

/-- From the given index the instruction does not lead out of code of this length. -/
def Inst.Within (index length : Nat) : Inst → Prop
  | .fork skip _ => index + 1 + skip ≤ length
  | .jump skip => index + 1 + skip ≤ length
  | .again back _ => back ≤ index
  | _ => True

theorem Inst.Within.shift {index length : Nat} {inst : Inst} (within : inst.Within index length)
    (before after : Nat) : inst.Within (before + index) (before + length + after) := by
  cases inst with
  | fork skip eager => change _ ≤ _ at within; change _ ≤ _; omega
  | jump skip => change _ ≤ _ at within; change _ ≤ _; omega
  | again back eager => change _ ≤ _ at within; change _ ≤ _; omega
  | _ => trivial

/-- No jump leaves the code. -/
def Closed (code : List Inst) : Prop :=
  ∀ (index : Nat) (inst : Inst), code[index]? = some inst → inst.Within index code.length

namespace Closed

variable {first second code : List Inst}

theorem nil : Closed [] := fun _ _ here => by cases here

theorem append (left : Closed first) (right : Closed second) : Closed (first ++ second) := by
  intro index inst here
  rw [List.length_append]
  by_cases inside : index < first.length
  · rw [List.getElem?_append_left inside] at here
    simpa using (left index inst here).shift 0 second.length
  · rw [List.getElem?_append_right (Nat.le_of_not_lt inside)] at here
    have within := (right _ inst here).shift first.length 0
    rwa [Nat.add_sub_cancel' (Nat.le_of_not_lt inside)] at within

theorem cons {inst : Inst} (within : inst.Within 0 (code.length + 1)) (rest : Closed code) :
    Closed (inst :: code) := by
  intro index other here
  cases index with
  | zero =>
    obtain rfl := Option.some.inj here
    exact within
  | succ index =>
    have inside := (rest index other here).shift 1 0
    rwa [Nat.add_comm, Nat.add_comm 1 code.length] at inside

theorem copies (closed : Closed code) (times : Nat) : Closed (Program.copies times code) := by
  induction times with
  | zero => exact nil
  | succ times ih =>
    rw [Program.copies, List.replicate_succ, List.flatten_cons]
    exact closed.append ih

theorem options (closed : Closed code) (eager : Bool) (times : Nat) :
    Closed (Program.options eager code times) := by
  induction times with
  | zero => exact nil
  | succ times ih =>
    refine cons ?_ (closed.append ih)
    change _ ≤ _
    rw [List.length_append, Realizes.length_options, Nat.succ_mul]
    omega

theorem repeated (closed : Closed code) (eager : Bool) : Closed (Program.repeated eager code) := by
  intro index inst here
  rw [Program.repeated] at here ⊢
  by_cases inside : index < code.length
  · rw [List.getElem?_append_left inside] at here
    rw [List.length_append]
    simpa using (closed index inst here).shift 0 1
  · rw [List.getElem?_append_right (Nat.le_of_not_lt inside)] at here
    rw [List.getElem?_singleton] at here
    split at here
    · obtain rfl := Option.some.inj here
      exact Nat.le_of_not_lt inside
    · cases here

theorem repetition (closed : Closed code) (lo : Nat) (hi : Option Nat) (eager : Bool) :
    Closed (Program.repetition lo hi eager code) := by
  cases hi with
  | some limit => exact (closed.copies lo).append (closed.options eager _)
  | none =>
    cases lo with
    | zero =>
      refine cons ?_ (closed.repeated eager)
      change _ ≤ _
      rw [Program.repeated, List.length_append, List.length_singleton]
      omega
    | succ lo => exact (closed.copies lo).append (closed.repeated eager)

end Closed

theorem Node.closed_code (node : Node) : Closed node.code := by
  induction node with
  | empty => exact .nil
  | set members => exact .cons trivial .nil
  | look l => exact .cons trivial .nil
  | cat first second ihFirst ihSecond => exact ihFirst.append ihSecond
  | alt first second ihFirst ihSecond =>
    refine .cons ?_ (ihFirst.append (.cons ?_ ihSecond))
    · change _ ≤ _
      rw [List.length_append, List.length_cons]
      omega
    · change _ ≤ _
      omega
  | rep body lo hi greedy ih =>
    rw [code]
    split <;> exact ih.repetition _ _ _
  | group index body ih => exact .cons trivial (ih.append (.cons trivial .nil))

/-! ## The search in the group -/

/-- The code in a group with number 1. -/
def Program.wrapped (code : List Inst) : Program :=
  (.mark 2 :: (code.map Inst.later ++ [.mark 3])).toArray

/-- A job in the group that was opened at `start`. -/
def Job.wrap (start : Nat) (job : Job) : Job := ⟨job.pc + 1, job.pos, job.marks.later ++ [(2, start)]⟩

/-- An acceptance behind the group that was opened at `start`. -/
def Hit.wrap (start : Nat) (hit : Hit) : Hit :=
  ⟨hit.stop, (3, hit.stop) :: (hit.marks.later ++ [(2, start)])⟩

theorem Job.next_wrap {length : Nat} (text : Array Char) (start : Nat) {job : Job} {inst : Inst}
    (within : inst.Within job.pc length) :
    (job.wrap start).next text inst.later = (job.next text inst).map (Job.wrap start) := by
  cases inst with
  | take members =>
    simp only [Job.next, Inst.later, Job.wrap]
    cases text[job.pos]? with
    | none => rfl
    | some c => by_cases member : members.contains c = true <;> simp [member, Job.wrap]
  | check look =>
    simp only [Job.next, Inst.later, Job.wrap]
    by_cases holds : look.holds text job.pos = true <;> simp [holds, Job.wrap]
  | mark slot => rfl
  | fork skip eager =>
    have target : job.pc + 1 + 1 + skip = job.pc + 1 + skip + 1 := by omega
    cases eager <;> simp [Job.next, Inst.later, Job.wrap, target]
  | again back eager =>
    have bound : back ≤ job.pc := within
    have target : job.pc + 1 - back = job.pc - back + 1 := by omega
    cases eager <;> simp [Job.next, Inst.later, Job.wrap, target]
  | jump skip =>
    have target : job.pc + 1 + 1 + skip = job.pc + 1 + skip + 1 := by omega
    simp [Job.next, Inst.later, Job.wrap, target]

/-- No job runs past the end of closed code. -/
theorem Job.pc_of_mem_next {text : Array Char} {job after : Job} {inst : Inst} {length : Nat}
    (within : inst.Within job.pc length) (inside : job.pc < length) (member : after ∈ job.next text inst) :
    after.pc ≤ length := by
  cases inst with
  | take members =>
    simp only [next] at member
    split at member
    · split at member
      · obtain rfl := List.mem_singleton.mp member
        exact inside
      · cases member
    · cases member
  | check look =>
    simp only [next] at member
    split at member
    · obtain rfl := List.mem_singleton.mp member
      exact inside
    · cases member
  | mark slot => obtain rfl := List.mem_singleton.mp member; exact inside
  | fork skip eager =>
    have bound : job.pc + 1 + skip ≤ length := within
    cases eager <;> simp only [next, Bool.false_eq_true, ↓reduceIte, List.mem_cons, List.not_mem_nil,
      or_false] at member <;> rcases member with rfl | rfl <;> first | exact inside | exact bound
  | again back eager =>
    have below : job.pc - back ≤ length := by omega
    cases eager <;> simp only [next, Bool.false_eq_true, ↓reduceIte, List.mem_cons, List.not_mem_nil,
      or_false] at member <;> rcases member with rfl | rfl <;> first | exact inside | exact below
  | jump skip => obtain rfl := List.mem_singleton.mp member; exact within

namespace Program

variable {code : List Inst} {text : Array Char}

theorem wrapped_open (code : List Inst) : (wrapped code)[0]? = some (.mark 2) := by simp [wrapped]

theorem wrapped_inner {pc : Nat} {inst : Inst} (here : code.toArray[pc]? = some inst) :
    (wrapped code)[pc + 1]? = some inst.later := by
  have inside : pc < code.length := by
    obtain ⟨inside, _⟩ := Array.getElem?_eq_some_iff.mp here
    simpa using inside
  rw [List.getElem?_toArray] at here
  rw [wrapped, List.getElem?_toArray, List.getElem?_cons_succ,
    List.getElem?_append_left (by simpa using inside), List.getElem?_map, here]
  rfl

theorem wrapped_close (code : List Inst) : (wrapped code)[code.length + 1]? = some (.mark 3) := by
  simp [wrapped]

theorem wrapped_past (code : List Inst) : (wrapped code)[code.length + 2]? = none := by
  simp [wrapped]

/-- What both searches know: the places inside the group correspond, and the group was opened only
at positions before `upTo`. -/
structure Shadows (text : Array Char) (length upTo : Nat) (visited wrapping : Visited) : Prop where
  inner : ∀ pc pos, pos ≤ text.size →
    (Known text wrapping (pc + 1, pos) ↔ Known text visited (pc, pos))
  bounded : ∀ pc pos, pos ≤ text.size → Known text visited (pc, pos) → pc < length
  opened : ∀ pos, pos ≤ text.size → Known text wrapping (0, pos) → pos < upTo

namespace Shadows

variable {length upTo : Nat} {visited wrapping : Visited}

theorem empty (text : Array Char) (length upTo : Nat) : Shadows text length upTo ∅ ∅ := by
  have nothing (place : Nat × Nat) : ¬ Known text ∅ place := by
    rw [Known, Std.TreeSet.contains_emptyc]
    exact Bool.false_ne_true
  exact ⟨fun _ _ _ => ⟨fun known => absurd known (nothing _), fun known => absurd known (nothing _)⟩,
    fun _ _ _ known => absurd known (nothing _), fun _ _ known => absurd known (nothing _)⟩

/-- Both searches expand a place of the code. -/
theorem insert (shadows : Shadows text length upTo visited wrapping) {job : Job} (start : Nat)
    (inside : job.pos ≤ text.size) (below : job.pc < length) :
    Shadows text length upTo (visited.insert (placeKey text job))
      (wrapping.insert (placeKey text (job.wrap start))) where
  inner pc pos within := by
    rw [@known_insert_iff text wrapping (job.wrap start) (pc + 1, pos) inside within,
      known_insert_iff inside within, shadows.inner pc pos within]
    simp [Job.place, Job.wrap]
  bounded pc pos within known := by
    rcases (known_insert_iff inside within).mp known with same | known
    · obtain ⟨rfl, _⟩ := Prod.mk.inj same
      exact below
    · exact shadows.bounded pc pos within known
  opened pos within known := by
    rcases (@known_insert_iff text wrapping (job.wrap start) (0, pos) inside within).mp known with same | known
    · cases (Prod.mk.inj same).1
    · exact shadows.opened pos within known

/-- The group is opened. -/
theorem enter (shadows : Shadows text length upTo visited wrapping) (inside : upTo ≤ text.size) :
    Shadows text length (upTo + 1) visited (wrapping.insert (placeKey text ⟨0, upTo, []⟩)) where
  inner pc pos within := by
    rw [@known_insert_iff text wrapping ⟨0, upTo, []⟩ (pc + 1, pos) inside within,
      shadows.inner pc pos within]
    simp [Job.place]
  bounded := shadows.bounded
  opened pos within known := by
    rcases (@known_insert_iff text wrapping ⟨0, upTo, []⟩ (0, pos) inside within).mp known with same | known
    · obtain ⟨_, rfl⟩ := Prod.mk.inj same
      exact Nat.lt_succ_self _
    · exact Nat.lt_succ_of_lt (shadows.opened pos within known)

end Shadows

/-- An exploration ends in one way only. -/
theorem Explores.unique {program : Program} {visited after after' : Visited} {jobs : List Job}
    {hit hit' : Option Hit} (first : Explores program text visited jobs hit after)
    (second : Explores program text visited jobs hit' after') : hit = hit' ∧ after = after' := by
  induction first with
  | done => cases second; exact ⟨rfl, rfl⟩
  | seen known _ ih =>
    cases second with
    | seen _ rest => exact ih rest
    | accept fresh _ => simp [known] at fresh
    | expand fresh _ _ => simp [known] at fresh
  | accept fresh past =>
    cases second with
    | seen known _ => simp [fresh] at known
    | accept _ _ => exact ⟨rfl, rfl⟩
    | expand _ here _ => simp [past] at here
  | expand fresh here _ ih =>
    cases second with
    | seen known _ => simp [fresh] at known
    | accept _ past => simp [here] at past
    | expand _ found rest =>
      obtain rfl := Option.some.inj (here.symm.trans found)
      exact ih rest

/-- Inside the group the search goes on as it did without it. -/
theorem Explores.wrap (closed : Closed code) {upTo : Nat} (start : Nat) {visited after wrapping : Visited}
    {jobs : List Job} {hit : Option Hit} (explores : Explores code.toArray text visited jobs hit after)
    (inside : ∀ job ∈ jobs, job.pos ≤ text.size ∧ job.pc ≤ code.length)
    (shadows : Shadows text code.length upTo visited wrapping) :
    ∃ left, Explores (wrapped code) text wrapping (jobs.map (Job.wrap start))
        (hit.map (Hit.wrap start)) left ∧
      (hit = none → Shadows text code.length upTo after left) := by
  induction explores generalizing wrapping with
  | done => exact ⟨wrapping, .done, fun _ => shadows⟩
  | @seen _ job jobs _ _ known rest ih =>
    obtain ⟨here, _⟩ := inside job List.mem_cons_self
    have others : ∀ job ∈ jobs, job.pos ≤ text.size ∧ job.pc ≤ code.length :=
      fun other member => inside other (List.mem_cons_of_mem _ member)
    obtain ⟨left, explores, after⟩ := ih others shadows
    exact ⟨left, .seen ((shadows.inner job.pc job.pos here).mpr known) explores, after⟩
  | @accept visited job jobs fresh past =>
    obtain ⟨here, below⟩ := inside job List.mem_cons_self
    have last : job.pc = code.length := by
      have beyond : code.length ≤ job.pc := by simpa using past
      omega
    have unknown : wrapping.contains (placeKey text (job.wrap start)) = false := by
      rw [← Bool.not_eq_true]
      intro known
      have lt := shadows.bounded job.pc job.pos here ((shadows.inner _ _ here).mp known)
      omega
    have beyond : (wrapping.insert (placeKey text (job.wrap start))).contains
        (placeKey text ⟨job.pc + 2, job.pos, []⟩) = false := by
      rw [← Bool.not_eq_true]
      intro known
      have either := (@known_insert_iff text wrapping (job.wrap start) (job.pc + 2, job.pos) here here).mp known
      rcases either with same | known
      · have step : job.pc + 1 = job.pc + 2 := (Prod.mk.inj same).1
        omega
      · have lt := shadows.bounded (job.pc + 1) job.pos here ((shadows.inner _ _ here).mp known)
        omega
    have closing : (wrapped code)[(job.wrap start).pc]? = some (.mark 3) := by
      change (wrapped code)[job.pc + 1]? = _
      rw [last]
      exact wrapped_close code
    have ending : (wrapped code)[job.pc + 2]? = none := by
      rw [last]
      exact wrapped_past code
    exact ⟨_, .expand unknown closing (.accept beyond ending), fun failed => by cases failed⟩
  | @expand visited job jobs inst _ _ fresh here rest ih =>
    obtain ⟨within, _⟩ := inside job List.mem_cons_self
    have below : job.pc < code.length := by
      obtain ⟨below, _⟩ := Array.getElem?_eq_some_iff.mp here
      simpa using below
    have stays : inst.Within job.pc code.length := closed job.pc inst (by simpa using here)
    have unknown : wrapping.contains (placeKey text (job.wrap start)) = false := by
      rw [← Bool.not_eq_true]
      intro known
      have seen := (shadows.inner job.pc job.pos within).mp known
      rw [Known] at seen
      rw [placeKey, seen] at fresh
      cases fresh
    have next : ∀ after ∈ job.next text inst ++ jobs, after.pos ≤ text.size ∧ after.pc ≤ code.length := by
      intro after member
      rcases List.mem_append.mp member with member | member
      · exact ⟨Job.pos_of_mem_next within member, Job.pc_of_mem_next stays below member⟩
      · exact inside after (List.mem_cons_of_mem _ member)
    obtain ⟨left, explores, after⟩ := ih next (shadows.insert start within below)
    rw [List.map_append, ← Job.next_wrap text start stays] at explores
    exact ⟨left, .expand unknown (wrapped_inner here) explores, after⟩

/-- A run in the group ends as the run without it does. -/
theorem runAt_wrapped (closed : Closed code) {pos : Nat} {visited wrapping : Visited}
    (inside : pos ≤ text.size) (shadows : Shadows text code.length pos visited wrapping) :
    ((wrapped code).runAt text wrapping pos).1 =
        (runAt code.toArray text visited pos).1.map (Hit.wrap pos) ∧
      ((runAt code.toArray text visited pos).1 = none →
        Shadows text code.length (pos + 1) (runAt code.toArray text visited pos).2
          ((wrapped code).runAt text wrapping pos).2) := by
  have entered := shadows.enter inside
  obtain ⟨left, explores, after⟩ := (runAt_explores code.toArray inside).wrap closed pos
    (by simpa using inside) entered
  have unopened : wrapping.contains (placeKey text ⟨0, pos, []⟩) = false := by
    rw [← Bool.not_eq_true]
    intro known
    exact Nat.lt_irrefl pos (shadows.opened pos inside known)
  have whole : Explores (wrapped code) text wrapping [⟨0, pos, []⟩] _ left :=
    .expand unopened (wrapped_open code) explores
  obtain ⟨same, rfl⟩ := (runAt_explores (wrapped code) inside).unique whole
  exact ⟨same, after⟩

theorem searchFrom_wrapped (closed : Closed code) {pos count : Nat} {visited wrapping : Visited}
    (inside : pos + count ≤ text.size) (shadows : Shadows text code.length pos visited wrapping) :
    (wrapped code).searchFrom text wrapping pos count =
      (searchFrom code.toArray text visited pos count).map fun found => (found.1, found.2.wrap found.1) := by
  induction count generalizing pos visited wrapping with
  | zero =>
    have here : pos ≤ text.size := inside
    obtain ⟨same, _⟩ := runAt_wrapped closed here shadows
    rw [searchFrom, searchFrom, same]
    cases (runAt code.toArray text visited pos).1 <;> rfl
  | succ count ih =>
    obtain ⟨same, after⟩ := runAt_wrapped closed (by omega) shadows
    rw [searchFrom, searchFrom]
    rcases ran : runAt code.toArray text visited pos with ⟨hit, left⟩
    rcases wrapping_ran : (wrapped code).runAt text wrapping pos with ⟨hit', left'⟩
    rw [ran, wrapping_ran] at same after
    obtain rfl : hit' = hit.map (Hit.wrap pos) := same
    cases hit with
    | some hit => rfl
    | none => exact ih (by omega) (after rfl)

theorem search?_wrapped (closed : Closed code) {pos : Nat} (inside : pos ≤ text.size) :
    (wrapped code).search? text pos =
      (search? code.toArray text pos).map fun found => (found.1, found.2.wrap found.1) :=
  searchFrom_wrapped closed (by omega) (.empty text code.length pos)

end Program

/-! ## What the groups took -/

theorem Marks.get?_append (marks rest : Marks) (slot : Nat) :
    (marks ++ rest).get? slot = (marks.get? slot).or (rest.get? slot) := by
  rw [get?, get?, get?, List.find?_append]
  cases marks.find? fun mark => mark.1 == slot <;> rfl

namespace Hit

/-- The new group took the whole match. -/
theorem span?_wrap_first (start : Nat) (hit : Hit) :
    (hit.wrap start).marks.span? 1 = some (start, hit.stop) := by
  have free : hit.marks.later.get? 2 = none := Marks.get?_later_free _ fun other => (laterSlot_ne other).1
  have first : (hit.wrap start).marks.get? 2 = some start := by
    rw [wrap, Marks.get?_cons, Marks.get?_append, free]
    rfl
  have last : (hit.wrap start).marks.get? 3 = some hit.stop := by
    rw [wrap, Marks.get?_cons]
    rfl
  rw [Marks.span?, first, last]

/-- Every other group took what it took before. -/
theorem span?_wrap_later (start : Nat) (hit : Hit) (index : Nat) :
    (hit.wrap start).marks.span? (laterGroup index) = hit.marks.span? index := by
  have same (slot : Nat) : (hit.wrap start).marks.get? (laterSlot slot) = hit.marks.get? slot := by
    obtain ⟨before, behind⟩ := laterSlot_ne slot
    rw [wrap, Marks.get?_cons, if_neg (Ne.symm behind), Marks.get?_append, Marks.get?_later, Marks.get?_cons,
      if_neg (Ne.symm before)]
    exact Option.or_none
  rw [Marks.span?, Marks.span?, ← laterSlot_stop, ← laterSlot_start, same, same]

end Hit

namespace Matcher

/-- One group more in front of the others. -/
theorem spans_succ {count : Nat} {wrapped span? : Nat → Option (Nat × Nat)} {first : Nat × Nat}
    (opening : wrapped 1 = some first)
    (others : ∀ index, wrapped (laterGroup (index + 1)) = span? (index + 1)) :
    spans (count + 1) wrapped = first :: spans count span? := by
  rw [spans, spans, List.range_succ_eq_map, List.filterMap_cons, opening, List.filterMap_map]
  have same : (fun index => wrapped (index + 1)) ∘ Nat.succ = fun index => span? (index + 1) :=
    funext others
  rw [same]

/-- In a new first group a plain search finds the same stretches, and the group takes the whole
match. -/
theorem findPlain?_wrapped {code : List Inst} (closed : Closed code) (groups : Nat)
    {text : Array Char} {pos : Nat} (inside : pos ≤ text.size) :
    findPlain? (Program.wrapped code) (groups + 1) text pos =
      (findPlain? code.toArray groups text pos).map fun span =>
        { span with groups := (span.start, span.stop) :: span.groups } := by
  rw [findPlain?, findPlain?, Program.search?_wrapped closed inside, Option.map_map, Option.map_map]
  congr 1
  funext ⟨start, hit⟩
  have taken : spans (groups + 1) (hit.wrap start).marks.span? =
      (start, hit.stop) :: spans groups hit.marks.span? :=
    spans_succ (hit.span?_wrap_first start) fun index => hit.span?_wrap_later start (index + 1)
  exact congrArg (Span.mk start hit.stop) taken

end Matcher

end PatternComposer.Regex
