import Mathlib
import PatternComposer.Regex.Search
import Std.Data.TreeSet.Lemmas

/-! # What the search of a program finds

The search is followed by `Explores`, which has no bound on its steps. The bound of the program is
never reached, because each place is expanded at most once. A search then accepts exactly if some
path through the program does (`search?_isSome_iff`). That no path is overlooked rests on
`Covered`: whatever follows an explored place has been explored or waits to be.
-/

namespace PatternComposer.Regex

namespace Job

/-- What the search remembers of a job. -/
def place (job : Job) : Nat × Nat := (job.pc, job.pos)

/-- The places that follow a place by one instruction. -/
def follows (text : Array Char) (inst : Inst) (place : Nat × Nat) : List (Nat × Nat) :=
  (next text ⟨place.1, place.2, []⟩ inst).map Job.place

theorem places_next (text : Array Char) (job : Job) (inst : Inst) :
    (job.next text inst).map Job.place = follows text inst job.place := by
  cases inst with
  | take members =>
    simp only [next, follows, place]
    split
    · next c _ => by_cases member : members.contains c = true <;> simp [member, place]
    · rfl
  | check look =>
    simp only [next, follows, place]
    by_cases holds : look.holds text job.pos = true <;> simp [holds, place]
  | mark slot => rfl
  | fork skip eager => cases eager <;> rfl
  | again back eager => cases eager <;> rfl
  | jump skip => rfl

/-- No instruction leaves the text. -/
theorem pos_of_mem_next {text : Array Char} {job after : Job} {inst : Inst}
    (inside : job.pos ≤ text.size) (member : after ∈ job.next text inst) :
    after.pos ≤ text.size := by
  cases inst with
  | take members =>
    simp only [next] at member
    split at member
    · next c here =>
      obtain ⟨bound, _⟩ := Array.getElem?_eq_some_iff.mp here
      split at member
      · obtain rfl := List.mem_singleton.mp member
        exact bound
      · cases member
    · cases member
  | check look =>
    simp only [next] at member
    split at member
    · obtain rfl := List.mem_singleton.mp member
      exact inside
    · cases member
  | mark slot => obtain rfl := List.mem_singleton.mp member; exact inside
  | fork skip eager =>
    cases eager <;> simp only [next, Bool.false_eq_true, ↓reduceIte, List.mem_cons, List.not_mem_nil, or_false]
      at member <;>
      rcases member with rfl | rfl <;> exact inside
  | again back eager =>
    cases eager <;> simp only [next, Bool.false_eq_true, ↓reduceIte, List.mem_cons, List.not_mem_nil, or_false]
      at member <;>
      rcases member with rfl | rfl <;> exact inside
  | jump skip => obtain rfl := List.mem_singleton.mp member; exact inside

theorem length_next_le (text : Array Char) (job : Job) (inst : Inst) :
    (job.next text inst).length ≤ 2 := by
  cases inst with
  | take members =>
    simp only [next]
    split
    · split <;> simp
    · simp
  | check look => simp only [next]; split <;> simp
  | mark slot => simp [next]
  | fork skip eager => cases eager <;> simp [next]
  | again back eager => cases eager <;> simp [next]
  | jump skip => simp [next]

end Job

namespace Program

variable {program : Program} {text : Array Char}

/-- Exploring the jobs in order ends with this acceptance, if any, and with these places explored. -/
inductive Explores (program : Program) (text : Array Char) :
    Visited → List Job → Option Hit → Visited → Prop where
  | done {visited} : Explores program text visited [] none visited
  | seen {visited job jobs hit after} (known : visited.contains (placeKey text job) = true)
      (rest : Explores program text visited jobs hit after) :
      Explores program text visited (job :: jobs) hit after
  | accept {visited job jobs} (fresh : visited.contains (placeKey text job) = false)
      (past : program[job.pc]? = none) :
      Explores program text visited (job :: jobs) (some ⟨job.pos, job.marks⟩) visited
  | expand {visited job jobs inst hit after}
      (fresh : visited.contains (placeKey text job) = false)
      (here : program[job.pc]? = some inst)
      (rest : Explores program text (visited.insert (placeKey text job))
        (job.next text inst ++ jobs) hit after) :
      Explores program text visited (job :: jobs) hit after

/-! ## The bound on the steps -/

/-- The number of places that can still be expanded. -/
def unexplored (program : Program) (text : Array Char) (visited : Visited) : Nat :=
  (List.range (program.size * (text.size + 1))).countP fun key => !visited.contains key

private theorem countP_lt {p q : Nat → Bool} {l : List Nat} {key : Nat} (member : key ∈ l)
    (holds : p key = true) (fails : q key = false) (below : ∀ k, q k = true → p k = true) :
    l.countP q < l.countP p := by
  induction l with
  | nil => cases member
  | cons first rest ih =>
    have le : rest.countP q ≤ rest.countP p := List.countP_mono_left fun k _ => below k
    rcases List.mem_cons.mp member with rfl | member
    · rw [List.countP_cons_of_pos holds, List.countP_cons_of_neg (by simp [fails])]
      omega
    · have lt := ih member
      by_cases here : q first = true
      · rw [List.countP_cons_of_pos here, List.countP_cons_of_pos (below _ here)]
        omega
      · rw [List.countP_cons_of_neg here, List.countP_cons]
        omega

/-- Each expansion leaves fewer places to expand. -/
theorem unexplored_insert_lt {visited : Visited} {job : Job} {inst : Inst}
    (here : program[job.pc]? = some inst) (inside : job.pos ≤ text.size)
    (fresh : visited.contains (placeKey text job) = false) :
    program.unexplored text (visited.insert (placeKey text job)) < program.unexplored text visited := by
  obtain ⟨bound, _⟩ := Array.getElem?_eq_some_iff.mp here
  have row : (job.pc + 1) * (text.size + 1) ≤ program.size * (text.size + 1) :=
    Nat.mul_le_mul_right _ bound
  have member : placeKey text job ∈ List.range (program.size * (text.size + 1)) := by
    rw [List.mem_range, placeKey]
    rw [Nat.succ_mul] at row
    omega
  apply countP_lt member
  · simp [fresh]
  · simp
  · intro key unseen
    simp only [Std.TreeSet.contains_insert, Bool.not_or, Bool.and_eq_true] at unseen
    exact unseen.2

theorem explore_explores {fuel : Nat} {visited : Visited} {jobs : List Job}
    (inside : ∀ job ∈ jobs, job.pos ≤ text.size)
    (enough : 2 * program.unexplored text visited + jobs.length ≤ fuel) :
    Explores program text visited jobs (program.explore text fuel visited jobs).1
      (program.explore text fuel visited jobs).2 := by
  induction fuel generalizing visited jobs with
  | zero =>
    obtain rfl : jobs = [] := List.eq_nil_of_length_eq_zero (by omega)
    exact .done
  | succ fuel ih =>
    cases jobs with
    | nil => exact .done
    | cons job jobs =>
      have here := inside job List.mem_cons_self
      have others : ∀ job ∈ jobs, job.pos ≤ text.size :=
        fun job member => inside job (List.mem_cons_of_mem _ member)
      rw [List.length_cons] at enough
      simp only [explore]
      split
      · next known => exact .seen known (ih others (by omega))
      · next fresh =>
        rw [Bool.not_eq_true] at fresh
        split
        · next past => exact .accept fresh past
        · next inst found =>
          have fewer := unexplored_insert_lt found here fresh
          have few := job.length_next_le text inst
          refine .expand fresh found (ih ?_ ?_)
          · intro after member
            rcases List.mem_append.mp member with member | member
            · exact Job.pos_of_mem_next here member
            · exact others after member
          · rw [List.length_append]
            omega

theorem runAt_explores (program : Program) {visited : Visited} {pos : Nat} (inside : pos ≤ text.size) :
    Explores program text visited [⟨0, pos, []⟩] (program.runAt text visited pos).1
      (program.runAt text visited pos).2 := by
  apply explore_explores
  · intro job member
    obtain rfl := List.mem_singleton.mp member
    exact inside
  · have most : program.unexplored text visited ≤ program.size * (text.size + 1) := by
      refine Nat.le_trans List.countP_le_length (Nat.le_of_eq List.length_range)
    have step : (program.size + 1) * (text.size + 1) = program.size * (text.size + 1) + (text.size + 1) :=
      Nat.succ_mul ..
    rw [fuel, Nat.mul_assoc, step, List.length_singleton]
    omega

/-! ## Paths -/

/-- A path of at most this many instructions leads from a place to acceptance. -/
inductive AcceptsIn (program : Program) (text : Array Char) : Nat → Nat × Nat → Prop where
  | past {steps place} (past : program[place.1]? = none) : AcceptsIn program text steps place
  | step {steps place next inst} (here : program[place.1]? = some inst)
      (follows : next ∈ Job.follows text inst place) (rest : AcceptsIn program text steps next) :
      AcceptsIn program text (steps + 1) place

/-- Some path leads from a place to acceptance. -/
def Accepts (program : Program) (text : Array Char) (place : Nat × Nat) : Prop :=
  ∃ steps, AcceptsIn program text steps place

theorem Accepts.step {place next : Nat × Nat} {inst : Inst} (here : program[place.1]? = some inst)
    (follows : next ∈ Job.follows text inst place) (rest : Accepts program text next) :
    Accepts program text place := by
  obtain ⟨steps, rest⟩ := rest
  exact ⟨steps + 1, .step here follows rest⟩

/-- An acceptance that the search reports lies at the end of a path. -/
theorem Explores.accepts {visited after : Visited} {jobs : List Job} {hit : Option Hit}
    (explores : Explores program text visited jobs hit after) (found : hit.isSome = true) :
    ∃ job ∈ jobs, Accepts program text job.place := by
  induction explores with
  | done => cases found
  | seen _ _ ih =>
    obtain ⟨job, member, accepts⟩ := ih found
    exact ⟨job, List.mem_cons_of_mem _ member, accepts⟩
  | @accept _ job _ _ past => exact ⟨job, List.mem_cons_self, 0, .past past⟩
  | @expand _ job jobs inst _ _ _ here _ ih =>
    obtain ⟨after, member, accepts⟩ := ih found
    rcases List.mem_append.mp member with member | member
    · have follows : after.place ∈ Job.follows text inst job.place := by
        rw [← Job.places_next]
        exact List.mem_map_of_mem member
      exact ⟨job, List.mem_cons_self, accepts.step here follows⟩
    · exact ⟨after, List.mem_cons_of_mem _ member, accepts⟩

/-- A property of jobs that every instruction keeps up is one of the job that is accepted. -/
theorem Explores.keeps {property : Job → Prop} {visited after : Visited} {jobs : List Job} {hit : Option Hit}
    (explores : Explores program text visited jobs hit after) (all : ∀ job ∈ jobs, property job)
    (step : ∀ job inst next, property job → program[job.pc]? = some inst → next ∈ job.next text inst →
      property next) :
    ∀ found, hit = some found → ∃ job, property job ∧ program[job.pc]? = none ∧
      found = ⟨job.pos, job.marks⟩ := by
  induction explores with
  | done => exact fun found same => by cases same
  | seen _ _ ih => exact ih fun job member => all job (List.mem_cons_of_mem _ member)
  | @accept _ job _ _ past =>
    intro found same
    cases same
    exact ⟨job, all job List.mem_cons_self, past, rfl⟩
  | @expand _ job _ inst _ _ _ here _ ih =>
    refine ih fun next member => ?_
    rcases List.mem_append.mp member with member | member
    · exact step job inst next (all job List.mem_cons_self) here member
    · exact all next (List.mem_cons_of_mem _ member)

/-! ## Nothing is overlooked -/

def Known (text : Array Char) (visited : Visited) (place : Nat × Nat) : Prop :=
  visited.contains (place.1 * (text.size + 1) + place.2) = true

/-- Places inside the text have keys of their own. -/
theorem key_inj {width : Nat} {first second : Nat × Nat} (inside : first.2 ≤ width)
    (within : second.2 ≤ width)
    (same : first.1 * (width + 1) + first.2 = second.1 * (width + 1) + second.2) : first = second := by
  have row : first.1 = second.1 := by
    have quotients := congrArg (· / (width + 1)) same
    simp only [Nat.mul_comm _ (width + 1)] at quotients
    rw [Nat.mul_add_div (Nat.succ_pos _), Nat.mul_add_div (Nat.succ_pos _),
      Nat.div_eq_of_lt (Nat.lt_succ_of_le inside), Nat.div_eq_of_lt (Nat.lt_succ_of_le within)] at quotients
    exact quotients
  rw [row] at same
  exact Prod.ext row (Nat.add_left_cancel same)

theorem known_insert_iff {visited : Visited} {job : Job} {place : Nat × Nat}
    (inside : job.pos ≤ text.size) (within : place.2 ≤ text.size) :
    Known text (visited.insert (placeKey text job)) place ↔ job.place = place ∨ Known text visited place := by
  rw [Known, Known, Std.TreeSet.contains_insert, Bool.or_eq_true, beq_iff_eq, Nat.compare_eq_eq]
  constructor
  · rintro (same | known)
    · exact .inl (key_inj inside within same)
    · exact .inr known
  · rintro (rfl | known)
    · exact .inl rfl
    · exact .inr known

/-- Whatever follows an explored place has been explored or is among the places that wait. -/
def Covered (program : Program) (text : Array Char) (visited : Visited)
    (waiting : List (Nat × Nat)) : Prop :=
  ∀ place, place.2 ≤ text.size → Known text visited place →
    ∃ inst, program[place.1]? = some inst ∧
      ∀ next ∈ Job.follows text inst place, Known text visited next ∨ next ∈ waiting

theorem follows_inside {inst : Inst} {place next : Nat × Nat} (inside : place.2 ≤ text.size)
    (follows : next ∈ Job.follows text inst place) : next.2 ≤ text.size := by
  obtain ⟨after, member, rfl⟩ := List.mem_map.mp follows
  exact Job.pos_of_mem_next inside member

/-- An exploration without acceptance adds the places of its jobs and all that follows them. -/
theorem Explores.covered {visited after : Visited} {jobs : List Job} {hit : Option Hit}
    (explores : Explores program text visited jobs hit after) (failed : hit = none)
    (inside : ∀ job ∈ jobs, job.pos ≤ text.size)
    (covered : Covered program text visited (jobs.map Job.place)) :
    Covered program text after [] ∧ (∀ job ∈ jobs, Known text after job.place) ∧
      ∀ place, place.2 ≤ text.size → Known text visited place → Known text after place := by
  induction explores with
  | done => exact ⟨covered, fun _ member => absurd member List.not_mem_nil, fun _ _ known => known⟩
  | @seen visited job jobs _ _ known rest ih =>
    have here : Known text visited job.place := known
    have others : ∀ job ∈ jobs, job.pos ≤ text.size :=
      fun job member => inside job (List.mem_cons_of_mem _ member)
    have pending : Covered program text visited (jobs.map Job.place) := by
      intro place within explored
      obtain ⟨inst, found, next⟩ := covered place within explored
      refine ⟨inst, found, fun after follows => ?_⟩
      rcases next after follows with known | waits
      · exact .inl known
      · rcases List.mem_cons.mp waits with rfl | waits
        · exact .inl here
        · exact .inr waits
    obtain ⟨closed, known, kept⟩ := ih failed others pending
    refine ⟨closed, fun other member => ?_, kept⟩
    rcases List.mem_cons.mp member with rfl | member
    · exact kept _ (inside _ List.mem_cons_self) here
    · exact known other member
  | accept => cases failed
  | @expand visited job jobs inst _ _ fresh found rest ih =>
    have here := inside job List.mem_cons_self
    have within : ∀ after ∈ job.next text inst ++ jobs, after.pos ≤ text.size := by
      intro after member
      rcases List.mem_append.mp member with member | member
      · exact Job.pos_of_mem_next here member
      · exact inside after (List.mem_cons_of_mem _ member)
    have pending : Covered program text (visited.insert (placeKey text job))
        ((job.next text inst ++ jobs).map Job.place) := by
      rw [List.map_append, Job.places_next]
      intro place bound explored
      rcases (known_insert_iff here bound).mp explored with rfl | explored
      · exact ⟨inst, found, fun next follows => .inr (List.mem_append_left _ follows)⟩
      · obtain ⟨other, at_, next⟩ := covered place bound explored
        refine ⟨other, at_, fun after follows => ?_⟩
        have bound := follows_inside bound follows
        rcases next after follows with known | waits
        · exact .inl ((known_insert_iff here bound).mpr (.inr known))
        · rcases List.mem_cons.mp waits with rfl | waits
          · exact .inl ((known_insert_iff here bound).mpr (.inl rfl))
          · exact .inr (List.mem_append_right _ waits)
    obtain ⟨closed, known, kept⟩ := ih failed within pending
    have grows : ∀ place, place.2 ≤ text.size → job.place = place ∨ Known text visited place →
        Known text _ place := fun place bound either => kept place bound ((known_insert_iff here bound).mpr either)
    refine ⟨closed, fun other member => ?_, fun place bound explored => grows place bound (.inr explored)⟩
    rcases List.mem_cons.mp member with rfl | member
    · exact grows _ here (.inl rfl)
    · exact known other (List.mem_append_right _ member)

/-- From explored places without anything that waits no path leads to acceptance. -/
theorem Covered.not_acceptsIn {visited : Visited} (covered : Covered program text visited [])
    {steps : Nat} {place : Nat × Nat} (inside : place.2 ≤ text.size)
    (accepts : AcceptsIn program text steps place) : ¬ Known text visited place := by
  induction accepts with
  | past past =>
    intro known
    obtain ⟨inst, here, _⟩ := covered _ inside known
    rw [past] at here
    cases here
  | step here follows _ ih =>
    intro known
    obtain ⟨inst, found, next⟩ := covered _ inside known
    obtain rfl := Option.some.inj (here.symm.trans found)
    rcases next _ follows with known | waits
    · exact ih (follows_inside inside follows) known
    · cases waits

/-- A run from a position reports an acceptance if a path leads to one, and otherwise leaves
nothing that waits. -/
theorem runAt_cases (program : Program) {visited : Visited} {pos : Nat} (inside : pos ≤ text.size)
    (covered : Covered program text visited []) :
    (∃ hit, (program.runAt text visited pos).1 = some hit ∧ Accepts program text (0, pos)) ∨
      ((program.runAt text visited pos).1 = none ∧ ¬ Accepts program text (0, pos) ∧
        Covered program text (program.runAt text visited pos).2 []) := by
  have explores : Explores program text visited _ _ _ := program.runAt_explores inside
  cases found : (program.runAt text visited pos).1 with
  | some hit =>
    rw [found] at explores
    obtain ⟨job, member, accepts⟩ := explores.accepts rfl
    obtain rfl := List.mem_singleton.mp member
    exact .inl ⟨hit, rfl, accepts⟩
  | none =>
    rw [found] at explores
    have within : ∀ job ∈ [Job.mk 0 pos []], job.pos ≤ text.size := by simpa using inside
    have pending : Covered program text visited ([Job.mk 0 pos []].map Job.place) := by
      intro place bound explored
      obtain ⟨inst, here, next⟩ := covered place bound explored
      exact ⟨inst, here, fun after follows => (next after follows).imp_right fun waits => by cases waits⟩
    obtain ⟨closed, known, _⟩ := explores.covered rfl within pending
    refine .inr ⟨rfl, ?_, closed⟩
    rintro ⟨steps, accepts⟩
    exact closed.not_acceptsIn inside accepts (known _ List.mem_cons_self)

private theorem covered_empty : Covered program text ∅ [] := by
  intro place _ known
  rw [Known, Std.TreeSet.contains_emptyc] at known
  cases known

/-- A match is found at a position exactly if a path from there leads to acceptance. -/
theorem matchAt?_isSome_iff (program : Program) {pos : Nat} (inside : pos ≤ text.size) :
    (program.matchAt? text pos).isSome = true ↔ Accepts program text (0, pos) := by
  rw [matchAt?]
  obtain ⟨hit, found, accepts⟩ | ⟨failed, rejects, _⟩ := program.runAt_cases inside covered_empty
  · rw [found]
    exact iff_of_true rfl accepts
  · rw [failed]
    exact iff_of_false Bool.false_ne_true rejects

private theorem searchFrom_isSome_iff {visited : Visited} {pos count : Nat}
    (inside : pos + count ≤ text.size) (covered : Covered program text visited []) :
    (program.searchFrom text visited pos count).isSome = true ↔
      ∃ start, pos ≤ start ∧ start ≤ pos + count ∧ Accepts program text (0, start) := by
  induction count generalizing visited pos with
  | zero =>
    have here : pos ≤ text.size := inside
    rw [searchFrom, Option.isSome_map]
    obtain ⟨hit, found, accepts⟩ | ⟨failed, rejects, _⟩ := program.runAt_cases here covered
    · rw [found]
      exact ⟨fun _ => ⟨pos, Nat.le_refl _, Nat.le_refl _, accepts⟩, fun _ => rfl⟩
    · rw [failed]
      constructor
      · intro found
        cases found
      · rintro ⟨start, after, before, accepts⟩
        obtain rfl : start = pos := by omega
        exact absurd accepts rejects
  | succ count ih =>
    have here : pos ≤ text.size := by omega
    obtain ⟨hit, found, accepts⟩ | ⟨failed, rejects, closed⟩ := program.runAt_cases here covered
    · have first : program.runAt text visited pos = (some hit, (program.runAt text visited pos).2) :=
        Prod.ext found rfl
      rw [searchFrom, first]
      exact ⟨fun _ => ⟨pos, Nat.le_refl _, by omega, accepts⟩, fun _ => rfl⟩
    · have first : program.runAt text visited pos = (none, (program.runAt text visited pos).2) :=
        Prod.ext failed rfl
      rw [searchFrom, first]
      change (program.searchFrom text (program.runAt text visited pos).2 (pos + 1) count).isSome = true ↔ _
      rw [ih (by omega) closed]
      constructor
      · rintro ⟨start, after, before, accepts⟩
        exact ⟨start, by omega, by omega, accepts⟩
      · rintro ⟨start, after, before, accepts⟩
        have later : start ≠ pos := by
          rintro rfl
          exact rejects accepts
        exact ⟨start, by omega, by omega, accepts⟩

/-- A search finds a match exactly if a path that begins at some later position leads to
acceptance. -/
theorem search?_isSome_iff (program : Program) {pos : Nat} (inside : pos ≤ text.size) :
    (program.search? text pos).isSome = true ↔
      ∃ start, pos ≤ start ∧ start ≤ text.size ∧ Accepts program text (0, start) := by
  rw [search?, searchFrom_isSome_iff (by omega) covered_empty, Nat.add_sub_cancel' inside]

/-- A match that begins where the search does is the one that is found. -/
theorem search?_of_accepts (program : Program) {pos : Nat} (inside : pos ≤ text.size)
    (accepts : Accepts program text (0, pos)) : ∃ hit, program.search? text pos = some (pos, hit) := by
  obtain ⟨hit, found, _⟩ | ⟨_, rejects, _⟩ := program.runAt_cases inside covered_empty
  · refine ⟨hit, ?_⟩
    rw [search?]
    cases text.size - pos with
    | zero => rw [searchFrom, found, Option.map_some]
    | succ count =>
      have first : program.runAt text ∅ pos = (some hit, (program.runAt text ∅ pos).2) := Prod.ext found rfl
      rw [searchFrom, first]
  · exact absurd accepts rejects

end Program
end PatternComposer.Regex
