import PatternComposer.Proofs.Regex.Ends
import PatternComposer.Proofs.Regex.Extended.Steady
import PatternComposer.Proofs.Regex.Wrapped
import PatternComposer.Regex.Matcher

/-! # Runs with later group numbers

A plan with later group numbers runs like the plan itself, slot for slot, and at the same price. It
leaves the slots of the new first group alone. Nothing but `\K` moves the start of a match once it
is set, as long as no group takes the number of the whole match.
-/

namespace PatternComposer.Regex.Extended

/-! ## Slots -/

namespace Slots

theorem get?_cons (mark : Nat × Nat) (rest : Slots) (slot : Nat) :
    get? (mark :: rest) slot = if slot = mark.1 then some mark.2 else rest.get? slot := by
  rw [get?, List.lookup_cons]
  by_cases here : slot = mark.1
  · simp [here]
  · have other : (slot == mark.1) = false := beq_eq_false_iff_ne.mpr here
    simp only [here, other, ↓reduceIte, get?]

theorem get?_clear (slots : Slots) (slot other : Nat) :
    (slots.clear slot).get? other = if other = slot then none else slots.get? other := by
  induction slots with
  | nil => simp [get?, clear]
  | cons first rest ih =>
    rw [clear] at ih ⊢
    by_cases dropped : first.1 = slot
    · rw [List.filter_cons_of_neg (by simpa using dropped), ih, get?_cons, dropped]
      split <;> rfl
    · rw [List.filter_cons_of_pos (by simpa using dropped), get?_cons, get?_cons, ih]
      by_cases here : other = first.1
      · rw [if_pos here, if_neg (here ▸ dropped), if_pos here]
      · rw [if_neg here, if_neg here]

theorem get?_set (slots : Slots) (slot pos other : Nat) :
    (slots.set slot pos).get? other = if other = slot then some pos else slots.get? other := by
  rw [set, get?_cons, get?_clear]
  split <;> rfl

/-- Every slot has the same position, where groups have later numbers. -/
def Later (slots slots' : Slots) : Prop := ∀ slot, slots'.get? (laterSlot slot) = slots.get? slot

variable {slots slots' : Slots}

theorem Later.set (later : Later slots slots') (slot pos : Nat) :
    Later (slots.set slot pos) (slots'.set (laterSlot slot) pos) := by
  intro other
  rw [get?_set, get?_set, later other]
  simp only [laterSlot_inj]

theorem Later.clear (later : Later slots slots') (slot : Nat) :
    Later (slots.clear slot) (slots'.clear (laterSlot slot)) := by
  intro other
  rw [get?_clear, get?_clear, later other]
  simp only [laterSlot_inj]

/-- What a plain search sets for one group. -/
def setGroup (slots : Slots) (marks : Marks) (index : Nat) : Slots :=
  match marks.span? index with
  | some (start, stop) => (slots.set (2 * index) start).set (2 * index + 1) stop
  | none => (slots.clear (2 * index)).clear (2 * index + 1)

theorem setGroups_cons (slots : Slots) (marks : Marks) (index : Nat) (groups : List Nat) :
    slots.setGroups marks (index :: groups) = (slots.setGroup marks index).setGroups marks groups := rfl

/-- The slots of other groups stay as they are. -/
theorem get?_setGroup (slots : Slots) (marks : Marks) {index slot : Nat} (other : slot / 2 ≠ index) :
    (slots.setGroup marks index).get? slot = slots.get? slot := by
  have start : slot ≠ 2 * index := by omega
  have stop : slot ≠ 2 * index + 1 := by omega
  rw [setGroup]
  split
  · rw [get?_set, get?_set, if_neg stop, if_neg start]
  · rw [get?_clear, get?_clear, if_neg stop, if_neg start]

theorem get?_setGroups (slots : Slots) (marks : Marks) {groups : List Nat} {slot : Nat} (other : slot / 2 ∉ groups) :
    (slots.setGroups marks groups).get? slot = slots.get? slot := by
  induction groups generalizing slots with
  | nil => rfl
  | cons index groups ih =>
    obtain ⟨first, rest⟩ := not_or.mp fun member => other (List.mem_cons.mpr member)
    rw [setGroups_cons, ih _ rest, get?_setGroup slots marks first]

theorem Later.setGroup (later : Later slots slots') (marks : Marks) (index : Nat) :
    Later (slots.setGroup marks index) (slots'.setGroup marks.later (laterGroup index)) := by
  rw [Slots.setGroup, Slots.setGroup, Marks.span?_later]
  cases marks.span? index with
  | some span =>
    have both := (later.set (2 * index) span.1).set (2 * index + 1) span.2
    rwa [laterSlot_start, laterSlot_stop] at both
  | none =>
    have both := (later.clear (2 * index)).clear (2 * index + 1)
    rwa [laterSlot_start, laterSlot_stop] at both

theorem Later.setGroups (later : Later slots slots') (marks : Marks) (groups : List Nat) :
    Later (slots.setGroups marks groups) (slots'.setGroups marks.later (groups.map laterGroup)) := by
  induction groups generalizing slots slots' with
  | nil => exact later
  | cons index groups ih => exact ih (later.setGroup marks index)

end Slots

/-! ## States -/

/-- States at the same position, the second one inside the new first group. The start of the match is
known as long as it is `fixed`. -/
structure State.Later (start : Nat) (fixed : Prop) (s s' : State) : Prop where
  pos : s'.pos = s.pos
  slots : s.slots.Later s'.slots
  inner : s'.slots.get? 2 = some start
  whole : fixed → s.slots.get? 0 = some start

/-- Both runs give up, or both fail, or both end in related states, with the same budget left. -/
inductive Outcome.Related (related : State → State → Prop) : Outcome → Outcome → Prop where
  | exhausted : Related related .exhausted .exhausted
  | failed (budget : Nat) : Related related (.failed budget) (.failed budget)
  | found {s s'} (same : related s s') (budget : Nat) : Related related (.found s budget) (.found s' budget)

/-- Continuations that end alike from related states. -/
def Next.Related (first last : State → State → Prop) (next next' : Next) : Prop :=
  ∀ s s' budget, first s s' → Outcome.Related last (next s budget) (next' s' budget)

theorem Outcome.Related.orElse {related : State → State → Prop} {outcome outcome' : Outcome}
    (first : Related related outcome outcome') {second second' : Nat → Outcome}
    (others : ∀ budget, Related related (second budget) (second' budget)) :
    Related related (outcome.orElse second) (outcome'.orElse second') := by
  cases first with
  | exhausted => exact .exhausted
  | failed budget =>
    cases budget with
    | zero => exact .exhausted
    | succ budget => exact others budget
  | found same budget => exact .found same budget

namespace State.Later

variable {start : Nat} {fixed : Prop} {s s' : State}

theorem move (later : Later start fixed s s') (pos : Nat) :
    Later start fixed { s with pos := pos } { s' with pos := pos } :=
  ⟨rfl, later.slots, later.inner, later.whole⟩

/-- Noting the position for a slot that the second state has too. The start of the match may change. -/
theorem mark (later : Later start fixed s s') (slot : Nat) (group : fixed → slot ≠ 0) :
    Later start fixed { s with slots := s.slots.set slot s.pos }
      { s' with slots := s'.slots.set (laterSlot slot) s'.pos } where
  pos := later.pos
  slots := by
    rw [later.pos]
    exact later.slots.set slot s.pos
  inner := by
    rw [Slots.get?_set, if_neg (laterSlot_ne slot).1.symm]
    exact later.inner
  whole given := by
    rw [Slots.get?_set, if_neg (group given).symm]
    exact later.whole given

theorem setGroups (later : Later start fixed s s') (marks : Marks) {groups : List Nat}
    (group : fixed → groups.contains 0 = false) (pos : Nat) :
    Later start fixed ⟨pos, s.slots.setGroups marks groups⟩
      ⟨pos, s'.slots.setGroups marks.later (groups.map laterGroup)⟩ where
  pos := rfl
  slots := later.slots.setGroups marks groups
  inner := by
    rw [Slots.get?_setGroups]
    · exact later.inner
    · intro member
      obtain ⟨index, _, same⟩ := List.mem_map.mp member
      exact laterGroup_ne index same
  whole given := by
    rw [Slots.get?_setGroups _ _ (by simpa using group given)]
    exact later.whole given

end State.Later

/-! ## Plans -/

namespace Plan

/-- A loop whose bodies run alike. -/
theorem iterate_related {later : State → State → Prop} {related : State → State → Prop}
    (same : ∀ s s', later s s' → s'.pos = s.pos) {body body' : Next → Next}
    (bodies : ∀ next next' : Next, Next.Related later related next next' →
      Next.Related later related (body next) (body' next'))
    {next next' : Next} (after : Next.Related later related next next') (lo : Nat) (hi : Option Nat)
    (greedy guarded : Bool) (fuel count : Nat) (last : Option Nat) :
    Next.Related later related (iterate body lo hi greedy guarded next fuel count last)
      (iterate body' lo hi greedy guarded next' fuel count last) := by
  induction fuel generalizing count last with
  | zero => exact fun s s' budget _ => .failed budget
  | succ fuel ih =>
    intro s s' budget here
    simp only [iterate, same s s' here]
    split
    · exact after s s' budget here
    · split
      · exact .failed budget
      · split
        · exact bodies _ _ (ih (count + 1) last) s s' budget here
        · have on := bodies _ _ (ih (count + 1) (some s.pos)) s s'
          split
          · exact (on budget here).orElse fun budget => after s s' budget here
          · exact (after s s' budget here).orElse fun budget => on budget here

/-- A plan whose groups have later numbers runs like the plan. -/
theorem run_related (subject : Subject) {start : Nat} {fixed : Prop} {related : State → State → Prop} {plan : Plan}
    (steady : fixed → plan.movesStart = false) {next next' : Next}
    (after : Next.Related (State.Later start fixed) related next next') :
    Next.Related (State.Later start fixed) related (plan.run subject next) (plan.later.run subject next') := by
  induction plan generalizing related next next' with
  | done => exact after
  | text t =>
    intro s s' budget here
    simp only [later, run, here.pos]
    split
    · exact after _ _ budget (here.move _)
    · exact .failed budget
  | take members =>
    intro s s' budget here
    simp only [later, run, here.pos]
    split
    · exact after _ _ budget (here.move _)
    · exact .failed budget
  | plain program groups =>
    intro s s' budget here
    simp only [later, run, here.pos, Program.matchAt?_later]
    cases program.matchAt? subject.text s.pos with
    | none => exact .failed budget
    | some hit => exact after _ _ budget (here.setGroups hit.marks steady hit.stop)
  | check look =>
    intro s s' budget here
    simp only [later, run, here.pos]
    split
    · exact after _ _ budget here
    · exact .failed budget
  | seq first second ihFirst ihSecond =>
    have calm given := Bool.or_eq_false_iff.mp (steady given)
    exact ihFirst (fun given => (calm given).1) (ihSecond (fun given => (calm given).2) after)
  | alt first second ihFirst ihSecond =>
    have calm given := Bool.or_eq_false_iff.mp (steady given)
    have left := ihFirst (fun given => (calm given).1) after
    have right := ihSecond (fun given => (calm given).2) after
    exact fun s s' budget here => (left s s' budget here).orElse fun budget => right s s' budget here
  | capture index body ih =>
    intro s s' budget here
    have calm given := Bool.or_eq_false_iff.mp (steady given)
    have numbered given : index ≠ 0 := beq_eq_false_iff_ne.mp (calm given).1
    have opened := here.mark (2 * index) fun given => by have := numbered given; omega
    rw [laterSlot_start] at opened
    refine ih (fun given => (calm given).2) (fun t t' budget there => ?_) _ _ budget opened
    have closed := there.mark (2 * index + 1) fun _ => Nat.succ_ne_zero _
    rw [laterSlot_stop] at closed
    exact after _ _ budget closed
  | option body greedy ih =>
    have on := ih steady after
    intro s s' budget here
    simp only [later, run]
    split
    · exact (on s s' budget here).orElse fun budget => after s s' budget here
    · exact (after s s' budget here).orElse fun budget => on s s' budget here
  | loop body lo hi greedy guarded ih =>
    exact iterate_related (fun _ _ here => here.pos) (fun _ _ after => ih steady after) after _ _ _ _ _ _ _
  | ahead body ih =>
    intro s s' budget here
    simp only [later, run, here.pos]
    exact ih steady (fun t t' budget there => after _ _ budget (there.move s.pos)) s s' budget here
  | notAhead body ih =>
    intro s s' budget here
    have inner := ih steady (fun t t' budget there => .found there budget) s s' budget here
    simp only [later, run]
    generalize body.run subject Outcome.found s budget = outcome at inner ⊢
    generalize body.later.run subject Outcome.found s' budget = outcome' at inner ⊢
    cases inner with
    | exhausted => exact .exhausted
    | failed budget =>
      cases budget with
      | zero => exact .exhausted
      | succ budget => exact after s s' budget here
    | found same budget => exact .failed budget
  | back count =>
    intro s s' budget here
    simp only [later, run, here.pos]
    split
    · exact after _ _ budget (here.move _)
    · exact .failed budget
  | atomic body ih =>
    intro s s' budget here
    have inner := ih steady (fun t t' budget there => .found there budget) s s' budget here
    simp only [later, run]
    generalize body.run subject Outcome.found s budget = outcome at inner ⊢
    generalize body.later.run subject Outcome.found s' budget = outcome' at inner ⊢
    cases inner with
    | exhausted => exact .exhausted
    | failed budget => exact .failed budget
    | found same budget => exact after _ _ budget same
  | backref index =>
    intro s s' budget here
    have lo := here.slots (2 * index)
    have hi := here.slots (2 * index + 1)
    rw [laterSlot_start] at lo
    rw [laterSlot_stop] at hi
    simp only [later, run, here.pos, lo, hi]
    split
    · split
      · exact after _ _ budget (here.move _)
      · exact .failed budget
    · exact .failed budget
  | keep =>
    intro s s' budget here
    exact after _ _ budget (here.mark 0 fun given => nomatch steady given)
  | resume =>
    intro s s' budget here
    simp only [later, run, here.pos]
    split
    · exact after _ _ budget here
    · exact .failed budget
  | matched index =>
    intro s s' budget here
    have lo := here.slots (2 * index)
    rw [laterSlot_start] at lo
    simp only [later, run, lo]
    split
    · exact after _ _ budget here
    · exact .failed budget
  | conditional condition yes no ihCondition ihYes ihNo =>
    have calm given := Bool.or_eq_false_iff.mp (steady given)
    have calm' given := Bool.or_eq_false_iff.mp (calm given).1
    intro s s' budget here
    have asked := ihCondition (fun given => (calm' given).1) (fun t t' budget there => .found there budget)
      s s' budget here
    simp only [later, run]
    generalize condition.run subject Outcome.found s budget = outcome at asked ⊢
    generalize condition.later.run subject Outcome.found s' budget = outcome' at asked ⊢
    cases asked with
    | exhausted => exact .exhausted
    | failed budget =>
      cases budget with
      | zero => exact .exhausted
      | succ budget => exact ihNo (fun given => (calm given).2) after s s' budget here
    | found same budget => exact ihYes (fun given => (calm' given).2) after _ _ budget same

end Plan

/-! ## Searches -/

/-- Final states of a search, the second one with a group around the pattern. -/
structure State.Wraps (steady : Prop) (s s' : State) : Prop where
  stop : s.slots.get? 1 = some s.pos
  slots : s.slots.Later s'.slots
  inner : ∃ start, s'.slots.get? 2 = some start ∧ (steady → s.slots.get? 0 = some start)
  innerStop : s'.slots.get? 3 = some s.pos

namespace Plan

/-- A group around the pattern. -/
def wrapped (plan : Plan) : Plan := .capture 1 plan.later

theorem run_wrapped (subject : Subject) {plan : Plan} {steady : Prop}
    (calm : steady → plan.movesStart = false) {s : State} (fresh : s.slots = []) (budget : Nat) :
    Outcome.Related (State.Wraps steady) ((capture 0 plan).run subject .found s budget)
      ((capture 0 plan.wrapped).run subject .found s budget) := by
  have start : State.Later s.pos steady { s with slots := s.slots.set 0 s.pos }
      { s with slots := (s.slots.set 0 s.pos).set 2 s.pos } := by
    refine ⟨rfl, fun slot => ?_, by rw [Slots.get?_set]; rfl, fun _ => by rw [Slots.get?_set]; rfl⟩
    have empty : Slots.Later s.slots s.slots := by
      rw [fresh]
      exact fun _ => rfl
    rw [Slots.get?_set, if_neg (laterSlot_ne slot).1]
    exact empty.set 0 s.pos slot
  have ended : Next.Related (State.Later s.pos steady) (State.Wraps steady)
      (fun t budget => .found { t with slots := t.slots.set 1 t.pos } budget)
      (fun t budget => .found { t with slots := (t.slots.set 3 t.pos).set 1 t.pos } budget) := by
    intro t t' budget here
    refine .found ⟨by rw [Slots.get?_set]; rfl, fun slot => ?_, ⟨s.pos, ?_, fun given => ?_⟩, ?_⟩ budget
    · rw [← here.slots.set 1 t.pos slot, Slots.get?_set, Slots.get?_set, Slots.get?_set,
        if_neg (laterSlot_ne slot).2, here.pos]
      rfl
    · simp only [Slots.get?_set]
      exact here.inner
    · simp only [Slots.get?_set]
      exact here.whole given
    · simp [Slots.get?_set, here.pos]
  exact run_related subject calm ended _ _ budget start

theorem search_wrapped {plan : Plan} {steady : Prop} (calm : steady → plan.movesStart = false)
    (text : Array Char) (pos : Nat) :
    Outcome.Related (State.Wraps steady) (plan.search text pos) (plan.wrapped.search text pos) := by
  -- until the match begins nothing is written, and both searches are in the same state
  have idle : Next.Related (fun s s' => s' = s ∧ s.slots = []) (State.Wraps steady)
      ((capture 0 plan).run ⟨text, pos⟩ .found) ((capture 0 plan.wrapped).run ⟨text, pos⟩ .found) := by
    rintro s _ budget ⟨rfl, fresh⟩
    exact run_wrapped ⟨text, pos⟩ calm fresh budget
  refine iterate_related (fun _ _ here => by rw [here.1]) ?_ idle _ _ _ _ _ _ _ ⟨pos, []⟩ ⟨pos, []⟩ _
    ⟨rfl, rfl⟩
  intro next next' after s s' budget here
  obtain ⟨rfl, fresh⟩ := here
  simp only [run]
  split
  · exact after _ _ budget ⟨rfl, fresh⟩
  · exact .failed budget

end Plan

end Extended

/-! ## Matches -/

/-- The same match, with a group in front that takes the whole of it. The match may begin elsewhere than the
group unless it is `steady`. -/
structure Span.Wraps (steady : Prop) (span span' : Span) : Prop where
  start : span'.start = span.start
  stop : span'.stop = span.stop
  groups : ∃ start, span'.groups = (start, span.stop) :: span.groups ∧
    (steady → min start span.stop = min span.start span.stop)

namespace Matcher

open Extended

theorem slotSpan?_later {slots slots' : Slots} (later : slots.Later slots') (index : Nat) :
    slotSpan? slots' (laterGroup index) = slotSpan? slots index := by
  rw [slotSpan?, slotSpan?, ← laterSlot_stop, ← laterSlot_start, later, later]

/-- In a new first group a plan finds the same stretches. -/
theorem find_wrapped {plan : Plan} {steady : Prop} (calm : steady → plan.movesStart = false)
    (groups : Nat) (text : Array Char) (pos : Nat) :
    Both (Both (Span.Wraps steady)) (find (.backtracking plan groups) text pos)
      (find (.backtracking plan.wrapped (groups + 1)) text pos) := by
  have searched := Plan.search_wrapped calm text pos
  simp only [find]
  generalize plan.search text pos = outcome at searched ⊢
  generalize plan.wrapped.search text pos = outcome' at searched ⊢
  cases searched with
  | exhausted => exact .none
  | failed budget => exact .some .none
  | @found s s' same budget =>
    refine .some ?_
    have whole : slotSpan? s'.slots 0 = slotSpan? s.slots 0 := slotSpan?_later same.slots 0
    obtain ⟨start, opening, calm⟩ := same.inner
    have first : slotSpan? s'.slots 1 = some (start, s.pos) := by simp [slotSpan?, opening, same.innerStop]
    have taken : spans (groups + 1) (slotSpan? s'.slots) = (start, s.pos) :: spans groups (slotSpan? s.slots) :=
      spans_succ first fun index => slotSpan?_later same.slots (index + 1)
    rw [whole, taken]
    cases begun : s.slots.get? 0 with
    | none =>
      have unmatched : slotSpan? s.slots 0 = none := by simp [slotSpan?, begun]
      rw [unmatched]
      exact .none
    | some begin =>
      have matched : slotSpan? s.slots 0 = some (begin, s.pos) := by simp [slotSpan?, begun, same.stop]
      rw [matched]
      refine .some ⟨rfl, rfl, start, rfl, fun steady => ?_⟩
      obtain rfl := Option.some.inj (begun.symm.trans (calm steady))
      change min begin s.pos = min (min begin s.pos) s.pos
      omega

end Matcher

end PatternComposer.Regex
