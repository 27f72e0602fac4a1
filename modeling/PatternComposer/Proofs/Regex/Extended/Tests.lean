import PatternComposer.Proofs.Regex.Extended.Wrapped
import PatternComposer.Proofs.Regex.Located
import PatternComposer.Proofs.Unicode.CharSet

/-! # Plans that test a position

A plan that tests takes a stretch of a fixed width wherever a condition holds, and fails everywhere else.
Looking ahead with such a plan is a test that takes nothing, and tests in a row are one test. A search with a
test reports the first position where its condition holds (`Matcher.find_of_tests`).

The budget is followed as well. To fail costs nothing by itself, but each position that the search passes over
costs one unit, and so does finding that something does not follow.
-/

namespace PatternComposer.Regex.Extended

theorem Subject.hasAt_iff {subject : Subject} {part : List Char} {pos : Nat} :
    subject.hasAt pos part = true ↔ part <+: subject.text.toList.drop pos := by
  induction part generalizing pos with
  | nil => exact iff_of_true rfl List.nil_prefix
  | cons c rest ih =>
    rw [hasAt, Bool.and_eq_true, ih, beq_iff_eq, ← Array.getElem?_toList]
    constructor
    · rintro ⟨here, later⟩
      obtain ⟨bound, same⟩ := List.getElem?_eq_some_iff.mp here
      rw [List.drop_eq_getElem_cons bound, same]
      exact List.cons_prefix_cons.mpr ⟨rfl, later⟩
    · intro starts
      have bound : pos < subject.text.toList.length := by
        have longer := starts.length_le
        rw [List.length_cons, List.length_drop] at longer
        omega
      rw [List.drop_eq_getElem_cons bound, List.cons_prefix_cons] at starts
      obtain ⟨rfl, later⟩ := starts
      exact ⟨List.getElem?_eq_getElem bound, later⟩

namespace Plan

/-- Wherever the condition holds the plan goes on behind `width` characters and pays the price for it. Everywhere else
it fails for nothing. It leaves the start of the match as it is. -/
structure Tests (subject : Subject) (plan : Plan) (width price : Nat) (holds : Nat → Prop) : Prop where
  inside {pos : Nat} (within : pos ≤ subject.text.size) (here : holds pos) : pos + width ≤ subject.text.size
  passes {s : State} (within : s.pos ≤ subject.text.size) (here : holds s.pos) :
    ∃ slots : Slots, slots.get? 0 = s.slots.get? 0 ∧ ∀ next budget, plan.run subject next s budget =
      if price ≤ budget then next ⟨s.pos + width, slots⟩ (budget - price) else .exhausted
  fails {s : State} (within : s.pos ≤ subject.text.size) (missing : ¬ holds s.pos) (next : Next) (budget : Nat) :
    plan.run subject next s budget = .failed budget

namespace Tests

variable {subject : Subject} {plan first second : Plan} {width more price : Nat} {holds later : Nat → Prop}

theorem congr (tests : Tests subject plan width price holds) (same : ∀ pos, holds pos ↔ later pos) :
    Tests subject plan width price later := by
  obtain rfl : holds = later := funext fun pos => propext (same pos)
  exact tests

/-- Behind a test nothing is left to do. -/
theorem seq_done (tests : Tests subject plan width price holds) : Tests subject (.seq plan .done) width price holds :=
  ⟨tests.inside, tests.passes, tests.fails⟩

theorem text (part : List Char) :
    Tests subject (.text part) part.length 0 fun pos => part <+: subject.text.toList.drop pos where
  inside {pos} within here := by
    have longer := here.length_le
    have size : subject.text.toList.length = subject.text.size := Array.length_toList
    rw [List.length_drop, size] at longer
    omega
  passes {s} _ here := by
    refine ⟨s.slots, rfl, fun next budget => ?_⟩
    simp only [run, Subject.hasAt_iff.mpr here]
    rfl
  fails _ missing next budget := by
    simp only [run, if_neg (mt Subject.hasAt_iff.mp missing)]

/-- A plain search whose code does not branch. -/
theorem plain {code : List Inst} (straight : ∀ inst ∈ code, inst.isStraight = true) {groups : List Nat}
    (notWhole : 0 ∉ groups) (accepts : ∀ pos ≤ subject.text.size,
      (Program.matchAt? code.toArray subject.text pos).isSome = true ↔ holds pos) :
    Tests subject (.plain code.toArray groups) (codeWidth code) 0 holds where
  inside {pos} within here := by
    obtain ⟨hit, found⟩ := Option.isSome_iff_exists.mp ((accepts pos within).mpr here)
    have ended := (Program.runAt_from code.toArray within found).inside
    rwa [Program.matchAt?_stop straight within found] at ended
  passes {s} within here := by
    obtain ⟨hit, found⟩ := Option.isSome_iff_exists.mp ((accepts s.pos within).mpr here)
    refine ⟨s.slots.setGroups hit.marks groups, Slots.get?_setGroups _ _ notWhole, fun next budget => ?_⟩
    simp only [run, found, Program.matchAt?_stop straight within found]
    rfl
  fails {s} within missing next budget := by
    have none : Program.matchAt? code.toArray subject.text s.pos = none :=
      Option.not_isSome_iff_eq_none.mp (mt (accepts s.pos within).mp missing)
    simp only [run, none]

theorem seq (one : Tests subject first width 0 holds) (two : Tests subject second more price later) :
    Tests subject (.seq first second) (width + more) price fun pos => holds pos ∧ later (pos + width) where
  inside {pos} within here := by
    rw [← Nat.add_assoc]
    exact two.inside (one.inside within here.1) here.2
  passes {s} within here := by
    obtain ⟨slots, kept, ran⟩ := one.passes within here.1
    obtain ⟨slots', kept', ran'⟩ := two.passes (s := ⟨s.pos + width, slots⟩) (one.inside within here.1) here.2
    refine ⟨slots', kept'.trans kept, fun next budget => ?_⟩
    rw [run, ran, if_pos (Nat.zero_le _), ran', Nat.add_assoc]
    rfl
  fails {s} within missing next budget := by
    rw [run]
    by_cases here : holds s.pos
    · obtain ⟨slots, _, ran⟩ := one.passes within here
      rw [ran, if_pos (Nat.zero_le _)]
      exact two.fails (one.inside within here) (fun there => missing ⟨here, there⟩) next budget
    · exact one.fails within here _ budget

/-- What has to follow is not taken. -/
theorem ahead (tests : Tests subject plan width 0 holds) : Tests subject (.ahead plan) 0 0 holds where
  inside within _ := within
  passes within here := by
    obtain ⟨slots, kept, ran⟩ := tests.passes within here
    exact ⟨slots, kept, fun next budget => ran _ budget⟩
  fails within missing next budget := tests.fails within missing _ budget

/-- What must not follow is not taken either, and that it fails is what has to be paid for. -/
theorem notAhead (tests : Tests subject plan width 0 holds) :
    Tests subject (.notAhead plan) 0 1 fun pos => ¬ holds pos where
  inside within _ := within
  passes {s} within missing := by
    refine ⟨s.slots, rfl, fun next budget => ?_⟩
    simp only [run, tests.fails within missing]
    cases budget with
    | zero => rfl
    | succ budget => rfl
  fails {s} within here next budget := by
    obtain ⟨slots, _, ran⟩ := tests.passes within (not_not.mp here)
    simp only [run, ran, if_pos (Nat.zero_le budget), Nat.sub_zero]

end Tests

/-! ## Searching -/

/-- The positions from `pos` on where a condition holds. -/
def startsFrom (holds : Nat → Prop) (size pos : Nat) : Set Nat :=
  {start | pos ≤ start ∧ start ≤ size ∧ holds start}

theorem startsFrom_succ {holds : Nat → Prop} (size : Nat) {pos : Nat} (missing : ¬ holds pos) :
    startsFrom holds size (pos + 1) = startsFrom holds size pos := by
  ext start
  refine and_congr_left fun ⟨_, here⟩ => ⟨Nat.le_of_succ_le, fun reached => Nat.lt_of_le_of_ne reached ?_⟩
  rintro rfl
  exact missing here

theorem startsFrom_last {holds : Nat → Prop} {size pos : Nat} (last : size ≤ pos) (missing : ¬ holds pos) :
    startsFrom holds size pos = ∅ := by
  rw [Set.eq_empty_iff_forall_notMem]
  rintro start ⟨reached, within, here⟩
  obtain rfl : start = pos := by omega
  exact missing here

/-- A search reports the first of these starts, with the stretch behind it as the whole match. It only gives up if the
budget was short. -/
inductive ReportsFirst (starts : Set Nat) (width : Nat) (short : Prop) : Outcome → Prop where
  | exhausted (ranOut : short) : ReportsFirst starts width short .exhausted
  | failed (none : starts = ∅) (budget : Nat) : ReportsFirst starts width short (.failed budget)
  | found {s : State} {start : Nat} (least : IsLeast starts start) (begins : s.slots.get? 0 = some start)
      (stops : s.slots.get? 1 = some (start + width)) (budget : Nat) : ReportsFirst starts width short (.found s budget)

theorem ReportsFirst.mono {starts : Set Nat} {width : Nat} {short shorter : Prop} {outcome : Outcome}
    (reports : ReportsFirst starts width short outcome) (weaker : short → shorter) :
    ReportsFirst starts width shorter outcome := by
  cases reports with
  | exhausted ranOut => exact .exhausted (weaker ranOut)
  | failed none budget => exact .failed none budget
  | found least begins stops budget => exact .found least begins stops budget

/-- A lazy loop over all characters tries what follows, and moves on by one character if that fails. -/
theorem iterate_take (subject : Subject) (next : Next) (fuel count : Nat) (last : Option Nat) (s : State)
    (budget : Nat) :
    iterate ((Plan.take .all).run subject) 0 none false false next (fuel + 1) count last s budget =
      (next s budget).orElse fun budget =>
        if s.pos < subject.text.size then
          iterate ((Plan.take .all).run subject) 0 none false false next fuel (count + 1) (some s.pos)
            { s with pos := s.pos + 1 } budget
        else .failed budget := by
  have taken : subject.text[s.pos]?.any CharSet.all.contains = decide (s.pos < subject.text.size) := by
    by_cases bound : s.pos < subject.text.size
    · rw [Array.getElem?_eq_getElem bound, decide_eq_true bound]
      exact CharSet.mem_all
    · rw [Array.getElem?_eq_none (Nat.le_of_not_lt bound), decide_eq_false bound]
      rfl
  rw [iterate]
  simp only [run, taken, decide_eq_true_eq]
  rfl

variable {subject : Subject} {plan : Plan} {width price : Nat} {holds : Nat → Prop}

/-- Each position where the test fails costs one unit, up to the first one where it holds. -/
theorem Tests.iterate_reports (tests : Tests subject plan width price holds) (fuel count : Nat) (last : Option Nat)
    {s : State} (within : s.pos ≤ subject.text.size) (enough : subject.text.size < s.pos + fuel) (budget : Nat) :
    ReportsFirst (startsFrom holds subject.text.size s.pos) width (budget < subject.text.size - s.pos + 1 + price)
      (iterate ((Plan.take .all).run subject) 0 none false false ((Plan.capture 0 plan).run subject .found)
        fuel count last s budget) := by
  -- Fuel and budget are spent together, one unit for each position, but the fuel reaches to the end of the text.
  induction fuel generalizing count last s budget with
  | zero => omega
  | succ fuel ih =>
    let begun : State := { s with slots := s.slots.set 0 s.pos }
    rw [iterate_take]
    by_cases here : holds s.pos
    · obtain ⟨slots, kept, ran⟩ := tests.passes (s := begun) within here
      have whole : (Plan.capture 0 plan).run subject .found s budget = _ := ran _ budget
      rw [whole]
      split
      · have least : IsLeast (startsFrom holds subject.text.size s.pos) s.pos :=
          ⟨⟨Nat.le_refl _, within, here⟩, fun other member => member.1⟩
        refine .found least ?_ ?_ _
        · rw [Slots.get?_set, if_neg (by decide), kept, Slots.get?_set, if_pos rfl]
        · rw [Slots.get?_set, if_pos rfl]
      · exact .exhausted (by omega)
    · have whole : (Plan.capture 0 plan).run subject .found s budget = .failed budget :=
        tests.fails (s := begun) within here _ budget
      rw [whole]
      cases budget with
      | zero => exact .exhausted (by omega)
      | succ budget =>
        rw [Outcome.orElse]
        split
        · next bound =>
          have on : subject.text.size < s.pos + 1 + fuel := by omega
          rw [← startsFrom_succ _ here]
          have later := ih (count + 1) (some s.pos) (s := { s with pos := s.pos + 1 }) bound on budget
          refine later.mono ?_
          intro short
          change budget < subject.text.size - (s.pos + 1) + 1 + price at short
          omega
        · next bound => exact .failed (startsFrom_last (Nat.le_of_not_lt bound) here) budget

/-- A search with a test reports the first position where the test holds. -/
theorem Tests.search_reports {text : Array Char} {pos : Nat} (tests : Tests ⟨text, pos⟩ plan width price holds)
    (within : pos ≤ text.size) :
    ReportsFirst (startsFrom holds text.size pos) width (backtrackLimit < text.size - pos + 1 + price)
      (plan.search text pos) := by
  have enough : text.size < pos + iterations text 0 none := by
    rw [iterations]
    omega
  exact tests.iterate_reports _ 0 none (s := ⟨pos, []⟩) within enough backtrackLimit

end Plan
end Extended

/-- The first stretch of this width that begins at one of the starts, if there is any. -/
def Span.IsFirst (starts : Set Nat) (width : Nat) : Option Span → Prop
  | none => starts = ∅
  | some span => IsLeast starts span.start ∧ span.stop = span.start + width

/-- Unless the text is too long for the budget, a backtracking search with a test finds the first position where the
test holds. -/
theorem Matcher.find_of_tests {plan : Extended.Plan} {width price : Nat} {holds : Nat → Prop} {text : Array Char}
    {pos : Nat} (tests : plan.Tests ⟨text, pos⟩ width price holds) (within : pos ≤ text.size) (groups : Nat) :
    (find (.backtracking plan groups) text pos = none ∧
        Extended.Plan.backtrackLimit < text.size - pos + 1 + price) ∨
      ∃ found, find (.backtracking plan groups) text pos = some found ∧
        Span.IsFirst (Extended.Plan.startsFrom holds text.size pos) width found := by
  have reports := tests.search_reports within
  rw [find]
  cases searched : plan.search text pos with
  | exhausted =>
    rw [searched] at reports
    cases reports with
    | exhausted short => exact .inl ⟨rfl, short⟩
  | failed budget =>
    rw [searched] at reports
    cases reports with
    | failed nowhere => exact .inr ⟨none, rfl, nowhere⟩
  | found s budget =>
    rw [searched] at reports
    cases reports with
    | @found _ start least begins stops =>
      have taken : slotSpan? s.slots 0 = some (start, start + width) := by simp [slotSpan?, begins, stops]
      have ordered : min start (start + width) = start := Nat.min_eq_left (Nat.le_add_right ..)
      simp only [taken, Option.map_some, ordered]
      exact .inr ⟨_, rfl, least, rfl⟩

end PatternComposer.Regex
