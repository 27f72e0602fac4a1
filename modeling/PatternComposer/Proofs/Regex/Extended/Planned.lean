import PatternComposer.Proofs.Regex.Extended.Later

/-! # From terms to plans

A property of terms that is handed down to their parts, and one of plans that is built up from theirs,
meet in one induction: `Carried` lists what has to be known for each kind of term, and then the plan of
every term with the one property has the other.
-/

namespace PatternComposer.Regex.Extended

/-- Looking at what comes before. -/
def Around.looksBack : Around → Bool
  | .behind => true
  | .notBehind => true
  | _ => false

namespace Plan

/-- Plans that have no parts and write no slots. -/
def isLeaf : Plan → Bool
  | .done => true
  | .text _ => true
  | .take _ => true
  | .check _ => true
  | .backref _ => true
  | .resume => true
  | .matched _ => true
  | _ => false

/-- What looks around with a plan. -/
def look (kind : Around) (plan : Plan) : Plan :=
  match kind with
  | .ahead => .ahead plan
  | .notAhead => .notAhead plan
  | .behind => .ahead plan
  | .notBehind => .notAhead plan

/-- What is `calm` about a term makes its plan `fit`, because both go by the parts. -/
structure Carried (refs : List Nat) (calm : Term → Prop) (fits : Plan → Prop) : Prop where
  leaf {plan : Plan} (leaf : plan.isLeaf = true) : fits plan
  easy {terms : List Term} {plan : Plan} (all : ∀ t ∈ terms, calm t) (easy : ofEasy? terms = some plan) : fits plan
  keep (here : calm .keep) : fits .keep
  items {items : List Term} (here : calm (.cat items)) : ∀ t ∈ items, calm t
  seq {first second : Plan} (before : fits first) (after : fits second) : fits (.seq first second)
  branches {branches : List Term} (here : calm (.alt branches)) : ∀ t ∈ branches, calm t
  alt {first second : Plan} (before : fits first) (after : fits second) : fits (.alt first second)
  group {index : Nat} {body : Term} (here : calm (.group index body)) :
    calm body ∧ ∀ plan, fits plan → fits (.capture index plan)
  body {body : Term} {lo : Nat} {hi : Option Nat} {greedy : Bool} (here : calm (.rep body lo hi greedy)) : calm body
  option {plan : Plan} {greedy : Bool} (inner : fits plan) : fits (.option plan greedy)
  loop {plan : Plan} {lo : Nat} {hi : Option Nat} {greedy guarded : Bool} (inner : fits plan) :
    fits (.loop plan lo hi greedy guarded)
  ahead (kind : Around) {body : Term} {plan : Plan} (front : kind.looksBack = false)
    (here : calm (.around kind body)) (inner : calm body → fits plan) : fits (look kind plan)
  behind (kind : Around) (count : Nat) {body : Term} {plan : Plan} (back : kind.looksBack = true)
    (here : calm (.around kind body)) (made : ofTerm? refs false body = some plan) (inner : calm body → fits plan) :
    fits (look kind (.seq (.back count) plan))
  behindEach {kind : Around} {branches : List Term} (back : kind.looksBack = true)
    (here : calm (.around kind (.alt branches))) : ∀ t ∈ branches, calm (.around kind t)
  atomic {body : Term} (here : calm (.atomic body)) : calm body ∧ ∀ plan, fits plan → fits (.atomic plan)
  conditional {condition yes no : Term} (here : calm (.conditional condition yes no)) :
    (calm condition ∧ calm yes ∧ calm no) ∧
      ∀ asked left right, fits asked → fits left → fits right → fits (.conditional asked left right)

namespace Carried

variable {refs : List Nat} {calm : Term → Prop} {fits : Plan → Prop} {plans : List Plan} {plan : Plan} {hard : Bool}

theorem seqAll (carried : Carried refs calm fits) (all : ∀ plan ∈ plans, fits plan) : fits (seqAll plans) := by
  induction plans with
  | nil => exact carried.leaf rfl
  | cons plan rest ih =>
    obtain ⟨first, others⟩ := List.forall_mem_cons.mp all
    cases rest with
    | nil => exact first
    | cons second more => exact carried.seq first (ih others)

theorem altAll (carried : Carried refs calm fits) (all : ∀ plan ∈ plans, fits plan) : fits (altAll plans) := by
  induction plans with
  | nil => exact carried.leaf rfl
  | cons plan rest ih =>
    obtain ⟨first, others⟩ := List.forall_mem_cons.mp all
    cases rest with
    | nil => exact first
    | cons second more => exact carried.alt first (ih others)

theorem single (carried : Carried refs calm fits) {t : Term} (here : calm t) (easy : ofEasy? [t] = some plan) :
    fits plan :=
  carried.easy (fun _ member => List.mem_singleton.mp member ▸ here) easy

theorem ofRow? (carried : Carried refs calm fits) {items : List Term} (all : ∀ t ∈ items, calm t)
    (each : ∀ plan ∈ plans, fits plan) (row : ofRow? refs hard items plans = some plan) : fits plan := by
  obtain ⟨first, front, row⟩ := Option.bind_eq_some_iff.mp row
  obtain ⟨last, tail, rfl⟩ := Option.map_eq_some_iff.mp row
  refine carried.seqAll fun plan member => ?_
  rcases List.mem_append.mp member with member | member
  · rcases List.mem_cons.mp member with rfl | member
    · exact carried.easy (fun t member => all t (List.takeWhile_sublist _ |>.mem member)) front
    · exact each plan (List.mem_of_mem_drop (List.mem_of_mem_take member))
  · obtain rfl := List.mem_singleton.mp member
    refine carried.easy (fun t member => all t ?_) tail
    have kept := (List.takeWhile_sublist _).mem (List.mem_reverse.mp member)
    exact List.mem_of_mem_drop (List.mem_reverse.mp kept)

/-- What looks around, given its body. -/
theorem around (carried : Carried refs calm fits) {kind : Around} {body : Term} (here : calm (.around kind body))
    (fixed : ∀ inner, ofTerm? refs false body = some inner → calm body → fits inner)
    (each : ∀ all, body.branches? = some all → ∀ plans, behindEach? refs all = some plans →
      kind.looksBack = true → ∀ inner ∈ plans, fits (look kind inner))
    (planned : ofTerm? refs hard (.around kind body) = some plan) : fits plan := by
  cases kind with
  | ahead =>
    rw [ofTerm?] at planned
    obtain ⟨inner, found, rfl⟩ := Option.map_eq_some_iff.mp planned
    exact carried.ahead .ahead rfl here (fixed inner found)
  | notAhead =>
    rw [ofTerm?] at planned
    obtain ⟨inner, found, rfl⟩ := Option.map_eq_some_iff.mp planned
    exact carried.ahead .notAhead rfl here (fixed inner found)
  | behind =>
    rw [ofTerm?_behind] at planned
    split at planned
    · obtain ⟨inner, found, rfl⟩ := Option.map_eq_some_iff.mp planned
      exact carried.behind .behind _ rfl here found (fixed inner found)
    · obtain ⟨all, found, planned⟩ := Option.bind_eq_some_iff.mp planned
      obtain ⟨plans, behind, rfl⟩ := Option.map_eq_some_iff.mp planned
      refine carried.altAll fun plan member => ?_
      obtain ⟨inner, inside, rfl⟩ := List.mem_map.mp member
      exact each all found plans behind rfl inner inside
  | notBehind =>
    rw [ofTerm?_notBehind] at planned
    split at planned
    · obtain ⟨inner, found, rfl⟩ := Option.map_eq_some_iff.mp planned
      exact carried.behind .notBehind _ rfl here found (fixed inner found)
    · obtain ⟨all, found, planned⟩ := Option.bind_eq_some_iff.mp planned
      obtain ⟨plans, behind, rfl⟩ := Option.map_eq_some_iff.mp planned
      refine carried.seqAll fun plan member => ?_
      obtain ⟨inner, inside, rfl⟩ := List.mem_map.mp member
      exact each all found plans behind rfl inner inside

theorem conditionalPlan (carried : Carried refs calm fits) {condition yes no : Term}
    (here : calm (.conditional condition yes no))
    (asks : ∀ asked, calm condition → ofTerm? refs hard condition = some asked → fits asked)
    (first : ∀ left, calm yes → ofTerm? refs hard yes = some left → fits left)
    (second : ∀ right, calm no → ofTerm? refs hard no = some right → fits right)
    (planned : ofTerm? refs hard (.conditional condition yes no) = some plan) : fits plan := by
  obtain ⟨⟨calmCondition, calmYes, calmNo⟩, together⟩ := carried.conditional here
  rw [ofTerm?] at planned
  obtain ⟨asked, found, planned⟩ := Option.bind_eq_some_iff.mp planned
  obtain ⟨left, found', planned⟩ := Option.bind_eq_some_iff.mp planned
  obtain ⟨right, found'', rfl⟩ := Option.map_eq_some_iff.mp planned
  exact together _ _ _ (asks asked calmCondition found) (first left calmYes found') (second right calmNo found'')

mutual

/-- The plan of a calm term fits. -/
theorem ofTerm? (carried : Carried refs calm fits) {hard : Bool} {t : Term} (here : calm t) {plan : Plan}
    (planned : ofTerm? refs hard t = some plan) : fits plan := by
  cases t with
  | empty => rw [Plan.ofTerm?] at planned; cases planned; exact carried.leaf rfl
  | literal c caseless =>
    rw [Plan.ofTerm?] at planned
    split at planned
    · exact carried.single here planned
    · cases planned; exact carried.leaf rfl
  | anyChar newline =>
    rw [Plan.ofTerm?] at planned
    split at planned
    · cases planned; exact carried.leaf rfl
    · exact carried.single here planned
  | members s depth => rw [Plan.ofTerm?] at planned; exact carried.single here planned
  | look l =>
    rw [Plan.ofTerm?] at planned
    split at planned
    · exact carried.single here planned
    · cases planned; exact carried.leaf rfl
  | cat items =>
    rw [Plan.ofTerm?] at planned
    split at planned
    · exact carried.single here planned
    · obtain ⟨plans, each, row⟩ := Option.bind_eq_some_iff.mp planned
      have all := carried.items here
      exact carried.ofRow? all (ofTerms? carried all each) row
  | alt branches =>
    rw [Plan.ofTerm?] at planned
    split at planned
    · exact carried.single here planned
    · obtain ⟨plans, each, rfl⟩ := Option.map_eq_some_iff.mp planned
      exact carried.altAll (ofTerms? carried (carried.branches here) each)
  | group index body =>
    rw [Plan.ofTerm?] at planned
    split at planned
    · exact carried.single here planned
    · obtain ⟨inner, found, rfl⟩ := Option.map_eq_some_iff.mp planned
      obtain ⟨calm, whole⟩ := carried.group here
      exact whole inner (ofTerm? carried calm found)
  | rep body lo hi greedy =>
    rw [Plan.ofTerm?] at planned
    split at planned
    · exact carried.single here planned
    · have calm := carried.body here
      split at planned
      · obtain ⟨inner, found, rfl⟩ := Option.map_eq_some_iff.mp planned
        exact carried.option (ofTerm? carried calm found)
      · obtain ⟨inner, found, rfl⟩ := Option.map_eq_some_iff.mp planned
        have inner := ofTerm? carried calm found
        rw [ofRepetition]
        split
        · exact carried.option inner
        · exact carried.loop inner
  | around kind body =>
    refine carried.around here (fun inner found calm => ofTerm? carried calm found)
      (fun all found plans behind back => ?_) planned
    cases body with
    | alt branches =>
      have each {plans : List Plan} (behind : Plan.behindEach? refs branches = some plans) :=
        behindEach? carried back (carried.behindEach back here) behind
      cases found
      exact each behind
    | _ => cases found
  | backref index => rw [Plan.ofTerm?] at planned; cases planned; exact carried.leaf rfl
  | atomic body =>
    rw [Plan.ofTerm?] at planned
    obtain ⟨inner, found, rfl⟩ := Option.map_eq_some_iff.mp planned
    obtain ⟨calm, whole⟩ := carried.atomic here
    exact whole inner (ofTerm? carried calm found)
  | keep => rw [Plan.ofTerm?] at planned; cases planned; exact carried.keep here
  | resume => rw [Plan.ofTerm?] at planned; cases planned; exact carried.leaf rfl
  | matched index => rw [Plan.ofTerm?] at planned; cases planned; exact carried.leaf rfl
  | conditional condition yes no =>
    exact carried.conditionalPlan here (fun asked calm found => ofTerm? carried calm found)
      (fun left calm found => ofTerm? carried calm found) (fun right calm found => ofTerm? carried calm found) planned

theorem ofTerms? (carried : Carried refs calm fits) {hard : Bool} {terms : List Term} (all : ∀ t ∈ terms, calm t)
    {plans : List Plan} (planned : ofTerms? refs hard terms = some plans) : ∀ plan ∈ plans, fits plan := by
  match terms with
  | [] => rw [Plan.ofTerms?] at planned; cases planned; exact fun _ member => by cases member
  | t :: rest =>
    obtain ⟨here, others⟩ := List.forall_mem_cons.mp all
    rw [Plan.ofTerms?] at planned
    obtain ⟨plan, found, planned⟩ := Option.bind_eq_some_iff.mp planned
    obtain ⟨more, found', rfl⟩ := Option.map_eq_some_iff.mp planned
    exact List.forall_mem_cons.mpr ⟨ofTerm? carried here found, ofTerms? carried others found'⟩

theorem behindEach? (carried : Carried refs calm fits) {kind : Around} (back : kind.looksBack = true)
    {terms : List Term} (all : ∀ t ∈ terms, calm (.around kind t)) {plans : List Plan}
    (planned : behindEach? refs terms = some plans) : ∀ plan ∈ plans, fits (look kind plan) := by
  match terms with
  | [] => rw [Plan.behindEach?] at planned; cases planned; exact fun _ member => by cases member
  | t :: rest =>
    obtain ⟨here, others⟩ := List.forall_mem_cons.mp all
    rw [Plan.behindEach?, Option.ite_none_right_eq_some] at planned
    obtain ⟨plan, found, planned⟩ := Option.bind_eq_some_iff.mp planned.2
    obtain ⟨more, found', rfl⟩ := Option.map_eq_some_iff.mp planned
    have first := carried.behind kind t.minSize back here found fun calm => ofTerm? carried calm found
    exact List.forall_mem_cons.mpr ⟨first, behindEach? carried back others found'⟩

end

end Carried

end Plan

end PatternComposer.Regex.Extended
