import PatternComposer.Proofs.Regex.Grouped
import PatternComposer.Proofs.Regex.Located

/-! # Where an extended match lies

A run leaves the text nowhere and only goes back to look behind, so a match ends between the position where
the search began and the end of the text. It begins there as well, unless a `\K` stands in something that
looks behind: then the start that it sets can lie in front of the search.
-/

namespace PatternComposer.Regex.Extended

/-! ## Starts that are set in front of the search -/

namespace Term

mutual

/-- Something that looks behind sets the start of the whole match. -/
def keepsBehind : Term → Bool
  | .cat items => anyKeepsBehind items
  | .alt branches => anyKeepsBehind branches
  | .group _ body => body.keepsBehind
  | .rep body _ _ _ => body.keepsBehind
  | .around kind body =>
    match kind with
    | .ahead => body.keepsBehind
    | .behind => body.movesStart
    | .notAhead => false
    | .notBehind => false
  | .atomic body => body.keepsBehind
  | .conditional condition yes no => condition.keepsBehind || yes.keepsBehind || no.keepsBehind
  | _ => false

def anyKeepsBehind : List Term → Bool
  | [] => false
  | t :: rest => t.keepsBehind || anyKeepsBehind rest

end

theorem anyKeepsBehind_eq_false {terms : List Term} :
    anyKeepsBehind terms = false ↔ ∀ t ∈ terms, t.keepsBehind = false := by
  induction terms with
  | nil => simp [anyKeepsBehind]
  | cons t rest ih => simp [anyKeepsBehind, ih]

end Term

namespace Plan

/-- The plan may leave a run further in front than it found it. -/
def goesBack : Plan → Bool
  | .seq first second => first.goesBack || second.goesBack
  | .alt first second => first.goesBack || second.goesBack
  | .capture _ body => body.goesBack
  | .option body _ => body.goesBack
  | .loop body _ _ _ _ => body.goesBack
  | .back _ => true
  | .atomic body => body.goesBack
  | .conditional condition yes no => condition.goesBack || yes.goesBack || no.goesBack
  | _ => false

/-- The start of the whole match may be set after going back. -/
def keepsBehind : Plan → Bool
  | .seq first second =>
    first.keepsBehind || if first.goesBack then second.movesStart else second.keepsBehind
  | .alt first second => first.keepsBehind || second.keepsBehind
  | .capture _ body => body.keepsBehind
  | .option body _ => body.keepsBehind
  | .loop body _ _ _ _ => body.goesBack || body.keepsBehind
  | .ahead body => body.keepsBehind
  | .atomic body => body.keepsBehind
  | .conditional condition yes no =>
    condition.goesBack || condition.keepsBehind || yes.keepsBehind || no.keepsBehind
  | _ => false

theorem goesBack_look (kind : Around) (plan : Plan) : (look kind plan).goesBack = false := by
  cases kind <;> rfl

/-- No plan of a term goes back, other than to look behind. -/
theorem carried_keepsBehind (refs : List Nat) (given : Prop) :
    Carried refs (fun t => given → t.keepsBehind = false)
      fun plan => plan.goesBack = false ∧ (given → plan.keepsBehind = false) where
  leaf {plan} leaf := by cases plan <;> first | exact ⟨rfl, fun _ => rfl⟩ | cases leaf
  easy {terms plan} _ easy := by
    rw [ofEasy?.eq_def] at easy
    split at easy
    · cases easy; exact ⟨rfl, fun _ => rfl⟩
    · split at easy
      · cases easy; exact ⟨rfl, fun _ => rfl⟩
      · obtain ⟨parts, _, planned⟩ := Option.bind_eq_some_iff.mp easy
        obtain ⟨_, same⟩ := Option.ite_none_right_eq_some.mp planned
        cases same
        exact ⟨rfl, fun _ => rfl⟩
  keep _ := ⟨rfl, fun _ => rfl⟩
  items here t member calm := by
    have here := here calm
    rw [Term.keepsBehind, Term.anyKeepsBehind_eq_false] at here
    exact here t member
  seq before after := by
    refine ⟨Bool.or_eq_false_iff.mpr ⟨before.1, after.1⟩, fun calm => ?_⟩
    simp [keepsBehind, before.1, before.2 calm, after.2 calm]
  branches here t member calm := by
    have here := here calm
    rw [Term.keepsBehind, Term.anyKeepsBehind_eq_false] at here
    exact here t member
  alt before after :=
    ⟨Bool.or_eq_false_iff.mpr ⟨before.1, after.1⟩, fun calm =>
      Bool.or_eq_false_iff.mpr ⟨before.2 calm, after.2 calm⟩⟩
  group here := by
    simp only [Term.keepsBehind] at here
    exact ⟨here, fun plan inner => inner⟩
  body here := by simpa only [Term.keepsBehind] using here
  option inner := inner
  loop inner := ⟨inner.1, fun calm => Bool.or_eq_false_iff.mpr ⟨inner.1, inner.2 calm⟩⟩
  ahead kind body plan front here inner := by
    refine ⟨goesBack_look kind plan, fun calm => ?_⟩
    cases kind with
    | ahead =>
      simp only [Term.keepsBehind] at here
      exact (inner here).2 calm
    | notAhead => rfl
    | behind => cases front
    | notBehind => cases front
  behind kind count body plan back here made _ := by
    refine ⟨goesBack_look kind _, fun calm => ?_⟩
    cases kind with
    | ahead => cases back
    | notAhead => cases back
    | behind =>
      have steady := here calm
      rw [Term.keepsBehind] at steady
      exact movesStart_ofTerm? steady made
    | notBehind => rfl
  behindEach {kind branches} back here t member calm := by
    cases kind with
    | ahead => cases back
    | notAhead => cases back
    | behind =>
      have steady := here calm
      rw [Term.keepsBehind, Term.movesStart, Term.anyMovesStart_eq_false] at steady
      rw [Term.keepsBehind, steady t member]
    | notBehind => rw [Term.keepsBehind]
  atomic here := by
    simp only [Term.keepsBehind] at here
    exact ⟨here, fun plan inner => inner⟩
  conditional {condition yes no} here := by
    simp only [Term.keepsBehind, Bool.or_eq_false_iff] at here
    refine ⟨⟨fun calm => (here calm).1.1, fun calm => (here calm).1.2, fun calm => (here calm).2⟩, ?_⟩
    intro asked left right asks first second
    refine ⟨by simp [goesBack, asks.1, first.1, second.1], fun calm => ?_⟩
    simp [keepsBehind, asks.1, asks.2 calm, first.2 calm, second.2 calm]

variable {refs : List Nat} {hard : Bool} {t : Term} {plan : Plan}

theorem goesBack_ofTerm? (planned : ofTerm? refs hard t = some plan) : plan.goesBack = false :=
  ((carried_keepsBehind refs False).ofTerm? (fun none => none.elim) planned).1

/-- If no `\K` stands in something that looks behind, the plan keeps no start there. -/
theorem keepsBehind_ofTerm? (calm : t.keepsBehind = false) (planned : ofTerm? refs hard t = some plan) :
    plan.keepsBehind = false :=
  ((carried_keepsBehind refs True).ofTerm? (fun _ => calm) planned).2 trivial

end Plan

/-! ## Where a run may get to -/

/-- The start of the whole match, if it is set, is at least `lo`. -/
def Slots.StartsFrom (lo : Nat) (slots : Slots) : Prop := ∀ start, slots.get? 0 = some start → lo ≤ start

namespace Slots.StartsFrom

variable {lo : Nat} {slots : Slots}

theorem set (begun : slots.StartsFrom lo) (slot : Nat) {pos : Nat} (reached : lo ≤ pos) :
    (slots.set slot pos).StartsFrom lo := by
  intro start found
  rw [get?_set] at found
  split at found
  · cases found; exact reached
  · exact begun start found

theorem clear (begun : slots.StartsFrom lo) (slot : Nat) : (slots.clear slot).StartsFrom lo := by
  intro start found
  rw [get?_clear] at found
  split at found
  · cases found
  · exact begun start found

theorem setGroups {marks : Marks} (written : marks.From lo) (begun : slots.StartsFrom lo) (groups : List Nat) :
    (slots.setGroups marks groups).StartsFrom lo := by
  induction groups generalizing slots with
  | nil => exact begun
  | cons index groups ih =>
    rw [setGroups_cons]
    apply ih
    rw [setGroup]
    split
    · next start stop taken =>
      intro begin found
      rw [get?_set, if_neg (by omega)] at found
      exact begun.set _ (written.span? taken) begin found
    · exact (begun.clear _).clear _

end Slots.StartsFrom

/-- The second state is inside the text. It is not in front of the first one if the way was `forward`, has the same
start of the whole match if that was left `alone`, and if it was only set `ahead`, the start has not moved in front
of the first state. -/
structure State.Reaches (size : Nat) (forward alone ahead : Prop) (s t : State) : Prop where
  inside : t.pos ≤ size
  forward : forward → s.pos ≤ t.pos
  alone : alone → t.slots.get? 0 = s.slots.get? 0
  ahead : ahead → ∀ lo ≤ s.pos, s.slots.StartsFrom lo → t.slots.StartsFrom lo

namespace State.Reaches

variable {size : Nat} {forward alone ahead forward' alone' ahead' : Prop} {s t u : State}

theorem move {pos : Nat} (inside : pos ≤ size) (moved : forward → s.pos ≤ pos) :
    Reaches size forward alone ahead s { s with pos := pos } :=
  ⟨inside, moved, fun _ => rfl, fun _ _ _ begun => begun⟩

theorem refl (inside : s.pos ≤ size) : Reaches size forward alone ahead s s :=
  move inside fun _ => Nat.le_refl _

theorem mono (reaches : Reaches size forward alone ahead s t) (f : forward' → forward) (g : alone' → alone)
    (h : ahead' → ahead) : Reaches size forward' alone' ahead' s t :=
  ⟨reaches.inside, fun given => reaches.forward (f given), fun given => reaches.alone (g given),
    fun given => reaches.ahead (h given)⟩

/-- After going back the start has to be left alone. -/
theorem trans (first : Reaches size forward alone ahead s t) (second : Reaches size forward' alone' ahead' t u) :
    Reaches size (forward ∧ forward') (alone ∧ alone') (ahead ∧ (forward ∧ ahead' ∨ alone')) s u where
  inside := second.inside
  forward both := Nat.le_trans (first.forward both.1) (second.forward both.2)
  alone both := (second.alone both.2).trans (first.alone both.1)
  ahead both lo reached begun := by
    have between := first.ahead both.1 lo reached begun
    rcases both.2 with later | same
    · exact second.ahead later.2 lo (Nat.le_trans reached (first.forward later.1)) between
    · rwa [Slots.StartsFrom, second.alone same]

end State.Reaches

/-- Wherever an outcome is found, it has a property. -/
def Outcome.Ends (property : State → Prop) (outcome : Outcome) : Prop :=
  ∀ t budget, outcome = .found t budget → property t

namespace Outcome.Ends

variable {property : State → Prop}

theorem exhausted : Ends property .exhausted := fun _ _ same => by cases same

theorem failed (budget : Nat) : Ends property (.failed budget) := fun _ _ same => by cases same

theorem found {t : State} (holds : property t) (budget : Nat) : Ends property (.found t budget) := by
  intro u _ same
  cases same
  exact holds

theorem orElse {first : Outcome} (one : Ends property first) {second : Nat → Outcome}
    (other : ∀ budget, Ends property (second budget)) : Ends property (first.orElse second) := by
  cases first with
  | exhausted => exact exhausted
  | failed budget =>
    cases budget with
    | zero => exact exhausted
    | succ budget => exact other budget
  | found t budget => exact one

end Outcome.Ends

namespace Subject

variable {subject : Subject}

theorem hasAt_inside {t : List Char} {pos : Nat} (inside : pos ≤ subject.text.size)
    (has : subject.hasAt pos t = true) :
    pos + t.length ≤ subject.text.size := by
  induction t generalizing pos with
  | nil => exact inside
  | cons c rest ih =>
    rw [hasAt, Bool.and_eq_true, beq_iff_eq] at has
    obtain ⟨bound, _⟩ := Array.getElem?_eq_some_iff.mp has.1
    have rest := ih bound has.2
    rw [List.length_cons]
    omega

theorem sameText_inside {lo pos count : Nat} (inside : pos ≤ subject.text.size)
    (same : subject.sameText lo pos count = true) : pos + count ≤ subject.text.size := by
  induction count generalizing lo pos with
  | zero => exact inside
  | succ count ih =>
    rw [sameText] at same
    split at same
    · next here =>
      rw [Bool.and_eq_true] at same
      obtain ⟨bound, _⟩ := Array.getElem?_eq_some_iff.mp here
      have rest := ih bound same.2
      omega
    · cases same

end Subject

namespace Plan

/-- Where a plan may lead from a state. -/
def Leads (subject : Subject) (plan : Plan) : State → State → Prop :=
  State.Reaches subject.text.size (plan.goesBack = false) (plan.movesStart = false) (plan.keepsBehind = false)

variable {subject : Subject} {property : State → Prop}

/-- A loop leads where its body leads in any number of iterations. -/
theorem iterate_ends {body : Plan} {lo : Nat} {hi : Option Nat} {greedy guarded : Bool} {next : Next} {s : State}
    (bodies : ∀ {next : Next} {s : State} (budget : Nat), s.pos ≤ subject.text.size →
      (∀ t budget, body.Leads subject s t → (next t budget).Ends property) →
      (body.run subject next s budget).Ends property)
    (fuel count : Nat) (last : Option Nat) (budget : Nat) (inside : s.pos ≤ subject.text.size)
    (after : ∀ t budget, (loop body lo hi greedy guarded).Leads subject s t → (next t budget).Ends property) :
    (iterate (body.run subject) lo hi greedy guarded next fuel count last s budget).Ends property := by
  induction fuel generalizing count last budget s with
  | zero => exact .failed budget
  | succ fuel ih =>
    have stop (budget : Nat) : (next s budget).Ends property := after s budget (.refl inside)
    have on (last : Option Nat) (budget : Nat) :
        (body.run subject (iterate (body.run subject) lo hi greedy guarded next fuel (count + 1) last) s budget).Ends
          property := by
      refine bodies budget inside fun t budget leads => ih _ _ _ leads.inside fun u budget leads' => ?_
      refine after u budget ((leads.trans leads').mono (fun same => ⟨same, same⟩) (fun same => ⟨same, same⟩) ?_)
      intro calm
      obtain ⟨forward, ahead⟩ := Bool.or_eq_false_iff.mp calm
      exact ⟨ahead, .inl ⟨forward, calm⟩⟩
    simp only [iterate]
    split
    · exact stop budget
    · split
      · exact .failed budget
      · split
        · exact on last budget
        · split
          · exact (on _ budget).orElse stop
          · exact (stop budget).orElse fun budget => on _ budget

/-- A run of a plan hands on states to which the plan leads, and nothing else is found. -/
theorem run_ends (plan : Plan) {next : Next} {s : State} (budget : Nat) (inside : s.pos ≤ subject.text.size)
    (after : ∀ t budget, plan.Leads subject s t → (next t budget).Ends property) :
    (plan.run subject next s budget).Ends property := by
  induction plan generalizing property next s budget with
  | done => exact after s budget (.refl inside)
  | text t =>
    simp only [run]
    split
    · next has => exact after _ budget (.move (Subject.hasAt_inside inside has) fun _ => Nat.le_add_right ..)
    · exact .failed budget
  | take members =>
    simp only [run]
    split
    · next member =>
      obtain ⟨c, here, _⟩ := (Option.any_eq_true ..).mp member
      obtain ⟨bound, _⟩ := Array.getElem?_eq_some_iff.mp here
      exact after _ budget (.move bound fun _ => Nat.le_succ _)
    · exact .failed budget
  | plain program groups =>
    simp only [run]
    split
    · next hit found =>
      have within : hit.From s.pos subject.text := program.runAt_from inside found
      refine after _ budget ⟨within.inside, fun _ => within.reached, fun alone => ?_, fun _ lo reached begun => ?_⟩
      · exact Slots.get?_setGroups _ _ (by simpa [movesStart] using alone)
      · exact begun.setGroups (fun mark member => Nat.le_trans reached (within.marks mark member)) groups
    · exact .failed budget
  | check look =>
    simp only [run]
    split
    · exact after s budget (.refl inside)
    · exact .failed budget
  | seq first second ihFirst ihSecond =>
    refine ihFirst budget inside fun t budget leads => ihSecond budget leads.inside fun u budget leads' => ?_
    refine after u budget ((leads.trans leads').mono ?_ ?_ ?_)
    · exact Bool.or_eq_false_iff.mp
    · exact Bool.or_eq_false_iff.mp
    · intro calm
      obtain ⟨before, behind⟩ := Bool.or_eq_false_iff.mp calm
      cases forward : first.goesBack with
      | true => exact ⟨before, .inr (by simpa [forward] using behind)⟩
      | false => exact ⟨before, .inl ⟨rfl, by simpa [forward] using behind⟩⟩
  | alt first second ihFirst ihSecond =>
    refine (ihFirst budget inside fun t budget leads => after t budget (leads.mono ?_ ?_ ?_)).orElse fun budget =>
      ihSecond budget inside fun t budget leads => after t budget (leads.mono ?_ ?_ ?_)
    · exact fun calm => (Bool.or_eq_false_iff.mp calm).1
    · exact fun calm => (Bool.or_eq_false_iff.mp calm).1
    · exact fun calm => (Bool.or_eq_false_iff.mp calm).1
    · exact fun calm => (Bool.or_eq_false_iff.mp calm).2
    · exact fun calm => (Bool.or_eq_false_iff.mp calm).2
    · exact fun calm => (Bool.or_eq_false_iff.mp calm).2
  | capture index body ih =>
    simp only [run]
    refine ih budget inside fun t budget leads => ?_
    refine after _ budget ⟨leads.inside, leads.forward, fun alone => ?_, fun calm lo reached begun => ?_⟩
    · obtain ⟨numbered, alone⟩ := Bool.or_eq_false_iff.mp alone
      have other : index ≠ 0 := beq_eq_false_iff_ne.mp numbered
      rw [Slots.get?_set, if_neg (by omega), leads.alone alone, Slots.get?_set, if_neg (by omega)]
    · intro start found
      rw [Slots.get?_set, if_neg (by omega)] at found
      exact leads.ahead calm lo reached (begun.set _ reached) start found
  | option body greedy ih =>
    have stop (budget : Nat) : (next s budget).Ends property := after s budget (.refl inside)
    have on (budget : Nat) : (body.run subject next s budget).Ends property := ih budget inside after
    simp only [run]
    split
    · exact (on budget).orElse stop
    · exact (stop budget).orElse on
  | loop body lo hi greedy guarded ih =>
    exact iterate_ends (fun budget inside after => ih budget inside after) _ _ _ budget inside after
  | ahead body ih =>
    refine ih budget inside fun t budget leads => after _ budget
      ⟨inside, fun _ => Nat.le_refl _, leads.alone, leads.ahead⟩
  | notAhead body ih =>
    simp only [run]
    split
    · exact .exhausted
    · exact .failed _
    · exact .exhausted
    · exact after s _ (.refl inside)
  | back count =>
    simp only [run]
    split
    · exact after _ budget (.move (Nat.le_trans (Nat.sub_le ..) inside) fun back => by cases back)
    · exact .failed budget
  | atomic body ih =>
    have inner : (body.run subject .found s budget).Ends (body.Leads subject s) :=
      ih budget inside fun t budget leads => .found leads budget
    simp only [run]
    split
    · next t left found => exact after t left (inner t left found)
    · next other =>
      intro t left found
      exact absurd found (other t left)
  | backref index =>
    simp only [run]
    split
    · split
      · next same => exact after _ budget (.move (Subject.sameText_inside inside same.2) fun _ => Nat.le_add_right ..)
      · exact .failed budget
    · exact .failed budget
  | keep =>
    refine after _ budget ⟨inside, fun _ => Nat.le_refl _, fun alone => ?_, fun _ lo reached begun => ?_⟩
    · cases alone
    · exact begun.set 0 reached
  | resume =>
    simp only [run]
    split
    · exact after s budget (.refl inside)
    · exact .failed budget
  | matched index =>
    simp only [run]
    split
    · exact after s budget (.refl inside)
    · exact .failed budget
  | conditional condition yes no ihCondition ihYes ihNo =>
    have asked : (condition.run subject .found s budget).Ends (condition.Leads subject s) :=
      ihCondition budget inside fun t budget leads => .found leads budget
    simp only [run]
    split
    · exact .exhausted
    · next t left found =>
      have leads := asked t left found
      refine ihYes left leads.inside fun u budget leads' => after u budget ((leads.trans leads').mono ?_ ?_ ?_)
      all_goals
        intro calm
        simp only [goesBack, movesStart, keepsBehind, Bool.or_eq_false_iff] at calm
      · exact calm.1
      · exact calm.1
      · exact ⟨calm.1.1.2, .inl ⟨calm.1.1.1, calm.1.2⟩⟩
    · exact .exhausted
    · refine ihNo _ inside fun u budget leads => after u budget (leads.mono ?_ ?_ ?_)
      all_goals
        intro calm
        simp only [goesBack, movesStart, keepsBehind, Bool.or_eq_false_iff] at calm
        exact calm.2

end Plan

/-! ## Matches -/

/-- What a search from `pos` on ends with: where the match stops and, if no start was set in front of the search,
where it begins. -/
structure State.Located (text : Array Char) (pos : Nat) (ahead : Prop) (s : State) : Prop where
  stop : ∃ stop, s.slots.get? 1 = some stop ∧ pos ≤ stop ∧ stop ≤ text.size
  start : ahead → s.slots.StartsFrom pos

theorem Plan.search_located {plan : Plan} (forward : plan.goesBack = false) {text : Array Char} {pos : Nat}
    (inside : pos ≤ text.size) : (plan.search text pos).Ends (State.Located text pos (plan.keepsBehind = false)) := by
  refine run_ends (.loop (.take .all) 0 none false false) _ inside fun s budget leads => ?_
  have reached : pos ≤ s.pos := leads.forward rfl
  have begun : s.slots.StartsFrom pos := leads.ahead rfl pos (Nat.le_refl _) fun start found => by cases found
  simp only [run]
  refine run_ends plan budget leads.inside fun t budget leads' u _ same => ?_
  cases same
  refine ⟨⟨t.pos, ?_, Nat.le_trans reached (leads'.forward forward), leads'.inside⟩, fun calm start found => ?_⟩
  · rw [Slots.get?_set, if_pos rfl]
  · rw [Slots.get?_set, if_neg (by omega)] at found
    exact leads'.ahead calm pos reached (begun.set 0 reached) start found

end Extended

/-- A stretch of the text that stops behind `pos`, and begins there as well if it is `ahead`. -/
structure Span.Located (text : Array Char) (pos : Nat) (ahead : Prop) (span : Span) : Prop where
  ordered : span.start ≤ span.stop
  inside : span.stop ≤ text.size
  reached : pos ≤ span.stop
  ahead : ahead → pos ≤ span.start

namespace Matcher

open Extended

variable {text : Array Char} {pos : Nat} {span : Span} {ahead : Prop}

theorem findPlain?_located {program : Program} {groups : Nat} (inside : pos ≤ text.size)
    (found : findPlain? program groups text pos = some span) : span.Located text pos ahead := by
  obtain ⟨⟨start, hit⟩, searched, rfl⟩ := Option.map_eq_some_iff.mp found
  obtain ⟨later, within⟩ := program.search?_from inside searched
  exact ⟨within.reached, within.inside, Nat.le_trans later within.reached, fun _ => later⟩

/-- A match of a matcher that was made from a tree lies behind the position, and begins there unless a `\K` in
something that looks behind moves its start. -/
theorem find_located_tree {tree : Extended.Tree} {matcher : Matcher} (made : ofTree? tree = some matcher)
    (inside : pos ≤ text.size) (found : matcher.find text pos = some (some span)) :
    span.Located text pos (tree.term.keepsBehind = false) := by
  rw [ofTree?] at made
  split at made
  · obtain ⟨plan, planned, rfl⟩ := Option.map_eq_some_iff.mp made
    have located := Plan.search_located (Plan.goesBack_ofTerm? planned) inside
    rw [find] at found
    split at found
    · cases found
    · cases found
    · next s budget searched =>
      obtain ⟨⟨start, stop⟩, taken, rfl⟩ := Option.map_eq_some_iff.mp (Option.some.inj found)
      obtain ⟨⟨finish, closed, reached, within⟩, begun⟩ := located s budget searched
      have parts : s.slots.get? 0 = some start ∧ finish = stop := by
        cases opened : s.slots.get? 0 <;> simp_all [slotSpan?]
      obtain ⟨opened, rfl⟩ := parts
      refine ⟨Nat.min_le_right .., within, reached, fun calm => Nat.le_min.mpr ⟨?_, reached⟩⟩
      exact begun (Plan.keepsBehind_ofTerm? calm planned) start opened
  · obtain ⟨part, _, made⟩ := Option.bind_eq_some_iff.mp made
    obtain ⟨_, same⟩ := Option.ite_none_right_eq_some.mp made
    cases same
    exact findPlain?_located inside (Option.some.inj found)

/-- Whatever search accepted a pattern text, a match lies behind the position where it was searched for. -/
theorem find_located {cs : List Char} {matcher : Matcher} (read : ofText? cs = some matcher)
    (inside : pos ≤ text.size)
    (found : matcher.find text pos = some (some span)) :
    span.Located text pos (matcher.isBacktracking = true →
      ∀ tree, Extended.Tree.ofText? cs = some tree → tree.term.keepsBehind = false) := by
  have accepted := ofText?_eq_some read
  cases hard : matcher.isBacktracking with
  | false =>
    rw [hard] at accepted
    obtain ⟨tree, _, rfl⟩ := ofPlain?_eq_some accepted
    exact findPlain?_located inside (Option.some.inj found)
  | true =>
    rw [hard] at accepted
    obtain ⟨tree, drawn, made⟩ := ofExtended?_eq_some accepted
    have located := find_located_tree made inside found
    exact ⟨located.ordered, located.inside, located.reached, fun calm => located.ahead (calm rfl tree drawn)⟩

end Matcher
end PatternComposer.Regex
