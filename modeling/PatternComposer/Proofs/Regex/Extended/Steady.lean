import PatternComposer.Proofs.Regex.Extended.Planned
import PatternComposer.Regex.Extended.Tree

/-! # Where a match begins

The start of a match is set once, unless the pattern has a `\K`: no group takes the number of the whole
match. What moves the start is carried from tokens to terms and from terms to plans.
-/

namespace PatternComposer.Regex.Extended

namespace Term

mutual

/-- Some part of the term sets the start of the whole match. -/
def movesStart : Term → Bool
  | .cat items => anyMovesStart items
  | .alt branches => anyMovesStart branches
  | .group index body => index == 0 || body.movesStart
  | .rep body _ _ _ => body.movesStart
  | .around _ body => body.movesStart
  | .atomic body => body.movesStart
  | .keep => true
  | .conditional condition yes no => condition.movesStart || yes.movesStart || no.movesStart
  | _ => false

def anyMovesStart : List Term → Bool
  | [] => false
  | t :: rest => t.movesStart || anyMovesStart rest

end

def isKeep : Term → Bool
  | .keep => true
  | _ => false

theorem anyMovesStart_eq_false {terms : List Term} :
    anyMovesStart terms = false ↔ ∀ t ∈ terms, t.movesStart = false := by
  induction terms with
  | nil => simp [anyMovesStart]
  | cons t rest ih => simp [anyMovesStart, ih]

mutual

/-- Groups of a term that leaves the start alone do not have the number of the whole match. -/
theorem zero_notMem_groups {t : Term} (steady : t.movesStart = false) : 0 ∉ t.groups := by
  cases t with
  | cat items => rw [movesStart] at steady; rw [groups]; exact zero_notMem_allGroups steady
  | alt branches => rw [movesStart] at steady; rw [groups]; exact zero_notMem_allGroups steady
  | group index body =>
    rw [movesStart, Bool.or_eq_false_iff, beq_eq_false_iff_ne] at steady
    have inner := zero_notMem_groups steady.2
    simp [groups, steady.1.symm, inner]
  | rep body lo hi greedy => rw [movesStart] at steady; rw [groups]; exact zero_notMem_groups steady
  | around kind body => rw [movesStart] at steady; rw [groups]; exact zero_notMem_groups steady
  | atomic body => rw [movesStart] at steady; rw [groups]; exact zero_notMem_groups steady
  | conditional condition yes no =>
    rw [movesStart, Bool.or_eq_false_iff, Bool.or_eq_false_iff] at steady
    have asked := zero_notMem_groups steady.1.1
    have left := zero_notMem_groups steady.1.2
    have right := zero_notMem_groups steady.2
    simp [groups, asked, left, right]
  | _ => simp [groups]

theorem zero_notMem_allGroups {terms : List Term} (steady : anyMovesStart terms = false) : 0 ∉ allGroups terms := by
  match terms with
  | [] => simp [allGroups]
  | t :: rest =>
    rw [anyMovesStart, Bool.or_eq_false_iff] at steady
    have first := zero_notMem_groups steady.1
    have others := zero_notMem_allGroups steady.2
    simp [allGroups, first, others]

end

end Term

/-! ## Conditionals -/

/-- What a conditional asks. -/
def test : Term → Term
  | .backref index => .matched index
  | t => t

/-- The two ways of a conditional. -/
def ways : Term → Term × Term
  | .alt (yes :: [no]) => (yes, no)
  | .alt (yes :: no) => (yes, .alt no)
  | t => (t, .empty)

theorem movesStart_ways {t : Term} (steady : t.movesStart = false) :
    (ways t).1.movesStart = false ∧ (ways t).2.movesStart = false := by
  have none : Term.empty.movesStart = false := by rw [Term.movesStart] <;> simp
  cases t with
  | alt branches =>
    match branches with
    | [] => exact ⟨steady, none⟩
    | [yes] => simpa [ways, Term.movesStart, Term.anyMovesStart] using steady
    | [yes, no] => simpa [ways, Term.movesStart, Term.anyMovesStart] using steady
    | yes :: no :: more :: rest => simpa [ways, Term.movesStart, Term.anyMovesStart] using steady
  | _ => exact ⟨steady, none⟩

theorem conditional?_eq (condition : Term) (level : Level) :
    conditional? condition level =
      if level.branches.isEmpty && level.pieces.isEmpty then
        match condition with
        | .backref _ => some (test condition)
        | _ => none
      else if Level.isNothing (ways level.term).1 && Level.isNothing (ways level.term).2 then some (test condition)
      else some (.conditional (test condition) (ways level.term).1 (ways level.term).2) := by
  rw [conditional?.eq_def]
  refine ite_congr rfl (fun _ => rfl) fun _ => ?_
  -- The two ways are those of the first branch and of all others.
  generalize level.term = t
  cases t with
  | alt branches =>
    rcases branches with _ | ⟨yes, _ | ⟨no, _ | ⟨more, rest⟩⟩⟩
    · rfl
    · cases yes <;> rfl
    · cases yes with
      | empty => cases no <;> rfl
      | _ => rfl
    · cases yes <;> rfl
  | _ => rfl

/-! ## From tokens to terms -/

/-- The token of a `\K`. -/
def Token.isKeep : Token → Bool
  | .atom t => t.isKeep
  | _ => false

def Token.movesStart : Token → Bool
  | .atom t => t.movesStart
  | .opening (.capture index _) => index == 0
  | _ => false

def LevelKind.movesStart : LevelKind → Bool
  | .capture index => index == 0
  | .branches t => t.movesStart
  | _ => false

/-- Nothing of the level sets the start of the whole match. -/
structure Level.Steady (level : Level) : Prop where
  kind : level.kind.movesStart = false
  branches : ∀ t ∈ level.branches, t.movesStart = false
  pieces : ∀ t ∈ level.pieces, t.movesStart = false

namespace Level.Steady

variable {level : Level}

theorem empty {kind : LevelKind} (steady : kind.movesStart = false) : Steady (.empty kind) :=
  ⟨steady, fun _ member => (nomatch member), fun _ member => nomatch member⟩

theorem push (steady : level.Steady) {t : Term} (calm : t.movesStart = false) : (level.push t).Steady where
  kind := steady.kind
  branches := steady.branches
  pieces := List.forall_mem_cons.mpr ⟨calm, steady.pieces⟩

theorem row (steady : level.Steady) : level.row.movesStart = false := by
  have kept : ∀ t ∈ level.pieces.reverse.filter (fun t => !isNothing t), t.movesStart = false :=
    fun t member => steady.pieces t (List.mem_reverse.mp (List.mem_filter.mp member |>.1))
  rw [Level.row]
  split
  · rw [Term.movesStart] <;> simp
  · next t only => exact kept t (by simp [only])
  · rw [Term.movesStart, Term.anyMovesStart_eq_false]
    exact kept

theorem term (steady : level.Steady) : level.term.movesStart = false := by
  rw [Level.term]
  split
  · exact steady.row
  · rw [Term.movesStart, Term.anyMovesStart_eq_false]
    intro t member
    rcases List.mem_cons.mp (List.mem_reverse.mp member) with rfl | member
    · exact steady.row
    · exact steady.branches t member

theorem bar (steady : level.Steady) : Steady ⟨level.kind, level.row :: level.branches, []⟩ where
  kind := steady.kind
  branches := List.forall_mem_cons.mpr ⟨steady.row, steady.branches⟩
  pieces := fun _ member => nomatch member

theorem quantify? (steady : level.Steady) {lo : Nat} {hi : Option Nat} {greedy possessive : Bool} {after : Level}
    (quantified : level.quantify? lo hi greedy possessive = some after) : after.Steady := by
  obtain ⟨kind, branches, pieces⟩ := level
  cases pieces with
  | nil => cases quantified
  | cons t pieces =>
    obtain ⟨_, same⟩ := Option.ite_none_right_eq_some.mp quantified
    obtain rfl := Option.some.inj same
    obtain ⟨calm, others⟩ := List.forall_mem_cons.mp steady.pieces
    refine ⟨steady.kind, steady.branches, List.forall_mem_cons.mpr ⟨?_, others⟩⟩
    cases possessive <;> simpa [Term.movesStart] using calm

theorem conditional? (steady : level.Steady) {condition t : Term} (calm : condition.movesStart = false)
    (chosen : Extended.conditional? condition level = some t) : t.movesStart = false := by
  have asks : (test condition).movesStart = false := by
    cases condition with
    | backref index => simp [test, Term.movesStart]
    | _ => exact calm
  rw [conditional?_eq] at chosen
  split at chosen
  · split at chosen
    · obtain rfl := Option.some.inj chosen
      exact asks
    · cases chosen
  · split at chosen
    · obtain rfl := Option.some.inj chosen
      exact asks
    · obtain rfl := Option.some.inj chosen
      obtain ⟨yes, no⟩ := movesStart_ways steady.term
      rw [Term.movesStart, asks, yes, no]
      rfl

end Level.Steady

/-! ## Arrangements -/

namespace Arrangement

/-- Nothing so far sets the start of the whole match. -/
structure Steady (a : Arrangement) : Prop where
  level : a.level.Steady
  outer : ∀ level ∈ a.outer, level.Steady

namespace Steady

variable {a b : Arrangement}

theorem opens (steady : a.Steady) {kind : LevelKind} (calm : kind.movesStart = false) : (a.opens kind).Steady where
  level := .empty calm
  outer := List.forall_mem_cons.mpr ⟨steady.level, steady.outer⟩

theorem refers (steady : a.Steady) {index : Nat} {numbered : Bool} (refers : a.refers index numbered = some b) :
    b.Steady := by
  obtain ⟨_, same⟩ := Option.ite_none_right_eq_some.mp refers
  obtain rfl := Option.some.inj same
  exact ⟨steady.level, steady.outer⟩

theorem close (steady : a.Steady) {t : Term} (calm : t.movesStart = false) (closed : a.close t = some b) :
    b.Steady := by
  obtain ⟨level, outer, groups, refs, numbered, named⟩ := a
  cases outer with
  | nil => cases closed
  | cons around outer =>
    obtain rfl := Option.some.inj closed
    obtain ⟨first, others⟩ := List.forall_mem_cons.mp steady.outer
    exact ⟨first.push calm, others⟩

theorem step (steady : a.Steady) {token : Token} (calm : token.movesStart = false) (stepped : a.step token = some b) :
    b.Steady := by
  cases token with
  | atom t =>
    obtain rfl := Option.some.inj stepped
    exact ⟨steady.level.push calm, steady.outer⟩
  | reference index numbered =>
    obtain ⟨c, refers, rfl⟩ := Option.map_eq_some_iff.mp stepped
    have next := steady.refers refers
    exact ⟨next.level.push (by rw [Term.movesStart] <;> simp), next.outer⟩
  | quantifier lo hi greedy possessive =>
    obtain ⟨level, quantified, rfl⟩ := Option.map_eq_some_iff.mp stepped
    exact ⟨steady.level.quantify? quantified, steady.outer⟩
  | bar =>
    obtain rfl := Option.some.inj stepped
    exact ⟨steady.level.bar, steady.outer⟩
  | opening kind =>
    cases kind with
    | given index numbered =>
      obtain ⟨c, refers, rfl⟩ := Option.map_eq_some_iff.mp stepped
      exact (steady.refers refers).opens (by rw [LevelKind.movesStart, Term.movesStart] <;> simp)
    | capture index named =>
      obtain rfl := Option.some.inj stepped
      have next := @opens a steady (.capture index) calm
      exact ⟨next.level, next.outer⟩
    | _ =>
      obtain rfl := Option.some.inj stepped
      exact steady.opens rfl
  | closing =>
    have term := steady.level.term
    obtain ⟨_, stepped⟩ := Option.ite_none_left_eq_some.mp stepped
    have kind := steady.level.kind
    split at stepped
    · exact steady.close term stepped
    · next index same =>
      rw [same] at kind
      exact steady.close (by rw [Term.movesStart, term, Bool.or_false]; exact kind) stepped
    · exact steady.close (by rw [Term.movesStart, term]) stepped
    · exact steady.close (by rw [Term.movesStart, term]) stepped
    · obtain rfl := Option.some.inj stepped
      exact ⟨.empty term, steady.outer⟩
    · next condition same =>
      rw [same] at kind
      obtain ⟨t, chosen, closed⟩ := Option.bind_eq_some_iff.mp stepped
      exact steady.close (steady.level.conditional? kind chosen) closed

theorem foldlM {tokens : List Token} (calm : ∀ token ∈ tokens, token.movesStart = false) (steady : a.Steady)
    (folded : tokens.foldlM Arrangement.step a = some b) : b.Steady := by
  induction tokens generalizing a with
  | nil => cases folded; exact steady
  | cons token tokens ih =>
    obtain ⟨first, others⟩ := List.forall_mem_cons.mp calm
    obtain ⟨c, stepped, folded⟩ := Option.bind_eq_some_iff.mp folded
    exact ih others (steady.step first stepped) folded

end Steady

end Arrangement

theorem Tree.movesStart_ofTokens? {tokens : List Token} {tree : Tree}
    (calm : ∀ token ∈ tokens, token.movesStart = false) (arranged : ofTokens? tokens = some tree) :
    tree.term.movesStart = false := by
  obtain ⟨a, folded, finished⟩ := Option.bind_eq_some_iff.mp arranged
  obtain ⟨_, same⟩ := Option.ite_none_right_eq_some.mp finished
  obtain rfl := Option.some.inj same
  have start : Arrangement.initial.Steady := ⟨.empty rfl, fun _ member => nomatch member⟩
  exact (start.foldlM calm folded).level.term

/-! ## From terms to plans -/

namespace Plan

/-- Some part of the plan sets the start of the whole match. -/
def movesStart : Plan → Bool
  | .plain _ groups => groups.contains 0
  | .seq first second => first.movesStart || second.movesStart
  | .alt first second => first.movesStart || second.movesStart
  | .capture index body => index == 0 || body.movesStart
  | .option body _ => body.movesStart
  | .loop body _ _ _ _ => body.movesStart
  | .ahead body => body.movesStart
  | .notAhead body => body.movesStart
  | .atomic body => body.movesStart
  | .keep => true
  | .conditional condition yes no => condition.movesStart || yes.movesStart || no.movesStart
  | _ => false

theorem movesStart_ofEasy? {terms : List Term} (steady : ∀ t ∈ terms, t.movesStart = false) {plan : Plan}
    (easy : ofEasy? terms = some plan) : plan.movesStart = false := by
  have groups := Term.zero_notMem_allGroups (Term.anyMovesStart_eq_false.mpr steady)
  rw [ofEasy?.eq_def] at easy
  split at easy
  · obtain rfl := Option.some.inj easy
    rfl
  · split at easy
    · obtain rfl := Option.some.inj easy
      rfl
    · obtain ⟨parts, _, planned⟩ := Option.bind_eq_some_iff.mp easy
      obtain ⟨_, same⟩ := Option.ite_none_right_eq_some.mp planned
      obtain rfl := Option.some.inj same
      simpa [movesStart] using groups

theorem movesStart_look (kind : Around) (plan : Plan) : (look kind plan).movesStart = plan.movesStart := by
  cases kind <;> rfl

theorem carried_movesStart (refs : List Nat) :
    Carried refs (fun t => t.movesStart = false) fun plan => plan.movesStart = false where
  leaf {plan} leaf := by cases plan <;> first | rfl | cases leaf
  easy steady planned := movesStart_ofEasy? steady planned
  keep here := by rw [Term.movesStart] at here; cases here
  items here := by rwa [Term.movesStart, Term.anyMovesStart_eq_false] at here
  seq before after := Bool.or_eq_false_iff.mpr ⟨before, after⟩
  branches here := by rwa [Term.movesStart, Term.anyMovesStart_eq_false] at here
  alt before after := Bool.or_eq_false_iff.mpr ⟨before, after⟩
  group here := by
    rw [Term.movesStart, Bool.or_eq_false_iff] at here
    exact ⟨here.2, fun plan inner => Bool.or_eq_false_iff.mpr ⟨here.1, inner⟩⟩
  body here := by rwa [Term.movesStart] at here
  option inner := inner
  loop inner := inner
  ahead kind _ plan _ here inner := by
    rw [Term.movesStart] at here
    rw [movesStart_look, inner here]
  behind kind count _ plan _ here _ inner := by
    rw [Term.movesStart] at here
    rw [movesStart_look]
    exact inner here
  behindEach _ here t member := by
    rw [Term.movesStart, Term.movesStart, Term.anyMovesStart_eq_false] at here
    rw [Term.movesStart, here t member]
  atomic here := by
    rw [Term.movesStart] at here
    exact ⟨here, fun _ inner => inner⟩
  conditional here := by
    rw [Term.movesStart, Bool.or_eq_false_iff, Bool.or_eq_false_iff, and_assoc] at here
    refine ⟨here, fun asked left right asks first second => ?_⟩
    rw [movesStart, asks, first, second]
    rfl

/-- The plan of a term that leaves the start alone leaves it alone. -/
theorem movesStart_ofTerm? {refs : List Nat} {hard : Bool} {t : Term} (steady : t.movesStart = false) {plan : Plan}
    (planned : ofTerm? refs hard t = some plan) : plan.movesStart = false :=
  (carried_movesStart refs).ofTerm? steady planned

end Plan

end PatternComposer.Regex.Extended
