import PatternComposer.Proofs.Regex.Extended.Inside
import PatternComposer.Proofs.Regex.Extended.Steady
import PatternComposer.Proofs.Regex.Leading

/-! # Extended patterns inside a group

The tokens of a pattern come back inside a group, but a reference reads as the one that it was before.
If the references move on with the groups as well, the tree of the group is that of the pattern with
later numbers.
-/

namespace PatternComposer.Regex.Extended

/-! ## References -/

/-- The group that a token refers to. -/
def Token.ref? : Token → Option Nat
  | .reference index _ => some index
  | .opening (.given index _) => some index
  | _ => none

namespace Arrangement

theorem refs_close {a b : Arrangement} {t : Term} (closed : a.close t = some b) : b.refs = a.refs := by
  rw [close] at closed
  split at closed
  · cases closed
  · cases closed; rfl

theorem refs_step {a b : Arrangement} {token : Token} (stepped : a.step token = some b) :
    b.refs = token.ref?.toList ++ a.refs := by
  cases token with
  | atom t => cases stepped; rfl
  | reference index numbered =>
    obtain ⟨c, refers, rfl⟩ := Option.map_eq_some_iff.mp stepped
    obtain ⟨_, same⟩ := Option.ite_none_right_eq_some.mp refers
    cases same
    rfl
  | quantifier lo hi greedy possessive =>
    obtain ⟨level, _, rfl⟩ := Option.map_eq_some_iff.mp stepped
    rfl
  | bar => cases stepped; rfl
  | opening kind =>
    cases kind with
    | given index numbered =>
      obtain ⟨c, refers, rfl⟩ := Option.map_eq_some_iff.mp stepped
      obtain ⟨_, same⟩ := Option.ite_none_right_eq_some.mp refers
      cases same
      rfl
    | _ => cases stepped; rfl
  | closing =>
    change b.refs = a.refs
    rw [step] at stepped
    split at stepped
    · cases stepped
    · split at stepped
      case h_5 => cases stepped; rfl
      case h_6 =>
        obtain ⟨t, _, closed⟩ := Option.bind_eq_some_iff.mp stepped
        exact refs_close closed
      all_goals exact refs_close stepped

theorem refs_foldlM {tokens : List Token} {a b : Arrangement} (folded : tokens.foldlM step a = some b) :
    b.refs = (tokens.filterMap Token.ref?).reverse ++ a.refs := by
  induction tokens generalizing a with
  | nil => cases folded; rfl
  | cons token tokens ih =>
    obtain ⟨c, stepped, folded⟩ := Option.bind_eq_some_iff.mp folded
    rw [ih folded, refs_step stepped, List.filterMap_cons]
    cases token.ref? <;> simp

end Arrangement

namespace Token.Moved

variable {refer : Nat → Nat → Prop} {token token' : Token}

theorem isSome_ref? (moved : Moved refer token token') : token'.ref?.isSome = token.ref?.isSome := by
  cases moved <;> rfl

theorem pin (moved : Moved refer token token') (same : token'.ref? = token.ref?.map laterGroup) :
    Moved (fun index other => other = laterGroup index) token token' := by
  cases moved with
  | atom simple => exact .atom simple
  | reference _ => exact .reference (Option.some.inj same)
  | quantifier => exact .quantifier
  | bar => exact .bar
  | plain => exact .plain
  | capture => exact .capture
  | around => exact .around
  | atomic => exact .atomic
  | condition => exact .condition
  | given _ => exact .given (Option.some.inj same)
  | closing => exact .closing

end Token.Moved

/-- Tokens whose references move on one by one. -/
theorem Token.pin_all {refer : Nat → Nat → Prop} {pairs : List (Token × Token)}
    (all : ∀ pair ∈ pairs, Moved refer pair.1 pair.2)
    (refs : (pairs.map Prod.snd).filterMap ref? = ((pairs.map Prod.fst).filterMap ref?).map laterGroup) :
    ∀ pair ∈ pairs, Moved (fun index other => other = laterGroup index) pair.1 pair.2 := by
  induction pairs with
  | nil => exact fun _ member => nomatch member
  | cons first rest ih =>
    obtain ⟨token, token'⟩ := first
    have moved : Moved refer token token' := all _ List.mem_cons_self
    have both := moved.isSome_ref?
    obtain ⟨same, others⟩ : token'.ref? = token.ref?.map laterGroup ∧
        (rest.map Prod.snd).filterMap ref? = ((rest.map Prod.fst).filterMap ref?).map laterGroup := by
      simp only [List.map_cons, List.filterMap_cons] at refs
      cases found : token.ref? with
      | none =>
        have found' : token'.ref? = none := by simpa [found] using both
        exact ⟨by simp [found'], by simpa [found, found'] using refs⟩
      | some index =>
        obtain ⟨other, found'⟩ := Option.isSome_iff_exists.mp (by rw [both, found]; rfl)
        simpa [found, found'] using refs
    intro pair member
    rcases List.mem_cons.mp member with rfl | member
    · exact moved.pin same
    · exact ih (fun pair member => all pair (List.mem_cons_of_mem _ member)) others pair member

/-! ## Levels with later numbers -/

namespace LevelKind

def later : LevelKind → LevelKind
  | .capture index => .capture (laterGroup index)
  | .branches t => .branches t.later
  | kind => kind

end LevelKind

namespace Level

def later (level : Level) : Level := ⟨level.kind.later, level.branches.map Term.later, level.pieces.map Term.later⟩

theorem isNothing_later (t : Term) : isNothing t.later = isNothing t := by
  cases t <;> simp [Term.later, isNothing]

/-- Pieces that stand for nothing in front of a row do not count. -/
theorem row_append (kind : LevelKind) (branches pieces : List Term) {nothings : List Term}
    (nothing : ∀ t ∈ nothings, t = .empty) :
    row ⟨kind, branches, pieces ++ nothings⟩ = row ⟨kind, branches, pieces⟩ := by
  have none : nothings.reverse.filter (fun t => !isNothing t) = [] := by
    rw [List.filter_eq_nil_iff]
    intro t member
    simp [nothing t (List.mem_reverse.mp member), isNothing]
  simp only [row, List.reverse_append, List.filter_append, none, List.nil_append]

theorem row_later (kind kind' : LevelKind) (branches branches' pieces : List Term) {nothings : List Term}
    (nothing : ∀ t ∈ nothings, t = .empty) :
    row ⟨kind', branches', pieces.map Term.later⟩ = (row ⟨kind, branches, pieces ++ nothings⟩).later := by
  rw [row_append kind branches pieces nothing]
  have some : (pieces.map Term.later).reverse.filter (fun t => !isNothing t) =
      (pieces.reverse.filter fun t => !isNothing t).map Term.later := by
    rw [← List.map_reverse, List.filter_map]
    congr 2
    funext t
    simp [isNothing_later]
  simp only [row, some]
  generalize pieces.reverse.filter (fun t => !isNothing t) = left
  cases left with
  | nil => simp [Term.later]
  | cons t rest =>
    cases rest with
    | nil => rfl
    | cons u rest => simp [Term.later, Term.laterAll_eq_map]

theorem term_map_later (kind kind' : LevelKind) (branches pieces : List Term) {nothings : List Term}
    (nothing : ∀ t ∈ nothings, t = .empty) :
    term ⟨kind', branches.map Term.later, pieces.map Term.later⟩ =
      (term ⟨kind, branches, pieces ++ nothings⟩).later := by
  have row := row_later kind kind' branches (branches.map Term.later) pieces nothing
  cases branches with
  | nil => exact row
  | cons last branches =>
    change Term.alt _ = Term.later (.alt _)
    rw [row, Term.later, Term.laterAll_eq_map]
    simp

theorem term_later (level : Level) : level.later.term = level.term.later := by
  have same := @term_map_later level.kind level.kind.later level.branches level.pieces []
    fun _ member => nomatch member
  rwa [List.append_nil] at same

theorem bar_later (level : Level) :
    (⟨level.later.kind, level.later.row :: level.later.branches, []⟩ : Level) =
      later ⟨level.kind, level.row :: level.branches, []⟩ := by
  have row := @row_later level.kind level.later.kind level.branches level.later.branches level.pieces []
    fun _ member => nomatch member
  rw [List.append_nil] at row
  simp only [later, List.map_cons, List.map_nil] at row ⊢
  rw [row]

theorem quantify?_later (level : Level) (lo : Nat) (hi : Option Nat) (greedy possessive : Bool) :
    level.later.quantify? lo hi greedy possessive = (level.quantify? lo hi greedy possessive).map later := by
  obtain ⟨kind, branches, pieces⟩ := level
  cases pieces with
  | nil => rfl
  | cons t pieces =>
    by_cases repeatable : t.isRepeatable = true <;> cases possessive <;>
      simp [quantify?, later, Term.later, repeatable]

end Level

/-! ## Conditionals -/

theorem test_later (condition : Term) : test condition.later = (test condition).later := by
  cases condition <;> simp [Term.later, test]

theorem ways_later (t : Term) : ways t.later = ((ways t).1.later, (ways t).2.later) := by
  cases t with
  | alt branches =>
    match branches with
    | [] => simp [Term.later, Term.laterAll, ways]
    | [yes] => simp [Term.later, Term.laterAll, ways]
    | [yes, no] => simp [Term.later, Term.laterAll, ways]
    | yes :: no :: more :: rest => simp [Term.later, Term.laterAll, ways]
  | _ => simp [Term.later, ways]

theorem conditional?_later (condition : Term) (level : Level) :
    conditional? condition.later level.later = (conditional? condition level).map Term.later := by
  rw [conditional?_eq, conditional?_eq, Level.term_later, ways_later, test_later, Level.isNothing_later,
    Level.isNothing_later]
  have bare : (level.later.branches.isEmpty && level.later.pieces.isEmpty) =
      (level.branches.isEmpty && level.pieces.isEmpty) := by simp [Level.later]
  rw [bare]
  split
  · cases condition <;> simp [Term.later, test]
  · split
    · rfl
    · simp [Term.later]

/-! ## Arrangements -/

/-- The outermost level of a pattern, and the level of the same pattern inside its first group. What
stands for nothing may come first on the outermost level. -/
inductive Level.Grouped : Level → Level → Prop where
  | intro {branches pieces nothings} (nothing : ∀ t ∈ nothings, t = Term.empty) :
      Grouped ⟨.plain, branches, pieces ++ nothings⟩
        ⟨.capture 1, branches.map Term.later, pieces.map Term.later⟩

namespace Level.Grouped

variable {level inner : Level}

theorem term (grouped : Grouped level inner) : inner.term = level.term.later := by
  obtain ⟨nothing⟩ := grouped
  exact term_map_later _ _ _ _ nothing

theorem isEmpty_branches (grouped : Grouped level inner) : inner.branches.isEmpty = level.branches.isEmpty := by
  cases grouped
  exact List.isEmpty_map

theorem push (grouped : Grouped level inner) (t : Term) : Grouped (level.push t) (inner.push t.later) := by
  obtain ⟨nothing⟩ := grouped
  next branches pieces nothings => exact @intro branches (t :: pieces) nothings nothing

theorem bar (grouped : Grouped level inner) :
    Grouped ⟨level.kind, level.row :: level.branches, []⟩ ⟨inner.kind, inner.row :: inner.branches, []⟩ := by
  obtain ⟨nothing⟩ := grouped
  next branches pieces nothings =>
  rw [row_later .plain _ branches _ pieces nothing]
  exact @intro (_ :: branches) [] [] fun _ member => nomatch member

/-- What stands for nothing cannot be repeated. -/
theorem quantify? (grouped : Grouped level inner) (lo : Nat) (hi : Option Nat) (greedy possessive : Bool) :
    Lifts Grouped (level.quantify? lo hi greedy possessive) (inner.quantify? lo hi greedy possessive) := by
  obtain ⟨nothing⟩ := grouped
  next branches pieces nothings =>
  cases pieces with
  | nil =>
    cases nothings with
    | nil => exact .none
    | cons t nothings =>
      obtain rfl := nothing t List.mem_cons_self
      exact .none
  | cons t pieces =>
    simp only [Level.quantify?, List.map_cons, List.cons_append, Term.isRepeatable_later]
    refine .ite (fun _ => .some ?_) fun _ => .none
    cases possessive
    · exact @intro branches (.rep t lo hi greedy :: pieces) nothings nothing
    · exact @intro branches (.atomic (.rep t lo hi greedy) :: pieces) nothings nothing

end Level.Grouped

namespace Arrangement

/-- An arrangement, and the one inside the first group of a pattern with a level around it. -/
inductive Enclosed (base : Level) : Arrangement → Arrangement → Prop where
  | bottom {level inner groups refs numbered named} (grouped : level.Grouped inner) :
      Enclosed base ⟨level, [], groups, refs, numbered, named⟩
        ⟨inner, [base], groups + 1, refs.map laterGroup, numbered, named⟩
  | deeper (level outer) {around inner groups refs numbered named} (grouped : Level.Grouped around inner) :
      Enclosed base ⟨level, outer ++ [around], groups, refs, numbered, named⟩
        ⟨level.later, outer.map Level.later ++ [inner, base], groups + 1, refs.map laterGroup, numbered, named⟩

namespace Enclosed

variable {base : Level} {a b : Arrangement}

theorem consistent (enclosed : Enclosed base a b) : b.consistent = a.consistent := by
  cases enclosed with
  | bottom grouped => simp [Arrangement.consistent, grouped.isEmpty_branches]
  | deeper => simp [Arrangement.consistent, Level.later]

theorem push (enclosed : Enclosed base a b) (t : Term) :
    Enclosed base { a with level := a.level.push t } { b with level := b.level.push t.later } := by
  cases enclosed with
  | bottom grouped => exact .bottom (grouped.push t)
  | deeper level outer grouped => exact .deeper (level.push t) outer grouped

theorem bar (enclosed : Enclosed base a b) :
    Enclosed base { a with level := ⟨a.level.kind, a.level.row :: a.level.branches, []⟩ }
      { b with level := ⟨b.level.kind, b.level.row :: b.level.branches, []⟩ } := by
  cases enclosed with
  | bottom grouped => exact .bottom grouped.bar
  | deeper level outer grouped =>
    have next (groups : Nat) (refs : List Nat) (numbered named : Bool) := @deeper base
      ⟨level.kind, level.row :: level.branches, []⟩ outer _ _ groups refs numbered named grouped
    simp only [← Level.bar_later] at next
    exact next _ _ _ _

theorem quantify? (enclosed : Enclosed base a b) (lo : Nat) (hi : Option Nat) (greedy possessive : Bool) :
    Lifts (Enclosed base) ((a.level.quantify? lo hi greedy possessive).map fun level => { a with level := level })
      ((b.level.quantify? lo hi greedy possessive).map fun level => { b with level := level }) := by
  cases enclosed with
  | bottom grouped => exact (grouped.quantify? lo hi greedy possessive).map fun _ _ next => .bottom next
  | deeper level outer grouped =>
    rw [Level.quantify?_later, Option.map_map]
    exact .map_same fun next => .deeper next outer grouped

theorem opens (enclosed : Enclosed base a b) (kind : LevelKind) :
    Enclosed base (a.opens kind) (b.opens kind.later) := by
  cases enclosed with
  | bottom grouped => exact .deeper (.empty kind) [] grouped
  | deeper level outer grouped => exact .deeper (.empty kind) (level :: outer) grouped

/-- A reference moves on with the groups. -/
theorem refers (enclosed : Enclosed base a b) (index : Nat) (numbered : Bool) :
    Lifts (Enclosed base) (a.refers index numbered) (b.refers (laterGroup index) numbered) := by
  have within {groups : Nat} (small : index ≤ groups) : laterGroup index ≤ groups + 1 := by
    rw [laterGroup]
    split <;> omega
  intro next refers
  obtain ⟨small, same⟩ := Option.ite_none_right_eq_some.mp refers
  obtain rfl := Option.some.inj same
  cases enclosed with
  | bottom grouped => exact ⟨_, if_pos (within small), .bottom grouped⟩
  | deeper level outer grouped => exact ⟨_, if_pos (within small), .deeper level outer grouped⟩

theorem close (enclosed : Enclosed base a b) (t : Term) : Lifts (Enclosed base) (a.close t) (b.close t.later) := by
  cases enclosed with
  | bottom grouped => exact .none
  | deeper level outer grouped =>
    cases outer with
    | nil => exact .some (.bottom (grouped.push t))
    | cons around outer => exact .some (.deeper (around.push t) outer grouped)

theorem step (enclosed : Enclosed base a b) {token token' : Token}
    (moved : Token.Moved (fun index other => other = laterGroup index) token token') :
    Lifts (Enclosed base) (a.step token) (b.step token') := by
  cases moved with
  | atom _ => exact .some (enclosed.push _)
  | @reference index _ numbered link =>
    subst link
    refine (enclosed.refers index numbered).map fun c d next => ?_
    have pushed := next.push (.backref index)
    rwa [Term.later] at pushed
  | @quantifier lo hi greedy possessive => exact enclosed.quantify? lo hi greedy possessive
  | bar => exact .some enclosed.bar
  | plain => exact .some (enclosed.opens .plain)
  | @capture index named =>
    cases enclosed with
    | bottom grouped => exact .some (.deeper (.empty (.capture (index + 1))) [] grouped)
    | deeper level outer grouped => exact .some (.deeper (.empty (.capture (index + 1))) (level :: outer) grouped)
  | @around kind => exact .some (enclosed.opens (.around kind))
  | atomic => exact .some (enclosed.opens .atomic)
  | condition => exact .some (enclosed.opens .condition)
  | @given index _ numbered link =>
    subst link
    refine (enclosed.refers index numbered).map fun c d next => ?_
    have opened := next.opens (.branches (.backref index))
    rwa [LevelKind.later, Term.later] at opened
  | closing =>
    rw [Arrangement.step, Arrangement.step, enclosed.consistent]
    refine .ite (fun _ => .none) fun _ => ?_
    cases enclosed with
    | bottom grouped =>
      obtain ⟨_⟩ := grouped
      exact .none
    | @deeper level outer around inner groups refs numbered named grouped =>
      have enclosed := @deeper base level outer around inner groups refs numbered named grouped
      have same := level.term_later
      obtain ⟨kind, branches, pieces⟩ := level
      cases kind with
      | plain =>
        have closed := enclosed.close (Level.term ⟨.plain, branches, pieces⟩)
        rw [← same] at closed
        exact closed
      | capture index =>
        have closed := enclosed.close (.group index (Level.term ⟨.capture index, branches, pieces⟩))
        rw [Term.later, ← same] at closed
        exact closed
      | around kind =>
        have closed := enclosed.close (.around kind (Level.term ⟨.around kind, branches, pieces⟩))
        rw [Term.later, ← same] at closed
        exact closed
      | atomic =>
        have closed := enclosed.close (.atomic (Level.term ⟨.atomic, branches, pieces⟩))
        rw [Term.later, ← same] at closed
        exact closed
      | condition =>
        have chosen := @deeper base (.empty (.branches (Level.term ⟨.condition, branches, pieces⟩))) outer
          around inner
          groups refs numbered named grouped
        rw [Level.later, Level.empty, LevelKind.later, ← same] at chosen
        exact .some chosen
      | branches condition =>
        have both := conditional?_later condition ⟨.branches condition, branches, pieces⟩
        change Lifts _ ((conditional? condition _).bind _) ((conditional? condition.later _).bind _)
        rw [both]
        intro c found
        obtain ⟨t, chosen, closed⟩ := Option.bind_eq_some_iff.mp found
        obtain ⟨d, closed', next⟩ := enclosed.close t c closed
        exact ⟨d, by rw [chosen]; exact closed', next⟩

theorem foldlM (enclosed : Enclosed base a b) {pairs : List (Token × Token)}
    (all : ∀ pair ∈ pairs, Token.Moved (fun index other => other = laterGroup index) pair.1 pair.2) :
    Lifts (Enclosed base) ((pairs.map Prod.fst).foldlM Arrangement.step a)
      ((pairs.map Prod.snd).foldlM Arrangement.step b) := by
  induction pairs generalizing a b with
  | nil => exact .some enclosed
  | cons first rest ih =>
    refine (enclosed.step (all first List.mem_cons_self)).bind fun c d next => ?_
    exact ih next fun pair member => all pair (List.mem_cons_of_mem _ member)

end Enclosed

end Arrangement

/-! ## The start of a pattern -/

/-- Outside of verbose mode nothing is left to skip after skipping. -/
theorem skip_again {modes : Modes} (quiet : modes.verbose = false) {cs rest : List Char}
    (skipped : skip modes cs = some rest) : skip modes rest = some rest := by
  suffices again : ∀ fuel, cs.length ≤ fuel → skipSpace modes fuel cs = some rest →
      ∀ fuel', skipSpace modes fuel' rest = some rest from again _ (Nat.le_refl _) skipped _
  intro fuel
  clear skipped
  induction fuel generalizing cs with
  | zero =>
    intro short skipped
    obtain rfl := List.eq_nil_of_length_eq_zero (Nat.le_zero.mp short)
    obtain rfl := Option.some.inj skipped
    intro fuel'
    cases fuel' <;> rfl
  | succ fuel ih =>
    intro enough skipped fuel'
    rw [skipSpace.eq_def] at skipped
    simp only at skipped
    split at skipped
    · next after =>
      obtain ⟨left, comment, skipped⟩ := Option.bind_eq_some_iff.mp skipped
      have less := length_skipComment comment
      exact ih (by simp at enough; omega) skipped fuel'
    · next c tail plain =>
      rw [if_neg (by simp [quiet])] at skipped
      obtain rfl := Option.some.inj skipped
      cases fuel' with
      | zero => rfl
      | succ fuel' =>
        rw [skipSpace_cons modes fuel' fun after same => plain after (List.cons.inj same).1 (List.cons.inj same).2]
        simp [quiet]
    · obtain rfl := Option.some.inj skipped
      cases fuel' <;> rfl

/-- Only a quantifier asks whether there was something before it. -/
theorem Scanner.token_afterAtom {modes : Modes} {bytes : Nat} {cs rest : List Char} {token : Token} {next : Scanner}
    (read : Scanner.token bytes ⟨modes, [], 0, [], true⟩ cs = some (token, next, rest)) :
    (∃ lo hi greedy possessive, token = .quantifier lo hi greedy possessive) ∨
      Scanner.token bytes ⟨modes, [], 0, [], false⟩ cs = some (token, next, rest) := by
  have quantified {lo : Nat} {hi : Option Nat} {after : List Char}
      (read : Scanner.quantify ⟨modes, [], 0, [], true⟩ lo hi after = some (token, next, rest)) :
      ∃ lo hi greedy possessive, token = .quantifier lo hi greedy possessive := by
    obtain ⟨_, _, same⟩ := Option.map_eq_some_iff.mp (Option.ite_none_left_eq_some.mp read).2
    exact ⟨_, _, _, _, (Prod.mk.inj same).1.symm⟩
  cases cs with
  | nil => cases read
  | cons c after =>
    simp only [Scanner.token] at read ⊢
    split at read
    case h_9 => exact .inl (quantified read)
    case h_10 => exact .inl (quantified read)
    case h_11 => exact .inl (quantified read)
    case h_12 =>
      split at read
      · exact .inl (quantified read)
      · exact .inr read
    all_goals exact .inr read

theorem Token.scanFrom_extends {bytes fuel : Nat} {s : Scanner} {done tokens : List Token} {cs : List Char}
    (scanned : scanFrom bytes fuel s done cs = some tokens) : ∃ new, tokens = new ++ done := by
  induction fuel generalizing s done cs with
  | zero => cases scanned
  | succ fuel ih =>
    obtain ⟨rest, _, scanned⟩ := Option.bind_eq_some_iff.mp scanned
    split at scanned
    · obtain ⟨_, same⟩ := Option.ite_none_right_eq_some.mp scanned
      exact ⟨[], (Option.some.inj same).symm⟩
    · obtain ⟨⟨token, next, rest⟩, _, scanned⟩ := Option.bind_eq_some_iff.mp scanned
      obtain ⟨new, rfl⟩ := ih scanned
      exact ⟨new ++ [token], by simp⟩

/-- No pattern begins with a quantifier. -/
theorem Tree.ofTokens?_quantifier (flagged : Bool) (new : List Token) (lo : Nat) (hi : Option Nat)
    (greedy possessive : Bool) :
    ofTokens? (new ++ .quantifier lo hi greedy possessive :: leadTokens flagged).reverse = none := by
  cases flagged <;> simp [ofTokens?, leadTokens, Arrangement.step, Arrangement.initial, Level.quantify?, Level.push,
    Level.empty, Term.isRepeatable]

/-- Flags in front of a pattern make no difference to its tokens. -/
theorem Token.scanFrom_bare {modes : Modes} (quiet : modes.verbose = false) {flagged : Bool} {bytes fuel : Nat}
    {body : List Char} {tokens : List Token} {tree : Tree}
    (scanned : scanFrom bytes fuel ⟨modes, [], 0, [], flagged⟩ (leadTokens flagged) body = some tokens)
    (arranged : Tree.ofTokens? tokens.reverse = some tree) :
    ∃ rest, skip modes body = some rest ∧ rest.head? ≠ some '?' ∧
      scanFrom bytes fuel ⟨modes, [], 0, [], false⟩ (leadTokens flagged) rest = some tokens := by
  cases fuel with
  | zero => cases scanned
  | succ fuel =>
    obtain ⟨rest, skipped, scanned⟩ := Option.bind_eq_some_iff.mp scanned
    have again : skip modes rest = some rest := skip_again quiet skipped
    cases rest with
    | nil => exact ⟨[], skipped, by simp, by rw [scanFrom, again]; exact scanned⟩
    | cons c after =>
      obtain ⟨⟨token, next, left⟩, read, scanned⟩ := Option.bind_eq_some_iff.mp scanned
      obtain ⟨new, rfl⟩ := scanFrom_extends scanned
      have bare : Scanner.token bytes ⟨modes, [], 0, [], false⟩ (c :: after) = some (token, next, left) := by
        cases flagged with
        | false => exact read
        | true =>
          rcases Scanner.token_afterAtom read with ⟨lo, hi, greedy, possessive, rfl⟩ | read
          · rw [Tree.ofTokens?_quantifier] at arranged
            cases arranged
          · exact read
      refine ⟨c :: after, skipped, ?_, ?_⟩
      · intro question
        obtain rfl : c = '?' := by simpa using question
        cases bare
      · rw [scanFrom, again, Option.bind_some, if_neg (by simp), bare]
        exact scanned

/-- A pattern in a group has its own tokens between those of the group. -/
theorem Token.scanFrom_grouped {modes : Modes} (quiet : modes.verbose = false) {flagged : Bool}
    {bytes bytes' fuel fuel' : Nat} (more : bytes ≤ bytes') {body : List Char} {tokens tokens' : List Token}
    {tree : Tree}
    (scanned : scanFrom bytes fuel ⟨modes, [], 0, [], flagged⟩ (leadTokens flagged) body = some tokens)
    (arranged : Tree.ofTokens? tokens.reverse = some tree)
    (scanned' : scanFrom bytes' fuel' ⟨modes, [], 0, [], flagged⟩ (leadTokens flagged) ('(' :: (body ++ [')'])) =
      some tokens') :
    ∃ pairs : List (Token × Token), (∀ pair ∈ pairs, Moved (fun _ _ => True) pair.1 pair.2) ∧
      tokens = pairs.map Prod.fst ++ leadTokens flagged ∧
      tokens' = .closing :: (pairs.map Prod.snd ++ .opening (.capture 1 false) :: leadTokens flagged) := by
  obtain ⟨rest, skipped, start, bare⟩ := scanFrom_bare quiet scanned arranged
  obtain ⟨rest', skipped', cut⟩ := skip_ends (Ends.append_close body) modes rest skipped
  have ends := cut.ends
  have start' : ∀ after, rest' ≠ '?' :: after := by
    rintro after rfl
    cases ends with
    | cons => exact start rfl
  have front : ∀ after, body ++ [')'] ≠ '?' :: after := by
    intro after same
    rw [same, skip_of_plain quiet (by simp)] at skipped'
    exact start' _ (Option.some.inj skipped').symm
  have whole : skip modes ('(' :: (body ++ [')'])) = some ('(' :: (body ++ [')'])) := by
    rw [skip, List.length_cons, skipSpace_cons modes _ fun after same => front _ (List.cons.inj same).2]
    simp [quiet]
  have opened : Scanner.openParen bytes' ⟨modes, [], 0, [], flagged⟩ (body ++ [')']) =
      some (.opening (.capture 1 false), Scanner.inside ⟨modes, [], 0, [], false⟩, rest') := by
    rw [Scanner.openParen, if_neg (show ¬ Scanner.nestLimit ≤ [].length + 1 by decide)]
    change (skip modes _).bind _ = _
    rw [skipped', Option.bind_some]
    split
    case h_13 => rfl
    all_goals exact absurd rfl (start' _)
  cases fuel' with
  | zero => cases scanned'
  | succ fuel' =>
    change (skip modes ('(' :: (body ++ [')']))).bind _ = _ at scanned'
    rw [whole, Option.bind_some] at scanned'
    change (Scanner.openParen bytes' ⟨modes, [], 0, [], flagged⟩ (body ++ [')'])).bind _ = _ at scanned'
    rw [opened] at scanned'
    exact scanFrom_ends ends more bare scanned'

/-! ## Patterns -/

/-- Closing the group of a pattern leaves it as the only piece. -/
theorem Arrangement.term_closed {lead : List Term} (nothing : ∀ t ∈ lead, t = .empty) {level inner : Level}
    (grouped : level.Grouped inner) {groups : Nat} {refs : List Nat} {numbered named : Bool} {c : Arrangement}
    (closed : step ⟨inner, [⟨.plain, [], lead⟩], groups, refs, numbered, named⟩ .closing = some c) :
    c.level.term = .group 1 level.term.later ∧ c.groups = groups := by
  have same := grouped.term
  obtain ⟨_⟩ := grouped
  obtain ⟨_, closed⟩ := Option.ite_none_left_eq_some.mp closed
  change some (Arrangement.mk ⟨.plain, [], .group 1 (Level.term _) :: lead⟩ _ _ _ _ _) = _ at closed
  rw [same] at closed
  obtain rfl := Option.some.inj closed
  exact ⟨Level.row_append .plain [] [.group 1 _] nothing, rfl⟩

/-- In order, the tokens of a pattern in a group are those of the pattern between those of the group. -/
theorem Token.scan?_wrapped {front body : List Char} (leading : Leading front) {tokens tokens' : List Token}
    {tree : Tree}
    (found : scan? (front ++ body) = some tokens) (arranged : Tree.ofTokens? tokens = some tree)
    (found' : scan? (front ++ '(' :: (body ++ [')'])) = some tokens') :
    ∃ (flagged : Bool) (pairs : List (Token × Token)),
      (∀ pair ∈ pairs, Moved (fun _ _ => True) pair.1 pair.2) ∧
      tokens = leadTokens flagged ++ pairs.map Prod.fst ∧
      tokens' = leadTokens flagged ++ .opening (.capture 1 false) :: (pairs.map Prod.snd ++ [.closing]) := by
  obtain ⟨done, scanned, rfl⟩ := Option.map_eq_some_iff.mp found
  obtain ⟨done', scanned', rfl⟩ := Option.map_eq_some_iff.mp found'
  obtain ⟨modes, flagged, quiet, scans⟩ := leading.scanFrom_extended
  obtain ⟨fuel, inner⟩ := scans _ _ _ _ scanned
  obtain ⟨fuel', inner'⟩ := scans _ _ _ _ scanned'
  have more : Text.byteLength (front ++ body) ≤ Text.byteLength (front ++ '(' :: (body ++ [')'])) := by
    simp only [Text.byteLength_append, Text.byteLength]
    omega
  obtain ⟨pairs, all, rfl, rfl⟩ := scanFrom_grouped quiet more inner arranged inner'
  have lead : (leadTokens flagged).reverse = leadTokens flagged := by cases flagged <;> rfl
  exact ⟨flagged, pairs.reverse, fun pair member => all pair (List.mem_reverse.mp member),
    by simp [lead], by simp [lead]⟩

theorem Tree.refs_ofTokens? {tokens : List Token} {tree : Tree} (arranged : ofTokens? tokens = some tree) :
    tree.refs = (tokens.filterMap Token.ref?).reverse := by
  obtain ⟨a, folded, finished⟩ := Option.bind_eq_some_iff.mp arranged
  obtain ⟨_, same⟩ := Option.ite_none_right_eq_some.mp finished
  obtain rfl := Option.some.inj same
  exact (Arrangement.refs_foldlM folded).trans (List.append_nil _)

/-- A pattern without references has none inside a group. -/
theorem Tree.refs_wrapped_nil {front body : List Char} (leading : Leading front) {tree wrapped : Tree}
    (read : ofText? (front ++ body) = some tree)
    (read' : ofText? (front ++ '(' :: (body ++ [')'])) = some wrapped) (none : tree.refs = []) : wrapped.refs = [] := by
  obtain ⟨tokens, found, arranged⟩ := Option.bind_eq_some_iff.mp read
  obtain ⟨tokens', found', arranged'⟩ := Option.bind_eq_some_iff.mp read'
  obtain ⟨flagged, pairs, all, rfl, rfl⟩ := Token.scan?_wrapped leading found arranged found'
  have lead : (leadTokens flagged).filterMap Token.ref? = [] := by cases flagged <;> rfl
  rw [refs_ofTokens? arranged, List.reverse_eq_nil_iff, List.filterMap_append, lead, List.nil_append,
    List.filterMap_eq_nil_iff] at none
  rw [refs_ofTokens? arranged', List.reverse_eq_nil_iff, List.filterMap_append, lead, List.nil_append,
    List.filterMap_eq_nil_iff]
  intro token member
  rcases List.mem_cons.mp member with rfl | member
  · rfl
  · rcases List.mem_append.mp member with member | member
    · obtain ⟨pair, paired, rfl⟩ := List.mem_map.mp member
      have plain : pair.1.ref? = .none := none _ (List.mem_map_of_mem paired)
      have same := (all pair paired).isSome_ref?
      rw [plain] at same
      exact Option.isSome_eq_false_iff.mp same |> Option.isNone_iff_eq_none.mp
    · obtain rfl := List.mem_singleton.mp member
      rfl

/-- If its references move on with the groups, the tree of a pattern in a group is that of the pattern in
a group. -/
theorem Tree.ofText?_wrapped {front body : List Char} (leading : Leading front) {tree wrapped : Tree}
    (read : ofText? (front ++ body) = some tree)
    (read' : ofText? (front ++ '(' :: (body ++ [')'])) = some wrapped)
    (refs : wrapped.refs = tree.refs.map laterGroup) :
    wrapped.term = .group 1 tree.term.later ∧ wrapped.groups = tree.groups + 1 := by
  obtain ⟨tokens, found, arranged⟩ := Option.bind_eq_some_iff.mp read
  obtain ⟨tokens', found', arranged'⟩ := Option.bind_eq_some_iff.mp read'
  obtain ⟨flagged, pairs, all, rfl, rfl⟩ := Token.scan?_wrapped leading found arranged found'
  obtain ⟨lead, nothing, begun⟩ : ∃ lead : List Term, (∀ t ∈ lead, t = .empty) ∧
      (leadTokens flagged).foldlM Arrangement.step .initial =
        some ⟨⟨.plain, [], lead⟩, [], 0, [], false, false⟩ := by
    cases flagged with
    | false => exact ⟨[], by simp, rfl⟩
    | true => exact ⟨[.empty], by simp, rfl⟩
  rw [ofTokens?, List.foldlM_append, begun] at arranged arranged'
  obtain ⟨a, folded, finished⟩ := Option.bind_eq_some_iff.mp arranged
  obtain ⟨c, folded', finished'⟩ := Option.bind_eq_some_iff.mp arranged'
  obtain ⟨ended, same⟩ := Option.ite_none_right_eq_some.mp finished
  obtain ⟨_, same'⟩ := Option.ite_none_right_eq_some.mp finished'
  obtain rfl := Option.some.inj same
  obtain rfl := Option.some.inj same'
  change (List.foldlM Arrangement.step ⟨.empty (.capture 1), [⟨.plain, [], lead⟩], 1, [], false, false⟩
    (pairs.map Prod.snd ++ [Token.closing])) = _ at folded'
  rw [List.foldlM_append] at folded'
  obtain ⟨b, folded', closed⟩ := Option.bind_eq_some_iff.mp folded'
  have closed : b.step .closing = some c := by simpa using closed
  -- both lists of references come from the tokens alone, so they settle each pair
  have left := Arrangement.refs_foldlM folded
  have right := Arrangement.refs_foldlM folded'
  have last := Arrangement.refs_step closed
  have moved : c.refs = a.refs.map laterGroup := refs
  rw [last, right, left, List.append_nil, List.append_nil, List.map_reverse] at moved
  have pinned := Token.pin_all all (List.reverse_inj.mp moved)
  have start : Arrangement.Enclosed ⟨.plain, [], lead⟩ ⟨⟨.plain, [], lead⟩, [], 0, [], false, false⟩
      ⟨.empty (.capture 1), [⟨.plain, [], lead⟩], 1, [], false, false⟩ :=
        .bottom (@Level.Grouped.intro [] [] lead nothing)
  obtain ⟨_, again, enclosed⟩ := start.foldlM pinned a folded
  obtain rfl := Option.some.inj (again.symm.trans folded')
  cases enclosed with
  | deeper level outer grouped => simp at ended
  | bottom grouped => exact Arrangement.term_closed nothing grouped closed

theorem Token.Moved.movesStart {refer : Nat → Nat → Prop} {token token' : Token}
    (moved : Moved refer token token') :
    token.movesStart = token.isKeep := by
  cases moved with
  | atom simple => exact simple
  | _ => rfl

/-- Without a `\K` nothing in a pattern that can be put into a group moves the start of a match. -/
theorem Tree.movesStart_ofText? {front body : List Char} (leading : Leading front) {tree wrapped : Tree}
    (read : ofText? (front ++ body) = some tree)
    (read' : ofText? (front ++ '(' :: (body ++ [')'])) = some wrapped) {tokens : List Token}
    (found : Token.scan? (front ++ body) = some tokens) (calm : ∀ token ∈ tokens, token.isKeep = false) :
    tree.term.movesStart = false := by
  obtain ⟨_, again, arranged⟩ := Option.bind_eq_some_iff.mp read
  obtain rfl := Option.some.inj (found.symm.trans again)
  obtain ⟨tokens', found', _⟩ := Option.bind_eq_some_iff.mp read'
  obtain ⟨flagged, pairs, all, rfl, _⟩ := Token.scan?_wrapped leading found arranged found'
  refine movesStart_ofTokens? (fun token member => ?_) arranged
  rcases List.mem_append.mp member with lead | inner
  · cases flagged with
    | false => cases lead
    | true =>
      obtain rfl := List.mem_singleton.mp lead
      rfl
  · obtain ⟨pair, paired, rfl⟩ := List.mem_map.mp inner
    rw [(all pair paired).movesStart]
    exact calm _ member

end PatternComposer.Regex.Extended
