import PatternComposer.Proofs.Regex.Atoms
import PatternComposer.Proofs.Regex.Extended.Choices

/-! # Atoms in a row in the extended dialect

The extended dialect takes a row of atoms for the same node as the plain one, but for the flag in front, which
leaves nothing behind. So it is no way around the size limit: what is too large for the plain search is refused
(`Atom.matcher_whole`).
-/

namespace PatternComposer.Regex.Atom

open Extended (Term LevelKind plainly rowTerm)

variable {dotAll : Bool} {atoms : List Atom}

/-! ## Reading a row -/

theorem skip_write (legible : ∀ atom ∈ atoms, atom.Legible dotAll) {rest : List Char}
    (apart : rest.head? ≠ some '(') :
    Extended.skip (.dotted dotAll) (write atoms ++ rest) = some (write atoms ++ rest) := by
  apply Extended.skip_of_plain rfl
  cases atoms with
  | nil => exact apart
  | cons atom atoms =>
    obtain ⟨c, more, head, other⟩ := (legible atom List.mem_cons_self).head
    rw [write_cons, head]
    simpa using other

theorem reads_write_extended (legible : ∀ atom ∈ atoms, atom.Legible dotAll) (bytes : Nat) {s : Extended.Scanner}
    (modes : s.modes = .dotted dotAll) {rest : List Char} (apart : rest.head? ≠ some '(') :
    ∃ after, Extended.Token.Reads bytes s (write atoms ++ rest) (atoms.map fun atom => .atom atom.term)
      { s with afterAtom := after } rest := by
  induction atoms generalizing s with
  | nil => exact ⟨s.afterAtom, .done⟩
  | cons atom atoms ih =>
    obtain ⟨first, others⟩ := List.forall_mem_cons.mp legible
    have skipped := skip_write legible apart
    rw [← modes] at skipped
    have stepped : ({ s with afterAtom := true } : Extended.Scanner).modes = .dotted dotAll := modes
    obtain ⟨after, reads⟩ := ih others stepped
    refine ⟨after, .token skipped ?_ (length_write_lt first atoms rest) reads⟩
    rw [write_cons]
    exact first.extended modes bytes _

def scopeAtoms (wrapped : Bool) (atoms : List Atom) : List Extended.Token :=
  let row := (anchored atoms).map fun atom => Extended.Token.atom atom.term
  if wrapped then .opening (.capture 1 false) :: (row ++ [.closing]) else row

theorem reads_scope_extended (legible : ∀ atom ∈ atoms, atom.Legible dotAll) (wrapped : Bool) (bytes : Nat)
    (afterAtom : Bool) :
    ∃ last, Extended.Token.Reads bytes ⟨.dotted dotAll, [], 0, [], afterAtom⟩ (scope wrapped atoms)
      (scopeAtoms wrapped atoms) last [] ∧ last.opens = [] := by
  have row := legible_anchored legible
  cases wrapped with
  | false =>
    have modes : (⟨.dotted dotAll, [], 0, [], afterAtom⟩ : Extended.Scanner).modes = .dotted dotAll := rfl
    have apart : ([] : List Char).head? ≠ some '(' := by decide
    obtain ⟨after, reads⟩ := reads_write_extended row bytes modes apart
    rw [List.append_nil] at reads
    exact ⟨_, reads, rfl⟩
  | true =>
    have modes : (⟨.dotted dotAll, [(none, false)], 1, [], false⟩ : Extended.Scanner).modes = .dotted dotAll := rfl
    have apart : [')'].head? ≠ some '(' := by decide
    obtain ⟨after, reads⟩ := reads_write_extended row bytes modes apart
    have closed : Extended.Token.Reads bytes ⟨.dotted dotAll, [(none, false)], 1, [], after⟩ [')'] [.closing]
        ⟨.dotted dotAll, [], 1, [], true⟩ [] :=
      .token rfl rfl (by decide) .done
    have skipped : Extended.skip (.dotted dotAll) (scope true atoms) = some (scope true atoms) := rfl
    refine ⟨_, .token skipped ?_ ?_ (reads.append closed), rfl⟩
    · rfl
    · exact Nat.lt_succ_self _

theorem scan?_lead_extended (legible : ∀ atom ∈ atoms, atom.Legible dotAll) (wrapped : Bool) :
    Extended.Token.scan? (lead dotAll ++ scope wrapped atoms) =
      some ((if dotAll then [.atom .empty] else []) ++ scopeAtoms wrapped atoms) := by
  obtain ⟨last, reads, closed⟩ := reads_scope_extended legible wrapped
    (Text.byteLength (lead dotAll ++ scope wrapped atoms)) dotAll
  cases dotAll with
  | false => exact reads.scan?_eq closed
  | true =>
    have read := Extended.Scanner.token_setting switches_dotAll
      (Text.byteLength (lead true ++ scope wrapped atoms)) (scope wrapped atoms)
    have first : Extended.Token.Reads (Text.byteLength (lead true ++ scope wrapped atoms)) .initial
        (lead true ++ scope wrapped atoms) [.atom .empty] ⟨.dotted true, [], 0, [], true⟩ (scope wrapped atoms) :=
      .token (Extended.skip_setting switches_dotAll _) read (length_lead_lt _) .done
    exact (first.append reads).scan?_eq closed

/-! ## Arranging a row -/

theorem foldlM_terms (atoms : List Atom) (kind : LevelKind) (branches row : List Term) (outer : List Extended.Level)
    (groups : Nat) :
    (atoms.map fun atom => Extended.Token.atom atom.term).foldlM Extended.Arrangement.step
        (plainly ⟨kind, branches, row⟩ outer groups) =
      some (plainly ⟨kind, branches, (atoms.map (·.term)).reverse ++ row⟩ outer groups) := by
  induction atoms generalizing row with
  | nil => rfl
  | cons atom atoms ih =>
    rw [List.map_cons, List.foldlM_cons]
    change List.foldlM Extended.Arrangement.step (plainly ⟨kind, branches, atom.term :: row⟩ outer groups) _ = _
    rw [ih, List.map_cons, List.reverse_cons, List.append_assoc]
    rfl

/-- What the extended dialect takes a row for. -/
def wholeTerm (wrapped : Bool) (atoms : List Atom) : Term :=
  let row := rowTerm ((anchored atoms).map (·.term))
  if wrapped then .group 1 row else row

theorem row_anchored (legible : ∀ atom ∈ atoms, atom.Legible dotAll) (kind : LevelKind) :
    (Extended.Level.mk kind [] ((anchored atoms).map (·.term)).reverse).row =
      rowTerm ((anchored atoms).map (·.term)) := by
  apply Extended.row_of_terms
  intro t member
  obtain ⟨atom, inside, rfl⟩ := List.mem_map.mp member
  exact (legible_anchored legible atom inside).something

/-- The flag in front leaves nothing in the row. -/
theorem row_lead (kind : LevelKind) (branches terms : List Term) :
    (Extended.Level.mk kind branches (terms ++ [.empty])).row = (Extended.Level.mk kind branches terms).row := by
  rw [Extended.Level.row, Extended.Level.row, List.reverse_append]
  rfl

theorem foldlM_scopeAtoms (legible : ∀ atom ∈ atoms, atom.Legible dotAll) (wrapped : Bool) (row : List Term) :
    ∃ terms : List Term,
      (scopeAtoms wrapped atoms).foldlM Extended.Arrangement.step (plainly ⟨.plain, [], row⟩ [] 0) =
        some (plainly ⟨.plain, [], terms ++ row⟩ [] (if wrapped then 1 else 0)) ∧
      (Extended.Level.mk .plain [] terms).row = wholeTerm wrapped atoms := by
  cases wrapped with
  | false => exact ⟨_, foldlM_terms _ _ _ _ _ _, row_anchored legible .plain⟩
  | true =>
    refine ⟨[.group 1 (rowTerm ((anchored atoms).map (·.term)))], ?_, rfl⟩
    change List.foldlM Extended.Arrangement.step (plainly (.empty (.capture 1)) [⟨.plain, [], row⟩] 1)
      ((anchored atoms).map (fun atom => Extended.Token.atom atom.term) ++ [.closing]) = _
    rw [List.foldlM_append, Extended.Level.empty, foldlM_terms, List.append_nil, ← row_anchored legible (.capture 1)]
    rfl

theorem ofText?_wholeTerm (legible : ∀ atom ∈ atoms, atom.Legible dotAll) (wrapped : Bool) :
    Extended.Tree.ofText? (lead dotAll ++ scope wrapped atoms) =
      some ⟨wholeTerm wrapped atoms, if wrapped then 1 else 0, []⟩ := by
  let row : List Term := if dotAll then [.empty] else []
  obtain ⟨terms, arranged, term⟩ := foldlM_scopeAtoms legible wrapped row
  have folded : List.foldlM Extended.Arrangement.step .initial
      ((if dotAll then [.atom .empty] else []) ++ scopeAtoms wrapped atoms) =
      some (plainly ⟨.plain, [], terms ++ row⟩ [] (if wrapped then 1 else 0)) := by
    rw [List.foldlM_append, ← arranged]
    cases dotAll <;> rfl
  have same : (Extended.Level.mk .plain [] (terms ++ row)).row = wholeTerm wrapped atoms := by
    rw [← term]
    cases dotAll with
    | false => rw [show row = [] from rfl, List.append_nil]
    | true => exact row_lead .plain [] terms
  rw [Extended.Tree.ofText?, scan?_lead_extended legible wrapped, Option.bind_some, Extended.Tree.ofTokens?, folded,
    Option.bind_some, ← same]
  rfl

/-! ## The node of a row -/

theorem toParts?_terms (legible : ∀ atom ∈ atoms, atom.Legible dotAll) :
    ∃ parts, Term.toParts? .row (atoms.map (·.term)) = some parts ∧ parts.map (·.node) = atoms.map (·.node) := by
  induction atoms with
  | nil => exact ⟨[], rfl, rfl⟩
  | cons atom atoms ih =>
    obtain ⟨first, others⟩ := List.forall_mem_cons.mp legible
    obtain ⟨part, read, node⟩ := first.same .row
    obtain ⟨parts, later, nodes⟩ := ih others
    refine ⟨part :: parts, ?_, ?_⟩
    · rw [List.map_cons, Term.toParts?, read, Option.bind_some, later, Option.map_some]
    · rw [List.map_cons, node, nodes, List.map_cons]

theorem rowTerm_anchored (atoms : List Atom) :
    rowTerm ((anchored atoms).map (·.term)) = .cat ((anchored atoms).map (·.term)) := by
  cases atoms <;> rfl

theorem toPart?_wholeTerm (legible : ∀ atom ∈ atoms, atom.Legible dotAll) (wrapped : Bool) :
    ∃ part, (wholeTerm wrapped atoms).toPart? .branch = some part ∧ part.node = whole false wrapped atoms := by
  obtain ⟨parts, read, nodes⟩ := toParts?_terms (legible_anchored legible)
  obtain ⟨part, row, node⟩ := Extended.toPart?_cat read .branch
  rw [nodes] at node
  rw [wholeTerm, rowTerm_anchored]
  cases wrapped with
  | false => exact ⟨part, row, node⟩
  | true =>
    refine ⟨⟨.group 1 part.node, part.depth + 1⟩, ?_, congrArg (Node.group 1) node⟩
    change Term.toPart? .branch (.group 1 _) = _
    rw [Term.toPart?, row, Option.map_some]

theorem isHard_wholeTerm (legible : ∀ atom ∈ atoms, atom.Legible dotAll) (wrapped : Bool) :
    (wholeTerm wrapped atoms).isHard [] = false := by
  have easy : ∀ atoms : List Atom, (∀ atom ∈ atoms, atom.Legible dotAll) →
      Term.anyHard [] (atoms.map (·.term)) = false := by
    intro atoms legible
    induction atoms with
    | nil => rfl
    | cons atom atoms ih =>
      obtain ⟨first, others⟩ := List.forall_mem_cons.mp legible
      rw [List.map_cons, Term.anyHard, first.easy, ih others]
      rfl
  have row := easy (anchored atoms) (legible_anchored legible)
  rw [wholeTerm, rowTerm_anchored]
  cases wrapped with
  | false => exact row
  | true =>
    change (Term.group 1 _).isHard [] = false
    rw [Term.isHard, Term.isHard, row]
    rfl

/-- The flag in front takes no room. -/
theorem fits_whole (dotAll wrapped : Bool) (atoms : List Atom) :
    (whole dotAll wrapped atoms).fits = (whole false wrapped atoms).fits := by
  cases dotAll with
  | false => rfl
  | true =>
    have footprint : (whole true wrapped atoms).footprint = (whole false wrapped atoms).footprint := by
      have front : whole true wrapped atoms = .cat .empty (whole false wrapped atoms) := by
        cases wrapped <;> rfl
      rw [front, Node.footprint, Node.footprint]
      change Footprint.mk (0 + _) (0 + _) = _
      rw [Nat.zero_add, Nat.zero_add]
    rw [Node.fits, Node.fits, footprint]

/-- A row of atoms is matched by the plain search, or refused if it is too large for it. -/
theorem matcher_whole (legible : ∀ atom ∈ atoms, atom.Legible dotAll) (wrapped : Bool) :
    Matcher.ofText? (lead dotAll ++ scope wrapped atoms) =
      if (whole dotAll wrapped atoms).fits then
        some (.plain (whole dotAll wrapped atoms).program (if wrapped then 1 else 0))
      else none := by
  obtain ⟨part, read, node⟩ := toPart?_wholeTerm legible wrapped
  rw [Matcher.ofText?, Matcher.ofPlain?, ofText?_whole legible, Option.bind_some, Matcher.ofExtended?,
    ofText?_wholeTerm legible, Option.bind_some]
  simp only [isHard_wholeTerm legible, Bool.false_eq_true, ↓reduceIte, read, Option.bind_some, node,
    ← fits_whole dotAll wrapped atoms]
  split
  · rfl
  · next large => simp [large]

end PatternComposer.Regex.Atom
