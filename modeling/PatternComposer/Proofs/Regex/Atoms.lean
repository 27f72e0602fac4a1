import PatternComposer.Proofs.Regex.Choices
import PatternComposer.Proofs.Regex.Extended.Classes
import PatternComposer.Proofs.Regex.Leading
import PatternComposer.Regex.Extended.Tree

/-! # Atoms in a row

An atom is a part of a pattern that is one token in both dialects, whatever stands around it: an anchor, an
escape, a dot or a class. A row of atoms between anchors may stand in a group and behind the flag that lets dots
match the ends of lines. The plain dialect reads it as `Atom.whole`, whose stretches are the texts with one
character for each atom.
-/

namespace PatternComposer.Regex

/-- How an atom is spelled for the engine, and what the two dialects take it for. -/
structure Atom where
  text : List Char
  node : Node
  depth : Nat
  term : Extended.Term

namespace Atom

/-- The extended dialect takes the atom for the same node as the plain one. -/
structure Agrees (atom : Atom) : Prop where
  easy : atom.term.isHard [] = false
  something : Extended.Level.isNothing atom.term = false
  same (place : Extended.Term.Place) : ∃ part, atom.term.toPart? place = some part ∧ part.node = atom.node

/-- Both dialects read the atom as one token and go on behind it. -/
structure Legible (dotAll : Bool) (atom : Atom) : Prop extends Agrees atom where
  head : ∃ c rest, atom.text = c :: rest ∧ c ≠ '('
  shallow : atom.depth ≤ 2
  plain (saved : List Modes) (rest : List Char) :
    Scanner.token ⟨.dotted dotAll, saved, []⟩ (atom.text ++ rest) =
      some (.piece atom.node atom.depth, ⟨.dotted dotAll, saved, []⟩, rest)
  extended {s : Extended.Scanner} (modes : s.modes = .dotted dotAll) (bytes : Nat) (rest : List Char) :
    s.token bytes (atom.text ++ rest) = some (.atom atom.term, { s with afterAtom := true }, rest)

/-! ## The atoms -/

/-- An anchor. -/
def anchor (text : List Char) (look : Look) : Atom := ⟨text, .look look, 0, .look look⟩

def start : Atom := anchor ['^'] .textStart

def stop : Atom := anchor ['$'] .textEnd

def any (dotAll : Bool) : Atom := ⟨['.'], .set (Modes.dotted dotAll).anyChar, 0, .anyChar dotAll⟩

/-- One character by its escape. -/
def char (text : List Char) (c : Char) : Atom := ⟨text, .set (.single c), 0, .literal c false⟩

/-- A set that an escape stands for. -/
def escape (letter : Char) (members : CharSet) : Atom := ⟨['\\', letter], .set members, 0, .members members 0⟩

/-- A class, given how deep the two dialects take it to nest. -/
def listing (negated : Bool) (items : List ClassItem) (depth inner : Nat) : Atom :=
  ⟨'[' :: ClassItem.enclosed negated ClassItem.text items, .set (ClassItem.classMembers negated items), depth,
    .members (ClassItem.classMembers negated items) inner⟩

variable {dotAll : Bool} {atom : Atom} {atoms : List Atom}

theorem legible_anchor {text : List Char} {look : Look} (member : (text, look) ∈ [(['^'], .textStart),
    (['$'], Look.textEnd)]) : (anchor text look).Legible dotAll := by
  simp only [List.mem_cons, Prod.mk.injEq, List.not_mem_nil, or_false] at member
  rcases member with ⟨rfl, rfl⟩ | ⟨rfl, rfl⟩
  all_goals exact {
    easy := rfl
    something := rfl
    same := fun _ => ⟨_, rfl, rfl⟩
    head := ⟨_, [], rfl, by decide⟩
    shallow := Nat.zero_le _
    plain := fun _ _ => rfl
    extended := fun {s} modes _ _ => by
      obtain ⟨_, opens, groups, names, afterAtom⟩ := s
      obtain rfl := modes
      rfl }

theorem legible_any : (any dotAll).Legible dotAll where
  easy := rfl
  something := rfl
  same _ := by cases dotAll <;> exact ⟨_, rfl, rfl⟩
  head := ⟨'.', [], rfl, by decide⟩
  shallow := Nat.zero_le _
  plain _ _ := rfl
  extended {s} modes _ _ := by
    obtain ⟨_, opens, groups, names, afterAtom⟩ := s
    obtain rfl := modes
    rfl

/-- Control characters have an escape letter of their own, and the null character has its code. -/
theorem legible_char {text : List Char} {c : Char} (member : (text, c) ∈ [(['\\', 'f'], '\x0C'), (['\\', 'n'], '\n'),
    (['\\', 'r'], '\r'), (['\\', 't'], '\t'), (['\\', 'v'], '\x0B'), (['\\', 'x', '0', '0'], '\x00')]) :
    (char text c).Legible dotAll := by
  simp only [List.mem_cons, Prod.mk.injEq, List.not_mem_nil, or_false] at member
  rcases member with ⟨rfl, rfl⟩ | ⟨rfl, rfl⟩ | ⟨rfl, rfl⟩ | ⟨rfl, rfl⟩ | ⟨rfl, rfl⟩ | ⟨rfl, rfl⟩
  all_goals exact {
    easy := rfl
    something := rfl
    same := fun _ => ⟨_, rfl, rfl⟩
    head := ⟨'\\', _, rfl, by decide⟩
    shallow := Nat.zero_le _
    plain := fun _ _ => rfl
    extended := fun {s} modes _ _ => by
      obtain ⟨_, opens, groups, names, afterAtom⟩ := s
      obtain rfl := modes
      rfl }

/-- Blanks and word characters have a letter, and a capital letter stands for all others. -/
theorem legible_escape {letter : Char} {members : CharSet} (member : (letter, members) ∈ [('s', Unicode.blank),
    ('S', notBlank), ('w', Unicode.word), ('W', notWord)]) : (escape letter members).Legible dotAll := by
  simp only [List.mem_cons, Prod.mk.injEq, List.not_mem_nil, or_false] at member
  rcases member with ⟨rfl, rfl⟩ | ⟨rfl, rfl⟩ | ⟨rfl, rfl⟩ | ⟨rfl, rfl⟩
  all_goals exact {
    easy := rfl
    something := rfl
    same := fun _ => ⟨_, rfl, rfl⟩
    head := ⟨'\\', _, rfl, by decide⟩
    shallow := Nat.zero_le _
    plain := fun _ _ => rfl
    extended := fun {s} modes _ _ => by
      obtain ⟨_, opens, groups, names, afterAtom⟩ := s
      obtain rfl := modes
      rfl }

/-- A class is one atom. -/
theorem exists_legible_listing (negated : Bool) {items : List ClassItem}
    (wellFormed : ∀ item ∈ items, item.WellFormed)
    (nonempty : items ≠ []) : ∃ depth inner, ∀ dotAll, (listing negated items depth inner).Legible dotAll := by
  obtain ⟨depth, shallow, plain⟩ := ClassItem.readClass_text negated wellFormed nonempty
  obtain ⟨inner, extended⟩ := Extended.readClass_text negated wellFormed nonempty
  refine ⟨depth, inner, fun dotAll => ?_⟩
  exact {
    easy := rfl
    something := rfl
    same := fun _ => ⟨_, rfl, rfl⟩
    head := ⟨'[', _, rfl, by decide⟩
    shallow := shallow
    plain := fun saved rest => by
      change ((Modes.dotted dotAll).readClass (ClassItem.enclosed negated ClassItem.text items ++ rest)).map _ = _
      rw [plain]
      rfl
    extended := fun {s} modes bytes rest => by
      obtain ⟨_, opens, groups, names, afterAtom⟩ := s
      obtain rfl := modes
      change (Extended.readClass false (ClassItem.enclosed negated ClassItem.text items ++ rest)).bind _ = _
      rw [extended]
      rfl }

/-! ## Reading a row -/

def token (atom : Atom) : Token := .piece atom.node atom.depth

/-- The text of atoms in a row. -/
def write (atoms : List Atom) : List Char := atoms.flatMap text

theorem write_cons (atom : Atom) (atoms : List Atom) (rest : List Char) :
    write (atom :: atoms) ++ rest = atom.text ++ (write atoms ++ rest) := by
  rw [write, List.flatMap_cons, List.append_assoc]
  rfl

theorem length_write_lt (legible : atom.Legible dotAll) (atoms : List Atom) (rest : List Char) :
    (write atoms ++ rest).length < (write (atom :: atoms) ++ rest).length := by
  obtain ⟨c, more, head, _⟩ := legible.head
  rw [write_cons, head, List.cons_append, List.length_cons, @List.length_append _ more]
  omega

theorem reads_write (legible : ∀ atom ∈ atoms, atom.Legible dotAll) (saved : List Modes) (rest : List Char) :
    Token.Reads ⟨.dotted dotAll, saved, []⟩ (write atoms ++ rest) (atoms.map token)
      ⟨.dotted dotAll, saved, []⟩ rest := by
  induction atoms with
  | nil => exact .done
  | cons atom atoms ih =>
    obtain ⟨first, others⟩ := List.forall_mem_cons.mp legible
    refine .token ?_ (length_write_lt first atoms rest) (ih others)
    rw [write_cons]
    exact first.plain saved _

/-- Atoms between anchors. -/
def anchored (atoms : List Atom) : List Atom := start :: (atoms ++ [stop])

theorem legible_anchored (legible : ∀ atom ∈ atoms, atom.Legible dotAll) :
    ∀ atom ∈ anchored atoms, atom.Legible dotAll := by
  intro atom member
  rcases List.mem_cons.mp member with rfl | member
  · exact legible_anchor (by simp)
  · rcases List.mem_append.mp member with member | member
    · exact legible atom member
    · obtain rfl := List.mem_singleton.mp member
      exact legible_anchor (by simp)

/-- The row, in a group if it is wrapped. -/
def scope (wrapped : Bool) (atoms : List Atom) : List Char :=
  if wrapped then '(' :: (write (anchored atoms) ++ [')']) else write (anchored atoms)

def scopeTokens (wrapped : Bool) (atoms : List Atom) : List Token :=
  if wrapped then .openGroup true :: ((anchored atoms).map token ++ [.closeGroup]) else (anchored atoms).map token

theorem reads_scope (legible : ∀ atom ∈ atoms, atom.Legible dotAll) (wrapped : Bool) :
    Token.Reads ⟨.dotted dotAll, [], []⟩ (scope wrapped atoms) (scopeTokens wrapped atoms)
      ⟨.dotted dotAll, [], []⟩ [] := by
  have row := reads_write (legible_anchored legible)
  cases wrapped with
  | false =>
    have whole := row [] []
    rwa [List.append_nil] at whole
  | true =>
    have closed : Token.Reads ⟨.dotted dotAll, [.dotted dotAll], []⟩ [')'] [.closeGroup]
        ⟨.dotted dotAll, [], []⟩ [] :=
      .token rfl (by decide) .done
    refine .token ?_ ?_ ((row [.dotted dotAll] [')']).append closed)
    · rfl
    · exact Nat.lt_succ_self _

/-- The flag that lets dots match the ends of lines, if it is set. -/
def lead (dotAll : Bool) : List Char := if dotAll then ['(', '?', 's', ')'] else []

theorem length_lead_lt (cs : List Char) : cs.length < (lead true ++ cs).length := by
  rw [List.length_append]
  exact Nat.lt_add_of_pos_left (by decide)

theorem switches_dotAll : Switches ['s'] where
  nonempty := by decide
  nodup := by decide
  inline c member := mem_inline.mpr (.inr (.inr (List.mem_singleton.mp member)))

theorem scan?_lead (legible : ∀ atom ∈ atoms, atom.Legible dotAll) (wrapped : Bool) :
    Token.scan? (lead dotAll ++ scope wrapped atoms) =
      some ((if dotAll then [.setting] else []) ++ scopeTokens wrapped atoms) := by
  have reads := reads_scope legible wrapped
  cases dotAll with
  | false => exact reads.scan?_eq rfl
  | true =>
    have read := Scanner.token_setting switches_dotAll (scope wrapped atoms)
    have first : Token.Reads .initial (lead true ++ scope wrapped atoms) [.setting] ⟨.dotted true, [], []⟩
        (scope wrapped atoms) := .token read (length_lead_lt _) .done
    exact (first.append reads).scan?_eq rfl

/-! ## Arranging a row -/

def toPiece (atom : Atom) : Piece := ⟨atom.node, atom.depth, true⟩

theorem foldlM_tokens (atoms : List Atom) (branches : List Part) (row : List Piece)
    (outer : List (Option Nat × Level)) (groups : Nat) :
    (atoms.map token).foldlM Arrangement.step ⟨⟨branches, row⟩, outer, groups⟩ =
      some ⟨⟨branches, (atoms.map toPiece).reverse ++ row⟩, outer, groups⟩ := by
  induction atoms generalizing row with
  | nil => rfl
  | cons atom atoms ih =>
    rw [List.map_cons, List.foldlM_cons]
    change List.foldlM _ (Arrangement.mk ⟨branches, atom.toPiece :: row⟩ outer groups) _ = _
    rw [ih, List.map_cons, List.reverse_cons, List.append_assoc]
    rfl

theorem depth_row_le (legible : ∀ atom ∈ atoms, atom.Legible dotAll) :
    ∀ piece ∈ ((anchored atoms).map toPiece).reverse, piece.depth ≤ 2 := by
  intro piece member
  obtain ⟨atom, inside, rfl⟩ := List.mem_map.mp (List.mem_reverse.mp member)
  exact (legible_anchored legible atom inside).shallow

/-- The nodes of a row, in a group if it is wrapped. -/
def nodes (wrapped : Bool) (atoms : List Atom) : List Node :=
  let row := (anchored atoms).map (·.node)
  if wrapped then [.group 1 (.catAll row)] else row

theorem foldlM_scopeTokens (legible : ∀ atom ∈ atoms, atom.Legible dotAll) (wrapped : Bool) (row : List Piece) :
    ∃ pieces : List Piece, (scopeTokens wrapped atoms).foldlM Arrangement.step ⟨⟨[], row⟩, [], 0⟩ =
        some ⟨⟨[], pieces ++ row⟩, [], if wrapped then 1 else 0⟩ ∧
      (pieces.map (·.node)).reverse = nodes wrapped atoms ∧ ∀ piece ∈ pieces, piece.depth ≤ 4 := by
  have shallow := depth_row_le legible
  have noded : ((((anchored atoms).map toPiece).reverse).map (·.node)).reverse = (anchored atoms).map (·.node) := by
    rw [List.map_reverse, List.reverse_reverse, List.map_map]
    rfl
  cases wrapped with
  | false =>
    refine ⟨((anchored atoms).map toPiece).reverse, foldlM_tokens _ _ _ _ _, noded, fun piece member => ?_⟩
    exact Nat.le_trans (shallow piece member) (by decide)
  | true =>
    let inner : Part := .ofPieces ((anchored atoms).map toPiece).reverse
    have depth : inner.depth ≤ 3 := Part.depth_ofPieces_le shallow
    have node : inner.node = .catAll ((anchored atoms).map (·.node)) := by rw [Part.ofPieces_node, noded]
    refine ⟨[⟨.group 1 inner.node, inner.depth + 1, true⟩], ?_, ?_, fun piece member => ?_⟩
    · change List.foldlM Arrangement.step ⟨.empty, [(some 1, ⟨[], row⟩)], 1⟩
        ((anchored atoms).map token ++ [.closeGroup]) = _
      rw [List.foldlM_append, Level.empty, foldlM_tokens, List.append_nil]
      rfl
    · rw [node]
      rfl
    · obtain rfl := List.mem_singleton.mp member
      change inner.depth + 1 ≤ 4
      omega

/-- What the plain dialect takes a row for. -/
def whole (dotAll wrapped : Bool) (atoms : List Atom) : Node :=
  .catAll (if dotAll then .empty :: nodes wrapped atoms else nodes wrapped atoms)

/-- The plain dialect reads a row as it is meant. -/
theorem ofText?_whole (legible : ∀ atom ∈ atoms, atom.Legible dotAll) (wrapped : Bool) :
    Tree.ofText? (lead dotAll ++ scope wrapped atoms) =
      some ⟨whole dotAll wrapped atoms, if wrapped then 1 else 0⟩ := by
  let row : List Piece := if dotAll then [⟨.empty, 0, false⟩] else []
  obtain ⟨pieces, arranged, noded, shallow⟩ := foldlM_scopeTokens legible wrapped row
  have folded : List.foldlM Arrangement.step .initial
      ((if dotAll then [.setting] else []) ++ scopeTokens wrapped atoms) =
      some ⟨⟨[], pieces ++ row⟩, [], if wrapped then 1 else 0⟩ := by
    rw [List.foldlM_append, ← arranged]
    cases dotAll <;> rfl
  have node : (Part.ofPieces (pieces ++ row)).node = whole dotAll wrapped atoms := by
    rw [Part.ofPieces_node, List.map_append, List.reverse_append, noded, whole]
    cases dotAll <;> rfl
  have depth : (Part.ofPieces (pieces ++ row)).depth ≤ 5 := by
    refine Part.depth_ofPieces_le fun piece member => ?_
    rcases List.mem_append.mp member with member | member
    · exact shallow piece member
    · have lead : piece.depth = 0 := by
        cases dotAll with
        | false => exact absurd member List.not_mem_nil
        | true => rw [List.mem_singleton.mp member]
      omega
  have accepted : (Part.ofPieces (pieces ++ row)).depth ≤ depthLimit := Nat.le_trans depth (by decide)
  rw [Tree.ofText?, scan?_lead legible wrapped, Option.bind_some, Tree.ofTokens?, folded, Option.bind_some, ← node]
  change (if (true && decide ((Part.ofPieces (pieces ++ row)).depth ≤ depthLimit)) = true then _ else none) = _
  rw [decide_eq_true accepted]
  rfl

/-! ## The stretches of a row -/

variable {cs : List Char} {sets : List CharSet} {i j : Nat}

/-- Sets in a row up to the end of the text stand for one character each. -/
theorem spans_sets (inside : i ≤ cs.length) :
    (Node.catAll (sets.map .set ++ [.look .textEnd])).Spans cs.toArray i j ↔
      j = cs.length ∧ List.Forall₂ (· ∈ ·) (cs.drop i) sets := by
  induction sets generalizing i with
  | nil =>
    have ends : Look.textEnd.holds cs.toArray i = true ↔ cs.length ≤ i := by
      rw [Choice.textEnd_holds_iff, List.size_toArray]
    change Look.textEnd.holds cs.toArray i = true ∧ j = i ↔ _
    rw [ends, List.forall₂_nil_right_iff, List.drop_eq_nil_iff]
    omega
  | cons s sets ih =>
    rw [List.map_cons, List.cons_append, Choice.spans_catAll_cons]
    constructor
    · rintro ⟨k, ⟨c, here, member, rfl⟩, rest⟩
      rw [List.getElem?_toArray] at here
      obtain ⟨bound, rfl⟩ := List.getElem?_eq_some_iff.mp here
      obtain ⟨stop, others⟩ := (ih bound).mp rest
      rw [List.drop_eq_getElem_cons bound]
      exact ⟨stop, .cons member others⟩
    · rintro ⟨stop, each⟩
      obtain ⟨c, more, member, others, split⟩ := List.forall₂_cons_right_iff.mp each
      have bound : i < cs.length := by
        apply Nat.lt_of_le_of_ne inside
        rintro rfl
        rw [List.drop_length] at split
        cases split
      rw [List.drop_eq_getElem_cons bound] at split
      obtain ⟨rfl, rfl⟩ := List.cons.inj split
      refine ⟨i + 1, ⟨cs[i], ?_, member, rfl⟩, (ih bound).mpr ⟨stop, others⟩⟩
      rw [List.getElem?_toArray, List.getElem?_eq_getElem bound]

theorem spans_whole (noded : atoms.map (·.node) = sets.map .set) (dotAll wrapped : Bool) (inside : i ≤ cs.length) :
    (whole dotAll wrapped atoms).Spans cs.toArray i j ↔ i = 0 ∧ j = cs.length ∧
      List.Forall₂ (· ∈ ·) cs sets := by
  have begins : Look.textStart.holds cs.toArray i = true ↔ i = 0 := Choice.textStart_holds_iff inside
  have row : (Node.catAll ((anchored atoms).map (·.node))).Spans cs.toArray i j ↔
      i = 0 ∧ j = cs.length ∧ List.Forall₂ (· ∈ ·) cs sets := by
    rw [anchored, List.map_cons, List.map_append, noded]
    constructor
    · intro spans
      obtain ⟨k, ⟨start, rfl⟩, rest⟩ := Choice.spans_catAll_cons.mp spans
      obtain rfl := begins.mp start
      exact ⟨rfl, (spans_sets inside).mp rest⟩
    · rintro ⟨rfl, each⟩
      exact Choice.spans_catAll_cons.mpr ⟨0, ⟨begins.mpr rfl, rfl⟩, (spans_sets inside).mpr each⟩
  have grouped : (Node.catAll (nodes wrapped atoms)).Spans cs.toArray i j ↔
      (Node.catAll ((anchored atoms).map (·.node))).Spans cs.toArray i j := by
    cases wrapped <;> exact Iff.rfl
  cases dotAll with
  | false => exact grouped.trans row
  | true =>
    refine Iff.trans ?_ (grouped.trans row)
    rw [whole, if_pos rfl, Choice.spans_catAll_cons]
    constructor
    · rintro ⟨k, rfl, rest⟩
      exact rest
    · exact fun rest => ⟨i, rfl, rest⟩

theorem ordered_catAll {nodes : List Node} (ordered : ∀ node ∈ nodes, node.Ordered) :
    (Node.catAll nodes).Ordered := by
  induction nodes with
  | nil => trivial
  | cons node rest ih =>
    obtain ⟨first, others⟩ := List.forall_mem_cons.mp ordered
    cases rest with
    | nil => exact first
    | cons => exact ⟨first, ih others⟩

theorem ordered_whole (noded : atoms.map (·.node) = sets.map .set) (dotAll wrapped : Bool) :
    (whole dotAll wrapped atoms).Ordered := by
  have row : ∀ node ∈ (anchored atoms).map (·.node), node.Ordered := by
    intro node member
    rw [anchored, List.map_cons, List.map_append, noded] at member
    rcases List.mem_cons.mp member with rfl | member
    · trivial
    · rcases List.mem_append.mp member with member | member
      · obtain ⟨s, _, rfl⟩ := List.mem_map.mp member
        trivial
      · obtain rfl := List.mem_singleton.mp member
        trivial
  have grouped : ∀ node ∈ nodes wrapped atoms, node.Ordered := by
    cases wrapped with
    | false => exact row
    | true =>
      intro node member
      obtain rfl := List.mem_singleton.mp member
      exact ordered_catAll row
  apply ordered_catAll
  cases dotAll with
  | false => exact grouped
  | true => exact List.forall_mem_cons.mpr ⟨trivial, grouped⟩

/-- A search with a row matches exactly the texts with one character for each set, and from their start. -/
theorem search?_whole (noded : atoms.map (·.node) = sets.map .set) (dotAll wrapped : Bool) (cs : List Char) :
    (((whole dotAll wrapped atoms).program.search? cs.toArray 0).isSome = true ↔
      List.Forall₂ (· ∈ ·) cs sets) ∧
      ∀ start hit, (whole dotAll wrapped atoms).program.search? cs.toArray 0 = some (start, hit) → start = 0 := by
  have ordered := ordered_whole noded dotAll wrapped
  have found : ((whole dotAll wrapped atoms).program.search? cs.toArray 0).isSome = true ↔
      List.Forall₂ (· ∈ ·) cs sets := by
    rw [Node.search?_isSome_iff ordered (Nat.zero_le _)]
    constructor
    · rintro ⟨i, j, _, inside, spans⟩
      exact ((spans_whole noded dotAll wrapped inside).mp spans).2.2
    · intro each
      exact ⟨0, cs.length, Nat.le_refl _, Nat.zero_le _,
        (spans_whole noded dotAll wrapped (Nat.zero_le _)).mpr ⟨rfl, rfl, each⟩⟩
  refine ⟨found, fun start hit success => ?_⟩
  have each := found.mp (by rw [success]; rfl)
  have accepts := (Node.accepts_program_iff ordered).mpr
    ⟨cs.length, (spans_whole noded dotAll wrapped (Nat.zero_le _)).mpr ⟨rfl, rfl, each⟩⟩
  obtain ⟨first, here⟩ := Program.search?_of_accepts _ (Nat.zero_le _) accepts
  rw [here] at success
  exact (congrArg Prod.fst (Option.some.inj success)).symm

end Atom
end PatternComposer.Regex
