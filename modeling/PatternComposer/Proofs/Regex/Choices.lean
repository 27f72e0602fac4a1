import PatternComposer.Proofs.Regex.Sign
import PatternComposer.Proofs.Regex.Spans

/-! # Repeated texts as alternatives

A choice is a literal text with bounds on how often it stands in a row. Choices between anchors,
separated by bars inside one group, are read as `Choice.whole`, whose stretches are the whole texts
that one of the choices allows.
-/

namespace PatternComposer.Regex

/-! ## Depths -/

namespace Part

theorem foldl_max_le {depths : List Nat} {first bound : Nat} (le : first ≤ bound)
    (below : ∀ depth ∈ depths, depth ≤ bound) : depths.foldl max first ≤ bound := by
  induction depths generalizing first with
  | nil => exact le
  | cons depth rest ih =>
    have here := below depth List.mem_cons_self
    exact ih (by omega) fun other member => below other (List.mem_cons_of_mem _ member)

theorem depth_ofPieces_le {row : List Piece} {bound : Nat} (below : ∀ piece ∈ row, piece.depth ≤ bound) :
    (ofPieces row).depth ≤ bound + 1 := by
  have most : (row.map (·.depth)).foldl max 0 ≤ bound := by
    apply foldl_max_le (Nat.zero_le _)
    intro depth member
    obtain ⟨piece, inside, rfl⟩ := List.mem_map.mp member
    exact below piece inside
  cases row with
  | nil => exact Nat.zero_le _
  | cons piece rest =>
    cases rest with
    | nil => exact Nat.le_succ_of_le (below piece List.mem_cons_self)
    | cons => exact Nat.succ_le_succ most

theorem depth_ofBranches_le {parts : List Part} {bound : Nat} (below : ∀ part ∈ parts, part.depth ≤ bound) :
    (ofBranches parts).depth ≤ bound + 1 := by
  have most : (parts.map (·.depth)).foldl max 0 ≤ bound := by
    apply foldl_max_le (Nat.zero_le _)
    intro depth member
    obtain ⟨part, inside, rfl⟩ := List.mem_map.mp member
    exact below part inside
  cases parts with
  | nil => exact Nat.zero_le _
  | cons part rest =>
    cases rest with
    | nil => exact Nat.le_succ_of_le (below part List.mem_cons_self)
    | cons => exact Nat.succ_le_succ most

end Part

/-- A text and how often it may stand in a row. -/
structure Choice where
  text : List Char
  least : UInt32
  most : UInt32

namespace Choice

/-- There is a text, each of its characters is read as it is meant, and the bounds are in order. -/
structure WellFormed (choice : Choice) : Prop where
  nonempty : choice.text ≠ []
  faithful : ∀ c ∈ choice.text, c ∉ Sign.copied
  ordered : choice.least ≤ choice.most

/-- The text is one that the choice allows. -/
def Allows (choice : Choice) (text : List Char) : Prop :=
  ∃ count, choice.least.toNat ≤ count ∧ count ≤ choice.most.toNat ∧
    text = (List.replicate count choice.text).flatten

/-! ## Signs -/

def chars (text : List Char) : List Sign := text.map .char

/-- A text is written in a group of its own, captured if `wrap`. A lone character needs no group
that is not captured. -/
def textSigns (wrap : Bool) (text : List Char) : List Sign :=
  if !wrap && text.length == 1 then chars text else .opening wrap :: (chars text ++ [.closing])

def signs (wrap : Bool) (choice : Choice) : List Sign :=
  textSigns wrap choice.text ++ [.times choice.least choice.most]

def wholeSigns (captured wrap : Bool) (choices : List Choice) : List Sign :=
  .start :: .opening captured ::
    (List.intercalate [.bar] (choices.map (signs wrap)) ++ [.closing, .stop])

theorem follow_chars {text : List Char} (nonempty : text ≠ []) (state : Bool × Nat) :
    (chars text).foldlM Sign.follow state = some (true, state.2) := by
  induction text generalizing state with
  | nil => exact absurd rfl nonempty
  | cons c rest ih =>
    cases rest with
    | nil => rfl
    | cons d more => exact ih nofun (true, state.2)

theorem follow_textSigns {text : List Char} (nonempty : text ≠ []) (wrap quantifiable : Bool) {depth : Nat}
    (shallow : depth ≤ 1) :
    (textSigns wrap text).foldlM Sign.follow (quantifiable, depth) = some (true, depth) := by
  have characters (state : Bool × Nat) := follow_chars nonempty state
  have room : depth + 1 < Extended.Scanner.nestLimit := by
    rw [Extended.Scanner.nestLimit]
    omega
  rw [textSigns]
  split
  · exact characters _
  · rw [List.foldlM_cons, Sign.follow, if_pos room]
    simp [characters, Sign.follow]

theorem follow_signs {choice : Choice} (wellFormed : choice.WellFormed) (wrap quantifiable : Bool) {depth : Nat}
    (shallow : depth ≤ 1) :
    (choice.signs wrap).foldlM Sign.follow (quantifiable, depth) = some (false, depth) := by
  rw [signs, List.foldlM_append, follow_textSigns wellFormed.nonempty wrap quantifiable shallow]
  rfl

theorem follow_choices {choices : List Choice} (wellFormed : ∀ choice ∈ choices, choice.WellFormed)
    (nonempty : choices ≠ []) (wrap quantifiable : Bool) :
    (List.intercalate [.bar] (choices.map (signs wrap))).foldlM Sign.follow (quantifiable, 1) = some (false, 1) := by
  induction choices generalizing quantifiable with
  | nil => exact absurd rfl nonempty
  | cons choice rest ih =>
    have first := follow_signs (wellFormed choice List.mem_cons_self) wrap quantifiable (Nat.le_refl 1)
    cases rest with
    | nil => rwa [List.map_singleton, List.intercalate_singleton]
    | cons second more =>
      have later := ih (fun other member => wellFormed other (List.mem_cons_of_mem _ member)) nofun false
      rw [List.map_cons, List.map_cons, List.intercalate_cons_cons, List.foldlM_append, List.foldlM_append, first]
      exact later

theorem follow_whole {choices : List Choice} (wellFormed : ∀ choice ∈ choices, choice.WellFormed)
    (nonempty : choices ≠ []) (captured wrap : Bool) :
    (wholeSigns captured wrap choices).foldlM Sign.follow (false, 0) = some (true, 0) := by
  have choices := follow_choices wellFormed nonempty wrap false
  simp [wholeSigns, Sign.follow, Extended.Scanner.nestLimit, choices]

theorem faithful_textSigns {text : List Char} (faithful : ∀ c ∈ text, c ∉ Sign.copied) (wrap : Bool) :
    ∀ sign ∈ textSigns wrap text, sign.Faithful := by
  have characters : ∀ sign ∈ chars text, sign.Faithful := by
    intro sign member
    obtain ⟨c, inside, rfl⟩ := List.mem_map.mp member
    exact faithful c inside
  intro sign member
  rw [textSigns] at member
  split at member
  · exact characters sign member
  · rcases List.mem_cons.mp member with rfl | member
    · trivial
    · rcases List.mem_append.mp member with member | member
      · exact characters sign member
      · obtain rfl := List.mem_singleton.mp member
        trivial

theorem faithful_signs {choice : Choice} (wellFormed : choice.WellFormed) (wrap : Bool) :
    ∀ sign ∈ choice.signs wrap, sign.Faithful := by
  intro sign member
  rw [signs] at member
  rcases List.mem_append.mp member with member | member
  · exact faithful_textSigns wellFormed.faithful wrap sign member
  · obtain rfl := List.mem_singleton.mp member
    exact wellFormed.ordered

theorem faithful_choices {choices : List Choice} (wellFormed : ∀ choice ∈ choices, choice.WellFormed)
    (wrap : Bool) : ∀ sign ∈ List.intercalate [.bar] (choices.map (signs wrap)), sign.Faithful := by
  induction choices with
  | nil => exact fun _ member => absurd member List.not_mem_nil
  | cons choice rest ih =>
    have first := faithful_signs (wellFormed choice List.mem_cons_self) wrap
    have later := ih fun other member => wellFormed other (List.mem_cons_of_mem _ member)
    cases rest with
    | nil => rwa [List.map_singleton, List.intercalate_singleton]
    | cons second more =>
      intro sign member
      rw [List.map_cons, List.map_cons, List.intercalate_cons_cons] at member
      rcases List.mem_append.mp member with member | member
      · rcases List.mem_append.mp member with member | member
        · exact first sign member
        · obtain rfl := List.mem_singleton.mp member
          trivial
      · exact later sign member

theorem faithful_whole {choices : List Choice} (wellFormed : ∀ choice ∈ choices, choice.WellFormed)
    (captured wrap : Bool) : ∀ sign ∈ wholeSigns captured wrap choices, sign.Faithful := by
  intro sign member
  rw [wholeSigns] at member
  simp only [List.mem_cons, List.mem_append, List.not_mem_nil, or_false] at member
  rcases member with rfl | rfl | member | rfl | rfl
  · trivial
  · trivial
  · exact faithful_choices wellFormed wrap sign member
  · trivial
  · trivial

/-! ## Nodes -/

def textNode (text : List Char) : Node := .catAll (text.map fun c => .set (.single c))

/-- A choice whose text is in group `index`, if it is in a group that captures. -/
def node (wrap : Bool) (index : Nat) (choice : Choice) : Node :=
  .rep (if wrap then .group index (textNode choice.text) else textNode choice.text)
    choice.least.toNat (some choice.most.toNat) true

/-- The choices with their groups numbered from `index` on. -/
def nodes (wrap : Bool) (index : Nat) : List Choice → List Node
  | [] => []
  | choice :: rest => choice.node wrap index :: nodes wrap (if wrap then index + 1 else index) rest

/-- The choices between anchors, in a group that captures or in one that does not. -/
def whole (captured wrap : Bool) (choices : List Choice) : Node :=
  .catAll [.look .textStart,
    if captured then .group 1 (.altAll (nodes wrap 2 choices)) else .altAll (nodes wrap 1 choices),
    .look .textEnd]

/-! ## Arranging the plain tokens -/

/-- The tokens of signs, arranged one after the other. -/
def arrange (a : Arrangement) (signs : List Sign) : Option Arrangement :=
  (signs.map Sign.token).foldlM Arrangement.step a

theorem arrange_append (a : Arrangement) (first second : List Sign) :
    arrange a (first ++ second) = (arrange a first).bind fun a => arrange a second := by
  rw [arrange, List.map_append, List.foldlM_append]
  rfl

theorem arrange_opening (captured : Bool) (level : Level) (outer : List (Option Nat × Level)) (groups : Nat)
    (rest : List Sign) :
    arrange ⟨level, outer, groups⟩ (.opening captured :: rest) =
      arrange ⟨.empty, (if captured then some (groups + 1) else none, level) :: outer,
        if captured then groups + 1 else groups⟩ rest := by
  cases captured <;> rfl

/-- The pieces that the characters of a text become, the last one first. -/
def pieces (text : List Char) : List Piece := (text.map fun c => ⟨.set (.single c), 0, true⟩).reverse

theorem arrange_chars (text : List Char) (branches : List Part) (row : List Piece)
    (outer : List (Option Nat × Level)) (groups : Nat) :
    arrange ⟨⟨branches, row⟩, outer, groups⟩ (chars text) =
      some ⟨⟨branches, pieces text ++ row⟩, outer, groups⟩ := by
  induction text generalizing row with
  | nil => rfl
  | cons c rest ih =>
    change arrange ⟨⟨branches, ⟨.set (.single c), 0, true⟩ :: row⟩, outer, groups⟩ (chars rest) = _
    rw [ih, pieces, pieces, List.map_cons, List.reverse_cons, List.append_assoc]
    rfl

theorem node_pieces (text : List Char) : (Part.ofPieces (pieces text)).node = textNode text := by
  rw [Part.ofPieces_node, pieces, List.map_reverse, List.reverse_reverse, List.map_map]
  rfl

theorem depth_pieces_le (text : List Char) : (Part.ofPieces (pieces text)).depth ≤ 1 := by
  apply Part.depth_ofPieces_le
  intro piece member
  obtain ⟨c, _, rfl⟩ := List.mem_map.mp (List.mem_reverse.mp member)
  exact Nat.le_refl _

/-- A choice becomes one piece. -/
theorem arrange_signs (choice : Choice) (wrap : Bool)
    (branches : List Part) (row : List Piece) (outer : List (Option Nat × Level)) (groups : Nat) :
    ∃ depth ≤ 3, arrange ⟨⟨branches, row⟩, outer, groups⟩ (choice.signs wrap) =
      some ⟨⟨branches, ⟨choice.node wrap (groups + 1), depth, true⟩ :: row⟩, outer,
        if wrap then groups + 1 else groups⟩ := by
  obtain ⟨text, least, most⟩ := choice
  have enclosed : arrange ⟨.empty, (if wrap then some (groups + 1) else none, ⟨branches, row⟩) :: outer,
      if wrap then groups + 1 else groups⟩ (chars text) =
      some ⟨⟨[], pieces text⟩, (if wrap then some (groups + 1) else none, ⟨branches, row⟩) :: outer,
        if wrap then groups + 1 else groups⟩ := by
    rw [Level.empty, arrange_chars, List.append_nil]
  have node := node_pieces text
  have depth := depth_pieces_le text
  rw [signs, arrange_append, textSigns]
  split
  · next lone =>
    simp only [Bool.and_eq_true, Bool.not_eq_true', beq_iff_eq] at lone
    obtain ⟨rfl, single⟩ := lone
    obtain ⟨c, rfl⟩ := List.length_eq_one_iff.mp single
    exact ⟨1, by omega, rfl⟩
  · rw [arrange_opening, arrange_append, enclosed]
    refine ⟨(Part.ofPieces (pieces text)).depth + 1 + 1, by omega, ?_⟩
    cases wrap with
    | false => change some _ = some _; rw [Choice.node, ← node]; rfl
    | true => change some _ = some _; rw [Choice.node, ← node]; rfl

/-- The choices become one branch each. -/
theorem arrange_choices {choices : List Choice} (nonempty : choices ≠ []) (wrap : Bool)
    (branches : List Part) (outer : List (Option Nat × Level)) (groups : Nat) :
    ∃ level, ∃ parts : List Part, ∃ count, arrange ⟨⟨branches, []⟩, outer, groups⟩
        (List.intercalate [.bar] (choices.map (signs wrap))) = some ⟨level, outer, count⟩ ∧
      Part.ofPieces level.pieces :: level.branches = parts.reverse ++ branches ∧
      parts.map (·.node) = nodes wrap (groups + 1) choices ∧ ∀ part ∈ parts, part.depth ≤ 3 := by
  induction choices generalizing branches groups with
  | nil => exact absurd rfl nonempty
  | cons choice rest ih =>
    obtain ⟨depth, bound, first⟩ := choice.arrange_signs wrap branches [] outer groups
    cases rest with
    | nil =>
      rw [List.map_singleton, List.intercalate_singleton, first]
      refine ⟨_, [⟨choice.node wrap (groups + 1), depth⟩], _, rfl, rfl, rfl, fun part member => ?_⟩
      obtain rfl := List.mem_singleton.mp member
      exact bound
    | cons second more =>
      obtain ⟨level, parts, count, arranged, branched, noded, below⟩ := ih nofun
        (⟨choice.node wrap (groups + 1), depth⟩ :: branches) (if wrap then groups + 1 else groups)
      refine ⟨level, ⟨choice.node wrap (groups + 1), depth⟩ :: parts, count, ?_, ?_, ?_, fun part member => ?_⟩
      · rw [List.map_cons, List.map_cons, List.intercalate_cons_cons, arrange_append, arrange_append, first]
        exact arranged
      · rw [branched, List.reverse_cons, List.append_assoc, List.singleton_append]
      · rw [List.map_cons, noded]
        cases wrap <;> rfl
      · rcases List.mem_cons.mp member with rfl | member
        · exact bound
        · exact below part member

/-- The plain dialect reads the choices as they are meant. -/
theorem ofTokens?_whole {choices : List Choice} (nonempty : choices ≠ []) (captured wrap : Bool) :
    ∃ groups, Tree.ofTokens? ((wholeSigns captured wrap choices).map Sign.token) =
      some ⟨whole captured wrap choices, groups⟩ := by
  obtain ⟨level, parts, count, arranged, branched, noded, below⟩ := arrange_choices nonempty wrap []
    [(if captured then some 1 else none, ⟨[], [⟨.look .textStart, 0, true⟩]⟩)] (if captured then 1 else 0)
  have node : level.toPart.node = .altAll (nodes wrap ((if captured then 1 else 0) + 1) choices) := by
    rw [Level.toPart, branched, List.append_nil, Part.ofBranches_node, List.map_reverse, List.reverse_reverse, noded]
  have depth : level.toPart.depth ≤ 4 := by
    rw [Level.toPart, branched, List.append_nil]
    exact Part.depth_ofBranches_le fun part member => below part (List.mem_reverse.mp member)
  let row : List Piece := [⟨.look .textEnd, 0, true⟩,
    ⟨if captured then .group 1 level.toPart.node else level.toPart.node, level.toPart.depth + 1, true⟩,
    ⟨.look .textStart, 0, true⟩]
  have folded : arrange .initial (wholeSigns captured wrap choices) = some ⟨⟨[], row⟩, [], count⟩ := by
    have opened : arrange .initial (wholeSigns captured wrap choices) =
        arrange ⟨⟨[], [⟨.look .textStart, 0, true⟩]⟩, [], 0⟩ (.opening captured ::
          (List.intercalate [.bar] (choices.map (signs wrap)) ++ [.closing, .stop])) := rfl
    rw [opened, arrange_opening, arrange_append, Level.empty, Nat.zero_add, arranged]
    cases captured <;> rfl
  have shallow : (Level.toPart ⟨[], row⟩).depth ≤ depthLimit := by
    change max (max (max 0 0) (level.toPart.depth + 1)) 0 + 1 ≤ 250
    omega
  refine ⟨count, ?_⟩
  rw [Tree.ofTokens?, show List.foldlM _ _ _ = some _ from folded, Option.bind_some]
  simp only [List.isEmpty_nil, shallow, decide_true, Bool.and_self, ↓reduceIte]
  have read : (Level.toPart ⟨[], row⟩).node = whole captured wrap choices := by
    rw [whole]
    cases captured
    · change Node.catAll [.look .textStart, level.toPart.node, .look .textEnd] = _
      rw [node]
      rfl
    · change Node.catAll [.look .textStart, .group 1 level.toPart.node, .look .textEnd] = _
      rw [node]
      rfl
  rw [read]

theorem ofText?_whole {choices : List Choice} (wellFormed : ∀ choice ∈ choices, choice.WellFormed)
    (nonempty : choices ≠ []) (captured wrap : Bool) :
    ∃ groups, Tree.ofText? (Sign.write (wholeSigns captured wrap choices)) =
      some ⟨whole captured wrap choices, groups⟩ := by
  obtain ⟨groups, tree⟩ := ofTokens?_whole nonempty captured wrap
  refine ⟨groups, ?_⟩
  rw [Tree.ofText?, Sign.scan?_write (faithful_whole wellFormed captured wrap)
    (follow_whole wellFormed nonempty captured wrap), Option.bind_some, tree]

/-! ## What the choices stand for -/

/-- The text has this part between two positions. -/
def Stands (cs : List Char) (i : Nat) (part : List Char) (j : Nat) : Prop :=
  j = i + part.length ∧ cs.drop i = part ++ cs.drop j

theorem stands_nil_iff {cs : List Char} {i j : Nat} : Stands cs i [] j ↔ j = i := by
  constructor
  · exact fun stands => stands.1
  · rintro rfl
    exact ⟨rfl, rfl⟩

theorem stands_append_iff {cs first second : List Char} {i j : Nat} :
    Stands cs i (first ++ second) j ↔ ∃ k, Stands cs i first k ∧ Stands cs k second j := by
  constructor
  · rintro ⟨rfl, split⟩
    have rest : cs.drop (i + first.length) = second ++ cs.drop (i + (first ++ second).length) := by
      rw [← List.drop_drop, split, List.append_assoc, List.drop_left]
    refine ⟨i + first.length, ⟨rfl, ?_⟩, ?_, rest⟩
    · rw [rest, split, List.append_assoc]
    · rw [List.length_append, Nat.add_assoc]
  · rintro ⟨k, ⟨rfl, left⟩, rfl, right⟩
    refine ⟨by rw [List.length_append, Nat.add_assoc], ?_⟩
    rw [left, right, List.append_assoc]

theorem spans_single_iff {cs : List Char} {c : Char} {i j : Nat} :
    (Node.set (.single c)).Spans cs.toArray i j ↔ Stands cs i [c] j := by
  constructor
  · rintro ⟨d, here, member, rfl⟩
    obtain rfl := CharSet.mem_single.mp member
    rw [List.getElem?_toArray] at here
    obtain ⟨bound, rfl⟩ := List.getElem?_eq_some_iff.mp here
    exact ⟨rfl, List.drop_eq_getElem_cons bound⟩
  · rintro ⟨rfl, split⟩
    refine ⟨c, ?_, CharSet.mem_single.mpr rfl, rfl⟩
    rw [List.getElem?_toArray, ← Nat.add_zero i, ← List.getElem?_drop, split]
    rfl

theorem spans_catAll_cons {text : Array Char} {node : Node} {rest : List Node} {i j : Nat} :
    (Node.catAll (node :: rest)).Spans text i j ↔
      ∃ k, node.Spans text i k ∧ (Node.catAll rest).Spans text k j := by
  cases rest with
  | nil =>
    constructor
    · exact fun spans => ⟨j, spans, rfl⟩
    · rintro ⟨k, spans, rfl⟩
      exact spans
  | cons => exact Iff.rfl

theorem spans_altAll {text : Array Char} {nodes : List Node} (nonempty : nodes ≠ []) {i j : Nat} :
    (Node.altAll nodes).Spans text i j ↔ ∃ node ∈ nodes, node.Spans text i j := by
  induction nodes with
  | nil => exact absurd rfl nonempty
  | cons node rest ih =>
    cases rest with
    | nil => simp [Node.altAll]
    | cons second more =>
      have later := ih nofun
      rw [Node.altAll]
      · simp only [Node.Spans, later, List.mem_cons, exists_eq_or_imp]
      · nofun

theorem spans_textNode {cs part : List Char} {i j : Nat} :
    (textNode part).Spans cs.toArray i j ↔ Stands cs i part j := by
  induction part generalizing i with
  | nil => exact stands_nil_iff.symm
  | cons c rest ih =>
    have split : c :: rest = [c] ++ rest := rfl
    rw [textNode, List.map_cons, spans_catAll_cons, split, stands_append_iff]
    constructor
    · rintro ⟨k, head, tail⟩
      exact ⟨k, spans_single_iff.mp head, ih.mp tail⟩
    · rintro ⟨k, head, tail⟩
      exact ⟨k, spans_single_iff.mpr head, ih.mpr tail⟩

theorem iterated_textNode {cs part : List Char} {count i j : Nat} :
    Iterated ((textNode part).Spans cs.toArray) count i j ↔ Stands cs i (List.replicate count part).flatten j := by
  induction count generalizing i with
  | zero =>
    constructor
    · intro run
      cases run
      exact stands_nil_iff.mpr rfl
    · intro stands
      obtain rfl := stands_nil_iff.mp stands
      exact .zero
  | succ count ih =>
    rw [List.replicate_succ, List.flatten_cons, stands_append_iff]
    constructor
    · intro run
      cases run with
      | succ head tail => exact ⟨_, spans_textNode.mp head, ih.mp tail⟩
    · rintro ⟨k, head, tail⟩
      exact .succ (spans_textNode.mpr head) (ih.mpr tail)

theorem spans_node {cs : List Char} (choice : Choice) (wrap : Bool) (index : Nat) {i j : Nat} :
    (choice.node wrap index).Spans cs.toArray i j ↔
      ∃ count, choice.least.toNat ≤ count ∧ count ≤ choice.most.toNat ∧
        Stands cs i (List.replicate count choice.text).flatten j := by
  have body (count : Nat) : Iterated ((if wrap then .group index (textNode choice.text)
      else textNode choice.text : Node).Spans cs.toArray) count i j ↔
      Stands cs i (List.replicate count choice.text).flatten j := by
    rw [← iterated_textNode]
    cases wrap <;> exact Iff.rfl
  constructor
  · rintro ⟨count, low, high, run⟩
    exact ⟨count, low, high _ rfl, (body count).mp run⟩
  · rintro ⟨count, low, high, stands⟩
    refine ⟨count, low, ?_, (body count).mpr stands⟩
    rintro limit same
    cases same
    exact high

theorem exists_mem_nodes (wrap : Bool) (index : Nat) (choices : List Choice) {cs : List Char} {i j : Nat} :
    (∃ node ∈ nodes wrap index choices, node.Spans cs.toArray i j) ↔
      ∃ choice ∈ choices, ∃ count, choice.least.toNat ≤ count ∧ count ≤ choice.most.toNat ∧
        Stands cs i (List.replicate count choice.text).flatten j := by
  induction choices generalizing index with
  | nil => simp [nodes]
  | cons choice rest ih => simp only [nodes, List.mem_cons, exists_eq_or_imp, spans_node, ih]

theorem textStart_holds_iff {text : Array Char} {i : Nat} (inside : i ≤ text.size) :
    Look.textStart.holds text i = true ↔ i = 0 := by
  rw [Look.holds, Option.isNone_iff_eq_none, charBefore]
  split
  · next first => exact ⟨fun _ => first, fun _ => rfl⟩
  · next later =>
    have before : text[i - 1]? ≠ none := by
      rw [Array.getElem?_eq_getElem (by omega)]
      exact nofun
    exact ⟨fun none => absurd none before, fun first => absurd first later⟩

theorem textEnd_holds_iff {text : Array Char} {i : Nat} :
    Look.textEnd.holds text i = true ↔ text.size ≤ i := by
  rw [Look.holds, Option.isNone_iff_eq_none, Array.getElem?_eq_none_iff]

/-- The stretches of the choices are the whole texts that one of them allows. -/
theorem spans_whole {cs : List Char} {choices : List Choice} (nonempty : choices ≠ []) (captured wrap : Bool) :
    (∃ i j, 0 ≤ i ∧ i ≤ cs.toArray.size ∧ (whole captured wrap choices).Spans cs.toArray i j) ↔
      ∃ choice ∈ choices, choice.Allows cs := by
  have filled (index : Nat) : nodes wrap index choices ≠ [] := by
    cases choices with
    | nil => exact absurd rfl nonempty
    | cons => exact nofun
  have body (i j : Nat) : (if captured then .group 1 (.altAll (nodes wrap 2 choices))
      else .altAll (nodes wrap 1 choices) : Node).Spans cs.toArray i j ↔
      ∃ choice ∈ choices, ∃ count, choice.least.toNat ≤ count ∧ count ≤ choice.most.toNat ∧
        Stands cs i (List.replicate count choice.text).flatten j := by
    cases captured with
    | false => exact (spans_altAll (filled 1)).trans (exists_mem_nodes wrap 1 choices)
    | true => exact (spans_altAll (filled 2)).trans (exists_mem_nodes wrap 2 choices)
  constructor
  · rintro ⟨i, j, _, inside, _, ⟨start, rfl⟩, l, middle, stop, rfl⟩
    obtain rfl := (textStart_holds_iff inside).mp start
    obtain ⟨choice, member, count, low, high, same, split⟩ := (body _ _).mp middle
    have ended := textEnd_holds_iff.mp stop
    rw [List.size_toArray] at ended
    rw [List.drop_zero, List.drop_eq_nil_of_le ended, List.append_nil] at split
    exact ⟨choice, member, count, low, high, split⟩
  · rintro ⟨choice, member, count, low, high, rfl⟩
    refine ⟨0, _, Nat.le_refl _, Nat.zero_le _, 0, ⟨rfl, rfl⟩, _, (body _ _).mpr
      ⟨choice, member, count, low, high, rfl, ?_⟩, textEnd_holds_iff.mpr ?_, rfl⟩
    · rw [List.drop_zero, Nat.zero_add, List.drop_length, List.append_nil]
    · exact Nat.le_of_eq (by rw [List.size_toArray, Nat.zero_add])

theorem ordered_textNode (text : List Char) : (textNode text).Ordered := by
  induction text with
  | nil => trivial
  | cons c rest ih =>
    cases rest with
    | nil => trivial
    | cons d more => exact ⟨trivial, ih⟩

theorem ordered_altAll {nodes : List Node} (ordered : ∀ node ∈ nodes, node.Ordered) :
    (Node.altAll nodes).Ordered := by
  induction nodes with
  | nil => trivial
  | cons node rest ih =>
    have first := ordered node List.mem_cons_self
    have later := ih fun other member => ordered other (List.mem_cons_of_mem _ member)
    cases rest with
    | nil => exact first
    | cons second more => exact ⟨first, later⟩

theorem ordered_nodes {choices : List Choice} (wellFormed : ∀ choice ∈ choices, choice.WellFormed)
    (wrap : Bool) (index : Nat) : ∀ node ∈ nodes wrap index choices, node.Ordered := by
  induction choices generalizing index with
  | nil => exact fun _ member => absurd member List.not_mem_nil
  | cons choice rest ih =>
    intro node member
    rcases List.mem_cons.mp member with rfl | member
    · refine ⟨?_, fun limit same => ?_⟩
      · cases wrap <;> exact ordered_textNode choice.text
      · cases same
        exact UInt32.le_iff_toNat_le.mp (wellFormed choice List.mem_cons_self).ordered
    · exact ih (fun other member => wellFormed other (List.mem_cons_of_mem _ member)) _ node member

theorem ordered_whole {choices : List Choice} (wellFormed : ∀ choice ∈ choices, choice.WellFormed)
    (captured wrap : Bool) : (whole captured wrap choices).Ordered := by
  have inner (index : Nat) := ordered_altAll (ordered_nodes wellFormed wrap index)
  refine ⟨trivial, ?_, trivial⟩
  cases captured with
  | false => exact inner 1
  | true => exact inner 2

/-- A search with the choices matches exactly the texts that one of them allows. -/
theorem search?_whole {choices : List Choice} (wellFormed : ∀ choice ∈ choices, choice.WellFormed)
    (nonempty : choices ≠ []) (captured wrap : Bool) (cs : List Char) :
    ((whole captured wrap choices).program.search? cs.toArray 0).isSome = true ↔
      ∃ choice ∈ choices, choice.Allows cs := by
  rw [Node.search?_isSome_iff (ordered_whole wellFormed captured wrap) (Nat.zero_le _)]
  exact spans_whole nonempty captured wrap

end Choice
end PatternComposer.Regex
