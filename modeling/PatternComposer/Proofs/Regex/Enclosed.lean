import PatternComposer.Proofs.Regex.Inside
import PatternComposer.Proofs.Regex.Leading
import PatternComposer.Proofs.Regex.Wrapped

/-! # Trees of patterns inside a group

Tokens between an opening and a closing parenthesis are arranged as they are without them, with later
numbers for their groups. A change of modes in front of a pattern stands in front of the group; it
is a piece without code, so the code inside the group stays the same.
-/

namespace PatternComposer.Regex

/-! ## Levels with later numbers -/

namespace Piece

def later (piece : Piece) : Piece := { piece with node := piece.node.later }

end Piece

namespace Part

theorem ofPieces_later (pieces : List Piece) : ofPieces (pieces.map Piece.later) = (ofPieces pieces).later := by
  match pieces with
  | [] => rfl
  | [piece] => rfl
  | first :: second :: rest =>
    rw [later, ofPieces_node, Node.later_catAll]
    simp [ofPieces, Piece.later, Function.comp_def]

theorem ofBranches_later (parts : List Part) : ofBranches (parts.map later) = (ofBranches parts).later := by
  match parts with
  | [] => rfl
  | [part] => rfl
  | first :: second :: rest =>
    rw [later, ofBranches_node, Node.later_altAll]
    simp [ofBranches, later, Function.comp_def]

end Part

namespace Level

def later (level : Level) : Level := ⟨level.branches.map Part.later, level.pieces.map Piece.later⟩

theorem toPart_later (level : Level) : level.later.toPart = level.toPart.later := by
  rw [toPart, toPart, ← Part.ofBranches_later, List.map_cons, ← Part.ofPieces_later]
  rfl

theorem quantify?_later (level : Level) (lo : Nat) (hi : Option Nat) (greedy : Bool) :
    level.later.quantify? lo hi greedy = (level.quantify? lo hi greedy).map later := by
  obtain ⟨branches, pieces⟩ := level
  cases pieces with
  | nil => rfl
  | cons piece pieces =>
    by_cases repeatable : piece.repeatable = true <;>
      simp [quantify?, later, Piece.later, Node.later, repeatable]

end Level

namespace Arrangement

/-- The arrangement inside the first group of a pattern, with the level around it. -/
def inside (base : Level) (a : Arrangement) : Arrangement where
  level := a.level.later
  outer := a.outer.map (fun open_ => (open_.1.map laterGroup, open_.2.later)) ++ [(some 1, base)]
  groups := a.groups + 1

theorem step_inside (base : Level) (a : Arrangement) (token : Token) :
    Lifts (fun b b' => b' = b.inside base) (a.step token) ((a.inside base).step token.later) := by
  obtain ⟨level, outer, groups⟩ := a
  cases token with
  | piece node depth => exact .some rfl
  | setting => exact .some rfl
  | quantifier lo hi greedy =>
    change Lifts _ _ ((level.later.quantify? lo hi greedy).map _)
    rw [Level.quantify?_later, Option.map_map]
    exact .map_same fun _ => rfl
  | bar =>
    refine .some ?_
    simp [inside, Level.later, Part.ofPieces_later]
  | openGroup capturing => cases capturing <;> exact .some (by simp [inside, laterGroup, Level.later, Level.empty])
  | closeGroup =>
    cases outer with
    | nil => exact .none
    | cons last outer =>
      obtain ⟨index, around⟩ := last
      have part := level.toPart_later
      rw [Level.later] at part
      refine .some ?_
      cases index <;> simp [inside, Level.later, part, Part.later, Level.push, Piece.later, Node.later]

end Arrangement

/-! ## A change of modes in front -/

theorem Node.code_catAll (nodes : List Node) : (catAll nodes).code = nodes.flatMap code := by
  induction nodes with
  | nil => rfl
  | cons node rest ih =>
    cases rest with
    | nil => simp [catAll]
    | cons second more =>
      change node.code ++ (catAll (second :: more)).code = _
      rw [ih]
      rfl

theorem Node.code_altAll_congr {nodes nodes' : List Node} (same : nodes.map code = nodes'.map code) :
    (altAll nodes).code = (altAll nodes').code := by
  induction nodes generalizing nodes' with
  | nil =>
    obtain rfl := List.map_eq_nil_iff.mp same.symm
    rfl
  | cons node rest ih =>
    obtain ⟨node', rest', rfl, first, others⟩ := List.map_eq_cons_iff.mp same.symm
    cases rest with
    | nil =>
      obtain rfl := List.map_eq_nil_iff.mp others
      exact first.symm
    | cons second more =>
      obtain ⟨second', more', rfl, _, _⟩ := List.map_eq_cons_iff.mp others
      have tail := ih others.symm
      change (Node.alt node _).code = (Node.alt node' _).code
      rw [code, code, tail, first]

/-- The piece of a change of modes. -/
def Piece.setting : Piece := ⟨.empty, 0, false⟩

/-- The same branches, but the first one may begin with a change of modes. -/
structure Level.Leads (level bare : Level) : Prop where
  branches : level.branches.map (·.node.code) = bare.branches.map (·.node.code)
  pieces : level.pieces = bare.pieces ∨ level.pieces = bare.pieces ++ [.setting]

namespace Level.Leads

variable {level bare : Level}

theorem code_pieces (leads : level.Leads bare) :
    (Part.ofPieces level.pieces).node.code = (Part.ofPieces bare.pieces).node.code := by
  rw [Part.ofPieces_node, Part.ofPieces_node, Node.code_catAll, Node.code_catAll]
  rcases leads.pieces with same | same <;> simp [same, Piece.setting, Node.code]

theorem code_toPart (leads : level.Leads bare) : level.toPart.node.code = bare.toPart.node.code := by
  rw [Level.toPart, Level.toPart, Part.ofBranches_node, Part.ofBranches_node]
  apply Node.code_altAll_congr
  simp only [List.map_cons, List.reverse_cons, List.map_append, List.map_reverse, List.map_map,
    Function.comp_def, leads.code_pieces, leads.branches]

theorem bar (leads : level.Leads bare) :
    Level.Leads ⟨.ofPieces level.pieces :: level.branches, []⟩
      ⟨.ofPieces bare.pieces :: bare.branches, []⟩ where
  branches := by simp only [List.map_cons, leads.code_pieces, leads.branches]
  pieces := .inl rfl

theorem piece (leads : level.Leads bare) (piece : Piece) :
    Level.Leads { level with pieces := piece :: level.pieces } { bare with pieces := piece :: bare.pieces } where
  branches := leads.branches
  pieces := by rcases leads.pieces with same | same <;> simp [same]

/-- The change of modes itself cannot be repeated. -/
theorem quantify? (leads : level.Leads bare) (lo : Nat) (hi : Option Nat) (greedy : Bool) :
    Lifts Level.Leads (level.quantify? lo hi greedy) (bare.quantify? lo hi greedy) := by
  obtain ⟨branches, pieces⟩ := level
  obtain ⟨branches', pieces'⟩ := bare
  simp only [Level.quantify?]
  cases pieces' with
  | nil =>
    rcases leads.pieces with same | same
    · obtain rfl : pieces = [] := same
      exact .none
    · obtain rfl : pieces = [.setting] := same
      exact .none
  | cons piece rest =>
    obtain ⟨rest', rfl, other⟩ : ∃ rest', pieces = piece :: rest' ∧
        (rest' = rest ∨ rest' = rest ++ [.setting]) := by
      rcases leads.pieces with same | same
      · exact ⟨rest, by simpa using same, .inl rfl⟩
      · exact ⟨rest ++ [.setting], by simpa using same, .inr rfl⟩
    refine .ite (fun _ => .some ⟨leads.branches, ?_⟩) fun _ => .none
    rcases other with rfl | rfl
    · exact .inl rfl
    · exact .inr rfl

end Level.Leads

namespace Arrangement

/-- The same arrangements, but the outermost level of the first one may begin with a change of
modes. -/
inductive Leads : Arrangement → Arrangement → Prop where
  | bottom {level bare groups} (leads : Level.Leads level bare) : Leads ⟨level, [], groups⟩ ⟨bare, [], groups⟩
  | inner (outer) {level index around bare groups} (leads : Level.Leads around bare) :
      Leads ⟨level, outer ++ [(index, around)], groups⟩ ⟨level, outer ++ [(index, bare)], groups⟩

theorem Leads.step {a b : Arrangement} (leads : Leads a b) (token : Token) :
    Lifts Leads (a.step token) (b.step token) := by
  cases leads with
  | @bottom level bare groups leads =>
    cases token with
    | piece node depth => exact .some (.bottom (leads.piece _))
    | setting => exact .some (.bottom (leads.piece _))
    | quantifier lo hi greedy => exact (leads.quantify? lo hi greedy).map fun _ _ leads => .bottom leads
    | bar => exact .some (.bottom leads.bar)
    | openGroup capturing => exact .some (.inner [] leads)
    | closeGroup => exact .none
  | inner outer leads =>
    cases token with
    | piece node depth => exact .some (.inner outer leads)
    | setting => exact .some (.inner outer leads)
    | quantifier lo hi greedy => exact .map_same fun _ => .inner outer leads
    | bar => exact .some (.inner outer leads)
    | openGroup capturing => exact .some (.inner (_ :: outer) leads)
    | closeGroup =>
      cases outer with
      | nil => exact .some (.bottom (leads.piece _))
      | cons last outer => exact .some (.inner outer leads)

theorem Leads.foldlM {a b : Arrangement} (leads : Leads a b) (tokens : List Token) :
    Lifts Leads (tokens.foldlM Arrangement.step a) (tokens.foldlM Arrangement.step b) :=
  .foldlM (fun _ _ token leads => leads.step token) leads tokens

theorem foldlM_inside (base : Level) (a : Arrangement) (tokens : List Token) :
    Lifts (fun b b' => b' = b.inside base) (tokens.foldlM step a)
      ((tokens.map Token.later).foldlM step (a.inside base)) := by
  have forward (b b' : Arrangement) (token : Token) (same : b' = b.inside base) :
      Lifts (fun b b' => b' = b.inside base) (b.step token) (b'.step token.later) := by
    rw [same]
    exact b.step_inside base token
  rw [List.foldlM_map]
  exact .foldlM forward rfl tokens

end Arrangement

/-! ## Patterns -/

theorem Token.scanFrom_extends {fuel : Nat} {s : Scanner} {done tokens : List Token} {cs : List Char}
    (scanned : scanFrom fuel s done cs = some tokens) : ∃ new, tokens = new ++ done := by
  induction fuel generalizing s done cs with
  | zero => cases scanned
  | succ fuel ih =>
    rw [scanFrom] at scanned
    split at scanned
    · obtain ⟨_, same⟩ := Option.ite_none_right_eq_some.mp scanned
      exact ⟨[], (Option.some.inj same).symm⟩
    · obtain ⟨⟨token, next, rest⟩, _, scanned⟩ := Option.bind_eq_some_iff.mp scanned
      obtain ⟨new, rfl⟩ := ih scanned
      exact ⟨new ++ [token], by simp⟩

/-- The level in front of a pattern that may begin with a change of modes. -/
def Level.start (lead : List Token) : Level := ⟨[], lead.map fun _ => .setting⟩

theorem Arrangement.foldlM_lead {lead : List Token} (shape : lead = [] ∨ lead = [.setting]) :
    lead.reverse.foldlM step initial = some ⟨.start lead, [], 0⟩ := by
  rcases shape with rfl | rfl <;> rfl

theorem Level.leads_start {lead : List Token} (shape : lead = [] ∨ lead = [.setting]) :
    Level.Leads (.start lead) .empty := by
  rcases shape with rfl | rfl
  · exact ⟨rfl, .inl rfl⟩
  · exact ⟨rfl, .inr rfl⟩

/-- The change of modes in front adds no code. -/
theorem Level.code_start_push {lead : List Token} (shape : lead = [] ∨ lead = [.setting]) (node : Node)
    (depth : Nat) :
    ((Level.start lead).push node depth).toPart.node.code = node.code := by
  rcases shape with rfl | rfl <;> rfl

/-- The group becomes the only piece behind the change of modes. -/
theorem Arrangement.foldlM_wrapped {lead : List Token} (shape : lead = [] ∨ lead = [.setting])
    {tokens : List Token} {level : Level} {groups : Nat}
    (arranged : tokens.foldlM step initial = some ⟨level, [], groups⟩) :
    (lead.reverse ++ Token.openGroup true :: (tokens.map Token.later ++ [Token.closeGroup])).foldlM step initial =
      some ⟨(Level.start lead).push (.group 1 level.toPart.node.later) (level.toPart.depth + 1),
        [], groups + 1⟩ := by
  obtain ⟨_, inside, rfl⟩ := foldlM_inside (.start lead) initial tokens _ arranged
  rw [List.foldlM_append, foldlM_lead shape]
  change (List.foldlM step (initial.inside (.start lead)) (tokens.map Token.later ++ [.closeGroup])) = _
  rw [List.foldlM_append, inside]
  have part : (Arrangement.inside (.start lead) ⟨level, [], groups⟩).level.toPart = level.toPart.later :=
    level.toPart_later
  change some (Arrangement.mk _ [] (groups + 1)) = _
  rw [part]
  rfl

/-- No pattern begins with a question mark. -/
theorem Tree.not_question {modes : Modes} (quiet : modes.verbose = false) {lead tokens : List Token}
    (shape : lead = [] ∨ lead = [.setting]) {fuel : Nat} {body : List Char} {tree : Tree}
    (scanned : Token.scanFrom fuel ⟨modes, [], []⟩ lead body = some tokens)
    (arranged : ofTokens? tokens.reverse = some tree) : body.head? ≠ some '?' := by
  intro question
  obtain ⟨rest, rfl⟩ : ∃ rest, body = '?' :: rest := by
    cases body with
    | nil => cases question
    | cons c rest => exact ⟨rest, by rw [Option.some.inj question]⟩
  cases fuel with
  | zero => cases scanned
  | succ fuel =>
    have skipped : modes.skip ('?' :: rest) = '?' :: rest := by rw [Modes.skip, quiet]; rfl
    rw [Token.scanFrom] at scanned
    simp only [skipped] at scanned
    obtain ⟨⟨token, next, after⟩, read, scanned⟩ := Option.bind_eq_some_iff.mp scanned
    obtain ⟨greedy, rfl⟩ : ∃ greedy, token = .quantifier 0 (some 1) greedy := by
      simp only [Scanner.token, Option.some.injEq, Prod.mk.injEq] at read
      obtain ⟨rfl, _⟩ := read
      rw [Modes.quantify.eq_def]
      split <;> exact ⟨_, rfl⟩
    obtain ⟨new, rfl⟩ := Token.scanFrom_extends scanned
    rw [ofTokens?, List.reverse_append, List.reverse_cons, List.append_assoc, List.foldlM_append,
      Arrangement.foldlM_lead shape] at arranged
    rcases shape with rfl | rfl <;> cases arranged

/-- A pattern in a group has its own tokens between those of the group. -/
theorem Token.scanFrom_wrapped {modes : Modes} (quiet : modes.verbose = false) {body : List Char}
    (start : body.head? ≠ some '?') {fuel fuel' : Nat} {lead tokens tokens' : List Token}
    (scanned : scanFrom fuel ⟨modes, [], []⟩ lead body = some tokens)
    (scanned' : scanFrom fuel' ⟨modes, [], []⟩ lead ('(' :: (body ++ [')'])) = some tokens') :
    ∃ new, tokens = new ++ lead ∧ tokens' = .closeGroup :: (new.map later ++ .openGroup true :: lead) := by
  cases fuel' with
  | zero => cases scanned'
  | succ fuel' =>
    have skipped (cs : List Char) : modes.skip cs = cs := by rw [Modes.skip, quiet]; rfl
    have opened : Scanner.token ⟨modes, [], []⟩ ('(' :: (body ++ [')'])) =
        some (.openGroup true, Scanner.inside modes ⟨modes, [], []⟩, body ++ [')']) := by
      change Scanner.openParen ⟨modes, [], []⟩ (body ++ [')']) = _
      simp only [Scanner.openParen, skipped]
      cases body with
      | nil => rfl
      | cons c rest =>
        have other : c ≠ '?' := by simpa using start
        simp [other, Scanner.inside]
    rw [scanFrom] at scanned'
    simp only [skipped] at scanned'
    change (Scanner.token ⟨modes, [], []⟩ ('(' :: (body ++ [')']))).bind _ = _ at scanned'
    rw [opened, Option.bind_some] at scanned'
    exact (Ends.append_close body).scanFrom modes scanned scanned'

/-- The code of a pattern in a group is the code of the pattern in a group. -/
theorem Tree.ofText?_wrapped {front body : List Char} (leading : Leading front) {tree wrapped : Tree}
    (read : ofText? (front ++ body) = some tree)
    (read' : ofText? (front ++ '(' :: (body ++ [')'])) = some wrapped) :
    wrapped.node.program = Program.wrapped tree.node.code ∧ wrapped.groups = tree.groups + 1 := by
  obtain ⟨_, found, arranged⟩ := Option.bind_eq_some_iff.mp read
  obtain ⟨_, found', arranged'⟩ := Option.bind_eq_some_iff.mp read'
  obtain ⟨tokens, scanned, rfl⟩ := Option.map_eq_some_iff.mp found
  obtain ⟨tokens', scanned', rfl⟩ := Option.map_eq_some_iff.mp found'
  obtain ⟨modes, lead, quiet, shape, scans⟩ := leading.scanFrom
  obtain ⟨fuel, inner⟩ := scans _ _ _ scanned
  obtain ⟨fuel', inner'⟩ := scans _ _ _ scanned'
  have start := not_question quiet shape inner arranged
  obtain ⟨new, rfl, rfl⟩ := Token.scanFrom_wrapped quiet start inner inner'
  have begun := Arrangement.foldlM_lead shape
  rw [ofTokens?, List.reverse_append, List.foldlM_append, begun] at arranged
  obtain ⟨a, folded, finished⟩ := Option.bind_eq_some_iff.mp arranged
  obtain ⟨b, bare, leads⟩ := Arrangement.Leads.foldlM (.bottom (Level.leads_start shape)) new.reverse a folded
  rw [Option.ite_none_right_eq_some, Bool.and_eq_true, List.isEmpty_iff] at finished
  obtain ⟨⟨closed, _⟩, same⟩ := finished
  obtain rfl := Option.some.inj same
  cases leads with
  | inner outer _ => simp at closed
  | @bottom level _ groups leads =>
    have order : (Token.closeGroup :: (new.map Token.later ++ .openGroup true :: lead)).reverse =
        lead.reverse ++ .openGroup true :: (new.reverse.map Token.later ++ [.closeGroup]) := by simp
    rw [ofTokens?, order, Arrangement.foldlM_wrapped shape bare, Option.bind_some] at arranged'
    obtain ⟨_, same⟩ := Option.ite_none_right_eq_some.mp arranged'
    obtain rfl := Option.some.inj same
    refine ⟨?_, rfl⟩
    rw [Node.program, Level.code_start_push shape, Node.code, Node.code_later, ← leads.code_toPart]
    rfl

end PatternComposer.Regex
