import PatternComposer.Regex.Token

/-! # Trees of patterns

`Tree.ofTokens?` arranges the tokens of a pattern as a tree: quantifiers bind to the piece before
them, pieces in a row form a branch, and bars separate branches. A pattern whose parts nest more
than 250 levels deep is refused.
-/

namespace PatternComposer.Regex

/-- A piece of a branch. Only mode changes cannot be repeated. -/
structure Piece where
  node : Node
  depth : Nat
  repeatable : Bool

/-- A branch or an alternation, and how deep it nests. -/
structure Part where
  node : Node
  depth : Nat

namespace Part

/-- Pieces in a row, the last one first. -/
def ofPieces : List Piece → Part
  | [] => ⟨.empty, 0⟩
  | [piece] => ⟨piece.node, piece.depth⟩
  | pieces =>
    ⟨.catAll (pieces.map (·.node)).reverse, (pieces.map (·.depth)).foldl max 0 + 1⟩

theorem ofPieces_node (pieces : List Piece) :
    (ofPieces pieces).node = .catAll (pieces.map (·.node)).reverse := by
  match pieces with
  | [] => rfl
  | [piece] => rfl
  | _ :: _ :: _ => rfl

/-- Branches, the last one first. -/
def ofBranches : List Part → Part
  | [] => ⟨.empty, 0⟩
  | [part] => part
  | parts =>
    ⟨.altAll (parts.map (·.node)).reverse, (parts.map (·.depth)).foldl max 0 + 1⟩

theorem ofBranches_node (parts : List Part) :
    (ofBranches parts).node = .altAll (parts.map (·.node)).reverse := by
  match parts with
  | [] => rfl
  | [part] => rfl
  | _ :: _ :: _ => rfl

end Part

/-- The branches and pieces of a group that is still open, the last ones first. -/
structure Level where
  branches : List Part
  pieces : List Piece

namespace Level

def empty : Level := ⟨[], []⟩

def push (level : Level) (node : Node) (depth : Nat) : Level :=
  { level with pieces := ⟨node, depth, true⟩ :: level.pieces }

def toPart (level : Level) : Part := .ofBranches (.ofPieces level.pieces :: level.branches)

/-- Puts a quantifier on the last piece. -/
def quantify? (level : Level) (lo : Nat) (hi : Option Nat) (greedy : Bool) : Option Level :=
  match level.pieces with
  | [] => none
  | piece :: pieces =>
    if piece.repeatable then
      some { level with pieces := ⟨.rep piece.node lo hi greedy, piece.depth + 1, true⟩ :: pieces }
    else none

end Level

/-- The open groups around the current level, each with its number if it captures, and the number
of groups so far. -/
structure Arrangement where
  level : Level
  outer : List (Option Nat × Level)
  groups : Nat

namespace Arrangement

def initial : Arrangement := ⟨.empty, [], 0⟩

def step (a : Arrangement) : Token → Option Arrangement
  | .piece node depth => some { a with level := a.level.push node depth }
  | .setting =>
    some { a with level := { a.level with pieces := ⟨.empty, 0, false⟩ :: a.level.pieces } }
  | .quantifier lo hi greedy =>
    (a.level.quantify? lo hi greedy).map fun level => { a with level := level }
  | .bar =>
    some { a with level := ⟨.ofPieces a.level.pieces :: a.level.branches, []⟩ }
  | .openGroup capturing =>
    let groups := if capturing then a.groups + 1 else a.groups
    some ⟨.empty, (if capturing then some groups else none, a.level) :: a.outer, groups⟩
  | .closeGroup =>
    match a.outer with
    | [] => none
    | (index, level) :: outer =>
      let part := a.level.toPart
      let node := match index with
        | some index => .group index part.node
        | none => part.node
      some { a with level := level.push node (part.depth + 1), outer := outer }

end Arrangement

/-- The deepest nesting that is accepted. -/
def depthLimit : Nat := 250

/-- A tree and the number of its groups. -/
structure Tree where
  node : Node
  groups : Nat
deriving Repr

namespace Tree

def ofTokens? (tokens : List Token) : Option Tree :=
  (tokens.foldlM Arrangement.step .initial).bind fun a =>
    let part := a.level.toPart
    if a.outer.isEmpty && decide (part.depth ≤ depthLimit) then some ⟨part.node, a.groups⟩
    else none

/-- The tree of a pattern text. -/
def ofText? (cs : List Char) : Option Tree := (Token.scan? cs).bind ofTokens?

end Tree
end PatternComposer.Regex
