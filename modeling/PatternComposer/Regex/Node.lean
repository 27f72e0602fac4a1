import PatternComposer.Regex.Look

/-! # Regular expressions as trees

A node says which stretches of text it stands for and in which order they are preferred.
-/

namespace PatternComposer.Regex

inductive Node where
  | empty
  | set (members : CharSet)
  | look (look : Look)
  | cat (first second : Node)
  | alt (first second : Node)
  | rep (body : Node) (lo : Nat) (hi : Option Nat) (greedy : Bool)
  | group (index : Nat) (body : Node)
deriving DecidableEq, Repr, Inhabited

namespace Node

/-- The nodes one after the other. -/
def catAll : List Node → Node
  | [] => .empty
  | [node] => node
  | node :: rest => .cat node (catAll rest)

/-- The nodes as alternatives, the first one preferred. -/
def altAll : List Node → Node
  | [] => .empty
  | [node] => node
  | node :: rest => .alt node (altAll rest)

/-- No stretch of text that the node stands for is longer than the empty one. -/
def onlyEmpty : Node → Bool
  | .empty => true
  | .set _ => false
  | .look _ => true
  | .cat a b => a.onlyEmpty && b.onlyEmpty
  | .alt a b => a.onlyEmpty && b.onlyEmpty
  | .rep body _ hi _ => body.onlyEmpty || hi == some 0
  | .group _ body => body.onlyEmpty

/-- Every stretch of text that the node stands for has at least one character. -/
def consumes : Node → Bool
  | .empty => false
  | .set members => !members.isEmpty
  | .look _ => false
  | .cat a b => a.consumes || b.consumes
  | .alt a b => a.consumes && b.consumes
  | .rep body lo _ _ => lo != 0 && body.consumes
  | .group _ body => body.consumes

end Node
end PatternComposer.Regex
