import PatternComposer.Regex.Extended.Token

/-! # Trees of extended patterns

`Tree.ofTokens?` arranges the tokens of an extended pattern. Numbered references and named groups
do not go together in a pattern without alternatives, and a reference has to stand after the opening
of the group that it is to. It may stand inside that group.
-/

namespace PatternComposer.Regex.Extended

/-- What a level becomes when its parenthesis is closed. -/
inductive LevelKind where
  | plain
  | capture (index : Nat)
  | around (kind : Around)
  | atomic
  | condition
  | branches (condition : Term)

/-- The branches and pieces of a group that is still open, the last ones first. -/
structure Level where
  kind : LevelKind
  branches : List Term
  pieces : List Term

namespace Level

def empty (kind : LevelKind) : Level := ⟨kind, [], []⟩

def isNothing : Term → Bool
  | .empty => true
  | _ => false

/-- The pieces of the current branch in a row. -/
def row (level : Level) : Term :=
  match level.pieces.reverse.filter fun t => !isNothing t with
  | [] => .empty
  | [t] => t
  | ts => .cat ts

def term (level : Level) : Term :=
  match level.branches with
  | [] => level.row
  | branches => .alt (level.row :: branches).reverse

def push (level : Level) (t : Term) : Level := { level with pieces := t :: level.pieces }

/-- Puts a quantifier on the last piece. -/
def quantify? (level : Level) (lo : Nat) (hi : Option Nat) (greedy possessive : Bool) :
    Option Level :=
  match level.pieces with
  | [] => none
  | t :: pieces =>
    if t.isRepeatable then
      let repeated : Term := .rep t lo hi greedy
      some { level with pieces := (if possessive then .atomic repeated else repeated) :: pieces }
    else none

end Level

/-- The term of a conditional. Without branches it asks whether a group took part. -/
def conditional? (condition : Term) (level : Level) : Option Term :=
  let test : Term := match condition with
    | .backref index => .matched index
    | t => t
  if level.branches.isEmpty && level.pieces.isEmpty then
    match condition with
    | .backref _ => some test
    | _ => none
  else
    let (yes, no) : Term × Term := match level.term with
      | .alt (yes :: [no]) => (yes, no)
      | .alt (yes :: no) => (yes, .alt no)
      | t => (t, .empty)
    match yes, no with
    | .empty, .empty => some test
    | _, _ => some (.conditional test yes no)

/-- The level under construction, the levels around it, how many groups were opened, the references
so far, and whether there was a numbered reference and a named group. -/
structure Arrangement where
  level : Level
  outer : List Level
  groups : Nat
  refs : List Nat
  numbered : Bool
  named : Bool

namespace Arrangement

def initial : Arrangement := ⟨.empty .plain, [], 0, [], false, false⟩

def opens (a : Arrangement) (kind : LevelKind) : Arrangement :=
  { a with level := .empty kind, outer := a.level :: a.outer }

/-- Notes a reference, if its group is open or closed already. -/
def refers (a : Arrangement) (index : Nat) (numbered : Bool) : Option Arrangement :=
  if index ≤ a.groups then
    some { a with refs := index :: a.refs, numbered := a.numbered || numbered }
  else none

/-- The level can be closed as far as references and names go. -/
def consistent (a : Arrangement) : Bool :=
  !(a.level.branches.isEmpty && a.numbered && a.named)

/-- Closes the level with the term that it became. -/
def close (a : Arrangement) (t : Term) : Option Arrangement :=
  match a.outer with
  | [] => none
  | level :: outer => some { a with level := level.push t, outer := outer }

def step (a : Arrangement) : Token → Option Arrangement
  | .atom t => some { a with level := a.level.push t }
  | .reference index numbered =>
    (a.refers index numbered).map fun a => { a with level := a.level.push (.backref index) }
  | .quantifier lo hi greedy possessive =>
    (a.level.quantify? lo hi greedy possessive).map fun level => { a with level := level }
  | .bar =>
    some { a with level := ⟨a.level.kind, a.level.row :: a.level.branches, []⟩ }
  | .opening .plain => some (a.opens .plain)
  | .opening (.capture index named) =>
    some { a.opens (.capture index) with groups := index, named := a.named || named }
  | .opening (.around kind) => some (a.opens (.around kind))
  | .opening .atomic => some (a.opens .atomic)
  | .opening .condition => some (a.opens .condition)
  | .opening (.given index numbered) =>
    (a.refers index numbered).map fun a => a.opens (.branches (.backref index))
  | .closing =>
    if !a.consistent then none
    else
      match a.level.kind with
      | .plain => a.close a.level.term
      | .capture index => a.close (.group index a.level.term)
      | .around kind => a.close (.around kind a.level.term)
      | .atomic => a.close (.atomic a.level.term)
      | .condition => some { a with level := .empty (.branches a.level.term) }
      | .branches condition => (conditional? condition a.level).bind a.close

end Arrangement

/-- A tree, the number of its groups and the groups that it refers to. -/
structure Tree where
  term : Term
  groups : Nat
  refs : List Nat
deriving Repr

namespace Tree

def ofTokens? (tokens : List Token) : Option Tree :=
  (tokens.foldlM Arrangement.step .initial).bind fun a =>
    if a.outer.isEmpty && a.consistent then some ⟨a.level.term, a.groups, a.refs⟩ else none

/-- The tree of a pattern text. -/
def ofText? (cs : List Char) : Option Tree := (Token.scan? cs).bind ofTokens?

end Tree
end PatternComposer.Regex.Extended
