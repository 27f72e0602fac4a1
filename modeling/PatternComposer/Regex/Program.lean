import PatternComposer.Regex.Node

/-! # Search programs

A tree is laid out as a list of instructions. Jumps are relative, so the code of a node does not
depend on where it stands; running past the last instruction is acceptance. A loop whose body may
be empty is entered through a second fork, which keeps the order of preference right.
-/

namespace PatternComposer.Regex

inductive Inst where
  /-- Consume one member. -/
  | take (members : CharSet)
  | check (look : Look)
  /-- Write the position into a slot. -/
  | mark (slot : Nat)
  /-- Go on, or leave out the next `skip` instructions. `eager` prefers to go on. -/
  | fork (skip : Nat) (eager : Bool)
  /-- Go back over `back` instructions, or go on. `eager` prefers to go back. -/
  | again (back : Nat) (eager : Bool)
  | jump (skip : Nat)
deriving Repr

namespace Program

/-- The code `times` times in a row. -/
def copies (times : Nat) (code : List Inst) : List Inst :=
  (List.replicate times code).flatten

/-- The code as `times` nested options: each copy may be left out together with all later ones. -/
def options (eager : Bool) (code : List Inst) : Nat → List Inst
  | 0 => []
  | times + 1 =>
    .fork ((times + 1) * (code.length + 1) - 1) eager :: (code ++ options eager code times)

/-- The code once and then as often as wanted. -/
def repeated (eager : Bool) (code : List Inst) : List Inst :=
  code ++ [.again code.length eager]

/-- The code between `lo` and `hi` times. -/
def repetition (lo : Nat) (hi : Option Nat) (eager : Bool) (code : List Inst) : List Inst :=
  match hi with
  | some hi => copies lo code ++ options eager code (hi - lo)
  | none =>
    match lo with
    | 0 => .fork (code.length + 1) eager :: repeated eager code
    | lo + 1 => copies lo code ++ repeated eager code

end Program

namespace Node

def code : Node → List Inst
  | .empty => []
  | .set members => [.take members]
  | .look l => [.check l]
  | .cat a b => a.code ++ b.code
  | .alt a b =>
    let first := a.code
    let second := b.code
    .fork (first.length + 1) true :: (first ++ .jump second.length :: second)
  | .rep body lo hi greedy =>
    if body.onlyEmpty then
      Program.repetition (min lo 1) (some (min (hi.getD 1) 1)) greedy body.code
    else Program.repetition lo hi greedy body.code
  | .group index body => .mark (2 * index) :: (body.code ++ [.mark (2 * index + 1)])

end Node

/-- Instructions, run from the first one. -/
abbrev Program := Array Inst

def Node.program (node : Node) : Program := node.code.toArray

end PatternComposer.Regex
