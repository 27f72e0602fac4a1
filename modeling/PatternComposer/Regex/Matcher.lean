import PatternComposer.Regex.Extended.Run

/-! # Matchers

A pattern text is read in the plain dialect first. What that dialect refuses, or what would grow
too large in it, is read in the extended one, whose search goes back to alternatives and may give
up.
-/

namespace PatternComposer.Regex

/-- The search that accepted a pattern. -/
inductive Matcher where
  | plain (program : Program) (groups : Nat)
  /-- An extended pattern that the plain search can match. -/
  | extended (program : Program) (groups : Nat)
  | backtracking (plan : Extended.Plan) (groups : Nat)

/-- A match: where it starts and stops, and the stretch of each group that took part, counted in
characters. -/
structure Span where
  start : Nat
  stop : Nat
  groups : List (Nat × Nat)
deriving DecidableEq, Repr

namespace Matcher

def ofPlain? (cs : List Char) : Option Matcher :=
  (Tree.ofText? cs).bind fun tree =>
    if tree.node.fits then some (.plain tree.node.program tree.groups) else none

def ofExtended? (cs : List Char) : Option Matcher :=
  (Extended.Tree.ofText? cs).bind fun tree =>
    if tree.term.isHard tree.refs then
      (Extended.Plan.ofTerm? tree.refs true tree.term).map fun plan =>
        .backtracking plan tree.groups
    else
      (tree.term.toPart? .branch).bind fun part =>
        if part.depth ≤ depthLimit ∧ part.node.fits then
          some (.extended part.node.program tree.groups)
        else none

/-- The matcher of a pattern text. -/
def ofText? (cs : List Char) : Option Matcher := ofPlain? cs <|> ofExtended? cs

def isBacktracking : Matcher → Bool
  | .plain _ _ => false
  | _ => true

/-- The groups 1 to `count` that took part. -/
def spans (count : Nat) (span? : Nat → Option (Nat × Nat)) : List (Nat × Nat) :=
  (List.range count).filterMap fun i => span? (i + 1)

def findPlain? (program : Program) (groups : Nat) (text : Array Char) (pos : Nat) : Option Span :=
  (program.search? text pos).map fun (start, hit) =>
    ⟨start, hit.stop, spans groups hit.marks.span?⟩

/-- The stretch that a group took in an extended match. -/
def slotSpan? (slots : Extended.Slots) (index : Nat) : Option (Nat × Nat) :=
  match slots.get? (2 * index), slots.get? (2 * index + 1) with
  | some start, some stop => some (start, stop)
  | _, _ => none

/-- The first match from a position on, or nothing if the search gave up. A match does not begin
after its end. -/
def find (matcher : Matcher) (text : Array Char) (pos : Nat) : Option (Option Span) :=
  match matcher with
  | .plain program groups => some (findPlain? program groups text pos)
  | .extended program groups => some (findPlain? program groups text pos)
  | .backtracking plan groups =>
    match plan.search text pos with
    | .exhausted => none
    | .failed _ => some none
    | .found s _ =>
      some ((slotSpan? s.slots 0).map fun (start, stop) =>
        ⟨min start stop, stop, spans groups (slotSpan? s.slots)⟩)

end Matcher
end PatternComposer.Regex
