import PatternComposer.Regex.Tree

/-! # Extended patterns as trees

Beyond plain expressions, extended ones look around, refer back to what a group took, and commit
to a match of a part. A term that uses none of this can be handed to the plain search; `hard` says
which terms cannot.
-/

namespace PatternComposer.Regex.Extended

inductive Around where
  | ahead
  | notAhead
  | behind
  | notBehind
deriving DecidableEq, Repr

inductive Term where
  | empty
  | literal (c : Char) (caseless : Bool)
  | anyChar (newline : Bool)
  /-- One character of a set; `depth` counts the brackets nested in it. -/
  | members (s : CharSet) (depth : Nat)
  | look (l : Look)
  | cat (items : List Term)
  | alt (branches : List Term)
  | group (index : Nat) (body : Term)
  | rep (body : Term) (lo : Nat) (hi : Option Nat) (greedy : Bool)
  | around (kind : Around) (body : Term)
  | backref (index : Nat)
  /-- The first match of the body only. -/
  | atomic (body : Term)
  /-- Begins the reported match here. -/
  | keep
  /-- Holds where the search began. -/
  | resume
  /-- Holds if the group took part. -/
  | matched (index : Nat)
  | conditional (condition yes no : Term)
deriving Repr, Inhabited

namespace Term

/-- Quantifiers apply to everything but assertions and nothing. -/
def isRepeatable : Term → Bool
  | .empty => false
  | .look _ => false
  | .around _ _ => false
  | _ => true

/-- Word assertions are left to the extended search. -/
def isHardLook : Look → Bool
  | .word _ _ => true
  | _ => false

mutual

/-- The least number of characters that a term takes. -/
def minSize : Term → Nat
  | .empty => 0
  | .literal _ _ => 1
  | .anyChar _ => 1
  | .members _ _ => 1
  | .look _ => 0
  | .cat items => sumSizes items
  | .alt branches => leastSize branches
  | .group _ body => body.minSize
  | .rep body lo _ _ => body.minSize * lo
  | .around _ _ => 0
  | .backref _ => 0
  | .atomic body => body.minSize
  | .keep => 0
  | .resume => 0
  | .matched _ => 0
  | .conditional condition yes no => condition.minSize + min yes.minSize no.minSize

def sumSizes : List Term → Nat
  | [] => 0
  | t :: rest => t.minSize + sumSizes rest

def leastSize : List Term → Nat
  | [] => 0
  | [t] => t.minSize
  | t :: rest => min t.minSize (leastSize rest)

end

mutual

/-- A term that takes `minSize` characters in every match. -/
def isConst : Term → Bool
  | .empty => true
  | .literal _ _ => true
  | .anyChar _ => true
  | .members _ _ => true
  | .look _ => true
  | .cat items => allConst items
  | .alt branches => allConst branches && allSize branches
  | .group _ body => body.isConst
  | .rep body lo hi _ => body.isConst && hi == some lo
  | .around _ _ => true
  | .backref _ => false
  | .atomic body => body.isConst
  | .keep => true
  | .resume => true
  | .matched _ => true
  | .conditional condition yes no =>
    condition.isConst && yes.isConst && no.isConst &&
      condition.minSize + yes.minSize == no.minSize

def allConst : List Term → Bool
  | [] => true
  | t :: rest => t.isConst && allConst rest

/-- All terms have the size of the first one. -/
def allSize : List Term → Bool
  | [] => true
  | [_] => true
  | t :: u :: rest => t.minSize == u.minSize && allSize (u :: rest)

end

mutual

/-- A term that only the extended search can match, given the groups that are referred to. -/
def isHard (refs : List Nat) : Term → Bool
  | .empty => false
  | .literal _ _ => false
  | .anyChar _ => false
  | .members _ _ => false
  | .look l => isHardLook l
  | .cat items => anyHard refs items
  | .alt branches => anyHard refs branches
  | .group index body => body.isHard refs || refs.contains index
  | .rep body _ _ _ => body.isHard refs
  | .around _ _ => true
  | .backref _ => true
  | .atomic _ => true
  | .keep => true
  | .resume => true
  | .matched _ => true
  | .conditional _ _ _ => true

def anyHard (refs : List Nat) : List Term → Bool
  | [] => false
  | t :: rest => t.isHard refs || anyHard refs rest

end

mutual

/-- The numbers of the groups in a term. -/
def groups : Term → List Nat
  | .cat items => allGroups items
  | .alt branches => allGroups branches
  | .group index body => index :: body.groups
  | .rep body _ _ _ => body.groups
  | .around _ body => body.groups
  | .atomic body => body.groups
  | .conditional condition yes no => condition.groups ++ yes.groups ++ no.groups
  | _ => []

def allGroups : List Term → List Nat
  | [] => []
  | t :: rest => t.groups ++ allGroups rest

end

mutual

/-- The text that a term stands for, if it is nothing but text. -/
def text? : Term → Option (List Char)
  | .literal c false => some [c]
  | .cat items => allText? items
  | _ => none

def allText? : List Term → Option (List Char)
  | [] => some []
  | t :: rest => t.text?.bind fun s => (allText? rest).map (s ++ ·)

end

/-- A part with brackets around it. -/
def enclose (part : Part) : Part := ⟨part.node, part.depth + 1⟩

/-- How tightly a term binds where it stands: in a branch, in a row or under a quantifier. -/
inductive Place where
  | branch
  | row
  | quantified
deriving DecidableEq

/-- Parts in a row. -/
def inRow : List Part → Part
  | [] => ⟨.empty, 0⟩
  | [part] => part
  | parts => ⟨.catAll (parts.map (·.node)), (parts.map (·.depth)).foldl max 0 + 1⟩

mutual

/-- The plain tree of a term that is not hard. Repetition counts have to be in order and within the
plain limits. -/
def toPart? (place : Place) : Term → Option Part
  | .empty => some ⟨.empty, 0⟩
  | .literal c caseless =>
    if caseless then some ⟨.set (Modes.literal { Modes.initial with caseless := true } c), 1⟩
    else some ⟨.set (.single c), 0⟩
  | .anyChar newline =>
    if newline then some ⟨.set .all, 1⟩ else some ⟨.set Modes.initial.anyChar, 0⟩
  | .members s depth => some ⟨.set s, depth⟩
  | .look l => some ⟨.look l, 1⟩
  | .cat items => (toParts? .row items).map fun parts =>
    if place = .branch then inRow parts else enclose (inRow parts)
  | .alt branches => (toParts? .branch branches).map fun parts =>
    enclose ⟨.altAll (parts.map (·.node)), (parts.map (·.depth)).foldl max 0 + 1⟩
  | .group index body => (body.toPart? .branch).map fun part =>
    ⟨.group index part.node, part.depth + 1⟩
  | .rep body lo hi greedy =>
    if countLimit < lo || hi.any fun hi => decide (hi < lo) || decide (countLimit < hi) then none
    else (body.toPart? .quantified).map fun part =>
      let repeated : Part := ⟨.rep part.node lo hi greedy, part.depth + 1⟩
      if place = .quantified then enclose repeated else repeated
  | _ => none

def toParts? (place : Place) : List Term → Option (List Part)
  | [] => some []
  | t :: rest => (t.toPart? place).bind fun part => (toParts? place rest).map (part :: ·)

end

end Term
end PatternComposer.Regex.Extended
