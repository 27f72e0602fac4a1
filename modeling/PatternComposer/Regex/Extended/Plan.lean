import PatternComposer.Regex.Extended.Tree
import PatternComposer.Regex.Footprint
import PatternComposer.Regex.Search

/-! # Plans

A plan is the order in which the extended search tries things. Parts of a term that need nothing
but plain expressions are handed to the plain search as a whole; such a part commits to its
preferred match. Where a part of fixed size stands at either end of a row this makes no difference,
and at the end of a row from whose match nothing is taken back it is as good.
-/

namespace PatternComposer.Regex.Extended

inductive Plan where
  | done
  | text (s : List Char)
  | take (members : CharSet)
  /-- A plain search at the position, and the groups that it sets. -/
  | plain (program : Program) (groups : List Nat)
  | check (look : Look)
  | seq (first second : Plan)
  | alt (first second : Plan)
  | capture (index : Nat) (body : Plan)
  | option (body : Plan) (greedy : Bool)
  /-- `guarded` ends the loop after an iteration that consumed nothing. -/
  | loop (body : Plan) (lo : Nat) (hi : Option Nat) (greedy guarded : Bool)
  | ahead (body : Plan)
  | notAhead (body : Plan)
  /-- Goes back some characters. -/
  | back (count : Nat)
  | atomic (body : Plan)
  | backref (index : Nat)
  | keep
  | resume
  | matched (index : Nat)
  | conditional (condition yes no : Plan)

namespace Plan

/-- The plain search for a part, if it stays within the plain limits. -/
def ofPart? (part : Part) (groups : List Nat) : Option Plan :=
  if part.depth ≤ depthLimit ∧ part.node.fits then some (.plain part.node.program groups) else none

/-- A row of terms that are not hard, as text or as one plain search. -/
def ofEasy? (terms : List Term) : Option Plan :=
  match terms with
  | [] => some .done
  | terms =>
    match Term.allText? terms with
    | some s => some (.text s)
    | none =>
      let place : Term.Place := match terms with
        | [_] => .branch
        | _ => .row
      (Term.toParts? place terms).bind fun parts =>
        ofPart? (Term.inRow parts) (Term.allGroups terms)

/-- Plans one after the other. -/
def seqAll : List Plan → Plan
  | [] => .done
  | [plan] => plan
  | plan :: rest => .seq plan (seqAll rest)

/-- Plans as alternatives. -/
def altAll : List Plan → Plan
  | [] => .done
  | [plan] => plan
  | plan :: rest => .alt plan (altAll rest)

/-- A row, given a plan for each of its terms. Terms of fixed size in front are searched together,
and so are the terms at the end if they have fixed size or the row itself need not be hard. -/
def ofRow? (refs : List Nat) (hard : Bool) (items : List Term) (plans : List Plan) :
    Option Plan :=
  let easy (t : Term) : Bool := !t.isHard refs
  let front := items.takeWhile fun t => t.isConst && easy t
  let rest := items.drop front.length
  let tail := rest.reverse.takeWhile fun t => easy t && (!hard || t.isConst)
  let middle := (plans.drop front.length).take (rest.length - tail.length)
  (ofEasy? front).bind fun first =>
    (ofEasy? tail.reverse).map fun last => seqAll (first :: middle ++ [last])

/-- The plan of a repetition. -/
def ofRepetition (body : Plan) (minSize lo : Nat) (hi : Option Nat) (greedy : Bool) : Plan :=
  if lo = 0 ∧ hi = some 1 then .option body greedy
  else .loop body lo hi greedy (hi.isNone && minSize == 0)

mutual

/-- The plan of a term. `hard` says that the surroundings may have to come back for its other
matches. -/
def ofTerm? (refs : List Nat) (hard : Bool) : Term → Option Plan
  | .empty => some .done
  | .literal c caseless => if caseless then ofEasy? [.literal c caseless] else some (.text [c])
  | .anyChar newline =>
    if hard then some (.take (if newline then .all else Modes.initial.anyChar))
    else ofEasy? [.anyChar newline]
  | .members s depth => ofEasy? [.members s depth]
  | .look l => if !hard && !Term.isHardLook l then ofEasy? [.look l] else some (.check l)
  | .cat items =>
    if !hard && !Term.anyHard refs items then ofEasy? [.cat items]
    else (ofTerms? refs true items).bind fun plans => ofRow? refs hard items plans
  | .alt branches =>
    if !hard && !Term.anyHard refs branches then ofEasy? [.alt branches]
    else (ofTerms? refs hard branches).map altAll
  | .group index body =>
    if !hard && !(Term.group index body).isHard refs then ofEasy? [.group index body]
    else (ofTerm? refs hard body).map fun plan => .capture index plan
  | .rep body lo hi greedy =>
    if !hard && !body.isHard refs then ofEasy? [.rep body lo hi greedy]
    else if lo = 0 ∧ hi = some 1 then
      (ofTerm? refs hard body).map fun plan => .option plan greedy
    else
      (ofTerm? refs true body).map fun plan => ofRepetition plan body.minSize lo hi greedy
  | .around kind body =>
    match kind with
    | .ahead => (ofTerm? refs false body).map .ahead
    | .notAhead => (ofTerm? refs false body).map .notAhead
    | .behind =>
      if body.isConst then
        (ofTerm? refs false body).map fun plan => .ahead (.seq (.back body.minSize) plan)
      else
        match body with
        | .alt branches => (behindEach? refs branches).map fun plans => altAll (plans.map .ahead)
        | _ => none
    | .notBehind =>
      if body.isConst then
        (ofTerm? refs false body).map fun plan => .notAhead (.seq (.back body.minSize) plan)
      else
        match body with
        | .alt branches => (behindEach? refs branches).map fun plans => seqAll (plans.map .notAhead)
        | _ => none
  | .backref index => some (.backref index)
  | .atomic body => (ofTerm? refs false body).map .atomic
  | .keep => some .keep
  | .resume => some .resume
  | .matched index => some (.matched index)
  | .conditional condition yes no =>
    (ofTerm? refs hard condition).bind fun condition =>
      (ofTerm? refs hard yes).bind fun yes =>
        (ofTerm? refs hard no).map fun no => .conditional condition yes no

def ofTerms? (refs : List Nat) (hard : Bool) : List Term → Option (List Plan)
  | [] => some []
  | t :: rest =>
    (ofTerm? refs hard t).bind fun plan => (ofTerms? refs hard rest).map (plan :: ·)

/-- Plans that look behind for one branch each, every branch of a fixed size. -/
def behindEach? (refs : List Nat) : List Term → Option (List Plan)
  | [] => some []
  | t :: rest =>
    if t.isConst then
      (ofTerm? refs false t).bind fun plan =>
        (behindEach? refs rest).map (.seq (.back t.minSize) plan :: ·)
    else none

end

end Plan
end PatternComposer.Regex.Extended
