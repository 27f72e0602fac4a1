import PatternComposer.Regex.Extended.Plan

/-! # Running plans

A plan is run with a continuation that says what has to match after it. Going back to an untried
alternative uses up one unit of a budget; a search that needs more gives up, which is an answer of
its own and not a failure to match.
-/

namespace PatternComposer.Regex.Extended

/-- Positions written into slots: `2 * i` is the start of group `i` and `2 * i + 1` its end. -/
abbrev Slots := List (Nat × Nat)

namespace Slots

def get? (slots : Slots) (slot : Nat) : Option Nat := slots.lookup slot

def clear (slots : Slots) (slot : Nat) : Slots := slots.filter fun s => s.1 != slot

def set (slots : Slots) (slot pos : Nat) : Slots := (slot, pos) :: slots.clear slot

/-- Takes over the groups that a plain search set; those that took no part are cleared. -/
def setGroups (slots : Slots) (marks : Marks) (groups : List Nat) : Slots :=
  groups.foldl (fun slots index =>
    match marks.span? index with
    | some (start, stop) => (slots.set (2 * index) start).set (2 * index + 1) stop
    | none => (slots.clear (2 * index)).clear (2 * index + 1)) slots

end Slots

structure State where
  pos : Nat
  slots : Slots

/-- How a run ends. `failed` and `found` carry what is left of the budget. -/
inductive Outcome where
  | exhausted
  | failed (budget : Nat)
  | found (state : State) (budget : Nat)

/-- What has to match next. -/
abbrev Next := State → Nat → Outcome

namespace Outcome

/-- Tries the second way when the first one failed, at the price of one unit. -/
def orElse (first : Outcome) (second : Nat → Outcome) : Outcome :=
  match first with
  | .failed 0 => .exhausted
  | .failed (budget + 1) => second budget
  | outcome => outcome

end Outcome

/-- Where a search takes place: the text and the position at which it began. -/
structure Subject where
  text : Array Char
  start : Nat

namespace Subject

/-- The text from a position on begins with `s`. -/
def hasAt (subject : Subject) (pos : Nat) : List Char → Bool
  | [] => true
  | c :: rest => subject.text[pos]? == some c && subject.hasAt (pos + 1) rest

/-- The two stretches from `lo` and from `pos`, both `count` long, are the same text. -/
def sameText (subject : Subject) (lo pos : Nat) : Nat → Bool
  | 0 => true
  | count + 1 =>
    match subject.text[pos]? with
    | some c => subject.text[lo]? == some c && subject.sameText (lo + 1) (pos + 1) count
    | none => false

end Subject

namespace Plan

/-- Runs a loop body again and again. `count` iterations are done and `last` is where the latest
optional one began. -/
def iterate (body : Next → Next) (lo : Nat) (hi : Option Nat) (greedy guarded : Bool)
    (next : Next) : Nat → Nat → Option Nat → Next
  | 0, _, _ => fun _ budget => .failed budget
  | fuel + 1, count, last => fun s budget =>
    if hi == some count then next s budget
    else if guarded && decide (lo < count) && last == some s.pos then .failed budget
    else if count < lo then
      body (iterate body lo hi greedy guarded next fuel (count + 1) last) s budget
    else
      let on := body (iterate body lo hi greedy guarded next fuel (count + 1) (some s.pos))
      if greedy then (on s budget).orElse (next s) else (next s budget).orElse (on s)

/-- Enough iterations: each optional one consumes something. -/
def iterations (text : Array Char) (lo : Nat) : Option Nat → Nat
  | some hi => hi + 1
  | none => lo + text.size + 3

def run (subject : Subject) : Plan → Next → Next
  | .done, next => next
  | .text t, next => fun s budget =>
    if subject.hasAt s.pos t then next { s with pos := s.pos + t.length } budget
    else .failed budget
  | .take members, next => fun s budget =>
    if subject.text[s.pos]?.any members.contains then next { s with pos := s.pos + 1 } budget
    else .failed budget
  | .plain program groups, next => fun s budget =>
    match program.matchAt? subject.text s.pos with
    | some hit => next ⟨hit.stop, s.slots.setGroups hit.marks groups⟩ budget
    | none => .failed budget
  | .check look, next => fun s budget =>
    if look.holds subject.text s.pos then next s budget else .failed budget
  | .seq first second, next => first.run subject (second.run subject next)
  | .alt first second, next => fun s budget =>
    (first.run subject next s budget).orElse (second.run subject next s)
  | .capture index body, next => fun s budget =>
    body.run subject
      (fun t budget => next { t with slots := t.slots.set (2 * index + 1) t.pos } budget)
      { s with slots := s.slots.set (2 * index) s.pos } budget
  | .option body greedy, next => fun s budget =>
    if greedy then (body.run subject next s budget).orElse (next s)
    else (next s budget).orElse (body.run subject next s)
  | .loop body lo hi greedy guarded, next =>
    iterate (body.run subject) lo hi greedy guarded next (iterations subject.text lo hi) 0 none
  | .ahead body, next => fun s budget =>
    body.run subject (fun t budget => next { t with pos := s.pos } budget) s budget
  | .notAhead body, next => fun s budget =>
    match body.run subject .found s budget with
    | .exhausted => .exhausted
    | .found _ budget => .failed budget
    | .failed 0 => .exhausted
    | .failed (budget + 1) => next s budget
  | .back count, next => fun s budget =>
    if count ≤ s.pos then next { s with pos := s.pos - count } budget else .failed budget
  | .atomic body, next => fun s budget =>
    match body.run subject .found s budget with
    | .found t budget => next t budget
    | outcome => outcome
  | .backref index, next => fun s budget =>
    match s.slots.get? (2 * index), s.slots.get? (2 * index + 1) with
    | some lo, some hi =>
      if lo ≤ hi ∧ subject.sameText lo s.pos (hi - lo) then
        next { s with pos := s.pos + (hi - lo) } budget
      else .failed budget
    | _, _ => .failed budget
  | .keep, next => fun s budget => next { s with slots := s.slots.set 0 s.pos } budget
  | .resume, next => fun s budget =>
    if s.pos ≤ subject.start then next s budget else .failed budget
  | .matched index, next => fun s budget =>
    if (s.slots.get? (2 * index)).isSome then next s budget else .failed budget
  | .conditional condition yes no, next => fun s budget =>
    match condition.run subject .found s budget with
    | .exhausted => .exhausted
    | .found t budget => yes.run subject next t budget
    | .failed 0 => .exhausted
    | .failed (budget + 1) => no.run subject next s budget

/-- How often a search may go back to an untried alternative. -/
def backtrackLimit : Nat := 1000000

/-- A plan that looks for a match from a position on and reports it as group 0. -/
def anywhere (plan : Plan) : Plan :=
  .seq (.loop (.take .all) 0 none false false) (.capture 0 plan)

/-- The first match from a position on. -/
def search (plan : Plan) (text : Array Char) (pos : Nat) : Outcome :=
  plan.anywhere.run ⟨text, pos⟩ .found ⟨pos, []⟩ backtrackLimit

end Plan
end PatternComposer.Regex.Extended
