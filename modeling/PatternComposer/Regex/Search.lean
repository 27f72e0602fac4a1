import PatternComposer.Regex.Program
import Std.Data.TreeSet.Basic

/-! # Searching with a program

The search walks the program depth first. A pair of instruction and position is explored at most
once: what follows from it does not depend on how it was reached, so a second visit could only
fail again. This bounds the work by the program's size times the text's length, and the first
acceptance is the preferred one.
-/

namespace PatternComposer.Regex

/-- Slots written on the way, the last one first. -/
abbrev Marks := List (Nat × Nat)

namespace Marks

def get? (marks : Marks) (slot : Nat) : Option Nat :=
  (marks.find? fun m => m.1 == slot).map (·.2)

/-- The stretch that group `index` took last. -/
def span? (marks : Marks) (index : Nat) : Option (Nat × Nat) :=
  match marks.get? (2 * index), marks.get? (2 * index + 1) with
  | some start, some stop => some (start, stop)
  | _, _ => none

end Marks

/-- A place the search has still to explore. -/
structure Job where
  pc : Nat
  pos : Nat
  marks : Marks

namespace Job

/-- The places that follow a job by one instruction, the preferred one first. -/
def next (text : Array Char) (job : Job) : Inst → List Job
  | .take members =>
    match text[job.pos]? with
    | some c => if members.contains c then [⟨job.pc + 1, job.pos + 1, job.marks⟩] else []
    | none => []
  | .check look => if look.holds text job.pos then [⟨job.pc + 1, job.pos, job.marks⟩] else []
  | .mark slot => [⟨job.pc + 1, job.pos, (slot, job.pos) :: job.marks⟩]
  | .fork skip eager =>
    let on := { job with pc := job.pc + 1 }
    let out := { job with pc := job.pc + 1 + skip }
    if eager then [on, out] else [out, on]
  | .again back eager =>
    let on := { job with pc := job.pc - back }
    let out := { job with pc := job.pc + 1 }
    if eager then [on, out] else [out, on]
  | .jump skip => [{ job with pc := job.pc + 1 + skip }]

end Job

/-- An acceptance: where it ends and the slots written on the way. -/
structure Hit where
  stop : Nat
  marks : Marks

namespace Program

/-- Pairs of instruction and position that were explored. -/
abbrev Visited := Std.TreeSet Nat

/-- The code of a pair in a visited set. -/
def placeKey (text : Array Char) (job : Job) : Nat := job.pc * (text.size + 1) + job.pos

/-- Explores the jobs in order until one accepts. -/
def explore (program : Program) (text : Array Char) :
    Nat → Visited → List Job → Option Hit × Visited
  | 0, visited, _ => (none, visited)
  | _, visited, [] => (none, visited)
  | fuel + 1, visited, job :: jobs =>
    let key := placeKey text job
    if visited.contains key then explore program text fuel visited jobs
    else
      match program[job.pc]? with
      | none => (some ⟨job.pos, job.marks⟩, visited)
      | some inst => explore program text fuel (visited.insert key) (job.next text inst ++ jobs)

/-- Enough for one exploration: each pair is expanded once and leaves at most two jobs. -/
def fuel (program : Program) (text : Array Char) : Nat :=
  2 * (program.size + 1) * (text.size + 1) + 2

/-- Runs the program at a position. -/
def runAt (program : Program) (text : Array Char) (visited : Visited) (pos : Nat) :
    Option Hit × Visited :=
  program.explore text (program.fuel text) visited [⟨0, pos, []⟩]

/-- The preferred match that starts at a position. -/
def matchAt? (program : Program) (text : Array Char) (pos : Nat) : Option Hit :=
  (program.runAt text ∅ pos).1

/-- The first match that starts at `pos` or at one of the `count` positions after it. -/
def searchFrom (program : Program) (text : Array Char) (visited : Visited) (pos : Nat) :
    Nat → Option (Nat × Hit)
  | 0 => (program.runAt text visited pos).1.map fun hit => (pos, hit)
  | count + 1 =>
    match program.runAt text visited pos with
    | (some hit, _) => some (pos, hit)
    | (none, visited) => searchFrom program text visited (pos + 1) count

/-- The first match that starts at `pos` or later. -/
def search? (program : Program) (text : Array Char) (pos : Nat) : Option (Nat × Hit) :=
  program.searchFrom text ∅ pos (text.size - pos)

end Program
end PatternComposer.Regex
