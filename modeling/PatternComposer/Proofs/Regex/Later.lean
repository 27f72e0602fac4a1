import Mathlib
import PatternComposer.Regex.Footprint
import PatternComposer.Regex.Search

/-! # Groups with a number more

A group put around a pattern takes number 1, and every other group moves on by one. Numbers only
decide into which slots a search writes, so a node with later numbers has the same code up to its
marks, takes the same space, and is searched alike. The whole match keeps number 0.
-/

namespace PatternComposer.Regex

/-- The number of a group behind a new first one. -/
def laterGroup (index : Nat) : Nat := if index = 0 then 0 else index + 1

/-- The slot of a group behind a new first one. -/
def laterSlot (slot : Nat) : Nat := if slot < 2 then slot else slot + 2

theorem laterSlot_start (index : Nat) : laterSlot (2 * index) = 2 * laterGroup index := by
  rw [laterSlot, laterGroup]
  split <;> split <;> omega

theorem laterSlot_stop (index : Nat) : laterSlot (2 * index + 1) = 2 * laterGroup index + 1 := by
  rw [laterSlot, laterGroup]
  split <;> split <;> omega

theorem laterSlot_inj {first second : Nat} : laterSlot first = laterSlot second ↔ first = second := by
  constructor
  · intro same
    simp only [laterSlot] at same
    split at same <;> split at same <;> omega
  · rintro rfl
    rfl

theorem laterGroup_inj {first second : Nat} : laterGroup first = laterGroup second ↔ first = second := by
  constructor
  · intro same
    simp only [laterGroup] at same
    split at same <;> split at same <;> omega
  · rintro rfl
    rfl

/-- The slots of the new first group stay free. -/
theorem laterSlot_ne (slot : Nat) : laterSlot slot ≠ 2 ∧ laterSlot slot ≠ 3 := by
  rw [laterSlot]
  split <;> omega

theorem laterGroup_ne (index : Nat) : laterGroup index ≠ 1 := by
  rw [laterGroup]
  split <;> omega

/-! ## Nodes and code -/

def Inst.later : Inst → Inst
  | .mark slot => .mark (laterSlot slot)
  | inst => inst

namespace Node

def later : Node → Node
  | .cat first second => .cat first.later second.later
  | .alt first second => .alt first.later second.later
  | .rep body lo hi greedy => .rep body.later lo hi greedy
  | .group index body => .group (laterGroup index) body.later
  | node => node

@[simp] theorem onlyEmpty_later (node : Node) : node.later.onlyEmpty = node.onlyEmpty := by
  induction node <;> simp_all [later, onlyEmpty]

@[simp] theorem consumes_later (node : Node) : node.later.consumes = node.consumes := by
  induction node <;> simp_all [later, consumes]

theorem later_catAll (nodes : List Node) : (catAll nodes).later = catAll (nodes.map later) := by
  induction nodes with
  | nil => rfl
  | cons node rest ih =>
    cases rest with
    | nil => rfl
    | cons second more => exact congrArg (Node.cat node.later) ih

theorem later_altAll (nodes : List Node) : (altAll nodes).later = altAll (nodes.map later) := by
  induction nodes with
  | nil => rfl
  | cons node rest ih =>
    cases rest with
    | nil => rfl
    | cons second more => exact congrArg (Node.alt node.later) ih

end Node

namespace Program

theorem map_copies (times : Nat) (code : List Inst) :
    (copies times code).map Inst.later = copies times (code.map Inst.later) := by
  rw [copies, copies, List.map_flatten, List.map_replicate]

theorem map_options (eager : Bool) (code : List Inst) (times : Nat) :
    (options eager code times).map Inst.later = options eager (code.map Inst.later) times := by
  induction times with
  | zero => rfl
  | succ times ih =>
    rw [options, options, List.map_cons, List.map_append, ih, List.length_map]
    rfl

theorem map_repetition (lo : Nat) (hi : Option Nat) (eager : Bool) (code : List Inst) :
    (repetition lo hi eager code).map Inst.later = repetition lo hi eager (code.map Inst.later) := by
  have loop : (repeated eager code).map Inst.later = repeated eager (code.map Inst.later) := by
    rw [repeated, repeated, List.map_append, List.length_map]
    rfl
  cases hi with
  | some limit => rw [repetition, repetition, List.map_append, map_copies, map_options]
  | none =>
    cases lo with
    | zero =>
      rw [repetition, repetition, List.map_cons, loop, List.length_map]
      rfl
    | succ lo => rw [repetition, repetition, List.map_append, map_copies, loop]

end Program

namespace Node

theorem code_later (node : Node) : node.later.code = node.code.map Inst.later := by
  induction node with
  | empty => rfl
  | set members => rfl
  | look l => rfl
  | cat first second ihFirst ihSecond =>
    rw [later, code, ihFirst, ihSecond, code, List.map_append]
  | alt first second ihFirst ihSecond =>
    simp [later, code, ihFirst, ihSecond, Inst.later]
  | rep body lo hi greedy ih =>
    rw [later, code, code, onlyEmpty_later, ih]
    split <;> rw [Program.map_repetition]
  | group index body ih =>
    simp [later, code, ih, Inst.later, laterSlot_start, laterSlot_stop]

theorem program_later (node : Node) : node.later.program = node.program.map Inst.later := by
  rw [program, program, code_later, List.map_toArray]

@[simp] theorem footprint_later (node : Node) : node.later.footprint = node.footprint := by
  induction node with
  | alt first second ihFirst ihSecond =>
    simp only [later, footprint, ihFirst, ihSecond]
    cases first <;> cases second <;> rfl
  | _ => simp_all [later, footprint]

@[simp] theorem fits_later (node : Node) : node.later.fits = node.fits := by
  rw [fits, fits, footprint_later]

end Node

def Part.later (part : Part) : Part := { part with node := part.node.later }

/-! ## Searching -/

namespace Marks

def later (marks : Marks) : Marks := marks.map fun mark => (laterSlot mark.1, mark.2)

theorem get?_cons (mark : Nat × Nat) (rest : Marks) (slot : Nat) :
    get? (mark :: rest) slot = if mark.1 = slot then some mark.2 else rest.get? slot := by
  rw [get?, List.find?_cons]
  by_cases here : mark.1 = slot
  · simp [here]
  · have other : (mark.1 == slot) = false := beq_eq_false_iff_ne.mpr here
    simp only [here, other, ↓reduceIte, get?]

theorem get?_later (marks : Marks) (slot : Nat) : marks.later.get? (laterSlot slot) = marks.get? slot := by
  induction marks with
  | nil => rfl
  | cons mark rest ih =>
    rw [later, List.map_cons, get?_cons, get?_cons]
    simp only [laterSlot_inj]
    exact congrArg (ite (mark.1 = slot) (some mark.2)) ih

theorem get?_later_free (marks : Marks) {slot : Nat} (free : ∀ other, laterSlot other ≠ slot) :
    marks.later.get? slot = none := by
  induction marks with
  | nil => rfl
  | cons mark rest ih =>
    rw [later, List.map_cons, get?_cons, if_neg (free mark.1)]
    exact ih

theorem span?_later (marks : Marks) (index : Nat) :
    marks.later.span? (laterGroup index) = marks.span? index := by
  rw [span?, span?, ← laterSlot_stop, ← laterSlot_start, get?_later, get?_later]

end Marks

def Job.later (job : Job) : Job := ⟨job.pc, job.pos, job.marks.later⟩

def Hit.later (hit : Hit) : Hit := ⟨hit.stop, hit.marks.later⟩

theorem Job.next_later (text : Array Char) (job : Job) (inst : Inst) :
    job.later.next text inst.later = (job.next text inst).map Job.later := by
  cases inst with
  | take members =>
    simp only [Job.next, Inst.later, Job.later]
    cases text[job.pos]? with
    | none => rfl
    | some c => by_cases member : members.contains c = true <;> simp [member, Job.later]
  | check look =>
    simp only [Job.next, Inst.later, Job.later]
    by_cases holds : look.holds text job.pos = true <;> simp [holds, Job.later]
  | mark slot => rfl
  | fork skip eager => cases eager <;> rfl
  | again back eager => cases eager <;> rfl
  | jump skip => rfl

namespace Program

/-- Marks do not steer the search. -/
theorem explore_later (program : Program) (text : Array Char) (fuel : Nat) (visited : Visited)
    (jobs : List Job) :
    explore (program.map Inst.later) text fuel visited (jobs.map Job.later) =
      ((program.explore text fuel visited jobs).1.map Hit.later,
        (program.explore text fuel visited jobs).2) := by
  induction fuel generalizing visited jobs with
  | zero => rfl
  | succ fuel ih =>
    cases jobs with
    | nil => rfl
    | cons job jobs =>
      have key : placeKey text job.later = placeKey text job := rfl
      rw [List.map_cons, explore, explore]
      simp only [key]
      split
      · exact ih visited jobs
      · have fetched : (Array.map Inst.later program)[job.later.pc]? = program[job.pc]?.map Inst.later :=
          Array.getElem?_map
        rw [fetched]
        cases program[job.pc]? with
        | none => rfl
        | some inst =>
          change explore _ text fuel _ (job.later.next text inst.later ++ jobs.map Job.later) = _
          rw [Job.next_later, ← List.map_append]
          exact ih _ _

theorem matchAt?_later (program : Program) (text : Array Char) (pos : Nat) :
    matchAt? (program.map Inst.later) text pos = (program.matchAt? text pos).map Hit.later := by
  have enough : fuel (program.map Inst.later) text = program.fuel text := by
    rw [fuel, fuel, Array.size_map]
  rw [matchAt?, runAt, enough]
  exact congrArg Prod.fst (explore_later program text _ ∅ [⟨0, pos, []⟩])

end Program

end PatternComposer.Regex
