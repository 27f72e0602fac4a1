import PatternComposer.Error

/-! # Open statements

A record of the statements that were begun and not yet ended. Strict closing only accepts the
innermost statement; lenient closing drops it whatever it is.
-/

namespace PatternComposer

/-- Open statements, the innermost first. -/
structure Nesting where
  innermostFirst : List Statement
deriving DecidableEq, Repr

namespace Nesting

def empty : Nesting := ⟨[]⟩

instance : Inhabited Nesting := ⟨empty⟩

def push (nesting : Nesting) (kind : Statement) : Nesting := ⟨kind :: nesting.innermostFirst⟩

/-- The innermost open statement. -/
def top? (nesting : Nesting) : Option Statement := nesting.innermostFirst.head?

/-- Closes the innermost statement. When strict, it must be of the given kind. -/
def pop (nesting : Nesting) (kind : Statement) (strict : Bool) : Except Error Nesting :=
  if strict && nesting.top? != some kind then .error (.missingBegin kind)
  else .ok ⟨nesting.innermostFirst.tail⟩

theorem pop_eq_ok_iff {nesting next : Nesting} {kind : Statement} {strict : Bool} :
    nesting.pop kind strict = .ok next ↔
      (strict → nesting.top? = some kind) ∧ next = ⟨nesting.innermostFirst.tail⟩ := by
  rw [pop]
  cases strict <;> by_cases top : nesting.top? = some kind <;> simp [top] <;> exact eq_comm

/-- Open statements, the outermost first. -/
def toList (nesting : Nesting) : List Statement := nesting.innermostFirst.reverse

def depth (nesting : Nesting) : Nat := nesting.innermostFirst.length

def isEmpty (nesting : Nesting) : Bool := nesting.innermostFirst.isEmpty

end Nesting
end PatternComposer
