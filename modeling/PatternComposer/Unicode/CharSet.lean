/-! # Sets of characters

A set is a list of inclusive code point ranges. Nothing is assumed about the order of the
ranges or about overlaps, so membership is one disjunction and each operation has one
membership equation. `canonical` gives the sorted, disjoint form for callers that count ranges.
-/

namespace PatternComposer

/-- A set of characters, as inclusive ranges of code points. -/
structure CharSet where
  ranges : List (Nat × Nat)
deriving DecidableEq, Repr, Inhabited

namespace CharSet

/-- The last code point. -/
def top : Nat := 0x10FFFF

def hasCode (s : CharSet) (code : Nat) : Bool :=
  s.ranges.any fun r => decide (r.1 ≤ code) && decide (code ≤ r.2)

def contains (s : CharSet) (c : Char) : Bool := s.hasCode c.toNat

instance : Membership Char CharSet := ⟨fun s c => s.contains c = true⟩

instance (c : Char) (s : CharSet) : Decidable (c ∈ s) :=
  inferInstanceAs (Decidable (s.contains c = true))

def empty : CharSet := ⟨[]⟩

def all : CharSet := ⟨[(0, top)]⟩

def range (lo hi : Nat) : CharSet := ⟨[(lo, hi)]⟩

def single (c : Char) : CharSet := range c.toNat c.toNat

def ofList (cs : List Char) : CharSet := ⟨cs.map fun c => (c.toNat, c.toNat)⟩

def union (s t : CharSet) : CharSet := ⟨s.ranges ++ t.ranges⟩

/-- The parts of `r` outside the range `cut`. -/
def cutRange (cut r : Nat × Nat) : List (Nat × Nat) :=
  if cut.2 < cut.1 ∨ r.2 < cut.1 ∨ cut.2 < r.1 then [r]
  else (if r.1 < cut.1 then [(r.1, cut.1 - 1)] else []) ++
    (if cut.2 < r.2 then [(cut.2 + 1, r.2)] else [])

def diff (s t : CharSet) : CharSet :=
  ⟨t.ranges.foldl (fun rest cut => rest.flatMap (cutRange cut)) s.ranges⟩

def complement (s : CharSet) : CharSet := diff all s

/-- The common part of two ranges. -/
def meet (r q : Nat × Nat) : Option (Nat × Nat) :=
  let lo := max r.1 q.1
  let hi := min r.2 q.2
  if lo ≤ hi then some (lo, hi) else none

def inter (s t : CharSet) : CharSet :=
  ⟨s.ranges.flatMap fun r => t.ranges.filterMap (meet r)⟩

def symmDiff (s t : CharSet) : CharSet := (diff s t).union (diff t s)

/-- Joins a range with the last one of an ascending list when they overlap or touch. -/
def joinRanges : List (Nat × Nat) → Nat × Nat → List (Nat × Nat)
  | [], r => [r]
  | last :: done, r =>
    if r.1 ≤ last.2 + 1 then (last.1, max last.2 r.2) :: done else r :: last :: done

/-- The same set as ascending ranges that neither overlap nor touch. -/
def canonical (s : CharSet) : CharSet :=
  ⟨((s.ranges.mergeSort fun r q => decide (r.1 ≤ q.1)).foldl joinRanges []).reverse⟩

def isEmpty (s : CharSet) : Bool := s.ranges.isEmpty

/-- Every member is below `bound`. -/
def below (s : CharSet) (bound : Nat) : Bool := s.ranges.all fun r => decide (r.2 < bound)

theorem hasCode_union (s t : CharSet) (n : Nat) :
    (s.union t).hasCode n = (s.hasCode n || t.hasCode n) := by
  simp [hasCode, union, List.any_append]

theorem mem_union {c : Char} {s t : CharSet} : c ∈ s.union t ↔ c ∈ s ∨ c ∈ t := by
  simp [Membership.mem, contains, hasCode_union]

theorem mem_single {c d : Char} : c ∈ single d ↔ c = d := by
  simp only [Membership.mem, contains, hasCode, single, range, List.any_cons, List.any_nil,
    Bool.or_false, Bool.and_eq_true, decide_eq_true_eq]
  constructor
  · intro bounds
    exact Char.toNat_inj.mp (by omega)
  · rintro rfl
    exact ⟨Nat.le_refl _, Nat.le_refl _⟩

theorem not_mem_empty {c : Char} : c ∉ empty := by
  simp [Membership.mem, contains, hasCode, empty]

end CharSet
end PatternComposer
