import Mathlib
import PatternComposer.Flags

/-! # Flag sets as lists

A flag set lists the flags that it was made from, each where it occurred first (`List.eraseDups`). So putting
sets together is putting the lists together, and the order and the repetitions of what is supplied make no
difference beyond that.
-/

namespace PatternComposer

/-! ## First occurrences -/

section FirstOccurrences

variable {α : Type} [BEq α] [LawfulBEq α]

theorem eraseDups_concat (xs : List α) (x : α) :
    (xs ++ [x]).eraseDups = if xs.contains x then xs.eraseDups else xs.eraseDups ++ [x] := by
  rw [List.eraseDups_append, List.cons_removeAll, List.nil_removeAll]
  cases xs.contains x <;> simp [List.eraseDups_cons]

theorem nodup_eraseDups (xs : List α) : xs.eraseDups.Nodup := by
  -- from the end, as what stands in front decides whether an element is kept
  induction xs using List.reverseRecOn with
  | nil => exact List.nodup_nil
  | append_singleton xs x ih =>
    rw [eraseDups_concat]
    split
    · exact ih
    · next new =>
      have absent : x ∉ xs.eraseDups := by simpa [List.mem_eraseDups] using new
      exact ih.append (List.nodup_singleton x) (List.disjoint_singleton.mpr absent)

theorem eraseDups_of_nodup {xs : List α} (distinct : xs.Nodup) : xs.eraseDups = xs := by
  induction xs with
  | nil => rfl
  | cons x rest ih =>
    obtain ⟨new, distinct⟩ := List.nodup_cons.mp distinct
    have others : ∀ y ∈ rest, (!y == x) = true := by
      intro y member
      have differs : y ≠ x := fun same => new (same ▸ member)
      simpa using differs
    rw [List.eraseDups_cons, List.filter_eq_self.mpr others, ih distinct]

theorem eraseDups_filter (p : α → Bool) (xs : List α) : (xs.filter p).eraseDups = xs.eraseDups.filter p := by
  induction xs using List.reverseRecOn with
  | nil => rfl
  | append_singleton xs x ih =>
    rw [List.filter_append, eraseDups_concat]
    cases selected : p x with
    | false => split <;> simp [selected, ih]
    | true =>
      have again : (xs.filter p).contains x = xs.contains x := by
        rw [Bool.eq_iff_iff]
        simp [selected]
      rw [List.filter_singleton, selected, cond_true, eraseDups_concat, again, ih]
      split <;> simp [selected]

/-- What occurs again in the second list may be left out there. -/
theorem eraseDups_append_eraseDups (xs ys : List α) : (xs ++ ys.eraseDups).eraseDups = (xs ++ ys).eraseDups := by
  rw [List.eraseDups_append, List.eraseDups_append, List.removeAll, List.removeAll, eraseDups_filter, eraseDups_filter,
    eraseDups_of_nodup (nodup_eraseDups ys)]

end FirstOccurrences

/-! ## Making and merging sets -/

namespace Flags

theorem toList_insert (flags : Flags) (flag : Char) :
    (flags.insert flag).toList = (flags.toList ++ [flag]).eraseDups := by
  rw [eraseDups_concat, eraseDups_of_nodup flags.nodup, insert]
  split <;> simp_all

theorem toList_extend (flags : Flags) (more : List Char) :
    (flags.extend more).toList = (flags.toList ++ more).eraseDups := by
  induction more using List.reverseRecOn with
  | nil => rw [List.append_nil, eraseDups_of_nodup flags.nodup, extend, List.foldl_nil]
  | append_singleton more flag ih =>
    rw [extend, List.foldl_append, List.foldl_cons, List.foldl_nil, toList_insert]
    change ((flags.extend more).toList ++ [flag]).eraseDups = _
    rw [ih, ← List.append_assoc, eraseDups_concat, eraseDups_concat, eraseDups_of_nodup (nodup_eraseDups _)]
    simp

theorem toList_ofList (supplied : List Char) : (ofList supplied).toList = supplied.eraseDups :=
  toList_extend empty supplied

/-- Merging is putting what was supplied for the one in front of the other. -/
theorem merge_ofList (supplied : List Char) (other : Flags) :
    (ofList supplied).merge other = ofList (supplied ++ other.toList) := List.foldl_append.symm

theorem mem_ofList {supplied : List Char} {flag : Char} : flag ∈ (ofList supplied).toList ↔ flag ∈ supplied := by
  rw [toList_ofList, List.mem_eraseDups]

theorem contains_ofList (supplied : List Char) (flag : Char) :
    (ofList supplied).contains flag = supplied.contains flag := by
  rw [contains, Bool.eq_iff_iff]
  simp [mem_ofList]

end Flags
/-! ## Flags of a build -/

/-- What a build can be given as flags. -/
inductive FlagsArgument where
  | flags (flags : Flags)
  | character (flag : Char)
  | characters (flags : List Char)
  | text (flags : String)
  | texts (flags : List String)

namespace FlagsArgument

def toFlags : FlagsArgument → Flags
  | .flags given => given
  | .character flag => .singleton flag
  | .characters given => .ofList given
  | .text given => .ofString given
  | .texts given => .ofStrings given

/-- The characters that are given, in order. -/
def supplied : FlagsArgument → List Char
  | .flags given => given.toList
  | .character flag => [flag]
  | .characters given => given
  | .text given => given.toList
  | .texts given => given.flatMap String.toList

theorem toList_toFlags (argument : FlagsArgument) : argument.toFlags.toList = argument.supplied.eraseDups := by
  cases argument with
  | flags given => exact (eraseDups_of_nodup given.nodup).symm
  | character flag => exact (eraseDups_of_nodup (List.nodup_singleton flag)).symm
  | characters given => exact Flags.toList_ofList given
  | text given => exact Flags.toList_ofList _
  | texts given => exact Flags.toList_ofList _

end FlagsArgument

end PatternComposer
