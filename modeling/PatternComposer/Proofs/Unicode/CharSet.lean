import Mathlib
import PatternComposer.Unicode.CharSet

/-! # Members of composed sets

What cutting, complementing and the canonical form do to the members of a set. The canonical form joins
neighbours of an ascending list, and loses nothing because no later range begins before an earlier one.
The last part compares a table with the union of others by merging their ranges.
-/

namespace PatternComposer.CharSet

variable {s t : CharSet} {c d : Char} {code : Nat}

/-- The code is in the range. -/
def Covers (r : Nat × Nat) (code : Nat) : Prop := r.1 ≤ code ∧ code ≤ r.2

theorem hasCode_iff : s.hasCode code = true ↔ ∃ r ∈ s.ranges, Covers r code := by
  simp [hasCode, Covers]

theorem mem_iff : c ∈ s ↔ ∃ r ∈ s.ranges, Covers r c.toNat := hasCode_iff

theorem mem_range {lo hi : Nat} : c ∈ range lo hi ↔ lo ≤ c.toNat ∧ c.toNat ≤ hi := by
  simp [mem_iff, range, Covers]

/-- Characters have all code points but the surrogates. -/
theorem toNat_valid (c : Char) : c.toNat < 0xD800 ∨ 0xDFFF < c.toNat ∧ c.toNat < 0x110000 := c.valid

theorem mem_all : c ∈ all := by
  have valid := toNat_valid c
  refine mem_range.mpr ⟨Nat.zero_le _, ?_⟩
  rw [top]
  omega

/-! ## Cutting -/

theorem exists_mem_cutRange_iff {cut r : Nat × Nat} :
    (∃ q ∈ cutRange cut r, Covers q code) ↔ Covers r code ∧ ¬ Covers cut code := by
  rw [cutRange]
  split
  · next apart =>
    simp only [List.mem_singleton, exists_eq_left, Covers]
    omega
  · have pieces : (∃ q ∈ (if r.1 < cut.1 then [(r.1, cut.1 - 1)] else []) ++
        (if cut.2 < r.2 then [(cut.2 + 1, r.2)] else []), Covers q code) ↔
        r.1 < cut.1 ∧ Covers (r.1, cut.1 - 1) code ∨ cut.2 < r.2 ∧ Covers (cut.2 + 1, r.2) code := by
      split <;> split <;> simp [*]
    rw [pieces]
    simp only [Covers]
    omega

/-- Cutting one range after the other leaves what is in none of them. -/
theorem exists_mem_foldl_cutRange_iff {cuts rest : List (Nat × Nat)} :
    (∃ r ∈ cuts.foldl (fun rest cut => rest.flatMap (cutRange cut)) rest, Covers r code) ↔
      (∃ r ∈ rest, Covers r code) ∧ ∀ cut ∈ cuts, ¬ Covers cut code := by
  induction cuts generalizing rest with
  | nil => simp
  | cons cut cuts ih =>
    have once : (∃ q ∈ rest.flatMap (cutRange cut), Covers q code) ↔
        (∃ r ∈ rest, Covers r code) ∧ ¬ Covers cut code := by
      constructor
      · rintro ⟨q, member, covers⟩
        obtain ⟨r, inside, piece⟩ := List.mem_flatMap.mp member
        obtain ⟨whole, outside⟩ := exists_mem_cutRange_iff.mp ⟨q, piece, covers⟩
        exact ⟨⟨r, inside, whole⟩, outside⟩
      · rintro ⟨⟨r, inside, whole⟩, outside⟩
        obtain ⟨q, piece, covers⟩ := exists_mem_cutRange_iff.mpr ⟨whole, outside⟩
        exact ⟨q, List.mem_flatMap.mpr ⟨r, inside, piece⟩, covers⟩
    rw [List.foldl_cons, ih, once, List.forall_mem_cons, and_assoc]

theorem mem_diff : c ∈ s.diff t ↔ c ∈ s ∧ c ∉ t := by
  rw [mem_iff, mem_iff, mem_iff, diff, exists_mem_foldl_cutRange_iff]
  simp only [not_exists, not_and]

theorem mem_complement : c ∈ s.complement ↔ c ∉ s := by
  rw [complement, mem_diff]
  exact and_iff_right mem_all

/-! ## The canonical form -/

/-- No range begins before one in front of it. -/
abbrev Ascending (ranges : List (Nat × Nat)) : Prop := ranges.Pairwise fun r q => r.1 ≤ q.1

instance : IsTrans (Nat × Nat) fun r q => r.1 ≤ q.1 := ⟨fun _ _ _ first second => Nat.le_trans first second⟩

instance : Std.Total fun r q : Nat × Nat => r.1 ≤ q.1 := ⟨fun r q => Nat.le_total r.1 q.1⟩

/-- Joining a range that does not begin before the last one keeps what is covered. -/
theorem exists_mem_joinRanges_iff {done : List (Nat × Nat)} {r : Nat × Nat}
    (later : ∀ last ∈ done.head?, last.1 ≤ r.1) :
    (∃ q ∈ joinRanges done r, Covers q code) ↔ (∃ q ∈ done, Covers q code) ∨ Covers r code := by
  cases done with
  | nil => simp [joinRanges]
  | cons last done =>
    have after : last.1 ≤ r.1 := later last rfl
    rw [joinRanges]
    split
    · next near =>
      have joined : Covers (last.1, max last.2 r.2) code ↔ Covers last code ∨ Covers r code := by
        simp only [Covers]
        omega
      rw [List.exists_mem_cons_iff, List.exists_mem_cons_iff, joined, or_right_comm]
    · rw [List.exists_mem_cons_iff, List.exists_mem_cons_iff, or_comm]

theorem head?_joinRanges_le {done : List (Nat × Nat)} {r : Nat × Nat}
    (later : ∀ last ∈ done.head?, last.1 ≤ r.1) :
    ∀ last ∈ (joinRanges done r).head?, last.1 ≤ r.1 := by
  cases done with
  | nil =>
    intro last same
    obtain rfl := Option.some.inj same
    exact Nat.le_refl _
  | cons top done =>
    intro last same
    rw [joinRanges] at same
    split at same
    · obtain rfl := Option.some.inj same
      exact later top rfl
    · obtain rfl := Option.some.inj same
      exact Nat.le_refl _

theorem exists_mem_foldl_joinRanges_iff {ranges done : List (Nat × Nat)}
    (ascending : Ascending ranges) (later : ∀ last ∈ done.head?, ∀ r ∈ ranges, last.1 ≤ r.1) :
    (∃ q ∈ ranges.foldl joinRanges done, Covers q code) ↔
      (∃ q ∈ done, Covers q code) ∨ ∃ q ∈ ranges, Covers q code := by
  induction ranges generalizing done with
  | nil => simp
  | cons r ranges ih =>
    obtain ⟨first, others⟩ := List.pairwise_cons.mp ascending
    have here : ∀ last ∈ done.head?, last.1 ≤ r.1 := fun last top => later last top r List.mem_cons_self
    have next : ∀ last ∈ (joinRanges done r).head?, ∀ q ∈ ranges, last.1 ≤ q.1 := by
      intro last top q member
      exact Nat.le_trans (head?_joinRanges_le here last top) (first q member)
    rw [List.foldl_cons, ih others next, exists_mem_joinRanges_iff here, or_assoc]
    simp only [List.mem_cons, exists_eq_or_imp]

theorem exists_mem_joined_iff {ranges : List (Nat × Nat)} (ascending : Ascending ranges) :
    (∃ q ∈ (ranges.foldl joinRanges []).reverse, Covers q code) ↔ ∃ q ∈ ranges, Covers q code := by
  have none : ∀ last ∈ ([] : List (Nat × Nat)).head?, ∀ r ∈ ranges, last.1 ≤ r.1 := by simp
  simp only [List.mem_reverse]
  rw [exists_mem_foldl_joinRanges_iff ascending none]
  simp

theorem mem_canonical : c ∈ s.canonical ↔ c ∈ s := by
  let sorted := s.ranges.mergeSort fun r q => decide (r.1 ≤ q.1)
  have ascending : Ascending sorted := List.pairwise_mergeSort' (fun r q : Nat × Nat => r.1 ≤ q.1) s.ranges
  have same (r : Nat × Nat) : r ∈ sorted ↔ r ∈ s.ranges := (List.mergeSort_perm _ _).mem_iff
  rw [mem_iff, mem_iff, canonical, exists_mem_joined_iff ascending]
  simp only [same]

/-! ## Merging

The library's merging cannot be evaluated in a proof, and sorting takes long on whole tables. Tables are ascending as
they stand, so they are merged here, by recursion on their ranges.
-/

/-- Passes the ranges that begin before `r`, and goes on with `rest` behind it. -/
def passing (r : Nat × Nat) (rest : List (Nat × Nat) → List (Nat × Nat)) :
    List (Nat × Nat) → List (Nat × Nat)
  | [] => r :: rest []
  | q :: others => if r.1 ≤ q.1 then r :: rest (q :: others) else q :: passing r rest others

/-- Two ascending lists of ranges as one. -/
def merge : List (Nat × Nat) → List (Nat × Nat) → List (Nat × Nat)
  | [], others => others
  | r :: rest, others => passing r (merge rest) others

/-- The ranges of several tables as one list. -/
def mergeAll (tables : List CharSet) : List (Nat × Nat) :=
  tables.foldr (fun table rest => merge table.ranges rest) []

/-- No range begins before the one in front of it, as a check. -/
def isAscending : List (Nat × Nat) → Bool
  | r :: q :: rest => decide (r.1 ≤ q.1) && isAscending (q :: rest)
  | _ => true

variable {ranges others : List (Nat × Nat)} {tables : List CharSet}

theorem merge_eq (ranges others : List (Nat × Nat)) :
    merge ranges others = ranges.merge others fun r q => decide (r.1 ≤ q.1) := by
  induction ranges generalizing others with
  | nil => rw [merge, List.nil_merge]
  | cons r rest ih =>
    rw [merge]
    induction others with
    | nil => rw [passing, ih, List.merge_right, List.merge_right]
    | cons q others ihOthers =>
      rw [passing, List.cons_merge_cons, ih, ihOthers]
      simp only [decide_eq_true_eq]

theorem merge_perm (ranges others : List (Nat × Nat)) : (merge ranges others).Perm (ranges ++ others) := by
  rw [merge_eq]
  exact List.merge_perm_append _

theorem mergeAll_perm (tables : List CharSet) : (mergeAll tables).Perm (tables.flatMap CharSet.ranges) := by
  induction tables with
  | nil => exact .refl _
  | cons table tables ih => exact (merge_perm _ _).trans (ih.append_left _)

theorem ascending_of_isAscending (ascending : isAscending ranges = true) : Ascending ranges := by
  have chained : ranges.IsChain fun r q => r.1 ≤ q.1 := by
    induction ranges with
    | nil => exact .nil
    | cons r rest ih =>
      cases rest with
      | nil => exact .singleton r
      | cons q rest =>
        rw [isAscending, Bool.and_eq_true, decide_eq_true_eq] at ascending
        exact .cons_cons ascending.1 (ih ascending.2)
  exact chained.pairwise

theorem ascending_merge (ascending : Ascending ranges) (also : Ascending others) :
    Ascending (merge ranges others) := by
  rw [merge_eq]
  exact ascending.merge also

theorem ascending_mergeAll (ascending : ∀ table ∈ tables, isAscending table.ranges = true) :
    Ascending (mergeAll tables) := by
  induction tables with
  | nil => exact .nil
  | cons table tables ih =>
    obtain ⟨first, later⟩ := List.forall_mem_cons.mp ascending
    exact ascending_merge (ascending_of_isAscending first) (ih later)

/-- A table that ascending tables join up to is their union. -/
theorem mem_iff_of_joined (ascending : tables.all fun table => isAscending table.ranges)
    (joined : ((mergeAll tables).foldl joinRanges []).reverse = s.ranges) :
    c ∈ s ↔ ∃ table ∈ tables, c ∈ table := by
  rw [mem_iff, ← joined, exists_mem_joined_iff (ascending_mergeAll (List.all_eq_true.mp ascending))]
  simp only [(mergeAll_perm tables).mem_iff, List.mem_flatMap, mem_iff]
  constructor
  · rintro ⟨r, ⟨table, member, inside⟩, covers⟩
    exact ⟨table, member, r, inside, covers⟩
  · rintro ⟨table, member, r, inside, covers⟩
    exact ⟨r, ⟨table, member, inside⟩, covers⟩

end PatternComposer.CharSet
