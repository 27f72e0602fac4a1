import PatternComposer.Proofs.Unicode.CharSet
import PatternComposer.Unicode.Derived
import PatternComposer.Unicode.Word

/-! # Categories and the classes made of them

Every character has one general category: the ranges of all categories, merged, are a tiling of the code
points. The classes for white space and for words are given as tables of their own, and are shown here to be the
unions that define them.
-/

namespace PatternComposer

/-! ## Tilings -/

namespace CharSet

/-- Each range begins behind the one before it, the first one at `start`, and the last one ends at the top. -/
def isTiling (start : Nat) : List (Nat × Nat) → Bool
  | [] => start == top + 1
  | r :: rest => r.1 == start && decide (r.1 ≤ r.2) && isTiling (r.2 + 1) rest

/-- The ranges have no code in common. -/
def Apart (r q : Nat × Nat) : Prop := r.2 < q.1 ∨ q.2 < r.1

theorem Apart.symm {r q : Nat × Nat} (apart : Apart r q) : Apart q r := Or.symm apart

theorem Apart.not_covers {r q : Nat × Nat} {code : Nat} (apart : Apart r q) (first : Covers r code) :
    ¬ Covers q code := by
  simp only [Apart, Covers] at *
  omega

variable {start code : Nat} {ranges : List (Nat × Nat)} {tables : List CharSet} {c : Char}

theorem isTiling_cons {r : Nat × Nat} :
    isTiling start (r :: ranges) = true ↔ r.1 = start ∧ r.1 ≤ r.2 ∧ isTiling (r.2 + 1) ranges = true := by
  rw [isTiling, Bool.and_eq_true, Bool.and_eq_true, beq_iff_eq, decide_eq_true_eq, and_assoc]

theorem exists_covers_of_isTiling (tiling : isTiling start ranges = true) (low : start ≤ code) (high : code ≤ top) :
    ∃ r ∈ ranges, Covers r code := by
  induction ranges generalizing start with
  | nil =>
    have ended : start = top + 1 := of_decide_eq_true tiling
    omega
  | cons r rest ih =>
    obtain ⟨first, _, later⟩ := isTiling_cons.mp tiling
    rw [List.exists_mem_cons_iff]
    by_cases inside : code ≤ r.2
    · exact .inl ⟨first.trans_le low, inside⟩
    · exact .inr (ih later (Nat.lt_of_not_le inside))

theorem start_le_of_isTiling (tiling : isTiling start ranges = true) : ∀ r ∈ ranges, start ≤ r.1 := by
  induction ranges generalizing start with
  | nil => simp
  | cons r rest ih =>
    obtain ⟨first, proper, later⟩ := isTiling_cons.mp tiling
    refine List.forall_mem_cons.mpr ⟨first.ge, fun q member => ?_⟩
    have behind := ih later q member
    omega

theorem pairwise_apart_of_isTiling (tiling : isTiling start ranges = true) : ranges.Pairwise Apart := by
  induction ranges generalizing start with
  | nil => exact .nil
  | cons r rest ih =>
    obtain ⟨_, _, later⟩ := isTiling_cons.mp tiling
    exact List.pairwise_cons.mpr ⟨fun q member => .inl (start_le_of_isTiling later q member), ih later⟩

/-- Of tables whose ranges tile the code points, one has the character. -/
theorem existsUnique_of_isTiling (tiling : isTiling 0 (mergeAll tables) = true) (c : Char) :
    ∃! table, table ∈ tables ∧ c ∈ table := by
  obtain ⟨r, member, covers⟩ := mem_iff.mp (@mem_all c)
  obtain rfl := List.mem_singleton.mp member
  obtain ⟨r, member, covers⟩ := exists_covers_of_isTiling tiling (Nat.zero_le _) covers.2
  obtain ⟨table, listed, inside⟩ := List.mem_flatMap.mp ((mergeAll_perm tables).mem_iff.mp member)
  refine ⟨table, ⟨listed, mem_iff.mpr ⟨r, inside, covers⟩⟩, fun other both => ?_⟩
  have apart : (tables.flatMap CharSet.ranges).Pairwise Apart :=
    ((mergeAll_perm tables).pairwise_iff Apart.symm).mp (pairwise_apart_of_isTiling tiling)
  have between := (List.pairwise_flatMap.mp apart).2
  have : Std.Symm fun s t : CharSet => ∀ r ∈ s.ranges, ∀ q ∈ t.ranges, Apart r q :=
    ⟨fun s t each q also r inside => (each r inside q also).symm⟩
  by_contra different
  obtain ⟨q, also, covers'⟩ := mem_iff.mp both.2
  exact (between.forall both.1 listed different q also r inside).not_covers covers' covers

end CharSet

namespace Unicode

open CharSet

/-- The general categories, one set each. -/
def generalCategories : List CharSet := [
  unassigned, lowercaseLetter, uppercaseLetter, otherLetter, titlecaseLetter, modifierLetter, nonspacingMark,
  spacingMark, enclosingMark, digit, letterNumber, otherNumber, connectorPunctuation, dashPunctuation, openPunctuation,
  closePunctuation, initialPunctuation, finalPunctuation, otherPunctuation, mathSymbol, currencySymbol, modifierSymbol,
  otherSymbol, spaceSeparator, lineSeparator, paragraphSeparator, control, format, privateUse]

/-- Code points that are not characters. -/
def surrogate : CharSet := range 0xD800 0xDFFF

theorem not_mem_surrogate {c : Char} : c ∉ surrogate := by
  have valid := toNat_valid c
  rw [surrogate, mem_range]
  omega

/-- Every character has one general category. -/
theorem existsUnique_category (c : Char) : ∃! category, category ∈ generalCategories ∧ c ∈ category := by
  have tiling : isTiling 0 (mergeAll (generalCategories ++ [surrogate])) = true := by decide +kernel
  obtain ⟨category, ⟨listed, inside⟩, unique⟩ := existsUnique_of_isTiling tiling c
  refine ⟨category, ⟨?_, inside⟩, fun other both => unique other ⟨List.mem_append_left _ both.1, both.2⟩⟩
  rcases List.mem_append.mp listed with listed | last
  · exact listed
  · obtain rfl := List.mem_singleton.mp last
    exact absurd inside not_mem_surrogate

/-! ## Classes -/

variable {c : Char}

/-- The tables of the characters in words. -/
def wordTables : List CharSet := [
  lowercaseLetter, uppercaseLetter, otherLetter, nonspacingMark, otherAlphabetic, spacingMark, modifierLetter, digit,
  otherLowercase, letterNumber, titlecaseLetter, connectorPunctuation, otherUppercase, enclosingMark, joinControl]

theorem exists_mem_wordTables_iff :
    (∃ table ∈ wordTables, c ∈ table) ↔
      c ∈ alphabetic ∨ c ∈ mark ∨ c ∈ digit ∨ c ∈ connectorPunctuation ∨ c ∈ joinControl := by
  simp only [wordTables, List.mem_cons, List.not_mem_nil, or_false, exists_eq_or_imp, exists_eq_left]
  simp only [alphabetic, cased, lowercase, uppercase, mark, mem_union, or_assoc, or_comm, or_left_comm]

/-- Word characters are what is alphabetic, marks, decimal digits, connecting punctuation and the joiners. -/
theorem mem_word :
    c ∈ word ↔
      c ∈ alphabetic ∨ c ∈ mark ∨ c ∈ digit ∨ c ∈ connectorPunctuation ∨ c ∈ joinControl := by
  have ascending : wordTables.all fun table => isAscending table.ranges := by decide +kernel
  have joined : ((mergeAll wordTables).foldl joinRanges []).reverse = word.ranges := by decide +kernel
  exact (mem_iff_of_joined ascending joined).trans exists_mem_wordTables_iff

/-- A letter of Todhri, a mark of Arabic and a joiner are among them, a hyphen is not. -/
example : Char.ofNat 0x105C0 ∈ word ∧ '\u0897' ∈ word ∧ '\u200D' ∈ word ∧ '-' ∉ word := by decide +kernel

/-- The tables of white space. The last but one has the control characters for blanks and line ends. -/
def blankTables : List CharSet := [spaceSeparator, lineSeparator, paragraphSeparator, range 0x9 0xD, single '\x85']

/-- White space is what separates, the control characters for blanks and line ends, and the next line. -/
theorem mem_blank : c ∈ blank ↔ c ∈ separator ∨ c ∈ range 0x9 0xD ∨ c = '\x85' := by
  have ascending : blankTables.all fun table => isAscending table.ranges := by decide +kernel
  have joined : ((mergeAll blankTables).foldl joinRanges []).reverse = blank.ranges := by decide +kernel
  rw [mem_iff_of_joined ascending joined]
  simp only [blankTables, List.mem_cons, List.not_mem_nil, or_false, exists_eq_or_imp, exists_eq_left]
  simp only [separator, mem_union, mem_single, or_assoc]

end Unicode
end PatternComposer
