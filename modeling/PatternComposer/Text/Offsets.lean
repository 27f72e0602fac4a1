/-! # Byte offsets

Positions in a text are counted in the bytes of its UTF-8 form; inside, searches count characters.
-/

namespace PatternComposer.Text

/-- The length of a text in bytes. -/
def byteLength : List Char → Nat
  | [] => 0
  | c :: rest => c.utf8Size + byteLength rest

/-- The offset of the character at an index. -/
def byteOffset (cs : List Char) (index : Nat) : Nat := byteLength (cs.take index)

/-- The index of the character at a byte offset. -/
def charIndex : List Char → Nat → Nat
  | _, 0 => 0
  | [], _ => 0
  | c :: rest, offset => charIndex rest (offset - c.utf8Size) + 1

/-- The part of a text between two byte offsets. -/
def slice (cs : List Char) (start stop : Nat) : List Char :=
  (cs.take (charIndex cs stop)).drop (charIndex cs start)

/-- The number of bytes of the character at a byte offset, and one at the end of the text. -/
def widthAt (cs : List Char) (offset : Nat) : Nat :=
  (cs[charIndex cs offset]?.map Char.utf8Size).getD 1

theorem byteLength_append (s t : List Char) :
    byteLength (s ++ t) = byteLength s + byteLength t := by
  induction s with
  | nil => simp [byteLength]
  | cons c rest ih => simp [byteLength, ih, Nat.add_assoc]

theorem byteLength_perm {s t : List Char} (same : s.Perm t) : byteLength s = byteLength t := by
  induction same with
  | nil => rfl
  | cons c _ ih => rw [byteLength, byteLength, ih]
  | swap c d rest => simp only [byteLength, Nat.add_left_comm]
  | trans _ _ ih ih' => exact ih.trans ih'

theorem charIndex_byteOffset (cs : List Char) {index : Nat} (inside : index ≤ cs.length) :
    charIndex cs (byteOffset cs index) = index := by
  induction cs generalizing index with
  | nil =>
    obtain rfl : index = 0 := by simpa using inside
    rfl
  | cons c rest ih =>
    cases index with
    | zero => rfl
    | succ index =>
      have width : 0 < c.utf8Size := c.utf8Size_pos
      have split : byteOffset (c :: rest) (index + 1) = c.utf8Size + byteOffset rest index := by
        simp [byteOffset, byteLength]
      obtain ⟨n, h⟩ : ∃ n, c.utf8Size + byteOffset rest index = n + 1 :=
        ⟨c.utf8Size + byteOffset rest index - 1, by omega⟩
      rw [split, h, charIndex, ← h, Nat.add_sub_cancel_left, ih (by simpa using inside)]
      exact Nat.succ_ne_zero n

end PatternComposer.Text
