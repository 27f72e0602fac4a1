import Mathlib
import PatternComposer.Text.Escape

/-! # Which texts are escaped ones

The backslash itself is not escaped, so a text may have any number of them in front of an escaped character. Even so
nothing is ambiguous: the texts that escaping gives are those in which each escaped character stands directly
behind a backslash, and of each of them exactly one text is the origin.
-/

namespace PatternComposer.Text

/-- Each escaped character stands directly behind a backslash. -/
def Guarded (s : List Char) : Prop :=
  ∀ before c after, s = before ++ c :: after → isEscaped c → before.getLast? = some '\\'

/-- Each escaped character stands directly behind a backslash once `last` is put in front. -/
def GuardedBehind (last : Char) (s : List Char) : Prop :=
  ∀ before c after, s = before ++ c :: after → isEscaped c → before.getLast?.getD last = '\\'

/-- The text without the backslashes that stand directly in front of escaped characters. -/
def unescapeString (s : String) : String := String.ofList (unescape s.toList)

theorem guardedBehind_nil (last : Char) : GuardedBehind last [] := by
  intro before c after same
  simp at same

theorem guardedBehind_cons {last c : Char} {rest : List Char} :
    GuardedBehind last (c :: rest) ↔ (isEscaped c → last = '\\') ∧ GuardedBehind c rest := by
  constructor
  · intro guarded
    refine ⟨guarded [] c rest rfl, fun before d after same escaped => ?_⟩
    have behind := guarded (c :: before) d after (congrArg (c :: ·) same) escaped
    simpa [List.getLast?_cons] using behind
  · rintro ⟨first, later⟩ before d after same escaped
    cases before with
    | nil =>
      obtain ⟨rfl, rfl⟩ := List.cons.inj same
      exact first escaped
    | cons b before =>
      obtain ⟨rfl, behind⟩ := List.cons.inj same
      simpa [List.getLast?_cons] using later before d after behind escaped

/-- At the start of a text any other character is as good as none. -/
theorem guarded_iff_guardedBehind (last : Char) (other : last ≠ '\\') {s : List Char} :
    Guarded s ↔ GuardedBehind last s := by
  have same (before : List Char) : before.getLast? = some '\\' ↔ before.getLast?.getD last = '\\' := by
    cases before.getLast? <;> simp [other]
  simp only [Guarded, GuardedBehind, same]

theorem not_isEscaped_backslash : isEscaped '\\' = false := by decide

theorem guardedBehind_escape (last : Char) (s : List Char) : GuardedBehind last (escape s) := by
  induction s generalizing last with
  | nil => exact guardedBehind_nil last
  | cons c rest ih =>
    rw [escape]
    split
    · rw [guardedBehind_cons, guardedBehind_cons]
      exact ⟨fun escaped => by simp [not_isEscaped_backslash] at escaped, fun _ => rfl, ih c⟩
    · next plain =>
      rw [guardedBehind_cons]
      exact ⟨fun escaped => absurd escaped plain, ih c⟩

theorem guarded_escape (s : List Char) : Guarded (escape s) :=
  (guarded_iff_guardedBehind ' ' (by decide)).mpr (guardedBehind_escape ' ' s)

/-! ## There and back -/

/-- What is left out of an escaped text does not hang on the character in front. -/
theorem unescape_cons_escape (c : Char) (s : List Char) : unescape (c :: escape s) = c :: s := by
  induction s generalizing c with
  | nil => rfl
  | cons d rest ih =>
    rw [escape]
    split
    · next escaped => simp [unescape, not_isEscaped_backslash, escaped, ih]
    · next plain => simp [unescape, plain, ih]

theorem unescape_escape (s : List Char) : unescape (escape s) = s := by
  cases s with
  | nil => rfl
  | cons c rest =>
    rw [escape]
    split
    · next escaped => simp [unescape, escaped, unescape_cons_escape]
    · exact unescape_cons_escape c rest

/-- The backslash of an escaped character in front is put back as well. -/
theorem escape_unescape_cons {c : Char} {rest : List Char} (guarded : GuardedBehind c rest) :
    escape (unescape (c :: rest)) = if isEscaped c then '\\' :: c :: rest else c :: rest := by
  induction rest generalizing c with
  | nil => rfl
  | cons d rest ih =>
    obtain ⟨first, later⟩ := guardedBehind_cons.mp guarded
    have ih := ih later
    cases escaped : isEscaped d with
    | true =>
      obtain rfl := first escaped
      simp [unescape, escaped, not_isEscaped_backslash, ih]
    | false => simp [unescape, escaped, escape, ih]

theorem escape_unescape {s : List Char} (guarded : Guarded s) : escape (unescape s) = s := by
  cases s with
  | nil => rfl
  | cons c rest =>
    obtain ⟨first, later⟩ := guardedBehind_cons.mp ((guarded_iff_guardedBehind ' ' (by decide)).mp guarded)
    have plain : isEscaped c = false := by
      cases escaped : isEscaped c with
      | true => exact absurd (first escaped) (by decide)
      | false => rfl
    rw [escape_unescape_cons later, plain]
    rfl

/-! ## Texts as strings -/

theorem toList_escapeString (s : String) : (escapeString s).toList = escape s.toList := String.toList_ofList

theorem unescapeString_escapeString (s : String) : unescapeString (escapeString s) = s := by
  rw [unescapeString, toList_escapeString, unescape_escape, String.ofList_toList]

theorem escapeString_unescapeString {s : String} (guarded : Guarded s.toList) :
    escapeString (unescapeString s) = s := by
  rw [escapeString, unescapeString, String.toList_ofList, escape_unescape guarded, String.ofList_toList]

theorem escapeString_append (s t : String) : escapeString (s ++ t) = escapeString s ++ escapeString t := by
  rw [escapeString, String.toList_append, escape_append, String.ofList_append]
  rfl

/-- Escaping can be undone, and its image is known. An escaped text has a backslash directly in front of each escaped
character, leaving these out gives the text back, and joined texts are escaped one by one. A text in which each
escaped character stands directly behind a backslash is the escaped form of one text and of no other: of what is left
without those backslashes. -/
theorem escapeString_spec :
    (∀ s, Guarded (escapeString s).toList) ∧
    (∀ s, unescapeString (escapeString s) = s) ∧
    Function.Injective escapeString ∧
    (∀ s t, escapeString (s ++ t) = escapeString s ++ escapeString t) ∧
    (∀ s origin, escapeString origin = s ↔ Guarded s.toList ∧ origin = unescapeString s) := by
  have guarded (s : String) : Guarded (escapeString s).toList := by
    rw [toList_escapeString]
    exact guarded_escape s.toList
  refine ⟨guarded, unescapeString_escapeString, Function.LeftInverse.injective unescapeString_escapeString,
    escapeString_append, fun s origin => ⟨?_, ?_⟩⟩
  · rintro rfl
    exact ⟨guarded origin, (unescapeString_escapeString origin).symm⟩
  · rintro ⟨guarded, rfl⟩
    exact escapeString_unescapeString guarded

-- A text with a backslash in front of an escaped character, and with an escape already.
example : escape ['\\', '(', '.'] = ['\\', '\\', '(', '\\', '.'] ∧
    unescape ['\\', '\\', '(', '\\', '.'] = ['\\', '(', '.'] := by decide

end PatternComposer.Text
