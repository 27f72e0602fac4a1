import PatternComposer.Proofs.Pattern.AllMatches
import PatternComposer.Proofs.Pattern.Choices
import PatternComposer.Proofs.Regex.Extended.Lookahead

/-! # Builders that look ahead

A builder that is told to match one text if another one follows, or if it does not follow. The second text is looked
at and not taken: the pattern finds the first text alone, at the first offset where the one is followed by the other
or is not (`find_lookahead`).
-/

namespace PatternComposer

namespace Text

variable {cs part : List Char} {offset index : Nat}

/-- The text continues with this part from a byte offset on. -/
def ContinuesAt (cs : List Char) (offset : Nat) (part : List Char) : Prop :=
  ∃ before after, cs = before ++ part ++ after ∧ byteLength before = offset

theorem byteOffset_inj {other : Nat} (inside : index ≤ cs.length) (within : other ≤ cs.length)
    (same : byteOffset cs index = byteOffset cs other) : index = other := by
  apply Nat.le_antisymm
  · exact (byteOffset_le_iff inside).mp (Nat.le_of_eq same)
  · exact (byteOffset_le_iff within).mp (Nat.le_of_eq same.symm)

theorem byteOffset_add (starts : part <+: cs.drop index) :
    byteOffset cs (index + part.length) = byteOffset cs index + byteLength part := by
  obtain ⟨rest, split⟩ := starts
  rw [byteOffset, List.take_add, ← split, List.take_left, byteLength_append, byteOffset]

theorem continuesAt_iff :
    ContinuesAt cs offset part ↔ ∃ index ≤ cs.length, byteOffset cs index = offset ∧
      part <+: cs.drop index := by
  constructor
  · rintro ⟨before, after, rfl, rfl⟩
    refine ⟨before.length, ?_, ?_, after, ?_⟩
    · simp only [List.length_append]
      omega
    · rw [byteOffset, List.append_assoc, List.take_left]
    · rw [List.append_assoc, List.drop_left]
  · rintro ⟨index, _, rfl, rest, split⟩
    refine ⟨cs.take index, rest, ?_, rfl⟩
    rw [List.append_assoc, split, List.take_append_drop]

theorem continuesAt_byteOffset_iff (inside : index ≤ cs.length) :
    ContinuesAt cs (byteOffset cs index) part ↔ part <+: cs.drop index := by
  rw [continuesAt_iff]
  constructor
  · rintro ⟨other, within, same, starts⟩
    rwa [byteOffset_inj within inside same] at starts
  · exact fun starts => ⟨index, inside, rfl, starts⟩

end Text

/-- The first match of this many bytes that begins at one of the starts, if there is any. -/
def Match.IsFirst (starts : Set Nat) (width : Nat) : Option Match → Prop
  | none => starts = ∅
  | some m => IsLeast starts m.start ∧ m.stop = m.start + width

namespace Pattern

/-- What is first in characters is first in bytes. -/
theorem isFirst_toMatch {cs part : List Char} {starts : Set Nat} (stands : ∀ start ∈ starts, part <+: cs.drop start)
    {found : Option Regex.Span} (first : Regex.Span.IsFirst starts part.length found) :
    Match.IsFirst (Text.byteOffset cs '' starts) (Text.byteLength part) (found.map (toMatch cs)) := by
  cases found with
  | none => exact (congrArg _ first).trans (Set.image_empty _)
  | some span =>
    obtain ⟨least, stop⟩ := first
    have mono : Monotone (Text.byteOffset cs) := fun _ _ le => Text.byteOffset_mono cs le
    refine ⟨mono.map_isLeast least, ?_⟩
    change Text.byteOffset cs span.stop = Text.byteOffset cs span.start + Text.byteLength part
    rw [stop, Text.byteOffset_add (stands span.start least.1)]

end Pattern

/-! ## The calls -/

namespace Builder

open Regex (Sign)
open Regex.Extended (lookaheadText LooksAhead)

/-- The calls for a text and a lookahead for another one behind it. -/
def lookaheadCalls (negated : Bool) (first second : String) : List Call :=
  [.operation .matchesText [.text first],
    .operation (if negated then .ifNotFollowedBy else .ifFollowedBy) [],
    .operation .matchesText [.text second],
    .operation (if negated then .endNegatedLookAhead else .matchEnd) []]

/-- The byte offsets where a text continues with the first text and the second one behind it, or with the first one and
without the second. -/
def lookaheadStarts (first second cs : List Char) : Bool → Set Nat
  | false => {offset | Text.ContinuesAt cs offset (first ++ second)}
  | true => {offset | Text.ContinuesAt cs offset first ∧ ¬ Text.ContinuesAt cs offset (first ++ second)}

theorem image_startsFrom (negated : Bool) (first second cs : List Char) :
    Text.byteOffset cs '' Regex.Extended.Plan.startsFrom (LooksAhead negated first second cs) cs.length 0 =
      lookaheadStarts first second cs negated := by
  ext offset
  constructor
  · rintro ⟨index, ⟨_, inside, starts, follows⟩, rfl⟩
    have both : Text.ContinuesAt cs (Text.byteOffset cs index) (first ++ second) ↔ negated = false :=
      (Text.continuesAt_byteOffset_iff inside).trans follows
    cases negated with
    | false => exact both.mpr rfl
    | true => exact ⟨(Text.continuesAt_byteOffset_iff inside).mpr starts,
        fun continues => by simpa using both.mp continues⟩
  · intro member
    cases negated with
    | false =>
      obtain ⟨index, inside, rfl, starts⟩ := Text.continuesAt_iff.mp member
      exact ⟨index, ⟨Nat.zero_le _, inside, (List.prefix_append first second).trans starts,
        iff_of_true starts rfl⟩, rfl⟩
    | true =>
      obtain ⟨continues, missing⟩ := member
      obtain ⟨index, inside, rfl, starts⟩ := Text.continuesAt_iff.mp continues
      rw [Text.continuesAt_byteOffset_iff inside] at missing
      exact ⟨index, ⟨Nat.zero_le _, inside, starts, iff_of_false missing (by decide)⟩, rfl⟩

/-- The builder behind the calls. -/
def lookahead (negated strict wrap : Bool) (first second : String) : Builder :=
  { ofSettings { Settings.initial with groupValidation := strict, wrapTextInsideGroup := wrap } with
    pattern := "" ++ textFragment wrap first ++ (if negated then "(?!" else "(?=") ++ textFragment wrap second ++ ")" }

theorem foldlM_lookaheadCalls (negated strict wrap : Bool) (first second : String) :
    (lookaheadCalls negated first second).foldlM Call.perform
        (ofSettings { Settings.initial with groupValidation := strict, wrapTextInsideGroup := wrap }) =
      .ok (lookahead negated strict wrap first second) := by
  cases negated <;> cases strict <;> rfl

theorem build_lookahead (negated strict wrap : Bool) (first second : String) :
    (lookahead negated strict wrap first second).build =
      Pattern.compile (lookahead negated strict wrap first second).pattern .empty := by
  cases strict <;> rfl

theorem toList_lookahead (negated strict wrap : Bool) {first second : String} (nonempty : first ≠ "")
    (nonempty' : second ≠ "") :
    (lookahead negated strict wrap first second).pattern.toList =
      lookaheadText negated wrap first.toList second.toList := by
  have fragment {text : String} (filled : text ≠ "") :
      (textFragment wrap text).toList = Sign.write (Regex.Choice.textSigns wrap text.toList) := by
    have written := toList_textFragment wrap (show text.toList ≠ [] by simpa using filled)
    rwa [String.ofList_toList] at written
  cases negated <;> simp [lookahead, lookaheadText, fragment nonempty, fragment nonempty', Sign.text]

/-- A lookahead constrains a match and takes nothing. Patterns for a text that another one has to follow, and for one
that it must not follow, need the backtracking search. They find the first text alone, at the least byte offset where
the text to be searched continues with it and with what follows or does not follow, and they find nothing exactly if
there is no such offset. Only in texts of nearly as many characters as the search may backtrack it can give up. -/
theorem find_lookahead (negated strict wrap : Bool) {first second : String} (nonempty : first ≠ "")
    (faithful : ∀ c ∈ first.toList, c ∉ Sign.copied) (nonempty' : second ≠ "")
    (faithful' : ∀ c ∈ second.toList, c ∉ Sign.copied) :
    ∃ b, (lookaheadCalls negated first second).foldlM Call.perform
        (ofSettings { Settings.initial with groupValidation := strict, wrapTextInsideGroup := wrap }) = .ok b ∧
      ∀ p, b.build = .ok p → p.isBacktracking = true ∧ ∀ text : String,
        (∃ found, p.find text = .ok found ∧
          Match.IsFirst (lookaheadStarts first.toList second.toList text.toList negated)
            (Text.byteLength first.toList) found) ∨
        (p.find text = .error (.engine .gaveUp) ∧ Regex.Extended.Plan.backtrackLimit < text.length + 2) := by
  refine ⟨lookahead negated strict wrap first second, foldlM_lookaheadCalls .., fun p built => ?_⟩
  rw [build_lookahead] at built
  obtain ⟨_, unflagged, read⟩ := Pattern.compile_eq_ok built
  have given : Pattern.engineText (lookahead negated strict wrap first second).pattern .empty =
      lookaheadText negated wrap first.toList second.toList := by
    change Dialect.toEngine _ = _
    rw [toList_lookahead negated strict wrap nonempty nonempty',
      Regex.Extended.toEngine_lookahead negated wrap faithful faithful']
  rw [given] at read
  have spec := Regex.Extended.find_lookahead_text (by simpa using nonempty) faithful
    (by simpa using nonempty') faithful' read
  refine ⟨(spec []).1, fun text => ?_⟩
  rw [Pattern.find_of_unflagged unflagged]
  obtain ⟨gaveUp, short⟩ | ⟨found, answer, least⟩ := (spec text.toList).2
  · rw [gaveUp]
    exact .inr ⟨rfl, short⟩
  · rw [answer, ← image_startsFrom]
    exact .inl ⟨_, rfl, Pattern.isFirst_toMatch (fun start member => member.2.2.1) least⟩

/-- Of two places that overlap only the second one is followed by the other text. -/
theorem find_lookahead_of_overlap :
    "aa" ≠ "" ∧ (∀ c ∈ "aa".toList, c ∉ Sign.copied) ∧ "b" ≠ "" ∧
      (∀ c ∈ "b".toList, c ∉ Sign.copied) ∧
      ∃ b, (lookaheadCalls false "aa" "b").foldlM Call.perform
          (ofSettings { Settings.initial with groupValidation := true, wrapTextInsideGroup := true }) = .ok b ∧
        ∃ p, b.build = .ok p ∧ p.isBacktracking = true ∧
          ∃ m, p.find "éaaab" = .ok (some m) ∧ m.start = 3 ∧ m.stop = 5 := by
  have faithful : ∀ c ∈ "aa".toList, c ∉ Sign.copied := by simp [Sign.copied]
  have faithful' : ∀ c ∈ "b".toList, c ∉ Sign.copied := by simp [Sign.copied]
  obtain ⟨b, performed, spec⟩ := find_lookahead false true true (by decide) faithful (by decide) faithful'
  obtain rfl : lookahead false true true "aa" "b" = b :=
    Except.ok.inj ((foldlM_lookaheadCalls false true true "aa" "b").symm.trans performed)
  obtain ⟨p, built⟩ : ∃ p, (lookahead false true true "aa" "b").build = .ok p := by
    have accepted : (Regex.Matcher.ofText?
        (Pattern.engineText (lookahead false true true "aa" "b").pattern .empty)).isSome := by cbv
    obtain ⟨matcher, read⟩ := Option.isSome_iff_exists.mp accepted
    refine ⟨⟨(lookahead false true true "aa" "b").pattern, .empty, matcher⟩, ?_⟩
    rw [build_lookahead, Pattern.compile, read]
    rfl
  have least : IsLeast (lookaheadStarts "aa".toList "b".toList "éaaab".toList false) 3 := by
    refine ⟨⟨['é', 'a'], [], by decide, by decide⟩, fun offset member => ?_⟩
    obtain ⟨index, _, rfl, starts⟩ := Text.continuesAt_iff.mp member
    have later : 2 ≤ index := by
      by_contra early
      obtain rfl | rfl : index = 0 ∨ index = 1 := by omega
      · exact absurd starts (by decide)
      · exact absurd starts (by decide)
    have reached := Text.byteOffset_mono "éaaab".toList later
    rwa [show Text.byteOffset "éaaab".toList 2 = 3 by decide] at reached
  obtain ⟨hard, answers⟩ := spec p built
  obtain ⟨found, answer, first⟩ | ⟨_, long⟩ := answers "éaaab"
  · cases found with
    | none => exact absurd (first ▸ least.1 : 3 ∈ (∅ : Set Nat)) (Set.notMem_empty 3)
    | some m =>
      have start : m.start = 3 := first.1.unique least
      refine ⟨by decide, faithful, by decide, faithful', _, performed, p, built, hard, m, answer, start, ?_⟩
      rw [first.2, start]
      decide
  · exact absurd long (by decide)

end Builder
end PatternComposer
