import PatternComposer.Proofs.Pattern.Choices
import PatternComposer.Proofs.Pattern.Items

/-! # Calls that keep their meaning

Calls append their fragments with nothing in between. For calls that stand for one character, refer
to a group or match literal text, the engine is given the items of one call after those of the
other, as if each call had been translated by itself, unless a literal digit that is not grouped
follows the null character or a reference: then the digit becomes part of the escape, and the null
character or the group is no longer meant. `items_engineText` says that this is the only exception.
-/

namespace PatternComposer.Builder

open Regex (Choice Sign)
open Regex.Extended (items?)
open Dialect (Separable Apart referenceItem ReadsReference startsWithDigit)

/-- The operations without arguments that match one character. -/
def characterOperations : List Operation := [
  .matchesAny, .matchesDigit, .matchesNonDigit, .matchesFormFeed, .matchesLineFeed,
  .matchesCarriageReturn, .matchesWhiteSpace, .matchesNotWhiteSpace, .matchesTab,
  .matchesVerticalTab, .matchesAlphanumeric, .matchesNonAlphanumeric, .matchesNull, .matchesLetter,
  .matchesUppercaseLetter, .matchesLowercaseLetter, .matchesBackspace]

/-- A call that matches one character, what a group captured, or a text that escaping makes
literal. -/
inductive Plain : Call → Prop where
  | character {operation : Operation} (member : operation ∈ characterOperations) :
      Plain (.operation operation [])
  | reference (n : UInt32) : Plain (.operation .useGroup [.number n])
  | text {operation : Operation} {text : String}
      (literal : operation = .matchesText ∨ operation = .matchesCapturedText) (nonempty : text ≠ "")
      (faithful : ∀ c ∈ text.toList, c ∉ Sign.copied) : Plain (.operation operation [.text text])

/-- A call that writes a decimal escape. The null character is written as a reference to group
zero. -/
inductive Refers : Call → UInt32 → Prop where
  | null : Refers (.operation .matchesNull []) 0
  | group (n : UInt32) : Refers (.operation .useGroup [.number n]) n

/-- A call that writes a digit by itself. -/
def WritesDigit (settings : Settings) (call : Call) : Prop :=
  settings.wrapTextInsideGroup = false ∧
    ∃ c : Char, c.isDigit = true ∧ call = .operation .matchesText [.text (String.ofList [c])]

/-- The second call changes what the first one means. -/
def Clash (settings : Settings) (first second : Call) : Prop :=
  (∃ n, Refers first n) ∧ WritesDigit settings second

/-- What the engine is given for the pattern of a run. -/
def engineText (settings : Settings) (calls : List Call) : List Char :=
  Dialect.toEngine ((ofSettings settings).run calls).pattern.toList

/-! ## One call -/

/-- What a call writes, and the items that the engine is given for it. -/
structure Spells (settings : Settings) (call : Call) (decimal : Bool) (text : List Char)
    (items : List (List Char)) : Prop where
  performed (b : Builder) (same : b.settings = settings) :
    ∃ fragment, call.perform b = .ok (b.push fragment) ∧ fragment.toList = text
  nonempty : text ≠ []
  separable : Separable decimal text items
  refers : decimal = true → ∃ n, Refers call n
  reference (n : UInt32) (refers : Refers call n) :
    text = '\\' :: Nat.toDigits 10 n.toNat ∧ items = [referenceItem n.toNat]
  digit : startsWithDigit text = true → WritesDigit settings call

/-- A fragment that is one item whatever stands behind it, and is given to the engine as this item. -/
structure Fixed (fragment : String) (item : List Char) : Prop where
  nonempty : item ≠ []
  noDigit : startsWithDigit fragment.toList = false
  spelled (rest : List Char) :
    Dialect.toEngineFrom false (fragment.toList ++ rest) = item ++ Dialect.toEngineFrom false rest
  read (rest : List Char) : Regex.Extended.afterItem? (item ++ rest) = some rest

theorem Fixed.copied {fragment : String} (nonempty : fragment.toList ≠ [])
    (noDigit : startsWithDigit fragment.toList = false)
    (spelled : ∀ rest,
      Dialect.toEngineFrom false (fragment.toList ++ rest) = fragment.toList ++ Dialect.toEngineFrom false rest)
    (read : ∀ rest, Regex.Extended.afterItem? (fragment.toList ++ rest) = some rest) :
    Fixed fragment fragment.toList :=
  ⟨nonempty, noDigit, spelled, read⟩

/-- Only the backspace is spelled differently for the engine. -/
theorem fixed_character {operation : Operation} (member : operation ∈ characterOperations)
    (notNull : operation ≠ .matchesNull) :
    ∃ fragment, Effect.ofNullary? operation = some (.append fragment) ∧ ∃ item, Fixed fragment item := by
  cases operation with
  | matchesNull => exact absurd rfl notNull
  | matchesBackspace => exact ⟨_, rfl, "[\\x08]".toList, by decide, rfl, fun _ => rfl, fun _ => rfl⟩
  | matchesAny | matchesDigit | matchesNonDigit | matchesFormFeed | matchesLineFeed
  | matchesCarriageReturn | matchesWhiteSpace | matchesNotWhiteSpace | matchesTab
  | matchesVerticalTab | matchesAlphanumeric | matchesNonAlphanumeric | matchesLetter
  | matchesUppercaseLetter | matchesLowercaseLetter =>
    refine ⟨_, rfl, ?_⟩
    exact ⟨_, .copied (by decide) rfl (fun _ => rfl) fun _ => rfl⟩
  | _ => exact absurd member (by decide)

theorem escape_ne_nil {text : List Char} (nonempty : text ≠ []) : Text.escape text ≠ [] := by
  obtain ⟨c, rest, rfl⟩ := List.exists_cons_of_ne_nil nonempty
  rw [Text.escape]
  split <;> exact List.cons_ne_nil _ _

/-- Only a digit that is not grouped begins with a digit. -/
theorem startsWithDigit_textSigns {wrap : Bool} {text : List Char}
    (starts : startsWithDigit (Sign.write (Choice.textSigns wrap text)) = true) :
    wrap = false ∧ ∃ c : Char, c.isDigit = true ∧ text = [c] := by
  rw [Choice.textSigns] at starts
  split at starts
  · next lone =>
    simp only [Bool.and_eq_true, Bool.not_eq_true', beq_iff_eq] at lone
    obtain ⟨c, rfl⟩ := List.length_eq_one_iff.mp lone.2
    refine ⟨lone.1, c, ?_, rfl⟩
    rw [write_chars, Text.escape] at starts
    split at starts
    · exact absurd starts Bool.false_ne_true
    · exact starts
  · cases wrap <;> exact absurd starts Bool.false_ne_true

theorem Refers.unique {call : Call} {n m : UInt32} (first : Refers call n) (second : Refers call m) : n = m := by
  cases first <;> cases second <;> rfl

theorem spells_reference (settings : Settings) {call : Call} {n : UInt32} (refers : Refers call n) :
    Spells settings call true ('\\' :: Nat.toDigits 10 n.toNat) [referenceItem n.toNat] where
  performed b same := by
    cases refers with
    | null => exact ⟨"\\0", rfl, rfl⟩
    | group n => exact ⟨"\\" ++ toString n.toNat, rfl, by simp⟩
  nonempty := List.cons_ne_nil _ _
  separable := Dialect.separable_reference n.toNat
  refers _ := ⟨n, refers⟩
  reference m other := by
    rw [other.unique refers]
    exact ⟨rfl, rfl⟩
  digit starts := absurd starts Bool.false_ne_true

theorem spells_character (settings : Settings) {operation : Operation} (member : operation ∈ characterOperations)
    (notNull : operation ≠ .matchesNull) :
    ∃ text items, Spells settings (.operation operation []) false text items := by
  obtain ⟨fragment, effect, item, fixed⟩ := fixed_character member notNull
  refine ⟨fragment.toList, [item], fun b same => ⟨fragment, ?_, rfl⟩, ?_,
    .single fixed.nonempty (fun rest _ => fixed.spelled rest) fun rest _ => fixed.read rest,
    fun never => absurd never Bool.false_ne_true, fun n refers => ?_, fun starts => ?_⟩
  · rw [Call.perform, apply_eq_perform, Effect.ofCall_nil_eq_ok_iff.mpr effect]
    rfl
  · intro empty
    have spelled := fixed.spelled []
    rw [empty, List.nil_append, Dialect.toEngineFrom, List.append_nil] at spelled
    exact fixed.nonempty spelled.symm
  · cases refers
    exact absurd rfl notNull
  · rw [fixed.noDigit] at starts
    exact absurd starts Bool.false_ne_true

theorem spells_text (settings : Settings) {operation : Operation} {text : String}
    (literal : operation = .matchesText ∨ operation = .matchesCapturedText) (nonempty : text ≠ "")
    (faithful : ∀ c ∈ text.toList, c ∉ Sign.copied) :
    ∃ written items, Spells settings (.operation operation [.text text]) false written items := by
  have filled : text.toList ≠ [] := by simpa using nonempty
  have written (wrap : Bool) : (textFragment wrap text).toList = Sign.write (Choice.textSigns wrap text.toList) := by
    rw [← toList_textFragment wrap filled, String.ofList_toList]
  have noReference : ∀ n, ¬ Refers (.operation operation [.text text]) n := fun n refers => by cases refers
  have spells (wrap : Bool) (performed : ∀ b : Builder, b.settings = settings →
      Call.perform b (.operation operation [.text text]) = .ok (b.push (textFragment wrap text)))
      (digit : wrap = false → ∀ c : Char, c.isDigit = true → text = String.ofList [c] →
        WritesDigit settings (.operation operation [.text text])) :
      ∃ written items, Spells settings (.operation operation [.text text]) false written items := by
    refine ⟨_, _, fun b same => ⟨_, performed b same, written wrap⟩, ?_,
      Dialect.separable_textSigns wrap filled faithful, fun never => absurd never Bool.false_ne_true,
      fun n refers => absurd refers (noReference n), fun starts => ?_⟩
    · rw [Choice.textSigns]
      split
      · rw [write_chars]
        exact escape_ne_nil filled
      · cases wrap <;> exact List.cons_ne_nil _ _
    · obtain ⟨ungrouped, c, isDigit, same⟩ := startsWithDigit_textSigns starts
      exact digit ungrouped c isDigit (by rw [← same, String.ofList_toList])
  rcases literal with rfl | rfl
  · refine spells settings.wrapTextInsideGroup (fun b same => ?_) fun ungrouped c isDigit same => ?_
    · subst same
      rfl
    · exact ⟨ungrouped, c, isDigit, by rw [same]⟩
  · exact spells true (fun _ _ => rfl) fun never => absurd never.symm Bool.false_ne_true

/-- What a plain call writes does not depend on the calls before it. -/
theorem Plain.spells {call : Call} (plain : Plain call) (settings : Settings) :
    ∃ decimal text items, Spells settings call decimal text items := by
  cases plain with
  | reference n => exact ⟨_, _, _, spells_reference settings (.group n)⟩
  | text literal nonempty faithful => exact ⟨_, spells_text settings literal nonempty faithful⟩
  | @character operation member =>
    by_cases null : operation = .matchesNull
    · subst null
      exact ⟨_, _, _, spells_reference settings .null⟩
    · exact ⟨_, spells_character settings member null⟩

/-! ## All calls -/

/-- What a call appends to the pattern of an empty builder. -/
def fragment (settings : Settings) (call : Call) : List Char :=
  ((ofSettings settings).attempt call).pattern.toList

variable {settings : Settings} {call : Call} {decimal : Bool} {text : List Char} {items : List (List Char)}

theorem Spells.attempt (spells : Spells settings call decimal text items) {b : Builder}
    (same : b.settings = settings) : (b.attempt call).pattern.toList = b.pattern.toList ++ text := by
  obtain ⟨written, performed, rfl⟩ := spells.performed b same
  rw [Builder.attempt, performed]
  exact String.toList_append

theorem Spells.fragment_eq (spells : Spells settings call decimal text items) : fragment settings call = text := by
  rw [fragment, spells.attempt rfl]
  rfl

/-- The pattern of a run is what its calls append one by one. -/
theorem toList_run {b : Builder} {calls : List Call} (plain : ∀ call ∈ calls, Plain call) :
    (b.run calls).pattern.toList = b.pattern.toList ++ calls.flatMap (fragment b.settings) := by
  induction calls generalizing b with
  | nil => simp
  | cons call rest ih =>
    obtain ⟨_, _, _, spells⟩ := (plain call List.mem_cons_self).spells b.settings
    rw [run_cons, ih fun other member => plain other (List.mem_cons_of_mem _ member), attempt_settings,
      spells.attempt rfl, List.flatMap_cons, spells.fragment_eq, List.append_assoc]

theorem engineText_eq (settings : Settings) {calls : List Call} (plain : ∀ call ∈ calls, Plain call) :
    engineText settings calls = Dialect.toEngineFrom false (calls.flatMap (fragment settings)) := by
  rw [engineText, Dialect.toEngine_eq, toList_run plain]
  rfl

/-- Calls that follow each other without a clash. -/
def Clashless (settings : Settings) (calls : List Call) : Prop :=
  calls.IsChain fun first second => ¬ Clash settings first second

/-- A digit behind a call comes from the next call. -/
theorem writesDigit_of_flatMap {calls : List Call} (plain : ∀ call ∈ calls, Plain call)
    (starts : startsWithDigit (calls.flatMap (fragment settings)) = true) :
    ∃ second rest, calls = second :: rest ∧ WritesDigit settings second := by
  cases calls with
  | nil => exact absurd starts Bool.false_ne_true
  | cons second rest =>
    obtain ⟨_, _, _, spells⟩ := (plain second List.mem_cons_self).spells settings
    rw [List.flatMap_cons, spells.fragment_eq, Dialect.startsWithDigit_append_of_ne_nil spells.nonempty] at starts
    exact ⟨second, rest, rfl, spells.digit starts⟩

theorem WritesDigit.startsWithDigit_append (digit : WritesDigit settings call)
    (rest : List Char) : startsWithDigit (fragment settings call ++ rest) = true := by
  obtain ⟨ungrouped, c, isDigit, rfl⟩ := digit
  have bare : Text.isEscaped c = false := by
    by_contra escaped
    rcases (Text.isEscaped_iff c).mp (by simpa using escaped) with
      rfl | rfl | rfl | rfl | rfl | rfl | rfl | rfl | rfl | rfl | rfl <;> exact absurd isDigit (by decide)
  have performed : ((ofSettings settings).attempt (.operation .matchesText [.text (String.ofList [c])])).pattern =
      "" ++ textFragment settings.wrapTextInsideGroup (String.ofList [c]) := rfl
  have written : fragment settings (.operation .matchesText [.text (String.ofList [c])]) = [c] := by
    rw [fragment, performed, ungrouped, String.toList_append, toList_textFragment false (List.cons_ne_nil c [])]
    simp [Choice.textSigns, write_chars, Text.escape, bare]
  rw [written]
  exact isDigit

/-- A call clashes with what follows it exactly if it is a reference in front of a digit. -/
theorem clashless_cons {rest : List Call} (plain : ∀ other ∈ rest, Plain other) :
    Clashless settings (call :: rest) ↔
      ((∃ n, Refers call n) → startsWithDigit (rest.flatMap (fragment settings)) = false) ∧
        Clashless settings rest := by
  rw [Clashless, List.isChain_cons, ← Clashless]
  refine and_congr_left fun _ => ⟨fun noClash refers => ?_, fun noDigit second member clash => ?_⟩
  · by_contra starts
    obtain ⟨second, more, rfl, digit⟩ := writesDigit_of_flatMap plain (by simpa using starts)
    exact noClash second rfl ⟨refers, digit⟩
  · obtain ⟨more, rfl⟩ := List.head?_eq_some_iff.mp member
    have starts := clash.2.startsWithDigit_append (more.flatMap (fragment settings))
    rw [← List.flatMap_cons, noDigit clash.1] at starts
    exact absurd starts Bool.false_ne_true

theorem Spells.items?_engineText (spells : Spells settings call decimal text items) :
    engineText settings [call] = items.flatten ∧ items? (engineText settings [call]) = some items := by
  have alone : engineText settings [call] = Dialect.toEngine text := by
    rw [engineText, run_cons, run_nil]
    exact congrArg _ spells.fragment_eq
  rw [alone]
  exact ⟨spells.separable.toEngine_eq, spells.separable.items?_toEngine⟩

/-- The engine is given what it would be given for the calls one by one. -/
theorem engineText_eq_flatMap {calls : List Call} (plain : ∀ call ∈ calls, Plain call)
    (clashless : Clashless settings calls) :
    engineText settings calls = calls.flatMap fun call => engineText settings [call] := by
  rw [engineText_eq settings plain]
  induction calls with
  | nil => rfl
  | cons call rest ih =>
    have later : ∀ other ∈ rest, Plain other := fun other member => plain other (List.mem_cons_of_mem _ member)
    obtain ⟨_, _, _, spells⟩ := (plain call List.mem_cons_self).spells settings
    obtain ⟨apart, clashless⟩ := (clashless_cons later).mp clashless
    rw [List.flatMap_cons, spells.fragment_eq, spells.separable.spelled fun ends => apart (spells.refers ends),
      ih later clashless, List.flatMap_cons, spells.items?_engineText.1]

/-- The items of a run are those of its calls exactly if no two calls clash. -/
theorem items?_engineText_iff {calls : List Call} (plain : ∀ call ∈ calls, Plain call)
    {own : Call → List (List Char)}
    (owned : ∀ call ∈ calls, items? (engineText settings [call]) = some (own call)) :
    items? (engineText settings calls) = some (calls.flatMap own) ↔ Clashless settings calls := by
  rw [engineText_eq settings plain]
  induction calls with
  | nil => exact iff_of_true Regex.Extended.items?_nil .nil
  | cons call rest ih =>
    have later : ∀ other ∈ rest, Plain other := fun other member => plain other (List.mem_cons_of_mem _ member)
    have induct := ih later fun other member => owned other (List.mem_cons_of_mem _ member)
    obtain ⟨decimal, text, items, spells⟩ := (plain call List.mem_cons_self).spells settings
    have alone := spells.items?_engineText.2
    obtain rfl : items = own call := Option.some.inj (alone.symm.trans (owned call List.mem_cons_self))
    rw [List.flatMap_cons, List.flatMap_cons, spells.fragment_eq, clashless_cons later]
    by_cases apart : (∃ n, Refers call n) → startsWithDigit (rest.flatMap (fragment settings)) = false
    · rw [spells.separable.items?_toEngineFrom fun ends => apart (spells.refers ends), and_iff_right apart, ← induct,
        ← Option.map_some]
      exact (Option.map_injective (List.append_right_injective (own call))).eq_iff
    · refine iff_of_false ?_ fun both => apart both.1
      obtain ⟨⟨n, refers⟩, starts⟩ := Classical.not_imp.mp apart
      obtain ⟨written, item⟩ := spells.reference n refers
      rw [written, item]
      exact Dialect.items?_joined n.toNat (by simpa using starts) _

/-- Without a clash, each reference is read as the group that was meant. -/
theorem readsReference_engineText {before after : List Call}
    (plain : ∀ other ∈ before ++ call :: after, Plain other)
    (clashless : Clashless settings (before ++ call :: after))
    {n : UInt32} (refers : Refers call n) :
    engineText settings (before ++ call :: after) =
        engineText settings before ++ (engineText settings [call] ++ engineText settings after) ∧
      ReadsReference n.toNat (engineText settings [call] ++ engineText settings after) (engineText settings after) := by
  have earlier : ∀ other ∈ before, Plain other := fun other member => plain other (List.mem_append_left _ member)
  have itself : Plain call := plain call (List.mem_append_right _ List.mem_cons_self)
  have later : ∀ other ∈ after, Plain other := fun other member =>
    plain other (List.mem_append_right _ (List.mem_cons_of_mem _ member))
  obtain ⟨front, back, _⟩ := List.isChain_append.mp clashless
  obtain ⟨_, _, _, spells⟩ := itself.spells settings
  refine ⟨?_, ?_⟩
  · rw [engineText_eq_flatMap plain clashless, List.flatMap_append, List.flatMap_cons,
      ← engineText_eq_flatMap earlier front, ← engineText_eq_flatMap later back.tail]
  · have apart : Apart true (engineText settings after) := fun _ => by
      rw [engineText_eq settings later, Dialect.startsWithDigit_toEngineFrom]
      exact ((clashless_cons later).mp back).1 ⟨n, refers⟩
    rw [spells.items?_engineText.1, (spells.reference n refers).2, List.flatten_singleton]
    exact Dialect.readsReference n apart

/-- The engine is given the items of the calls one after the other, each as if its call were alone,
exactly if no digit that is not grouped follows the null character or a reference. Then the null
character is read as itself and every reference as the group with its number, wherever they stand. -/
theorem items_engineText (settings : Settings) {calls : List Call} (plain : ∀ call ∈ calls, Plain call) :
    ∃ own : Call → List (List Char),
      (∀ call ∈ calls, items? (engineText settings [call]) = some (own call)) ∧
      (items? (engineText settings calls) = some (calls.flatMap own) ↔ Clashless settings calls) ∧
      (Clashless settings calls → ∀ before call after n, calls = before ++ call :: after → Refers call n →
        engineText settings calls =
            engineText settings before ++ (engineText settings [call] ++ engineText settings after) ∧
          ReadsReference n.toNat (engineText settings [call] ++ engineText settings after)
            (engineText settings after)) := by
  have owned : ∀ call ∈ calls, items? (engineText settings [call]) =
      some ((items? (engineText settings [call])).getD []) := by
    intro call member
    obtain ⟨_, _, _, spells⟩ := (plain call member).spells settings
    rw [spells.items?_engineText.2, Option.getD_some]
  refine ⟨_, owned, items?_engineText_iff plain owned, fun clashless before call after n split refers => ?_⟩
  subst split
  exact readsReference_engineText plain clashless refers

/-- A letter behind the null character. -/
theorem items_engineText_of_letter :
    (∀ call ∈ [Call.operation .matchesNull [], .operation .matchesText [.text "b"]], Plain call) ∧
      ∃ own : Call → List (List Char),
        (∀ call ∈ [Call.operation .matchesNull [], .operation .matchesText [.text "b"]],
          items? (engineText .initial [call]) = some (own call)) ∧
        items? (engineText .initial [.operation .matchesNull [], .operation .matchesText [.text "b"]]) =
          some (own (.operation .matchesNull []) ++ own (.operation .matchesText [.text "b"])) := by
  have plain : ∀ call ∈ [Call.operation .matchesNull [], .operation .matchesText [.text "b"]], Plain call := by
    intro call member
    simp only [List.mem_cons, List.not_mem_nil, or_false] at member
    rcases member with rfl | rfl
    · exact .character (by decide)
    · exact .text (.inl rfl) (by simp) (by simp [Sign.copied])
  have letter : ¬ WritesDigit .initial (.operation .matchesText [.text "b"]) := by
    rintro ⟨_, c, digit, same⟩
    have written : "b" = String.ofList [c] := by simpa using same
    obtain rfl : 'b' = c := by simpa using congrArg String.toList written
    exact absurd digit (by decide)
  obtain ⟨own, owned, exactly, _⟩ := items_engineText .initial plain
  refine ⟨plain, own, owned, ?_⟩
  rw [exactly.mpr (List.isChain_pair.mpr fun clash => letter clash.2)]
  simp

/-- Behind the null character a digit becomes part of its escape. The pattern is refused, though each
of the two calls is fine by itself. -/
theorem items_engineText_joined :
    items? (engineText .initial [.operation .matchesNull []]) = some [['\\', 'x', '0', '0']] ∧
      items? (engineText .initial [.operation .matchesText [.text "1"]]) = some [['1']] ∧
      items? (engineText .initial [.operation .matchesNull [], .operation .matchesText [.text "1"]]) =
        some [['\\', '0', '1']] ∧
      ((ofSettings .initial).run [.operation .matchesNull [], .operation .matchesText [.text "1"]]).build =
        .error (.engine .refused) := by
  refine ⟨?_, ?_, ?_, rfl⟩
  · exact @Regex.Extended.items?_singleton ['\\', 'x', '0', '0'] (List.cons_ne_nil _ _) rfl
  · exact @Regex.Extended.items?_singleton ['1'] (List.cons_ne_nil _ _) rfl
  · exact @Regex.Extended.items?_singleton ['\\', '0', '1'] (List.cons_ne_nil _ _) rfl

end PatternComposer.Builder
