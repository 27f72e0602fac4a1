import PatternComposer.Proofs.Builder.Run
import PatternComposer.Proofs.Regex.Extended.Choices

/-! # Builders of repeated texts

A builder that is told to match one of several texts, each so many times in a row, from the start
of a line to its end. What it writes are the signs of the choices, so the pattern matches the texts
that one of the choices allows and no others.
-/

namespace PatternComposer

/-- Without flags, a pattern finds what its matcher finds. -/
theorem Pattern.find_of_unflagged {p : Pattern} (unflagged : p.flags = .empty) (text : String) :
    p.find text = match p.matcher.find text.toList.toArray 0 with
      | some found => .ok (found.map (toMatch text.toList))
      | none => .error (.engine .gaveUp) := by
  have first : Text.charIndex text.toList 0 = 0 := by
    cases text.toList <;> rfl
  have free : p.isSticky = false := by
    rw [isSticky, unflagged]
    rfl
  rw [find, findAt, first]
  cases p.matcher.find text.toList.toArray 0 with
  | none => rfl
  | some found => cases found <;> simp [free, Except.map]

namespace Builder

open Regex (Choice Sign)

/-- The calls for one choice. -/
def choiceCalls (choice : Choice) : List Call :=
  [.operation .matchesText [.text (String.ofList choice.text)],
    .operation .matchesTimes [.number choice.least, .number choice.most]]

/-- The calls for choices between the start and the end of a line, in a group of either kind. -/
def wholeCalls (captured : Bool) (choices : List Choice) : List Call :=
  .operation .beginLine [] ::
    .operation (if captured then .beginGroup else .beginNonCapturedGroup) [] ::
      (List.intercalate [.operation .or []] (choices.map choiceCalls) ++
        [.operation .endGroup [], .operation .endLine []])

/-- All calls succeed one after the other, and append the signs. -/
def Writes (settings : Settings) (calls : List Call) (signs : List Sign) : Prop :=
  ∀ b : Builder, b.settings = settings → ∃ pattern, calls.foldlM Call.perform b =
    .ok { b with pattern := pattern } ∧ pattern.toList = b.pattern.toList ++ Sign.write signs

namespace Writes

variable {settings : Settings}

theorem append {calls more : List Call} {signs others : List Sign} (first : Writes settings calls signs)
    (second : Writes settings more others) : Writes settings (calls ++ more) (signs ++ others) := by
  intro b same
  obtain ⟨pattern, performed, written⟩ := first b same
  obtain ⟨result, later, appended⟩ := second { b with pattern := pattern } same
  refine ⟨result, ?_, ?_⟩
  · rw [List.foldlM_append, performed]
    exact later
  · rw [appended, written, Sign.write_append, List.append_assoc]

/-- A call that appends a fragment writes the signs that spell it. -/
theorem of_push {call : Call} {signs : List Sign} {fragment : String}
    (performed : ∀ b : Builder, b.settings = settings → call.perform b = .ok (b.push fragment))
    (spelled : fragment.toList = Sign.write signs) : Writes settings [call] signs := by
  intro b same
  refine ⟨b.pattern ++ fragment, ?_, ?_⟩
  · rw [List.foldlM_cons, performed b same]
    rfl
  · rw [String.toList_append, spelled]

end Writes

theorem write_chars (text : List Char) : Sign.write (Choice.chars text) = Text.escape text := by
  induction text with
  | nil => rfl
  | cons c rest ih =>
    rw [Choice.chars, List.map_cons, Sign.write_cons, Sign.text]
    change _ ++ Sign.write (Choice.chars rest) = _
    rw [ih, ← Text.escape_append]
    rfl

theorem toList_textFragment (wrap : Bool) {text : List Char} (nonempty : text ≠ []) :
    (textFragment wrap (String.ofList text)).toList = Sign.write (Choice.textSigns wrap text) := by
  have filled : (String.ofList text).isEmpty = false := by simp [nonempty]
  have escaped : (Text.escapeString (String.ofList text)).toList = Text.escape text := by
    simp [Text.escapeString]
  rw [textFragment, filled, Choice.textSigns]
  cases wrap with
  | true => simp [escaped, write_chars, Sign.text]
  | false =>
    by_cases lone : text.length = 1
    · simp [lone, escaped, write_chars]
    · simp [lone, escaped, write_chars, Sign.text]

theorem writes_choice {settings : Settings} {choice : Choice} (nonempty : choice.text ≠ []) :
    Writes settings (choiceCalls choice) (choice.signs settings.wrapTextInsideGroup) := by
  have text : Writes settings [.operation .matchesText [.text (String.ofList choice.text)]]
      (Choice.textSigns settings.wrapTextInsideGroup choice.text) := by
    refine .of_push (fun b same => ?_) (toList_textFragment _ nonempty)
    subst same
    rfl
  have times : Writes settings [.operation .matchesTimes [.number choice.least, .number choice.most]]
      [.times choice.least choice.most] := by
    refine .of_push (fun b _ => rfl) ?_
    simp [Sign.text]
  exact text.append times

theorem writes_choices {settings : Settings} {choices : List Choice}
    (wellFormed : ∀ choice ∈ choices, choice.WellFormed) :
    Writes settings (List.intercalate [.operation .or []] (choices.map choiceCalls))
      (List.intercalate [.bar] (choices.map (Choice.signs settings.wrapTextInsideGroup))) := by
  have bar : Writes settings [.operation .or []] [.bar] := .of_push (fun _ _ => rfl) rfl
  induction choices with
  | nil => exact fun b _ => ⟨b.pattern, rfl, by simp⟩
  | cons choice rest ih =>
    have first : Writes settings _ _ := writes_choice (wellFormed choice List.mem_cons_self).nonempty
    have later := ih fun other member => wellFormed other (List.mem_cons_of_mem _ member)
    cases rest with
    | nil => rwa [List.map_singleton, List.map_singleton, List.intercalate_singleton, List.intercalate_singleton]
    | cons second more =>
      rw [List.map_cons, List.map_cons, List.map_cons, List.map_cons, List.intercalate_cons_cons,
        List.intercalate_cons_cons]
      exact (first.append bar).append later

/-- The calls succeed, leave nothing open and write the signs of the choices between anchors. -/
theorem foldlM_wholeCalls (settings : Settings) {choices : List Choice}
    (wellFormed : ∀ choice ∈ choices, choice.WellFormed) (captured : Bool) :
    ∃ b, (wholeCalls captured choices).foldlM Call.perform (ofSettings settings) = .ok b ∧
      b.settings = settings ∧ b.nesting = .empty ∧
      b.pattern.toList = Sign.write (Choice.wholeSigns captured settings.wrapTextInsideGroup choices) := by
  let opened : Builder := if captured then (ofSettings settings).beginLine.beginGroup
    else (ofSettings settings).beginLine.beginNonCapturedGroup
  have opens : (wholeCalls captured choices).foldlM Call.perform (ofSettings settings) =
      (List.intercalate [Call.operation .or []] (choices.map choiceCalls) ++
        [Call.operation .endGroup [], Call.operation .endLine []]).foldlM Call.perform opened := by
    cases captured <;> rfl
  have same : opened.settings = settings ∧ opened.nesting = ⟨[.group]⟩ ∧
      opened.pattern.toList = Sign.write [.start, .opening captured] := by
    cases captured <;> refine ⟨rfl, rfl, ?_⟩ <;>
      simp [opened, ofSettings, beginLine, push, beginGroup, beginNonCapturedGroup, opening, Sign.text]
  obtain ⟨pattern, performed, written⟩ := writes_choices wellFormed opened same.1
  refine ⟨{ opened with pattern := pattern ++ ")" ++ "$", nesting := .empty }, ?_, same.1, rfl, ?_⟩
  · rw [opens, List.foldlM_append, performed]
    have closes : ({ opened with pattern := pattern } : Builder).closing .group =
        .ok { opened with pattern := pattern ++ ")", nesting := .empty } := by
      have popped : opened.nesting.pop .group opened.settings.groupValidation = .ok .empty :=
        Nesting.pop_eq_ok_iff.mpr ⟨fun _ => by rw [same.2.1]; rfl, by rw [same.2.1]; rfl⟩
      rw [closing, popped]
      rfl
    change (({ opened with pattern := pattern } : Builder).closing .group).bind _ = _
    rw [closes]
    rfl
  · change (pattern ++ ")" ++ "$").toList = _
    simp [written, same.2.2, Choice.wholeSigns, Sign.text]

/-- Without flags, a pattern of the plain dialect matches if its search finds anything. -/
theorem isMatch_plain (source : String) (program : Regex.Program) (groups : Nat) (text : String) :
    Pattern.isMatch ⟨source, .empty, .plain program groups⟩ text =
      .ok (program.search? text.toList.toArray 0).isSome := by
  rw [Pattern.isMatch, Pattern.find_of_unflagged rfl]
  simp only [Regex.Matcher.find, Regex.Matcher.findPlain?]
  cases program.search? text.toList.toArray 0 <;> rfl

/-- What a builder builds matches exactly these texts, and what it cannot build is too large. -/
def BuildsExactly (b : Builder) (allowed : List Char → Prop) : Prop :=
  ∃ tree, Regex.Tree.ofText? (Pattern.engineText b.source .empty) = some tree ∧
    (∀ e, b.build = .error e → e = .engine .refused ∧ tree.node.fits = false) ∧
    ∀ p, b.build = .ok p → ∀ text, ∃ found, p.isMatch text = .ok found ∧
      (found = true ↔ allowed text.toList)

/-- Texts that are repeated, scoped and separated by the builder match themselves and nothing
else. -/
theorem wholeCalls_buildsExactly (strict wrap captured : Bool) {choices : List Choice}
    (nonempty : choices ≠ []) (wellFormed : ∀ choice ∈ choices, choice.WellFormed) :
    ∃ b, (wholeCalls captured choices).foldlM Call.perform
        (ofSettings { Settings.initial with groupValidation := strict, wrapTextInsideGroup := wrap }) = .ok b ∧
      b.BuildsExactly fun text => ∃ choice ∈ choices, choice.Allows text := by
  obtain ⟨b, performed, settings, nesting, written⟩ := foldlM_wholeCalls
    { Settings.initial with groupValidation := strict, wrapTextInsideGroup := wrap } wellFormed captured
  obtain ⟨groups, plain⟩ := Choice.ofText?_whole wellFormed nonempty captured wrap
  obtain ⟨count, matcher⟩ := Regex.Extended.ofText?_whole wellFormed nonempty captured wrap
  have source : b.source.toList = Sign.write (Choice.wholeSigns captured wrap choices) := by
    rw [Builder.source, settings]
    exact written
  have engine : Pattern.engineText b.source .empty = Sign.write (Choice.wholeSigns captured wrap choices) := by
    change Dialect.toEngine b.source.toList = _
    rw [source]
    exact Sign.toEngine_write (Choice.faithful_whole wellFormed captured wrap)
  have builds : b.build = Pattern.compile b.source .empty := by
    rw [build, buildWithFlags, nesting, settings]
    cases strict <;> rfl
  have compiles : Pattern.compile b.source .empty =
      ((Regex.Matcher.ofText? (Sign.write (Choice.wholeSigns captured wrap choices))).map fun matcher =>
        .ok ⟨b.source, .empty, matcher⟩).getD (.error (.engine .refused)) := by
    rw [Pattern.compile, engine]
    cases Regex.Matcher.ofText? (Sign.write (Choice.wholeSigns captured wrap choices)) <;> rfl
  refine ⟨b, performed, ⟨Choice.whole captured wrap choices, groups⟩, engine ▸ plain, ?_, ?_⟩
  · intro e failed
    rw [builds, compiles, matcher] at failed
    split at failed
    · cases failed
    · next large =>
      cases failed
      exact ⟨rfl, Bool.eq_false_iff.mpr large⟩
  · intro p built text
    rw [builds, compiles, matcher] at built
    split at built
    · cases built
      exact ⟨_, isMatch_plain .., Choice.search?_whole wellFormed nonempty captured wrap text.toList⟩
    · cases built

/-- Two letters once or twice, or a dot that may be missing. The pattern is built, and matches what is repeated and
nothing that is mixed. -/
theorem wholeCalls_buildsExactly_of_two :
    let choices : List Choice := [⟨['a', 'b'], 1, 2⟩, ⟨['.'], 0, 1⟩]
    let settings : Settings := { Settings.initial with groupValidation := true, wrapTextInsideGroup := false }
    let b := (ofSettings settings).push "^((?:ab){1,2}|\\.{0,1})$"
    choices ≠ [] ∧ (∀ choice ∈ choices, choice.WellFormed) ∧
      (wholeCalls true choices).foldlM Call.perform (ofSettings settings) = .ok b ∧
      ∃ p, b.build = .ok p ∧ p.isMatch "abab" = .ok true ∧ p.isMatch "" = .ok true ∧
        p.isMatch "ab." = .ok false := by
  intro choices settings b
  have nonempty : choices ≠ [] := by simp [choices]
  have wellFormed : ∀ choice ∈ choices, choice.WellFormed := by
    intro choice member
    simp only [choices, List.mem_cons, List.not_mem_nil, or_false] at member
    rcases member with rfl | rfl
    · exact ⟨by decide, by simp [Regex.Sign.copied], by decide⟩
    · exact ⟨by decide, by simp [Regex.Sign.copied], by decide⟩
  obtain ⟨after, performed, tree, read, refused, answers⟩ :=
    wholeCalls_buildsExactly true false true nonempty wellFormed
  have same : (wholeCalls true choices).foldlM Call.perform (ofSettings settings) = .ok b := by cbv
  obtain rfl : b = after := Except.ok.inj (same.symm.trans performed)
  have small : (Regex.Tree.ofText? (Pattern.engineText b.source .empty)).map (·.node.fits) = some true := by cbv
  rw [read, Option.map_some, Option.some_inj] at small
  cases built : b.build with
  | error e => exact absurd small (by simp [(refused e built).2])
  | ok p =>
    have matched (text : String) (allowed : ∃ choice ∈ choices, choice.Allows text.toList) :
        p.isMatch text = .ok true := by
      obtain ⟨found, answer, exactly⟩ := answers p built text
      rw [answer, exactly.mpr allowed]
    refine ⟨nonempty, wellFormed, same, p, rfl, matched "abab" ?_, matched "" ?_, ?_⟩
    · exact ⟨⟨['a', 'b'], 1, 2⟩, by simp [choices], 2, by decide⟩
    · exact ⟨⟨['.'], 0, 1⟩, by simp [choices], 0, by decide⟩
    · obtain ⟨found, answer, exactly⟩ := answers p built "ab."
      have mixed : ¬ ∃ choice ∈ choices, choice.Allows "ab.".toList := by
        rintro ⟨choice, member, count, _, most, text⟩
        -- no number of repetitions has three characters
        have size := congrArg List.length text
        simp only [choices, List.mem_cons, List.not_mem_nil, or_false] at member
        rcases member with rfl | rfl <;> simp at size most <;> omega
      rw [answer, Bool.eq_false_iff.mpr fun positive => mixed (exactly.mp positive)]

end Builder
end PatternComposer
