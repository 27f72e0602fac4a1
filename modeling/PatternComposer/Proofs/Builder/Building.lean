import PatternComposer.Proofs.Builder.InPlace
import PatternComposer.Proofs.Regex.Matcher

/-! # What building gives

A build is checked in a fixed order: open statements first, then the flags, then the engine. `BuildsTo` says
what each outcome stands for, and `buildsTo` that every build has one of them; what the outcomes mean for
each other follows from these two alone.
-/

namespace PatternComposer

namespace Builder

variable {b : Builder} {argument : FlagsArgument} {result : Except Error Pattern}

/-- The builder has to refuse to build, whatever the flags are. -/
def Blocked (b : Builder) : Prop := b.settings.groupValidation ∧ b.openStatements ≠ []

/-- The flags of a build: the configured ones and then those given, each where it occurs first. -/
def buildFlags (b : Builder) (argument : FlagsArgument) : List Char :=
  (b.settings.flags ++ argument.supplied).eraseDups

/-- The text that the engine is given: the flags that it knows in parentheses, and the source in its dialect. -/
def buildText (b : Builder) (argument : FlagsArgument) : List Char :=
  let inline := (b.buildFlags argument).filter ['i', 'm', 's'].contains
  (if inline = [] then [] else '(' :: '?' :: inline ++ [')']) ++ Dialect.toEngine b.source.toList

/-- The first flag of a build that has no meaning. -/
def unknownFlag? (b : Builder) (argument : FlagsArgument) : Option Char :=
  (b.buildFlags argument).find? fun flag => !(['g', 'i', 'm', 's', 'u', 'y'].contains flag)

theorem toList_merged (b : Builder) (argument : FlagsArgument) :
    ((Flags.ofList b.settings.flags).merge argument.toFlags).toList = b.buildFlags argument := by
  rw [Flags.merge_ofList, Flags.toList_ofList, argument.toList_toFlags, eraseDups_append_eraseDups, buildFlags]

theorem engineText_merged (b : Builder) (argument : FlagsArgument) :
    Pattern.engineText b.source ((Flags.ofList b.settings.flags).merge argument.toFlags) = b.buildText argument := by
  have letters : Flags.inline = ['i', 'm', 's'] := rfl
  rw [Pattern.engineText, Pattern.inlineFlags, toList_merged, buildText, letters]
  cases (b.buildFlags argument).filter ['i', 'm', 's'].contains <;> rfl

/-- What a build can come to. -/
inductive BuildsTo (b : Builder) (argument : FlagsArgument) : Except Error Pattern → Prop where
  | missingEnd {kind : Statement} (validated : b.settings.groupValidation)
      (innermost : b.openStatements.getLast? = some kind) : BuildsTo b argument (.error (.missingEnd kind))
  | invalidFlag {flag : Char} (free : ¬ b.Blocked) (first : b.unknownFlag? argument = some flag) :
      BuildsTo b argument (.error (.invalidFlag flag))
  | refused (free : ¬ b.Blocked) (known : b.unknownFlag? argument = none)
      (unread : Regex.Matcher.ofText? (b.buildText argument) = none) : BuildsTo b argument (.error (.engine .refused))
  | built {p : Pattern} (free : ¬ b.Blocked) (known : b.unknownFlag? argument = none)
      (read : Regex.Matcher.ofText? (b.buildText argument) = some p.matcher) (source : p.source = b.source)
      (flags : p.flags.toList = b.buildFlags argument) : BuildsTo b argument (.ok p)

theorem top?_eq_getLast? (b : Builder) : b.nesting.top? = b.openStatements.getLast? := by
  rw [openStatements, Nesting.toList, List.getLast?_reverse, Nesting.top?]

theorem buildsTo (b : Builder) (argument : FlagsArgument) :
    BuildsTo b argument (b.buildWithFlags argument.toFlags) := by
  rw [buildWithFlags, top?_eq_getLast?]
  split
  · next kind checked =>
    obtain ⟨validated, innermost⟩ := Option.ite_none_right_eq_some.mp checked
    exact .missingEnd validated innermost
  · next checked =>
    have free : ¬ b.Blocked := by
      rintro ⟨validated, opened⟩
      rw [if_pos validated, List.getLast?_eq_none_iff] at checked
      exact opened checked
    have unknown : ((Flags.ofList b.settings.flags).merge argument.toFlags).firstUnsupported? =
        b.unknownFlag? argument := by
      rw [Flags.firstUnsupported?, toList_merged]
      rfl
    rw [Pattern.compile, unknown, engineText_merged]
    split
    · next flag first => exact .invalidFlag free first
    · next known =>
      split
      · next matcher read => exact .built free known read rfl (b.toList_merged argument)
      · next unread => exact .refused free known unread

namespace BuildsTo

theorem blocked_of_innermost {kind : Statement} (validated : b.settings.groupValidation)
    (innermost : b.openStatements.getLast? = some kind) : b.Blocked :=
  ⟨validated, fun none => by rw [none] at innermost; cases innermost⟩

theorem eq_missingEnd_iff (outcome : BuildsTo b argument result) {kind : Statement} :
    result = .error (.missingEnd kind) ↔
      b.settings.groupValidation ∧ b.openStatements.getLast? = some kind := by
  constructor
  · rintro rfl
    cases outcome with
    | missingEnd validated innermost => exact ⟨validated, innermost⟩
  · rintro ⟨validated, innermost⟩
    have blocked := blocked_of_innermost validated innermost
    cases outcome with
    | missingEnd _ other =>
      obtain rfl := Option.some.inj (other.symm.trans innermost)
      rfl
    | invalidFlag free => exact absurd blocked free
    | refused free => exact absurd blocked free
    | built free => exact absurd blocked free

theorem eq_invalidFlag_iff (outcome : BuildsTo b argument result) {flag : Char} :
    result = .error (.invalidFlag flag) ↔ ¬ b.Blocked ∧ b.unknownFlag? argument = some flag := by
  constructor
  · rintro rfl
    cases outcome with
    | invalidFlag free first => exact ⟨free, first⟩
  · rintro ⟨free, first⟩
    cases outcome with
    | missingEnd validated innermost => exact absurd (blocked_of_innermost validated innermost) free
    | invalidFlag _ other =>
      obtain rfl := Option.some.inj (other.symm.trans first)
      rfl
    | refused _ known => rw [known] at first; cases first
    | built _ known => rw [known] at first; cases first

theorem exists_ok_iff (outcome : BuildsTo b argument result) :
    (∃ p, result = .ok p) ↔ ¬ b.Blocked ∧ b.unknownFlag? argument = none ∧
      ((Regex.Matcher.ofPlain? (b.buildText argument)).isSome ∨
        (Regex.Matcher.ofExtended? (b.buildText argument)).isSome) := by
  rw [← Regex.Matcher.isSome_ofText?]
  constructor
  · rintro ⟨p, rfl⟩
    cases outcome with
    | built free known read => exact ⟨free, known, by rw [read]; rfl⟩
  · rintro ⟨free, known, read⟩
    cases outcome with
    | missingEnd validated innermost => exact absurd (blocked_of_innermost validated innermost) free
    | invalidFlag _ first => rw [known] at first; cases first
    | refused _ _ unread => rw [unread] at read; cases read
    | built => exact ⟨_, rfl⟩

theorem cause {error : Error} (outcome : BuildsTo b argument (.error error)) :
    (∃ kind, error = .missingEnd kind) ∨ (∃ flag, error = .invalidFlag flag) ∨ error = .engine .refused := by
  cases outcome with
  | missingEnd => exact .inl ⟨_, rfl⟩
  | invalidFlag => exact .inr (.inl ⟨_, rfl⟩)
  | refused => exact .inr (.inr rfl)

/-- The two classes of errors say whether the builder or the engine refused. -/
theorem classified {error : Error} (outcome : BuildsTo b argument (.error error)) :
    (error.isStructural ↔ b.Blocked) ∧ (error.isEngine ↔ ¬ b.Blocked) := by
  cases outcome with
  | missingEnd validated innermost =>
    simp [Error.isStructural, Error.isEngine, blocked_of_innermost validated innermost]
  | invalidFlag free => simp [Error.isStructural, Error.isEngine, free]
  | refused free => simp [Error.isStructural, Error.isEngine, free]

end BuildsTo

/-- Building from end to end, for any builder and flags. A build fails for the innermost open statement if the
builder validates, else for the first flag without a meaning, else exactly if neither search accepts the text,
and nothing else makes it fail. The pattern has the source as it was written and the flags of the configuration
and the argument, and the extended search only if the plain one refuses. Built in place, the builder comes to the
same and is left as it was. -/
theorem buildWithFlags_spec (b : Builder) (argument : FlagsArgument) :
    (∀ kind, b.buildWithFlags argument.toFlags = .error (.missingEnd kind) ↔
      b.settings.groupValidation ∧ b.openStatements.getLast? = some kind) ∧
    (∀ flag, b.buildWithFlags argument.toFlags = .error (.invalidFlag flag) ↔
      ¬ b.Blocked ∧ b.unknownFlag? argument = some flag) ∧
    ((∃ p, b.buildWithFlags argument.toFlags = .ok p) ↔ ¬ b.Blocked ∧ b.unknownFlag? argument = none ∧
      ((Regex.Matcher.ofPlain? (b.buildText argument)).isSome ∨
        (Regex.Matcher.ofExtended? (b.buildText argument)).isSome)) ∧
    (∀ p, b.buildWithFlags argument.toFlags = .ok p →
      p.source = (if b.settings.wrapInsideGroup then "(" ++ b.pattern ++ ")" else b.pattern) ∧
      p.flags.toList = b.buildFlags argument ∧
      Regex.Matcher.ofText? (b.buildText argument) = some p.matcher ∧
      (p.isBacktracking ↔ Regex.Matcher.ofPlain? (b.buildText argument) = none)) ∧
    (∀ error, b.buildWithFlags argument.toFlags = .error error →
      ((∃ kind, error = .missingEnd kind) ∨ (∃ flag, error = .invalidFlag flag) ∨ error = .engine .refused) ∧
      (error.isStructural ↔ b.Blocked) ∧ (error.isEngine ↔ ¬ b.Blocked)) ∧
    (InPlace.build argument).on b = (b.buildWithFlags argument.toFlags, b) := by
  have outcome := b.buildsTo argument
  refine ⟨fun kind => outcome.eq_missingEnd_iff, fun flag => outcome.eq_invalidFlag_iff, outcome.exists_ok_iff,
    fun p built => ?_, fun error failed => ?_, InPlace.on_build argument b⟩
  · rw [built] at outcome
    cases outcome with
    | built _ _ read source flags => exact ⟨source, flags, read, Regex.Matcher.isBacktracking_iff read⟩
  · rw [failed] at outcome
    exact ⟨outcome.cause, outcome.classified⟩

/-- Flags from both sides, in a pattern that is wrapped. With a group open the same build fails. -/
theorem buildWithFlags_spec_of_wrapped :
    let settings : Settings := ⟨true, true, false, ['g', 's']⟩
    let b := (ofSettings settings).run [.operation .matchesText [.text "a"]]
    let argument : FlagsArgument := .texts ["ms", "g"]
    b.buildText argument = "(?sm)(a)".toList ∧
      (∃ p, b.buildWithFlags argument.toFlags = .ok p ∧ p.source = "(a)" ∧ p.flags.toList = ['g', 's', 'm'] ∧
        p.isBacktracking = false) ∧
      b.buildWithFlags (FlagsArgument.text "yzi").toFlags = .error (.invalidFlag 'z') ∧
      b.beginGroup.buildWithFlags (FlagsArgument.text "z").toFlags = .error (.missingEnd .group) := by
  intro settings b argument
  have text : b.buildText argument = "(?sm)(a)".toList := by cbv
  have accepted : (Regex.Matcher.ofPlain? (b.buildText argument)).isSome := by cbv
  have free : ¬ b.Blocked := fun blocked => blocked.2 rfl
  obtain ⟨_, _, success, result, _⟩ := buildWithFlags_spec b argument
  obtain ⟨p, built⟩ := success.mpr ⟨free, by cbv, .inl accepted⟩
  obtain ⟨source, flags, _, extended⟩ := result p built
  have plain : p.isBacktracking = false := by
    rw [Bool.eq_false_iff, ne_eq, extended]
    exact fun refused => by rw [refused] at accepted; cases accepted
  refine ⟨text, ⟨p, built, source, flags.trans (by cbv), plain⟩, ?_, ?_⟩
  · exact ((buildWithFlags_spec b (.text "yzi")).2.1 'z').mpr ⟨free, by cbv⟩
  · have opened : b.beginGroup.openStatements = [.group] := by cbv
    exact ((buildWithFlags_spec b.beginGroup (.text "z")).1 .group).mpr ⟨rfl, by rw [opened]; rfl⟩

end Builder
end PatternComposer
