import Mathlib
import PatternComposer.Builder.Invoke

/-! # What operations do to a builder

Every operation appends a fragment to the pattern, and some also open or close a statement. Which
of this an operation does follows from the settings and its arguments alone, never from what was
assembled before: `apply_eq_perform`. Facts about all operations are proved from their effects.
-/

namespace PatternComposer.Builder

inductive Effect where
  | append (fragment : String)
  | opening (kind : Statement) (fragment : String)
  | closing (kind : Statement)
deriving DecidableEq, Repr

/-- The fragment of a repetition. -/
def timesFragment (min : UInt32) (max : Option UInt32) : String :=
  match max with
  | some max => "\x7b" ++ toString min.toNat ++ "," ++ toString max.toNat ++ "\x7d"
  | none => "\x7b" ++ toString min.toNat ++ "\x7d"

namespace Effect

def perform (b : Builder) : Effect → Except Error Builder
  | .append fragment => .ok (b.push fragment)
  | .opening kind fragment => .ok (b.opening kind fragment)
  | .closing kind => b.closing kind

/-- The effect of an operation that takes no arguments. -/
def ofNullary? : Operation → Option Effect
  | .matchesAny => some (.append ".")
  | .matchesDigit => some (.append "[0-9]")
  | .matchesNonDigit => some (.append "[^0-9]")
  | .matchesFormFeed => some (.append "\\f")
  | .matchesLineFeed => some (.append "\\n")
  | .matchesCarriageReturn => some (.append "\\r")
  | .matchesWhiteSpace => some (.append "\\s")
  | .matchesNotWhiteSpace => some (.append "\\S")
  | .matchesTab => some (.append "\\t")
  | .matchesVerticalTab => some (.append "\\v")
  | .matchesAlphanumeric => some (.append "\\w")
  | .matchesNonAlphanumeric => some (.append "\\W")
  | .matchesNull => some (.append "\\0")
  | .matchesLetter => some (.append "[a-zA-Z]")
  | .matchesUppercaseLetter => some (.append "[A-Z]")
  | .matchesLowercaseLetter => some (.append "[a-z]")
  | .matchesBackspace => some (.append "[\\b]")
  | .oneOrMoreTimes => some (.append "+")
  | .zeroOrMoreTimes => some (.append "*")
  | .zeroOrOneTimes | .withNotGreedy => some (.append "?")
  | .matchesWordBoundary => some (.append "\\b")
  | .matchesNotWordBoundary => some (.append "\\B")
  | .beginLine => some (.append "^")
  | .endLine => some (.append "$")
  | .beginGroup => some (.opening .group "(")
  | .beginNonCapturedGroup => some (.opening .group "(?:")
  | .endGroup | .endNonCapturedGroup => some (.closing .group)
  | .startLookAheadFor | .ifFollowedBy => some (.opening .lookAhead "(?=")
  | .startNegatedLookAhead | .ifNotFollowedBy => some (.opening .lookAhead "(?!")
  | .endLookAhead | .endNegatedLookAhead | .matchEnd => some (.closing .lookAhead)
  | .or => some (.append "|")
  | .and => some (.append "")
  | _ => none

/-- The effect of an operation that takes one text. -/
def ofText? (settings : Settings) (text : String) : Operation → Option Effect
  | .matches | .matchesText => some (.append (textFragment settings.wrapTextInsideGroup text))
  | .matchesCapturedText => some (.append (textFragment true text))
  | .matchesFreeText => some (.append text)
  | .matchesFor | .matchesOneOf => some (.append ("[" ++ text ++ "]"))
  | .matchesNotFor | .matchesNotOneOf => some (.append ("[^" ++ text ++ "]"))
  | _ => none

/-- The effect of an operation on arguments, if they fit its parameters. -/
def ofFitting? (settings : Settings) (operation : Operation) :
    List Argument → Option (Except Error Effect)
  | [] => (ofNullary? operation).map .ok
  | [.text text] => (ofText? settings text operation).map .ok
  | [.pattern pattern] =>
    match operation with
    | .matches | .matchesRegexp => some (.ok (.append pattern.source))
    | _ => none
  | [.builder other] =>
    match operation with
    | .matches | .matchesBuilder => some (other.build.map fun pattern => .append pattern.source)
    | _ => none
  | [.number n] =>
    match operation with
    | .matchesTimes | .withConstraint => some (.ok (.append (timesFragment n none)))
    | .useGroup => some (.ok (.append ("\\" ++ toString n.toNat)))
    | _ => none
  | [.number min, .number max] =>
    match operation with
    | .matchesTimes | .withConstraint => some (.ok (.append (timesFragment min (some max))))
    | _ => none
  | _ => none

/-- The effect of an operation on arguments. -/
def ofCall (settings : Settings) (operation : Operation) (args : List Argument) :
    Except Error Effect :=
  (ofFitting? settings operation args).getD
    (.error (.illegalArgument (.mismatch operation (args.map Argument.kind))))

variable {settings : Settings} {operation : Operation} {effect : Effect}

theorem ofCall_nil_eq_ok_iff : ofCall settings operation [] = .ok effect ↔ ofNullary? operation = some effect := by
  rw [ofCall, ofFitting?]
  cases ofNullary? operation <;> simp

theorem ofCall_text_eq_ok_iff {text : String} :
    ofCall settings operation [.text text] = .ok effect ↔ ofText? settings text operation = some effect := by
  rw [ofCall, ofFitting?]
  cases ofText? settings text operation <;> simp

/-- A builder that is inserted has been built, and its source is appended. -/
theorem eq_append_of_ofCall_builder {other : Builder}
    (called : ofCall settings operation [.builder other] = .ok effect) :
    ∃ pattern, other.build = .ok pattern ∧ effect = .append pattern.source := by
  have inserted (appended : (other.build.map fun pattern => Effect.append pattern.source) = .ok effect) :
      ∃ pattern, other.build = .ok pattern ∧ effect = .append pattern.source := by
    obtain ⟨pattern, built, rfl⟩ := Except.map_eq_ok_iff.mp appended
    exact ⟨pattern, built, rfl⟩
  cases operation with
  | «matches» => exact inserted called
  | matchesBuilder => exact inserted called
  | _ => cases called

end Effect

/-- Arguments are told apart as far as some operation looks at them. -/
theorem Argument.shapes {motive : List Argument → Prop} (none : motive []) (text : ∀ text, motive [.text text])
    (pattern : ∀ pattern, motive [.pattern pattern]) (builder : ∀ other, motive [.builder other])
    (number : ∀ n, motive [.number n]) (numbers : ∀ min max, motive [.number min, .number max])
    (unfit : ∀ args, args ≠ [] → (∀ text, args ≠ [.text text]) →
      (∀ pattern, args ≠ [.pattern pattern]) → (∀ other, args ≠ [.builder other]) →
      (∀ n, args ≠ [.number n]) → (∀ min max, args ≠ [.number min, .number max]) → motive args)
    (args : List Argument) : motive args := by
  match args with
  | [] => exact none
  | [.text s] => exact text s
  | [.pattern p] => exact pattern p
  | [.builder other] => exact builder other
  | [.number n] => exact number n
  | [.number min, .number max] => exact numbers min max
  | .text _ :: _ :: _ | .pattern _ :: _ :: _ | .builder _ :: _ :: _
  | .number _ :: .text _ :: _ | .number _ :: .pattern _ :: _ | .number _ :: .builder _ :: _
  | .number _ :: .number _ :: _ :: _ =>
    exact unfit _ (by simp) (by simp) (by simp) (by simp) (by simp) (by simp)

private theorem push_empty (b : Builder) : b.push "" = b := by simp [push]

private theorem applyNullary_eq (b : Builder) (operation : Operation) :
    b.applyNullary operation = (Effect.ofNullary? operation).map (Effect.perform b) := by
  cases operation with
  | and =>
    change some (Except.ok b) = some (Except.ok (b.push ""))
    rw [push_empty]
  | _ => rfl

private theorem applyText_eq (b : Builder) (text : String) (operation : Operation) :
    b.applyText text operation =
      (Effect.ofText? b.settings text operation).map (Effect.perform b) := by
  cases operation <;> rfl

/-- Inserting a builder fails as building it does, and otherwise appends its source. -/
theorem matchesBuilder_eq_perform (b other : Builder) :
    b.matchesBuilder other =
      (other.build.map fun pattern => Effect.append pattern.source).bind (Effect.perform b) := by
  rw [matchesBuilder]
  cases other.build <;> rfl

/-- Whatever is inserted, only a fragment is appended. -/
theorem exists_push_of_matches {b next : Builder} {input : Input} (inserted : b.matches input = .ok next) :
    ∃ fragment, next = b.push fragment := by
  cases input with
  | text text => cases inserted; exact ⟨_, rfl⟩
  | pattern pattern => cases inserted; exact ⟨_, rfl⟩
  | builder other =>
    obtain ⟨pattern, _, rfl⟩ := Except.map_eq_ok_iff.mp inserted
    exact ⟨_, rfl⟩
  | unsupported type => cases inserted

private theorem applyFitting_eq (b : Builder) (operation : Operation) (args : List Argument) :
    b.applyFitting operation args =
      (Effect.ofFitting? b.settings operation args).map (·.bind (Effect.perform b)) := by
  cases args using Argument.shapes with
  | none => rw [applyFitting, applyNullary_eq, Effect.ofFitting?, Option.map_map]; rfl
  | text text => rw [applyFitting, applyText_eq, Effect.ofFitting?, Option.map_map]; rfl
  | pattern pattern => cases operation <;> rfl
  | builder other =>
    cases operation with
    | «matches» => exact congrArg some (matchesBuilder_eq_perform b other)
    | matchesBuilder => exact congrArg some (matchesBuilder_eq_perform b other)
    | _ => rfl
  | number n => cases operation <;> rfl
  | numbers min max => cases operation <;> rfl
  | unfit args => simp only [applyFitting, Effect.ofFitting?, Option.map_none, *]

/-- A builder with nothing open builds what its source compiles to. -/
theorem buildWithFlags_eq_ok {b : Builder} {flags : Flags} {pattern : Pattern}
    (built : b.buildWithFlags flags = .ok pattern) :
    (b.settings.groupValidation → b.nesting.top? = none) ∧
      Pattern.compile b.source ((Flags.ofList b.settings.flags).merge flags) = .ok pattern := by
  rw [buildWithFlags] at built
  split at built
  · cases built
  · next closed => exact ⟨fun strict => by simpa [strict] using closed, built⟩

/-- Effects change neither settings nor aliases. -/
theorem Effect.perform_frame {b next : Builder} {effect : Effect}
    (performed : effect.perform b = .ok next) :
    next.settings = b.settings ∧ next.aliases = b.aliases := by
  cases effect with
  | append fragment => cases performed; exact ⟨rfl, rfl⟩
  | opening kind fragment => cases performed; exact ⟨rfl, rfl⟩
  | closing kind =>
    obtain ⟨nesting, _, rfl⟩ := Except.map_eq_ok_iff.mp performed
    exact ⟨rfl, rfl⟩

/-- An operation is performed by its effect, which the builder's pattern has no part in. -/
theorem apply_eq_perform (b : Builder) (operation : Operation) (args : List Argument) :
    b.apply operation args =
      (Effect.ofCall b.settings operation args).bind (Effect.perform b) := by
  rw [apply, applyFitting_eq, Effect.ofCall]
  cases Effect.ofFitting? b.settings operation args <;> rfl

theorem apply_eq_ok_iff {b next : Builder} {operation : Operation} {args : List Argument} :
    b.apply operation args = .ok next ↔
      ∃ effect, Effect.ofCall b.settings operation args = .ok effect ∧ effect.perform b = .ok next := by
  rw [apply_eq_perform]
  cases Effect.ofCall b.settings operation args <;> simp [Except.bind]

/-- A name that is invoked stands for an operation, which is applied. -/
theorem invoke_eq_ok_iff {b next : Builder} {name : String} {args : List Argument} :
    b.invoke name args = .ok next ↔
      ∃ operation, b.aliases.resolve? name = some operation ∧ b.apply operation args = .ok next := by
  rw [invoke]
  cases b.aliases.resolve? name <;> simp

end PatternComposer.Builder
