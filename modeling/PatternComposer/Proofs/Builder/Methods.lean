import PatternComposer.Proofs.Alias
import PatternComposer.Proofs.Builder.Run

/-! # Operations by name and methods called directly

Each operation names a method of the builder, with parameters of its own (`Operation.method`). Invoking the
operation on arguments of any kinds is calling that method if they fit its parameters, and is refused
otherwise. Chaining operations leave the aliases alone, so in a run of them a name goes on standing for the
operation that it stood for at the start, and the run can be made by names just as well.
-/

namespace PatternComposer

/-! ## Methods -/

/-- A method of a builder, by the parameters that it has. -/
inductive Method where
  | nullary (run : Builder → Except Error Builder)
  | text (run : Builder → String → Except Error Builder)
  | input (run : Builder → Builder.Input → Except Error Builder)
  | pattern (run : Builder → Pattern → Except Error Builder)
  | builder (run : Builder → Builder → Except Error Builder)
  | number (run : Builder → UInt32 → Except Error Builder)
  /-- A number and perhaps another one. -/
  | bounds (run : Builder → UInt32 → Option UInt32 → Except Error Builder)

namespace Method

/-- The call of a method on arguments, if they fit its parameters. -/
def call? : Method → List Argument → Option (Builder → Except Error Builder)
  | .nullary run, [] => some run
  | .text run, [.text s] => some (run · s)
  | .input run, [.text s] => some (run · (.text s))
  | .input run, [.pattern p] => some (run · (.pattern p))
  | .input run, [.builder other] => some (run · (.builder other))
  | .pattern run, [.pattern p] => some (run · p)
  | .builder run, [.builder other] => some (run · other)
  | .number run, [.number n] => some (run · n)
  | .bounds run, [.number min] => some (run · min none)
  | .bounds run, [.number min, .number max] => some (run · min (some max))
  | _, _ => none

/-- The kinds of arguments that fit. -/
def kinds : Method → List (List ArgumentKind)
  | .nullary _ => [[]]
  | .text _ => [[.text]]
  | .input _ => [[.text], [.pattern], [.builder]]
  | .pattern _ => [[.pattern]]
  | .builder _ => [[.builder]]
  | .number _ => [[.number]]
  | .bounds _ => [[.number], [.number, .number]]

theorem isSome_call? (method : Method) (args : List Argument) :
    (method.call? args).isSome ↔ args.map Argument.kind ∈ method.kinds := by
  rcases args with _ | ⟨first, _ | ⟨second, _ | ⟨third, rest⟩⟩⟩
  · cases method <;> simp [call?, kinds]
  · cases method <;> cases first <;> simp [call?, kinds, Argument.kind]
  · cases method <;> cases first <;> cases second <;> simp [call?, kinds, Argument.kind]
  · cases method <;> simp [call?, kinds]

end Method

namespace Operation

/-- The kinds of arguments that an operation can be invoked with. -/
def parameters : Operation → List (List ArgumentKind)
  | .matches => [[.text], [.pattern], [.builder]]
  | .matchesFreeText | .matchesText | .matchesCapturedText => [[.text]]
  | .matchesFor | .matchesOneOf | .matchesNotFor | .matchesNotOneOf => [[.text]]
  | .matchesRegexp => [[.pattern]]
  | .matchesBuilder => [[.builder]]
  | .matchesTimes | .withConstraint => [[.number], [.number, .number]]
  | .useGroup => [[.number]]
  | _ => [[]]

/-- The method that an operation names. -/
def method : Operation → Method
  | .matches => .input Builder.matches
  | .matchesFreeText => .text fun b text => .ok (b.matchesFreeText text)
  | .matchesRegexp => .pattern fun b pattern => .ok (b.matchesRegexp pattern)
  | .matchesBuilder => .builder Builder.matchesBuilder
  | .matchesAny => .nullary fun b => .ok b.matchesAny
  | .matchesFor => .text fun b characters => .ok (b.matchesFor characters)
  | .matchesOneOf => .text fun b characters => .ok (b.matchesOneOf characters)
  | .matchesNotFor => .text fun b characters => .ok (b.matchesNotFor characters)
  | .matchesNotOneOf => .text fun b characters => .ok (b.matchesNotOneOf characters)
  | .matchesDigit => .nullary fun b => .ok b.matchesDigit
  | .matchesNonDigit => .nullary fun b => .ok b.matchesNonDigit
  | .matchesFormFeed => .nullary fun b => .ok b.matchesFormFeed
  | .matchesLineFeed => .nullary fun b => .ok b.matchesLineFeed
  | .matchesCarriageReturn => .nullary fun b => .ok b.matchesCarriageReturn
  | .matchesWhiteSpace => .nullary fun b => .ok b.matchesWhiteSpace
  | .matchesNotWhiteSpace => .nullary fun b => .ok b.matchesNotWhiteSpace
  | .matchesTab => .nullary fun b => .ok b.matchesTab
  | .matchesVerticalTab => .nullary fun b => .ok b.matchesVerticalTab
  | .matchesAlphanumeric => .nullary fun b => .ok b.matchesAlphanumeric
  | .matchesNonAlphanumeric => .nullary fun b => .ok b.matchesNonAlphanumeric
  | .matchesNull => .nullary fun b => .ok b.matchesNull
  | .matchesLetter => .nullary fun b => .ok b.matchesLetter
  | .matchesUppercaseLetter => .nullary fun b => .ok b.matchesUppercaseLetter
  | .matchesLowercaseLetter => .nullary fun b => .ok b.matchesLowercaseLetter
  | .matchesBackspace => .nullary fun b => .ok b.matchesBackspace
  | .matchesText => .text fun b text => .ok (b.matchesText text)
  | .matchesCapturedText => .text fun b text => .ok (b.matchesCapturedText text)
  | .matchesTimes => .bounds fun b min max => .ok (b.matchesTimes min max)
  | .withConstraint => .bounds fun b min max => .ok (b.withConstraint min max)
  | .oneOrMoreTimes => .nullary fun b => .ok b.oneOrMoreTimes
  | .zeroOrMoreTimes => .nullary fun b => .ok b.zeroOrMoreTimes
  | .zeroOrOneTimes => .nullary fun b => .ok b.zeroOrOneTimes
  | .withNotGreedy => .nullary fun b => .ok b.withNotGreedy
  | .matchesWordBoundary => .nullary fun b => .ok b.matchesWordBoundary
  | .matchesNotWordBoundary => .nullary fun b => .ok b.matchesNotWordBoundary
  | .beginLine => .nullary fun b => .ok b.beginLine
  | .endLine => .nullary fun b => .ok b.endLine
  | .beginGroup => .nullary fun b => .ok b.beginGroup
  | .beginNonCapturedGroup => .nullary fun b => .ok b.beginNonCapturedGroup
  | .endGroup => .nullary Builder.endGroup
  | .endNonCapturedGroup => .nullary Builder.endNonCapturedGroup
  | .startLookAheadFor => .nullary fun b => .ok b.startLookAheadFor
  | .ifFollowedBy => .nullary fun b => .ok b.ifFollowedBy
  | .startNegatedLookAhead => .nullary fun b => .ok b.startNegatedLookAhead
  | .ifNotFollowedBy => .nullary fun b => .ok b.ifNotFollowedBy
  | .endLookAhead => .nullary Builder.endLookAhead
  | .endNegatedLookAhead => .nullary Builder.endNegatedLookAhead
  | .matchEnd => .nullary Builder.matchEnd
  | .useGroup => .number fun b group => .ok (b.useGroup group)
  | .or => .nullary fun b => .ok b.or
  | .and => .nullary fun b => .ok b.and

theorem kinds_method (operation : Operation) : operation.method.kinds = operation.parameters := by
  cases operation <;> rfl

end Operation

namespace Builder

/-! ## Applying -/

theorem applyFitting_eq_call (b : Builder) (operation : Operation) (args : List Argument) :
    b.applyFitting operation args = (operation.method.call? args).map fun call => call b := by
  cases args using Argument.shapes with
  | unfit args =>
    have misfit : operation.method.call? args = none := by
      generalize operation.method = method
      rw [Method.call?.eq_def]
      split <;> simp_all
    simp only [applyFitting, Option.map_none, *]
  | _ => cases operation <;> rfl

variable {b next : Builder} {operation : Operation} {args : List Argument} {name : String}

theorem apply_of_call (b : Builder) {call : Builder → Except Error Builder}
    (fits : operation.method.call? args = some call) : b.apply operation args = call b := by
  rw [apply, applyFitting_eq_call, fits, Option.map_some]

theorem apply_of_mismatch (b : Builder) (misfit : operation.method.call? args = none) :
    b.apply operation args = .error (.illegalArgument (.mismatch operation (args.map Argument.kind))) := by
  rw [apply, applyFitting_eq_call, misfit, Option.map_none]

theorem apply_frame (applied : b.apply operation args = .ok next) :
    next.settings = b.settings ∧ next.aliases = b.aliases := by
  obtain ⟨effect, _, performed⟩ := apply_eq_ok_iff.mp applied
  exact Effect.perform_frame performed

/-! ## Aliases along a run -/

/-- What a call does to the aliases. -/
def Call.edits : Call → List AliasRegistry.Edit
  | .addAlias operation name => [.add operation name]
  | .deleteAlias name => [.remove name]
  | _ => []

theorem aliases_attempt (b : Builder) (call : Call) :
    (b.attempt call).aliases = b.aliases.edited call.edits := by
  have applied (operation : Operation) (args : List Argument) :
      (b.attempt (.operation operation args)).aliases = b.aliases := by
    rw [attempt, Call.perform]
    cases performed : b.apply operation args with
    | error e => rfl
    | ok next => exact (apply_frame performed).2
  cases call with
  | operation operation args => exact applied operation args
  | invocation name args =>
    rw [attempt, Call.perform, invoke]
    cases b.aliases.resolve? name with
    | none => rfl
    | some operation => exact applied operation args
  | addAlias operation name =>
    rw [attempt, Call.perform, addAlias]
    change _ = b.aliases.edit (.add operation name)
    rw [AliasRegistry.edit]
    cases b.aliases.add operation name <;> rfl
  | deleteAlias name => rfl
  | clear => rfl

/-- The aliases after a run are those of a registry that the same edits were made to. -/
theorem aliases_run (b : Builder) (calls : List Call) :
    (b.run calls).aliases = b.aliases.edited (calls.flatMap Call.edits) := by
  induction calls generalizing b with
  | nil => rfl
  | cons call rest ih => rw [run_cons, ih, aliases_attempt, List.flatMap_cons, AliasRegistry.edited_append]

theorem wellFormed_aliases (settings : Settings) (calls : List Call) :
    ((ofSettings settings).run calls).aliases.WellFormed := by
  rw [aliases_run]
  exact AliasRegistry.wellFormed_empty.edited _

/-! ## Invoking -/

theorem invoke_of_resolve (args : List Argument) (resolved : b.aliases.resolve? name = some operation) :
    b.invoke name args = b.apply operation args := by
  rw [invoke, resolved]

theorem invoke_of_unresolved (args : List Argument) (unresolved : b.aliases.resolve? name = none) :
    b.invoke name args = .error (.unknownOperation name) := by
  rw [invoke, unresolved]

/-- An operation with arguments that fit its method, and the call that they make. -/
structure DirectCall where
  operation : Operation
  args : List Argument
  perform : Builder → Except Error Builder
  fits : operation.method.call? args = some perform

/-- The builder after a call, which a failing call leaves as it was. -/
def after (b : Builder) (call : Builder → Except Error Builder) : Builder :=
  match call b with
  | .ok next => next
  | .error _ => b

/-- The results of calls made one after the other, and the builder after them. -/
def session (b : Builder) : List (Builder → Except Error Builder) → List (Except Error Builder) × Builder
  | [] => ([], b)
  | call :: rest =>
    let (results, last) := (b.after call).session rest
    (call b :: results, last)

theorem aliases_after (b : Builder) (direct : DirectCall) : (b.after direct.perform).aliases = b.aliases := by
  rw [after]
  split
  · next next performed => exact (apply_frame ((b.apply_of_call direct.fits).trans performed)).2
  · rfl

theorem session_invoke (steps : List (DirectCall × String))
    (named : ∀ step ∈ steps, b.aliases.resolve? step.2 = some step.1.operation) :
    b.session (steps.map fun step b => b.invoke step.2 step.1.args) =
      b.session (steps.map fun step => step.1.perform) := by
  induction steps generalizing b with
  | nil => rfl
  | cons step rest ih =>
    obtain ⟨resolved, named⟩ := List.forall_mem_cons.mp named
    have same : b.invoke step.2 step.1.args = step.1.perform b :=
      (invoke_of_resolve _ resolved).trans (b.apply_of_call step.1.fits)
    have onward : b.after (fun b => b.invoke step.2 step.1.args) = b.after step.1.perform := by
      rw [after, after, same]
    simp only [List.map_cons, session, same, onward]
    -- the step leaves the aliases alone, so the names behind it still stand for the same operations
    rw [ih (by rwa [aliases_after])]

/-- Invoking an operation by a name is calling its method, on any builder and with any arguments. Arguments that
do not fit are refused with their kinds, names that are neither an operation's nor an alias are unknown, and
neither changes the builder. So calls can be made by any of their names without any result being another. -/
theorem invoke_simulates {settings : Settings} {calls : List Call}
    (reached : (ofSettings settings).run calls = b) :
    (∀ operation args,
      (args.map Argument.kind ∈ operation.parameters →
        ∃ call, operation.method.call? args = some call ∧ b.apply operation args = call b) ∧
      (args.map Argument.kind ∉ operation.parameters →
        b.apply operation args = .error (.illegalArgument (.mismatch operation (args.map Argument.kind))) ∧
          b.attempt (.operation operation args) = b)) ∧
    (∀ name args,
      (∀ operation : Operation, operation.name = name ∨ ⟨name, operation⟩ ∈ b.aliases.entries →
        b.invoke name args = b.apply operation args) ∧
      ((∀ operation : Operation, operation.name ≠ name ∧ ⟨name, operation⟩ ∉ b.aliases.entries) →
        b.invoke name args = .error (.unknownOperation name) ∧ b.attempt (.invocation name args) = b)) ∧
    ∀ steps : List (DirectCall × String),
      (∀ step ∈ steps, step.1.operation.name = step.2 ∨ ⟨step.2, step.1.operation⟩ ∈ b.aliases.entries) →
        b.session (steps.map fun step b => b.invoke step.2 step.1.args) =
          b.session (steps.map fun step => step.1.perform) := by
  have formed : b.aliases.WellFormed := reached ▸ wellFormed_aliases settings calls
  refine ⟨fun operation args => ⟨fun fits => ?_, fun misfit => ?_⟩, fun name args =>
    ⟨?_, fun unknown => ?_⟩, ?_⟩
  · rw [← operation.kinds_method, ← Method.isSome_call?] at fits
    obtain ⟨call, fits⟩ := Option.isSome_iff_exists.mp fits
    exact ⟨call, fits, b.apply_of_call fits⟩
  · rw [← operation.kinds_method, ← Method.isSome_call?, Option.not_isSome_iff_eq_none] at misfit
    have refused := b.apply_of_mismatch misfit
    exact ⟨refused, attempt_of_error refused⟩
  · exact fun operation named => invoke_of_resolve args (formed.resolve?_eq_some_iff.mpr named)
  · have unresolved : b.aliases.resolve? name = none := by
      rw [Option.eq_none_iff_forall_ne_some]
      intro operation resolved
      exact (formed.resolve?_eq_some_iff.mp resolved).elim (unknown operation).1 (unknown operation).2
    have refused := invoke_of_unresolved args unresolved
    exact ⟨refused, attempt_of_error refused⟩
  · intro steps named
    exact session_invoke steps fun step member => formed.resolve?_eq_some_iff.mpr (named step member)

/-- A group that is open is ended by an alias, and then by the operation's own name, which fails. -/
theorem invoke_simulates_of_alias :
    let b := (ofSettings .initial).run [.addAlias "end_group" "close", .operation .beginGroup []]
    let steps : List (DirectCall × String) := [(⟨.matchesText, [.text "a"], _, rfl⟩, "matches_text"),
      (⟨.endGroup, [], _, rfl⟩, "close"), (⟨.endGroup, [], _, rfl⟩, "end_group")]
    let session := b.session (steps.map fun step b => b.invoke step.2 step.1.args)
    session.2.pattern = "(a)" ∧ session.1[2]? = some (.error (.missingBegin .group)) ∧
      b.apply .matchesTimes [.text "a"] = .error (.illegalArgument (.mismatch .matchesTimes [.text])) ∧
      b.invoke "shut" [] = .error (.unknownOperation "shut") := by
  intro b steps session
  obtain ⟨applied, invoked, simulated⟩ := invoke_simulates (b := b) rfl
  have entries : b.aliases.entries = [⟨"close", .endGroup⟩] := by decide +kernel
  have same : session = b.session (steps.map fun step => step.1.perform) := by
    refine simulated steps (List.forall_mem_cons.mpr ⟨.inl rfl, ?_⟩)
    exact List.forall_mem_cons.mpr ⟨.inr (by simp [entries]), List.forall_mem_singleton.mpr (.inl rfl)⟩
  refine ⟨?_, ?_, ((applied .matchesTimes [.text "a"]).2 (by decide)).1,
    ((invoked "shut" []).2 fun operation => ?_).1⟩
  · rw [same]
    rfl
  · rw [same]
    rfl
  · exact ⟨fun named => by cases operation <;> simp [Operation.name] at named, by simp [entries]⟩

end Builder
end PatternComposer
