import PatternComposer.Proofs.Brackets
import PatternComposer.Proofs.Builder.Run

/-! # Brackets of a run

Operations that begin or end a statement are the brackets of a run. With validation a builder keeps what
is left of the brackets that it accepted: `foldl_put_accepted` follows this through a run. From it the
main statement is assembled, that nothing is refused and nothing left open exactly if the brackets of the
run are well-nested.
-/

namespace PatternComposer

/-- The bracket that an operation without arguments is. -/
def Operation.bracket? : Operation → Option Bracket
  | .beginGroup | .beginNonCapturedGroup => some (.opening .group)
  | .startLookAheadFor | .ifFollowedBy | .startNegatedLookAhead | .ifNotFollowedBy =>
    some (.opening .lookAhead)
  | .endGroup | .endNonCapturedGroup => some (.closing .group)
  | .endLookAhead | .endNegatedLookAhead | .matchEnd => some (.closing .lookAhead)
  | _ => none

namespace Builder

namespace Effect

def bracket? : Effect → Option Bracket
  | .append _ => none
  | .opening kind _ => some (.opening kind)
  | .closing kind => some (.closing kind)

theorem bracket?_of_nullary {operation : Operation} {effect : Effect}
    (nullary : ofNullary? operation = some effect) : effect.bracket? = operation.bracket? := by
  cases operation <;> cases nullary <;> rfl

/-- Brackets are called without arguments and cannot be called wrongly. -/
theorem ofCall_of_bracket (settings : Settings) {operation : Operation} {bracket : Bracket}
    (found : operation.bracket? = some bracket) :
    ∃ effect, ofCall settings operation [] = .ok effect ∧ effect.bracket? = some bracket := by
  cases operation <;> cases found <;> exact ⟨_, rfl, rfl⟩

/-- With arguments, operations only append. -/
theorem bracket?_of_args {settings : Settings} {operation : Operation} {args : List Argument} {effect : Effect}
    (given : args ≠ []) (called : ofCall settings operation args = .ok effect) : effect.bracket? = none := by
  cases args using Argument.shapes with
  | none => exact absurd rfl given
  | text text =>
    have found := ofCall_text_eq_ok_iff.mp called
    cases operation <;> cases found <;> rfl
  | pattern pattern => cases operation <;> cases called <;> rfl
  | builder other =>
    obtain ⟨pattern, _, rfl⟩ := eq_append_of_ofCall_builder called
    rfl
  | number n => cases operation <;> cases called <;> rfl
  | numbers min max => cases operation <;> cases called <;> rfl
  | unfit args => simp [ofCall, ofFitting?, *] at called

theorem bracket?_of_plain {settings : Settings} {operation : Operation} {args : List Argument} {effect : Effect}
    (plain : args = [] → operation.bracket? = none) (called : ofCall settings operation args = .ok effect) :
    effect.bracket? = none := by
  cases args with
  | nil => rw [bracket?_of_nullary (ofCall_nil_eq_ok_iff.mp called), plain rfl]
  | cons arg args => exact bracket?_of_args (List.cons_ne_nil arg args) called

end Effect

/-- The bracket that a call is for a builder with these aliases. -/
def Call.bracket? (aliases : AliasRegistry) : Call → Option Bracket
  | .operation op [] => op.bracket?
  | .invocation name [] => (aliases.resolve? name).bind Operation.bracket?
  | _ => none

/-! ## Single calls -/

section

variable {b : Builder} {call : Call} {kind : Statement}

/-- A bracket is performed by its effect. -/
theorem perform_of_bracket {bracket : Bracket} (found : call.bracket? b.aliases = some bracket) :
    ∃ effect : Effect, effect.bracket? = some bracket ∧ call.perform b = effect.perform b := by
  have applied {operation : Operation} (found : operation.bracket? = some bracket) :
      ∃ effect : Effect, effect.bracket? = some bracket ∧ b.apply operation [] = effect.perform b := by
    obtain ⟨effect, called, same⟩ := Effect.ofCall_of_bracket b.settings found
    exact ⟨effect, same, by rw [apply_eq_perform, called]; rfl⟩
  cases call with
  | operation operation args =>
    cases args with
    | nil => exact applied found
    | cons arg args => cases found
  | invocation name args =>
    cases args with
    | nil =>
      obtain ⟨operation, resolved, found⟩ := Option.bind_eq_some_iff.mp found
      obtain ⟨effect, same, performed⟩ := applied found
      exact ⟨effect, same, by rw [Call.perform, invoke, resolved]; exact performed⟩
    | cons arg args => cases found
  | addAlias operation name => cases found
  | deleteAlias name => cases found
  | clear => cases found

theorem perform_opening (found : call.bracket? b.aliases = some (.opening kind)) :
    ∃ fragment, call.perform b = .ok (b.opening kind fragment) := by
  obtain ⟨effect, same, performed⟩ := perform_of_bracket found
  cases effect with
  | append fragment => cases same
  | opening other fragment => cases same; exact ⟨fragment, performed⟩
  | closing other => cases same

theorem perform_closing (found : call.bracket? b.aliases = some (.closing kind)) :
    call.perform b = b.closing kind := by
  obtain ⟨effect, same, performed⟩ := perform_of_bracket found
  cases effect with
  | append fragment => cases same
  | opening other fragment => cases same
  | closing other => cases same; exact performed

/-- With validation only a statement of its kind can be closed. -/
theorem closing_of_top (strict : b.settings.groupValidation) {rest : List Statement}
    (top : b.nesting.innermostFirst = kind :: rest) :
    ∃ next, b.closing kind = .ok next ∧ next.nesting.innermostFirst = rest := by
  have open_ : b.nesting.top? = some kind := by rw [Nesting.top?, top]; rfl
  refine ⟨{ b with pattern := b.pattern ++ ")", nesting := ⟨rest⟩ }, ?_, rfl⟩
  simp [closing, Nesting.pop, strict, open_, top, Except.map]

theorem closing_of_not_top (strict : b.settings.groupValidation) (other : b.nesting.top? ≠ some kind) :
    b.closing kind = .error (.missingBegin kind) := by
  simp [closing, Nesting.pop, strict, other, Except.map]

/-- Calls that are no brackets leave alone what is open, unless they start over. -/
theorem attempt_nesting (none : call.bracket? b.aliases = none) (unbroken : call ≠ .clear) :
    (b.attempt call).nesting = b.nesting := by
  have applied {operation : Operation} {args : List Argument} (plain : args = [] → operation.bracket? = Option.none) :
      ∀ next, b.apply operation args = .ok next → next.nesting = b.nesting := by
    intro next success
    obtain ⟨effect, called, performed⟩ := apply_eq_ok_iff.mp success
    have quiet := Effect.bracket?_of_plain plain called
    cases effect with
    | append fragment => cases performed; rfl
    | opening kind fragment => cases quiet
    | closing kind => cases quiet
  have attempted (result : Except Error Builder) (same : ∀ next, result = .ok next → next.nesting = b.nesting)
      (performed : call.perform b = result) : (b.attempt call).nesting = b.nesting := by
    rw [attempt, performed]
    cases result with
    | error e => rfl
    | ok next => exact same next rfl
  cases call with
  | operation operation args =>
    refine attempted _ (applied fun empty => ?_) rfl
    subst empty
    exact none
  | invocation name args =>
    cases resolved : b.aliases.resolve? name with
    | none =>
      refine attempted (.error (.unknownOperation name)) (fun next success => by cases success) ?_
      rw [Call.perform, invoke, resolved]
    | some operation =>
      refine attempted (b.apply operation args) (applied fun empty => ?_) ?_
      · subst empty
        simpa [Call.bracket?, resolved] using none
      · rw [Call.perform, invoke, resolved]
  | addAlias operation name =>
    refine attempted _ (fun next success => ?_) rfl
    obtain ⟨aliases, _, rfl⟩ := Except.map_eq_ok_iff.mp success
    rfl
  | deleteAlias name => rfl
  | clear => exact absurd rfl unbroken

end

/-! ## Runs -/

/-- The brackets of a run, those that are refused included. -/
def brackets (b : Builder) : List Call → List Bracket
  | [] => []
  | call :: calls => (call.bracket? b.aliases).toList ++ brackets (b.attempt call) calls

/-- The brackets of a run that are not refused. -/
def accepted (b : Builder) : List Call → List Bracket
  | [] => []
  | call :: calls =>
    (if (call.perform b).isOk then (call.bracket? b.aliases).toList else []) ++ accepted (b.attempt call) calls

/-- No call of a run that ends a statement is refused. -/
def EndsAccepted (b : Builder) (calls : List Call) : Prop :=
  ∀ before call after kind, calls = before ++ call :: after →
    call.bracket? (b.run before).aliases = some (.closing kind) → (call.perform (b.run before)).isOk

/-- Open statements as the brackets that opened them, the innermost first. -/
def openBrackets (b : Builder) : List Bracket := b.nesting.innermostFirst.map .opening

/-- What one call does to the open statements: an accepted bracket is put behind them. -/
theorem openBrackets_attempt {b : Builder} (strict : b.settings.groupValidation) {call : Call}
    (unbroken : call ≠ .clear) :
    (if (call.perform b).isOk then (call.bracket? b.aliases).toList else []).foldl Bracket.put b.openBrackets =
      (b.attempt call).openBrackets := by
  cases found : call.bracket? b.aliases with
  | none => simp [openBrackets, attempt_nesting found unbroken]
  | some bracket =>
    cases bracket with
    | opening kind =>
      obtain ⟨fragment, performed⟩ := perform_opening found
      rw [attempt_of_perform performed, performed]
      simp [Except.isOk, Except.toBool, openBrackets, opening, Nesting.push]
    | closing kind =>
      have performed := perform_closing found
      by_cases top : b.nesting.top? = some kind
      · obtain ⟨rest, opened⟩ := List.head?_eq_some_iff.mp top
        obtain ⟨next, closed, left⟩ := closing_of_top strict opened
        rw [closed] at performed
        rw [attempt_of_perform performed, performed]
        simp [Except.isOk, Except.toBool, openBrackets, opened, left, Bracket.put_pair]
      · rw [closing_of_not_top strict top] at performed
        rw [attempt_of_error performed, performed]
        simp [Except.isOk, Except.toBool]

theorem foldl_put_accepted {b : Builder} (strict : b.settings.groupValidation) {calls : List Call}
    (unbroken : Call.clear ∉ calls) :
    (b.accepted calls).foldl Bracket.put b.openBrackets = (b.run calls).openBrackets := by
  induction calls generalizing b with
  | nil => rfl
  | cons call calls ih =>
    obtain ⟨first, others⟩ := List.ne_and_not_mem_of_not_mem_cons unbroken
    rw [accepted, List.foldl_append, openBrackets_attempt strict (Ne.symm first), run_cons]
    exact ih (by rw [attempt_settings]; exact strict) others

/-- An accepted end leaves the same brackets as one that was not even tried. -/
theorem accepted_eq_brackets {b : Builder} {calls : List Call} (ends : b.EndsAccepted calls) :
    b.accepted calls = b.brackets calls := by
  induction calls generalizing b with
  | nil => rfl
  | cons call calls ih =>
    have rest : (b.attempt call).EndsAccepted calls := by
      intro before other after kind split found
      exact ends (call :: before) other after kind (by rw [split, List.cons_append]) found
    rw [accepted, brackets, ih rest]
    congr 1
    cases found : call.bracket? b.aliases with
    | none => simp
    | some bracket =>
      cases bracket with
      | opening kind =>
        obtain ⟨fragment, performed⟩ := perform_opening found
        simp [performed, Except.isOk, Except.toBool]
      | closing kind =>
        have success : (call.perform b).isOk := ends [] call calls kind rfl found
        rw [if_pos success]

/-- An end that is refused closes nothing. -/
theorem mem_put_of_refused {b : Builder} (strict : b.settings.groupValidation) {call : Call} {kind : Statement}
    (found : call.bracket? b.aliases = some (.closing kind)) (refused : ¬ (call.perform b).isOk) :
    Bracket.closing kind ∈ Bracket.put b.openBrackets (.closing kind) := by
  have other : b.nesting.top? ≠ some kind := by
    intro top
    obtain ⟨rest, opened⟩ := List.head?_eq_some_iff.mp top
    obtain ⟨next, success, _⟩ := closing_of_top strict opened
    rw [perform_closing found, success] at refused
    exact refused rfl
  obtain ⟨same, rest, opened, pair, _⟩ | ⟨same, _⟩ := Bracket.put_cases b.openBrackets (.closing kind)
  · cases pair
    obtain ⟨top, statements, innermost, pair, _⟩ := List.map_eq_cons_iff.mp opened
    cases pair
    exact absurd (by rw [Nesting.top?, innermost]; rfl) other
  · rw [same]
    exact List.mem_cons_self

/-- A run whose brackets close everything does not meet an end that it refuses: what is refused would be
left over. -/
theorem endsAccepted_of_foldl_put {b : Builder} (strict : b.settings.groupValidation) {calls : List Call}
    (unbroken : Call.clear ∉ calls) (closed : (b.brackets calls).foldl Bracket.put b.openBrackets = []) :
    b.EndsAccepted calls := by
  induction calls generalizing b with
  | nil =>
    intro before call after kind split
    simp at split
  | cons call calls ih =>
    obtain ⟨first, others⟩ := List.ne_and_not_mem_of_not_mem_cons unbroken
    rw [brackets, List.foldl_append] at closed
    have here : ∀ kind, call.bracket? b.aliases = some (.closing kind) → (call.perform b).isOk := by
      intro kind found
      by_contra refused
      have left := mem_put_of_refused strict found refused
      rw [found] at closed
      have kept := Bracket.mem_foldl_put_of_closing left ((b.attempt call).brackets calls)
      simp only [Option.toList, List.foldl_cons, List.foldl_nil] at closed
      rw [closed] at kept
      cases kept
    have put : (call.bracket? b.aliases).toList.foldl Bracket.put b.openBrackets = (b.attempt call).openBrackets := by
      rw [← openBrackets_attempt strict (Ne.symm first)]
      cases found : call.bracket? b.aliases with
      | none => simp
      | some bracket =>
        cases bracket with
        | opening kind =>
          obtain ⟨fragment, performed⟩ := perform_opening found
          simp [performed, Except.isOk, Except.toBool]
        | closing kind => rw [if_pos (here kind found)]
    rw [put] at closed
    have rest := ih (by rw [attempt_settings]; exact strict) others closed
    intro before other after kind split found
    cases before with
    | nil =>
      obtain ⟨rfl, rfl⟩ := List.cons.inj split
      exact here kind found
    | cons earlier before =>
      obtain ⟨rfl, tail⟩ := List.cons.inj split
      exact rest before other after kind tail found

/-! ## New builders with validation -/

/-- The open statements of a builder are what is left of the brackets that it accepted. -/
theorem openStatements_run (settings : Settings) (strict : settings.groupValidation) {calls : List Call}
    (unbroken : Call.clear ∉ calls) :
    ((ofSettings settings).run calls).openStatements.map .opening =
      Bracket.reduce ((ofSettings settings).accepted calls) := by
  have left := foldl_put_accepted (b := ofSettings settings) strict unbroken
  have nothing : (ofSettings settings).openBrackets = [] := rfl
  rw [nothing] at left
  rw [Bracket.reduce, left, openBrackets, openStatements, Nesting.toList, List.map_reverse]

/-- The innermost open statement is the last bracket that is left. -/
theorem top?_run (settings : Settings) (strict : settings.groupValidation) {calls : List Call}
    (unbroken : Call.clear ∉ calls) (kind : Statement) :
    ((ofSettings settings).run calls).nesting.top? = some kind ↔
      (Bracket.reduce ((ofSettings settings).accepted calls)).getLast? = some (.opening kind) := by
  rw [← openStatements_run settings strict unbroken, List.getLast?_map, openStatements, Nesting.toList,
    List.getLast?_reverse, Nesting.top?]
  simp

/-- With validation, building fails for the innermost open statement or for no reason of nesting. -/
theorem buildWithFlags_of_strict {b : Builder} (strict : b.settings.groupValidation) (flags : Flags) :
    (∀ kind, b.buildWithFlags flags = .error (.missingEnd kind) ↔ b.nesting.top? = some kind) ∧
      ((∀ error, b.buildWithFlags flags = .error error → error.isStructural = false) ↔
        b.nesting.top? = none) := by
  cases top : b.nesting.top? with
  | some kind =>
    have built : b.buildWithFlags flags = .error (.missingEnd kind) := by simp [buildWithFlags, strict, top]
    rw [built]
    refine ⟨fun other => by simp, iff_of_false (fun quiet => ?_) (by simp)⟩
    have structural := quiet _ rfl
    simp [Error.isStructural] at structural
  | none =>
    have built : b.buildWithFlags flags =
        Pattern.compile b.source ((Flags.ofList b.settings.flags).merge flags) := by
      simp [buildWithFlags, strict, top]
    have quiet : ∀ error, b.buildWithFlags flags = .error error → error.isStructural = false := by
      intro error failed
      rw [built, Pattern.compile] at failed
      split at failed
      · cases failed; rfl
      · split at failed
        · cases failed
        · cases failed; rfl
    refine ⟨fun kind => iff_of_false (fun failed => ?_) (by simp), iff_of_true quiet rfl⟩
    have structural := quiet _ failed
    simp [Error.isStructural] at structural

/-- A run of a new builder with validation in which no end is refused can be built as far as nesting goes exactly
if its brackets are well-nested. In any run an end is accepted exactly if what is left of the brackets
accepted before it ends in an open bracket of its kind; what is left in the end is open, and the last
of it is missing its end. -/
theorem endsAccepted_iff_wellNested (settings : Settings) (strict : settings.groupValidation) {calls : List Call}
    (unbroken : Call.clear ∉ calls) (flags : Flags) :
    ((ofSettings settings).EndsAccepted calls ∧
        (∀ error, ((ofSettings settings).run calls).buildWithFlags flags = .error error →
          error.isStructural = false) ↔
      Bracket.WellNested ((ofSettings settings).brackets calls)) ∧
    (∀ before call after kind rest, calls = before ++ call :: after →
      call.bracket? ((ofSettings settings).run before).aliases = some (.closing kind) →
      Bracket.IsReduction ((ofSettings settings).accepted before) rest →
        ((call.perform ((ofSettings settings).run before)).isOk ↔ rest.getLast? = some (.opening kind)) ∧
        ∀ error, call.perform ((ofSettings settings).run before) = .error error → error = .missingBegin kind) ∧
    (∀ rest, Bracket.IsReduction ((ofSettings settings).accepted calls) rest ↔
      rest = ((ofSettings settings).run calls).openStatements.map .opening) ∧
    (∀ kind rest, Bracket.IsReduction ((ofSettings settings).accepted calls) rest →
      (((ofSettings settings).run calls).buildWithFlags flags = .error (.missingEnd kind) ↔
        rest.getLast? = some (.opening kind))) := by
  have valid (calls : List Call) : ((ofSettings settings).run calls).settings.groupValidation := by
    rw [run_settings]
    exact strict
  obtain ⟨missing, quiet⟩ := buildWithFlags_of_strict (valid calls) flags
  have nothing : ((ofSettings settings).run calls).nesting.top? = none ↔
      Bracket.reduce ((ofSettings settings).accepted calls) = [] := by
    rw [← openStatements_run settings strict unbroken]
    simp [openStatements, Nesting.toList, Nesting.top?]
  refine ⟨⟨fun both => ?_, fun nested => ?_⟩, ?_, fun rest => ?_, fun kind rest reduced => ?_⟩
  · obtain ⟨ends, closed⟩ := both
    rw [Bracket.wellNested_iff, ← accepted_eq_brackets ends]
    exact nothing.mp (quiet.mp closed)
  · have ends : (ofSettings settings).EndsAccepted calls :=
      endsAccepted_of_foldl_put strict unbroken (nested.foldl_put [])
    rw [Bracket.wellNested_iff, ← accepted_eq_brackets ends] at nested
    exact ⟨ends, quiet.mpr (nothing.mpr nested)⟩
  · rintro before call after kind rest rfl found reduced
    have earlier : Call.clear ∉ before := fun member => unbroken (List.mem_append_left _ member)
    rw [Bracket.isReduction_iff] at reduced
    rw [reduced, ← top?_run settings strict earlier, perform_closing found]
    by_cases top : ((ofSettings settings).run before).nesting.top? = some kind
    · obtain ⟨rest, opened⟩ := List.head?_eq_some_iff.mp top
      obtain ⟨next, closed, _⟩ := closing_of_top (valid before) opened
      rw [closed]
      exact ⟨iff_of_true rfl top, fun error failed => by cases failed⟩
    · rw [closing_of_not_top (valid before) top]
      exact ⟨iff_of_false (by simp [Except.isOk, Except.toBool]) top, fun error failed => by cases failed; rfl⟩
  · rw [Bracket.isReduction_iff, openStatements_run settings strict unbroken]
  · rw [Bracket.isReduction_iff] at reduced
    rw [missing, reduced, top?_run settings strict unbroken]

/-- An end of the other kind is refused, the run goes on, and what it leaves open is missing its end. -/
theorem endsAccepted_iff_wellNested_of_refused :
    let calls : List Call := [.operation .beginGroup [], .operation .ifFollowedBy [],
      .operation .endGroup [], .operation .matchesDigit [], .operation .endLookAhead []]
    (Settings.initial.groupValidation ∧ Call.clear ∉ calls) ∧
      ¬ Bracket.WellNested ((ofSettings .initial).brackets calls) ∧
      ((ofSettings .initial).run calls).openStatements = [.group] ∧
      ((ofSettings .initial).run calls).build = .error (.missingEnd .group) := by
  intro calls
  have unbroken : Call.clear ∉ calls := by simp [calls]
  have accepted : (ofSettings .initial).accepted calls =
      [.opening .group, .opening .lookAhead, .closing .lookAhead] := by cbv
  obtain ⟨nested, _, left, missing⟩ := endsAccepted_iff_wellNested .initial rfl unbroken .empty
  have reduced : Bracket.IsReduction ((ofSettings .initial).accepted calls) [.opening .group] := by
    rw [Bracket.isReduction_iff, accepted]
    rfl
  have built : ((ofSettings .initial).run calls).build = .error (.missingEnd .group) :=
    (missing .group _ reduced).mpr rfl
  refine ⟨⟨rfl, unbroken⟩, fun word => ?_, ?_, built⟩
  · have structural := (nested.mpr word).2 _ built
    simp [Error.isStructural] at structural
  · have same := (left _).mp reduced
    cases opened : ((ofSettings .initial).run calls).openStatements with
    | nil => simp [opened] at same
    | cons kind rest => simp_all

end Builder
end PatternComposer
