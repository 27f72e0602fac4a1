import PatternComposer.Proofs.Builder.InPlace

/-! # The text of a builder as a list of fragments

What an operation appends depends on the settings, the operation and its arguments only (`appended`). So the text
of a builder is the concatenation of the fragments of the operations that succeeded since the text was
last cleared, whatever else was asked of the builder in between: `pattern_eq_join`.
-/

namespace PatternComposer

/-- The operation that an operation is another name of. -/
def Operation.synonym : Operation → Operation
  | .matchesOneOf => .matchesFor
  | .matchesNotOneOf => .matchesNotFor
  | .withConstraint => .matchesTimes
  | .endNonCapturedGroup => .endGroup
  | .ifFollowedBy => .startLookAheadFor
  | .ifNotFollowedBy => .startNegatedLookAhead
  | .endNegatedLookAhead | .matchEnd => .endLookAhead
  | operation => operation

namespace Builder

/-- What an effect appends. -/
def Effect.fragment : Effect → String
  | .append fragment => fragment
  | .opening _ fragment => fragment
  | .closing _ => ")"

/-- What an operation appends when it is called with these arguments, and nothing if it cannot be. -/
def appended (settings : Settings) (operation : Operation) (args : List Argument) : String :=
  match Effect.ofCall settings operation args with
  | .ok effect => effect.fragment
  | .error _ => ""

/-- The fragments of calls one after the other. -/
def joined (settings : Settings) (calls : List (Operation × List Argument)) : String :=
  String.join (calls.map fun call => appended settings call.1 call.2)

/-- The operation that a request calls, and the arguments of the call. -/
def Request.called? (aliases : AliasRegistry) : Request → Option (Operation × List Argument)
  | .call (.operation operation args) => some (operation, args)
  | .call (.invocation name args) => (aliases.resolve? name).map fun operation => (operation, args)
  | .insertion (.text text) => some (.matches, [.text text])
  | .insertion (.pattern pattern) => some (.matches, [.pattern pattern])
  | .insertion (.builder other) => some (.matches, [.builder other])
  | _ => none

/-- The calls of operations in a run that succeed. -/
def successes (b : Builder) : List Request → List (Operation × List Argument)
  | [] => []
  | request :: rest =>
    (if (b.reply request).isOk then (request.called? b.aliases).toList else []) ++ (b.served request).successes rest

/-! ## One operation -/

variable {b next : Builder} {request : Request} {value : Reply}

theorem joined_append (settings : Settings) (calls more : List (Operation × List Argument)) :
    joined settings (calls ++ more) = joined settings calls ++ joined settings more := by
  rw [joined, List.map_append, String.join_append]
  rfl

theorem joined_singleton (settings : Settings) (operation : Operation) (args : List Argument) :
    joined settings [(operation, args)] = appended settings operation args := by
  simp [joined]

theorem Effect.pattern_of_perform {effect : Effect} (performed : effect.perform b = .ok next) :
    next.pattern = b.pattern ++ effect.fragment := by
  cases effect with
  | append fragment => cases performed; rfl
  | opening kind fragment => cases performed; rfl
  | closing kind =>
    obtain ⟨nesting, _, rfl⟩ := Except.map_eq_ok_iff.mp performed
    rfl

/-- Neither the text nor what is open nor the aliases have a part in what an operation appends. -/
theorem pattern_of_apply {operation : Operation} {args : List Argument} (applied : b.apply operation args = .ok next) :
    next.pattern = b.pattern ++ appended b.settings operation args := by
  obtain ⟨effect, called, performed⟩ := apply_eq_ok_iff.mp applied
  rw [appended, called]
  exact Effect.pattern_of_perform performed

/-- Inserting is an operation like any other, unless the input is of a type that is refused. -/
theorem apply_of_insertion {input : Input} {operation : Operation} {args : List Argument}
    (called : (Request.insertion input).called? b.aliases = some (operation, args)) :
    b.matches input = b.apply operation args := by
  cases input with
  | text text => cases called; rfl
  | pattern pattern => cases called; rfl
  | builder other => cases called; rfl
  | unsupported type => cases called

theorem pattern_of_answer (unbroken : request ≠ .call .clear) (answered : b.answer request = .ok (value, next)) :
    next.pattern = b.pattern ++ joined b.settings (request.called? b.aliases).toList := by
  have applied {operation : Operation} {args : List Argument}
      (called : request.called? b.aliases = some (operation, args))
      (success : b.apply operation args = .ok next) :
      next.pattern = b.pattern ++ joined b.settings (request.called? b.aliases).toList := by
    rw [pattern_of_apply success, called, Option.toList_some, joined_singleton]
  have silent (called : request.called? b.aliases = none) (same : next.pattern = b.pattern) :
      next.pattern = b.pattern ++ joined b.settings (request.called? b.aliases).toList := by
    rw [same, called]
    simp [joined]
  cases request with
  | call call =>
    cases call with
    | operation operation args => exact applied rfl (eq_ok_of_done answered)
    | invocation name args =>
      obtain ⟨operation, resolved, success⟩ := invoke_eq_ok_iff.mp (eq_ok_of_done answered)
      exact applied (by rw [Request.called?, resolved]; rfl) success
    | addAlias operation name =>
      obtain ⟨aliases, _, rfl⟩ := Except.map_eq_ok_iff.mp (eq_ok_of_done answered)
      exact silent rfl rfl
    | deleteAlias name => cases answered; exact silent rfl rfl
    | clear => exact absurd rfl unbroken
  | insertion input =>
    have inserted := eq_ok_of_done answered
    cases called : (Request.insertion input).called? b.aliases with
    | none => cases input <;> cases called; cases inserted
    | some call => rw [← called]; exact applied called ((apply_of_insertion called).symm.trans inserted)
  | build argument =>
    obtain ⟨pattern, _, same⟩ := Except.map_eq_ok_iff.mp answered
    cases same
    exact silent rfl rfl

/-- Other names for an operation make the same effects of the same arguments. -/
theorem Effect.ofFitting?_synonym (settings : Settings) (operation : Operation) (args : List Argument) :
    ofFitting? settings operation.synonym args = ofFitting? settings operation args := by
  cases args using Argument.shapes with
  | unfit args => simp only [ofFitting?, *]
  | _ => cases operation <;> rfl

theorem appended_synonym (settings : Settings) (operation : Operation) (args : List Argument) :
    appended settings operation.synonym args = appended settings operation args := by
  rw [appended, appended, Effect.ofCall, Effect.ofCall, Effect.ofFitting?_synonym]
  cases Effect.ofFitting? settings operation args <;> rfl

theorem appended_builder (settings : Settings) {other : Builder} {pattern : Pattern}
    (built : other.build = .ok pattern) :
    appended settings .matchesBuilder [.builder other] = pattern.source ∧
      appended settings .matches [.builder other] = pattern.source := by
  have called : Effect.ofCall settings .matchesBuilder [.builder other] = .ok (.append pattern.source) := by
    change other.build.map _ = _
    rw [built]
    rfl
  constructor
  · rw [appended, called]
    rfl
  · change appended settings .matchesBuilder [.builder other] = _
    rw [appended, called]
    rfl

/-! ## Runs -/

theorem successes_cons (b : Builder) (request : Request) (rest : List Request) :
    b.successes (request :: rest) = b.successes [request] ++ (b.served request).successes rest := by
  simp only [successes, List.append_nil]

/-- The text that a request finds is kept, and the fragment of what it calls comes behind it. -/
theorem pattern_served (unbroken : request ≠ .call .clear) :
    (b.served request).pattern = b.pattern ++ joined b.settings (b.successes [request]) := by
  cases answered : b.answer request with
  | error e =>
    have refused : b.reply request = .error e := reply_eq_error_iff.mpr answered
    rw [served_of_error answered, successes, refused]
    simp [successes, joined, Except.isOk, Except.toBool]
  | ok both =>
    have accepted : b.reply request = .ok both.1 := reply_eq_ok_iff.mpr ⟨both.2, answered⟩
    rw [served_of_ok answered, pattern_of_answer unbroken answered, successes, accepted, successes, List.append_nil]
    rfl

/-- Without a new start the text only grows, by the fragments in order. -/
theorem pattern_servedAll {requests : List Request} (unbroken : .call .clear ∉ requests) :
    (b.servedAll requests).pattern = b.pattern ++ joined b.settings (b.successes requests) := by
  induction requests generalizing b with
  | nil => simp [successes, joined]
  | cons request rest ih =>
    obtain ⟨first, others⟩ := List.ne_and_not_mem_of_not_mem_cons unbroken
    rw [servedAll_cons, ih others, pattern_served (Ne.symm first), served_settings, b.successes_cons request rest,
      joined_append, String.append_assoc]

theorem served_clear (b : Builder) :
    b.served (.call .clear) = { ofSettings b.settings with aliases := b.aliases } := rfl

/-- The text of a builder is the concatenation of the fragments of the operations that succeeded since the text
was last cleared, and a fragment depends on the settings, the operation and its arguments alone. What is
inserted is the source of the pattern or of what the other builder builds. So the text only grows in between, and
a builder that was cleared cannot be told from a new one with the same settings and aliases. -/
theorem pattern_eq_join (settings : Settings) :
    (∀ earlier since, (earlier = [] ∨ ∃ before, earlier = before ++ [.call .clear]) → .call .clear ∉ since →
      ((ofSettings settings).servedAll (earlier ++ since)).pattern =
        joined settings (((ofSettings settings).servedAll earlier).successes since)) ∧
    ((∀ pattern : Pattern, appended settings .matchesRegexp [.pattern pattern] = pattern.source ∧
        appended settings .matches [.pattern pattern] = pattern.source) ∧
      ∀ (other : Builder) (pattern : Pattern), other.build = .ok pattern →
        appended settings .matchesBuilder [.builder other] = pattern.source ∧
        appended settings .matches [.builder other] = pattern.source) ∧
    (∀ (b : Builder) requests, .call .clear ∉ requests →
      b.pattern.toList <+: (b.servedAll requests).pattern.toList) ∧
    (appended settings .matchesText [.text ""] = "" ∧ appended settings .and [] = "") ∧
    (∀ operation args, appended settings operation.synonym args = appended settings operation args) ∧
    ∀ (b : Builder) requests, let fresh : Builder := { ofSettings b.settings with aliases := b.aliases }
      (b.served (.call .clear)).replies requests = fresh.replies requests ∧
        (b.served (.call .clear)).servedAll requests = fresh.servedAll requests := by
  refine ⟨fun earlier since start unbroken => ?_, ⟨fun pattern => ⟨rfl, rfl⟩, fun other pattern => ?_⟩,
    fun b requests unbroken => ?_, ⟨rfl, rfl⟩, appended_synonym settings, fun b requests => ?_⟩
  · have same : ((ofSettings settings).servedAll earlier).settings = settings := servedAll_settings _ _
    have empty : ((ofSettings settings).servedAll earlier).pattern = "" := by
      rcases start with rfl | ⟨before, rfl⟩
      · rfl
      · rw [servedAll_append, servedAll_cons, servedAll_nil, served_clear]
        rfl
    rw [servedAll_append, pattern_servedAll unbroken, empty, same, String.empty_append]
  · exact appended_builder settings
  · rw [pattern_servedAll unbroken, String.toList_append]
    exact List.prefix_append _ _
  · rw [served_clear]
    exact ⟨rfl, rfl⟩

/-- A lookahead that is ended as a group, an alias and an insertion, after an earlier text was cleared. -/
theorem pattern_eq_join_of_alias :
    let settings : Settings := ⟨true, false, true, []⟩
    let earlier : List Request := [.call (.operation .matchesText [.text "x"]), .call .clear]
    let since : List Request := [.call (.addAlias "if_followed_by" "ahead"), .call (.invocation "ahead" []),
      .call (.operation .endGroup []), .insertion (.text "a+"), .insertion (.unsupported "i32"), .build (.text "g"),
      .call (.invocation "match_end" [])]
    (earlier = [] ∨ ∃ before, earlier = before ++ [.call .clear]) ∧ .call .clear ∉ since ∧
      ((ofSettings settings).servedAll (earlier ++ since)).pattern = "(?=(a\\+))" := by
  intro settings earlier since
  have start : earlier = [] ∨ ∃ before, earlier = before ++ [.call .clear] :=
    .inr ⟨[.call (.operation .matchesText [.text "x"])], rfl⟩
  have unbroken : .call .clear ∉ since := by simp [since]
  refine ⟨start, unbroken, ?_⟩
  rw [(pattern_eq_join settings).1 earlier since start unbroken]
  decide +kernel

end Builder
end PatternComposer
