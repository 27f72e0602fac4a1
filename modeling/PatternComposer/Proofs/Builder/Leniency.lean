import PatternComposer.Proofs.Builder.Brackets
import PatternComposer.Proofs.Builder.Building
import PatternComposer.Proofs.Builder.Fragments

/-! # Building without validation

Turning validation off only removes errors. A builder without validation follows one with it through every run in
which nothing fails, with the same replies, text and open statements (`replies_lenient`). By itself it never
complains about the nesting: it only counts how many statements are open, and the end of a statement
that is not open counts nothing. What is inserted keeps the validation of its own.
-/

namespace PatternComposer.Builder

/-- The same settings without validation. -/
def withoutValidation (settings : Settings) : Settings := { settings with groupValidation := false }

/-- The same builder without validation. -/
def lenient (b : Builder) : Builder := { b with settings := withoutValidation b.settings }

/-- How many statements are open behind a request, given how many were open before it. -/
def Request.depth (aliases : AliasRegistry) (depth : Nat) : Request → Nat
  | .call .clear => 0
  | .call made =>
    match made.bracket? aliases with
    | some (.opening _) => depth + 1
    | some (.closing _) => depth - 1
    | none => depth
  | _ => depth

/-- What a request does to the aliases. -/
def Request.edits : Request → List AliasRegistry.Edit
  | .call made => made.edits
  | _ => []

/-- How many statements a run leaves open, counted from its operations and names alone. -/
def countOpen (aliases : AliasRegistry) (depth : Nat) : List Request → Nat
  | [] => depth
  | request :: rest => countOpen (aliases.edited request.edits) (request.depth aliases depth) rest

variable {b next : Builder} {request : Request} {value : Reply} {error : Error}

/-! ## Following a builder with validation -/

/-- Validation has no part in the effect of an operation. -/
theorem Effect.ofCall_withoutValidation (settings : Settings) (operation : Operation) (args : List Argument) :
    ofCall (withoutValidation settings) operation args = ofCall settings operation args := rfl

theorem Effect.perform_lenient {effect : Effect} (performed : effect.perform b = .ok next) :
    effect.perform b.lenient = .ok next.lenient := by
  cases effect with
  | append fragment => cases performed; rfl
  | opening kind fragment => cases performed; rfl
  | closing kind =>
    obtain ⟨nesting, popped, rfl⟩ := Except.map_eq_ok_iff.mp performed
    obtain ⟨_, rfl⟩ := Nesting.pop_eq_ok_iff.mp popped
    rfl

theorem apply_lenient {operation : Operation} {args : List Argument} (applied : b.apply operation args = .ok next) :
    b.lenient.apply operation args = .ok next.lenient := by
  obtain ⟨effect, called, performed⟩ := apply_eq_ok_iff.mp applied
  have same := (Effect.ofCall_withoutValidation b.settings operation args).trans called
  exact apply_eq_ok_iff.mpr ⟨effect, same, Effect.perform_lenient performed⟩

/-- What builds with validation builds without it, into the same pattern. -/
theorem buildWithFlags_lenient {flags : Flags} {pattern : Pattern} (built : b.buildWithFlags flags = .ok pattern) :
    b.lenient.buildWithFlags flags = .ok pattern :=
  (buildWithFlags_eq_ok built).2

theorem answer_lenient (answered : b.answer request = .ok (value, next)) :
    b.lenient.answer request = .ok (value, next.lenient) := by
  have replied {result other : Except Error Builder}
      (mapped : (result.map fun next => (Reply.done, next)) = .ok (value, next))
      (same : result = .ok next → other = .ok next.lenient) :
      (other.map fun next => (Reply.done, next)) = .ok (value, next.lenient) := by
    obtain ⟨after, success, both⟩ := Except.map_eq_ok_iff.mp mapped
    cases both
    rw [same success]
    rfl
  cases request with
  | call made =>
    cases made with
    | operation operation args => exact replied answered apply_lenient
    | invocation name args =>
      refine replied answered fun invoked => ?_
      obtain ⟨operation, resolved, success⟩ := invoke_eq_ok_iff.mp invoked
      exact invoke_eq_ok_iff.mpr ⟨operation, resolved, apply_lenient success⟩
    | addAlias operation name =>
      refine replied answered fun registered => ?_
      obtain ⟨aliases, added, rfl⟩ := Except.map_eq_ok_iff.mp registered
      change (b.aliases.add operation name).map _ = _
      rw [added]
      rfl
    | deleteAlias name => cases answered; rfl
    | clear => cases answered; rfl
  | insertion input =>
    refine replied answered fun inserted => ?_
    cases input with
    | text text => cases inserted; rfl
    | pattern pattern => cases inserted; rfl
    | builder other =>
      obtain ⟨pattern, built, rfl⟩ := Except.map_eq_ok_iff.mp inserted
      change other.build.map _ = _
      rw [built]
      rfl
    | unsupported type => cases inserted
  | build argument =>
    obtain ⟨pattern, built, same⟩ := Except.map_eq_ok_iff.mp answered
    cases same
    rw [answer, buildWithFlags_lenient built]
    rfl

/-- A run in which nothing fails is answered in the same way without validation. -/
theorem replies_lenient {requests : List Request} (accepted : ∀ reply ∈ b.replies requests, reply.isOk) :
    b.lenient.replies requests = b.replies requests ∧
      b.lenient.servedAll requests = (b.servedAll requests).lenient := by
  induction requests generalizing b with
  | nil => exact ⟨rfl, rfl⟩
  | cons request rest ih =>
    rw [replies] at accepted
    obtain ⟨first, others⟩ := List.forall_mem_cons.mp accepted
    cases replied : b.reply request with
    | error e => rw [replied] at first; cases first
    | ok value =>
      obtain ⟨next, answered⟩ := reply_eq_ok_iff.mp replied
      have follows := answer_lenient answered
      have same : b.lenient.served request = (b.served request).lenient := by
        rw [served_of_ok follows, served_of_ok answered]
      obtain ⟨answers, last⟩ := ih others
      rw [replies, replies, servedAll_cons, servedAll_cons, same, answers, last, replied,
        reply_eq_ok_iff.mpr ⟨_, follows⟩]
      exact ⟨rfl, rfl⟩

/-! ## Errors without validation -/

/-- Only a builder that validates complains about its nesting. -/
theorem validates_of_structural {flags : Flags} (failed : b.buildWithFlags flags = .error error)
    (structural : error.isStructural) : b.settings.groupValidation := by
  have outcome := b.buildsTo (.flags flags)
  rw [show b.buildWithFlags (FlagsArgument.flags flags).toFlags = .error error from failed] at outcome
  exact (outcome.classified.1.mp structural).1

/-- The effect of a call can only be in doubt because of a builder that is inserted. -/
theorem Effect.ofFitting?_eq_error {settings : Settings} {operation : Operation} {args : List Argument}
    (failed : ofFitting? settings operation args = some (.error error)) :
    ∃ other, args = [.builder other] ∧ other.build = .error error := by
  rw [ofFitting?.eq_def] at failed
  split at failed
  · obtain ⟨effect, _, same⟩ := Option.map_eq_some_iff.mp failed
    cases same
  · obtain ⟨effect, _, same⟩ := Option.map_eq_some_iff.mp failed
    cases same
  · split at failed <;> cases failed
  · next other =>
    refine ⟨other, rfl, ?_⟩
    split at failed
    · exact Except.map_eq_error_iff.mp (Option.some.inj failed)
    · exact Except.map_eq_error_iff.mp (Option.some.inj failed)
    · cases failed
  · split at failed <;> cases failed
  · split at failed <;> cases failed
  · cases failed

theorem perform_of_lenient (lax : b.settings.groupValidation = false) (effect : Effect) :
    ∃ next, effect.perform b = .ok next := by
  cases effect with
  | append fragment => exact ⟨_, rfl⟩
  | opening kind fragment => exact ⟨_, rfl⟩
  | closing kind =>
    have popped : b.nesting.pop kind b.settings.groupValidation = .ok ⟨b.nesting.innermostFirst.tail⟩ := by
      rw [lax]
      rfl
    exact ⟨_, by rw [Effect.perform, closing, popped]; rfl⟩

/-- Without validation an operation only fails because of its arguments, or as a builder that is inserted. -/
theorem exists_builder_of_apply (lax : b.settings.groupValidation = false) {operation : Operation}
    {args : List Argument} (failed : b.apply operation args = .error error) (structural : error.isStructural) :
    ∃ other, args = [.builder other] ∧ other.build = .error error := by
  rw [apply_eq_perform, Effect.ofCall] at failed
  cases found : Effect.ofFitting? b.settings operation args with
  | none =>
    rw [found] at failed
    cases failed
    exact absurd structural Bool.false_ne_true
  | some result =>
    rw [found] at failed
    cases result with
    | error e =>
      cases failed
      exact Effect.ofFitting?_eq_error found
    | ok effect =>
      obtain ⟨next, performed⟩ := perform_of_lenient lax effect
      have both := performed.symm.trans failed
      cases both

/-- Without validation the nesting is only complained about by what is inserted, if it validates. -/
theorem exists_builder_of_answer (lax : b.settings.groupValidation = false)
    (failed : b.answer request = .error error) (structural : error.isStructural) :
    ∃ operation other, request.called? b.aliases = some (operation, [.builder other]) ∧
      other.settings.groupValidation ∧ other.build = .error error := by
  have inserted {operation : Operation} {args : List Argument}
      (called : request.called? b.aliases = some (operation, args)) (failed : b.apply operation args = .error error) :
      ∃ operation other, request.called? b.aliases = some (operation, [.builder other]) ∧
        other.settings.groupValidation ∧ other.build = .error error := by
    obtain ⟨other, rfl, built⟩ := exists_builder_of_apply lax failed structural
    exact ⟨operation, other, called, validates_of_structural built structural, built⟩
  cases request with
  | call made =>
    cases made with
    | operation operation args => exact inserted rfl (Except.map_eq_error_iff.mp failed)
    | invocation name args =>
      have invoked := Except.map_eq_error_iff.mp failed
      rw [Call.perform, invoke] at invoked
      cases resolved : b.aliases.resolve? name with
      | none =>
        rw [resolved] at invoked
        cases invoked
        exact absurd structural Bool.false_ne_true
      | some operation =>
        rw [resolved] at invoked
        exact inserted (by rw [Request.called?, resolved]; rfl) invoked
    | addAlias operation name =>
      have refused : b.aliases.add operation name = .error error :=
        Except.map_eq_error_iff.mp (Except.map_eq_error_iff.mp failed)
      rw [AliasRegistry.add_eq_error refused] at structural
      split at structural
      · exact absurd structural Bool.false_ne_true
      · split at structural <;> exact absurd structural Bool.false_ne_true
    | deleteAlias name => cases failed
    | clear => cases failed
  | insertion input =>
    have refused := Except.map_eq_error_iff.mp failed
    cases called : (Request.insertion input).called? b.aliases with
    | some call =>
      rw [← called]
      exact inserted called ((apply_of_insertion called).symm.trans refused)
    | none =>
      cases input with
      | unsupported type => cases refused; exact absurd structural Bool.false_ne_true
      | _ => cases called
  | build argument =>
    have validates := validates_of_structural (Except.map_eq_error_iff.mp failed) structural
    rw [lax] at validates
    exact absurd validates Bool.false_ne_true

/-! ## Counting open statements -/

theorem served_call (made : Call) : b.served (.call made) = b.attempt made := by
  have settled : (settle b ((made.perform b).map fun next => (Reply.done, next))).2 = b.attempt made := by
    rw [attempt]
    cases made.perform b <;> rfl
  rw [served, InPlace.on_serve]
  cases made with
  | deleteAlias name => rfl
  | clear => rfl
  | operation operation args => exact settled
  | invocation name args => exact settled
  | addAlias operation name => exact settled

theorem aliases_served (b : Builder) (request : Request) :
    (b.served request).aliases = b.aliases.edited request.edits := by
  cases request with
  | call made => rw [served_call, aliases_attempt]; rfl
  | insertion input =>
    have confined := b.confined_served (.insertion input)
    rw [Request.Confined] at confined
    rw [confined]
    rfl
  | build argument =>
    rw [show b.served (.build argument) = b from b.confined_served (.build argument)]
    rfl

theorem depth_attempt (lax : b.settings.groupValidation = false) {made : Call} (unbroken : made ≠ .clear) :
    (b.attempt made).nesting.depth = (Request.call made).depth b.aliases b.nesting.depth := by
  rw [Request.depth]
  · cases found : made.bracket? b.aliases with
    | none => rw [attempt_nesting found unbroken]
    | some bracket =>
      cases bracket with
      | opening kind =>
        obtain ⟨fragment, performed⟩ := perform_opening found
        rw [attempt_of_perform performed]
        rfl
      | closing kind =>
        obtain ⟨next, performed⟩ := perform_of_lenient lax (.closing kind)
        rw [attempt_of_perform ((perform_closing found).trans performed)]
        obtain ⟨nesting, popped, rfl⟩ := Except.map_eq_ok_iff.mp performed
        obtain ⟨_, rfl⟩ := Nesting.pop_eq_ok_iff.mp popped
        exact List.length_tail
  · rintro rfl
    exact unbroken rfl

theorem depth_served (lax : b.settings.groupValidation = false) (request : Request) :
    (b.served request).nesting.depth = request.depth b.aliases b.nesting.depth := by
  cases request with
  | call made =>
    by_cases clears : made = .clear
    · rw [clears]
      rfl
    · rw [served_call]
      exact depth_attempt lax clears
  | insertion input =>
    cases answered : b.answer (.insertion input) with
    | error e => rw [served_of_error answered]; rfl
    | ok both =>
      obtain ⟨next, inserted, same⟩ := Except.map_eq_ok_iff.mp answered
      obtain ⟨fragment, rfl⟩ := exists_push_of_matches inserted
      rw [served_of_ok answered, ← same]
      rfl
  | build argument =>
    rw [show b.served (.build argument) = b from b.confined_served (.build argument)]
    rfl

theorem depth_servedAll (lax : b.settings.groupValidation = false) (requests : List Request) :
    (b.servedAll requests).nesting.depth = countOpen b.aliases b.nesting.depth requests := by
  induction requests generalizing b with
  | nil => rfl
  | cons request rest ih =>
    rw [servedAll_cons, ih (by rwa [served_settings]), aliases_served, depth_served lax, countOpen]

/-- Turning validation off only removes errors. A run in which nothing fails goes the same way without validation,
step by step, and what can be built on the way is built into the same pattern. Without validation no request fails
because of the nesting, except for that of a builder that is inserted and validates itself, and the number
of open statements is that of a counter which never falls below zero. -/
theorem withoutValidation_spec (settings : Settings) :
    (∀ requests, (∀ reply ∈ (ofSettings settings).replies requests, reply.isOk) →
      (ofSettings (withoutValidation settings)).replies requests = (ofSettings settings).replies requests ∧
      ∀ before after, requests = before ++ after →
        ((ofSettings (withoutValidation settings)).servedAll before).pattern =
          ((ofSettings settings).servedAll before).pattern ∧
        ((ofSettings (withoutValidation settings)).servedAll before).openStatements =
          ((ofSettings settings).servedAll before).openStatements ∧
        ∀ (argument : FlagsArgument) (pattern : Pattern),
          ((ofSettings settings).servedAll before).buildWithFlags argument.toFlags = .ok pattern →
            ((ofSettings (withoutValidation settings)).servedAll before).buildWithFlags argument.toFlags =
              .ok pattern) ∧
    (∀ requests request error, let b := (ofSettings (withoutValidation settings)).servedAll requests
      b.reply request = .error error → error.isStructural →
        ∃ operation other, request.called? b.aliases = some (operation, [.builder other]) ∧
          other.settings.groupValidation ∧ other.build = .error error) ∧
    ∀ requests, ((ofSettings (withoutValidation settings)).servedAll requests).openStatements.length =
      countOpen .empty 0 requests := by
  have lax (requests : List Request) :
      ((ofSettings (withoutValidation settings)).servedAll requests).settings.groupValidation = false := by
    rw [servedAll_settings]
    rfl
  refine ⟨fun requests accepted => ⟨(replies_lenient accepted).1, ?_⟩, fun requests request error => ?_,
    fun requests => ?_⟩
  · rintro before after rfl
    rw [replies_append] at accepted
    have same := (replies_lenient (List.forall_mem_append.mp accepted).1).2
    have other : (ofSettings (withoutValidation settings)).servedAll before =
        ((ofSettings settings).servedAll before).lenient := same
    rw [other]
    exact ⟨rfl, rfl, fun argument pattern => buildWithFlags_lenient⟩
  · exact fun failed => exists_builder_of_answer (lax requests) (reply_eq_error_iff.mp failed)
  · rw [openStatements, Nesting.toList, List.length_reverse]
    exact depth_servedAll rfl requests

/-- A group begun by an alias and ended, then ends of statements that are not open, and an open group inserted. -/
theorem withoutValidation_spec_of_stray :
    let settings : Settings := ⟨true, false, false, ['i']⟩
    let requests : List Request := [.call (.addAlias "begin_group" "paren"), .call (.invocation "paren" []),
      .call (.operation .matchesText [.text "a"]), .call (.operation .endGroup [])]
    let stray : List Request := [.call (.operation .endGroup []), .call (.operation .ifFollowedBy []),
      .call (.operation .endGroup []), .call (.operation .beginGroup [])]
    let other := (ofSettings settings).beginGroup
    (∀ reply ∈ (ofSettings settings).replies requests, reply.isOk) ∧
      ((ofSettings (withoutValidation settings)).servedAll requests).pattern = "(a)" ∧
      ((ofSettings (withoutValidation settings)).servedAll stray).openStatements.length = 1 ∧
      (ofSettings (withoutValidation settings)).reply (.insertion (.builder other)) =
        .error (.missingEnd .group) ∧
      ∃ operation nested,
        (Request.insertion (.builder other)).called? .empty = some (operation, [.builder nested]) ∧
        nested.settings.groupValidation ∧ nested.build = .error (.missingEnd .group) := by
  intro settings requests stray other
  obtain ⟨follows, errors, counted⟩ := withoutValidation_spec settings
  have accepted : ∀ reply ∈ (ofSettings settings).replies requests, reply.isOk := by decide +kernel
  have refused : (ofSettings (withoutValidation settings)).reply (.insertion (.builder other)) =
      .error (.missingEnd .group) := rfl
  refine ⟨accepted, ?_, counted stray, refused, errors [] _ _ refused rfl⟩
  rw [((follows requests accepted).2 requests [] (List.append_nil _).symm).1]
  decide +kernel

end PatternComposer.Builder
