import PatternComposer.Proofs.Builder.Methods
import PatternComposer.Proofs.Flags

/-! # Changing a builder in place

A builder is changed in place: text, open statements and aliases are written one after the other, and what was
written before a method fails stays written. `InPlace` keeps these steps in their order. That the functions of
the builder may return either a new builder or an error is then a theorem, `on_serve`: no method fails behind
the first thing that it writes. `serve_atomic` says what follows from it for single requests and for runs.
-/

namespace PatternComposer.Builder

/-- A method that changes a builder. What it changed before it failed stays changed. -/
abbrev InPlace (α : Type) := ExceptT Error (StateM Builder) α

namespace InPlace

/-- The outcome of a method and the builder after it. -/
def on {α : Type} (method : InPlace α) (b : Builder) : Except Error α × Builder := method.run.run b

/-! ## Single steps -/

def write (fragment : String) : InPlace Unit := modify fun b => { b with pattern := b.pattern ++ fragment }

/-- Notes that a statement is open. -/
def enter (kind : Statement) : InPlace Unit := modify fun b => { b with nesting := b.nesting.push kind }

/-- Forgets the innermost open statement. With validation it has to be of the given kind. -/
def leave (kind : Statement) : InPlace Unit := do
  let b ← get
  if b.nesting.top? ≠ some kind ∧ b.settings.groupValidation then throw (.missingBegin kind)
  else modify fun b => { b with nesting := ⟨b.nesting.innermostFirst.tail⟩ }

/-! ## Methods -/

def perform : Effect → InPlace Unit
  | .append fragment => write fragment
  | .opening kind fragment => do enter kind; write fragment
  | .closing kind => do leave kind; write ")"

/-- Appends a set in brackets, which is not escaped. -/
def insertSet (bracket characters : String) : InPlace Unit := do write bracket; write characters; write "]"

/-- Appends literal text with the group around it, if it needs one. -/
def insertText (captured : Bool) (text : String) : InPlace Unit := do
  if text.isEmpty then pure ()
  else
    let b ← get
    let escaped := Text.escapeString text
    if b.settings.wrapTextInsideGroup || captured then write "("; write escaped; write ")"
    else if text.length = 1 then write escaped
    else write "(?:"; write escaped; write ")"

/-- Builds another builder, and appends the source. -/
def insertBuilder (other : Builder) : InPlace Unit := do
  let pattern ← MonadExcept.ofExcept other.build
  write pattern.source

def insert : Input → InPlace Unit
  | .text text => insertText false text
  | .pattern pattern => write pattern.source
  | .builder other => insertBuilder other
  | .unsupported type => throw (.illegalArgument (.unsupported type))

def apply (operation : Operation) (args : List Argument) : InPlace Unit :=
  let mismatch : InPlace Unit := throw (.illegalArgument (.mismatch operation (args.map Argument.kind)))
  match args with
  | [] =>
    match Effect.ofNullary? operation with
    | some effect => perform effect
    | none => mismatch
  | [.text text] =>
    match operation with
    | .matches => insert (.text text)
    | .matchesText => insertText false text
    | .matchesCapturedText => insertText true text
    | .matchesFreeText => write text
    | .matchesFor | .matchesOneOf => insertSet "[" text
    | .matchesNotFor | .matchesNotOneOf => insertSet "[^" text
    | _ => mismatch
  | [.pattern pattern] =>
    match operation with
    | .matches => insert (.pattern pattern)
    | .matchesRegexp => write pattern.source
    | _ => mismatch
  | [.builder other] =>
    match operation with
    | .matches => insert (.builder other)
    | .matchesBuilder => insertBuilder other
    | _ => mismatch
  | [.number n] =>
    match operation with
    | .matchesTimes | .withConstraint => write (timesFragment n none)
    | .useGroup => write ("\\" ++ toString n.toNat)
    | _ => mismatch
  | [.number min, .number max] =>
    match operation with
    | .matchesTimes | .withConstraint => write (timesFragment min (some max))
    | _ => mismatch
  | _ => mismatch

def invoke (name : String) (args : List Argument) : InPlace Unit := do
  let b ← get
  match b.aliases.resolve? name with
  | some operation => apply operation args
  | none => throw (.unknownOperation name)

def addAlias (target name : String) : InPlace Unit := do
  let b ← get
  if name.isEmpty then throw (.illegalArgument .emptyAlias)
  else
    match b.aliases.resolve? target with
    | none => throw (.unknownOperation target)
    | some operation =>
      if (b.aliases.resolve? name).isSome || reservedNames.contains name then throw (.aliasExists name)
      else modify fun b => { b with aliases := ⟨b.aliases.entries ++ [⟨name, operation⟩]⟩ }

/-- Removes an alias. There was one if the list is shorter than before. -/
def deleteAlias (name : String) : InPlace Bool := do
  let before ← get
  modify fun b => { b with aliases := ⟨b.aliases.entries.filter fun entry => entry.name != name⟩ }
  let after ← get
  return before.aliases.entries.length != after.aliases.entries.length

def clear : InPlace Unit := do
  modify fun b => { b with pattern := "" }
  modify fun b => { b with nesting := .empty }

def build (argument : FlagsArgument) : InPlace Pattern := do
  let b ← get
  MonadExcept.ofExcept (b.buildWithFlags argument.toFlags)

end InPlace

/-! ## Requests -/

/-- Anything that a builder can be asked for. -/
inductive Request where
  | call (call : Call)
  /-- An insertion of any kind of input, also of one that is refused. -/
  | insertion (input : Input)
  | build (argument : FlagsArgument)

/-- What a request that succeeds is answered with. -/
inductive Reply where
  | done
  /-- Whether there was an alias to remove. -/
  | removed (found : Bool)
  | built (pattern : Pattern)

/-- The steps that a request stands for. -/
def InPlace.serve : Request → InPlace Reply
  | .call (.operation operation args) => do apply operation args; return .done
  | .call (.invocation name args) => do invoke name args; return .done
  | .call (.addAlias operation name) => do addAlias operation name; return .done
  | .call (.deleteAlias name) => do return .removed (← deleteAlias name)
  | .call .clear => do clear; return .done
  | .insertion input => do insert input; return .done
  | .build argument => do return .built (← build argument)

/-- The reply to a request and the builder after it, or why it fails. -/
def answer (b : Builder) : Request → Except Error (Reply × Builder)
  | .call (.deleteAlias name) => .ok (.removed (b.deleteAlias name).2, (b.deleteAlias name).1)
  | .call call => (call.perform b).map fun next => (.done, next)
  | .insertion input => (b.matches input).map fun next => (.done, next)
  | .build argument => (b.buildWithFlags argument.toFlags).map fun pattern => (.built pattern, b)

/-- The outcome of what leaves a builder alone when it fails. -/
def settle {α : Type} (b : Builder) : Except Error (α × Builder) → Except Error α × Builder
  | .ok (value, next) => (.ok value, next)
  | .error e => (.error e, b)

namespace InPlace

variable {α β : Type}

@[simp] theorem on_pure (value : α) (b : Builder) : (pure value : InPlace α).on b = (.ok value, b) := rfl

@[simp] theorem on_throw (e : Error) (b : Builder) : (throw e : InPlace α).on b = (.error e, b) := rfl

@[simp] theorem on_get (b : Builder) : (get : InPlace Builder).on b = (.ok b, b) := rfl

@[simp] theorem on_modify (f : Builder → Builder) (b : Builder) :
    (modify f : InPlace Unit).on b = (.ok (), f b) := rfl

theorem on_bind (method : InPlace α) (next : α → InPlace β) (b : Builder) :
    (method >>= next).on b = match method.on b with
      | (.ok value, after) => (next value).on after
      | (.error e, after) => (.error e, after) := by
  change (method.run >>= ExceptT.bindCont next).run b = _
  rw [StateT.run_bind]
  change (match method.on b with | (value, after) => (ExceptT.bindCont next value).run after) = _
  rcases method.on b with ⟨_ | _, after⟩ <;> rfl

/-! ## Nothing fails behind a write -/

/-- The outcome of a method without a value, given the new builder or the error. -/
def finish (b : Builder) (result : Except Error Builder) : Except Error Unit × Builder :=
  settle b (result.map fun next => ((), next))

theorem on_ofExcept (result : Except Error α) (b : Builder) :
    (MonadExcept.ofExcept result : InPlace α).on b = (result, b) := by
  cases result <;> rfl

theorem on_leave (kind : Statement) (b : Builder) :
    (leave kind).on b = settle b ((b.nesting.pop kind b.settings.groupValidation).map fun nesting =>
      ((), { b with nesting := nesting })) := by
  rw [leave, on_bind, on_get, Nesting.pop]
  by_cases top : b.nesting.top? = some kind <;> cases strict : b.settings.groupValidation <;>
    simp [top, strict, settle, Except.map]

/-- What ends a statement looks at the open statements before it writes. -/
theorem on_perform (effect : Effect) (b : Builder) : (perform effect).on b = finish b (effect.perform b) := by
  cases effect with
  | append fragment => rfl
  | opening kind fragment => rfl
  | closing kind =>
    rw [perform, on_bind, on_leave, Effect.perform, closing]
    cases b.nesting.pop kind b.settings.groupValidation <;> rfl

theorem on_insertSet (bracket characters : String) (b : Builder) :
    (insertSet bracket characters).on b = (.ok (), b.push (bracket ++ characters ++ "]")) := by
  simp [insertSet, write, on_bind, push, String.append_assoc]

theorem on_insertText (captured : Bool) (text : String) (b : Builder) :
    (insertText captured text).on b =
      (.ok (), b.push (textFragment (b.settings.wrapTextInsideGroup || captured) text)) := by
  rw [insertText, textFragment]
  split
  · simp [push]
  · rw [on_bind, on_get]
    dsimp only
    split
    · simp [on_bind, write, push, String.append_assoc]
    · split
      · rfl
      · simp [on_bind, write, push, String.append_assoc]

/-- The other builder is built before anything is written. -/
theorem on_insertBuilder (other b : Builder) : (insertBuilder other).on b = finish b (b.matchesBuilder other) := by
  rw [insertBuilder, on_bind, on_ofExcept, matchesBuilder]
  cases other.build <;> rfl

theorem on_insert (input : Input) (b : Builder) : (insert input).on b = finish b (b.matches input) := by
  cases input with
  | text text =>
    rw [insert, on_insertText, Bool.or_false]
    rfl
  | pattern pattern => rfl
  | builder other => exact on_insertBuilder other b
  | unsupported type => rfl

theorem on_apply (operation : Operation) (args : List Argument) (b : Builder) :
    (apply operation args).on b = finish b (b.apply operation args) := by
  cases args using Argument.shapes with
  | none =>
    rw [apply_eq_perform, apply, Effect.ofCall, Effect.ofFitting?]
    cases Effect.ofNullary? operation with
    | none => rfl
    | some effect => exact on_perform effect b
  | text text =>
    cases operation with
    | «matches» => exact on_insert (.text text) b
    | matchesText => exact on_insert (.text text) b
    | matchesCapturedText =>
      refine (on_insertText true text b).trans ?_
      rw [Bool.or_true]
      rfl
    | matchesFor | matchesOneOf => exact on_insertSet "[" text b
    | matchesNotFor | matchesNotOneOf => exact on_insertSet "[^" text b
    | _ => rfl
  | pattern pattern => cases operation <;> rfl
  | builder other =>
    cases operation with
    | «matches» => exact on_insertBuilder other b
    | matchesBuilder => exact on_insertBuilder other b
    | _ => rfl
  | number n => cases operation <;> rfl
  | numbers min max => cases operation <;> rfl
  | unfit args =>
    simp only [apply, Builder.apply, applyFitting, *]
    rfl

theorem on_invoke (name : String) (args : List Argument) (b : Builder) :
    (invoke name args).on b = finish b (b.invoke name args) := by
  rw [invoke, on_bind, on_get, Builder.invoke]
  dsimp only
  cases b.aliases.resolve? name with
  | none => rfl
  | some operation => exact on_apply operation args b

/-- An alias is added when all conditions on it are met. -/
theorem on_addAlias (target name : String) (b : Builder) :
    (addAlias target name).on b = finish b (b.addAlias target name) := by
  rw [addAlias, on_bind, on_get, Builder.addAlias, AliasRegistry.add]
  dsimp only
  split
  · rfl
  · cases b.aliases.resolve? target with
    | none => rfl
    | some operation =>
      dsimp only
      split <;> rfl

theorem on_deleteAlias (name : String) (b : Builder) :
    (deleteAlias name).on b = (.ok (b.deleteAlias name).2, (b.deleteAlias name).1) := by
  have shorter : (b.aliases.entries.length != (b.aliases.remove name).entries.length) = b.aliases.contains name := by
    rw [Bool.eq_iff_iff, b.aliases.contains_iff_length_remove, bne_iff_ne, ne_comm]
  rw [Builder.deleteAlias, ← shorter]
  rfl

theorem on_build (argument : FlagsArgument) (b : Builder) :
    (build argument).on b = (b.buildWithFlags argument.toFlags, b) := by
  rw [build, on_bind, on_get]
  exact on_ofExcept _ b

/-- Every request is answered as the functions of the builder say, and one that fails changes nothing. -/
theorem on_serve (request : Request) (b : Builder) : (serve request).on b = settle b (b.answer request) := by
  have replied {method : InPlace Unit} {result : Except Error Builder} (same : method.on b = finish b result) :
      (do method; return Reply.done : InPlace Reply).on b = settle b (result.map fun next => (.done, next)) := by
    rw [on_bind, same]
    cases result <;> rfl
  cases request with
  | call call =>
    cases call with
    | operation operation args => exact replied (on_apply operation args b)
    | invocation name args => exact replied (on_invoke name args b)
    | addAlias operation name => exact replied (on_addAlias operation name b)
    | deleteAlias name =>
      rw [serve, on_bind, on_deleteAlias]
      rfl
    | clear => rfl
  | insertion input => exact replied (on_insert input b)
  | build argument =>
    rw [serve, on_bind, on_build, answer]
    cases b.buildWithFlags argument.toFlags <;> rfl

end InPlace

/-! ## Runs of requests -/

variable {b next : Builder} {request : Request} {value : Reply} {error : Error}

def reply (b : Builder) (request : Request) : Except Error Reply := ((InPlace.serve request).on b).1

/-- The builder after a request, also after one that fails. -/
def served (b : Builder) (request : Request) : Builder := ((InPlace.serve request).on b).2

/-- The replies to requests that are made one after the other. -/
def replies (b : Builder) : List Request → List (Except Error Reply)
  | [] => []
  | request :: rest => b.reply request :: (b.served request).replies rest

/-- The builder after requests that are made one after the other. -/
def servedAll (b : Builder) (requests : List Request) : Builder := requests.foldl served b

/-- A run without the requests that fail in it. -/
def succeeding (b : Builder) : List Request → List Request
  | [] => []
  | request :: rest =>
    if (b.reply request).isOk then request :: (b.served request).succeeding rest else (b.served request).succeeding rest

@[simp] theorem servedAll_nil (b : Builder) : b.servedAll [] = b := rfl

@[simp] theorem servedAll_cons (b : Builder) (request : Request) (rest : List Request) :
    b.servedAll (request :: rest) = (b.served request).servedAll rest := rfl

theorem servedAll_append (b : Builder) (first second : List Request) :
    b.servedAll (first ++ second) = (b.servedAll first).servedAll second := List.foldl_append

theorem replies_append (b : Builder) (first second : List Request) :
    b.replies (first ++ second) = b.replies first ++ (b.servedAll first).replies second := by
  induction first generalizing b with
  | nil => rfl
  | cons request rest ih => rw [List.cons_append, replies, ih, replies, servedAll_cons, List.cons_append]

theorem reply_eq_ok_iff : b.reply request = .ok value ↔ ∃ next, b.answer request = .ok (value, next) := by
  rw [reply, InPlace.on_serve]
  cases b.answer request with
  | error e => simp [settle]
  | ok both => simp [settle, Prod.ext_iff]

theorem reply_eq_error_iff : b.reply request = .error error ↔ b.answer request = .error error := by
  rw [reply, InPlace.on_serve]
  cases b.answer request <;> simp [settle]

theorem served_of_ok (answered : b.answer request = .ok (value, next)) : b.served request = next := by
  rw [served, InPlace.on_serve, answered]
  rfl

theorem served_of_error (failed : b.answer request = .error error) : b.served request = b := by
  rw [served, InPlace.on_serve, failed]
  rfl

/-- What a request may change: operations the text and what is open, edits of the aliases nothing but those, and
a build nothing at all. -/
def Request.Confined (b after : Builder) : Request → Prop
  | .call (.operation _ _) | .call (.invocation _ _) | .call .clear | .insertion _ =>
    after = { b with pattern := after.pattern, nesting := after.nesting }
  | .call (.addAlias _ _) | .call (.deleteAlias _) => after = { b with aliases := after.aliases }
  | .build _ => after = b

theorem eq_of_frame (settings : next.settings = b.settings) (aliases : next.aliases = b.aliases) :
    next = { b with pattern := next.pattern, nesting := next.nesting } := by
  rw [← settings, ← aliases]

theorem eq_ok_of_done {result : Except Error Builder}
    (answered : (result.map fun next => (Reply.done, next)) = .ok (value, next)) : result = .ok next := by
  obtain ⟨after, success, same⟩ := Except.map_eq_ok_iff.mp answered
  cases same
  exact success

/-- A request that succeeds changes what it is there for. -/
theorem confined_of_ok (answered : b.answer request = .ok (value, next)) : request.Confined b next := by
  have applied {operation : Operation} {args : List Argument} (applied : b.apply operation args = .ok next) :
      next = { b with pattern := next.pattern, nesting := next.nesting } :=
    eq_of_frame (apply_frame applied).1 (apply_frame applied).2
  cases request with
  | call call =>
    cases call with
    | operation operation args => exact applied (eq_ok_of_done answered)
    | invocation name args =>
      obtain ⟨operation, _, success⟩ := invoke_eq_ok_iff.mp (eq_ok_of_done answered)
      exact applied success
    | addAlias operation name =>
      obtain ⟨aliases, _, rfl⟩ := Except.map_eq_ok_iff.mp (eq_ok_of_done answered)
      rfl
    | deleteAlias name => cases answered; rfl
    | clear => cases answered; rfl
  | insertion input =>
    obtain ⟨fragment, rfl⟩ := exists_push_of_matches (eq_ok_of_done answered)
    rfl
  | build argument =>
    obtain ⟨pattern, _, same⟩ := Except.map_eq_ok_iff.mp answered
    cases same
    rfl

theorem Request.Confined.settings (confined : request.Confined b next) : next.settings = b.settings := by
  cases request with
  | call call => cases call <;> (rw [Request.Confined] at confined; rw [confined])
  | insertion input => rw [Request.Confined] at confined; rw [confined]
  | build argument => rw [Request.Confined] at confined; rw [confined]

theorem Request.Confined.refl (b : Builder) (request : Request) : request.Confined b b := by
  cases request with
  | call call => cases call <;> rfl
  | insertion input => rfl
  | build argument => rfl

theorem confined_served (b : Builder) (request : Request) : request.Confined b (b.served request) := by
  cases answered : b.answer request with
  | error e =>
    rw [served_of_error answered]
    exact .refl b request
  | ok both =>
    rw [served_of_ok answered]
    exact confined_of_ok answered

@[simp] theorem served_settings (b : Builder) (request : Request) : (b.served request).settings = b.settings :=
  (b.confined_served request).settings

@[simp] theorem servedAll_settings (b : Builder) (requests : List Request) :
    (b.servedAll requests).settings = b.settings := by
  induction requests generalizing b with
  | nil => rfl
  | cons request rest ih => rw [servedAll_cons, ih, served_settings]

/-- What fails can be left out: the others are answered in the same way, and the builder ends up the same. -/
theorem succeeding_spec (b : Builder) (requests : List Request) :
    b.replies (b.succeeding requests) = (b.replies requests).filter Except.isOk ∧
      b.servedAll (b.succeeding requests) = b.servedAll requests := by
  induction requests generalizing b with
  | nil => exact ⟨rfl, rfl⟩
  | cons request rest ih =>
    obtain ⟨answers, last⟩ := ih (b.served request)
    rw [succeeding, replies]
    cases replied : b.reply request with
    | ok value =>
      have kept : (Except.ok value : Except Error Reply).isOk = true := rfl
      rw [if_pos kept, List.filter_cons_of_pos kept, replies, replied, answers]
      exact ⟨rfl, last⟩
    | error e =>
      have dropped : ¬ (Except.error e : Except Error Reply).isOk = true := Bool.false_ne_true
      rw [if_neg dropped, List.filter_cons_of_neg dropped, servedAll_cons]
      rw [served_of_error (reply_eq_error_iff.mp replied)] at answers last ⊢
      exact ⟨answers, last⟩

/-- Requests are atomic. Whatever a method has written when it fails, the builder is as it was before; when it
succeeds, it changed what it is there for and never the settings. So the requests of a run that fail can be left
out without any other reply or the last builder being another. -/
theorem serve_atomic (b : Builder) :
    (∀ request error after, (InPlace.serve request).on b = (.error error, after) →
      b.answer request = .error error ∧ after = b) ∧
    (∀ request reply after, (InPlace.serve request).on b = (.ok reply, after) →
      b.answer request = .ok (reply, after) ∧ request.Confined b after ∧ after.settings = b.settings) ∧
    ∀ requests, b.replies (b.succeeding requests) = (b.replies requests).filter Except.isOk ∧
      b.servedAll (b.succeeding requests) = b.servedAll requests := by
  refine ⟨fun request error after outcome => ?_, fun request reply after outcome => ?_, b.succeeding_spec⟩
  · rw [InPlace.on_serve] at outcome
    cases answered : b.answer request with
    | ok both => rw [answered] at outcome; cases outcome
    | error e => rw [answered] at outcome; cases outcome; exact ⟨rfl, rfl⟩
  · rw [InPlace.on_serve] at outcome
    cases answered : b.answer request with
    | error e => rw [answered] at outcome; cases outcome
    | ok both =>
      rw [answered] at outcome
      cases outcome
      have confined := confined_of_ok answered
      exact ⟨rfl, confined, confined.settings⟩

/-- A group that a lookahead is to end, a builder that cannot be inserted and a name that nothing has. -/
theorem serve_atomic_of_mismatch :
    let b := (ofSettings .initial).beginGroup
    let requests : List Request := [.call (.operation .endLookAhead []), .insertion (.builder b),
      .call (.operation .matchesText [.text "a"]), .call (.invocation "shut" []), .call (.operation .endGroup [])]
    (InPlace.serve (.insertion (.builder b))).on b = (.error (.missingEnd .group), b) ∧
      b.answer (.insertion (.builder b)) = .error (.missingEnd .group) ∧
      (b.served (.call (.operation .matchesAny []))).settings = .initial ∧
      b.replies (b.succeeding requests) = [.ok .done, .ok .done] ∧
      (b.servedAll (b.succeeding requests)).pattern = "(a)" := by
  intro b requests
  have outcome : (InPlace.serve (.insertion (.builder b))).on b = (.error (.missingEnd .group), b) := rfl
  have success : (InPlace.serve (.call (.operation .matchesAny []))).on b = (.ok .done, b.matchesAny) := rfl
  obtain ⟨failing, succeeding, runs⟩ := serve_atomic b
  refine ⟨outcome, (failing _ _ _ outcome).1, (succeeding _ _ _ success).2.2, ?_, ?_⟩
  · rw [(runs requests).1]
    rfl
  · rw [(runs requests).2]
    rfl

end PatternComposer.Builder
