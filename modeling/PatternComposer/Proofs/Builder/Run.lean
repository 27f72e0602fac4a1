import PatternComposer.Proofs.Builder.Effect

/-! # Runs of a builder

A run is a list of calls made one after the other on one builder. A call that fails leaves the
builder as it was, and the run goes on. `attempt_cases` says what a single call can do, which is
all that properties of runs need to know about the operations.
-/

namespace PatternComposer.Builder

/-- A call that may change a builder. -/
inductive Call where
  | operation (operation : Operation) (args : List Argument)
  /-- An operation called by its name or by an alias. -/
  | invocation (name : String) (args : List Argument)
  | addAlias (operation name : String)
  | deleteAlias (name : String)
  | clear

namespace Call

def perform (b : Builder) : Call → Except Error Builder
  | .operation op args => b.apply op args
  | .invocation name args => b.invoke name args
  | .addAlias op name => b.addAlias op name
  | .deleteAlias name => .ok (b.deleteAlias name).1
  | .clear => .ok b.clear

end Call

/-- The builder after a call, which a failing call leaves as it was. -/
def attempt (b : Builder) (call : Call) : Builder :=
  match call.perform b with
  | .ok next => next
  | .error _ => b

theorem attempt_of_perform {b next : Builder} {call : Call} (performed : call.perform b = .ok next) :
    b.attempt call = next := by
  rw [attempt, performed]

theorem attempt_of_error {b : Builder} {call : Call} {error : Error} (failed : call.perform b = .error error) :
    b.attempt call = b := by
  rw [attempt, failed]

/-- The builder after all calls of a run. -/
def run (b : Builder) (calls : List Call) : Builder := calls.foldl attempt b

@[simp] theorem run_nil (b : Builder) : b.run [] = b := rfl

@[simp] theorem run_cons (b : Builder) (call : Call) (calls : List Call) :
    b.run (call :: calls) = (b.attempt call).run calls := rfl

/-- What one call can do: nothing, start over, change the aliases, or perform an effect. -/
theorem attempt_cases (b : Builder) (call : Call) :
    b.attempt call = b ∨ b.attempt call = b.clear ∨
      (∃ aliases, b.attempt call = { b with aliases := aliases }) ∨
      ∃ operation args effect, Effect.ofCall b.settings operation args = .ok effect ∧
        effect.perform b = .ok (b.attempt call) := by
  rw [attempt]
  split
  · next next performed =>
    have applied {operation args} (success : b.apply operation args = .ok next) :
        ∃ operation args effect, Effect.ofCall b.settings operation args = .ok effect ∧
          effect.perform b = .ok next := by
      obtain ⟨effect, called, performed⟩ := apply_eq_ok_iff.mp success
      exact ⟨operation, args, effect, called, performed⟩
    cases call with
    | operation op args => exact .inr (.inr (.inr (applied performed)))
    | invocation name args =>
      obtain ⟨operation, _, success⟩ := invoke_eq_ok_iff.mp performed
      exact .inr (.inr (.inr (applied success)))
    | addAlias op name =>
      obtain ⟨aliases, _, rfl⟩ := Except.map_eq_ok_iff.mp performed
      exact .inr (.inr (.inl ⟨aliases, rfl⟩))
    | deleteAlias name => cases performed; exact .inr (.inr (.inl ⟨_, rfl⟩))
    | clear => cases performed; exact .inr (.inl rfl)
  · exact .inl rfl

theorem attempt_settings (b : Builder) (call : Call) : (b.attempt call).settings = b.settings := by
  obtain same | same | ⟨aliases, same⟩ | ⟨_, _, effect, _, performed⟩ := b.attempt_cases call
  · rw [same]
  · rw [same]; rfl
  · rw [same]
  · exact (Effect.perform_frame performed).1

@[simp] theorem run_settings (b : Builder) (calls : List Call) :
    (b.run calls).settings = b.settings := by
  induction calls generalizing b with
  | nil => rfl
  | cons call rest ih => rw [run_cons, ih, attempt_settings]

end PatternComposer.Builder
