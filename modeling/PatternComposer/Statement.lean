/-! # Statements

Groups and lookaheads are statements: they are begun by one operation and ended by another.
-/

namespace PatternComposer

inductive Statement where
  /-- A capturing or non-capturing group. -/
  | group
  /-- A positive or negative lookahead. -/
  | lookAhead
deriving DecidableEq, Repr

namespace Statement

/-- The name used in messages. -/
def name : Statement → String
  | .group => "group"
  | .lookAhead => "look ahead"

instance : ToString Statement := ⟨name⟩

end Statement
end PatternComposer
