import PatternComposer.Operation
import PatternComposer.Statement

/-! # Errors

An error names its cause; the wording is in one place, `Error.message?`. Errors of the engine and
of the configuration readers have no wording of their own.
-/

namespace PatternComposer

/-- The kinds of argument that an operation can be given by name. -/
inductive ArgumentKind where
  | text
  | number
  | pattern
  | builder
deriving DecidableEq, Repr

namespace ArgumentKind

def name : ArgumentKind → String
  | .text => "text"
  | .number => "number"
  | .pattern => "pattern"
  | .builder => "builder"

end ArgumentKind

/-- What is wrong with an argument. -/
inductive ArgumentFault where
  | emptyAlias
  /-- A value of this type cannot be inserted into a pattern. -/
  | unsupported (type : String)
  | mismatch (operation : Operation) (kinds : List ArgumentKind)
deriving DecidableEq, Repr

/-- Why the engine gives no answer. -/
inductive EngineFault where
  | refused
  | gaveUp
  /-- All matches are asked for, and the search for them does not end. -/
  | endless
deriving DecidableEq, Repr

/-- What is wrong with a configuration source. -/
inductive ConfigFault where
  | unknownFormat (path : String)
  | malformed
deriving DecidableEq, Repr

/-- Why a file cannot be read as text. -/
inductive FileFault where
  | missing
  | notUtf8
deriving DecidableEq, Repr

inductive Error where
  /-- An end operation met no statement of its kind. -/
  | missingBegin (kind : Statement)
  /-- A statement was still open when the pattern was built. -/
  | missingEnd (kind : Statement)
  | illegalArgument (fault : ArgumentFault)
  | invalidFlag (flag : Char)
  | engine (fault : EngineFault)
  | unknownOperation (name : String)
  | aliasExists (name : String)
  | config (fault : ConfigFault)
  | file (fault : FileFault)
deriving DecidableEq, Repr

namespace ArgumentFault

def message : ArgumentFault → String
  | .emptyAlias => "alias name must not be empty"
  | .unsupported type => "Illegal argument of type " ++ type
  | .mismatch operation kinds =>
    operation.name ++ " cannot be called with (" ++
      String.intercalate ", " (kinds.map ArgumentKind.name) ++ ")"

end ArgumentFault

namespace FileFault

def message : FileFault → String
  | .missing => "No such file or directory (os error 2)"
  | .notUtf8 => "stream did not contain valid UTF-8"

end FileFault

namespace Error

/-- The wording of an error, if it has one. -/
def message? : Error → Option String
  | .missingBegin kind => some ("Before closing a " ++ kind.name ++ " you must open one")
  | .missingEnd kind => some ("Missing end " ++ kind.name ++ " statement")
  | .illegalArgument fault => some ("illegal argument: " ++ fault.message)
  | .invalidFlag flag => some ("invalid flag '" ++ flag.toString ++ "'")
  | .engine _ => none
  | .unknownOperation name => some ("a method with the name " ++ name ++ " doesn't exist")
  | .aliasExists name =>
    some ("a method or alias with the name " ++ name ++ " already exists")
  | .config (.unknownFormat path) =>
    some ("configuration error: unknown config format: " ++ path)
  | .config .malformed => none
  | .file fault => some ("I/O error: " ++ fault.message)

/-- The error comes from the validation of groups and lookaheads. -/
def isStructural : Error → Bool
  | .missingBegin _ => true
  | .missingEnd _ => true
  | _ => false

/-- The error comes from the engine or from its flags. -/
def isEngine : Error → Bool
  | .engine _ => true
  | .invalidFlag _ => true
  | _ => false

end Error
end PatternComposer

theorem Except.map_eq_ok_iff {ε α β : Type} {x : Except ε α} {f : α → β} {b : β} :
    x.map f = .ok b ↔ ∃ a, x = .ok a ∧ f a = b := by
  cases x <;> simp [Except.map]

theorem Except.map_eq_error_iff {ε α β : Type} {x : Except ε α} {f : α → β} {e : ε} :
    x.map f = .error e ↔ x = .error e := by
  cases x <;> simp [Except.map]
