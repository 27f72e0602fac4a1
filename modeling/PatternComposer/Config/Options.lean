import PatternComposer.Config.Value

/-! # Loading options

Raw options are checked against a list of specifications. Loading never fails: a value that is
missing, null or not accepted gives way to its default, unknown keys are left out, and what was
wrong is reported as warnings.
-/

namespace PatternComposer

/-- An option: its key, its default, the values it accepts and what they are called. -/
structure OptionSpec where
  name : String
  default : ConfigValue
  accepts : ConfigValue → Bool
  typeName : String

inductive ConfigWarning where
  /-- The raw options were no table. -/
  | notATable (found : String)
  /-- A key that no option has. -/
  | illegalProperty (name : String)
  /-- A value that its option does not accept. -/
  | wrongType (name expected found : String)
deriving DecidableEq, Repr

namespace ConfigWarning

def message : ConfigWarning → String
  | .notATable found => "Expected a configuration object but found " ++ found
  | .illegalProperty name =>
    "Found illegal property " ++ name ++ " inside the configuration object"
  | .wrongType name expected found =>
    "Found wrong type for property " ++ name ++ ". Expected " ++ expected ++ " but found " ++ found

end ConfigWarning

/-- Options with their values, each name once and in ascending order, and the warnings. -/
structure LoadedOptions where
  values : List (String × ConfigValue)
  warnings : List ConfigWarning

namespace OptionSpec

/-- The value under the option's key, if there is one that is not null. -/
def given? (spec : OptionSpec) (table : List (String × ConfigValue)) : Option ConfigValue :=
  (table.lookup spec.name).filter fun v => !v.isNull

def resolve (spec : OptionSpec) (table : List (String × ConfigValue)) : ConfigValue :=
  match spec.given? table with
  | some v => if spec.accepts v then v else spec.default
  | none => spec.default

def warning? (spec : OptionSpec) (table : List (String × ConfigValue)) : Option ConfigWarning :=
  match spec.given? table with
  | some v => if spec.accepts v then none else some (.wrongType spec.name spec.typeName v.typeName)
  | none => none

end OptionSpec

/-- The entries of raw options, and a warning if they are no table. Null stands for no options. -/
def rawEntries : Option ConfigValue → List (String × ConfigValue) × List ConfigWarning
  | none => ([], [])
  | some .null => ([], [])
  | some (.table entries) => (entries, [])
  | some v => ([], [.notATable v.typeName])

/-- The keys of a table that no option has, in ascending order. -/
def unknownKeys (table : List (String × ConfigValue)) (specs : List OptionSpec) : List String :=
  ((table.map (·.1)).filter fun key => !specs.any fun spec => spec.name == key).mergeSort
    fun a b => decide (a ≤ b)

/-- Resolves raw options. If two options have one name, the later one gives its value. -/
def loadOptions (raw : Option ConfigValue) (specs : List OptionSpec) : LoadedOptions :=
  let (table, notATable) := rawEntries raw
  let values := specs.foldl
    (fun values spec => ConfigValue.insertEntry spec.name (spec.resolve table) values) []
  let wrong := specs.filterMap fun spec => spec.warning? table
  ⟨values, notATable ++ wrong ++ (unknownKeys table specs).map .illegalProperty⟩

namespace LoadedOptions

def get? (options : LoadedOptions) (name : String) : Option ConfigValue :=
  options.values.lookup name

/-- The number of different option names. -/
def size (options : LoadedOptions) : Nat := options.values.length

def isEmpty (options : LoadedOptions) : Bool := options.values.isEmpty

end LoadedOptions
end PatternComposer
