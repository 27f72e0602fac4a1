import PatternComposer.Config.Options

/-! # Settings of a builder

Four options decide how a builder works. `Settings.load` takes them from raw options and
`Settings.toJson` writes them down; loading what was written gives the settings back.
-/

namespace PatternComposer

structure Settings where
  /-- Every statement has to be ended, and by an operation of its kind. -/
  groupValidation : Bool
  /-- The whole pattern becomes a capturing group when it is built. -/
  wrapInsideGroup : Bool
  /-- Every inserted text becomes a capturing group. -/
  wrapTextInsideGroup : Bool
  /-- The flags of every build, in order. -/
  flags : List Char
deriving DecidableEq, Repr

namespace Settings

def groupValidationKey : String := "groupValidation"
def wrapInsideGroupKey : String := "wrapInsideGroup"
def wrapTextInsideGroupKey : String := "wrapTextInsideGroup"
def flagsKey : String := "flags"

def initial : Settings := ⟨true, false, false, []⟩

instance : Inhabited Settings := ⟨initial⟩

/-- A text of exactly one character. -/
def flag? (value : ConfigValue) : Option Char :=
  match value.string?.map String.toList with
  | some [c] => some c
  | _ => none

def isFlagList (value : ConfigValue) : Bool :=
  value.array?.any fun items => items.all fun item => (flag? item).isSome

def isBoolean (value : ConfigValue) : Bool := value.boolean?.isSome

/-- The options of a builder. -/
def options : List OptionSpec := [
  ⟨groupValidationKey, .boolean true, isBoolean, "boolean"⟩,
  ⟨wrapInsideGroupKey, .boolean false, isBoolean, "boolean"⟩,
  ⟨wrapTextInsideGroupKey, .boolean false, isBoolean, "boolean"⟩,
  ⟨flagsKey, .array [], isFlagList, "array"⟩]

/-- The settings that loaded options amount to. -/
def ofLoaded (loaded : LoadedOptions) : Settings :=
  let boolean (key : String) (default : Bool) : Bool :=
    ((loaded.get? key).bind ConfigValue.boolean?).getD default
  { groupValidation := boolean groupValidationKey initial.groupValidation
    wrapInsideGroup := boolean wrapInsideGroupKey initial.wrapInsideGroup
    wrapTextInsideGroup := boolean wrapTextInsideGroupKey initial.wrapTextInsideGroup
    flags := (((loaded.get? flagsKey).bind ConfigValue.array?).getD []).filterMap fun item =>
      item.string?.bind fun s => s.toList.head? }

/-- Loads settings from raw options, with warnings about those that could not be used. -/
def load (raw : Option ConfigValue) : Settings × List ConfigWarning :=
  let loaded := loadOptions raw options
  (ofLoaded loaded, loaded.warnings)

/-- The settings as a JSON object, each flag a text of one character. -/
def toJson (settings : Settings) : Json.Value :=
  .object [
    (groupValidationKey, .bool settings.groupValidation),
    (wrapInsideGroupKey, .bool settings.wrapInsideGroup),
    (wrapTextInsideGroupKey, .bool settings.wrapTextInsideGroup),
    (flagsKey, .array (settings.flags.map fun flag => .string flag.toString))]

end Settings
end PatternComposer
