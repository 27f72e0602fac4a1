import PatternComposer.Config.Format
import PatternComposer.Config.Settings
import PatternComposer.Error
import PatternComposer.Json.Reader
import PatternComposer.Toml.Reader

/-! # Configuration texts and files

A text that is not well-formed is an error. In a well-formed one, options that cannot be used only
raise warnings.
-/

namespace PatternComposer

namespace ConfigValue

mutual

/-- The value that a TOML value stands for. Dates and times become text. -/
def ofToml : Toml.Value → ConfigValue
  | .string s => .string s
  | .integer n => .integer n
  | .float x => .float x
  | .boolean b => .boolean b
  | .datetime d => .string d.text
  | .array items => .array (ofTomlItems items)
  | .table entries => .ofEntries (ofTomlEntries entries)

def ofTomlItems : List Toml.Value → List ConfigValue
  | [] => []
  | v :: rest => ofToml v :: ofTomlItems rest

def ofTomlEntries : List (String × Toml.Value) → List (String × ConfigValue)
  | [] => []
  | (key, v) :: rest => (key, ofToml v) :: ofTomlEntries rest

end

/-- The raw options in a text. -/
def parse (content : String) (format : ConfigFormat) : Except Error ConfigValue :=
  let value : Option ConfigValue := match format with
    | .toml => (Toml.parse? content).map ofToml
    | .json => (Json.parse? content).map ofJson
  match value with
  | some value => .ok value
  | none => .error (.config .malformed)

end ConfigValue

namespace Settings

/-- Loads settings from a text. -/
def ofText (content : String) (format : ConfigFormat) :
    Except Error (Settings × List ConfigWarning) :=
  (ConfigValue.parse content format).map fun raw => load (some raw)

/-- Loads settings from a file, given what is under its path. The format is told by the path, and
first of all. -/
def ofFile (path : String) (bytes : Option ByteArray) :
    Except Error (Settings × List ConfigWarning) :=
  match ConfigFormat.ofPath? path with
  | none => .error (.config (.unknownFormat path))
  | some format =>
    match bytes with
    | none => .error (.file .missing)
    | some bytes =>
      match String.fromUTF8? bytes with
      | none => .error (.file .notUtf8)
      | some content => ofText content format

end Settings
end PatternComposer
