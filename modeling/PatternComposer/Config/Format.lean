/-! # Formats of configuration files

The format is told by the extension of the file name, whatever its case.
-/

namespace PatternComposer

inductive ConfigFormat where
  | toml
  | json
deriving DecidableEq, Repr

/-- The parts of a path between slashes that name something. -/
def pathParts (path : List Char) : List (List Char) :=
  (path.splitOn '/').filter fun part => part != [] && part != ['.']

/-- What stands after the last dot of a file name. A name whose only dot comes first has no
extension. -/
def nameExtension? (name : List Char) : Option (List Char) :=
  let after := name.reverse.takeWhile (· != '.')
  match name.reverse.drop after.length with
  | [] => none
  | [_] => none
  | _ => some after.reverse

/-- The extension of the file that a path leads to. -/
def pathExtension? (path : String) : Option String :=
  match (pathParts path.toList).getLast? with
  | none => none
  | some name =>
    if name == ['.', '.'] then none else (nameExtension? name).map String.ofList

namespace ConfigFormat

def ofExtension? (extension : String) : Option ConfigFormat :=
  match String.ofList (extension.toList.map Char.toLower) with
  | "toml" => some .toml
  | "json" => some .json
  | _ => none

def ofPath? (path : String) : Option ConfigFormat := (pathExtension? path).bind ofExtension?

end ConfigFormat
end PatternComposer
