import PatternComposer.Decimal.Nearest
import PatternComposer.Json.Value

/-! # Configuration values

Options arrive as untyped values, whatever notation they were written in. A table keeps its keys in
ascending order, each once, so tables with the same members are the same value.
-/

namespace PatternComposer

inductive ConfigValue where
  | string (s : String)
  | integer (n : Int)
  | float (x : Float)
  | boolean (b : Bool)
  | array (items : List ConfigValue)
  | table (entries : List (String × ConfigValue))
  | null
deriving Inhabited

namespace ConfigValue

/-- Puts a value under a key into ascending entries, in place of an earlier one. -/
def insertEntry (key : String) (value : ConfigValue) :
    List (String × ConfigValue) → List (String × ConfigValue)
  | [] => [(key, value)]
  | (k, v) :: rest =>
    if key < k then (key, value) :: (k, v) :: rest
    else if key = k then (key, value) :: rest
    else (k, v) :: insertEntry key value rest

/-- The table of some entries. Of two with one key the last one counts. -/
def ofEntries (entries : List (String × ConfigValue)) : ConfigValue :=
  .table (entries.foldl (fun table (key, value) => insertEntry key value table) [])

/-- Puts a value under a key if this is a table. -/
def insert (table : ConfigValue) (key : String) (value : ConfigValue) : ConfigValue :=
  match table with
  | .table entries => .table (insertEntry key value entries)
  | other => other

def string? : ConfigValue → Option String
  | .string s => some s
  | _ => none

def integer? : ConfigValue → Option Int
  | .integer n => some n
  | _ => none

def boolean? : ConfigValue → Option Bool
  | .boolean b => some b
  | _ => none

def array? : ConfigValue → Option (List ConfigValue)
  | .array items => some items
  | _ => none

def table? : ConfigValue → Option (List (String × ConfigValue))
  | .table entries => some entries
  | _ => none

/-- The value under a key of a table. -/
def get? (value : ConfigValue) (key : String) : Option ConfigValue :=
  value.table?.bind fun entries => entries.lookup key

def isNull : ConfigValue → Bool
  | .null => true
  | _ => false

/-- The type as it is named in warnings. Both kinds of number have the same name. -/
def typeName : ConfigValue → String
  | .string _ => "string"
  | .integer _ => "number"
  | .float _ => "number"
  | .boolean _ => "boolean"
  | .array _ => "array"
  | .table _ => "object"
  | .null => "null"

mutual

/-- Equality of values. Doubles are compared as numbers: zero equals negative zero, and what is
not a number equals nothing. -/
def beq : ConfigValue → ConfigValue → Bool
  | .string s, .string t => s == t
  | .integer m, .integer n => m == n
  | .float x, .float y => x == y
  | .boolean a, .boolean b => a == b
  | .array s, .array t => beqItems s t
  | .table s, .table t => beqEntries s t
  | .null, .null => true
  | _, _ => false

def beqItems : List ConfigValue → List ConfigValue → Bool
  | [], [] => true
  | v :: s, w :: t => v.beq w && beqItems s t
  | _, _ => false

def beqEntries : List (String × ConfigValue) → List (String × ConfigValue) → Bool
  | [], [] => true
  | (k, v) :: s, (l, w) :: t => k == l && v.beq w && beqEntries s t
  | _, _ => false

end

instance : BEq ConfigValue := ⟨beq⟩

/-- The range of integers; a number beyond it becomes a double. -/
def isInteger (n : Int) : Bool :=
  decide (-0x8000000000000000 ≤ n) && decide (n < 0x8000000000000000)

/-- The double nearest to an integer. -/
def toDouble (n : Int) : Float :=
  if n < 0 then -Decimal.nearest n.natAbs 1 else Decimal.nearest n.natAbs 1

mutual

/-- The value that a JSON value stands for. -/
def ofJson : Json.Value → ConfigValue
  | .null => .null
  | .bool b => .boolean b
  | .int n => if isInteger n then .integer n else .float (toDouble n)
  | .float x => .float x
  | .string s => .string s
  | .array items => .array (ofJsonItems items)
  | .object members => .ofEntries (ofJsonMembers members)

def ofJsonItems : List Json.Value → List ConfigValue
  | [] => []
  | v :: rest => ofJson v :: ofJsonItems rest

def ofJsonMembers : List (String × Json.Value) → List (String × ConfigValue)
  | [] => []
  | (key, v) :: rest => (key, ofJson v) :: ofJsonMembers rest

end

end ConfigValue
end PatternComposer
