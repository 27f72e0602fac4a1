import PatternComposer.Toml.Value

/-! # TOML documents

A document is a tree of tables that grows line by line. A table may come into being unnamed, as a
step on the way of a header or of a dotted key; a header may then open it once, if only headers
passed through it. Dotted keys may add to tables that dotted keys made. Nothing else is defined
twice.
-/

namespace PatternComposer.Toml

/-- What stands under a key. `implicit` tables were only passed through; `dotted` ones were made
by dotted keys. -/
inductive Item where
  | value (v : Value)
  | table (implicit dotted : Bool) (entries : List (String × Item))
  | tables (elements : List (List (String × Item)))
deriving Inhabited

namespace Item

/-- Replaces what stands under a key, or adds it at the end. -/
def setEntry (key : String) (item : Item) : List (String × Item) → List (String × Item)
  | [] => [(key, item)]
  | (k, v) :: rest => if k == key then (k, item) :: rest else (k, v) :: setEntry key item rest

/-- Changes the table at the end of a path. Tables missing on the way are made; of an array of
tables the last one is meant. A dotted key does not pass through tables that were defined. -/
def update (dotted : Bool) (change : Item → Option Item) : List String → Item → Option Item
  | [], item => change item
  | key :: path, .table implicit made entries =>
    let changed : Option Item := match entries.lookup key with
      | none => update dotted change path (.table true dotted [])
      | some (.value _) => none
      | some (.tables elements) =>
        elements.getLast?.bind fun last =>
          (update dotted change path (.table false false last)).bind fun
            | .table _ _ entries => some (.tables (elements.dropLast ++ [entries]))
            | _ => none
      | some (.table implicit made entries) =>
        if dotted && !implicit then none
        else update dotted change path (.table implicit made entries)
    changed.map fun item => .table implicit made (setEntry key item entries)
  | _ :: _, _ => none

/-- Adds a key and its value to a table that the key's path leads to. A table named in another way
than by dotted keys takes no dotted keys, and no key is defined twice. -/
def addPair (path : List String) (key : String) (v : Value) (table : Item) : Option Item :=
  update true (fun
    | .table implicit dotted entries =>
      if dotted == path.isEmpty || (entries.lookup key).isSome then none
      else some (.table implicit dotted (entries ++ [(key, .value v)]))
    | _ => none) path table

mutual

def toValue : Item → Value
  | .value v => v
  | .table _ _ entries => .table (toEntries entries)
  | .tables elements => .array (toTables elements)

def toEntries : List (String × Item) → List (String × Value)
  | [] => []
  | (key, item) :: rest => (key, item.toValue) :: toEntries rest

def toTables : List (List (String × Item)) → List Value
  | [] => []
  | entries :: rest => .table (toEntries entries) :: toTables rest

end

end Item

/-- A document so far: what is finished, and the table that lines are added to with its path. -/
structure Document where
  root : Item
  path : List String
  isElement : Bool
  current : Item

namespace Document

def emptyTable : Item := .table false false []

def empty : Document := ⟨emptyTable, [], false, emptyTable⟩

/-- Puts a finished table under the last part of its path. -/
def place (isElement : Bool) (key : String) (current : Item) : Item → Option Item
  | .table implicit dotted entries =>
    match current, isElement with
    | .table _ _ inner, true =>
      match entries.lookup key with
      | none => some (.table implicit dotted (Item.setEntry key (.tables [inner]) entries))
      | some (.tables elements) =>
        some (.table implicit dotted (Item.setEntry key (.tables (elements ++ [inner])) entries))
      | _ => none
    | current, _ => some (.table implicit dotted (Item.setEntry key current entries))
  | _ => none

/-- Finishes the current table. -/
def finish (doc : Document) : Option Item :=
  match doc.path.getLast? with
  | none => some doc.current
  | some key => Item.update false (place doc.isElement key doc.current) doc.path.dropLast doc.root

/-- What a header finds under its last key. -/
def found? (path : List String) (key : String) (root : Item) : Option (Item × Option Item) :=
  match Item.update false some path root with
  | none => none
  | some root =>
    let rec look : List String → Item → Option Item
      | [], .table _ _ entries => entries.lookup key
      | part :: path, .table _ _ entries =>
        match entries.lookup part with
        | some (.tables elements) =>
          elements.getLast?.bind fun last => look path (.table false false last)
        | some item => look path item
        | none => none
      | _, _ => none
    some (root, look path root)

/-- Removes the entry under a key. -/
def remove (key : String) : Item → Option Item
  | .table implicit dotted entries =>
    some (.table implicit dotted (entries.filter fun entry => entry.1 != key))
  | _ => none

/-- Begins the table of a header. A table that only headers passed through keeps what it holds. -/
def openTable (doc : Document) (path : List String) (key : String) : Option Document := do
  let root ← doc.finish
  let (root, found) ← found? path key root
  match found with
  | none => return ⟨root, path ++ [key], false, emptyTable⟩
  | some (.table true false entries) =>
    let root ← Item.update false (remove key) path root
    return ⟨root, path ++ [key], false, .table false false entries⟩
  | some _ => none

/-- Begins a new element of an array of tables. -/
def openElement (doc : Document) (path : List String) (key : String) : Option Document := do
  let root ← doc.finish
  let (root, found) ← found? path key root
  match found with
  | none => return ⟨root, path ++ [key], true, emptyTable⟩
  | some (.tables _) => return ⟨root, path ++ [key], true, emptyTable⟩
  | some _ => none

def addPair (doc : Document) (path : List String) (key : String) (v : Value) : Option Document :=
  (doc.current.addPair path key v).map fun current => { doc with current := current }

/-- The finished document. -/
def value? (doc : Document) : Option Value := doc.finish.map Item.toValue

end Document
end PatternComposer.Toml
