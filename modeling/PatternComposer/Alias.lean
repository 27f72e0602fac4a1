import PatternComposer.Error

/-! # Aliases

Other names for operations. An alias is bound to an operation, not to another alias, and it never
takes the name of an operation, of another alias or of a builder method that is no operation.
-/

namespace PatternComposer

/-- Names of builder methods that are not operations. -/
def reservedNames : List String := [
  "new", "build", "build_with_flags", "clear", "clone", "to_string", "as_str", "configuration",
  "open_statements", "add_alias", "delete_alias", "aliases", "invoke", "apply"]

structure Alias where
  name : String
  operation : Operation
deriving DecidableEq, Repr

/-- Aliases in the order in which they were added. -/
structure AliasRegistry where
  entries : List Alias
deriving DecidableEq, Repr

namespace AliasRegistry

def empty : AliasRegistry := ⟨[]⟩

instance : Inhabited AliasRegistry := ⟨empty⟩

/-- The operation that an alias stands for. -/
def lookup? (registry : AliasRegistry) (name : String) : Option Operation :=
  (registry.entries.find? fun entry => entry.name == name).map (·.operation)

/-- The operation that a name or an alias stands for. -/
def resolve? (registry : AliasRegistry) (name : String) : Option Operation :=
  Operation.ofName? name <|> registry.lookup? name

/-- Adds an alias for an operation, which may itself be given by an alias. -/
def add (registry : AliasRegistry) (target name : String) : Except Error AliasRegistry :=
  if name.isEmpty then .error (.illegalArgument .emptyAlias)
  else
    match registry.resolve? target with
    | none => .error (.unknownOperation target)
    | some operation =>
      if (registry.resolve? name).isSome || reservedNames.contains name then
        .error (.aliasExists name)
      else .ok ⟨registry.entries ++ [⟨name, operation⟩]⟩

def remove (registry : AliasRegistry) (name : String) : AliasRegistry :=
  ⟨registry.entries.filter fun entry => entry.name != name⟩

def contains (registry : AliasRegistry) (name : String) : Bool :=
  registry.entries.any fun entry => entry.name == name

end AliasRegistry
end PatternComposer
