import Mathlib
import PatternComposer.Alias

/-! # The alias registry as a map

Every registry that additions and removals lead to is well-formed: its names are distinct and none of them
means anything else. That is what makes the order in which names and aliases are looked up irrelevant, and
what makes a removal drop a single entry. An entry is bound to an operation, so removing the alias that it
was added through does not touch it.
-/

namespace PatternComposer

/-- With distinct keys, the first element with a key is the only one. -/
theorem find?_key_eq_some_iff {α : Type} {key : α → String} {xs : List α} (distinct : (xs.map key).Nodup)
    {name : String} {x : α} : xs.find? (fun y => key y == name) = some x ↔ x ∈ xs ∧ key x = name := by
  constructor
  · intro found
    exact ⟨List.mem_of_find?_eq_some found, by simpa using List.find?_some found⟩
  · rintro ⟨member, rfl⟩
    have listed : (xs.find? fun y => key y == key x).isSome := List.find?_isSome.mpr ⟨x, member, by simp⟩
    obtain ⟨y, found⟩ := Option.isSome_iff_exists.mp listed
    have same : key y = key x := by simpa using List.find?_some found
    rw [found, List.inj_on_of_nodup_map distinct (List.mem_of_find?_eq_some found) member same]

theorem Operation.nodup_names : (all.map name).Nodup := by decide +kernel

theorem Operation.ofName?_eq_some_iff {name : String} {operation : Operation} :
    ofName? name = some operation ↔ operation.name = name := by
  rw [ofName?, find?_key_eq_some_iff nodup_names]
  exact and_iff_right (mem_all operation)

theorem Operation.ofName?_eq_none_iff {name : String} :
    ofName? name = none ↔ ∀ operation : Operation, operation.name ≠ name := by
  rw [Option.eq_none_iff_forall_ne_some]
  exact forall_congr' fun _ => not_congr ofName?_eq_some_iff

namespace AliasRegistry

variable {registry next : AliasRegistry} {target name : String} {operation : Operation}

/-! ## Looking up -/

theorem contains_iff : registry.contains name ↔ ∃ entry ∈ registry.entries, entry.name = name := by
  simp [contains]

theorem lookup?_eq_none_iff : registry.lookup? name = none ↔ ∀ entry ∈ registry.entries, entry.name ≠ name := by
  simp [lookup?]

theorem resolve?_eq_none_iff :
    registry.resolve? name = none ↔
      (∀ operation : Operation, operation.name ≠ name) ∧ ∀ entry ∈ registry.entries, entry.name ≠ name := by
  rw [resolve?, ← Operation.ofName?_eq_none_iff, ← lookup?_eq_none_iff]
  cases Operation.ofName? name <;> simp

/-- No two entries have one name, and no entry has a name with another meaning. -/
structure WellFormed (registry : AliasRegistry) : Prop where
  distinct : (registry.entries.map (·.name)).Nodup
  nonempty : ∀ entry ∈ registry.entries, entry.name ≠ ""
  free : ∀ entry ∈ registry.entries, ∀ operation : Operation, operation.name ≠ entry.name
  unreserved : ∀ entry ∈ registry.entries, entry.name ∉ reservedNames

namespace WellFormed

theorem lookup?_eq_some_iff (formed : registry.WellFormed) :
    registry.lookup? name = some operation ↔ ⟨name, operation⟩ ∈ registry.entries := by
  rw [lookup?, Option.map_eq_some_iff]
  constructor
  · rintro ⟨entry, found, rfl⟩
    obtain ⟨member, rfl⟩ := (find?_key_eq_some_iff formed.distinct).mp found
    exact member
  · intro member
    exact ⟨_, (find?_key_eq_some_iff formed.distinct).mpr ⟨member, rfl⟩, rfl⟩

/-- The name of an operation is no alias. -/
theorem lookup?_name (formed : registry.WellFormed) (operation : Operation) :
    registry.lookup? operation.name = none :=
  lookup?_eq_none_iff.mpr fun entry member same => formed.free entry member operation same.symm

/-- Looking up aliases first would make no difference. -/
theorem lookup?_orElse (formed : registry.WellFormed) (name : String) :
    (registry.lookup? name <|> Operation.ofName? name) = registry.resolve? name := by
  rw [resolve?]
  cases named : Operation.ofName? name with
  | none => simp
  | some operation =>
    obtain rfl := Operation.ofName?_eq_some_iff.mp named
    rw [formed.lookup?_name]
    rfl

theorem resolve?_eq_some_iff (formed : registry.WellFormed) :
    registry.resolve? name = some operation ↔
      operation.name = name ∨ ⟨name, operation⟩ ∈ registry.entries := by
  rw [resolve?, ← formed.lookup?_eq_some_iff, ← Operation.ofName?_eq_some_iff]
  cases named : Operation.ofName? name with
  | none => simp
  | some other =>
    obtain rfl := Operation.ofName?_eq_some_iff.mp named
    simp [formed.lookup?_name]

end WellFormed

/-! ## Additions and removals -/

/-- The operation that an addition binds a name to, if the name can be added. -/
structure Addable (registry : AliasRegistry) (target name : String) (operation : Operation) : Prop where
  nonempty : name ≠ ""
  resolved : registry.resolve? target = some operation
  unresolved : registry.resolve? name = none
  unreserved : name ∉ reservedNames

/-- The registry with an entry more, behind the others. -/
def append (registry : AliasRegistry) (entry : Alias) : AliasRegistry := ⟨registry.entries ++ [entry]⟩

theorem exists_addable_iff :
    (∃ operation, registry.Addable target name operation) ↔
      name ≠ "" ∧ (registry.resolve? target).isSome ∧ registry.resolve? name = none ∧
        name ∉ reservedNames := by
  constructor
  · rintro ⟨operation, addable⟩
    exact ⟨addable.nonempty, Option.isSome_iff_exists.mpr ⟨operation, addable.resolved⟩, addable.unresolved,
      addable.unreserved⟩
  · rintro ⟨nonempty, resolved, unresolved, unreserved⟩
    obtain ⟨operation, resolved⟩ := Option.isSome_iff_exists.mp resolved
    exact ⟨operation, nonempty, resolved, unresolved, unreserved⟩

theorem add_of_addable (addable : registry.Addable target name operation) :
    registry.add target name = .ok (registry.append ⟨name, operation⟩) := by
  simp [add, append, addable.nonempty, addable.resolved, addable.unresolved, addable.unreserved]

/-- Where a name cannot be added, the first of three reasons is reported. -/
theorem add_of_not_addable (refused : ¬ ∃ operation, registry.Addable target name operation) :
    registry.add target name = .error (
      if name = "" then .illegalArgument .emptyAlias
      else if registry.resolve? target = none then .unknownOperation target
      else .aliasExists name) := by
  rw [add]
  by_cases empty : name = ""
  · simp [empty]
  · cases resolved : registry.resolve? target with
    | none => simp [empty]
    | some operation =>
      -- of the four conditions, the two on the name's other meanings are left to fail
      have taken : (registry.resolve? name).isSome ∨ name ∈ reservedNames := by
        by_contra free
        obtain ⟨unresolved, unreserved⟩ := not_or.mp free
        exact refused ⟨operation, empty, resolved, by simpa using unresolved, unreserved⟩
      simp [empty, taken]

theorem add_eq_ok_iff :
    registry.add target name = .ok next ↔
      ∃ operation, registry.Addable target name operation ∧ registry.append ⟨name, operation⟩ = next := by
  constructor
  · intro added
    by_cases addable : ∃ operation, registry.Addable target name operation
    · obtain ⟨operation, addable⟩ := addable
      rw [add_of_addable addable] at added
      exact ⟨operation, addable, Except.ok.inj added⟩
    · rw [add_of_not_addable addable] at added
      cases added
  · rintro ⟨operation, addable, rfl⟩
    exact add_of_addable addable

theorem add_eq_error {error : Error} (failed : registry.add target name = .error error) :
    error = if name = "" then .illegalArgument .emptyAlias
      else if registry.resolve? target = none then .unknownOperation target
      else .aliasExists name := by
  have refused : ¬ ∃ operation, registry.Addable target name operation := by
    rintro ⟨operation, addable⟩
    rw [add_of_addable addable] at failed
    cases failed
  rw [add_of_not_addable refused] at failed
  exact (Except.error.inj failed).symm

/-- A change of a registry. -/
inductive Edit where
  | add (target name : String)
  | remove (name : String)

/-- The registry after an edit. An addition that fails leaves it as it was. -/
def edit (registry : AliasRegistry) : Edit → AliasRegistry
  | .add target name =>
    match registry.add target name with
    | .ok next => next
    | .error _ => registry
  | .remove name => registry.remove name

/-- The registry after edits one after the other. -/
def edited (registry : AliasRegistry) (edits : List Edit) : AliasRegistry := edits.foldl edit registry

theorem edited_append (registry : AliasRegistry) (edits more : List Edit) :
    registry.edited (edits ++ more) = (registry.edited edits).edited more := List.foldl_append

/-- An edit adds an entry, removes a name or does nothing. -/
theorem edit_cases (registry : AliasRegistry) (change : Edit) :
    registry.edit change = registry ∨
      (∃ name, change = .remove name ∧ registry.edit change = registry.remove name) ∨
      ∃ target name operation, registry.Addable target name operation ∧
        registry.edit change = registry.append ⟨name, operation⟩ := by
  cases change with
  | remove name => exact .inr (.inl ⟨name, rfl, rfl⟩)
  | add target name =>
    rw [edit]
    cases added : registry.add target name with
    | error e => exact .inl rfl
    | ok next =>
      obtain ⟨operation, addable, rfl⟩ := add_eq_ok_iff.mp added
      exact .inr (.inr ⟨target, name, operation, addable, rfl⟩)

theorem wellFormed_empty : empty.WellFormed where
  distinct := List.nodup_nil
  nonempty := fun _ member => by cases member
  free := fun _ member => by cases member
  unreserved := fun _ member => by cases member

theorem WellFormed.remove (formed : registry.WellFormed) (name : String) : (registry.remove name).WellFormed where
  distinct := formed.distinct.sublist (List.filter_sublist.map _)
  nonempty := fun entry member => formed.nonempty entry (List.mem_of_mem_filter member)
  free := fun entry member => formed.free entry (List.mem_of_mem_filter member)
  unreserved := fun entry member => formed.unreserved entry (List.mem_of_mem_filter member)

theorem WellFormed.append (formed : registry.WellFormed) (addable : registry.Addable target name operation) :
    (registry.append ⟨name, operation⟩).WellFormed := by
  obtain ⟨free, unused⟩ := resolve?_eq_none_iff.mp addable.unresolved
  have each {property : Alias → Prop} (old : ∀ entry ∈ registry.entries, property entry)
      (new : property ⟨name, operation⟩) :
      ∀ entry ∈ (registry.append ⟨name, operation⟩).entries, property entry :=
    List.forall_mem_append.mpr ⟨old, List.forall_mem_singleton.mpr new⟩
  refine ⟨?_, each formed.nonempty addable.nonempty, each formed.free free,
    each formed.unreserved addable.unreserved⟩
  rw [AliasRegistry.append, List.map_append]
  refine formed.distinct.append (List.nodup_singleton _) ?_
  simpa [List.Disjoint] using unused

theorem WellFormed.edit (formed : registry.WellFormed) (change : Edit) : (registry.edit change).WellFormed := by
  obtain same | ⟨name, _, same⟩ | ⟨_, _, _, addable, same⟩ := registry.edit_cases change
  · rwa [same]
  · rw [same]
    exact formed.remove name
  · rw [same]
    exact formed.append addable

theorem WellFormed.edited (formed : registry.WellFormed) (edits : List Edit) :
    (registry.edited edits).WellFormed := by
  induction edits generalizing registry with
  | nil => exact formed
  | cons change rest ih => exact ih (formed.edit change)

/-- An entry stays until its own name is removed. -/
theorem mem_edited {entry : Alias} (member : entry ∈ registry.entries) {edits : List Edit}
    (kept : .remove entry.name ∉ edits) : entry ∈ (registry.edited edits).entries := by
  induction edits generalizing registry with
  | nil => exact member
  | cons change rest ih =>
    obtain ⟨other, kept⟩ := not_or.mp (mt List.mem_cons.mpr kept)
    refine ih ?_ kept
    obtain same | ⟨name, rfl, same⟩ | ⟨_, _, _, _, same⟩ := registry.edit_cases change
    · rwa [same]
    · rw [same]
      have differs : entry.name ≠ name := fun eq => other (by rw [eq])
      exact List.mem_filter.mpr ⟨member, by simpa using differs⟩
    · rw [same]
      exact List.mem_append_left _ member

/-- A removal drops the entry of the name and keeps the others, in order. -/
theorem WellFormed.entries_remove (formed : registry.WellFormed) {before after : List Alias} {entry : Alias}
    (split : registry.entries = before ++ entry :: after) :
    (registry.remove entry.name).entries = before ++ after := by
  have distinct := formed.distinct
  rw [split, List.map_append, List.map_cons, List.nodup_middle, List.nodup_cons, ← List.map_append] at distinct
  have others : ∀ other ∈ before ++ after, (other.name != entry.name) = true := by
    intro other member
    have differs : other.name ≠ entry.name := fun same =>
      distinct.1 (same ▸ List.mem_map_of_mem (f := Alias.name) member)
    simpa using differs
  obtain ⟨first, last⟩ := List.forall_mem_append.mp others
  simp [AliasRegistry.remove, split, List.filter_eq_self.mpr first, List.filter_eq_self.mpr last]

theorem remove_of_not_contains (absent : registry.contains name = false) : registry.remove name = registry := by
  have others : ∀ entry ∈ registry.entries, (entry.name != name) = true := by
    simpa [contains] using absent
  rw [remove, List.filter_eq_self.mpr others]

/-- A removal drops something exactly if the name is registered. -/
theorem contains_iff_length_remove (registry : AliasRegistry) (name : String) :
    registry.contains name ↔ (registry.remove name).entries.length ≠ registry.entries.length := by
  rw [contains_iff, remove, ne_eq, List.length_filter_eq_length_iff]
  simp

/-- A registry never shadows anything, whatever was added to it and removed from it. Its names are distinct,
not empty and otherwise without meaning, and a name stands for the operation of that name or else for that
of its entry. An addition appends one entry, bound for as long as its own name is not removed, or fails for the
first of three reasons. A removal drops the entry of its name, if there is one, and nothing else. -/
theorem edited_neverShadows (edits : List Edit) (reached : empty.edited edits = registry) :
    ((registry.entries.map (·.name)).Nodup ∧ ∀ entry ∈ registry.entries, entry.name ≠ "" ∧
      (∀ operation : Operation, operation.name ≠ entry.name) ∧ entry.name ∉ reservedNames) ∧
    ((∀ operation : Operation, registry.resolve? operation.name = some operation) ∧
      (∀ entry ∈ registry.entries, registry.resolve? entry.name = some entry.operation) ∧
      (∀ name, registry.resolve? name = none ↔
        (∀ operation : Operation, operation.name ≠ name) ∧
          ∀ entry ∈ registry.entries, entry.name ≠ name) ∧
      ∀ name, (registry.lookup? name <|> Operation.ofName? name) = registry.resolve? name) ∧
    (∀ target name,
      ((∃ next, registry.add target name = .ok next) ↔ name ≠ "" ∧ (registry.resolve? target).isSome ∧
        registry.resolve? name = none ∧ name ∉ reservedNames) ∧
      (∀ next, registry.add target name = .ok next → ∃ operation, registry.resolve? target = some operation ∧
        registry.edit (.add target name) = next ∧ next.entries = registry.entries ++ [⟨name, operation⟩] ∧
        ∀ later, .remove name ∉ later → (next.edited later).resolve? name = some operation) ∧
      (∀ error, registry.add target name = .error error → registry.edit (.add target name) = registry ∧
        error = if name = "" then .illegalArgument .emptyAlias
          else if registry.resolve? target = none then .unknownOperation target
          else .aliasExists name)) ∧
    (∀ name, (registry.contains name ↔ ∃ entry ∈ registry.entries, entry.name = name) ∧
      (registry.contains name ↔ (registry.remove name).entries.length ≠ registry.entries.length) ∧
      (∀ before entry after, registry.entries = before ++ entry :: after → entry.name = name →
        (registry.remove name).entries = before ++ after) ∧
      (registry.contains name = false → registry.remove name = registry)) := by
  have formed : registry.WellFormed := reached ▸ wellFormed_empty.edited edits
  refine ⟨⟨formed.distinct, fun entry member => ?_⟩, ⟨?_, ?_, ?_, formed.lookup?_orElse⟩,
    fun target name => ?_, ?_⟩
  · exact ⟨formed.nonempty entry member, formed.free entry member, formed.unreserved entry member⟩
  · exact fun operation => formed.resolve?_eq_some_iff.mpr (.inl rfl)
  · exact fun entry member => formed.resolve?_eq_some_iff.mpr (.inr member)
  · exact fun name => resolve?_eq_none_iff
  · refine ⟨?_, fun next added => ?_, fun error failed => ⟨by rw [edit, failed], add_eq_error failed⟩⟩
    · rw [← exists_addable_iff]
      simp only [add_eq_ok_iff, exists_comm (α := AliasRegistry), exists_and_left, exists_eq', and_true]
    · have edited : registry.edit (.add target name) = next := by rw [edit, added]
      obtain ⟨operation, addable, rfl⟩ := add_eq_ok_iff.mp added
      refine ⟨operation, addable.resolved, edited, rfl, fun later kept => ?_⟩
      have stays : ⟨name, operation⟩ ∈ ((registry.append ⟨name, operation⟩).edited later).entries :=
        mem_edited (List.mem_append_right _ (List.mem_singleton_self _)) kept
      exact ((formed.append addable).edited later).resolve?_eq_some_iff.mpr (.inr stays)
  · refine fun name => ⟨contains_iff, registry.contains_iff_length_remove name, ?_, remove_of_not_contains⟩
    rintro before entry after split rfl
    exact formed.entries_remove split

/-- An alias that was added through another one, which was removed since, and a third one added through it. -/
theorem edited_neverShadows_of_removed :
    let edits : List Edit := [.add "begin_group" "open", .add "open" "lparen", .add "matches_any" "clear",
      .remove "open", .add "open" "paren"]
    let registry : AliasRegistry := ⟨[⟨"lparen", .beginGroup⟩]⟩
    empty.edited edits = registry ∧ registry.resolve? "lparen" = some .beginGroup ∧
      (∃ next, registry.add "lparen" "bracket" = .ok next ∧
        (next.edited [.remove "lparen"]).resolve? "bracket" = some .beginGroup) ∧
      registry.edit (.add "open" "paren") = registry ∧ (registry.remove "lparen").entries = [] := by
  intro edits registry
  have reached : empty.edited edits = registry := by decide +kernel
  obtain ⟨_, ⟨_, resolved, _⟩, added, removed⟩ := edited_neverShadows edits reached
  obtain ⟨next, success⟩ := (added "lparen" "bracket").1.mpr (by decide +kernel)
  obtain ⟨operation, target, _, _, bound⟩ := (added "lparen" "bracket").2.1 next success
  have lparen : registry.resolve? "lparen" = some .beginGroup := resolved _ (List.mem_singleton_self _)
  refine ⟨reached, lparen, ⟨next, success, ?_⟩, ?_, (removed "lparen").2.2.1 [] _ [] rfl rfl⟩
  · rw [bound [.remove "lparen"] (by simp), ← target, lparen]
  · exact ((added "open" "paren").2.2 (.unknownOperation "open") (by decide +kernel)).1

end AliasRegistry
end PatternComposer
