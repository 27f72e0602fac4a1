import Mathlib
import PatternComposer.Config.Options

/-! # What loading options gives

The loaded values and the warnings are described by what the raw options have under each name, without
the order in which a table lists its entries. Of a table only this is used: it has each key once.
-/

namespace PatternComposer
namespace ConfigValue

/-! ## Tables -/

/-- A table has each of its keys once. -/
def KeysOnce (value : ConfigValue) : Prop := ∀ entries ∈ value.table?, (entries.map Prod.fst).Nodup

theorem keysOnce_table {entries : List (String × ConfigValue)} :
    (ConfigValue.table entries).KeysOnce ↔ (entries.map Prod.fst).Nodup := by
  simp [KeysOnce, table?]

theorem lookup_cons_eq_ite (key name : String) (value : ConfigValue) (entries : List (String × ConfigValue)) :
    ((key, value) :: entries).lookup name = if name = key then some value else entries.lookup name := by
  rw [List.lookup_cons]
  by_cases same : name = key
  · rw [if_pos same, same, beq_self_eq_true]
  · rw [if_neg same, beq_eq_false_iff_ne.mpr same]

theorem lookup_insertEntry (key name : String) (value : ConfigValue) (entries : List (String × ConfigValue)) :
    (insertEntry key value entries).lookup name = if name = key then some value else entries.lookup name := by
  induction entries with
  | nil => exact lookup_cons_eq_ite key name value []
  | cons entry rest ih =>
    obtain ⟨first, other⟩ := entry
    rw [insertEntry]
    by_cases before : key < first
    · rw [if_pos before, lookup_cons_eq_ite]
    by_cases here : key = first
    · subst here
      rw [if_neg before, if_pos rfl, lookup_cons_eq_ite, lookup_cons_eq_ite]
      split_ifs <;> rfl
    · rw [if_neg before, if_neg here, lookup_cons_eq_ite, lookup_cons_eq_ite, ih]
      split_ifs with same also
      · exact absurd (also.symm.trans same) here
      all_goals rfl

theorem mem_keys_insertEntry {key name : String} {value : ConfigValue} {entries : List (String × ConfigValue)} :
    name ∈ (insertEntry key value entries).map Prod.fst ↔ name = key ∨ name ∈ entries.map Prod.fst := by
  induction entries with
  | nil => simp [insertEntry]
  | cons entry rest ih =>
    obtain ⟨first, other⟩ := entry
    simp only [insertEntry]
    split_ifs with before here
    · simp
    · simp [here]
    · simp only [List.map_cons, List.mem_cons, ih]
      exact or_left_comm

theorem ascending_insertEntry {key : String} {value : ConfigValue} {entries : List (String × ConfigValue)}
    (ascending : (entries.map Prod.fst).Pairwise (· < ·)) :
    ((insertEntry key value entries).map Prod.fst).Pairwise (· < ·) := by
  induction entries with
  | nil => simp [insertEntry]
  | cons entry rest ih =>
    obtain ⟨first, other⟩ := entry
    rw [List.map_cons, List.pairwise_cons] at ascending
    obtain ⟨least, ascending⟩ := ascending
    simp only [insertEntry]
    split_ifs with before here
    · simp only [List.map_cons, List.pairwise_cons, List.mem_cons, forall_eq_or_imp]
      exact ⟨⟨before, fun name member => String.lt_trans before (least name member)⟩, least, ascending⟩
    · subst here
      exact List.pairwise_cons.mpr ⟨least, ascending⟩
    · rw [List.map_cons, List.pairwise_cons]
      refine ⟨fun name member => ?_, ih ascending⟩
      rcases mem_keys_insertEntry.mp member with rfl | member
      · exact lt_of_le_of_ne (not_lt.mp before) (Ne.symm here)
      · exact least name member

/-- The entries of the table that `ofEntries` makes. -/
def collect (entries : List (String × ConfigValue)) : List (String × ConfigValue) :=
  entries.foldl (fun table entry => insertEntry entry.1 entry.2 table) []

theorem collect_concat (entries : List (String × ConfigValue)) (entry : String × ConfigValue) :
    collect (entries ++ [entry]) = insertEntry entry.1 entry.2 (collect entries) := by
  simp [collect]

/-- Under a key stands what was put there last. -/
theorem lookup_collect (entries : List (String × ConfigValue)) (name : String) :
    (collect entries).lookup name = entries.reverse.lookup name := by
  induction entries using List.reverseRecOn with
  | nil => rfl
  | append_singleton entries entry ih =>
    rw [collect_concat, lookup_insertEntry, ih, List.reverse_concat, lookup_cons_eq_ite]

theorem mem_keys_collect {entries : List (String × ConfigValue)} {name : String} :
    name ∈ (collect entries).map Prod.fst ↔ name ∈ entries.map Prod.fst := by
  induction entries using List.reverseRecOn with
  | nil => rfl
  | append_singleton entries entry ih =>
    rw [collect_concat, mem_keys_insertEntry, ih]
    simp [or_comm]

theorem ascending_collect (entries : List (String × ConfigValue)) :
    ((collect entries).map Prod.fst).Pairwise (· < ·) := by
  induction entries using List.reverseRecOn with
  | nil => exact List.Pairwise.nil
  | append_singleton entries entry ih =>
    rw [collect_concat]
    exact ascending_insertEntry ih

theorem nodup_keys_collect (entries : List (String × ConfigValue)) : ((collect entries).map Prod.fst).Nodup :=
  (ascending_collect entries).imp fun before => before.ne

/-- A table that is built entry by entry has no key twice. -/
theorem keysOnce_ofEntries (entries : List (String × ConfigValue)) : (ofEntries entries).KeysOnce :=
  keysOnce_table.mpr (nodup_keys_collect entries)

theorem mem_keys_iff {entries : List (String × ConfigValue)} {name : String} :
    name ∈ entries.map Prod.fst ↔ (entries.lookup name).isSome := by
  rw [List.lookup_isSome_iff, List.mem_map]
  simp only [beq_iff_eq, @eq_comm _ name]

/-! ## Items and members one by one -/

theorem ofJsonItems_eq_map (items : List Json.Value) : ofJsonItems items = items.map ofJson := by
  induction items with
  | nil => rw [ofJsonItems, List.map_nil]
  | cons item rest ih => rw [ofJsonItems, List.map_cons, ih]

theorem ofJsonMembers_eq_map (members : List (String × Json.Value)) :
    ofJsonMembers members = members.map fun member => (member.1, ofJson member.2) := by
  induction members with
  | nil => rw [ofJsonMembers, List.map_nil]
  | cons member rest ih => rw [ofJsonMembers, List.map_cons, ih]

end ConfigValue

open ConfigValue

/-! ## The parts of the result -/

/-- What raw options have under a name. -/
def rawValue? (raw : Option ConfigValue) (name : String) : Option ConfigValue := raw.bind (·.get? name)

theorem lookup_rawEntries (raw : Option ConfigValue) (name : String) :
    (rawEntries raw).1.lookup name = rawValue? raw name := by
  cases raw with
  | none => rfl
  | some value => cases value <;> rfl

theorem OptionSpec.given?_rawEntries (spec : OptionSpec) (raw : Option ConfigValue) :
    spec.given? (rawEntries raw).1 = (rawValue? raw spec.name).filter fun value => !value.isNull := by
  rw [OptionSpec.given?, lookup_rawEntries]

theorem nodup_rawEntries {raw : Option ConfigValue} (once : ∀ value ∈ raw, value.KeysOnce) :
    ((rawEntries raw).1.map Prod.fst).Nodup := by
  cases raw with
  | none => exact List.nodup_nil
  | some value =>
    cases value with
    | table entries => exact keysOnce_table.mp (once _ rfl)
    | _ => exact List.nodup_nil

theorem values_loadOptions (raw : Option ConfigValue) (specs : List OptionSpec) :
    (loadOptions raw specs).values =
      collect (specs.map fun spec => (spec.name, spec.resolve (rawEntries raw).1)) := by
  rw [collect, List.foldl_map]
  rfl

theorem warnings_loadOptions (raw : Option ConfigValue) (specs : List OptionSpec) :
    (loadOptions raw specs).warnings = (rawEntries raw).2 ++
      specs.filterMap (fun spec => spec.warning? (rawEntries raw).1) ++
      (unknownKeys (rawEntries raw).1 specs).map .illegalProperty := rfl

theorem mem_unknownKeys {entries : List (String × ConfigValue)} {specs : List OptionSpec} {name : String} :
    name ∈ unknownKeys entries specs ↔ (entries.lookup name).isSome ∧ ∀ spec ∈ specs, spec.name ≠ name := by
  rw [unknownKeys, List.mem_mergeSort, List.mem_filter, mem_keys_iff]
  simp

theorem ascending_unknownKeys {entries : List (String × ConfigValue)} (once : (entries.map Prod.fst).Nodup)
    (specs : List OptionSpec) : (unknownKeys entries specs).Pairwise (· < ·) := by
  have sorted : (unknownKeys entries specs).Pairwise fun a b => decide (a ≤ b) = true :=
    List.pairwise_mergeSort (by simpa using fun a b c => le_trans) (by simpa using String.le_total) _
  have distinct : (unknownKeys entries specs).Nodup :=
    (List.mergeSort_perm _ _).nodup_iff.mpr (once.filter _)
  refine (sorted.and distinct).imp fun both => ?_
  exact lt_of_le_of_ne (of_decide_eq_true both.1) both.2

/-- Two ascending lists of the same names are the same list. -/
theorem eq_of_ascending {names others : List String} (first : names.Pairwise (· < ·))
    (second : others.Pairwise (· < ·)) (same : ∀ name, name ∈ names ↔ name ∈ others) : names = others := by
  have perm := (List.perm_ext_iff_of_nodup first.nodup second.nodup).mpr same
  exact perm.eq_of_pairwise (fun a b _ _ before after => absurd before (lt_asymm after)) first second

/-- Loading sees of a table only its keys and what each option makes of it. -/
theorem loadOptions_congr_of_specs {entries others : List (String × ConfigValue)} {specs : List OptionSpec}
    (once : (entries.map Prod.fst).Nodup) (also : (others.map Prod.fst).Nodup)
    (keys : ∀ name, (entries.lookup name).isSome = (others.lookup name).isSome)
    (resolved : ∀ spec ∈ specs, spec.resolve entries = spec.resolve others)
    (wrong : ∀ spec ∈ specs, spec.warning? entries = spec.warning? others) :
    loadOptions (some (.table entries)) specs = loadOptions (some (.table others)) specs := by
  have unknown : unknownKeys entries specs = unknownKeys others specs := by
    refine eq_of_ascending (ascending_unknownKeys once specs) (ascending_unknownKeys also specs) fun name => ?_
    rw [mem_unknownKeys, mem_unknownKeys, keys]
  have values : (loadOptions (some (.table entries)) specs).values =
      (loadOptions (some (.table others)) specs).values := by
    rw [values_loadOptions, values_loadOptions]
    exact congrArg collect (List.map_congr_left fun spec member => congrArg _ (resolved spec member))
  have warnings : (loadOptions (some (.table entries)) specs).warnings =
      (loadOptions (some (.table others)) specs).warnings := by
    change [] ++ specs.filterMap _ ++ _ = [] ++ specs.filterMap _ ++ _
    rw [List.filterMap_congr wrong, unknown]
  exact (LoadedOptions.mk.injEq ..).mpr ⟨values, warnings⟩

/-- Loading sees of a table only what it has under each name. -/
theorem loadOptions_congr {entries others : List (String × ConfigValue)} (once : (entries.map Prod.fst).Nodup)
    (also : (others.map Prod.fst).Nodup) (same : ∀ name, entries.lookup name = others.lookup name)
    (specs : List OptionSpec) :
    loadOptions (some (.table entries)) specs = loadOptions (some (.table others)) specs := by
  have given (spec : OptionSpec) : spec.given? entries = spec.given? others := by
    simp only [OptionSpec.given?, same]
  refine loadOptions_congr_of_specs once also (fun name => by rw [same]) (fun spec _ => ?_) fun spec _ => ?_
  · simp only [OptionSpec.resolve, given]
  · simp only [OptionSpec.warning?, given]

/-- The last option of a name decides its value. -/
theorem get?_loadOptions (raw : Option ConfigValue) (before : List OptionSpec) (spec : OptionSpec)
    {after : List OptionSpec} (last : ∀ later ∈ after, later.name ≠ spec.name) :
    (loadOptions raw (before ++ spec :: after)).get? spec.name = some (spec.resolve (rawEntries raw).1) := by
  have absent : (after.map fun later => (later.name, later.resolve (rawEntries raw).1)).reverse.lookup
      spec.name = none := by
    rw [List.lookup_eq_none_iff]
    intro entry member
    rw [List.mem_reverse, List.mem_map] at member
    obtain ⟨later, present, rfl⟩ := member
    simpa using (last later present).symm
  rw [LoadedOptions.get?, values_loadOptions, lookup_collect, List.map_append, List.map_cons,
    List.reverse_append, List.reverse_cons, List.append_assoc, List.lookup_append, absent]
  simp

theorem isSome_get?_loadOptions (raw : Option ConfigValue) (specs : List OptionSpec) (name : String) :
    ((loadOptions raw specs).get? name).isSome ↔ ∃ spec ∈ specs, spec.name = name := by
  rw [LoadedOptions.get?, values_loadOptions, ← mem_keys_iff, mem_keys_collect]
  simp

theorem size_loadOptions (raw : Option ConfigValue) (specs : List OptionSpec) :
    (loadOptions raw specs).size = (specs.map (·.name)).dedup.length := by
  have perm : ((loadOptions raw specs).values.map Prod.fst).Perm (specs.map (·.name)).dedup := by
    rw [values_loadOptions]
    refine (List.perm_ext_iff_of_nodup (nodup_keys_collect _) (List.nodup_dedup _)).mpr fun name => ?_
    rw [mem_keys_collect, List.mem_dedup]
    simp
  rw [LoadedOptions.size, ← List.length_map, perm.length_eq]

/-! ## The whole result -/

/-- Loading is its specification. Every name of an option has a value and no other name has one; the last option of
a name decides whether it is the raw value or the default. The warnings are at most one about the raw
options, then one for each option whose raw value is not accepted, in their order, then one for each unknown
key, ascending. Tables with the same value under each key have the same result, however they were filled. -/
theorem loadOptions_spec (raw : Option ConfigValue) (once : ∀ value ∈ raw, value.KeysOnce)
    (specs : List OptionSpec) :
    (∀ name, ((loadOptions raw specs).get? name).isSome ↔ ∃ spec ∈ specs, spec.name = name) ∧
    (loadOptions raw specs).size = (specs.map (·.name)).dedup.length ∧
    (∀ before spec after, specs = before ++ spec :: after → (∀ later ∈ after, later.name ≠ spec.name) →
      (∀ value, rawValue? raw spec.name = some value → ¬ value.isNull → spec.accepts value →
        (loadOptions raw specs).get? spec.name = some value) ∧
      ((∀ value, rawValue? raw spec.name = some value → value.isNull ∨ ¬ spec.accepts value) →
        (loadOptions raw specs).get? spec.name = some spec.default)) ∧
    (∃ (notATable wrong : List ConfigWarning) (unknown : List String),
      (loadOptions raw specs).warnings = notATable ++ wrong ++ unknown.map .illegalProperty ∧
      (∀ value, raw = some value → ¬ value.isNull → value.table? = none →
        notATable = [.notATable value.typeName]) ∧
      ((∀ value, raw = some value → value.isNull ∨ value.table?.isSome) → notATable = []) ∧
      wrong = specs.filterMap (fun spec =>
        ((rawValue? raw spec.name).filter fun value => !value.isNull && !spec.accepts value).map
          fun value => .wrongType spec.name spec.typeName value.typeName) ∧
      unknown.Pairwise (· < ·) ∧
      ∀ name, name ∈ unknown ↔ (rawValue? raw name).isSome ∧ ∀ spec ∈ specs, spec.name ≠ name) ∧
    (∀ entries others, raw = some (.table entries) → (ConfigValue.table others).KeysOnce →
      (∀ name, entries.lookup name = others.lookup name) →
      loadOptions raw specs = loadOptions (some (.table others)) specs) ∧
    (∀ puts others : List (String × ConfigValue),
      (∀ name, puts.reverse.lookup name = others.reverse.lookup name) →
      loadOptions (some (.ofEntries puts)) specs = loadOptions (some (.ofEntries others)) specs) := by
  refine ⟨isSome_get?_loadOptions raw specs, size_loadOptions raw specs, ?_, ?_, ?_, ?_⟩
  · rintro before spec after rfl last
    rw [get?_loadOptions raw before spec last, OptionSpec.resolve, OptionSpec.given?_rawEntries]
    refine ⟨fun value found notNull accepted => ?_, fun refused => ?_⟩
    · simp [found, Option.filter, notNull, accepted]
    · cases found : rawValue? raw spec.name with
      | none => rfl
      | some value =>
        have refused := refused value found
        cases null : value.isNull <;> simp_all [Option.filter]
  · refine ⟨(rawEntries raw).2, _, unknownKeys (rawEntries raw).1 specs, warnings_loadOptions raw specs,
      ?_, ?_, ?_, ascending_unknownKeys (nodup_rawEntries once) specs, fun name => ?_⟩
    · rintro value rfl notNull notTable
      cases value with
      | null => exact absurd rfl notNull
      | table entries => cases notTable
      | _ => rfl
    · intro usable
      cases raw with
      | none => rfl
      | some value =>
        have usable := usable value rfl
        cases value <;> simp_all [rawEntries, ConfigValue.isNull, ConfigValue.table?]
    · refine List.filterMap_congr fun spec _ => ?_
      rw [OptionSpec.warning?, OptionSpec.given?_rawEntries]
      cases rawValue? raw spec.name with
      | none => rfl
      | some value =>
        cases null : value.isNull <;> cases accepted : spec.accepts value <;> simp [Option.filter, null, accepted]
    · rw [mem_unknownKeys, lookup_rawEntries]
  · rintro entries others rfl also same
    exact loadOptions_congr (keysOnce_table.mp (once _ rfl)) (keysOnce_table.mp also) same specs
  · intro puts others same
    have first := keysOnce_table.mp (keysOnce_ofEntries puts)
    have second := keysOnce_table.mp (keysOnce_ofEntries others)
    refine loadOptions_congr first second (fun name => ?_) specs
    change (collect puts).lookup name = (collect others).lookup name
    rw [lookup_collect, lookup_collect, same]

/-- A table in no order, with a null, values of the wrong kind and unknown keys, and two options of one name. -/
theorem loadOptions_spec_of_unordered :
    let table : List (String × ConfigValue) := [("size", .integer 3), ("zeta", .boolean true), ("mode", .null),
      ("alpha", .string "x"), ("level", .integer 7)]
    let specs : List OptionSpec := [⟨"size", .integer 1, fun value => value.integer?.isSome, "number"⟩,
      ⟨"mode", .string "plain", fun _ => true, "string"⟩,
      ⟨"level", .string "low", fun value => value.string?.isSome, "string"⟩,
      ⟨"size", .string "small", fun value => value.string?.isSome, "string"⟩]
    let loaded := loadOptions (some (.table table)) specs
    (∀ value ∈ some (ConfigValue.table table), value.KeysOnce) ∧ loaded.size = 3 ∧
      loaded.get? "size" = some (.string "small") ∧ loaded.get? "mode" = some (.string "plain") ∧
      (loaded.get? "zeta").isSome = false ∧
      loaded.warnings = [.wrongType "level" "string" "number", .wrongType "size" "string" "number",
        .illegalProperty "alpha", .illegalProperty "zeta"] := by
  intro table specs loaded
  have once : ∀ value ∈ some (ConfigValue.table table), value.KeysOnce := by
    rintro value ⟨⟩
    exact keysOnce_table.mpr (by decide)
  obtain ⟨names, size, values, warnings, _, _⟩ := loadOptions_spec (some (.table table)) once specs
  obtain ⟨first, wrong, unknown, written, _, quiet, found, ascending, member⟩ := warnings
  have listed : unknown = ["alpha", "zeta"] := by
    refine eq_of_ascending ascending (by decide) fun name => ?_
    have key : (rawValue? (some (.table table)) name).isSome ↔ name ∈ table.map Prod.fst := mem_keys_iff.symm
    rw [member, key]
    simp only [table, specs, List.map_cons, List.map_nil, List.mem_cons, List.not_mem_nil, or_false,
      forall_eq_or_imp, forall_eq]
    constructor
    · rintro ⟨rfl | rfl | rfl | rfl | rfl, other⟩ <;> simp at other ⊢
    · rintro (rfl | rfl) <;> decide
  refine ⟨once, size.trans (by decide), ?_, ?_, ?_, ?_⟩
  · exact (values (specs.take 3) specs[3] [] rfl (by simp)).2 fun value present => by
      cases present
      exact .inr (by decide)
  · exact (values (specs.take 1) specs[1] (specs.drop 2) rfl (by decide)).2 fun value present => by
      cases present
      exact .inl rfl
  · rw [Bool.eq_false_iff, ne_eq, names]
    decide
  · rw [written, quiet (by rintro value ⟨⟩; exact .inr rfl), found, listed]
    rfl

end PatternComposer
