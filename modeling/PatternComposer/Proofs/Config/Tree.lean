import PatternComposer.Config.Source
import PatternComposer.Proofs.Config.Descent
import PatternComposer.Proofs.Config.Settings

/-! # Configuration trees in two notations

A configuration tree is what both notations can write: texts, integers of 64 bits, finite doubles, booleans, arrays,
and tables with a subtree under each of their keys. A tree becomes the same configuration value from either
notation, and what is loaded from a value depends on its tree only: in which order a table lists its entries makes
no difference, at no depth.
-/

namespace PatternComposer

open ConfigValue

/-- A table has a subtree under each of finitely many keys, in no order. -/
inductive ConfigTree where
  | string (s : String)
  | integer (n : Int) (fits : FitsWord n)
  | float (x : Float) (finite : x.isFinite)
  | boolean (b : Bool)
  | array {size : Nat} (item : Fin size → ConfigTree)
  | table {keys : Finset String} (child : keys → ConfigTree)

/-! ## Entries of a table -/

/-- The entries list the values of a table: one under each key, in any order, and no other. -/
structure Lists {V : Type} {keys : Finset String} (entries : List (String × V)) (values : keys → V) : Prop where
  distinct : (entries.map Prod.fst).Nodup
  listed : ∀ key : keys, (key.1, values key) ∈ entries
  only : ∀ entry ∈ entries, entry.1 ∈ keys

namespace Lists

variable {V W : Type} {keys : Finset String} {entries others : List (String × V)} {values : keys → V}

theorem mem_iff (lists : Lists entries values) {name : String} {value : V} :
    (name, value) ∈ entries ↔ ∃ member : name ∈ keys, value = values ⟨name, member⟩ := by
  constructor
  · intro present
    have member : name ∈ keys := lists.only _ present
    have also := lists.listed ⟨name, member⟩
    have same := List.inj_on_of_nodup_map lists.distinct present also rfl
    exact ⟨member, congrArg Prod.snd same⟩
  · rintro ⟨member, rfl⟩
    exact lists.listed ⟨name, member⟩

theorem mem_keys_iff (lists : Lists entries values) {name : String} :
    name ∈ entries.map Prod.fst ↔ name ∈ keys := by
  rw [List.mem_map]
  constructor
  · rintro ⟨entry, present, rfl⟩
    exact lists.only entry present
  · exact fun member => ⟨_, lists.listed ⟨name, member⟩, rfl⟩

theorem lookup_of_mem (lists : Lists entries values) (key : keys) : entries.lookup key.1 = some (values key) := by
  obtain ⟨before, after, rfl⟩ := List.append_of_mem (lists.listed key)
  have distinct := lists.distinct
  rw [List.map_append, List.map_cons, List.nodup_append] at distinct
  refine List.lookup_eq_some_iff.mpr ⟨before, after, rfl, fun entry present => ?_⟩
  have differs := distinct.2.2 entry.1 (List.mem_map_of_mem present) key.1 List.mem_cons_self
  simpa using differs.symm

theorem lookup_of_not_mem (lists : Lists entries values) {name : String} (absent : name ∉ keys) :
    entries.lookup name = none := by
  rw [List.lookup_eq_none_iff]
  intro entry present
  have differs : name ≠ entry.1 := fun same => absent (same ▸ lists.only entry present)
  simpa using differs

theorem perm (lists : Lists entries values) (order : entries.Perm others) : Lists others values where
  distinct := (order.map Prod.fst).nodup_iff.mp lists.distinct
  listed key := order.mem_iff.mp (lists.listed key)
  only entry present := lists.only entry (order.mem_iff.mpr present)

theorem map (lists : Lists entries values) (f : V → W) :
    Lists (entries.map fun entry => (entry.1, f entry.2)) fun key => f (values key) where
  distinct := by simpa [Function.comp_def] using lists.distinct
  listed key := List.mem_map.mpr ⟨_, lists.listed key, rfl⟩
  only entry present := by
    obtain ⟨source, among, rfl⟩ := List.mem_map.mp present
    exact lists.only source among

/-- Entries in ascending order are determined by what they list. -/
theorem eq_of_ascending (lists : Lists entries values) (also : Lists others values)
    (first : (entries.map Prod.fst).Pairwise (· < ·)) (second : (others.map Prod.fst).Pairwise (· < ·)) :
    entries = others := by
  have perm : entries.Perm others := by
    refine (List.perm_ext_iff_of_nodup lists.distinct.of_map also.distinct.of_map).mpr ?_
    rintro ⟨name, value⟩
    rw [lists.mem_iff, also.mem_iff]
  exact perm.eq_of_pairwise (fun _ _ _ _ before after => absurd before (lt_asymm after))
    (List.pairwise_map.mp first) (List.pairwise_map.mp second)

/-- The entries one gets by going through the keys. -/
theorem attach (values : keys → V) : Lists (keys.attach.toList.map fun key => (key.1, values key)) values where
  distinct := by
    rw [List.map_map]
    exact keys.attach.nodup_toList.map Subtype.val_injective
  listed key := List.mem_map.mpr ⟨key, by simp, rfl⟩
  only entry present := by
    obtain ⟨key, _, rfl⟩ := List.mem_map.mp present
    exact key.2

end Lists

theorem lists_collect {keys : Finset String} {entries : List (String × ConfigValue)} {values : keys → ConfigValue}
    (lists : Lists entries values) : Lists (collect entries) values where
  distinct := nodup_keys_collect entries
  listed key := by
    have found : (collect entries).lookup key.1 = some (values key) := by
      rw [lookup_collect, (lists.perm (List.reverse_perm entries).symm).lookup_of_mem]
    obtain ⟨before, after, same, _⟩ := List.lookup_eq_some_iff.mp found
    rw [same]
    exact List.mem_append_right before List.mem_cons_self
  only entry present := lists.mem_keys_iff.mp (mem_keys_collect.mp (List.mem_map_of_mem present))

/-! ## Values that represent a tree -/

/-- A kind of value that trees are written in. -/
structure TreeForm (V : Type) where
  string : String → V
  integer : Int → V
  float : Float → V
  boolean : Bool → V
  array : List V → V
  table : List (String × V) → V

namespace TreeForm

def json : TreeForm Json.Value := ⟨.string, .int, .float, .bool, .array, .object⟩

def toml : TreeForm Toml.Value := ⟨.string, .integer, .float, .boolean, .array, .table⟩

def config : TreeForm ConfigValue := ⟨.string, .integer, .float, .boolean, .array, .table⟩

/-- The value is the tree in this form. Items have the order of the array; entries have any order. -/
inductive Represents {V : Type} (form : TreeForm V) : V → ConfigTree → Prop where
  | string (s : String) : Represents form (form.string s) (.string s)
  | integer (n : Int) (fits : FitsWord n) : Represents form (form.integer n) (.integer n fits)
  | float (x : Float) (finite : x.isFinite) : Represents form (form.float x) (.float x finite)
  | boolean (b : Bool) : Represents form (form.boolean b) (.boolean b)
  | array {size : Nat} {items : Fin size → V} {item : Fin size → ConfigTree}
      (each : ∀ i, Represents form (items i) (item i)) :
      Represents form (form.array (List.ofFn items)) (.array item)
  | table {keys : Finset String} {entries : List (String × V)} {values : keys → V} {child : keys → ConfigTree}
      (lists : Lists entries values) (each : ∀ key, Represents form (values key) (child key)) :
      Represents form (form.table entries) (.table child)

/-! ## Conversions -/

/-- The conversion keeps what the form writes. -/
structure KeptBy {V : Type} (form : TreeForm V) (convert : V → ConfigValue) : Prop where
  string : ∀ s, convert (form.string s) = .string s
  integer : ∀ n, FitsWord n → convert (form.integer n) = .integer n
  float : ∀ x, convert (form.float x) = .float x
  boolean : ∀ b, convert (form.boolean b) = .boolean b
  array : ∀ items, convert (form.array items) = .array (items.map convert)
  table : ∀ entries, convert (form.table entries) = .ofEntries (entries.map fun entry => (entry.1, convert entry.2))

variable {V W : Type} {form : TreeForm V} {other : TreeForm W} {convert : V → ConfigValue}
  {convertOther : W → ConfigValue}

/-- What is kept still represents the same tree: integers as integers, items in their order, every key. -/
theorem KeptBy.represents (kept : form.KeptBy convert) {value : V} {tree : ConfigTree}
    (represents : form.Represents value tree) : config.Represents (convert value) tree := by
  induction represents with
  | string s => exact kept.string s ▸ .string s
  | integer n fits => exact kept.integer n fits ▸ .integer n fits
  | float x finite => exact kept.float x ▸ .float x finite
  | boolean b => exact kept.boolean b ▸ .boolean b
  | array _ ih =>
    rw [kept.array, List.map_ofFn]
    exact .array ih
  | table lists _ ih =>
    rw [kept.table]
    exact .table (lists_collect (lists.map convert)) ih

/-- Two conversions that keep what is written give the same value for the same tree. -/
theorem KeptBy.agree (kept : form.KeptBy convert) (also : other.KeptBy convertOther) {value : V} {counterpart : W}
    {tree : ConfigTree} (represents : form.Represents value tree) (alike : other.Represents counterpart tree) :
    convert value = convertOther counterpart := by
  induction represents generalizing counterpart with
  | string s =>
    cases alike
    rw [kept.string, also.string]
  | integer n fits =>
    cases alike
    rw [kept.integer n fits, also.integer n fits]
  | float x finite =>
    cases alike
    rw [kept.float, also.float]
  | boolean b =>
    cases alike
    rw [kept.boolean, also.boolean]
  | array _ ih =>
    cases alike with
    | array each =>
      rw [kept.array, also.array, List.map_ofFn, List.map_ofFn]
      exact congrArg (fun items => ConfigValue.array (List.ofFn items)) (funext fun i => ih i (each i))
  | table lists _ ih =>
    cases alike with
    | table listsOther each =>
      have same := funext fun key => ih key (each key)
      rw [kept.table, also.table]
      refine congrArg ConfigValue.table ((lists_collect (lists.map convert)).eq_of_ascending ?_
        (ascending_collect _) (ascending_collect _))
      rw [same]
      exact lists_collect (listsOther.map convertOther)

/-! ## Reading either notation -/

theorem ofTomlItems_eq_map (items : List Toml.Value) : ofTomlItems items = items.map ofToml := by
  induction items with
  | nil => rw [ofTomlItems, List.map_nil]
  | cons item rest ih => rw [ofTomlItems, List.map_cons, ih]

theorem ofTomlEntries_eq_map (entries : List (String × Toml.Value)) :
    ofTomlEntries entries = entries.map fun entry => (entry.1, ofToml entry.2) := by
  induction entries with
  | nil => rw [ofTomlEntries, List.map_nil]
  | cons entry rest ih => rw [ofTomlEntries, List.map_cons, ih]

theorem keptBy_ofJson : json.KeptBy ofJson where
  string s := by rw [json, ofJson]
  integer n fits := by
    change ofJson (.int n) = _
    rw [ofJson, if_pos (isInteger_iff.mpr fits)]
  float x := by rw [json, ofJson]
  boolean b := by rw [json, ofJson]
  array items := by
    change ofJson (.array items) = _
    rw [ofJson, ofJsonItems_eq_map]
  table entries := by
    change ofJson (.object entries) = _
    rw [ofJson, ofJsonMembers_eq_map]

theorem keptBy_ofToml : toml.KeptBy ofToml where
  string s := by rw [toml, ofToml]
  integer n _ := by rw [toml, ofToml]
  float x := by rw [toml, ofToml]
  boolean b := by rw [toml, ofToml]
  array items := by
    change ofToml (.array items) = _
    rw [ofToml, ofTomlItems_eq_map]
  table entries := by
    change ofToml (.table entries) = _
    rw [ofToml, ofTomlEntries_eq_map]

/-! ## Equality of values -/

/-- A finite double equals itself, as a double that is not a number does not. -/
theorem beq_self_of_isFinite {x : Float} (finite : x.isFinite) : (x == x) = true := by
  change (x.toModel.unpack.compare x.toModel.unpack == some .eq) = true
  change x.toModel.unpack.isFinite = true at finite
  cases unpacked : x.toModel.unpack with
  | notANumber => simp [unpacked, Float.Model.UnpackedFloat.isFinite] at finite
  | infinity sign => simp [unpacked, Float.Model.UnpackedFloat.isFinite] at finite
  | zero sign => rfl
  | finite sign => cases sign <;> simp [Float.Model.UnpackedFloat.compare]

theorem beqItems_self {items : List ConfigValue} (each : ∀ item ∈ items, item.beq item) : beqItems items items := by
  induction items with
  | nil => rfl
  | cons item rest ih =>
    obtain ⟨first, later⟩ := List.forall_mem_cons.mp each
    rw [beqItems, first, ih later]
    rfl

theorem beqEntries_self {entries : List (String × ConfigValue)} (each : ∀ entry ∈ entries, entry.2.beq entry.2) :
    beqEntries entries entries := by
  induction entries with
  | nil => rfl
  | cons entry rest ih =>
    obtain ⟨first, later⟩ := List.forall_mem_cons.mp each
    rw [beqEntries, first, ih later, beq_self_eq_true]
    rfl

/-- A value that represents a tree equals itself, as its doubles are finite. -/
theorem Represents.beq_self {value : ConfigValue} {tree : ConfigTree} (represents : config.Represents value tree) :
    value.beq value := by
  induction represents with
  | string s => simp [config, ConfigValue.beq]
  | integer n => simp [config, ConfigValue.beq]
  | float x finite => simpa [config, ConfigValue.beq] using beq_self_of_isFinite finite
  | boolean b => simp [config, ConfigValue.beq]
  | array _ ih => exact beqItems_self (List.forall_mem_ofFn_iff.mpr ih)
  | table lists _ ih =>
    refine beqEntries_self fun entry present => ?_
    obtain ⟨member, same⟩ := lists.mem_iff.mp present
    rw [same]
    exact ih _

/-! ## Loading -/

section Loading

variable {value counterpart : ConfigValue} {tree : ConfigTree}

theorem Represents.typeName_eq (represents : config.Represents value tree)
    (alike : config.Represents counterpart tree) : value.typeName = counterpart.typeName := by
  cases represents <;> cases alike <;> rfl

theorem Represents.isNull_eq_false (represents : config.Represents value tree) : value.isNull = false := by
  cases represents <;> rfl

theorem Represents.eq_of_isBoolean (represents : config.Represents value tree)
    (alike : config.Represents counterpart tree) (accepted : Settings.isBoolean value) : value = counterpart := by
  obtain ⟨b, same⟩ := Settings.isBoolean_iff.mp accepted
  cases represents with
  | boolean b =>
    cases alike
    rfl
  | _ => cases same

theorem Represents.eq_of_flag? (represents : config.Represents value tree)
    (alike : config.Represents counterpart tree) (accepted : (Settings.flag? value).isSome) : value = counterpart := by
  obtain ⟨c, found⟩ := Option.isSome_iff_exists.mp accepted
  have same := Settings.flag?_eq_some_iff.mp found
  cases represents with
  | string s =>
    cases alike
    rfl
  | _ => cases same

theorem Represents.eq_of_isFlagList (represents : config.Represents value tree)
    (alike : config.Represents counterpart tree) (accepted : Settings.isFlagList value) : value = counterpart := by
  cases represents with
  | array each =>
    cases alike with
    | array eachOther =>
      have flags := List.all_eq_true.mp accepted
      rw [List.forall_mem_ofFn_iff] at flags
      exact congrArg (fun items => ConfigValue.array (List.ofFn items))
        (funext fun i => (each i).eq_of_flag? (eachOther i) (flags i))
  | _ => cases accepted

/-- What an option of a builder accepts has no table in it, so it is all there is of its tree. -/
theorem Represents.eq_of_accepts (represents : config.Represents value tree)
    (alike : config.Represents counterpart tree) {spec : OptionSpec} (member : spec ∈ Settings.options)
    (accepted : spec.accepts value) : value = counterpart := by
  simp only [Settings.options, List.mem_cons, List.not_mem_nil, or_false] at member
  rcases member with rfl | rfl | rfl | rfl
  · exact represents.eq_of_isBoolean alike accepted
  · exact represents.eq_of_isBoolean alike accepted
  · exact represents.eq_of_isBoolean alike accepted
  · exact represents.eq_of_isFlagList alike accepted

theorem Represents.accepts_eq (represents : config.Represents value tree)
    (alike : config.Represents counterpart tree) {spec : OptionSpec} (member : spec ∈ Settings.options) :
    spec.accepts value = spec.accepts counterpart := by
  rw [Bool.eq_iff_iff]
  constructor
  · intro accepted
    exact represents.eq_of_accepts alike member accepted ▸ accepted
  · intro accepted
    exact alike.eq_of_accepts represents member accepted ▸ accepted

variable {keys : Finset String} {entries others : List (String × ConfigValue)}
  {values valuesOther : keys → ConfigValue} {child : keys → ConfigTree}

/-- An option makes the same of any entries that list the same subtrees. -/
theorem resolve_and_warning?_eq (lists : Lists entries values) (listsOther : Lists others valuesOther)
    (each : ∀ key, config.Represents (values key) (child key))
    (eachOther : ∀ key, config.Represents (valuesOther key) (child key)) {spec : OptionSpec}
    (member : spec ∈ Settings.options) :
    spec.resolve entries = spec.resolve others ∧ spec.warning? entries = spec.warning? others := by
  simp only [OptionSpec.resolve, OptionSpec.warning?, OptionSpec.given?]
  by_cases present : spec.name ∈ keys
  · have one := each ⟨spec.name, present⟩
    have two := eachOther ⟨spec.name, present⟩
    rw [lists.lookup_of_mem ⟨spec.name, present⟩, listsOther.lookup_of_mem ⟨spec.name, present⟩]
    simp only [Option.filter, one.isNull_eq_false, two.isNull_eq_false, Bool.not_false, if_true]
    rw [← one.accepts_eq two member, one.typeName_eq two]
    cases accepted : spec.accepts (values ⟨spec.name, present⟩) with
    | true => exact ⟨one.eq_of_accepts two member accepted, rfl⟩
    | false => exact ⟨rfl, rfl⟩
  · rw [lists.lookup_of_not_mem present, listsOther.lookup_of_not_mem present]
    exact ⟨rfl, rfl⟩

/-- What is loaded from a value depends on its tree only. -/
theorem Represents.load_eq (represents : config.Represents value tree)
    (alike : config.Represents counterpart tree) : Settings.load (some value) = Settings.load (some counterpart) := by
  have loaded : loadOptions (some value) Settings.options = loadOptions (some counterpart) Settings.options := by
    cases represents with
    | table lists each =>
      cases alike with
      | table listsOther eachOther =>
        have made (spec : OptionSpec) (member : spec ∈ Settings.options) :=
          resolve_and_warning?_eq lists listsOther each eachOther member
        refine loadOptions_congr_of_specs lists.distinct listsOther.distinct (fun name => ?_)
          (fun spec member => (made spec member).1) fun spec member => (made spec member).2
        rw [Bool.eq_iff_iff, ← mem_keys_iff, ← mem_keys_iff, lists.mem_keys_iff, listsOther.mem_keys_iff]
    | _ =>
      cases alike
      rfl
  rw [Settings.load, Settings.load, loaded]

end Loading

/-! ## Both notations -/

/-- Every tree can be written. -/
theorem exists_represents {V : Type} (form : TreeForm V) (tree : ConfigTree) :
    ∃ value, form.Represents value tree := by
  induction tree with
  | string s => exact ⟨_, .string s⟩
  | integer n fits => exact ⟨_, .integer n fits⟩
  | float x finite => exact ⟨_, .float x finite⟩
  | boolean b => exact ⟨_, .boolean b⟩
  | array item ih =>
    choose items each using ih
    exact ⟨_, .array each⟩
  | @table keys child ih =>
    choose values each using ih
    exact ⟨_, .table (Lists.attach values) each⟩

end TreeForm

/-- Both notations agree. Every tree can be written in each of them, and what is read from either is the same value,
which equals itself and represents the tree. From every value that represents the tree, in whatever order its tables
list their entries, the same settings are loaded with the same warnings. At any depth of any JSON value the
integers that fit 64 bits, and no other numbers, stay integers; an integer that does not fit becomes a double. -/
theorem ConfigTree.notations_agree (tree : ConfigTree) :
    (∃ value, TreeForm.json.Represents value tree) ∧ (∃ value, TreeForm.toml.Represents value tree) ∧
    (∀ json toml, TreeForm.json.Represents json tree → TreeForm.toml.Represents toml tree →
      ofJson json = ofToml toml ∧ ofJson json == ofToml toml ∧ TreeForm.config.Represents (ofJson json) tree ∧
      Settings.load (some (ofJson json)) = Settings.load (some (ofToml toml)) ∧
      ∀ value, TreeForm.config.Represents value tree →
        Settings.load (some value) = Settings.load (some (ofJson json))) ∧
    (∀ (json : Json.Value) (path : List ValueStep) (n : Int),
      ((ofJson json).descend? path = some (.integer n) ↔ json.descend? path = some (.int n) ∧ FitsWord n) ∧
      (json.descend? path = some (.int n) → ¬ FitsWord n →
        (ofJson json).descend? path = some (.float (toDouble n)))) := by
  refine ⟨TreeForm.json.exists_represents tree, TreeForm.toml.exists_represents tree,
    fun json toml inJson inToml => ?_, fun json path n => ⟨?_, fun found beyond => ?_⟩⟩
  · have same := TreeForm.keptBy_ofJson.agree TreeForm.keptBy_ofToml inJson inToml
    have represents := TreeForm.keptBy_ofJson.represents inJson
    rw [← same]
    exact ⟨rfl, represents.beq_self, represents, rfl, fun value alike => alike.load_eq represents⟩
  · rw [descend?_ofJson, Option.map_eq_some_iff]
    simp only [ofJson_eq_integer_iff]
    constructor
    · rintro ⟨_, found, rfl, fits⟩
      exact ⟨found, fits⟩
    · rintro ⟨found, fits⟩
      exact ⟨_, found, rfl, fits⟩
  · rw [descend?_ofJson, found, Option.map_some, ofJson, if_neg (isInteger_iff.not.mpr beyond)]

/-- A table of two entries, in either order. -/
theorem TreeForm.Represents.pair {V : Type} {form : TreeForm V} {first second : String} {one two : V}
    {entries : List (String × V)} {left right : ConfigTree} (differ : first ≠ second)
    (order : [(first, one), (second, two)].Perm entries) (representsOne : form.Represents one left)
    (representsTwo : form.Represents two right) :
    form.Represents (form.table entries)
      (.table fun key : ({first, second} : Finset String) => if key.1 = first then left else right) := by
  have lists : Lists [(first, one), (second, two)]
      fun key : ({first, second} : Finset String) => if key.1 = first then one else two := by
    refine ⟨by simpa using differ, ?_, by simp⟩
    rintro ⟨key, member⟩
    simp only [Finset.mem_insert, Finset.mem_singleton] at member
    rcases member with rfl | rfl
    · simp
    · simp [differ.symm]
  refine .table (lists.perm order) fun key => ?_
  by_cases here : key.1 = first
  · simpa [here] using representsOne
  · simpa [here] using representsTwo

/-- The entries of a table, and those of a table in it, stand in one order in JSON and in another one in TOML; and
an integer deep in a value does not fit. -/
theorem ConfigTree.notations_agree_of_reordered :
    let inner : ConfigTree := .table fun key : ({"ratio", "size"} : Finset String) =>
      if key.1 = "ratio" then .float 0.5 (by decide) else .integer (-7) (by decide)
    let tree : ConfigTree := .table fun key : ({"flags", "more"} : Finset String) =>
      if key.1 = "flags" then .array ![.string "g", .boolean true] else inner
    let json : Json.Value := .object [("more", .object [("size", .int (-7)), ("ratio", .float 0.5)]),
      ("flags", .array [.string "g", .bool true])]
    let toml : Toml.Value := .table [("flags", .array [.string "g", .boolean true]),
      ("more", .table [("ratio", .float 0.5), ("size", .integer (-7))])]
    let deep : Json.Value := .object [("more", .array [.null, .int (2 ^ 63)])]
    let path : List ValueStep := [.entry "more", .item 1]
    TreeForm.json.Represents json tree ∧ TreeForm.toml.Represents toml tree ∧ ofJson json = ofToml toml ∧
      Settings.load (some (ofJson json)) = Settings.load (some (ofToml toml)) ∧
      deep.descend? path = some (.int (2 ^ 63)) ∧ ¬ FitsWord (2 ^ 63) ∧
      (ofJson deep).descend? path = some (.float (toDouble (2 ^ 63))) := by
  intro inner tree json toml deep path
  have innerJson : TreeForm.json.Represents (.object [("size", .int (-7)), ("ratio", .float 0.5)]) inner :=
    .pair (by decide) (.swap ..) (.float 0.5 _) (.integer (-7) _)
  have innerToml : TreeForm.toml.Represents (.table [("ratio", .float 0.5), ("size", .integer (-7))]) inner :=
    .pair (by decide) (.refl _) (.float 0.5 _) (.integer (-7) _)
  have eachJson (i : Fin 2) : TreeForm.json.Represents
      (![Json.Value.string "g", .bool true] i) (![ConfigTree.string "g", .boolean true] i) := by
    fin_cases i
    · exact .string "g"
    · exact .boolean true
  have eachToml (i : Fin 2) : TreeForm.toml.Represents
      (![Toml.Value.string "g", .boolean true] i) (![ConfigTree.string "g", .boolean true] i) := by
    fin_cases i
    · exact .string "g"
    · exact .boolean true
  have inJson : TreeForm.json.Represents json tree := .pair (by decide) (.swap ..) (.array eachJson) innerJson
  have inToml : TreeForm.toml.Represents toml tree := .pair (by decide) (.refl _) (.array eachToml) innerToml
  have found : deep.descend? path = some (.int (2 ^ 63)) := rfl
  have beyond : ¬ FitsWord (2 ^ 63) := by decide
  obtain ⟨_, _, agree, depth⟩ := ConfigTree.notations_agree tree
  obtain ⟨same, _, _, loaded, _⟩ := agree json toml inJson inToml
  exact ⟨inJson, inToml, same, loaded, found, beyond, (depth deep path (2 ^ 63)).2 found beyond⟩

end PatternComposer
