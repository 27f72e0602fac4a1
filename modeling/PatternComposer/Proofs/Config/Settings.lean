import PatternComposer.Config.Settings
import PatternComposer.Proofs.Config.Options

/-! # What loading settings gives

Each setting is decided by what the raw options have under its own key and by nothing else. Written
settings have every key with a value of its form, so loading them gives the settings back.
-/

namespace PatternComposer

open ConfigValue

/-! ## Single options -/

/-- Options of different names have their values side by side. -/
theorem get?_loadOptions_of_mem (raw : Option ConfigValue) {specs : List OptionSpec}
    (distinct : (specs.map (·.name)).Nodup) {spec : OptionSpec} (member : spec ∈ specs) :
    (loadOptions raw specs).get? spec.name = some (spec.resolve (rawEntries raw).1) := by
  obtain ⟨before, after, rfl⟩ := List.append_of_mem member
  apply get?_loadOptions
  intro later present same
  rw [List.map_append, List.map_cons, List.nodup_append] at distinct
  apply (List.nodup_cons.mp distinct.2.1).1
  rw [← same]
  exact List.mem_map_of_mem present

/-- Nothing is reported about a table in which every option has a value that it accepts, and no other
key stands. -/
theorem warnings_eq_nil {entries : List (String × ConfigValue)} {specs : List OptionSpec}
    (accepted : ∀ spec ∈ specs, ∀ value, entries.lookup spec.name = some value → spec.accepts value)
    (known : ∀ name ∈ entries.map Prod.fst, ∃ spec ∈ specs, spec.name = name) :
    (loadOptions (some (.table entries)) specs).warnings = [] := by
  have wrong : specs.filterMap (fun spec => spec.warning? entries) = [] := by
    rw [List.filterMap_eq_nil_iff]
    intro spec member
    rw [OptionSpec.warning?, OptionSpec.given?]
    cases found : entries.lookup spec.name with
    | none => rfl
    | some value =>
      have accepted := accepted spec member value found
      cases null : value.isNull <;> simp [Option.filter, null, accepted]
  have unknown : unknownKeys entries specs = [] := by
    rw [List.eq_nil_iff_forall_not_mem]
    intro name member
    obtain ⟨present, other⟩ := mem_unknownKeys.mp member
    obtain ⟨spec, among, same⟩ := known name (mem_keys_iff.mpr present)
    exact other spec among same
  rw [warnings_loadOptions]
  change [] ++ specs.filterMap (fun spec => spec.warning? entries) ++
    (unknownKeys entries specs).map .illegalProperty = []
  rw [wrong, unknown]
  rfl

namespace Settings

/-! ## One setting at a time -/

/-- A setting is what the raw value was written from, or else its default. -/
structure TakenFrom {α : Type} (write : α → ConfigValue) (default : α) (raw : Option ConfigValue) (setting : α) :
    Prop where
  given : ∀ a, raw = some (write a) → setting = a
  missing : (∀ a, raw ≠ some (write a)) → setting = default

theorem TakenFrom.unique {α : Type} {write : α → ConfigValue} {default first second : α} {raw : Option ConfigValue}
    (one : TakenFrom write default raw first) (other : TakenFrom write default raw second) : first = second := by
  by_cases given : ∃ a, raw = some (write a)
  · obtain ⟨a, same⟩ := given
    rw [one.given a same, other.given a same]
  · rw [not_exists] at given
    rw [one.missing given, other.missing given]

theorem TakenFrom.of_write {α : Type} {write : α → ConfigValue} (injective : ∀ a b, write a = write b → a = b)
    {default a : α} : TakenFrom write default (some (write a)) a where
  given b same := injective a b (Option.some.inj same)
  missing other := absurd rfl (other a)

/-- How a list of flags is written: each flag as a text of its own. -/
def writeFlags (flags : List Char) : ConfigValue := .array (flags.map fun flag => .string flag.toString)

theorem isBoolean_iff {value : ConfigValue} : isBoolean value ↔ ∃ b, value = .boolean b := by
  cases value <;> simp [isBoolean, boolean?]

theorem flag?_eq_some_iff {value : ConfigValue} {c : Char} : flag? value = some c ↔ value = .string c.toString := by
  cases value with
  | string s =>
    have lone : s = c.toString ↔ s.toList = [c] := by
      rw [← String.toList_inj, Char.toString, String.toList_singleton]
    rw [ConfigValue.string.injEq, lone, flag?]
    simp only [string?, Option.map_some]
    match s.toList with
    | [] => simp
    | [d] => simp
    | d :: e :: rest => simp
  | _ => simp [flag?, string?]

theorem all_flag?_iff {items : List ConfigValue} :
    (items.all fun item => (flag? item).isSome) ↔
      ∃ flags : List Char, items = flags.map fun flag => .string flag.toString := by
  induction items with
  | nil => exact iff_of_true rfl ⟨[], rfl⟩
  | cons item rest ih =>
    rw [List.all_cons, Bool.and_eq_true, ih, Option.isSome_iff_exists]
    constructor
    · rintro ⟨⟨c, first⟩, flags, rfl⟩
      exact ⟨c :: flags, by rw [List.map_cons, flag?_eq_some_iff.mp first]⟩
    · rintro ⟨flags, same⟩
      cases flags with
      | nil => cases same
      | cons c flags =>
        obtain ⟨rfl, rfl⟩ := List.cons.inj same
        exact ⟨⟨c, flag?_eq_some_iff.mpr rfl⟩, flags, rfl⟩

theorem isFlagList_iff {value : ConfigValue} : isFlagList value ↔ ∃ flags, value = writeFlags flags := by
  cases value with
  | array items =>
    rw [isFlagList, array?, Option.any_some, all_flag?_iff]
    simp only [writeFlags, ConfigValue.array.injEq]
  | _ => simp [isFlagList, array?, writeFlags]

/-- An option that accepts what is written in its form, and no null, has the raw value or its default. -/
theorem takenFrom_resolve {α : Type} {write : α → ConfigValue} (read : ConfigValue → α) {default : α}
    (spec : OptionSpec) (form : ∀ value, spec.accepts value ↔ ∃ a, value = write a)
    (filled : ∀ a, (write a).isNull = false) (back : ∀ a, read (write a) = a)
    (initial : spec.default = write default)
    (raw : Option ConfigValue) :
    TakenFrom write default (rawValue? raw spec.name) (read (spec.resolve (rawEntries raw).1)) where
  given a found := by
    have accepted : spec.accepts (write a) := (form _).mpr ⟨a, rfl⟩
    rw [OptionSpec.resolve, OptionSpec.given?_rawEntries, found]
    simp [Option.filter, filled, accepted, back]
  missing other := by
    rw [OptionSpec.resolve, OptionSpec.given?_rawEntries]
    cases found : rawValue? raw spec.name with
    | none => exact (congrArg read initial).trans (back default)
    | some value =>
      have refused : ¬ spec.accepts value := by
        intro accepted
        obtain ⟨a, rfl⟩ := (form value).mp accepted
        exact other a found
      cases null : value.isNull <;> simp [Option.filter, null, refused, initial, back]

theorem nodup_names : (options.map (·.name)).Nodup := by decide

theorem get?_options (raw : Option ConfigValue) {spec : OptionSpec} (member : spec ∈ options) :
    (loadOptions raw options).get? spec.name = some (spec.resolve (rawEntries raw).1) :=
  get?_loadOptions_of_mem raw nodup_names member

/-- A setting that is on or off. -/
theorem takenFrom_boolean (raw : Option ConfigValue) {key : String} {default : Bool}
    (member : ⟨key, .boolean default, isBoolean, "boolean"⟩ ∈ options) :
    TakenFrom .boolean default (rawValue? raw key)
      ((((loadOptions raw options).get? key).bind boolean?).getD default) := by
  have resolved := get?_options raw member
  change (loadOptions raw options).get? key = _ at resolved
  rw [resolved, Option.bind_some]
  exact takenFrom_resolve (fun value => value.boolean?.getD default) ⟨key, .boolean default, isBoolean, "boolean"⟩
    (fun _ => isBoolean_iff) (fun _ => rfl) (fun _ => rfl) rfl raw

/-- The flags of a list that was taken for one. -/
def readFlags (value : ConfigValue) : List Char :=
  (value.array?.getD []).filterMap fun item => item.string?.bind fun s => s.toList.head?

theorem readFlags_writeFlags (flags : List Char) : readFlags (writeFlags flags) = flags := by
  have each : (fun item => item.string?.bind fun s => s.toList.head?) ∘
      (fun flag : Char => ConfigValue.string flag.toString) = some := by
    funext c
    simp [string?]
  rw [readFlags, writeFlags, array?, Option.getD_some, List.filterMap_map, each, List.filterMap_some]

theorem takenFrom_flags (raw : Option ConfigValue) :
    TakenFrom writeFlags [] (rawValue? raw flagsKey) (load raw).1.flags := by
  have member : ⟨flagsKey, .array [], isFlagList, "array"⟩ ∈ options := by simp [options]
  have resolved := get?_options raw member
  change (loadOptions raw options).get? flagsKey = _ at resolved
  rw [load, ofLoaded, resolved, Option.bind_some]
  exact takenFrom_resolve readFlags ⟨flagsKey, .array [], isFlagList, "array"⟩ (fun _ => isFlagList_iff)
    (fun _ => rfl) readFlags_writeFlags rfl raw

theorem writeFlags_inj {flags others : List Char} (same : writeFlags flags = writeFlags others) : flags = others := by
  rw [← readFlags_writeFlags flags, same, readFlags_writeFlags]

/-! ## Written settings -/

/-- The table that settings are written as. -/
def written (settings : Settings) : List (String × ConfigValue) :=
  collect [(groupValidationKey, .boolean settings.groupValidation),
    (wrapInsideGroupKey, .boolean settings.wrapInsideGroup),
    (wrapTextInsideGroupKey, .boolean settings.wrapTextInsideGroup), (flagsKey, writeFlags settings.flags)]

theorem ofJson_toJson (settings : Settings) : ofJson settings.toJson = .table settings.written := by
  have each : (ofJson ∘ fun flag : Char => Json.Value.string flag.toString) = fun flag => .string flag.toString := by
    funext flag
    rw [Function.comp_apply, ofJson]
  simp only [toJson, ofJson, ofJsonMembers, ofJsonItems_eq_map, List.map_map, each]
  rfl

theorem lookup_written (settings : Settings) :
    settings.written.lookup groupValidationKey = some (.boolean settings.groupValidation) ∧
      settings.written.lookup wrapInsideGroupKey = some (.boolean settings.wrapInsideGroup) ∧
      settings.written.lookup wrapTextInsideGroupKey = some (.boolean settings.wrapTextInsideGroup) ∧
      settings.written.lookup flagsKey = some (writeFlags settings.flags) := by
  simp only [written, lookup_collect]
  refine ⟨rfl, rfl, rfl, rfl⟩

theorem rawValue?_toJson (settings : Settings) (name : String) :
    rawValue? (some (ofJson settings.toJson)) name = settings.written.lookup name := by
  rw [ofJson_toJson]
  rfl

/-- Written settings raise no warning. -/
theorem warnings_written (settings : Settings) : (load (some (ofJson settings.toJson))).2 = [] := by
  obtain ⟨strict, whole, texts, flags⟩ := settings.lookup_written
  rw [ofJson_toJson]
  apply warnings_eq_nil
  · intro spec member value found
    simp only [options, List.mem_cons, List.not_mem_nil, or_false] at member
    rcases member with rfl | rfl | rfl | rfl
    · obtain rfl := Option.some.inj (strict.symm.trans found)
      rfl
    · obtain rfl := Option.some.inj (whole.symm.trans found)
      rfl
    · obtain rfl := Option.some.inj (texts.symm.trans found)
      rfl
    · obtain rfl := Option.some.inj (flags.symm.trans found)
      exact isFlagList_iff.mpr ⟨settings.flags, rfl⟩
  · intro name member
    rw [written, mem_keys_collect] at member
    simp only [List.map_cons, List.map_nil, List.mem_cons, List.not_mem_nil, or_false] at member
    rcases member with rfl | rfl | rfl | rfl <;> simp [options]

/-! ## All settings -/

/-- Each setting is decided by the raw value under its own key. -/
structure LoadedFrom (raw : Option ConfigValue) (settings : Settings) : Prop where
  groupValidation : TakenFrom .boolean true (rawValue? raw groupValidationKey) settings.groupValidation
  wrapInsideGroup : TakenFrom .boolean false (rawValue? raw wrapInsideGroupKey) settings.wrapInsideGroup
  wrapTextInsideGroup :
    TakenFrom .boolean false (rawValue? raw wrapTextInsideGroupKey) settings.wrapTextInsideGroup
  flags : TakenFrom writeFlags [] (rawValue? raw flagsKey) settings.flags

theorem loadedFrom_load (raw : Option ConfigValue) : LoadedFrom raw (load raw).1 where
  groupValidation := takenFrom_boolean raw (by simp [options])
  wrapInsideGroup := takenFrom_boolean raw (by simp [options])
  wrapTextInsideGroup := takenFrom_boolean raw (by simp [options])
  flags := takenFrom_flags raw

theorem LoadedFrom.unique {raw : Option ConfigValue} {first second : Settings} (one : LoadedFrom raw first)
    (other : LoadedFrom raw second) : first = second := by
  obtain ⟨strict, whole, texts, flags⟩ := first
  obtain rfl := one.groupValidation.unique other.groupValidation
  obtain rfl := one.wrapInsideGroup.unique other.wrapInsideGroup
  obtain rfl := one.wrapTextInsideGroup.unique other.wrapTextInsideGroup
  obtain rfl := one.flags.unique other.flags
  rfl

/-- Written settings are loaded again. -/
theorem loadedFrom_toJson (settings : Settings) : LoadedFrom (some (ofJson settings.toJson)) settings := by
  obtain ⟨strict, whole, texts, flags⟩ := settings.lookup_written
  constructor
  · rw [rawValue?_toJson, strict]
    exact .of_write fun _ _ => ConfigValue.boolean.inj
  · rw [rawValue?_toJson, whole]
    exact .of_write fun _ _ => ConfigValue.boolean.inj
  · rw [rawValue?_toJson, texts]
    exact .of_write fun _ _ => ConfigValue.boolean.inj
  · rw [rawValue?_toJson, flags]
    exact .of_write fun _ _ => writeFlags_inj

theorem load_toJson (settings : Settings) : load (some (ofJson settings.toJson)) = (settings, []) := by
  have same := (loadedFrom_load (some (ofJson settings.toJson))).unique (loadedFrom_toJson settings)
  exact Prod.ext same (warnings_written settings)

/-- Loading undoes writing, for all settings. Of raw options each setting is what stands under its key, if
that has the form of a written one, and its default otherwise. So it depends on its own key only, and
what was loaded once is loaded again without warnings. -/
theorem load_spec :
    (∀ settings : Settings, load (some (ofJson settings.toJson)) = (settings, [])) ∧
    (∀ raw, LoadedFrom raw (load raw).1) ∧
    (∀ raw other,
      (rawValue? raw groupValidationKey = rawValue? other groupValidationKey →
        (load raw).1.groupValidation = (load other).1.groupValidation) ∧
      (rawValue? raw wrapInsideGroupKey = rawValue? other wrapInsideGroupKey →
        (load raw).1.wrapInsideGroup = (load other).1.wrapInsideGroup) ∧
      (rawValue? raw wrapTextInsideGroupKey = rawValue? other wrapTextInsideGroupKey →
        (load raw).1.wrapTextInsideGroup = (load other).1.wrapTextInsideGroup) ∧
      (rawValue? raw flagsKey = rawValue? other flagsKey → (load raw).1.flags = (load other).1.flags)) ∧
    (∀ raw, load (some (ofJson (load raw).1.toJson)) = ((load raw).1, [])) := by
  refine ⟨load_toJson, loadedFrom_load, fun raw other => ?_, fun raw => load_toJson (load raw).1⟩
  have one := loadedFrom_load raw
  have two := loadedFrom_load other
  refine ⟨fun same => ?_, fun same => ?_, fun same => ?_, fun same => ?_⟩
  · exact (same ▸ one.groupValidation).unique two.groupValidation
  · exact (same ▸ one.wrapInsideGroup).unique two.wrapInsideGroup
  · exact (same ▸ one.wrapTextInsideGroup).unique two.wrapTextInsideGroup
  · exact (same ▸ one.flags).unique two.flags

end Settings
end PatternComposer
