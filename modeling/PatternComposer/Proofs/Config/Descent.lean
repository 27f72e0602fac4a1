import PatternComposer.Proofs.Config.Options

/-! # Numbers at any depth

A path leads into arrays and tables. It leads to the same place in a JSON value and in what the value is converted
to, so what becomes of numbers at any depth is what becomes of a single number: an integer that fits 64 bits is
kept, any other one becomes a double.
-/

namespace PatternComposer

/-- The integer fits 64 bits, one of them for the sign. -/
def FitsWord (n : Int) : Prop := -2 ^ 63 ≤ n ∧ n < 2 ^ 63

instance (n : Int) : Decidable (FitsWord n) := inferInstanceAs (Decidable (_ ∧ _))

/-- One step from a value into an array or a table. -/
inductive ValueStep where
  | item (index : Nat)
  | entry (key : String)

/-- The value one step further. Of two members with one key the last one counts. -/
def Json.Value.child? : Json.Value → ValueStep → Option Json.Value
  | .array items, .item index => items[index]?
  | .object members, .entry key => members.reverse.lookup key
  | _, _ => none

def Json.Value.descend? (value : Json.Value) (path : List ValueStep) : Option Json.Value :=
  path.foldlM Json.Value.child? value

namespace ConfigValue

theorem isInteger_iff {n : Int} : isInteger n ↔ FitsWord n := by
  rw [isInteger, Bool.and_eq_true, decide_eq_true_iff, decide_eq_true_iff]
  exact Iff.rfl

def child? : ConfigValue → ValueStep → Option ConfigValue
  | .array items, .item index => items[index]?
  | .table entries, .entry key => entries.lookup key
  | _, _ => none

def descend? (value : ConfigValue) (path : List ValueStep) : Option ConfigValue := path.foldlM child? value

theorem lookup_map (convert : Json.Value → ConfigValue) (members : List (String × Json.Value)) (key : String) :
    (members.map fun member => (member.1, convert member.2)).lookup key = (members.lookup key).map convert := by
  induction members with
  | nil => rfl
  | cons member rest ih =>
    rw [List.map_cons, List.lookup_cons, List.lookup_cons, ih]
    cases key == member.1 <;> rfl

theorem child?_ofJson (value : Json.Value) (step : ValueStep) :
    (ofJson value).child? step = (value.child? step).map ofJson := by
  cases value with
  | array items =>
    rw [ofJson, ofJsonItems_eq_map]
    cases step with
    | item index => exact List.getElem?_map ..
    | entry key => rfl
  | object members =>
    rw [ofJson, ofJsonMembers_eq_map]
    cases step with
    | item index => rfl
    | entry key =>
      change (collect _).lookup key = _
      rw [lookup_collect, ← List.map_reverse, lookup_map]
      rfl
  | int n =>
    rw [ofJson]
    split <;> cases step <;> rfl
  | _ =>
    rw [ofJson]
    cases step <;> rfl

/-- Wherever a JSON value leads, its configuration value leads to the same, converted. -/
theorem descend?_ofJson (value : Json.Value) (path : List ValueStep) :
    (ofJson value).descend? path = (value.descend? path).map ofJson := by
  induction path generalizing value with
  | nil => rfl
  | cons step rest ih =>
    rw [descend?, Json.Value.descend?, List.foldlM_cons, List.foldlM_cons, child?_ofJson]
    cases value.child? step with
    | none => rfl
    | some next => exact ih next

/-- An integer is an integer that was there and fits. -/
theorem ofJson_eq_integer_iff {value : Json.Value} {n : Int} :
    ofJson value = .integer n ↔ value = .int n ∧ FitsWord n := by
  cases value with
  | int m =>
    rw [ofJson]
    split
    · next fits =>
      simp only [ConfigValue.integer.injEq, Json.Value.int.injEq]
      constructor
      · rintro rfl
        exact ⟨rfl, isInteger_iff.mp fits⟩
      · exact And.left
    · next beyond =>
      simp only [Json.Value.int.injEq, reduceCtorEq, false_iff]
      rintro ⟨rfl, fits⟩
      exact beyond (isInteger_iff.mpr fits)
  | _ =>
    rw [ofJson]
    simp [ofEntries]

end ConfigValue

end PatternComposer
