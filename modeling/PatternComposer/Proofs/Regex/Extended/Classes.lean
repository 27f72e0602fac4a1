import PatternComposer.Proofs.Regex.Classes
import PatternComposer.Regex.Extended.Token

/-! # Classes of listed characters in the extended dialect

The extended dialect spells a class anew and has the plain one read it, with the backspace as a raw character. So
both dialects take a class for the same set: `readClass_text`.
-/

namespace PatternComposer.Regex.Extended

open ClassItem (marks enclosed classMembers)

variable {item : ClassItem} {items : List ClassItem} {c : Char}

/-- The item with the backspace as a character of its own. -/
def raw : ClassItem → ClassItem
  | .backspace => .char '\x08'
  | item => item

theorem wellFormed_raw (wellFormed : item.WellFormed) : (raw item).WellFormed := by
  cases item with
  | backspace =>
    change '\x08' ∉ marks
    decide
  | char c => exact wellFormed
  | range first last => exact wellFormed

theorem members_raw (item : ClassItem) : (raw item).members = item.members := by
  cases item <;> rfl

theorem classMembers_raw (negated : Bool) (items : List ClassItem) :
    classMembers negated (items.map raw) = classMembers negated items := by
  have gathered (before : ItemList) : ClassItem.gather before (items.map raw) = ClassItem.gather before items := by
    simp only [ClassItem.gather, List.foldl_map, members_raw]
  rw [classMembers, classMembers, gathered]

theorem plainClass_char (other : c ∉ marks) (fuel nest : Nat) (done rest : List Char) :
    plainClass (fuel + 1) nest done (c :: rest) = plainClass fuel nest (c :: done) rest := by
  have escapes : c ≠ '\\' := ClassItem.ne_mark other (by decide)
  have opens : c ≠ '[' := ClassItem.ne_mark other (by decide)
  have closes : c ≠ ']' := ClassItem.ne_mark other (by decide)
  simp [plainClass]

theorem plainClass_item (wellFormed : item.WellFormed) (fuel nest : Nat) (done rest : List Char) :
    ∃ spare, plainClass (fuel + item.text.length) nest done (item.text ++ rest) =
      plainClass (fuel + spare) nest ((raw item).text.reverse ++ done) rest := by
  cases item with
  | char c => exact ⟨0, plainClass_char wellFormed fuel nest done rest⟩
  | range first last =>
    refine ⟨0, ?_⟩
    change plainClass (fuel + 2 + 1) nest done (first :: '-' :: last :: rest) = _
    rw [plainClass_char wellFormed.1]
    change plainClass (fuel + 1) nest ('-' :: first :: done) (last :: rest) = _
    rw [plainClass_char wellFormed.2.1]
    rfl
  | backspace => exact ⟨3, rfl⟩

/-- The items are spelled one after the other, up to the bracket that closes the class. -/
theorem plainClass_text (wellFormed : ∀ item ∈ items, item.WellFormed) {fuel : Nat}
    (enough : (items.flatMap ClassItem.text).length < fuel) (done rest : List Char) :
    plainClass fuel 1 done (items.flatMap ClassItem.text ++ ']' :: rest) =
      some (done.reverse ++ (items.map raw).flatMap ClassItem.text ++ [']'], rest) := by
  induction items generalizing fuel done with
  | nil =>
    obtain ⟨fuel, rfl⟩ : ∃ n, fuel = n + 1 := ⟨fuel - 1, by omega⟩
    simp [plainClass]
  | cons item items ih =>
    obtain ⟨first, others⟩ := List.forall_mem_cons.mp wellFormed
    rw [List.flatMap_cons, List.length_append] at enough
    obtain ⟨fuel, rfl⟩ : ∃ n, fuel = n + item.text.length := ⟨fuel - item.text.length, by omega⟩
    obtain ⟨spare, copied⟩ := plainClass_item first fuel 1 done (items.flatMap ClassItem.text ++ ']' :: rest)
    rw [List.flatMap_cons, List.append_assoc, copied, ih others (by omega)]
    simp

/-- A caret in front of a class is copied, if neither a caret nor a bracket that closes the class comes next. -/
theorem readClass_of_plainClass {negated : Bool} (notCaret : c ≠ '^') (notBracket : c ≠ ']')
    {cs text rest : List Char}
    {part : ClassPart}
    (spelled : plainClass ((c :: cs).length + 1) 1 (if negated then ['^'] else []) (c :: cs) = some (text, rest))
    (read : Modes.initial.readClass text = some (part, [])) :
    readClass false ((if negated then ['^'] else []) ++ c :: cs) = some (.members part.members part.depth, rest) := by
  dsimp only [Modes.initial] at read
  cases negated with
  | false =>
    change plainClass _ 1 [] (c :: cs) = _ at spelled
    change readClass false (c :: cs) = _
    rw [readClass]
    · dsimp only [Modes.initial]
      rw [spelled, Option.bind_some]
      dsimp only
      rw [read]
      rfl
    · exact fun _ same => notCaret (List.cons.inj same).1
    · exact fun _ same => notCaret (List.cons.inj same).1
    · exact fun _ same => notBracket (List.cons.inj same).1
  | true =>
    change plainClass _ 1 ['^'] (c :: cs) = _ at spelled
    change readClass false ('^' :: c :: cs) = _
    rw [readClass]
    · dsimp only [Modes.initial]
      rw [spelled, Option.bind_some]
      dsimp only
      rw [read]
      rfl
    · exact fun _ same => notBracket (List.cons.inj same).1

/-- The extended dialect reads a class as the plain one does. -/
theorem readClass_text (negated : Bool) (wellFormed : ∀ item ∈ items, item.WellFormed) (nonempty : items ≠ []) :
    ∃ depth, ∀ rest, readClass false (enclosed negated ClassItem.text items ++ rest) =
      some (.members (classMembers negated items) depth, rest) := by
  have rawWellFormed : ∀ item ∈ items.map raw, item.WellFormed := by
    intro item member
    obtain ⟨original, inside, rfl⟩ := List.mem_map.mp member
    exact wellFormed_raw (wellFormed original inside)
  have rawNonempty : items.map raw ≠ [] := by
    rw [ne_eq, List.map_eq_nil_iff]
    exact nonempty
  obtain ⟨depth, _, read⟩ := ClassItem.readClass_text negated rawWellFormed rawNonempty
  have plain : Modes.initial.readClass (enclosed negated ClassItem.text (items.map raw)) =
      some (⟨classMembers negated items, depth⟩, []) := by
    rw [← classMembers_raw, ← read false [], List.append_nil]
    rfl
  refine ⟨depth, fun rest => ?_⟩
  have enough : (items.flatMap ClassItem.text).length < (items.flatMap ClassItem.text ++ ']' :: rest).length + 1 := by
    rw [List.length_append]
    omega
  have spelled := plainClass_text wellFormed enough (if negated then ['^'] else []) rest
  have front : (if negated then ['^'] else []).reverse = if negated then ['^'] else [] := by cases negated <;> rfl
  rw [front] at spelled
  change _ = some (enclosed negated ClassItem.text (items.map raw), rest) at spelled
  obtain ⟨item, others, rfl⟩ := List.exists_cons_of_ne_nil nonempty
  obtain ⟨c, more, head, notCaret, _, notBracket⟩ := ClassItem.text_head (wellFormed item List.mem_cons_self)
  rw [List.flatMap_cons, head, List.cons_append, List.cons_append] at spelled
  rw [enclosed, List.flatMap_cons, head, List.append_assoc, List.append_assoc, List.cons_append, List.cons_append,
    List.singleton_append]
  exact readClass_of_plainClass notCaret notBracket spelled plain

end PatternComposer.Regex.Extended
