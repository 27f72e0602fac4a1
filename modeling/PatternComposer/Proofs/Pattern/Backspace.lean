import PatternComposer.Proofs.Pattern.Dialect
import PatternComposer.Regex.Matcher

/-! # Backspaces in nested classes

The engine nests classes: an opening bracket inside of a class opens another one, and a closing bracket that comes
first in a class is a member of it. The pass that spells a pattern only remembers its last bracket. It never takes a
word boundary for a backspace, but it misses a backspace in a class if the bracket before it is a closing one: see
`toEngine_backspace`.
-/

namespace PatternComposer.Dialect

/-! ## Nested classes -/

/-- What stands directly before an item in its class. -/
inductive Before where
  | bracket
  /-- The caret that negates the class. -/
  | caret
  | member
deriving DecidableEq, Repr

/-- How many classes are open, and what was read last in the innermost one. -/
structure Nest where
  depth : Nat
  last : Before
deriving DecidableEq, Repr

namespace Nest

/-- No class is open. -/
def outside : Nest := ⟨0, .member⟩

def next (nest : Nest) : Item → Nest
  | .plain '[' => ⟨nest.depth + 1, .bracket⟩
  | .plain '^' => ⟨nest.depth, if nest.last = .bracket then .caret else .member⟩
  | .plain ']' => ⟨if nest.last = .member then nest.depth - 1 else nest.depth, .member⟩
  | _ => ⟨nest.depth, .member⟩

/-- Where items lead. -/
def after (nest : Nest) (ts : List Item) : Nest := ts.foldl next nest

@[simp] theorem after_nil (nest : Nest) : nest.after [] = nest := rfl

@[simp] theorem after_cons (nest : Nest) (item : Item) (ts : List Item) :
    nest.after (item :: ts) = (nest.next item).after ts := rfl

@[simp] theorem after_append (nest : Nest) (ts others : List Item) :
    nest.after (ts ++ others) = (nest.after ts).after others :=
  List.foldl_append

/-- Only brackets open and close classes. -/
theorem depth_next {item : Item} (opens : item ≠ .plain '[') (closes : item ≠ .plain ']') (nest : Nest) :
    (nest.next item).depth = nest.depth := by
  rw [next.eq_def]
  split
  · exact absurd rfl opens
  · rfl
  · exact absurd rfl closes
  · rfl

theorem depth_next_le {item : Item} (opens : item ≠ .plain '[') (nest : Nest) :
    (nest.next item).depth ≤ nest.depth := by
  by_cases closes : item = .plain ']'
  · subst closes
    rw [next]
    split
    · exact Nat.sub_le ..
    · exact Nat.le_refl _
  · exact Nat.le_of_eq (depth_next opens closes nest)

/-- What stands for an item leads where the item does. -/
theorem after_respell (nest : Nest) (inClass nextDigit : Bool) (item : Item) :
    nest.after (respell inClass nextDigit item) = nest.next item := by
  rcases respell_cases inClass nextDigit item with same | ⟨rfl, _, same⟩ | ⟨rfl, _, same⟩ <;> rw [same] <;> rfl

end Nest

/-- Behind these items a class is open. -/
def Inside (ts : List Item) : Prop := 0 < (Nest.outside.after ts).depth

instance (ts : List Item) : Decidable (Inside ts) := inferInstanceAs (Decidable (0 < _))

/-- The last bracket among items is a closing one. -/
def LastCloses (ts : List Item) : Prop := ∃ before after, ts = before ++ .plain ']' :: after ∧ .plain '[' ∉ after

theorem inside_concat_of_ne {ts : List Item} {item : Item}
    (opens : item ≠ .plain '[') (closes : item ≠ .plain ']') :
    Inside (ts ++ [item]) ↔ Inside ts := by
  rw [Inside, Inside, Nest.after_append, Nest.after_cons, Nest.after_nil, Nest.depth_next opens closes]

/-- Where the pass takes a class to be open, the engine has one open as well. -/
theorem inside_of_isOpen {ts : List Item} (opened : isOpen false ts = true) : Inside ts := by
  -- Both readings only change at brackets, so the last item decides.
  induction ts using List.reverseRecOn with
  | nil => cases opened
  | append_singleton ts item ih =>
    rw [isOpen_append, isOpen_cons, isOpen_nil] at opened
    rcases openAfter_cases (isOpen false ts) item with ⟨rfl, _⟩ | ⟨_, closed⟩ | ⟨opens, closes, same⟩
    · rw [Inside, Nest.after_append]
      exact Nat.succ_pos _
    · rw [closed] at opened
      cases opened
    · rw [same] at opened
      exact (inside_concat_of_ne opens closes).mpr (ih opened)

/-- Behind a bracket that closes, the pass takes no class to be open up to the next one that opens. -/
theorem not_isOpen_of_lastCloses {ts : List Item} (closes : LastCloses ts) : isOpen false ts = false := by
  obtain ⟨before, after, rfl, unopened⟩ := closes
  rw [isOpen_append, isOpen_cons]
  change isOpen false after = false
  rw [Bool.eq_false_iff]
  intro opened
  obtain ⟨front, back, rfl, _⟩ := isOpen_iff.mp opened
  exact unopened (List.mem_append_right _ List.mem_cons_self)

/-- In a class, the pass takes none to be open exactly if the last bracket closes something. -/
theorem lastCloses_of_not_isOpen {ts : List Item} (inside : Inside ts) (closed : isOpen false ts = false) :
    LastCloses ts := by
  induction ts using List.reverseRecOn with
  | nil => cases inside
  | append_singleton ts item ih =>
    rw [isOpen_append, isOpen_cons, isOpen_nil] at closed
    rcases openAfter_cases (isOpen false ts) item with ⟨_, opened⟩ | ⟨rfl, _⟩ | ⟨opens, closes, same⟩
    · rw [opened] at closed
      cases closed
    · exact ⟨ts, [], rfl, List.not_mem_nil⟩
    · rw [same] at closed
      obtain ⟨before, after, rfl, unopened⟩ := ih ((inside_concat_of_ne opens closes).mp inside) closed
      refine ⟨before, after ++ [item], by simp, ?_⟩
      rw [List.mem_append, List.mem_singleton, not_or]
      exact ⟨unopened, opens.symm⟩

theorem isOpen_iff_inside {ts : List Item} : isOpen false ts = true ↔ Inside ts ∧ ¬ LastCloses ts := by
  constructor
  · intro opened
    refine ⟨inside_of_isOpen opened, fun closes => ?_⟩
    rw [not_isOpen_of_lastCloses closes] at opened
    cases opened
  · rintro ⟨inside, last⟩
    by_contra closed
    exact last (lastCloses_of_not_isOpen inside (Bool.eq_false_iff.mpr closed))

/-! ## Classes that do not nest -/

/-- Every bracket that closes leaves no class open: no class stands in another, and none begins with a closing
bracket. -/
def Nest.Flat (nest : Nest) (ts : List Item) : Prop :=
  ∀ before after, ts = before ++ .plain ']' :: after → (nest.after (before ++ [.plain ']'])).depth = 0

theorem Nest.flat_of_unclosed (nest : Nest) {ts : List Item} (unclosed : .plain ']' ∉ ts) : nest.Flat ts := by
  rintro before after rfl
  exact absurd (List.mem_append_right before List.mem_cons_self) unclosed

theorem Nest.flat_cons {nest : Nest} {item : Item} {ts : List Item} :
    nest.Flat (item :: ts) ↔ (item = .plain ']' → (nest.next item).depth = 0) ∧ (nest.next item).Flat ts := by
  constructor
  · intro flat
    constructor
    · rintro rfl
      exact flat [] ts rfl
    · rintro before after rfl
      exact flat (item :: before) after rfl
  · rintro ⟨first, later⟩ before after same
    cases before with
    | nil =>
      obtain ⟨rfl, rfl⟩ := List.cons.inj same
      exact first rfl
    | cons head before =>
      obtain ⟨rfl, rfl⟩ := List.cons.inj same
      exact later before after rfl

theorem Nest.flat_append {nest : Nest} {ts others : List Item} :
    nest.Flat (ts ++ others) ↔ nest.Flat ts ∧ (nest.after ts).Flat others := by
  induction ts generalizing nest with
  | nil => exact (and_iff_right (nest.flat_of_unclosed List.not_mem_nil)).symm
  | cons item ts ih => rw [List.cons_append, flat_cons, flat_cons, ih, after_cons, and_assoc]

theorem Nest.Flat.respell {nest : Nest} {item : Item} (flat : nest.Flat [item]) (inClass nextDigit : Bool) :
    nest.Flat (respell inClass nextDigit item) := by
  rcases respell_cases inClass nextDigit item with same | ⟨rfl, _, same⟩ | ⟨rfl, _, same⟩
  · rwa [same]
  · rw [same]
    exact nest.flat_of_unclosed (by decide)
  · rw [same]
    exact nest.flat_of_unclosed (by decide)

/-- Spelling opens and closes no class. -/
theorem Nest.Flat.respellAll {nest : Nest} {ts : List Item} (flat : nest.Flat ts) (inClass : Bool) (rest : List Char) :
    nest.Flat (respellAll inClass rest ts) := by
  induction ts generalizing nest inClass with
  | nil => exact flat
  | cons item ts ih =>
    obtain ⟨first, later⟩ := Nest.flat_append.mp (show nest.Flat ([item] ++ ts) from flat)
    rw [Dialect.respellAll, Nest.flat_append, Nest.after_respell]
    exact ⟨first.respell _ _, ih later _⟩

theorem not_inside_append {ts others : List Item} (outside : ¬ Inside ts) (unopened : .plain '[' ∉ others) :
    ¬ Inside (ts ++ others) := by
  induction others using List.reverseRecOn with
  | nil => rwa [List.append_nil]
  | append_singleton others item ih =>
    rw [List.mem_append, List.mem_singleton, not_or] at unopened
    have before := ih unopened.1
    have fewer := Nest.depth_next_le (Ne.symm unopened.2) (Nest.outside.after (ts ++ others))
    rw [← List.append_assoc, Inside, Nest.after_append, Nest.after_cons, Nest.after_nil]
    rw [Inside] at before
    omega

/-- Inside of a flat class the last bracket is the one that opened it. -/
theorem not_lastCloses_of_flat {before after : List Item} (flat : Nest.outside.Flat (before ++ after))
    (inside : Inside before) : ¬ LastCloses before := by
  rintro ⟨front, back, rfl, unopened⟩
  have outside : ¬ Inside (front ++ [.plain ']']) := by
    rw [Inside, flat front (back ++ after) (by simp)]
    exact Nat.lt_irrefl 0
  have still := not_inside_append outside unopened
  rw [List.append_assoc] at still
  exact still inside

/-! ## Word boundaries and backspaces -/

/-- A spelled pattern in which this text stands for the `\b` between items. -/
def spelledWith (before after : List Item) (text : List Char) : List Char :=
  spellAll false ('\\' :: 'b' :: textOf after) before ++ (text ++ spellAll (isOpen false before) [] after)

theorem toEngine_eq_spelledWith {source : List Char} {before after : List Item}
    (here : items source = before ++ .escape 'b' :: after) :
    toEngine source =
      spelledWith before after (if isOpen false before then ['\\', 'x', '0', '8'] else ['\\', 'b']) := by
  rw [toEngine_eq_spellAll (cuts_items source), here, spellAll_append, List.append_nil]
  rfl

theorem spelledWith_ne (before after : List Item) :
    spelledWith before after ['\\', 'b'] ≠ spelledWith before after ['\\', 'x', '0', '8'] := by
  intro same
  have differ := List.append_cancel_left same
  simp at differ

/-- A `\b` becomes a backspace exactly if it stands in a class and the last bracket before it is not a closing one. So
a word boundary outside of classes is never taken for a backspace, and what stays in a class stands behind a
closing bracket that is a member or closes a class inside. Where classes are flat none is missed. -/
theorem toEngine_backspace (source : List Char) :
    (∀ before after, items source = before ++ .escape 'b' :: after →
      (toEngine source = spelledWith before after ['\\', 'x', '0', '8'] ↔ Inside before ∧ ¬ LastCloses before) ∧
      (toEngine source = spelledWith before after ['\\', 'b'] ↔ ¬ Inside before ∨ LastCloses before)) ∧
    (∀ before after, items (toEngine source) = before ++ .escape 'b' :: after → Inside before →
      LastCloses before) ∧
    (Nest.outside.Flat (items source) →
      (∀ before after, items source = before ++ .escape 'b' :: after →
        (toEngine source = spelledWith before after ['\\', 'x', '0', '8'] ↔ Inside before)) ∧
      ∀ before after, items (toEngine source) = before ++ .escape 'b' :: after → ¬ Inside before) := by
  have spelled : items (toEngine source) = respellAll false [] (items source) := items_toEngine source
  have place {before after : List Item} (here : items source = before ++ .escape 'b' :: after) :
      (toEngine source = spelledWith before after ['\\', 'x', '0', '8'] ↔ isOpen false before = true) ∧
      (toEngine source = spelledWith before after ['\\', 'b'] ↔ ¬ isOpen false before = true) := by
    rw [toEngine_eq_spelledWith here]
    cases isOpen false before with
    | true => simp [(spelledWith_ne before after).symm]
    | false => simp [spelledWith_ne before after]
  have left {before after : List Item} (here : items (toEngine source) = before ++ .escape 'b' :: after)
      (inside : Inside before) : LastCloses before :=
    lastCloses_of_not_isOpen inside (isOpen_before_backspace here)
  refine ⟨fun before after here => ?_, fun before after here => left here, fun flat => ⟨?_, ?_⟩⟩
  · obtain ⟨rewritten, copied⟩ := place here
    rw [rewritten, copied, isOpen_iff_inside]
    exact ⟨Iff.rfl, not_and_not_right.trans imp_iff_not_or⟩
  · intro before after here
    rw [(place here).1, isOpen_iff_inside, and_iff_left_iff_imp]
    exact not_lastCloses_of_flat (here ▸ flat)
  · intro before after here inside
    have still := flat.respellAll false []
    rw [← spelled, here] at still
    exact not_lastCloses_of_flat still inside (left here inside)

/-- A closing bracket that is a member hides a backspace, although all classes are closed. The plain dialect refuses
what is left of it. -/
theorem toEngine_missesBackspace :
    (¬ ∀ source : List Char, ¬ Inside (items source) →
      ∀ before after, items source = before ++ .escape 'b' :: after →
        (toEngine source = spelledWith before after ['\\', 'x', '0', '8'] ↔ Inside before)) ∧
    toEngine "[]\\b]".toList = "[]\\b]".toList ∧
    Regex.Matcher.ofPlain? "[]\\b]".toList = none ∧ (Regex.Matcher.ofPlain? "[]\\x08]".toList).isSome := by
  refine ⟨fun always => ?_, by decide, by decide, by cbv⟩
  have place := always "[]\\b]".toList (by decide) [.plain '[', .plain ']'] [.plain ']'] (by decide)
  exact absurd (place.mpr (by decide)) (by decide)

end PatternComposer.Dialect
