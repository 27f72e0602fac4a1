import PatternComposer.Pattern.Dialect
import PatternComposer.Proofs.Unicode.CharSet
import PatternComposer.Regex.Token

/-! # Classes of listed characters

A class that lists characters that only stand for themselves, ranges of such characters and backspaces. Whatever
stands behind it, it is spelled for the engine by itself (`toEngineFrom_source`) and the plain dialect reads it as
the characters that it lists, or as all others if it is negated (`readClass_text`).
-/

namespace PatternComposer.Regex

/-- The modes without any flag but the one that lets dots match the ends of lines. -/
def Modes.dotted (dotAll : Bool) : Modes := { Modes.initial with dotAll := dotAll }

@[simp] theorem Modes.skip_dotted (dotAll : Bool) (cs : List Char) : (Modes.dotted dotAll).skip cs = cs := rfl

/-- An item of a class. -/
inductive ClassItem where
  | char (c : Char)
  | range (first last : Char)
  | backspace
deriving DecidableEq, Repr

namespace ClassItem

/-- The characters that can mean something else in a class. -/
def marks : List Char := ['\\', '[', ']', '^', '-', '&', '~']

/-- The item is read as it is meant. -/
def WellFormed : ClassItem → Prop
  | .char c => c ∉ marks
  | .range first last => first ∉ marks ∧ last ∉ marks ∧ first ≤ last
  | .backspace => True

instance : DecidablePred WellFormed
  | .char c => inferInstanceAs (Decidable (c ∉ marks))
  | .range first last => inferInstanceAs (Decidable (first ∉ marks ∧ last ∉ marks ∧ first ≤ last))
  | .backspace => inferInstanceAs (Decidable True)

/-- The item as a pattern spells it. -/
def source : ClassItem → List Char
  | .char c => [c]
  | .range first last => [first, '-', last]
  | .backspace => ['\\', 'b']

/-- The item as it is spelled for the engine. -/
def text : ClassItem → List Char
  | .backspace => ['\\', 'x', '0', '8']
  | item => item.source

def members : ClassItem → CharSet
  | .char c => .single c
  | .range first last => .range first.toNat last.toNat
  | .backspace => .single '\x08'

/-- The characters that an item lists. -/
def Lists (item : ClassItem) (c : Char) : Prop :=
  match item with
  | .char d => c = d
  | .range first last => first ≤ c ∧ c ≤ last
  | .backspace => c = '\x08'

variable {item : ClassItem} {items : List ClassItem} {c : Char} {dotAll : Bool}

theorem ne_mark (other : c ∉ marks) {mark : Char} (marked : mark ∈ marks) : c ≠ mark :=
  (ne_of_mem_of_not_mem marked other).symm

theorem mem_members : c ∈ item.members ↔ item.Lists c := by
  cases item with
  | char d => exact CharSet.mem_single
  | range first last => exact CharSet.mem_range
  | backspace => exact CharSet.mem_single

theorem text_head (wellFormed : item.WellFormed) :
    ∃ c rest, item.text = c :: rest ∧ c ≠ '^' ∧ c ≠ '-' ∧ c ≠ ']' := by
  have ordinary {c : Char} (other : c ∉ marks) : c ≠ '^' ∧ c ≠ '-' ∧ c ≠ ']' :=
    ⟨ne_mark other (by decide), ne_mark other (by decide), ne_mark other (by decide)⟩
  cases item with
  | char c => exact ⟨c, [], rfl, ordinary wellFormed⟩
  | range first last => exact ⟨first, ['-', last], rfl, ordinary wellFormed.1⟩
  | backspace => exact ⟨'\\', ['x', '0', '8'], rfl, by decide⟩

/-! ## Spelling -/

theorem toEngineFrom_char (other : c ∉ marks) (rest : List Char) :
    Dialect.toEngineFrom true (c :: rest) = c :: Dialect.toEngineFrom true rest := by
  have notBackslash : c ≠ '\\' := ne_mark other (by decide)
  have notBracket : c ≠ ']' := ne_mark other (by decide)
  rw [Dialect.toEngineFrom]
  · simp [notBracket]
  · exact fun same _ => notBackslash same
  · exact fun _ _ same _ => notBackslash same

theorem toEngineFrom_item (wellFormed : item.WellFormed) (rest : List Char) :
    Dialect.toEngineFrom true (item.source ++ rest) = item.text ++ Dialect.toEngineFrom true rest := by
  cases item with
  | char c => exact toEngineFrom_char wellFormed rest
  | range first last =>
    change Dialect.toEngineFrom true (first :: '-' :: last :: rest) = _
    rw [toEngineFrom_char wellFormed.1]
    change first :: '-' :: Dialect.toEngineFrom true (last :: rest) = _
    rw [toEngineFrom_char wellFormed.2.1]
    rfl
  | backspace => rfl

/-- What a class is written as, given how each of its items is. -/
def enclosed (negated : Bool) (spelling : ClassItem → List Char) (items : List ClassItem) : List Char :=
  (if negated then ['^'] else []) ++ items.flatMap spelling ++ [']']

/-- A class is spelled for the engine item by item. -/
theorem toEngineFrom_source (negated : Bool) (wellFormed : ∀ item ∈ items, item.WellFormed) (rest : List Char) :
    Dialect.toEngineFrom false ('[' :: (enclosed negated source items ++ rest)) =
      '[' :: (enclosed negated text items ++ Dialect.toEngineFrom false rest) := by
  have body : Dialect.toEngineFrom true (items.flatMap source ++ ']' :: rest) =
      items.flatMap text ++ ']' :: Dialect.toEngineFrom false rest := by
    induction items with
    | nil => rfl
    | cons item items ih =>
      obtain ⟨first, others⟩ := List.forall_mem_cons.mp wellFormed
      rw [List.flatMap_cons, List.append_assoc, toEngineFrom_item first, ih others, List.flatMap_cons,
        List.append_assoc]
  have opened (cs : List Char) : Dialect.toEngineFrom false ('[' :: cs) = '[' :: Dialect.toEngineFrom true cs := rfl
  rw [opened, enclosed, enclosed]
  cases negated with
  | false =>
    simp only [Bool.false_eq_true, ↓reduceIte, List.nil_append, List.append_assoc, List.singleton_append, body]
  | true =>
    simp only [↓reduceIte, List.cons_append, List.nil_append, List.append_assoc]
    change '[' :: '^' :: Dialect.toEngineFrom true _ = _
    rw [body]

/-! ## Reading -/

theorem readClassAtom_char (other : c ∉ marks) (rest : List Char) :
    (Modes.dotted dotAll).readClassAtom (c :: rest) = some (.char c, rest) := by
  have notBackslash : c ≠ '\\' := ne_mark other (by decide)
  simp [Modes.readClassAtom, Modes.dotted, Modes.initial]

/-- An item ends where no hyphen follows it. -/
theorem readClassItem_text (wellFormed : item.WellFormed) {next : Char} (apart : next ≠ '-') (rest : List Char) :
    (Modes.dotted dotAll).readClassItem (item.text ++ next :: rest) = some (item.members, next :: rest) := by
  cases item with
  | char c =>
    change (Modes.dotted dotAll).readClassItem (c :: next :: rest) = _
    simp [Modes.readClassItem, readClassAtom_char wellFormed, apart, members]
  | range first last =>
    have notBracket : last ≠ ']' := ne_mark wellFormed.2.1 (by decide)
    have notHyphen : last ≠ '-' := ne_mark wellFormed.2.1 (by decide)
    change (Modes.dotted dotAll).readClassItem (first :: '-' :: last :: next :: rest) = _
    simp [Modes.readClassItem, readClassAtom_char wellFormed.1, readClassAtom_char wellFormed.2.1,
      notBracket, notHyphen, wellFormed.2.2, members]
  | backspace =>
    change (Modes.dotted dotAll).readClassItem ('\\' :: 'x' :: '0' :: '8' :: next :: rest) = _
    have read : (Modes.dotted dotAll).readClassAtom ('\\' :: 'x' :: '0' :: '8' :: next :: rest) =
        some (.char '\x08', next :: rest) := rfl
    simp [Modes.readClassItem, read, apart, members]

/-- The items of a class are read one after the other. -/
theorem readClassBody_item (wellFormed : item.WellFormed) (fuel : Nat) (stack : List OpenPart) (before : ItemList)
    {next : Char} (apart : next ≠ '-') (rest : List Char) :
    (Modes.dotted dotAll).readClassBody (fuel + 1) stack before (item.text ++ next :: rest) =
      (Modes.dotted dotAll).readClassBody fuel stack (before.push item.members 0) (next :: rest) := by
  have read := @readClassItem_text _ dotAll wellFormed _ apart rest
  have first : ∃ c more, item.text ++ next :: rest = c :: more ∧ c ≠ '[' ∧ c ≠ ']' ∧ c ≠ '&' ∧
      c ≠ '-' ∧ c ≠ '~' := by
    have ordinary {c : Char} (other : c ∉ marks) :
        c ≠ '[' ∧ c ≠ ']' ∧ c ≠ '&' ∧ c ≠ '-' ∧ c ≠ '~' :=
      ⟨ne_mark other (by decide), ne_mark other (by decide), ne_mark other (by decide), ne_mark other (by decide),
        ne_mark other (by decide)⟩
    cases item with
    | char c => exact ⟨c, _, rfl, ordinary wellFormed⟩
    | range first last => exact ⟨first, _, rfl, ordinary wellFormed.1⟩
    | backspace => exact ⟨'\\', _, rfl, by decide⟩
  obtain ⟨c, more, split, opens, closes, meets, lacks, differs⟩ := first
  rw [split] at read ⊢
  simp [Modes.readClassBody, read, opens, closes, meets, lacks, differs]

/-- The items read so far with more of them. -/
def gather (before : ItemList) (items : List ClassItem) : ItemList :=
  items.foldl (fun before item => before.push item.members 0) before

theorem mem_gather {before : ItemList} :
    c ∈ (gather before items).members ↔ c ∈ before.members ∨ ∃ item ∈ items, item.Lists c := by
  induction items generalizing before with
  | nil => simp [gather]
  | cons item items ih =>
    change c ∈ (gather (before.push item.members 0) items).members ↔ _
    rw [ih, ItemList.push, CharSet.mem_union, mem_members, or_assoc, List.exists_mem_cons_iff]

theorem depth_gather {before : ItemList} : (gather before items).depth = before.depth := by
  induction items generalizing before with
  | nil => rfl
  | cons item items ih =>
    change (gather (before.push item.members 0) items).depth = _
    rw [ih]
    exact Nat.max_zero _

/-- What a class stands for. -/
def classMembers (negated : Bool) (items : List ClassItem) : CharSet :=
  let listed := (gather .empty items).members.canonical
  if negated then listed.complement else listed

theorem mem_classMembers {negated : Bool} :
    c ∈ classMembers negated items ↔
      if negated then ¬ ∃ item ∈ items, item.Lists c else ∃ item ∈ items, item.Lists c := by
  have listed : c ∈ (gather .empty items).members.canonical ↔ ∃ item ∈ items, item.Lists c := by
    rw [CharSet.mem_canonical, mem_gather]
    exact or_iff_right CharSet.not_mem_empty
  cases negated with
  | false => exact listed
  | true => exact CharSet.mem_complement.trans (not_congr listed)

theorem readClassBody_text (negated : Bool) (wellFormed : ∀ item ∈ items, item.WellFormed) {fuel : Nat}
    (enough : items.length < fuel) (before : ItemList) (rest : List Char) :
    (Modes.dotted dotAll).readClassBody fuel [.bracket .empty negated] before (items.flatMap text ++ ']' :: rest) =
      some (⟨if negated then (gather before items).members.canonical.complement
        else (gather before items).members.canonical, (gather before items).toPart.depth + 1⟩, rest) := by
  induction items generalizing fuel before with
  | nil =>
    obtain ⟨fuel, rfl⟩ : ∃ n, fuel = n + 1 := ⟨fuel - 1, by omega⟩
    cases negated <;> rfl
  | cons item items ih =>
    obtain ⟨first, others⟩ := List.forall_mem_cons.mp wellFormed
    obtain ⟨fuel, rfl⟩ : ∃ n, fuel = n + 1 := ⟨fuel - 1, by omega⟩
    have behind : ∃ next more, items.flatMap text ++ ']' :: rest = next :: more ∧ next ≠ '-' := by
      cases items with
      | nil => exact ⟨']', rest, rfl, by decide⟩
      | cons second items =>
        obtain ⟨c, more, head, _, other, _⟩ := text_head (others second List.mem_cons_self)
        exact ⟨c, _, by rw [List.flatMap_cons, head]; rfl, other⟩
    obtain ⟨next, more, split, apart⟩ := behind
    have fewer : items.length < fuel := by
      rw [List.length_cons] at enough
      omega
    rw [List.flatMap_cons, List.append_assoc, split, readClassBody_item first fuel _ before apart, ← split,
      ih others fewer]
    rfl

theorem readClassOpening_text (negated : Bool) (wellFormed : ∀ item ∈ items, item.WellFormed)
    (nonempty : items ≠ [])
    (rest : List Char) :
    (Modes.dotted dotAll).readClassOpening (enclosed negated text items ++ rest) =
      some (negated, .empty, items.flatMap text ++ ']' :: rest) := by
  obtain ⟨item, others, rfl⟩ := List.exists_cons_of_ne_nil nonempty
  obtain ⟨c, more, head, notCaret, notHyphen, notBracket⟩ := text_head (wellFormed item List.mem_cons_self)
  cases negated <;>
    simp [enclosed, Modes.readClassOpening, Modes.readHyphens, head, notCaret, notHyphen, notBracket]

/-- A class is read as the characters that it lists, or as all others if it is negated. -/
theorem readClass_text (negated : Bool) (wellFormed : ∀ item ∈ items, item.WellFormed) (nonempty : items ≠ []) :
    ∃ depth ≤ 2, ∀ dotAll rest, (Modes.dotted dotAll).readClass (enclosed negated text items ++ rest) =
      some (⟨classMembers negated items, depth⟩, rest) := by
  have shallow : (gather .empty items).toPart.depth + 1 ≤ 2 := by
    have flat : (gather .empty items).depth = 0 := depth_gather
    simp only [ItemList.toPart, flat]
    split <;> omega
  refine ⟨_, shallow, fun dotAll rest => ?_⟩
  have enough : items.length < (enclosed negated text items ++ rest).length + 1 := by
    have filled : ∀ items : List ClassItem, items.length ≤ (items.flatMap text).length := by
      intro items
      induction items with
      | nil => exact Nat.le_refl _
      | cons item items ih =>
        rw [List.flatMap_cons, List.length_append, List.length_cons]
        have : 1 ≤ item.text.length := by cases item <;> exact Nat.succ_le_succ (Nat.zero_le _)
        omega
    have := filled items
    simp only [enclosed, List.length_append]
    omega
  rw [Modes.readClass, readClassOpening_text negated wellFormed nonempty]
  exact readClassBody_text negated wellFormed enough .empty rest

end ClassItem
end PatternComposer.Regex
