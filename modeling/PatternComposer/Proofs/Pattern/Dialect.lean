import Mathlib
import PatternComposer.Pattern.Dialect

/-! # Spelling a pattern item by item

The one pass over a pattern is the concatenation of what stands for each of its items. An item is spelled
differently only for what surrounds it: the state of the classes in front of it and the character behind
it. Spelling keeps both, so it can be followed item by item through its own result (`Cuts.spelled`), and
what is spelled once is `Settled`.
-/

namespace PatternComposer.Dialect

/-! ## Cutting a text -/

def Item.text : Item → List Char
  | .escape c => ['\\', c]
  | .loneBackslash => ['\\']
  | .plain c => [c]

/-- The text that items were cut from. -/
def textOf (ts : List Item) : List Char := ts.flatMap Item.text

@[simp] theorem textOf_nil : textOf [] = [] := rfl

@[simp] theorem textOf_cons (item : Item) (ts : List Item) : textOf (item :: ts) = item.text ++ textOf ts := rfl

@[simp] theorem textOf_append (ts others : List Item) : textOf (ts ++ others) = textOf ts ++ textOf others :=
  List.flatMap_append

/-- A text and the items that it is cut into: a backslash takes the next character with it. -/
inductive Cuts : List Char → List Item → Prop where
  | nil : Cuts [] []
  | escape (c : Char) {rest : List Char} {ts : List Item} (later : Cuts rest ts) :
      Cuts ('\\' :: c :: rest) (.escape c :: ts)
  | loneBackslash : Cuts ['\\'] [.loneBackslash]
  | plain {c : Char} {rest : List Char} {ts : List Item} (other : c ≠ '\\') (later : Cuts rest ts) :
      Cuts (c :: rest) (.plain c :: ts)

theorem cuts_items (cs : List Char) : Cuts cs (items cs) := by
  fun_induction items cs with
  | case1 => exact .nil
  | case2 => exact .loneBackslash
  | case3 c rest ih => exact .escape c ih
  | case4 c rest lone pair ih =>
    refine .plain ?_ ih
    intro same
    cases rest with
    | nil => exact lone same rfl
    | cons d after => exact pair d after same rfl

namespace Cuts

variable {cs more : List Char} {ts others : List Item}

theorem text_eq (cuts : Cuts cs ts) : textOf ts = cs := by
  induction cuts with
  | nil => rfl
  | escape c _ ih => rw [textOf_cons, ih]; rfl
  | loneBackslash => rfl
  | plain _ _ ih => rw [textOf_cons, ih]; rfl

/-- There is only one way to cut a text. -/
theorem unique (cuts : Cuts cs ts) (other : Cuts cs others) : ts = others := by
  induction cuts generalizing others with
  | nil => cases other; rfl
  | escape c _ ih =>
    cases other with
    | escape _ later => rw [ih later]
    | plain differs _ => exact absurd rfl differs
  | loneBackslash =>
    cases other with
    | loneBackslash => rfl
    | plain differs _ => exact absurd rfl differs
  | plain differs _ ih =>
    cases other with
    | escape => exact absurd rfl differs
    | loneBackslash => exact absurd rfl differs
    | plain _ later => rw [ih later]

theorem eq_items (cuts : Cuts cs ts) : ts = items cs := cuts.unique (cuts_items cs)

/-- Texts are cut one after the other, unless the first one ends in the middle of an escape. -/
theorem append (cuts : Cuts cs ts) (whole : ts.getLast? ≠ some .loneBackslash) (second : Cuts more others) :
    Cuts (cs ++ more) (ts ++ others) := by
  induction cuts with
  | nil => exact second
  | escape c _ ih =>
    refine .escape c (ih fun last => whole ?_)
    rw [List.getLast?_cons, last]
    rfl
  | loneBackslash => exact absurd rfl whole
  | plain differs _ ih =>
    refine .plain differs (ih fun last => whole ?_)
    rw [List.getLast?_cons, last]
    rfl

end Cuts

/-! ## Open classes -/

/-- Whether a class is open after items, given whether one was open before them. -/
def isOpen (inClass : Bool) (ts : List Item) : Bool := ts.foldl openAfter inClass

@[simp] theorem isOpen_nil (inClass : Bool) : isOpen inClass [] = inClass := rfl

@[simp] theorem isOpen_cons (inClass : Bool) (item : Item) (ts : List Item) :
    isOpen inClass (item :: ts) = isOpen (openAfter inClass item) ts := rfl

@[simp] theorem isOpen_append (inClass : Bool) (ts others : List Item) :
    isOpen inClass (ts ++ others) = isOpen (isOpen inClass ts) others :=
  List.foldl_append

/-- Other items than brackets leave the classes as they are. -/
theorem openAfter_cases (inClass : Bool) (item : Item) :
    item = .plain '[' ∧ openAfter inClass item = true ∨ item = .plain ']' ∧ openAfter inClass item = false ∨
      item ≠ .plain '[' ∧ item ≠ .plain ']' ∧ openAfter inClass item = inClass := by
  by_cases opens : item = .plain '['
  · subst opens
    exact .inl ⟨rfl, rfl⟩
  · by_cases closes : item = .plain ']'
    · subst closes
      exact .inr (.inl ⟨rfl, rfl⟩)
    · refine .inr (.inr ⟨opens, closes, ?_⟩)
      rw [openAfter] <;> assumption

/-- A class that is open stays open up to the next bracket that closes. -/
theorem isOpen_of_not_mem {ts : List Item} (unclosed : .plain ']' ∉ ts) : isOpen true ts = true := by
  induction ts with
  | nil => rfl
  | cons item ts ih =>
    rw [List.mem_cons, not_or] at unclosed
    have stays : openAfter true item = true := by
      rcases openAfter_cases true item with ⟨_, opens⟩ | ⟨closes, _⟩ | ⟨_, _, same⟩
      · exact opens
      · exact absurd closes.symm unclosed.1
      · exact same
    rw [isOpen_cons, stays]
    exact ih unclosed.2

/-- A class is open after items exactly if a bracket opened it that nothing has closed since. -/
theorem isOpen_iff {ts : List Item} :
    isOpen false ts = true ↔
      ∃ before after, ts = before ++ .plain '[' :: after ∧ isOpen false before = false ∧
        .plain ']' ∉ after := by
  constructor
  · intro opened
    induction ts using List.reverseRecOn with
    | nil => cases opened
    | append_singleton ts item ih =>
      cases inner : isOpen false ts with
      | true =>
        obtain ⟨before, after, rfl, closed, unclosed⟩ := ih inner
        refine ⟨before, after ++ [item], by simp, closed, ?_⟩
        rw [List.mem_append, List.mem_singleton, not_or]
        refine ⟨unclosed, ?_⟩
        rintro rfl
        rw [isOpen_append, isOpen_cons] at opened
        cases opened
      | false =>
        rw [isOpen_append, inner, isOpen_cons, isOpen_nil] at opened
        rcases openAfter_cases false item with ⟨rfl, _⟩ | ⟨_, closed⟩ | ⟨_, _, same⟩
        · exact ⟨ts, [], rfl, inner, List.not_mem_nil⟩
        · rw [closed] at opened
          cases opened
        · rw [same] at opened
          cases opened
  · rintro ⟨before, after, rfl, _, unclosed⟩
    rw [isOpen_append, isOpen_cons]
    exact isOpen_of_not_mem unclosed

/-! ## What stands for an item -/

/-- What stands for an item, cut again. -/
def respell (inClass nextDigit : Bool) : Item → List Item
  | .escape '0' => if nextDigit then [.escape '0'] else [.escape 'x', .plain '0', .plain '0']
  | .escape 'b' => if inClass then [.escape 'x', .plain '0', .plain '8'] else [.escape 'b']
  | item => [item]

/-- Items are copied, but for a null character in front of no digit and a backspace in a class. -/
theorem respell_cases (inClass nextDigit : Bool) (item : Item) :
    respell inClass nextDigit item = [item] ∨
      item = .escape '0' ∧ nextDigit = false ∧
        respell inClass nextDigit item = [.escape 'x', .plain '0', .plain '0'] ∨
      item = .escape 'b' ∧ inClass = true ∧
        respell inClass nextDigit item = [.escape 'x', .plain '0', .plain '8'] := by
  rw [respell.eq_def]
  split
  · cases nextDigit <;> simp
  · cases inClass <;> simp
  · exact .inl rfl

theorem textOf_respell (inClass nextDigit : Bool) (item : Item) :
    textOf (respell inClass nextDigit item) = image inClass nextDigit item := by
  rw [respell.eq_def]
  split
  · cases nextDigit <;> rfl
  · cases inClass <;> rfl
  · next zero back =>
    cases item with
    | escape c => rw [image] <;> simp_all [Item.text]
    | loneBackslash => rfl
    | plain c => rfl

/-- What stands for an item leaves the classes as the item does. -/
theorem isOpen_respell (inClass nextDigit : Bool) (item : Item) :
    isOpen inClass (respell inClass nextDigit item) = openAfter inClass item := by
  rcases respell_cases inClass nextDigit item with same | ⟨rfl, _, same⟩ | ⟨rfl, _, same⟩ <;> rw [same] <;> rfl

/-- Items in front of a text, spelled and cut again. -/
def respellAll (inClass : Bool) (rest : List Char) : List Item → List Item
  | [] => []
  | item :: ts =>
    respell inClass (startsWithDigit (textOf ts ++ rest)) item ++ respellAll (openAfter inClass item) rest ts

/-- The texts that stand for items in front of a text, one after the other. -/
def spellAll (inClass : Bool) (rest : List Char) : List Item → List Char
  | [] => []
  | item :: ts =>
    image inClass (startsWithDigit (textOf ts ++ rest)) item ++ spellAll (openAfter inClass item) rest ts

theorem textOf_respellAll (inClass : Bool) (rest : List Char) (ts : List Item) :
    textOf (respellAll inClass rest ts) = spellAll inClass rest ts := by
  induction ts generalizing inClass with
  | nil => rfl
  | cons item ts ih => rw [respellAll, textOf_append, textOf_respell, ih, spellAll]

theorem isOpen_respellAll (inClass : Bool) (rest : List Char) (ts : List Item) :
    isOpen inClass (respellAll inClass rest ts) = isOpen inClass ts := by
  induction ts generalizing inClass with
  | nil => rfl
  | cons item ts ih => rw [respellAll, isOpen_append, isOpen_respell, ih, isOpen_cons]

theorem respellAll_append (inClass : Bool) (rest : List Char) (ts others : List Item) :
    respellAll inClass rest (ts ++ others) =
      respellAll inClass (textOf others ++ rest) ts ++ respellAll (isOpen inClass ts) rest others := by
  induction ts generalizing inClass with
  | nil => rfl
  | cons item ts ih =>
    rw [List.cons_append, respellAll, ih, respellAll, textOf_append, isOpen_cons, List.append_assoc,
      List.append_assoc]

theorem spellAll_append (inClass : Bool) (rest : List Char) (ts others : List Item) :
    spellAll inClass rest (ts ++ others) =
      spellAll inClass (textOf others ++ rest) ts ++ spellAll (isOpen inClass ts) rest others := by
  simp only [← textOf_respellAll, respellAll_append, textOf_append]

theorem textOf_ne_nil {ts : List Item} (nonempty : ts ≠ []) : textOf ts ≠ [] := by
  obtain ⟨item, rest, rfl⟩ := List.exists_cons_of_ne_nil nonempty
  cases item <;> exact List.cons_ne_nil _ _

theorem startsWithDigit_append_of_ne_nil {text : List Char} (nonempty : text ≠ []) (rest : List Char) :
    startsWithDigit (text ++ rest) = startsWithDigit text := by
  obtain ⟨c, cs, rfl⟩ := List.exists_cons_of_ne_nil nonempty
  rfl

/-- The next digit only matters to a null character. -/
theorem respell_congr {item : Item} {nextDigit otherDigit : Bool} (inClass : Bool)
    (same : item = .escape '0' → nextDigit = otherDigit) :
    respell inClass nextDigit item = respell inClass otherDigit item := by
  by_cases zero : item = .escape '0'
  · rw [same zero]
  · rcases respell_cases inClass nextDigit item with copied | ⟨null, _⟩ | ⟨rfl, _⟩
    · rcases respell_cases inClass otherDigit item with also | ⟨null, _⟩ | ⟨rfl, _⟩
      · rw [copied, also]
      · exact absurd null zero
      · rfl
    · exact absurd null zero
    · rfl

/-- What stands behind items only matters to a null character at their end. -/
theorem respellAll_congr {rest other : List Char} {ts : List Item} (inClass : Bool)
    (same : ts.getLast? = some (.escape '0') → startsWithDigit rest = startsWithDigit other) :
    respellAll inClass rest ts = respellAll inClass other ts := by
  induction ts generalizing inClass with
  | nil => rfl
  | cons item ts ih =>
    have later := ih (openAfter inClass item) fun last => same (by rw [List.getLast?_cons, last]; rfl)
    have first : respell inClass (startsWithDigit (textOf ts ++ rest)) item =
        respell inClass (startsWithDigit (textOf ts ++ other)) item := by
      apply respell_congr
      rintro rfl
      by_cases last : ts = []
      · subst last
        exact same rfl
      · rw [startsWithDigit_append_of_ne_nil (textOf_ne_nil last),
          startsWithDigit_append_of_ne_nil (textOf_ne_nil last)]
    rw [respellAll, respellAll, first, later]

/-! ## The one pass -/

theorem toEngineFrom_plain (inClass : Bool) {c : Char} (rest : List Char) (plain : c ≠ '\\') :
    toEngineFrom inClass (c :: rest) =
      c :: toEngineFrom (if c = '[' ∧ ¬inClass then true else if c = ']' ∧ inClass then false else inClass)
        rest := by
  rw [toEngineFrom]
  · split
    · rfl
    · split <;> rfl
  · exact fun same _ => plain same
  · exact fun _ _ same _ => plain same

theorem openAfter_plain (inClass : Bool) (c : Char) :
    openAfter inClass (.plain c) =
      if c = '[' ∧ ¬inClass then true else if c = ']' ∧ inClass then false else inClass := by
  rcases openAfter_cases inClass (.plain c) with ⟨opens, same⟩ | ⟨closes, same⟩ |
    ⟨notOpens, notCloses, same⟩
  · obtain rfl := Item.plain.inj opens
    cases inClass <;> rfl
  · obtain rfl := Item.plain.inj closes
    cases inClass <;> rfl
  · have notOpens : c ≠ '[' := fun same => notOpens (congrArg Item.plain same)
    have notCloses : c ≠ ']' := fun same => notCloses (congrArg Item.plain same)
    rw [same, if_neg (fun both => notOpens both.1), if_neg (fun both => notCloses both.1)]

theorem toEngineFrom_escape (inClass : Bool) (c : Char) (rest : List Char) :
    toEngineFrom inClass ('\\' :: c :: rest) =
      image inClass (startsWithDigit rest) (.escape c) ++ toEngineFrom inClass rest := by
  rw [toEngineFrom]
  by_cases zero : c = '0'
  · subst zero
    rw [if_pos rfl, image]
    split <;> rfl
  · rw [if_neg zero]
    by_cases back : c = 'b'
    · subst back
      cases inClass <;> rfl
    · rw [if_neg fun both => back both.1, image]
      · rfl
      · exact zero
      · exact back

theorem startsWithDigit_toEngineFrom (inClass : Bool) (cs : List Char) :
    startsWithDigit (toEngineFrom inClass cs) = startsWithDigit cs := by
  fun_cases toEngineFrom inClass cs <;> rfl

/-- Only what has a backslash is spelled differently. -/
theorem toEngineFrom_eq_self {cs : List Char} (plain : '\\' ∉ cs) (inClass : Bool) :
    toEngineFrom inClass cs = cs := by
  induction cs generalizing inClass with
  | nil => rfl
  | cons c rest ih =>
    rw [List.mem_cons, not_or] at plain
    rw [toEngineFrom_plain _ _ (Ne.symm plain.1), ih plain.2]

theorem toEngine_eq (cs : List Char) : toEngine cs = toEngineFrom false cs := by
  rw [toEngine]
  split
  · rfl
  · next plain => exact (toEngineFrom_eq_self (by simpa using plain) false).symm

/-- What the pass writes is cut into what stands for each item. -/
theorem Cuts.spelled {cs : List Char} {ts : List Item} (cuts : Cuts cs ts) (inClass : Bool) :
    Cuts (toEngineFrom inClass cs) (respellAll inClass [] ts) := by
  induction cuts generalizing inClass with
  | nil => exact .nil
  | @escape c rest ts later ih =>
    rw [toEngineFrom_escape, respellAll, List.append_nil, later.text_eq, ← textOf_respell]
    rcases respell_cases inClass (startsWithDigit rest) (.escape c) with same | ⟨_, _, same⟩ | ⟨_, _, same⟩
    · rw [same]
      exact .escape c (ih inClass)
    · rw [same]
      exact .escape 'x' (.plain (by decide) (.plain (by decide) (ih inClass)))
    · rw [same]
      exact .escape 'x' (.plain (by decide) (.plain (by decide) (ih inClass)))
  | loneBackslash => exact .loneBackslash
  | @plain c rest ts other later ih =>
    rw [toEngineFrom_plain _ _ other, ← openAfter_plain]
    exact .plain other (ih _)

theorem toEngine_eq_spellAll {cs : List Char} {ts : List Item} (cuts : Cuts cs ts) :
    toEngine cs = spellAll false [] ts := by
  rw [toEngine_eq, ← (cuts.spelled false).text_eq, textOf_respellAll]

/-! ## Settled items -/

/-- Every item, in front of a text, is spelled as it is. -/
def Settled (inClass : Bool) (rest : List Char) : List Item → Prop
  | [] => True
  | item :: ts =>
    respell inClass (startsWithDigit (textOf ts ++ rest)) item = [item] ∧ Settled (openAfter inClass item) rest ts

namespace Settled

variable {inClass : Bool} {rest : List Char} {ts : List Item}

theorem respellAll_eq (settled : Settled inClass rest ts) : respellAll inClass rest ts = ts := by
  induction ts generalizing inClass with
  | nil => rfl
  | cons item ts ih => rw [respellAll, settled.1, ih settled.2, List.singleton_append]

theorem at_item {before after : List Item} {item : Item} (settled : Settled inClass rest (before ++ item :: after)) :
    respell (isOpen inClass before) (startsWithDigit (textOf after ++ rest)) item = [item] := by
  induction before generalizing inClass with
  | nil => exact settled.1
  | cons first before ih => exact ih settled.2

end Settled

theorem startsWithDigit_respellAll (inClass : Bool) (rest : List Char) (ts : List Item) :
    startsWithDigit (textOf (respellAll inClass rest ts) ++ rest) = startsWithDigit (textOf ts ++ rest) := by
  cases ts with
  | nil => rfl
  | cons item ts =>
    rw [respellAll]
    rcases respell_cases inClass (startsWithDigit (textOf ts ++ rest)) item with same | ⟨rfl, _, same⟩ |
      ⟨rfl, _, same⟩
    · rw [same]
      cases item <;> rfl
    · rw [same]
      rfl
    · rw [same]
      rfl

/-- What was spelled once stays as it is. -/
theorem settled_respellAll (inClass : Bool) (rest : List Char) (ts : List Item) :
    Settled inClass rest (respellAll inClass rest ts) := by
  induction ts generalizing inClass with
  | nil => trivial
  | cons item ts ih =>
    have later := ih (openAfter inClass item)
    have digit := startsWithDigit_respellAll (openAfter inClass item) rest ts
    rw [respellAll]
    rcases respell_cases inClass (startsWithDigit (textOf ts ++ rest)) item with same | ⟨rfl, _, same⟩ |
      ⟨rfl, _, same⟩
    · rw [same, List.singleton_append]
      refine ⟨?_, later⟩
      rw [digit, same]
    · rw [same]
      exact ⟨rfl, rfl, rfl, later⟩
    · rw [same]
      exact ⟨rfl, rfl, rfl, later⟩

/-! ## The whole pass -/

theorem toEngine_idempotent (source : List Char) : toEngine (toEngine source) = toEngine source := by
  have cuts := (cuts_items source).spelled false
  have again := cuts.spelled false
  rw [(settled_respellAll false [] (items source)).respellAll_eq] at again
  rw [toEngine_eq, toEngine_eq, ← again.text_eq, cuts.text_eq]

theorem items_toEngine (source : List Char) : items (toEngine source) = respellAll false [] (items source) := by
  rw [toEngine_eq]
  exact ((cuts_items source).spelled false).eq_items.symm

theorem settled_toEngine (source : List Char) : Settled false [] (items (toEngine source)) := by
  rw [items_toEngine]
  exact settled_respellAll false [] (items source)

/-- A null character that stays in a spelled pattern stands in front of a digit. -/
theorem startsWithDigit_after_null {source : List Char} {before after : List Item}
    (here : items (toEngine source) = before ++ .escape '0' :: after) : startsWithDigit (textOf after) = true := by
  have settled := settled_toEngine source
  rw [here] at settled
  have same := settled.at_item
  rw [List.append_nil] at same
  cases digit : startsWithDigit (textOf after) with
  | true => rfl
  | false =>
    rw [digit] at same
    cases same

/-- A `\b` that stays in a spelled pattern stands in no open class. -/
theorem isOpen_before_backspace {source : List Char} {before after : List Item}
    (here : items (toEngine source) = before ++ .escape 'b' :: after) : isOpen false before = false := by
  have settled := settled_toEngine source
  rw [here] at settled
  have same := settled.at_item
  cases opened : isOpen false before with
  | false => rfl
  | true =>
    rw [opened] at same
    cases same

/-- Two patterns are spelled one after the other where the first one leaves no class open, no escape unfinished
and no null character in front of a digit. -/
theorem toEngine_append {source more : List Char} (closed : isOpen false (items source) = false)
    (whole : (items source).getLast? ≠ some .loneBackslash)
    (apart : (items source).getLast? = some (.escape '0') → startsWithDigit more = false) :
    toEngine (source ++ more) = toEngine source ++ toEngine more := by
  have cuts := (cuts_items source).append whole (cuts_items more)
  have front : respellAll false more (items source) = respellAll false [] (items source) :=
    respellAll_congr false fun last => apart last
  calc toEngine (source ++ more)
      = textOf (respellAll false [] (items source ++ items more)) := by
        rw [toEngine_eq_spellAll cuts, textOf_respellAll]
    _ = textOf (respellAll false more (items source)) ++ textOf (respellAll false [] (items more)) := by
        rw [respellAll_append, List.append_nil, (cuts_items more).text_eq, closed, textOf_append]
    _ = toEngine source ++ toEngine more := by
        rw [front, toEngine_eq_spellAll (cuts_items source), toEngine_eq_spellAll (cuts_items more),
          textOf_respellAll, textOf_respellAll]

/-- A pattern is cut in one way, and it is spelled item by item: a null character in front of no digit and a
backspace in an open class by their codes, all else as it is. The pass leaves a pattern without a backslash
alone; each item finds the classes of the result as it finds those of the pattern; what was spelled has
nothing left to spell; and patterns are spelled one after the other where the first one is finished. -/
theorem toEngine_spec (source : List Char) :
    (∀ ts, Cuts source ts ↔ ts = items source) ∧
    toEngine source = spellAll false [] (items source) ∧
    (∀ before, isOpen false before = true ↔
      ∃ front back, before = front ++ .plain '[' :: back ∧ isOpen false front = false ∧ .plain ']' ∉ back) ∧
    ('\\' ∉ source → toEngineFrom false source = source) ∧ toEngine source = toEngineFrom false source ∧
    (∀ before item after, items source = before ++ item :: after →
      let front := respellAll false (item.text ++ textOf after) before
      items (toEngine source) = front ++ respell (isOpen false before) (startsWithDigit (textOf after)) item ++
        respellAll (isOpen false (before ++ [item])) [] after ∧
      textOf front = spellAll false (item.text ++ textOf after) before ∧ isOpen false front = isOpen false before) ∧
    (∀ before after, items (toEngine source) = before ++ .escape '0' :: after →
      startsWithDigit (textOf after) = true) ∧
    (∀ before after, items (toEngine source) = before ++ .escape 'b' :: after → isOpen false before = false) ∧
    toEngine (toEngine source) = toEngine source ∧
    (∀ more, isOpen false (items source) = false → (items source).getLast? ≠ some .loneBackslash →
      ((items source).getLast? = some (.escape '0') → startsWithDigit more = false) →
      toEngine (source ++ more) = toEngine source ++ toEngine more) := by
  have cuts := cuts_items source
  refine ⟨fun ts => ⟨Cuts.eq_items, ?_⟩, toEngine_eq_spellAll cuts, fun before => isOpen_iff,
    fun plain => toEngineFrom_eq_self plain false, toEngine_eq source, ?_, fun before after =>
      startsWithDigit_after_null,
    fun before after => isOpen_before_backspace, toEngine_idempotent source, fun more => toEngine_append⟩
  · rintro rfl
    exact cuts
  · intro before item after here front
    refine ⟨?_, textOf_respellAll .., isOpen_respellAll ..⟩
    rw [items_toEngine, here, respellAll_append, respellAll, List.append_nil, List.append_nil, List.append_assoc,
      isOpen_append]
    rfl

example : toEngine "[\\b\\[]\\b\\0".toList = "[\\x08\\[]\\b\\x00".toList := by decide

end PatternComposer.Dialect
