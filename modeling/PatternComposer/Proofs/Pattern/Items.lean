import PatternComposer.Proofs.Pattern.Wrapping
import PatternComposer.Proofs.Regex.Extended.Choices

/-! # Lexical items of a pattern

The engine reads a pattern item by item: an escape with the digits that belong to it, a class, the
beginning or the end of a group, or a character. How far most items reach does not depend on what
follows them. Only decimal escapes take all digits that they find, and `\0` is spelled differently
in front of a digit, so what is written behind them must not begin with one: see `Separable` and
`items?_joined`.
-/

namespace PatternComposer

namespace Regex.Extended

/-- A reader inside of a group, where items of all kinds may stand. -/
def itemReader : Scanner := Scanner.initial.opened none false

/-- The text after the item at the front of a text: what the reader leaves when it takes one
token. A decimal escape takes its digits whether or not there is a group with that number. -/
def afterItem? : List Char → Option (List Char)
  | '\\' :: c :: rest =>
    if c.isDigit then some (rest.dropWhile Char.isDigit)
    else (itemReader.token 0 ('\\' :: c :: rest)).map (·.2.2)
  | cs => (itemReader.token 0 cs).map (·.2.2)

/-- The items of a text. -/
def items? (cs : List Char) : Option (List (List Char)) :=
  if cs.isEmpty then some []
  else (afterItem? cs).bind fun rest =>
    if _ : rest.length < cs.length then
      (items? rest).map (cs.take (cs.length - rest.length) :: ·)
    else none
termination_by cs.length
decreasing_by assumption

@[simp] theorem items?_nil : items? [] = some [] := by
  rw [items?]
  rfl

theorem items?_append {item rest : List Char} (nonempty : item ≠ [])
    (read : afterItem? (item ++ rest) = some rest) :
    items? (item ++ rest) = (items? rest).map (item :: ·) := by
  have filled : (item ++ rest).isEmpty = false := by simp [nonempty]
  have shorter : rest.length < (item ++ rest).length := by
    have := List.length_pos_iff.mpr nonempty
    rw [List.length_append]
    omega
  have taken : (item ++ rest).take ((item ++ rest).length - rest.length) = item := by simp
  rw [items?, filled, read]
  simp only [Bool.false_eq_true, ↓reduceIte, Option.bind_some, shorter, ↓reduceDIte, taken]

theorem items?_singleton {item : List Char} (nonempty : item ≠ []) (read : afterItem? item = some []) :
    items? item = some [item] := by
  have cut := @items?_append item [] nonempty (by rw [List.append_nil, read])
  rwa [List.append_nil, items?_nil] at cut

/-! ## Decimal escapes -/

theorem afterItem?_decimal {c : Char} (digit : c.isDigit = true) (rest : List Char) :
    afterItem? ('\\' :: c :: rest) = some (rest.dropWhile Char.isDigit) := by
  rw [afterItem?, if_pos digit]

/-- The reader takes a decimal escape for a reference to a group, or refuses it. -/
theorem token_decimal (s : Scanner) (bytes : Nat) {c : Char} (digit : c.isDigit = true) (rest : List Char) :
    s.token bytes ('\\' :: c :: rest) =
      (Scanner.readNumbered bytes (c :: rest)).map fun number =>
        (.reference number.1 true, { s with afterAtom := true }, number.2) := by
  have escape : s.readEscape bytes (c :: rest) =
      (Scanner.readNumbered bytes (c :: rest)).map fun number => (.reference number.1 true, number.2) := by
    rw [Scanner.readEscape]
    · rw [if_pos digit]
    all_goals
      intros
      simp_all
  rw [Scanner.token, escape, Option.map_map]
  rfl

theorem readNumber_rest {cs after : List Char} {n : Nat} (read : readNumber cs = some (n, after)) :
    after = cs.dropWhile Char.isDigit := by
  simp only [readNumber, Option.ite_none_left_eq_some, Option.some.injEq, Prod.mk.injEq] at read
  calc after = cs.drop (cs.takeWhile Char.isDigit).length := read.2.2.symm
    _ = (cs.takeWhile Char.isDigit ++ cs.dropWhile Char.isDigit).drop (cs.takeWhile Char.isDigit).length := by
      rw [List.takeWhile_append_dropWhile]
    _ = cs.dropWhile Char.isDigit := List.drop_left

/-- Where the reader takes a decimal escape for a reference, it takes the digits of the item. -/
theorem afterItem?_of_token {s next : Scanner} {bytes : Nat} {c : Char} (digit : c.isDigit = true)
    {rest after : List Char} {token : Token}
    (read : s.token bytes ('\\' :: c :: rest) = some (token, next, after)) :
    afterItem? ('\\' :: c :: rest) = some after := by
  rw [token_decimal s bytes digit, Option.map_eq_some_iff] at read
  obtain ⟨number, numbered, same⟩ := read
  rw [Scanner.readNumbered, Option.bind_eq_some_iff] at numbered
  obtain ⟨first, found, kept⟩ := numbered
  obtain rfl : first = number := Option.some.inj (Option.ite_none_right_eq_some.mp kept).2
  cases same
  rw [afterItem?_decimal digit, readNumber_rest found, List.dropWhile_cons_of_pos digit]

theorem items?_decimal {c : Char} (digit : c.isDigit = true) (rest : List Char) :
    items? ('\\' :: c :: rest) = (items? (rest.dropWhile Char.isDigit)).map
      (('\\' :: c :: rest.takeWhile Char.isDigit) :: ·) := by
  have cut := @items?_append ('\\' :: c :: rest.takeWhile Char.isDigit) (rest.dropWhile Char.isDigit)
    (List.cons_ne_nil _ _)
  rw [List.cons_append, List.cons_append, List.takeWhile_append_dropWhile] at cut
  exact cut (afterItem?_decimal digit rest)

/-! ## Characters and groups -/

theorem afterItem?_char {c : Char} (faithful : c ∉ Sign.copied) (rest : List Char) :
    afterItem? ((Sign.char c).text ++ rest) = some rest := by
  by_cases escaped : Text.isEscaped c = true
  · have written : (Sign.char c).text = ['\\', c] := by simp [Sign.text, Text.escape, escaped]
    have other : ¬ c.isDigit = true := by
      rcases (Text.isEscaped_iff c).mp escaped with
        rfl | rfl | rfl | rfl | rfl | rfl | rfl | rfl | rfl | rfl | rfl <;> decide
    have read := @escaped_token itemReader rfl c escaped 0 rest
    rw [written, List.cons_append, List.singleton_append, afterItem?, if_neg other, read]
    rfl
  · rw [Bool.not_eq_true] at escaped
    have written : (Sign.char c).text = [c] := by simp [Sign.text, Text.escape, escaped]
    have other : c ≠ '\\' := by
      rintro rfl
      exact faithful (by decide)
    have read := @bare_token itemReader rfl c escaped faithful 0 rest
    rw [written, List.singleton_append, afterItem?, read]
    · rfl
    · exact fun _ _ same => other (List.cons.inj same).1

/-- The beginning of a group in front of a literal character. -/
theorem afterItem?_opening (captured : Bool) (c : Char) (rest : List Char) :
    afterItem? ((Sign.opening captured).text ++ ((Sign.char c).text ++ rest)) =
      some ((Sign.char c).text ++ rest) := by
  have agrees : Agrees itemReader (false, 1) 0 :=
    ⟨rfl, rfl, fun open_ member => by obtain rfl := List.mem_singleton.mp member; exact ⟨rfl, rfl⟩, rfl, rfl⟩
  obtain ⟨after, read, _⟩ := @reads_text (.opening captured) trivial (false, 1) (false, 2) rfl
    itemReader 0 agrees 0 _ ((Sign.char c).fresh_text_append rest) fun _ => Sign.text_char_append_ne_open c rest _
  cases captured with
  | true => exact congrArg (Option.map (·.2.2)) read
  | false => exact congrArg (Option.map (·.2.2)) read

end Regex.Extended

namespace Dialect

open Regex (Sign Choice)
open Regex.Extended

/-! ## Texts that stand by themselves -/

/-- What may stand behind a text: no digit if the text ends in a decimal escape. -/
def Apart (decimal : Bool) (rest : List Char) : Prop := decimal = true → startsWithDigit rest = false

theorem apart_false (rest : List Char) : Apart false rest := fun never => absurd never Bool.false_ne_true

/-- A text that the engine is given as these items, whatever stands behind it. -/
structure Separable (decimal : Bool) (text : List Char) (items : List (List Char)) : Prop where
  spelled {rest : List Char} (apart : Apart decimal rest) :
    toEngineFrom false (text ++ rest) = items.flatten ++ toEngineFrom false rest
  cut {rest : List Char} (apart : Apart decimal rest) :
    items? (items.flatten ++ rest) = (items? rest).map (items ++ ·)

namespace Separable

variable {decimal : Bool} {text more item : List Char} {items others : List (List Char)}

theorem single (nonempty : item ≠ [])
    (spelled : ∀ rest, Apart decimal rest → toEngineFrom false (text ++ rest) = item ++ toEngineFrom false rest)
    (read : ∀ rest, Apart decimal rest → afterItem? (item ++ rest) = some rest) :
    Separable decimal text [item] where
  spelled apart := by rw [List.flatten_singleton, spelled _ apart]
  cut apart := by rw [List.flatten_singleton, items?_append nonempty (read _ apart)]; rfl

theorem append (first : Separable false text items) (second : Separable decimal more others) :
    Separable decimal (text ++ more) (items ++ others) where
  spelled apart := by
    rw [List.append_assoc, first.spelled (apart_false _), second.spelled apart, List.flatten_append,
      List.append_assoc]
  cut apart := by
    rw [List.flatten_append, List.append_assoc, first.cut (apart_false _), second.cut apart, Option.map_map]
    simp only [Function.comp_def, List.append_assoc]

/-- An item that only stands by itself in front of this text. -/
theorem cons {front : List Char} (nonempty : item ≠ [])
    (spelled : ∀ rest, toEngineFrom false (front ++ rest) = item ++ toEngineFrom false rest)
    (read : ∀ rest, afterItem? (item ++ (items.flatten ++ rest)) = some (items.flatten ++ rest))
    (later : Separable decimal text items) : Separable decimal (front ++ text) (item :: items) where
  spelled apart := by
    rw [List.append_assoc, spelled, later.spelled apart, List.flatten_cons, List.append_assoc]
  cut apart := by
    rw [List.flatten_cons, List.append_assoc, items?_append nonempty (read _), later.cut apart, Option.map_map]
    rfl

theorem items?_toEngineFrom (separable : Separable decimal text items) {rest : List Char} (apart : Apart decimal rest) :
    items? (toEngineFrom false (text ++ rest)) = (items? (toEngineFrom false rest)).map (items ++ ·) := by
  rw [separable.spelled apart]
  exact separable.cut fun ends => by rw [startsWithDigit_toEngineFrom, apart ends]

theorem toEngine_eq (separable : Separable decimal text items) : toEngine text = items.flatten := by
  have spelled := separable.spelled (fun _ => rfl : Apart decimal [])
  rwa [List.append_nil, toEngineFrom, List.append_nil, ← Dialect.toEngine_eq] at spelled

theorem items?_toEngine (separable : Separable decimal text items) : items? (toEngine text) = some items := by
  have cut := separable.cut (fun _ => rfl : Apart decimal [])
  rwa [List.append_nil, ← separable.toEngine_eq, items?_nil, Option.map_some, List.append_nil] at cut

end Separable

theorem separable_char {c : Char} (faithful : c ∉ Sign.copied) :
    Separable false (Sign.char c).text [(Sign.char c).text] := by
  refine .single ?_ (fun rest _ => @Sign.toEngineFrom_text (.char c) faithful rest)
    (fun rest _ => afterItem?_char faithful rest)
  obtain ⟨first, more, written, _⟩ := (Sign.char c).text_head
  rw [written]
  exact List.cons_ne_nil _ _

theorem separable_chars {text : List Char} (faithful : ∀ c ∈ text, c ∉ Sign.copied) :
    Separable false (Sign.write (Choice.chars text)) ((Choice.chars text).map Sign.text) := by
  induction text with
  | nil => exact ⟨fun _ => rfl, fun _ => (Option.map_id' ..).symm⟩
  | cons c rest ih =>
    exact (separable_char (faithful c List.mem_cons_self)).append
      (ih fun other member => faithful other (List.mem_cons_of_mem _ member))

/-- A text in a group is cut into its characters and the two ends of the group. -/
theorem separable_group (captured : Bool) {text : List Char} (nonempty : text ≠ [])
    (faithful : ∀ c ∈ text, c ∉ Sign.copied) :
    Separable false (Sign.write (.opening captured :: (Choice.chars text ++ [.closing])))
      ((.opening captured :: (Choice.chars text ++ [.closing])).map Sign.text) := by
  have closing : Separable false [')'] [[')']] := .single (by simp) (fun _ _ => rfl) (fun _ _ => rfl)
  have inner := (separable_chars faithful).append closing
  have opens : (Sign.opening captured).text ≠ [] := by cases captured <;> exact List.cons_ne_nil _ _
  obtain ⟨c, rest, rfl⟩ := List.exists_cons_of_ne_nil nonempty
  rw [Sign.write_cons, Sign.write_append, List.map_cons, List.map_append]
  refine .cons opens (@Sign.toEngineFrom_text (.opening captured) trivial) (fun after => ?_) inner
  rw [Choice.chars, List.map_cons, List.map_cons, List.cons_append, List.flatten_cons, List.append_assoc]
  exact afterItem?_opening captured c _

theorem separable_textSigns (wrap : Bool) {text : List Char} (nonempty : text ≠ [])
    (faithful : ∀ c ∈ text, c ∉ Sign.copied) :
    Separable false (Sign.write (Choice.textSigns wrap text)) ((Choice.textSigns wrap text).map Sign.text) := by
  rw [Choice.textSigns]
  split
  · exact separable_chars faithful
  · exact separable_group wrap nonempty faithful

/-! ## References -/

/-- What the engine is given for a reference to a group. There is no group of number zero: its
escape is the one of the null character. -/
def referenceItem (n : Nat) : List Char :=
  if n = 0 then ['\\', 'x', '0', '0'] else '\\' :: Nat.toDigits 10 n

theorem toDigits_head_ne_zero {n : Nat} (positive : 0 < n) {d : Char} {ds : List Char}
    (digits : Nat.toDigits 10 n = d :: ds) : d ≠ '0' := by
  induction n using Nat.strongRecOn generalizing ds with
  | ind n ih =>
    rw [Nat.toDigits_eq_if (by decide)] at digits
    split at digits
    · next small =>
      obtain rfl := (List.cons.inj digits).1
      interval_cases n <;> decide
    · next large =>
      obtain ⟨c, cs, written, _⟩ := Sign.toDigits_head (n / 10)
      rw [written, List.cons_append] at digits
      obtain rfl := (List.cons.inj digits).1
      exact ih (n / 10) (by omega) (by omega) written

/-- A decimal escape is spelled as it is, unless it is the one of the null character. -/
theorem toEngineFrom_decimal {c : Char} {ds : List Char} (digits : ∀ d ∈ ds, d.isDigit = true) (rest : List Char)
    (kept : c = '0' → startsWithDigit (ds ++ rest) = true) :
    toEngineFrom false ('\\' :: c :: (ds ++ rest)) = '\\' :: c :: (ds ++ toEngineFrom false rest) := by
  have later := Sign.toEngineFrom_bare (fun d member => Sign.bare_of_isDigit (digits d member)) rest
  by_cases zero : c = '0'
  · subst zero
    rw [toEngineFrom, if_pos rfl, if_pos (kept rfl), later]
  · rw [toEngineFrom, if_neg zero, if_neg (fun both => absurd both.2 Bool.false_ne_true), later]

theorem separable_reference (n : Nat) : Separable true ('\\' :: Nat.toDigits 10 n) [referenceItem n] := by
  rw [referenceItem]
  split
  · next zero =>
    subst zero
    refine .single (List.cons_ne_nil _ _) (fun rest apart => ?_) (fun _ _ => rfl)
    change toEngineFrom false ('\\' :: '0' :: rest) = _
    simp [toEngineFrom, apart rfl]
  · next positive =>
    obtain ⟨c, ds, written, digit⟩ := Sign.toDigits_head n
    have digits : ∀ d ∈ ds, d.isDigit = true := fun d member =>
      Sign.isDigit_of_mem_digits d (written ▸ List.mem_cons_of_mem _ member)
    have notZero := toDigits_head_ne_zero (Nat.pos_of_ne_zero positive) written
    rw [written]
    refine .single (List.cons_ne_nil _ _) (fun rest _ => ?_) (fun rest apart => ?_)
    · exact toEngineFrom_decimal digits rest fun zero => absurd zero notZero
    · have stops : rest.dropWhile Char.isDigit = rest := by
        cases rest with
        | nil => rfl
        | cons d rest => exact List.dropWhile_cons_of_neg (by simpa [startsWithDigit] using apart rfl)
      rw [List.cons_append, List.cons_append, afterItem?_decimal digit, List.dropWhile_append_of_pos digits, stops]

/-- What the reader takes for a reference to a group in a pattern of so many bytes. -/
def groupToken? (s : Scanner) (bytes n : Nat) : Option Token :=
  if n = 0 then some (.atom (.literal '\x00' s.modes.caseless))
  else if n < bytes / 2 then some (.reference n true)
  else none

theorem token_referenceItem (s : Scanner) (bytes : Nat) (n : UInt32) {rest : List Char} (apart : Apart true rest) :
    s.token bytes (referenceItem n.toNat ++ rest) =
      (groupToken? s bytes n.toNat).map fun token => (token, { s with afterAtom := true }, rest) := by
  rw [referenceItem, groupToken?]
  split
  · rfl
  · obtain ⟨c, ds, written, digit⟩ := Sign.toDigits_head n.toNat
    have number := readNumber_toDigits n (apart rfl)
    rw [written, List.cons_append] at number
    rw [written, List.cons_append, List.cons_append, token_decimal s bytes digit, Scanner.readNumbered, number,
      Option.bind_some]
    change Option.map _ (if n.toNat < bytes / 2 then some (n.toNat, rest) else none) = _
    split <;> rfl

theorem readEscape_decimal (modes : Regex.Modes) {c : Char} (digit : c.isDigit = true) (rest : List Char) :
    Regex.readEscape modes (c :: rest) = none := by
  have noSet : Regex.letterSet? modes.unicode c = none := by
    rw [Regex.letterSet?]
    all_goals
      rintro rfl
      simp at digit
  have noControl : Regex.controlEscape? c = none := by
    rw [Regex.controlEscape?]
    all_goals
      rintro rfl
      simp at digit
  rw [Regex.readEscape]
  · simp [noSet, noControl, Regex.isEscapable, Char.isAlphanum, digit]
  all_goals
    rintro rfl
    simp at digit

/-- The plain dialect reads the null character as well, and refuses references. -/
theorem plainToken_referenceItem {s : Regex.Scanner} (bare : s.modes.verbose = false) (n : Nat) (rest : List Char) :
    s.token (referenceItem n ++ rest) =
      if n = 0 then some (.piece (.set (s.modes.literal '\x00')) 0, s, rest) else none := by
  have skip (cs : List Char) : s.modes.skip cs = cs := by simp [Regex.Modes.skip, bare]
  rw [referenceItem]
  split
  · have read : Regex.readEscape s.modes ('x' :: '0' :: '0' :: rest) = some (.char '\x00', rest) := by
      have run : s.modes.readHexRun 2 0 ('0' :: '0' :: rest) = some (0, rest) := by
        have digit : Regex.hexValue? '0' = some 0 := rfl
        simp [Regex.Modes.readHexRun, digit, skip]
      rw [Regex.readEscape, Regex.Modes.readHex, skip]
      change ((s.modes.readHexRun 2 0 ('0' :: '0' :: rest)).bind _).map _ = _
      rw [run]
      simp [Regex.charOfCode?]
    change (Regex.readEscape s.modes ('x' :: '0' :: '0' :: rest)).map _ = _
    rw [read]
    rfl
  · obtain ⟨c, ds, written, digit⟩ := Sign.toDigits_head n
    rw [written]
    change (Regex.readEscape s.modes (c :: (ds ++ rest))).map _ = _
    rw [readEscape_decimal s.modes digit]
    rfl

/-- At the front of a text both dialects read a reference to this group, which only the extended one
knows, or the null character if the number is zero, and leave the rest. -/
structure ReadsReference (n : Nat) (text rest : List Char) : Prop where
  extended (s : Scanner) (bytes : Nat) :
    s.token bytes text = (groupToken? s bytes n).map fun token => (token, { s with afterAtom := true }, rest)
  plain (s : Regex.Scanner) (bare : s.modes.verbose = false) :
    s.token text = if n = 0 then some (.piece (.set (s.modes.literal '\x00')) 0, s, rest) else none

theorem readsReference (n : UInt32) {rest : List Char} (apart : Apart true rest) :
    ReadsReference n.toNat (referenceItem n.toNat ++ rest) rest :=
  ⟨fun s bytes => token_referenceItem s bytes n apart, fun _ bare => plainToken_referenceItem bare n.toNat rest⟩

/-- In front of a digit a reference is not read as it is written: the digit becomes part of it. -/
theorem items?_joined (n : Nat) {rest : List Char} (starts : startsWithDigit rest = true) (others : List (List Char)) :
    items? (toEngineFrom false ('\\' :: Nat.toDigits 10 n ++ rest)) ≠ some (referenceItem n :: others) := by
  obtain ⟨c, ds, written, first⟩ := Sign.toDigits_head n
  obtain ⟨d, rest, rfl⟩ := List.exists_cons_of_ne_nil
    (fun empty => by rw [empty] at starts; exact absurd starts Bool.false_ne_true : rest ≠ [])
  have digit : d.isDigit = true := starts
  have digits : ∀ e ∈ ds ++ [d], e.isDigit = true := by
    intro e member
    rcases List.mem_append.mp member with member | member
    · exact Sign.isDigit_of_mem_digits e (written ▸ List.mem_cons_of_mem _ member)
    · rwa [List.mem_singleton.mp member]
  have kept : startsWithDigit ((ds ++ [d]) ++ rest) = true := by
    cases ds with
    | nil => exact digit
    | cons e ds => exact digits e List.mem_cons_self
  have spelled := toEngineFrom_decimal digits rest (fun _ : c = '0' => kept)
  rw [List.append_assoc] at spelled
  rw [written, List.cons_append, List.cons_append]
  change items? (toEngineFrom false ('\\' :: c :: (ds ++ ([d] ++ rest)))) ≠ _
  rw [spelled, items?_decimal first, List.takeWhile_append_of_pos digits]
  intro same
  obtain ⟨_, _, same⟩ := Option.map_eq_some_iff.mp same
  have item := (List.cons.inj same).1
  rw [referenceItem] at item
  split at item
  · obtain rfl := (List.cons.inj (List.cons.inj item).2).1
    exact absurd first (by decide)
  · rw [written] at item
    have lengths := congrArg List.length item
    simp at lengths

end Dialect
end PatternComposer
