import PatternComposer.Proofs.Builder.Building
import PatternComposer.Proofs.Pattern.Items
import PatternComposer.Proofs.Regex.Extended.Atoms
import PatternComposer.Proofs.Unicode.Categories

/-! # Builders of single characters

A builder that is told to match one character after the other, from the start of a text to its end. What it
writes is a row of atoms, so it is searched plainly and matches the texts with one character for each call, in the
set of the call (`isMatch_characters`).
-/

namespace PatternComposer.Builder

open Regex (Atom ClassItem)
open Dialect (toEngineFrom startsWithDigit)

/-- White space: separators, the control characters for blanks and line ends, and the next line. -/
def whiteSpace : Set Char := {c | c ∈ Unicode.separator} ∪ Set.Icc '\x09' '\x0D' ∪ {'\x85'}

/-- Characters of words: what is alphabetic, marks, decimal digits, connecting punctuation and the joiners. -/
def wordCharacter : Set Char :=
  {c | c ∈ Unicode.alphabetic ∨ c ∈ Unicode.mark ∨ c ∈ Unicode.digit ∨
    c ∈ Unicode.connectorPunctuation ∨ c ∈ Unicode.joinControl}

/-- The characters that a call stands for. A dot stands for the line feed only with its flag. -/
inductive StandsFor (dotAll : Bool) : Call → Set Char → Prop where
  | digit : StandsFor dotAll (.operation .matchesDigit []) (Set.Icc '0' '9')
  | nonDigit : StandsFor dotAll (.operation .matchesNonDigit []) (Set.Icc '0' '9')ᶜ
  | letter : StandsFor dotAll (.operation .matchesLetter []) (Set.Icc 'a' 'z' ∪ Set.Icc 'A' 'Z')
  | uppercaseLetter : StandsFor dotAll (.operation .matchesUppercaseLetter []) (Set.Icc 'A' 'Z')
  | lowercaseLetter : StandsFor dotAll (.operation .matchesLowercaseLetter []) (Set.Icc 'a' 'z')
  | tab : StandsFor dotAll (.operation .matchesTab []) {'\x09'}
  | lineFeed : StandsFor dotAll (.operation .matchesLineFeed []) {'\x0A'}
  | carriageReturn : StandsFor dotAll (.operation .matchesCarriageReturn []) {'\x0D'}
  | formFeed : StandsFor dotAll (.operation .matchesFormFeed []) {'\x0C'}
  | verticalTab : StandsFor dotAll (.operation .matchesVerticalTab []) {'\x0B'}
  | null : StandsFor dotAll (.operation .matchesNull []) {'\x00'}
  | backspace : StandsFor dotAll (.operation .matchesBackspace []) {'\x08'}
  | whiteSpace : StandsFor dotAll (.operation .matchesWhiteSpace []) whiteSpace
  | notWhiteSpace : StandsFor dotAll (.operation .matchesNotWhiteSpace []) whiteSpaceᶜ
  | alphanumeric : StandsFor dotAll (.operation .matchesAlphanumeric []) wordCharacter
  | nonAlphanumeric : StandsFor dotAll (.operation .matchesNonAlphanumeric []) wordCharacterᶜ
  | any : StandsFor dotAll (.operation .matchesAny []) (if dotAll then Set.univ else {'\x0A'}ᶜ)
  | oneOf {text : String} (nonempty : text ≠ "") (plain : ∀ c ∈ text.toList, c.isAlphanum) :
      StandsFor dotAll (.operation .matchesFor [.text text]) {c | c ∈ text.toList}
  | noneOf {text : String} (nonempty : text ≠ "") (plain : ∀ c ∈ text.toList, c.isAlphanum) :
      StandsFor dotAll (.operation .matchesNotFor [.text text]) {c | c ∈ text.toList}ᶜ

/-! ## What the calls write -/

/-- Calls write a text that the engine is given as these atoms, if no digit stands behind it. -/
structure WritesAtoms (dotAll : Bool) (calls : List Call) (text : String) (atoms : List Atom) : Prop where
  performed (b : Builder) : calls.foldlM Call.perform b = .ok (b.push text)
  noDigit {rest : List Char} (apart : startsWithDigit rest = false) : startsWithDigit (text.toList ++ rest) = false
  spelled {rest : List Char} (apart : startsWithDigit rest = false) :
    toEngineFrom false (text.toList ++ rest) = Atom.write atoms ++ toEngineFrom false rest
  legible : ∀ atom ∈ atoms, atom.Legible dotAll

namespace WritesAtoms

variable {dotAll : Bool} {call : Call} {calls more : List Call} {text other : String} {atom : Atom}
  {atoms others : List Atom}

theorem nil : WritesAtoms dotAll [] "" [] where
  performed b := by simp [push, pure, Except.pure]
  noDigit apart := apart
  spelled _ := rfl
  legible _ member := absurd member List.not_mem_nil

theorem single (performed : ∀ b, call.perform b = .ok (b.push text))
    (noDigit : ∀ rest, startsWithDigit (text.toList ++ rest) = false)
    (spelled : ∀ rest, startsWithDigit rest = false →
      toEngineFrom false (text.toList ++ rest) = atom.text ++ toEngineFrom false rest)
    (legible : atom.Legible dotAll) : WritesAtoms dotAll [call] text [atom] where
  performed b := by
    rw [List.foldlM_cons, performed]
    rfl
  noDigit _ := noDigit _
  spelled apart := by
    rw [spelled _ apart, Atom.write, List.flatMap_singleton]
  legible other member := by
    obtain rfl := List.mem_singleton.mp member
    exact legible

theorem append (first : WritesAtoms dotAll calls text atoms) (second : WritesAtoms dotAll more other others) :
    WritesAtoms dotAll (calls ++ more) (text ++ other) (atoms ++ others) where
  performed b := by
    rw [List.foldlM_append, first.performed]
    change List.foldlM Call.perform (b.push text) more = _
    rw [second.performed, push, push, push, String.append_assoc]
  noDigit apart := by
    rw [String.toList_append, List.append_assoc]
    exact first.noDigit (second.noDigit apart)
  spelled apart := by
    rw [String.toList_append, List.append_assoc, first.spelled (second.noDigit apart), second.spelled apart,
      Atom.write, Atom.write, Atom.write, List.flatMap_append, List.append_assoc]
  legible atom member := by
    rcases List.mem_append.mp member with member | member
    · exact first.legible atom member
    · exact second.legible atom member

end WritesAtoms

variable {dotAll : Bool} {call : Call} {calls : List Call} {set : Set Char} {sets : List (Set Char)}

/-- The call writes one atom, for this set. -/
def WritesSet (dotAll : Bool) (call : Call) (set : Set Char) : Prop :=
  ∃ text atom members, WritesAtoms dotAll [call] text [atom] ∧ atom.node = .set members ∧
    ∀ c, c ∈ members ↔ c ∈ set

/-- An escape or a dot, which the engine is given as an atom for this set. -/
theorem writesSet_single (text : String) (atom : Atom) {members : CharSet}
    (performed : ∀ b, call.perform b = .ok (b.push text))
    (noDigit : ∀ rest, startsWithDigit (text.toList ++ rest) = false)
    (spelled : ∀ rest, startsWithDigit rest = false →
      toEngineFrom false (text.toList ++ rest) = atom.text ++ toEngineFrom false rest)
    (legible : atom.Legible dotAll) (node : atom.node = .set members) (same : ∀ c, c ∈ members ↔ c ∈ set) :
    WritesSet dotAll call set :=
  ⟨text, atom, members, .single performed noDigit spelled legible, node, same⟩

/-- A class is written item by item. -/
theorem writesSet_listing (negated : Bool) (items : List ClassItem) {text : String}
    (performed : ∀ b, call.perform b = .ok (b.push text))
    (written : text.toList = '[' :: ClassItem.enclosed negated ClassItem.source items)
    (wellFormed : ∀ item ∈ items, item.WellFormed) (nonempty : items ≠ [])
    (same : ∀ c, (∃ item ∈ items, item.Lists c) ↔ c ∈ set) :
    WritesSet dotAll call (if negated then setᶜ else set) := by
  obtain ⟨depth, inner, legible⟩ := Atom.exists_legible_listing negated wellFormed nonempty
  refine writesSet_single text (Atom.listing negated items depth inner) performed (fun rest => ?_) (fun rest _ => ?_)
    (legible dotAll) rfl fun c => ?_
  · rw [written]
    rfl
  · rw [written, List.cons_append, ClassItem.toEngineFrom_source negated wellFormed]
    rfl
  · rw [ClassItem.mem_classMembers]
    cases negated with
    | false => exact same c
    | true => exact not_congr (same c)

theorem not_mem_marks {c : Char} (plain : c.isAlphanum = true) : c ∉ ClassItem.marks := by
  intro member
  simp only [ClassItem.marks, List.mem_cons, List.not_mem_nil, or_false] at member
  rcases member with rfl | rfl | rfl | rfl | rfl | rfl | rfl <;> exact absurd plain (by decide)

/-- The characters of a text are the items of a class. -/
theorem writesSet_chars (negated : Bool) {text written : String} (nonempty : text ≠ "")
    (plain : ∀ c ∈ text.toList, c.isAlphanum) (performed : ∀ b, call.perform b = .ok (b.push written))
    (spelled : written.toList = '[' :: ((if negated then ['^'] else []) ++ text.toList ++ [']'])) :
    WritesSet dotAll call (if negated then {c | c ∈ text.toList}ᶜ else {c | c ∈ text.toList}) := by
  refine writesSet_listing negated (text.toList.map .char) performed ?_ (fun item member => ?_) ?_ fun c => ?_
  · have copied : (text.toList.map ClassItem.char).flatMap ClassItem.source = text.toList := by
      rw [List.flatMap_map]
      exact List.flatMap_singleton' _
    rw [spelled, ClassItem.enclosed, copied]
  · obtain ⟨c, inside, rfl⟩ := List.mem_map.mp member
    exact not_mem_marks (plain c inside)
  · simpa using nonempty
  · simp [ClassItem.Lists]

theorem mem_anyChar {c : Char} :
    c ∈ (Regex.Modes.dotted dotAll).anyChar ↔ c ∈ if dotAll then Set.univ else ({'\x0A'}ᶜ : Set Char) := by
  cases dotAll with
  | true => exact iff_of_true CharSet.mem_all trivial
  | false =>
    have valid := CharSet.mem_iff.mp (@CharSet.mem_all c)
    have feed : c = '\x0A' ↔ c.toNat = 0xA := Char.toNat_inj.symm
    change c ∈ (⟨[(0, 0x9), (0xB, CharSet.top)]⟩ : CharSet) ↔ ¬ c = '\x0A'
    rw [feed, CharSet.mem_iff]
    simp only [CharSet.all, List.mem_cons, List.not_mem_nil, or_false, exists_eq_or_imp, exists_eq_left,
      CharSet.Covers] at valid ⊢
    omega

theorem mem_blank_iff {c : Char} : c ∈ Unicode.blank ↔ c ∈ whiteSpace := by
  rw [Unicode.mem_blank, CharSet.mem_range, ← or_assoc]
  rfl

theorem StandsFor.writesSet (stands : StandsFor dotAll call set) : WritesSet dotAll call set := by
  cases stands with
  | digit =>
    exact writesSet_listing false [.range '0' '9'] (fun _ => rfl) rfl (by decide) (by decide)
      (by simp [ClassItem.Lists])
  | nonDigit =>
    exact writesSet_listing true [.range '0' '9'] (fun _ => rfl) rfl (by decide) (by decide) (by simp [ClassItem.Lists])
  | letter =>
    exact writesSet_listing false [.range 'a' 'z', .range 'A' 'Z'] (fun _ => rfl) rfl (by decide) (by decide)
      (by simp [ClassItem.Lists])
  | uppercaseLetter =>
    exact writesSet_listing false [.range 'A' 'Z'] (fun _ => rfl) rfl (by decide) (by decide)
      (by simp [ClassItem.Lists])
  | lowercaseLetter =>
    exact writesSet_listing false [.range 'a' 'z'] (fun _ => rfl) rfl (by decide) (by decide)
      (by simp [ClassItem.Lists])
  | tab =>
    exact writesSet_single "\\t" (.char ['\\', 't'] '\t') (fun _ => rfl) (fun _ => rfl) (fun _ _ => rfl)
      (Atom.legible_char (by simp)) rfl fun _ => CharSet.mem_single
  | lineFeed =>
    exact writesSet_single "\\n" (.char ['\\', 'n'] '\n') (fun _ => rfl) (fun _ => rfl) (fun _ _ => rfl)
      (Atom.legible_char (by simp)) rfl fun _ => CharSet.mem_single
  | carriageReturn =>
    exact writesSet_single "\\r" (.char ['\\', 'r'] '\r') (fun _ => rfl) (fun _ => rfl) (fun _ _ => rfl)
      (Atom.legible_char (by simp)) rfl fun _ => CharSet.mem_single
  | formFeed =>
    exact writesSet_single "\\f" (.char ['\\', 'f'] '\x0C') (fun _ => rfl) (fun _ => rfl) (fun _ _ => rfl)
      (Atom.legible_char (by simp)) rfl fun _ => CharSet.mem_single
  | verticalTab =>
    exact writesSet_single "\\v" (.char ['\\', 'v'] '\x0B') (fun _ => rfl) (fun _ => rfl) (fun _ _ => rfl)
      (Atom.legible_char (by simp)) rfl fun _ => CharSet.mem_single
  | null =>
    refine writesSet_single "\\0" (.char ['\\', 'x', '0', '0'] '\x00') (fun _ => rfl) (fun _ => rfl)
      (fun rest apart => ?_) (Atom.legible_char (by simp)) rfl fun _ => CharSet.mem_single
    -- in front of a digit the escape would stay as it is
    change (if startsWithDigit rest = true then _ else _) = _
    rw [apart]
    rfl
  | backspace =>
    exact writesSet_listing false [.backspace] (fun _ => rfl) rfl (by decide) (by decide) (by simp [ClassItem.Lists])
  | whiteSpace =>
    exact writesSet_single "\\s" (.escape 's' Unicode.blank) (fun _ => rfl) (fun _ => rfl) (fun _ _ => rfl)
      (Atom.legible_escape (by simp)) rfl fun _ => mem_blank_iff
  | notWhiteSpace =>
    exact writesSet_single "\\S" (.escape 'S' Regex.notBlank) (fun _ => rfl) (fun _ => rfl) (fun _ _ => rfl)
      (Atom.legible_escape (by simp)) rfl fun _ => CharSet.mem_complement.trans (not_congr mem_blank_iff)
  | alphanumeric =>
    exact writesSet_single "\\w" (.escape 'w' Unicode.word) (fun _ => rfl) (fun _ => rfl) (fun _ _ => rfl)
      (Atom.legible_escape (by simp)) rfl fun _ => Unicode.mem_word
  | nonAlphanumeric =>
    exact writesSet_single "\\W" (.escape 'W' Regex.notWord) (fun _ => rfl) (fun _ => rfl) (fun _ _ => rfl)
      (Atom.legible_escape (by simp)) rfl fun _ => CharSet.mem_complement.trans (not_congr Unicode.mem_word)
  | any =>
    exact writesSet_single "." (.any dotAll) (fun _ => rfl) (fun _ => rfl) (fun _ _ => rfl) Atom.legible_any rfl
      fun _ => mem_anyChar
  | oneOf nonempty plain =>
    refine writesSet_chars false nonempty plain (fun _ => rfl) ?_
    simp
  | noneOf nonempty plain =>
    refine writesSet_chars true nonempty plain (fun _ => rfl) ?_
    simp

/-! ## Runs of calls -/

theorem exists_writesAtoms (each : List.Forall₂ (StandsFor dotAll) calls sets) :
    ∃ text atoms members, WritesAtoms dotAll calls text atoms ∧ atoms.map (·.node) = members.map .set ∧
      List.Forall₂ (fun (s : CharSet) (set : Set Char) => ∀ c, c ∈ s ↔ c ∈ set) members sets := by
  induction each with
  | nil => exact ⟨"", [], [], .nil, rfl, .nil⟩
  | cons stands _ ih =>
    obtain ⟨text, atom, members, first, node, same⟩ := stands.writesSet
    obtain ⟨more, atoms, others, later, nodes, alike⟩ := ih
    refine ⟨text ++ more, atom :: atoms, members :: others, first.append later, ?_, .cons same alike⟩
    rw [List.map_cons, node, nodes, List.map_cons]

theorem forall₂_mem_iff {members : List CharSet}
    (alike : List.Forall₂ (fun (s : CharSet) (set : Set Char) => ∀ c, c ∈ s ↔ c ∈ set) members sets)
    {cs : List Char} :
    List.Forall₂ (· ∈ ·) cs members ↔ List.Forall₂ (· ∈ ·) cs sets := by
  induction alike generalizing cs with
  | nil => rw [List.forall₂_nil_right_iff, List.forall₂_nil_right_iff]
  | cons same _ ih => simp only [List.forall₂_cons_right_iff, same, ih]

/-- The calls for single characters between the start of a text and its end. -/
def characterCalls (calls : List Call) : List Call :=
  .operation .beginLine [] :: (calls ++ [.operation .endLine []])

theorem WritesAtoms.anchored {text : String} {atoms : List Atom} (row : WritesAtoms dotAll calls text atoms) :
    WritesAtoms dotAll (characterCalls calls) ("^" ++ (text ++ "$")) (Atom.anchored atoms) := by
  have first : WritesAtoms dotAll [.operation .beginLine []] "^" [.start] :=
    .single (fun _ => rfl) (fun _ => rfl) (fun _ _ => rfl) (Atom.legible_anchor (by simp))
  have last : WritesAtoms dotAll [.operation .endLine []] "$" [.stop] :=
    .single (fun _ => rfl) (fun _ => rfl) (fun _ _ => rfl) (Atom.legible_anchor (by simp))
  exact first.append (row.append last)

/-- Of flags among these only one is for the engine. -/
theorem filter_inline {flags : List Char} (nodup : flags.Nodup)
    (known : ∀ flag ∈ flags, flag ∈ ['g', 's', 'u', 'y']) :
    flags.filter ['i', 'm', 's'].contains = if 's' ∈ flags then ['s'] else [] := by
  have lone : flags.filter ['i', 'm', 's'].contains = flags.filter (· == 's') := by
    apply List.filter_congr
    intro flag member
    have among := known flag member
    simp only [List.mem_cons, List.not_mem_nil, or_false] at among
    rcases among with rfl | rfl | rfl | rfl <;> decide
  rw [lone, List.filter_beq]
  split
  · next member => rw [List.count_eq_one_of_mem nodup member, List.replicate_one]
  · next absent => rw [List.count_eq_zero_of_not_mem absent, List.replicate_zero]

theorem toEngine_source {b : Builder} {text : String} {atoms : List Atom} (pattern : b.pattern = text)
    (row : WritesAtoms dotAll calls text (Atom.anchored atoms)) :
    Dialect.toEngine b.source.toList = Atom.scope b.settings.wrapInsideGroup atoms := by
  have spelled : Dialect.toEngine text.toList = Atom.write (Atom.anchored atoms) := by
    have whole := row.spelled (show startsWithDigit [] = false from rfl)
    rwa [List.append_nil, toEngineFrom, List.append_nil, ← Dialect.toEngine_eq] at whole
  rw [source, pattern, Atom.scope]
  split
  · rw [← spelled, ← Dialect.toEngine_grouped, String.toList_append, String.toList_append]
    rfl
  · exact spelled

/-- A pattern whose search only matches from the start of a text matches if its search finds anything, sticky or not. -/
theorem isMatch_of_start {source text : String} {flags : Flags} {program : Regex.Program} {groups : Nat}
    (first : ∀ start hit, program.search? text.toList.toArray 0 = some (start, hit) → start = 0) :
    Pattern.isMatch ⟨source, flags, .plain program groups⟩ text =
      .ok (program.search? text.toList.toArray 0).isSome := by
  have zero : Text.charIndex text.toList 0 = 0 := by
    cases text.toList <;> rfl
  have origin : Text.byteOffset text.toList 0 = 0 := by
    rw [Text.byteOffset, List.take_zero]
    rfl
  rw [Pattern.isMatch, Pattern.find, Pattern.findAt]
  simp only [Regex.Matcher.find, Regex.Matcher.findPlain?, zero]
  cases found : program.search? text.toList.toArray 0 with
  | none => rfl
  | some hit =>
    obtain ⟨start, hit⟩ := hit
    obtain rfl := first start hit found
    simp [Except.map, Pattern.toMatch, origin]

theorem buildText_eq {b : Builder} {argument : FlagsArgument} {wrapped : Bool} {atoms : List Atom}
    (known : ∀ flag ∈ b.settings.flags ++ argument.supplied, flag ∈ ['g', 's', 'u', 'y'])
    (spelled : Dialect.toEngine b.source.toList = Atom.scope wrapped atoms) :
    b.buildText argument =
      Atom.lead ((b.settings.flags ++ argument.supplied).contains 's') ++ Atom.scope wrapped atoms := by
  have inline : (b.buildFlags argument).filter ['i', 'm', 's'].contains =
      if 's' ∈ b.settings.flags ++ argument.supplied then ['s'] else [] := by
    rw [buildFlags, filter_inline (nodup_eraseDups _) (fun flag member => known flag (List.mem_eraseDups.mp member))]
    simp only [List.mem_eraseDups]
  rw [buildText, inline, spelled, Atom.lead, List.contains_eq_mem]
  by_cases dotted : 's' ∈ b.settings.flags ++ argument.supplied
  · simp [dotted]
  · simp [dotted]

/-- Calls for single characters between the start of a text and its end succeed, and what the builder builds with
flags among these is searched plainly. It matches exactly the texts with as many characters as there are calls,
each of them in the set of its call. -/
theorem isMatch_characters (settings : Settings) (argument : FlagsArgument) {calls : List Call} {sets : List (Set Char)}
    (known : ∀ flag ∈ settings.flags ++ argument.supplied, flag ∈ ['g', 's', 'u', 'y'])
    (each : List.Forall₂ (StandsFor ((settings.flags ++ argument.supplied).contains 's')) calls sets) :
    ∃ b, (characterCalls calls).foldlM Call.perform (ofSettings settings) = .ok b ∧
      ∀ p, b.buildWithFlags argument.toFlags = .ok p →
        p.isBacktracking = false ∧ ∀ text, ∃ matched, p.isMatch text = .ok matched ∧
          (matched = true ↔ List.Forall₂ (· ∈ ·) text.toList sets) := by
  obtain ⟨text, atoms, members, row, noded, alike⟩ := exists_writesAtoms each
  have whole := row.anchored
  let b := (ofSettings settings).push ("^" ++ (text ++ "$"))
  have pattern : b.pattern = "^" ++ (text ++ "$") := String.empty_append
  have spelled := buildText_eq (show ∀ flag ∈ b.settings.flags ++ argument.supplied, _ from known)
    (toEngine_source pattern whole)
  refine ⟨b, whole.performed _, fun p built => ?_⟩
  have outcome := b.buildsTo argument
  rw [built] at outcome
  obtain ⟨source, flags, matcher⟩ := p
  cases outcome with
  | built _ _ read _ _ =>
    have accepted := read.symm.trans ((congrArg Regex.Matcher.ofText? spelled).trans (Atom.matcher_whole row.legible _))
    obtain ⟨_, same⟩ := Option.ite_none_right_eq_some.mp accepted.symm
    obtain rfl := Option.some.inj same
    refine ⟨rfl, fun text => ?_⟩
    obtain ⟨found, first⟩ := Atom.search?_whole noded ((settings.flags ++ argument.supplied).contains 's')
      settings.wrapInsideGroup text.toList
    exact ⟨_, isMatch_of_start first, found.trans (forall₂_mem_iff alike)⟩

/-- The null character in front of a digit, a backspace, and a space of ideographs. The pattern is wrapped, global
and sticky. -/
theorem isMatch_characters_of_null :
    let settings : Settings := ⟨true, true, false, ['s']⟩
    let argument : FlagsArgument := .text "gy"
    let calls : List Call := [.operation .matchesNull [], .operation .matchesFor [.text "7"],
      .operation .matchesBackspace [], .operation .matchesNotFor [.text "ab"], .operation .matchesWhiteSpace [],
      .operation .matchesAny []]
    let b := (ofSettings settings).push "^\\0[7][\\b][^ab]\\s.$"
    (∀ flag ∈ settings.flags ++ argument.supplied, flag ∈ ['g', 's', 'u', 'y']) ∧
      List.Forall₂ (StandsFor true) calls
        [{'\x00'}, {c | c ∈ "7".toList}, {'\x08'}, {c | c ∈ "ab".toList}ᶜ, whiteSpace, Set.univ] ∧
      (characterCalls calls).foldlM Call.perform (ofSettings settings) = .ok b ∧
      ∃ p, b.buildWithFlags argument.toFlags = .ok p ∧ p.isBacktracking = false ∧
        p.isMatch "\x007\x08c\u3000\n" = .ok true ∧ p.isMatch "\x007\x08c+\n" = .ok false := by
  intro settings argument calls b
  have known : ∀ flag ∈ settings.flags ++ argument.supplied, flag ∈ ['g', 's', 'u', 'y'] := by
    change ∀ flag ∈ ['s', 'g', 'y'], _
    simp
  have each : List.Forall₂ (StandsFor true) calls
      [{'\x00'}, {c | c ∈ "7".toList}, {'\x08'}, {c | c ∈ "ab".toList}ᶜ, whiteSpace, Set.univ] :=
    .cons .null (.cons (.oneOf (by decide) (by simp)) (.cons .backspace (.cons (.noneOf (by decide) (by simp))
      (.cons .whiteSpace (.cons .any .nil)))))
  have inside : '\u3000' ∈ whiteSpace := mem_blank_iff.mp (by decide)
  have outside : '+' ∉ whiteSpace := mt mem_blank_iff.mpr (by decide)
  obtain ⟨after, performed, spec⟩ := isMatch_characters settings argument known each
  obtain rfl : b = after := Except.ok.inj performed
  have accepted : (Regex.Matcher.ofPlain? (b.buildText argument)).isSome := by cbv
  obtain ⟨p, built⟩ := (b.buildsTo argument).exists_ok_iff.mpr
    ⟨fun blocked => blocked.2 rfl, by decide +kernel, .inl accepted⟩
  obtain ⟨plain, answers⟩ := spec p built
  refine ⟨known, each, performed, p, built, plain, ?_, ?_⟩
  · obtain ⟨matched, answer, exactly⟩ := answers "\x007\x08c\u3000\n"
    rw [answer, exactly.mpr]
    simp [inside]
  · obtain ⟨matched, answer, exactly⟩ := answers "\x007\x08c+\n"
    have refused : matched = false := by
      rw [Bool.eq_false_iff, ne_eq, exactly]
      simp [outside]
    rw [answer, refused]

end PatternComposer.Builder
