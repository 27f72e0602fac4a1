import Mathlib
import PatternComposer.Flags
import PatternComposer.Regex.Extended.Tree

/-! # Flags in front of a pattern

A pattern may begin with a change of modes that switches flags on. Both dialects read it as one token
and go on behind it, in modes that are not verbose. Which modes those are depends on the flags that
are switched on, and not on their order.
-/

namespace PatternComposer.Regex

/-- Nothing, or a change of modes that switches each of some flags on. -/
inductive Leading : List Char → Prop where
  | nothing : Leading []
  | setting {letters : List Char} (nonempty : letters ≠ []) (nodup : letters.Nodup)
      (inline : ∀ c ∈ letters, c ∈ Flags.inline) : Leading ('(' :: '?' :: (letters ++ [')']))

theorem mem_inline {c : Char} : c ∈ Flags.inline ↔ c = 'i' ∨ c = 'm' ∨ c = 's' := by
  simp [Flags.inline, Flags.caseInsensitive, Flags.multiLine, Flags.dotAll]

/-- Flags that a change of modes in front of a pattern can switch on, each of them once. -/
structure Switches (letters : List Char) : Prop where
  nonempty : letters ≠ []
  nodup : letters.Nodup
  inline : ∀ c ∈ letters, c ∈ Flags.inline

theorem Switches.perm {letters others : List Char} (switches : Switches letters) (same : letters.Perm others) :
    Switches others where
  nonempty := fun none => switches.nonempty (List.perm_nil.mp (none ▸ same))
  nodup := same.nodup_iff.mp switches.nodup
  inline := fun c member => switches.inline c (same.mem_iff.mpr member)

namespace Modes

/-- The modes with the modes of flags switched on. -/
def switched (modes : Modes) (letters : List Char) : Modes :=
  { modes with
    caseless := modes.caseless || letters.contains 'i'
    multiLine := modes.multiLine || letters.contains 'm'
    dotAll := modes.dotAll || letters.contains 's' }

theorem switched_nil (modes : Modes) : modes.switched [] = modes := by simp [switched]

theorem switched_cons (modes : Modes) (c : Char) (letters : List Char) :
    modes.switched (c :: letters) = (modes.switched [c]).switched letters := by
  simp [switched, Bool.or_assoc]

theorem switched_perm (modes : Modes) {letters others : List Char} (same : letters.Perm others) :
    modes.switched letters = modes.switched others := by
  simp only [switched, List.contains_eq_mem, same.mem_iff]

theorem switch?_inline (modes : Modes) {c : Char} (inline : c ∈ Flags.inline) :
    modes.switch? c true = some (modes.switched [c]) := by
  rcases mem_inline.mp inline with rfl | rfl | rfl <;> simp [switch?, switched]

end Modes

/-! ## The plain dialect -/

theorem readFlags_inline {letters seen : List Char} (modes : Modes) (nodup : letters.Nodup)
    (inline : ∀ c ∈ letters, c ∈ Flags.inline) (fresh : ∀ c ∈ letters, c ∉ seen)
    (nonempty : letters ≠ [] ∨ seen ≠ []) (rest : List Char) :
    readFlags modes seen false false (letters ++ ')' :: rest) = some ⟨modes.switched letters, false, rest⟩ := by
  induction letters generalizing modes seen with
  | nil =>
    have flagged : seen.isEmpty = false := by simpa using nonempty
    simp [readFlags, flagged, Modes.switched_nil]
  | cons c letters ih =>
    obtain ⟨other, nodup⟩ := List.nodup_cons.mp nodup
    have unseen : ∀ d ∈ letters, d ∉ c :: seen := by
      intro d member found
      rcases List.mem_cons.mp found with rfl | found
      · exact other member
      · exact fresh d (List.mem_cons_of_mem _ member) found
    have new : c ∉ seen := fresh c List.mem_cons_self
    have step : readFlags modes seen false false (c :: (letters ++ ')' :: rest)) =
        (modes.switch? c true).bind fun modes => readFlags modes (c :: seen) false false (letters ++ ')' :: rest) := by
      rcases mem_inline.mp (inline c List.mem_cons_self) with rfl | rfl | rfl <;> simp [readFlags, new]
    rw [List.cons_append, step, modes.switch?_inline (inline c List.mem_cons_self), Option.bind_some,
      ih _ nodup (fun d member => inline d (List.mem_cons_of_mem _ member)) unseen (.inr (List.cons_ne_nil _ _)),
      ← Modes.switched_cons]

/-- The plain reader reads the flags as one token. -/
theorem Scanner.token_setting {letters : List Char} (switches : Switches letters) (rest : List Char) :
    Scanner.initial.token ('(' :: '?' :: (letters ++ ')' :: rest)) =
      some (.setting, ⟨Modes.initial.switched letters, [], []⟩, rest) := by
  obtain ⟨nonempty, nodup, inline⟩ := switches
  have read := readFlags_inline .initial nodup inline (fun _ _ => List.not_mem_nil) (.inl nonempty) rest
  change Scanner.initial.openParen ('?' :: (letters ++ ')' :: rest)) = _
  obtain ⟨c, others, rfl⟩ := List.exists_cons_of_ne_nil nonempty
  rw [List.cons_append] at read ⊢
  rcases mem_inline.mp (inline c List.mem_cons_self) with rfl | rfl | rfl
  all_goals
    change ((readFlags Modes.initial [] false false (_ :: (others ++ ')' :: rest))).map _) = _
    rw [read]
    rfl

theorem Token.scanFrom_setting {letters : List Char} (switches : Switches letters) (fuel : Nat) (rest : List Char) :
    scanFrom (fuel + 1) .initial [] ('(' :: '?' :: (letters ++ ')' :: rest)) =
      scanFrom fuel ⟨Modes.initial.switched letters, [], []⟩ [.setting] rest := by
  change (Scanner.initial.token ('(' :: '?' :: (letters ++ ')' :: rest))).bind _ = _
  rw [Scanner.token_setting switches]
  rfl

/-- Behind the flags the plain reader goes on with at most one token read. -/
theorem Leading.scanFrom {front : List Char} (leading : Leading front) :
    ∃ (modes : Modes) (lead : List Token), modes.verbose = false ∧ (lead = [] ∨ lead = [.setting]) ∧
      ∀ fuel rest tokens, Token.scanFrom fuel .initial [] (front ++ rest) = some tokens →
        ∃ fuel', Token.scanFrom fuel' ⟨modes, [], []⟩ lead rest = some tokens := by
  cases leading with
  | nothing => exact ⟨.initial, [], rfl, .inl rfl, fun fuel rest tokens scanned => ⟨fuel, scanned⟩⟩
  | @setting letters nonempty nodup inline =>
    refine ⟨Modes.initial.switched letters, [.setting], rfl, .inr rfl, fun fuel rest tokens scanned => ?_⟩
    cases fuel with
    | zero => cases scanned
    | succ fuel =>
      have split : '(' :: '?' :: (letters ++ [')']) ++ rest = '(' :: '?' :: (letters ++ ')' :: rest) := by simp
      rw [split, Token.scanFrom_setting ⟨nonempty, nodup, inline⟩] at scanned
      exact ⟨fuel, scanned⟩

/-- The plain dialect reads the same pattern behind the same flags in any order. -/
theorem Tree.ofText?_perm {letters others : List Char} (switches : Switches letters) (same : letters.Perm others)
    (rest : List Char) :
    ofText? ('(' :: '?' :: (letters ++ ')' :: rest)) = ofText? ('(' :: '?' :: (others ++ ')' :: rest)) := by
  rw [ofText?, ofText?, Token.scan?, Token.scan?, Token.scanFrom_setting switches,
    Token.scanFrom_setting (switches.perm same), Modes.initial.switched_perm same]
  simp only [List.length_cons, List.length_append, same.length_eq]

/-! ## The extended dialect -/

namespace Extended

theorem skip_of_plain {modes : Modes} (quiet : modes.verbose = false) {cs : List Char} (plain : cs.head? ≠ some '(') :
    skip modes cs = some cs := by
  cases cs with
  | nil => rfl
  | cons c rest =>
    have other : c ≠ '(' := by simpa using plain
    simp [skip, skipSpace, other, quiet]

theorem readFlags_inline {letters : List Char} {modes : Modes} (quiet : modes.verbose = false)
    (inline : ∀ c ∈ letters, c ∈ Flags.inline) {start : Bool} (nonempty : letters ≠ [] ∨ start = false)
    {fuel : Nat} (enough : letters.length < fuel) (rest : List Char) :
    Scanner.readFlags fuel modes start false false (letters ++ ')' :: rest) =
      some ⟨modes.switched letters, false, rest⟩ := by
  induction letters generalizing modes start fuel with
  | nil =>
    obtain rfl : start = false := by simpa using nonempty
    obtain ⟨fuel, rfl⟩ : ∃ n, fuel = n + 1 := ⟨fuel - 1, by omega⟩
    have skipped : skip modes (')' :: rest) = some (')' :: rest) := skip_of_plain quiet (by simp)
    simp [Scanner.readFlags, skipped, Modes.switched_nil]
  | cons c letters ih =>
    obtain ⟨fuel, rfl⟩ : ∃ n, fuel = n + 1 := ⟨fuel - 1, by omega⟩
    have skipped : skip modes (c :: (letters ++ ')' :: rest)) = some (c :: (letters ++ ')' :: rest)) := by
      apply skip_of_plain quiet
      rcases mem_inline.mp (inline c List.mem_cons_self) with rfl | rfl | rfl <;> simp
    have step : Scanner.readFlags (fuel + 1) modes start false false (c :: (letters ++ ')' :: rest)) =
        (modes.switch? c true).bind fun modes =>
          Scanner.readFlags fuel modes false false false (letters ++ ')' :: rest) := by
      rw [Scanner.readFlags, skipped]
      rcases mem_inline.mp (inline c List.mem_cons_self) with rfl | rfl | rfl <;> simp
    have calm : (modes.switched [c]).verbose = false := quiet
    rw [List.cons_append, step, modes.switch?_inline (inline c List.mem_cons_self), Option.bind_some,
      ih calm (fun d member => inline d (List.mem_cons_of_mem _ member)) (.inr rfl) (by simpa using enough),
      ← Modes.switched_cons]

/-- The extended reader reads the flags as one token that matches nothing. -/
theorem Scanner.token_setting {letters : List Char} (switches : Switches letters) (bytes : Nat) (rest : List Char) :
    Scanner.initial.token bytes ('(' :: '?' :: (letters ++ ')' :: rest)) =
      some (.atom .empty, ⟨Modes.initial.switched letters, [], 0, [], true⟩, rest) := by
  obtain ⟨nonempty, _, inline⟩ := switches
  have quietly : Modes.initial.verbose = false := rfl
  have enough : letters.length < (letters ++ ')' :: rest).length + 1 := by
    rw [List.length_append]
    omega
  have read := @readFlags_inline _ _ quietly inline true (.inl nonempty) _ enough rest
  obtain ⟨c, others, rfl⟩ := List.exists_cons_of_ne_nil nonempty
  rw [List.cons_append] at read ⊢
  change Scanner.initial.openParen bytes ('?' :: c :: (others ++ ')' :: rest)) = _
  rw [Scanner.openParen, if_neg (by decide)]
  change (skip Modes.initial _).bind _ = _
  rw [skip_of_plain quietly (by simp), Option.bind_some]
  rcases mem_inline.mp (inline c List.mem_cons_self) with rfl | rfl | rfl
  all_goals
    change ((Scanner.readFlags _ Modes.initial true false false _).map _) = _
    rw [read]
    rfl

/-- A change of modes is no comment. -/
theorem skip_setting {letters : List Char} (switches : Switches letters) (rest : List Char) :
    skip .initial ('(' :: '?' :: (letters ++ ')' :: rest)) = some ('(' :: '?' :: (letters ++ ')' :: rest)) := by
  obtain ⟨c, others, rfl⟩ := List.exists_cons_of_ne_nil switches.nonempty
  rcases mem_inline.mp (switches.inline c List.mem_cons_self) with rfl | rfl | rfl <;> rfl

theorem Token.scanFrom_setting {letters : List Char} (switches : Switches letters) (bytes fuel : Nat)
    (rest : List Char) :
    scanFrom bytes (fuel + 1) .initial [] ('(' :: '?' :: (letters ++ ')' :: rest)) =
      scanFrom bytes fuel ⟨Modes.initial.switched letters, [], 0, [], true⟩ [.atom .empty] rest := by
  rw [scanFrom, show skip Scanner.initial.modes _ = _ from skip_setting switches rest, Option.bind_some]
  change (Scanner.initial.token bytes _).bind _ = _
  rw [Scanner.token_setting switches]
  rfl

/-- What was read so far, when nothing but flags was. -/
def leadTokens (flagged : Bool) : List Token := if flagged then [.atom .empty] else []

end Extended

/-- Behind the flags the extended reader goes on with at most one token read, which a quantifier
could follow. -/
theorem Leading.scanFrom_extended {front : List Char} (leading : Leading front) :
    ∃ (modes : Modes) (flagged : Bool), modes.verbose = false ∧
      ∀ bytes fuel rest tokens, Extended.Token.scanFrom bytes fuel .initial [] (front ++ rest) = some tokens →
        ∃ fuel', Extended.Token.scanFrom bytes fuel' ⟨modes, [], 0, [], flagged⟩
          (Extended.leadTokens flagged) rest = some tokens := by
  cases leading with
  | nothing => exact ⟨.initial, false, rfl, fun bytes fuel rest tokens scanned => ⟨fuel, scanned⟩⟩
  | @setting letters nonempty nodup inline =>
    refine ⟨Modes.initial.switched letters, true, rfl, fun bytes fuel rest tokens scanned => ?_⟩
    cases fuel with
    | zero => cases scanned
    | succ fuel =>
      have split : '(' :: '?' :: (letters ++ [')']) ++ rest = '(' :: '?' :: (letters ++ ')' :: rest) := by simp
      rw [split, Extended.Token.scanFrom_setting ⟨nonempty, nodup, inline⟩] at scanned
      exact ⟨fuel, scanned⟩

/-- The extended dialect reads the same pattern behind the same flags in any order. They take as many bytes, so
that numbers refer to groups as they did. -/
theorem Extended.Tree.ofText?_perm {letters others : List Char} (switches : Switches letters)
    (same : letters.Perm others) (rest : List Char) :
    ofText? ('(' :: '?' :: (letters ++ ')' :: rest)) = ofText? ('(' :: '?' :: (others ++ ')' :: rest)) := by
  have bytes : Text.byteLength ('(' :: '?' :: (letters ++ ')' :: rest)) =
      Text.byteLength ('(' :: '?' :: (others ++ ')' :: rest)) := by
    simp only [Text.byteLength, Text.byteLength_append, Text.byteLength_perm same]
  rw [ofText?, ofText?, Token.scan?, Token.scan?, bytes, Token.scanFrom_setting switches,
    Token.scanFrom_setting (switches.perm same), Modes.initial.switched_perm same]
  simp only [List.length_cons, List.length_append, same.length_eq]

end PatternComposer.Regex
