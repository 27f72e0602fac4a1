import PatternComposer.Proofs.Pattern.Dialect
import PatternComposer.Proofs.Regex.Reading
import PatternComposer.Regex.Extended.Token
import PatternComposer.Text.Escape

/-! # Texts that both dialects read alike

A list of signs is written with anchors, groups, alternatives, literal characters and repetitions
only. Its text needs no other spelling for the engine, and either dialect reads it sign by sign. Here
it is the plain one.
-/

namespace PatternComposer.Regex

inductive Sign where
  | start
  | stop
  | opening (captured : Bool)
  | closing
  | bar
  | char (c : Char)
  | times (lo hi : UInt32)

namespace Sign

/-- How a sign is written. -/
def text : Sign → List Char
  | .start => ['^']
  | .stop => ['$']
  | .opening true => ['(']
  | .opening false => ['(', '?', ':']
  | .closing => [')']
  | .bar => ['|']
  | .char c => Text.escape [c]
  | .times lo hi => '{' :: (Nat.toDigits 10 lo.toNat ++ ',' :: (Nat.toDigits 10 hi.toNat ++ ['}']))

def write (signs : List Sign) : List Char := signs.flatMap text

@[simp] theorem write_nil : write [] = [] := rfl

@[simp] theorem write_cons (sign : Sign) (signs : List Sign) : write (sign :: signs) = sign.text ++ write signs := rfl

@[simp] theorem write_append (first second : List Sign) : write (first ++ second) = write first ++ write second :=
  List.flatMap_append

/-- Characters that escaping copies although they mean something in a pattern. -/
def copied : List Char := ['\\', '[', '{', '|']

/-- The sign is read as it is meant. -/
def Faithful : Sign → Prop
  | .char c => c ∉ copied
  | .times lo hi => lo ≤ hi
  | _ => True

/-- Whether a repetition may follow, and how many groups are open, after a sign. -/
def follow (state : Bool × Nat) : Sign → Option (Bool × Nat)
  | .opening _ => if state.2 + 1 < Extended.Scanner.nestLimit then some (false, state.2 + 1) else none
  | .closing =>
    match state.2 with
    | 0 => none
    | depth + 1 => some (true, depth)
  | .bar => some (false, state.2)
  | .times _ _ => if state.1 then some (false, state.2) else none
  | _ => some (true, state.2)

/-! ## Spelling -/

theorem toEngineFrom_bare {cs : List Char} (bare : ∀ c ∈ cs, c ≠ '\\' ∧ c ≠ '[') (rest : List Char) :
    Dialect.toEngineFrom false (cs ++ rest) = cs ++ Dialect.toEngineFrom false rest := by
  induction cs with
  | nil => rfl
  | cons c cs ih =>
    obtain ⟨notBackslash, notBracket⟩ := bare c List.mem_cons_self
    rw [List.cons_append, Dialect.toEngineFrom_plain _ _ notBackslash]
    simp [notBracket, ih fun d member => bare d (List.mem_cons_of_mem _ member)]

theorem isDigit_of_mem_digits {n : Nat} : ∀ c ∈ Nat.toDigits 10 n, c.isDigit = true :=
  fun _ member => Nat.isDigit_of_mem_toDigits (by decide) (by decide) member

theorem bare_of_isDigit {c : Char} (digit : c.isDigit = true) : c ≠ '\\' ∧ c ≠ '[' := by
  constructor <;> rintro rfl <;> exact absurd digit (by decide)

theorem toEngineFrom_text {sign : Sign} (faithful : sign.Faithful) (rest : List Char) :
    Dialect.toEngineFrom false (sign.text ++ rest) = sign.text ++ Dialect.toEngineFrom false rest := by
  cases sign with
  | char c =>
    by_cases escaped : Text.isEscaped c = true
    · have plain : c ≠ '0' := by
        rintro rfl
        exact absurd escaped (by decide)
      simp [text, Text.escape, escaped, Dialect.toEngineFrom, plain]
    · simp only [text, Text.escape, escaped]
      apply toEngineFrom_bare
      intro d member
      obtain rfl := List.mem_singleton.mp member
      constructor
      · rintro rfl
        exact faithful (by decide)
      · rintro rfl
        exact faithful (by decide)
  | times lo hi =>
    apply toEngineFrom_bare
    intro c member
    simp only [text, List.mem_cons, List.mem_append, List.not_mem_nil, or_false] at member
    rcases member with rfl | member | rfl | member | rfl
    · decide
    · exact bare_of_isDigit (isDigit_of_mem_digits c member)
    · decide
    · exact bare_of_isDigit (isDigit_of_mem_digits c member)
    · decide
  | opening captured => cases captured <;> exact toEngineFrom_bare (by simp [text]) rest
  | _ => rfl

theorem toEngineFrom_write {signs : List Sign} (faithful : ∀ sign ∈ signs, sign.Faithful) (rest : List Char) :
    Dialect.toEngineFrom false (write signs ++ rest) = write signs ++ Dialect.toEngineFrom false rest := by
  induction signs with
  | nil => rfl
  | cons sign more ih =>
    rw [write_cons, List.append_assoc, toEngineFrom_text (faithful sign List.mem_cons_self),
      ih fun other member => faithful other (List.mem_cons_of_mem _ member), List.append_assoc]

/-- The engine is given the text as it was written. -/
theorem toEngine_write {signs : List Sign} (faithful : ∀ sign ∈ signs, sign.Faithful) :
    Dialect.toEngine (write signs) = write signs := by
  have spelled := toEngineFrom_write faithful []
  rwa [List.append_nil, Dialect.toEngineFrom, List.append_nil, ← Dialect.toEngine_eq] at spelled

/-! ## Reading in the plain dialect -/

/-- The plain token of a sign. -/
def token : Sign → Token
  | .start => .piece (.look .textStart) 0
  | .stop => .piece (.look .textEnd) 0
  | .opening captured => .openGroup captured
  | .closing => .closeGroup
  | .bar => .bar
  | .char c => .piece (.set (.single c)) 0
  | .times lo hi => .quantifier lo.toNat (some hi.toNat) true

/-- A scanner without switched modes and names in so many open groups. -/
def scanner (depth : Nat) : Scanner := ⟨.initial, List.replicate depth .initial, []⟩

/-- Nothing that is written begins as something that would belong to the sign before it. -/
theorem text_head (sign : Sign) : ∃ c rest, sign.text = c :: rest ∧ c ≠ '?' ∧ c ≠ '+' := by
  cases sign with
  | char c =>
    by_cases escaped : Text.isEscaped c = true
    · exact ⟨'\\', [c], by simp [text, Text.escape, escaped], by decide, by decide⟩
    · refine ⟨c, [], by simp [text, Text.escape, escaped], ?_, ?_⟩
      · rintro rfl
        exact absurd escaped (by decide)
      · rintro rfl
        exact absurd escaped (by decide)
  | opening captured => cases captured <;> exact ⟨'(', _, rfl, by decide, by decide⟩
  | start => exact ⟨'^', [], rfl, by decide, by decide⟩
  | stop => exact ⟨'$', [], rfl, by decide, by decide⟩
  | closing => exact ⟨')', [], rfl, by decide, by decide⟩
  | bar => exact ⟨'|', [], rfl, by decide, by decide⟩
  | times lo hi => exact ⟨'{', _, rfl, by decide, by decide⟩

/-- A text that begins with none of these continues neither a repetition nor an opening parenthesis. -/
def Fresh (cs : List Char) : Prop := ∀ rest, cs ≠ '?' :: rest ∧ cs ≠ '+' :: rest

theorem fresh_nil : Fresh [] := fun _ => ⟨nofun, nofun⟩

theorem fresh_text_append (sign : Sign) (rest : List Char) : Fresh (sign.text ++ rest) := by
  obtain ⟨c, after, text, notLazy, notPossessive⟩ := sign.text_head
  rw [text, List.cons_append]
  exact fun _ => ⟨fun same => notLazy (List.cons.inj same).1, fun same => notPossessive (List.cons.inj same).1⟩

theorem fresh_write_append (signs : List Sign) {rest : List Char} (fresh : Fresh rest) :
    Fresh (write signs ++ rest) := by
  cases signs with
  | nil => exact fresh
  | cons sign more =>
    rw [write_cons, List.append_assoc]
    exact sign.fresh_text_append _

/-- A parenthesis that is meant literally is escaped. -/
theorem text_char_append_ne_open (c : Char) (rest after : List Char) : (char c).text ++ rest ≠ '(' :: after := by
  intro same
  by_cases escaped : Text.isEscaped c = true
  · simp [text, Text.escape, escaped] at same
  · simp only [text, Text.escape, escaped] at same
    obtain rfl := (List.cons.inj same).1
    exact absurd (by decide) escaped

theorem bare_token {c : Char} (bare : Text.isEscaped c = false) (faithful : c ∉ copied)
    (depth : Nat) (rest : List Char) :
    (scanner depth).token (c :: rest) = some (.piece (.set (.single c)) 0, scanner depth, rest) := by
  have special : c ∉ Text.escapedChars := by
    simpa [Text.isEscaped] using bare
  simp only [Text.escapedChars, copied, List.mem_cons, List.not_mem_nil, or_false, not_or] at special faithful
  rw [Scanner.token]
  · rfl
  all_goals
    rintro rfl
    simp at special faithful

theorem escaped_token {c : Char} (escaped : Text.isEscaped c = true) (depth : Nat) (rest : List Char) :
    (scanner depth).token ('\\' :: c :: rest) = some (.piece (.set (.single c)) 0, scanner depth, rest) := by
  rcases (Text.isEscaped_iff c).mp escaped with
    rfl | rfl | rfl | rfl | rfl | rfl | rfl | rfl | rfl | rfl | rfl <;> rfl

private theorem not_blank_of_isDigit {c : Char} (digit : c.isDigit = true) :
    Unicode.blank.contains c = false := by
  simp only [Char.isDigit, Bool.and_eq_true, decide_eq_true_eq] at digit
  have low : 48 ≤ c.toNat := digit.1
  have high : c.toNat ≤ 57 := digit.2
  simp only [CharSet.contains, CharSet.hasCode, Unicode.blank, List.any_cons, List.any_nil,
    Bool.or_eq_false_iff, Bool.and_eq_false_iff, decide_eq_false_iff_not, and_true]
  omega

theorem toDigits_head (n : Nat) :
    ∃ d ds, Nat.toDigits 10 n = d :: ds ∧ d.isDigit = true := by
  obtain ⟨d, ds, split⟩ := List.exists_cons_of_ne_nil (Nat.toDigits_ne_nil (n := n) (b := 10))
  have member : d ∈ Nat.toDigits 10 n := split ▸ List.mem_cons_self
  exact ⟨d, ds, split, Nat.isDigit_of_mem_toDigits (by decide) (by decide) member⟩

theorem toDigits_append_ne (n : Nat) {c : Char} (other : c.isDigit = false) (rest after : List Char) :
    Nat.toDigits 10 n ++ rest ≠ c :: after := by
  obtain ⟨d, ds, split, digit⟩ := toDigits_head n
  intro same
  rw [split] at same
  obtain rfl := (List.cons.inj same).1
  exact absurd digit (by simp [other])

private theorem skip_initial (cs : List Char) : Modes.initial.skip cs = cs := rfl

private theorem readDigits_eq {ds : List Char} (digits : ∀ d ∈ ds, d.isDigit = true) {c : Char}
    (other : c.isDigit = false) (rest : List Char) (spare value : Nat) :
    Modes.initial.readDigits (ds.length + spare + 1) (some value) (ds ++ c :: rest) =
      (some (Nat.ofDigitChars 10 ds value), c :: rest) := by
  induction ds generalizing value with
  | nil => simp [Modes.readDigits, other]
  | cons d ds ih =>
    have digit := digits d List.mem_cons_self
    have more := ih fun e member => digits e (List.mem_cons_of_mem _ member)
    rw [Nat.ofDigitChars_cons, ← more, List.length_cons, Nat.add_right_comm ds.length, List.cons_append,
      Modes.readDigits]
    simp only [digit, ↓reduceIte]
    rfl

private theorem readCount_eq (n : UInt32) {c : Char} (other : c.isDigit = false)
    (visible : Unicode.blank.contains c = false) (rest : List Char) :
    Modes.initial.readCount (Nat.toDigits 10 n.toNat ++ c :: rest) = some (some n.toNat, c :: rest) := by
  have digits : ∀ d ∈ Nat.toDigits 10 n.toNat, d.isDigit = true := fun d member =>
    Nat.isDigit_of_mem_toDigits (by decide) (by decide) member
  obtain ⟨d, ds, split, digit⟩ := toDigits_head n.toNat
  have value : Nat.ofDigitChars 10 (d :: ds) 0 = n.toNat := by rw [← split, Nat.ofDigitChars_ten_toDigits]
  rw [split] at digits ⊢
  have more : ∀ e ∈ ds, e.isDigit = true := fun e member => digits e (List.mem_cons_of_mem _ member)
  have read := readDigits_eq more other rest rest.length (10 * 0 + (d.toNat - 48))
  rw [Nat.ofDigitChars_cons] at value
  have bounded : ¬ countLimit < n.toNat := Nat.not_lt.mpr (Nat.le_of_lt_succ n.toNat_lt)
  have first : Modes.initial.readDigits (d :: (ds ++ c :: rest)).length none (d :: (ds ++ c :: rest)) =
      (some n.toNat, c :: rest) := by
    rw [List.length_cons, List.length_append, List.length_cons, Modes.readDigits, ← value]
    simp only [digit, ↓reduceIte]
    exact read
  rw [Modes.readCount, List.cons_append, List.dropWhile_cons_of_neg (by simp [not_blank_of_isDigit digit])]
  simp only [first]
  rw [List.dropWhile_cons_of_neg (by simp [visible])]
  simp [bounded, Modes.skip, Modes.initial]

/-- A repetition with its bounds in order is read as it was written. -/
theorem times_token {lo hi : UInt32} (ordered : lo ≤ hi) (depth : Nat) {rest : List Char}
    (fresh : Fresh rest) :
    (scanner depth).token ((Sign.times lo hi).text ++ rest) =
      some (.quantifier lo.toNat (some hi.toNat) true, scanner depth, rest) := by
  have low := readCount_eq lo (c := ',') (by decide) (by decide) (Nat.toDigits 10 hi.toNat ++ '}' :: rest)
  have high := readCount_eq hi (c := '}') (by decide) (by decide) rest
  have bounds : Modes.initial.readBounds
      (Nat.toDigits 10 lo.toNat ++ ',' :: (Nat.toDigits 10 hi.toNat ++ '}' :: rest)) =
      some (lo.toNat, some hi.toNat, rest) := by
    have other := toDigits_append_ne hi.toNat (c := '}') (by decide) ('}' :: rest)
    simp only [Modes.readBounds, skip_initial, low, Option.bind_some]
    simp only [high, Option.bind_some, UInt32.le_iff_toNat_le.mp ordered, ↓reduceIte]
  have quantified : Modes.initial.quantify lo.toNat (some hi.toNat) rest =
      (.quantifier lo.toNat (some hi.toNat) true, rest) := by
    rw [Modes.quantify]
    · rfl
    · exact fun after => (fresh after).1
  have written : (Sign.times lo hi).text ++ rest =
      '{' :: (Nat.toDigits 10 lo.toNat ++ ',' :: (Nat.toDigits 10 hi.toNat ++ '}' :: rest)) := by
    simp [text]
  rw [written, Scanner.token]
  change (Modes.initial.readBounds _).map _ = _
  rw [bounds, Option.map_some]
  change some ((Modes.initial.quantify lo.toNat (some hi.toNat) rest).1, scanner depth,
    (Modes.initial.quantify lo.toNat (some hi.toNat) rest).2) = _
  rw [quantified]

/-- A sign at the front of a text is read as its token. -/
theorem reads_text {sign : Sign} (faithful : sign.Faithful) {state next : Bool × Nat}
    (follows : sign.follow state = some next) {rest : List Char} (fresh : Fresh rest) :
    Token.Reads (scanner state.2) (sign.text ++ rest) [sign.token] (scanner next.2) rest := by
  have read : (scanner state.2).token (sign.text ++ rest) = some (sign.token, scanner next.2, rest) := by
    cases sign with
    | start => cases follows; rfl
    | stop => cases follows; rfl
    | bar => cases follows; rfl
    | char c =>
      cases follows
      by_cases escaped : Text.isEscaped c = true
      · simpa [text, token, Text.escape, escaped] using escaped_token escaped state.2 rest
      · rw [Bool.not_eq_true] at escaped
        simpa [text, token, Text.escape, escaped] using bare_token escaped faithful state.2 rest
    | times lo hi =>
      simp only [follow, Option.ite_none_right_eq_some] at follows
      obtain ⟨_, same⟩ := follows
      cases same
      exact times_token faithful state.2 fresh
    | closing =>
      obtain ⟨quantifiable, depth⟩ := state
      cases depth with
      | zero => cases follows
      | succ depth => cases follows; rfl
    | opening captured =>
      simp only [follow, Option.ite_none_right_eq_some] at follows
      obtain ⟨_, same⟩ := follows
      cases same
      cases captured with
      | false => rfl
      | true =>
        change (scanner state.2).openParen rest = _
        have front : (scanner state.2).modes.skip rest = rest := rfl
        rw [Scanner.openParen, front]
        have other : ∀ after, rest ≠ '?' :: after := fun after => (fresh after).1
        split <;> simp_all [token, scanner, List.replicate_succ]
  obtain ⟨c, after, written, _, _⟩ := sign.text_head
  refine .token read ?_ .done
  rw [written, List.cons_append, List.length_cons, List.length_append]
  omega

theorem reads_write {signs : List Sign} (faithful : ∀ sign ∈ signs, sign.Faithful)
    {state last : Bool × Nat} (follows : signs.foldlM follow state = some last) {rest : List Char}
    (fresh : Fresh rest) :
    Token.Reads (scanner state.2) (write signs ++ rest) (signs.map token) (scanner last.2) rest := by
  induction signs generalizing state with
  | nil =>
    cases follows
    exact .done
  | cons sign more ih =>
    rw [List.foldlM_cons] at follows
    obtain ⟨next, followed, follows⟩ := Option.bind_eq_some_iff.mp follows
    rw [write_cons, List.append_assoc]
    apply (reads_text (faithful sign List.mem_cons_self) followed (fresh_write_append more fresh)).append
    exact ih (fun other member => faithful other (List.mem_cons_of_mem _ member)) follows

/-- The plain dialect reads what was written sign by sign. -/
theorem scan?_write {signs : List Sign} (faithful : ∀ sign ∈ signs, sign.Faithful) {quantifiable : Bool}
    (follows : signs.foldlM follow (false, 0) = some (quantifiable, 0)) :
    Token.scan? (write signs) = some (signs.map token) := by
  have reads := reads_write faithful follows fresh_nil
  rw [List.append_nil] at reads
  exact reads.scan?_eq rfl

end Sign
end PatternComposer.Regex
