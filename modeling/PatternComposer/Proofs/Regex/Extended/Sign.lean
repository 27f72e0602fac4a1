import PatternComposer.Proofs.Regex.Extended.Reading
import PatternComposer.Proofs.Regex.Sign

/-! # Signs in the extended dialect

The extended dialect reads signs as the plain one does, but numbers captured groups while it
reads.
-/

namespace PatternComposer.Regex.Extended

/-- The extended token of a sign in front of which so many groups were opened. -/
def signToken (groups : Nat) : Sign → Token
  | .start => .atom (.look .textStart)
  | .stop => .atom (.look .textEnd)
  | .opening true => .opening (.capture (groups + 1) false)
  | .opening false => .opening .plain
  | .closing => .closing
  | .bar => .bar
  | .char c => .atom (.literal c false)
  | .times lo hi => .quantifier lo.toNat (some hi.toNat) true false

/-- The number of captured groups opened up to a sign. -/
def signCount (groups : Nat) : Sign → Nat
  | .opening true => groups + 1
  | _ => groups

def signTokens (groups : Nat) : List Sign → List Token
  | [] => []
  | sign :: rest => signToken groups sign :: signTokens (signCount groups sign) rest

/-- The scanner stands where the signs read so far lead, with no modes switched. -/
structure Agrees (s : Scanner) (state : Bool × Nat) (groups : Nat) : Prop where
  modes : s.modes = .initial
  depth : s.opens.length = state.2
  restores : ∀ open_ ∈ s.opens, open_.1.getD .initial = .initial ∧ open_.2 = false
  groups : s.groups = groups
  afterAtom : s.afterAtom = state.1

theorem skip_initial {cs : List Char} (other : ∀ after, cs ≠ '(' :: '?' :: '#' :: after) :
    skip .initial cs = some cs := by
  cases cs with
  | nil => rfl
  | cons c rest =>
    rw [skip, List.length_cons, skipSpace]
    · rfl
    · rintro after rfl rfl
      exact other after rfl

/-- A number is read up to the first character that is no digit. -/
theorem readNumber_toDigits (n : UInt32) {rest : List Char} (ends : Dialect.startsWithDigit rest = false) :
    readNumber (Nat.toDigits 10 n.toNat ++ rest) = some (n.toNat, rest) := by
  have stops : rest.takeWhile Char.isDigit = [] := by
    cases rest with
    | nil => rfl
    | cons c rest => exact List.takeWhile_cons_of_neg (by simpa [Dialect.startsWithDigit] using ends)
  have taken : (Nat.toDigits 10 n.toNat ++ rest).takeWhile Char.isDigit = Nat.toDigits 10 n.toNat := by
    rw [List.takeWhile_append_of_pos Sign.isDigit_of_mem_digits, stops, List.append_nil]
  have value : (Nat.toDigits 10 n.toNat).foldl (fun n c => 10 * n + (c.toNat - 48)) 0 = n.toNat :=
    Nat.ofDigitChars_ten_toDigits
  have bounded : ¬ numberLimit < n.toNat := by
    have bound := n.toNat_lt
    rw [numberLimit]
    omega
  rw [readNumber]
  simp only [taken, value]
  simp [bounded]

theorem readNumber_eq (n : UInt32) {c : Char} (other : c.isDigit = false) (rest : List Char) :
    readNumber (Nat.toDigits 10 n.toNat ++ c :: rest) = some (n.toNat, c :: rest) :=
  readNumber_toDigits n other

/-- What was written and begins with a parenthesis is no comment. -/
theorem write_not_comment (signs : List Sign) {rest : List Char} (fresh : Sign.Fresh rest)
    (other : ∀ after, rest ≠ '(' :: '?' :: '#' :: after) :
    ∀ after, Sign.write signs ++ rest ≠ '(' :: '?' :: '#' :: after := by
  cases signs with
  | nil => exact other
  | cons sign more =>
    have fresh := Sign.fresh_write_append more fresh
    intro after same
    rw [Sign.write_cons, List.append_assoc] at same
    cases sign with
    | opening captured =>
      cases captured with
      | false => exact absurd same (by simp [Sign.text])
      | true => exact (fresh ('#' :: after)).1 (List.cons.inj same).2
    | char c => exact Sign.text_char_append_ne_open c _ _ same
    | start => cases same
    | stop => cases same
    | closing => cases same
    | bar => cases same
    | times lo hi => cases same

theorem readRepeat_eq (lo hi : UInt32) (rest : List Char) :
    readRepeat .initial (Nat.toDigits 10 lo.toNat ++ ',' :: (Nat.toDigits 10 hi.toNat ++ '}' :: rest)) =
      some (lo.toNat, some hi.toNat, rest) := by
  have low := readNumber_eq lo (c := ',') (by decide) (Nat.toDigits 10 hi.toNat ++ '}' :: rest)
  have high := readNumber_eq hi (c := '}') (by decide) rest
  have visible (n : UInt32) (more : List Char) :
      skip .initial (Nat.toDigits 10 n.toNat ++ more) = some (Nat.toDigits 10 n.toNat ++ more) :=
    skip_initial fun after => Sign.toDigits_append_ne n.toNat (by decide) more _
  have bare (c : Char) (other : c ≠ '(') (more : List Char) : skip .initial (c :: more) = some (c :: more) := by
    apply skip_initial
    rintro after same
    exact other (List.cons.inj same).1
  have other := Sign.toDigits_append_ne lo.toNat (c := ',') (by decide)
    (',' :: (Nat.toDigits 10 hi.toNat ++ '}' :: rest))
  rw [readRepeat, visible, Option.bind_some]
  split
  · next after same => exact absurd same (other after)
  · simp only [low, Option.bind_some, bare ',' (by decide), visible hi, high,
      bare '}' (by decide)]

theorem bare_token {s : Scanner} (modes : s.modes = .initial) {c : Char}
    (bare : Text.isEscaped c = false) (faithful : c ∉ Sign.copied) (bytes : Nat) (rest : List Char) :
    s.token bytes (c :: rest) = some (.atom (.literal c false), { s with afterAtom := true }, rest) := by
  have special : c ∉ Text.escapedChars := by
    simpa [Text.isEscaped] using bare
  simp only [Text.escapedChars, Sign.copied, List.mem_cons, List.not_mem_nil, or_false, not_or] at special faithful
  rw [Scanner.token]
  · rw [modes]
    rfl
  all_goals
    rintro rfl
    simp at special faithful

theorem escaped_token {s : Scanner} (modes : s.modes = .initial) {c : Char}
    (escaped : Text.isEscaped c = true) (bytes : Nat) (rest : List Char) :
    s.token bytes ('\\' :: c :: rest) =
      some (.atom (.literal c false), { s with afterAtom := true }, rest) := by
  obtain ⟨_, opens, groups, names, afterAtom⟩ := s
  obtain rfl := modes
  rcases (Text.isEscaped_iff c).mp escaped with
    rfl | rfl | rfl | rfl | rfl | rfl | rfl | rfl | rfl | rfl | rfl <;> rfl

theorem times_token {s : Scanner} (modes : s.modes = .initial) (afterAtom : s.afterAtom = true)
    (lo hi : UInt32) (bytes : Nat) {rest : List Char} (fresh : Sign.Fresh rest)
    (other : ∀ after, rest ≠ '(' :: '?' :: '#' :: after) :
    s.token bytes ((Sign.times lo hi).text ++ rest) =
      some (.quantifier lo.toNat (some hi.toNat) true false, { s with afterAtom := false }, rest) := by
  have written : (Sign.times lo hi).text ++ rest =
      '{' :: (Nat.toDigits 10 lo.toNat ++ ',' :: (Nat.toDigits 10 hi.toNat ++ '}' :: rest)) := by
    simp [Sign.text]
  have quantified : s.quantify lo.toNat (some hi.toNat) rest =
      some (.quantifier lo.toNat (some hi.toNat) true false, { s with afterAtom := false }, rest) := by
    have notLazy : ∀ after, rest ≠ '?' :: after := fun after => (fresh after).1
    have notPossessive : ∀ after, rest ≠ '+' :: after := fun after => (fresh after).2
    simp only [Scanner.quantify, afterAtom, modes, skip_initial other, Option.map_some, Bool.not_true,
      Bool.false_eq_true, ↓reduceIte]
    rfl
  rw [written, Scanner.token]
  simp only [afterAtom, ↓reduceIte, modes, readRepeat_eq, quantified]

/-- A sign at the front of a text is read as its token. -/
theorem reads_text {sign : Sign} (faithful : sign.Faithful) {state next : Bool × Nat}
    (follows : sign.follow state = some next) {s : Scanner} {groups : Nat}
    (agrees : Agrees s state groups) (bytes : Nat) {rest : List Char} (fresh : Sign.Fresh rest)
    (other : ∀ after, rest ≠ '(' :: '?' :: '#' :: after) :
    ∃ after, s.token bytes (sign.text ++ rest) = some (signToken groups sign, after, rest) ∧
      Agrees after next (signCount groups sign) := by
  obtain ⟨_, opens, _, names, _⟩ := s
  obtain ⟨modes, depth, restores, groups, afterAtom⟩ := agrees
  subst modes groups afterAtom
  cases sign with
  | start => cases follows; exact ⟨_, rfl, rfl, depth, restores, rfl, rfl⟩
  | stop => cases follows; exact ⟨_, rfl, rfl, depth, restores, rfl, rfl⟩
  | bar => cases follows; exact ⟨_, rfl, rfl, depth, restores, rfl, rfl⟩
  | char c =>
    cases follows
    refine ⟨⟨.initial, opens, _, names, true⟩, ?_, rfl, depth, restores, rfl, rfl⟩
    by_cases escaped : Text.isEscaped c = true
    · have written : (Sign.char c).text = ['\\', c] := by simp [Sign.text, Text.escape, escaped]
      rw [written]
      exact escaped_token rfl escaped bytes rest
    · rw [Bool.not_eq_true] at escaped
      have written : (Sign.char c).text = [c] := by simp [Sign.text, Text.escape, escaped]
      rw [written]
      exact bare_token rfl escaped faithful bytes rest
  | times lo hi =>
    simp only [Sign.follow, Option.ite_none_right_eq_some] at follows
    obtain ⟨afterAtom, same⟩ := follows
    cases same
    exact ⟨_, times_token rfl afterAtom lo hi bytes fresh other, rfl, depth, restores, rfl, rfl⟩
  | closing =>
    obtain ⟨quantifiable, count⟩ := state
    cases opens with
    | nil =>
      obtain rfl : 0 = count := depth
      cases follows
    | cons innermost opens =>
      obtain rfl : opens.length + 1 = count := depth
      cases follows
      obtain ⟨restored, condition⟩ := innermost
      obtain ⟨same, plain⟩ := restores _ List.mem_cons_self
      change condition = false at plain
      subst plain
      refine ⟨_, rfl, same, rfl, fun other member => ?_, rfl, rfl⟩
      exact restores other (List.mem_cons_of_mem _ member)
  | opening captured =>
    simp only [Sign.follow, Option.ite_none_right_eq_some] at follows
    obtain ⟨shallow, same⟩ := follows
    cases same
    have room : ¬ Scanner.nestLimit ≤ opens.length + 1 := by
      change opens.length = state.2 at depth
      omega
    cases captured with
    | false =>
      have front : skip .initial ('?' :: ':' :: rest) = some ('?' :: ':' :: rest) :=
        skip_initial fun _ comment => by simp at comment
      refine ⟨⟨.initial, (some .initial, false) :: opens, _, names, false⟩, ?_, rfl, ?_, ?_, rfl, rfl⟩
      · change Scanner.openParen bytes _ ('?' :: ':' :: rest) = _
        simp only [Scanner.openParen, room, ↓reduceIte, front, Option.bind_some]
        rfl
      · exact congrArg Nat.succ depth
      · intro other member
        rcases List.mem_cons.mp member with rfl | member
        · exact ⟨rfl, rfl⟩
        · exact restores other member
    | true =>
      have front : skip .initial rest = some rest := skip_initial other
      have capture : ∀ after, rest ≠ '?' :: after := fun after => (fresh after).1
      refine ⟨⟨.initial, (none, false) :: opens, _, names, false⟩, ?_, rfl, ?_, ?_, rfl, rfl⟩
      · change Scanner.openParen bytes _ rest = _
        simp only [Scanner.openParen, room, ↓reduceIte, front, Option.bind_some]
        split <;> simp_all [signToken, Scanner.opened]
      · exact congrArg Nat.succ depth
      · intro other member
        rcases List.mem_cons.mp member with rfl | member
        · exact ⟨rfl, rfl⟩
        · exact restores other member

theorem reads_write {signs : List Sign} (faithful : ∀ sign ∈ signs, sign.Faithful)
    {state last : Bool × Nat} (follows : signs.foldlM Sign.follow state = some last) {s : Scanner}
    {groups : Nat} (agrees : Agrees s state groups) (bytes : Nat) {rest : List Char} (fresh : Sign.Fresh rest)
    (other : ∀ after, rest ≠ '(' :: '?' :: '#' :: after) :
    ∃ after, Token.Reads bytes s (Sign.write signs ++ rest) (signTokens groups signs) after rest ∧
      Agrees after last (signs.foldl signCount groups) := by
  induction signs generalizing state s groups with
  | nil =>
    cases follows
    exact ⟨s, .done, agrees⟩
  | cons sign more ih =>
    rw [List.foldlM_cons] at follows
    obtain ⟨next, followed, follows⟩ := Option.bind_eq_some_iff.mp follows
    have uncommented := write_not_comment more fresh other
    obtain ⟨between, read, agrees'⟩ := reads_text (faithful sign List.mem_cons_self) followed agrees bytes
      (Sign.fresh_write_append more fresh) uncommented
    obtain ⟨after, reads, last⟩ := ih (fun other member => faithful other (List.mem_cons_of_mem _ member))
      follows agrees'
    have split : Sign.write (sign :: more) ++ rest = sign.text ++ (Sign.write more ++ rest) := by
      rw [Sign.write_cons, List.append_assoc]
    rw [split]
    refine ⟨after, .token ?_ read ?_ reads, last⟩
    · rw [agrees.modes, ← split]
      exact skip_initial (write_not_comment (sign :: more) fresh other)
    · obtain ⟨c, front, written, _, _⟩ := sign.text_head
      rw [written, List.cons_append, List.length_cons]
      exact Nat.lt_succ_of_le (List.sublist_append_right ..).length_le

/-- The extended dialect reads what was written sign by sign. -/
theorem scan?_write {signs : List Sign} (faithful : ∀ sign ∈ signs, sign.Faithful) {quantifiable : Bool}
    (follows : signs.foldlM Sign.follow (false, 0) = some (quantifiable, 0)) :
    Token.scan? (Sign.write signs) = some (signTokens 0 signs) := by
  have agrees : Agrees .initial (false, 0) 0 := ⟨rfl, rfl, fun _ member => absurd member List.not_mem_nil, rfl, rfl⟩
  obtain ⟨after, reads, last⟩ := reads_write faithful follows agrees (Text.byteLength (Sign.write signs))
    Sign.fresh_nil fun _ => nofun
  rw [List.append_nil] at reads
  exact reads.scan?_eq (List.eq_nil_of_length_eq_zero last.depth)

end PatternComposer.Regex.Extended
