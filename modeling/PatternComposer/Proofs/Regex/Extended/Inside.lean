import PatternComposer.Proofs.Regex.Ends
import PatternComposer.Proofs.Regex.Extended.Steady

/-! # Reading an extended text inside a group

The counterpart for the extended dialect: reader by reader, a text is read alike with a closing
parenthesis behind it. Blanks and comments are left out between most parts; how many characters that
takes matters to the flags of a group.
-/

namespace PatternComposer.Regex.Extended

variable {cs cs' : List Char}

/-! ## Blanks and comments -/

/-- What is left of either text, after the same number of characters if anything is left. -/
structure Cut (cs cs' rest rest' : List Char) : Prop where
  ends : Ends rest rest'
  shorter : rest.length ≤ cs.length
  same : rest = [] ∨ rest'.length + cs.length = cs'.length + rest.length

namespace Cut

variable {rest rest' : List Char} {c : Char}

theorem here (ends : Ends cs cs') : Cut cs cs' cs cs' := ⟨ends, Nat.le_refl _, .inr rfl⟩

theorem behind (cut : Cut cs cs' rest rest') : Cut (c :: cs) (c :: cs') rest rest' := by
  refine ⟨cut.ends, Nat.le_succ_of_le cut.shorter, cut.same.imp_right fun same => ?_⟩
  simp only [List.length_cons]
  omega

theorem trans {after after' : List Char} (first : Cut cs cs' rest rest') (second : Cut rest rest' after after') :
    Cut cs cs' after after' := by
  refine ⟨second.ends, Nat.le_trans second.shorter first.shorter, ?_⟩
  rcases second.same with empty | same
  · exact .inl empty
  · rcases first.same with rfl | same'
    · exact .inl (List.eq_nil_of_length_eq_zero (Nat.le_zero.mp second.shorter))
    · exact .inr (by omega)

end Cut

theorem length_skipComment {cs rest : List Char} (skipped : skipComment cs = some rest) : rest.length < cs.length := by
  fun_induction skipComment cs with
  | case1 => cases skipped
  | case2 c closed => cases skipped; simp
  | case3 c closed => cases skipped
  | case4 c d rest closed => cases skipped; simp
  | case5 c d rest closed hidden ih =>
    have := ih skipped
    simp only [List.length_cons]
    omega
  | case6 c d rest closed hidden ih =>
    have := ih skipped
    simp only [List.length_cons] at this ⊢
    omega

/-- A comment that is closed is closed alike. -/
theorem skipComment_ends (ends : Ends cs cs') :
    Lifts (fun rest rest' => Cut cs cs' rest rest') (skipComment cs) (skipComment cs') := by
  fun_induction skipComment cs generalizing cs' with
  | case1 => exact .none
  | case2 c closed =>
    obtain ⟨tail, rfl, last⟩ := ends.of_cons
    cases last with
    | nil =>
      exact fun _ found => ⟨[], by simpa [skipComment] using closed, by cases found; exact .behind (.here .nil)⟩
    | close =>
      simp only [skipComment, closed, ↓reduceIte]
      exact .some (.behind (.here .close))
  | case3 c closed => exact .none
  | case4 c d rest closed =>
    obtain ⟨_, rfl, pair⟩ := ends.of_cons
    obtain ⟨rest', rfl, tail⟩ := pair.of_cons
    simp only [skipComment, closed, ↓reduceIte]
    exact .some (.behind (.here (tail.cons d)))
  | case5 c d rest closed hidden ih =>
    obtain ⟨_, rfl, pair⟩ := ends.of_cons
    obtain ⟨rest', rfl, tail⟩ := pair.of_cons
    simp only [skipComment, closed, hidden, ↓reduceIte]
    exact (ih tail).mono fun _ _ cut => cut.behind.behind
  | case6 c d rest closed hidden ih =>
    obtain ⟨_, rfl, pair⟩ := ends.of_cons
    obtain ⟨rest', rfl, tail⟩ := pair.of_cons
    simp only [skipComment, closed, hidden]
    exact (ih pair).mono fun _ _ cut => cut.behind

/-- The parenthesis is part of the comment up to the end of a line. -/
theorem dropLine_ends (ends : Ends cs cs') :
    Cut cs cs' ((cs.dropWhile (· != '\n')).drop 1) ((cs'.dropWhile (· != '\n')).drop 1) := by
  induction ends with
  | nil => exact .here .nil
  | close => exact ⟨.nil, Nat.le_refl _, .inl rfl⟩
  | cons c rest ih =>
    rw [List.dropWhile_cons, List.dropWhile_cons]
    split
    · exact ih.behind
    · exact .behind (.here rest)

/-- A comment begins in both texts. -/
private theorem ends_of_comment {rest : List Char} (ends : Ends ('(' :: '?' :: '#' :: rest) cs') :
    ∃ rest', cs' = '(' :: '?' :: '#' :: rest' ∧ Ends rest rest' := by
  obtain ⟨_, rfl, pair⟩ := ends.of_cons
  obtain ⟨_, rfl, mark⟩ := pair.of_cons
  obtain ⟨rest', rfl, tail⟩ := mark.of_cons
  exact ⟨rest', rfl, tail⟩

/-- The parenthesis is no part of the beginning of a comment. -/
private theorem not_comment_of_ends {c : Char} {rest rest' : List Char} (tail : Ends rest rest')
    (plain : ∀ after, c :: rest ≠ '(' :: '?' :: '#' :: after) (after : List Char) :
    c :: rest' ≠ '(' :: '?' :: '#' :: after := by
  intro same
  obtain ⟨rfl, rfl⟩ := List.cons.inj same
  obtain ⟨before, rfl, _⟩ := tail.of_pair_right (by decide) (by decide)
  exact plain before rfl

theorem skipSpace_cons {c : Char} {rest : List Char} (modes : Modes) (fuel : Nat)
    (plain : ∀ after, c :: rest ≠ '(' :: '?' :: '#' :: after) :
    skipSpace modes (fuel + 1) (c :: rest) =
      if modes.verbose then
        if c == '#' then skipSpace modes fuel ((rest.dropWhile (· != '\n')).drop 1)
        else if c == ' ' || c == '\r' || c == '\n' || c == '\t' then skipSpace modes fuel rest
        else some (c :: rest)
      else some (c :: rest) := by
  rw [skipSpace]
  intro after first others
  exact plain after (by rw [first, others])

theorem skipSpace_ends (ends : Ends cs cs') (modes : Modes) {fuel fuel' : Nat} (enough : cs.length ≤ fuel)
    (more : fuel ≤ fuel') : Lifts (Cut cs cs') (skipSpace modes fuel cs) (skipSpace modes fuel' cs') := by
  induction fuel generalizing cs cs' fuel' with
  | zero =>
    obtain rfl := List.eq_nil_of_length_eq_zero (Nat.le_zero.mp enough)
    cases ends with
    | nil => cases fuel' <;> exact .some (.here .nil)
    | close =>
      cases fuel' with
      | zero => exact .some (.here .close)
      | succ fuel' => cases verbose : modes.verbose <;> simpa [skipSpace, verbose] using .some (.here .close)
  | succ fuel ih =>
    obtain ⟨fuel', rfl⟩ : ∃ n, fuel' = n + 1 := ⟨fuel' - 1, by omega⟩
    have less := Nat.le_of_succ_le_succ more
    by_cases comment : ∃ rest, cs = '(' :: '?' :: '#' :: rest
    · obtain ⟨rest, rfl⟩ := comment
      obtain ⟨rest', rfl, tail⟩ := ends_of_comment ends
      simp only [List.length_cons] at enough
      refine (skipComment_ends tail).bind fun after after' cut => ?_
      have shorter := cut.shorter
      exact (ih cut.ends (by omega) less).mono fun _ _ next => (cut.trans next).behind.behind.behind
    · cases ends with
      | nil => exact .some (.here .nil)
      | close => cases verbose : modes.verbose <;> simpa [skipSpace, verbose] using .some (.here .close)
      | @cons c rest rest' tail =>
        have plain (after : List Char) :
            c :: rest ≠ '(' :: '?' :: '#' :: after := fun same => comment ⟨after, same⟩
        have plain' := not_comment_of_ends tail plain
        rw [List.length_cons] at enough
        rw [skipSpace_cons modes fuel plain, skipSpace_cons modes fuel' plain']
        refine .ite (fun _ => .ite (fun _ => ?_) fun _ => .ite (fun _ => ?_) fun _ => ?_) fun _ => ?_
        · have cut := dropLine_ends tail
          have shorter := cut.shorter
          exact (ih cut.ends (by omega) less).mono fun _ _ next => (cut.trans next).behind
        · exact (ih tail (by omega) less).mono fun _ _ next => next.behind
        · exact .some (.here (tail.cons c))
        · exact .some (.here (tail.cons c))

theorem skip_ends (ends : Ends cs cs') (modes : Modes) : Lifts (Cut cs cs') (skip modes cs) (skip modes cs') :=
  skipSpace_ends ends modes (Nat.le_refl _) ends.length_le

/-- The parenthesis may close a comment that was left open, and then nothing follows. -/
theorem skipComment_open (ends : Ends cs cs') (unclosed : skipComment cs = none) :
    skipComment cs' = none ∨ skipComment cs' = some [] := by
  fun_induction skipComment cs generalizing cs' with
  | case1 =>
    cases ends with
    | nil => exact .inl rfl
    | close => exact .inr rfl
  | case2 => cases unclosed
  | case3 c closed =>
    obtain ⟨tail, rfl, last⟩ := ends.of_cons
    cases last with
    | nil => exact .inl (by simp [skipComment, closed])
    | close =>
      by_cases hidden : (c == '\\') = true
      · exact .inl (by simp only [skipComment, closed, hidden]; rfl)
      · exact .inr (by simp only [skipComment, closed, hidden]; rfl)
  | case4 => cases unclosed
  | case5 c d rest closed hidden ih =>
    obtain ⟨_, rfl, pair⟩ := ends.of_cons
    obtain ⟨rest', rfl, tail⟩ := pair.of_cons
    simp only [skipComment, closed, hidden, ↓reduceIte]
    exact ih tail unclosed
  | case6 c d rest closed hidden ih =>
    obtain ⟨_, rfl, pair⟩ := ends.of_cons
    obtain ⟨rest', rfl, tail⟩ := pair.of_cons
    simp only [skipComment, closed, hidden]
    exact ih pair unclosed

theorem skipSpace_open (ends : Ends cs cs') (modes : Modes) {fuel fuel' : Nat} (enough : cs.length ≤ fuel)
    (more : fuel ≤ fuel') (unclosed : skipSpace modes fuel cs = none) :
    skipSpace modes fuel' cs' = none ∨ skipSpace modes fuel' cs' = some [] := by
  induction fuel generalizing cs cs' fuel' with
  | zero => cases unclosed
  | succ fuel ih =>
    obtain ⟨fuel', rfl⟩ : ∃ n, fuel' = n + 1 := ⟨fuel' - 1, by omega⟩
    have less := Nat.le_of_succ_le_succ more
    by_cases comment : ∃ rest, cs = '(' :: '?' :: '#' :: rest
    · obtain ⟨rest, rfl⟩ := comment
      obtain ⟨rest', rfl, tail⟩ := ends_of_comment ends
      simp only [List.length_cons] at enough
      change ((skipComment rest).bind _) = none at unclosed
      change ((skipComment rest').bind _) = none ∨ ((skipComment rest').bind _) = some []
      cases found : skipComment rest with
      | none =>
        rcases skipComment_open tail found with found' | found'
        · exact .inl (by rw [found']; rfl)
        · exact .inr (by rw [found']; cases fuel' <;> rfl)
      | some after =>
        obtain ⟨after', found', cut⟩ := skipComment_ends tail after found
        have shorter := cut.shorter
        rw [found, Option.bind_some] at unclosed
        rw [found', Option.bind_some]
        exact ih cut.ends (by omega) less unclosed
    · cases ends with
      | nil => cases unclosed
      | close => cases unclosed
      | @cons c rest rest' tail =>
        have plain (after : List Char) :
            c :: rest ≠ '(' :: '?' :: '#' :: after := fun same => comment ⟨after, same⟩
        have plain' := not_comment_of_ends tail plain
        rw [List.length_cons] at enough
        rw [skipSpace_cons modes fuel plain] at unclosed
        rw [skipSpace_cons modes fuel' plain']
        have cut := dropLine_ends tail
        have shorter := cut.shorter
        split at unclosed
        · next verbose =>
          rw [if_pos verbose]
          split at unclosed
          · next mark =>
            rw [if_pos mark]
            exact ih cut.ends (by omega) less unclosed
          · next other =>
            rw [if_neg other]
            split at unclosed
            · next blank =>
              rw [if_pos blank]
              exact ih tail (by omega) less unclosed
            · cases unclosed
        · cases unclosed

/-- What needs something behind the blanks is read in either text or in none. -/
theorem skip_bind_both {α β : Type} {related : α → β → Prop} (ends : Ends cs cs') (modes : Modes)
    {next : List Char → Option α} {next' : List Char → Option β}
    (both : ∀ rest rest', Ends rest rest' → Both related (next rest) (next' rest')) (stuck : next' [] = none) :
    Both related ((skip modes cs).bind next) ((skip modes cs').bind next') := by
  cases found : skip modes cs with
  | none =>
    rcases skipSpace_open ends modes (Nat.le_refl _) ends.length_le found with found' | found'
    · rw [skip, found']
      exact .none
    · rw [skip, found', Option.bind_some, stuck]
      exact .none
  | some rest =>
    obtain ⟨rest', found', cut⟩ := skip_ends ends modes rest found
    rw [found']
    exact both rest rest' cut.ends

/-! ## Numbers and repetitions -/

theorem readNumber_ends (ends : Ends cs cs') : Both (Alike Ends) (readNumber cs) (readNumber cs') := by
  have digits := @Ends.takeWhile_eq_of_not _ _ ends Char.isDigit (by decide)
  have within : (cs.takeWhile Char.isDigit).length ≤ cs.length := (List.takeWhile_sublist _).length_le
  simp only [readNumber, digits]
  split
  · exact .none
  · exact .some ⟨rfl, ends.drop _ within⟩

private theorem readLower_ends : Ends cs cs' → Both (Alike Ends)
    (match cs with
      | ',' :: _ => some (0, cs)
      | _ => readNumber cs)
    (match cs' with
      | ',' :: _ => some (0, cs')
      | _ => readNumber cs') := by
  intro ends
  split
  · obtain ⟨rest', rfl, _⟩ := ends.of_cons
    exact .some ⟨rfl, ends⟩
  · next other =>
    split
    · obtain ⟨rest, rfl, _⟩ := ends.of_cons_right (by decide)
      exact absurd rfl (other rest)
    · exact readNumber_ends ends

private theorem readBrace_ends (ends : Ends cs cs') (modes : Modes) (lo : Nat) (hi : Option Nat) :
    Both (Alike (Alike Ends))
      ((skip modes cs).bind fun rest =>
        match rest with
        | '}' :: rest => some (lo, hi, rest)
        | _ => none)
      ((skip modes cs').bind fun rest =>
        match rest with
        | '}' :: rest => some (lo, hi, rest)
        | _ => none) := by
  refine skip_bind_both ends modes (fun rest rest' ends => ?_) rfl
  split
  · obtain ⟨after, rfl, tail⟩ := ends.of_cons
    exact .some ⟨rfl, rfl, tail⟩
  · next other =>
    split
    · obtain ⟨after, rfl, _⟩ := ends.of_cons_right (by decide)
      exact absurd rfl (other after)
    · exact .none

/-- A brace begins a repetition in either text or in none. -/
theorem readRepeat_ends (ends : Ends cs cs') (modes : Modes) :
    Both (Alike (Alike Ends)) (readRepeat modes cs) (readRepeat modes cs') := by
  refine skip_bind_both ends modes (fun front front' ends => ?_) rfl
  refine (readLower_ends ends).bind ?_
  rintro ⟨lo, rest⟩ ⟨_, rest'⟩ ⟨rfl, ends⟩
  refine skip_bind_both ends modes (fun rest rest' ends => ?_) rfl
  split
  · obtain ⟨after, rfl, tail⟩ := ends.of_cons
    exact .some ⟨rfl, rfl, tail⟩
  · obtain ⟨after, rfl, tail⟩ := ends.of_cons
    refine skip_bind_both tail modes (fun rest rest' ends => ?_) rfl
    have read := readNumber_ends ends
    generalize readNumber rest = first at read ⊢
    generalize readNumber rest' = second at read ⊢
    cases read with
    | none => exact readBrace_ends ends modes lo none
    | @some x y same =>
      obtain ⟨hi, rest⟩ := x
      obtain ⟨_, rest'⟩ := y
      obtain ⟨rfl, ends⟩ := same
      exact readBrace_ends ends modes lo (some hi)
  · next one two =>
    split
    · obtain ⟨after, rfl, _⟩ := ends.of_cons_right (by decide)
      exact absurd rfl (one after)
    · obtain ⟨after, rfl, _⟩ := ends.of_cons_right (by decide)
      exact absurd rfl (two after)
    · exact .none

/-! ## Escapes -/

/-- The parenthesis is not among the digits. -/
private theorem take_hex_iff (ends : Ends cs cs') (digits : Nat) :
    ((cs'.take digits).length = digits ∧ ((cs'.take digits).all fun c => (hexValue? c).isSome) = true) ↔
      (cs.take digits).length = digits ∧ ((cs.take digits).all fun c => (hexValue? c).isSome) = true := by
  induction ends generalizing digits with
  | nil => exact Iff.rfl
  | close =>
    have other : (hexValue? ')').isSome = false := by decide
    cases digits <;> simp [other]
  | cons c rest ih =>
    cases digits with
    | zero => simp
    | succ digits =>
      have tail := ih digits
      simp only [List.take_succ_cons, List.length_cons, List.all_cons, Bool.and_eq_true, Nat.add_right_cancel_iff]
      rw [and_left_comm, tail, and_left_comm]

theorem readHex_ends (ends : Ends cs cs') (digits : Nat) :
    Lifts (Alike Ends) (readHex digits cs) (readHex digits cs') := by
  have fixed := take_hex_iff ends digits
  simp only [readHex]
  by_cases whole : (cs.take digits).length = digits ∧ ((cs.take digits).all fun c => (hexValue? c).isSome) = true
  · have within : digits ≤ cs.length := by
      rw [← whole.1]
      exact List.length_take_le' _ _
    rw [if_pos whole, if_pos (fixed.mpr whole), ends.take_eq digits within]
    exact .map_same fun _ => ⟨rfl, ends.drop digits within⟩
  · rw [if_neg whole, if_neg fun here => whole (fixed.mp here)]
    split
    · obtain ⟨rest', rfl, tail⟩ := ends.of_cons
      have other : (hexValue? ')').isSome = false := by decide
      have name := @Ends.takeWhile_eq_of_not _ _ tail (fun c => (hexValue? c).isSome) other
      simp only [name]
      refine .ite (fun _ => .none) fun _ => ?_
      have behind := tail.drop _ (List.takeWhile_sublist fun c => (hexValue? c).isSome).length_le
      split
      · next found =>
        rw [found] at behind
        obtain ⟨after, found', tail⟩ := behind.of_cons
        simp only [found']
        exact .map_same fun _ => ⟨rfl, tail⟩
      · exact .none
    · exact .none

theorem isNameChar_close : isNameChar ')' = false := by decide +kernel

/-- A name ends alike, and a text that does not begin with one is no name. -/
theorem readName_ends (ends : Ends cs cs') (close : Char) :
    Lifts (Alike Ends) (readName close cs) (readName close cs') := by
  have name := ends.takeWhile_eq_of_not isNameChar_close
  have within : (cs.takeWhile isNameChar).length ≤ cs.length := (List.takeWhile_sublist _).length_le
  have behind := ends.drop _ within
  simp only [readName, name]
  split
  · next c rest found =>
    rw [found] at behind
    obtain ⟨after, found', tail⟩ := behind.of_cons
    simp only [found']
    exact .ite (fun _ => .some ⟨rfl, tail⟩) fun _ => .none
  · exact .none

theorem cutProperty_ends (ends : Ends cs cs') (letter : Char) :
    Lifts (Alike Ends) (cutProperty letter cs) (cutProperty letter cs') := by
  cases ends with
  | nil => exact .none
  | close => exact .none
  | cons c rest =>
    by_cases brace : c = '{'
    · subst brace
      have behind := rest.dropWhile (· != '}')
      simp only [cutProperty]
      split
      · next found =>
        have name := rest.takeWhile_eq found
        rw [found] at behind
        obtain ⟨after, found', tail⟩ := behind.of_cons
        simp only [found', name]
        exact .some ⟨rfl, tail⟩
      · exact .none
    · rw [cutProperty, cutProperty]
      · exact .some ⟨rfl, rest⟩
      · exact brace
      · exact brace

theorem readCommonEscape_ends (ends : Ends cs cs') :
    Lifts (Alike Ends) (readCommonEscape cs) (readCommonEscape cs') := by
  cases ends with
  | nil => exact .none
  | close => exact .none
  | cons c rest =>
    simp only [readCommonEscape]
    split
    iterate 6 exact .some ⟨rfl, rest⟩
    · exact .some ⟨rfl, rest⟩
    · exact .some ⟨rfl, rest⟩
    · exact (readHex_ends rest 2).rename CommonEscape.char
    · exact (readHex_ends rest 4).rename CommonEscape.char
    · exact (readHex_ends rest 8).rename CommonEscape.char
    · exact (cutProperty_ends rest 'p').rename fun text => CommonEscape.members ('\\' :: text)
    · exact (cutProperty_ends rest 'P').rename fun text => CommonEscape.members ('\\' :: text)
    · exact .some ⟨rfl, rest⟩
    · split
      · exact .some ⟨rfl, rest⟩
      · exact .ite (fun _ => .none) fun _ => .some ⟨rfl, rest⟩

/-! ## Classes -/

theorem plainClass_ends (ends : Ends cs cs') {fuel fuel' : Nat} (more : fuel ≤ fuel') (nest : Nat)
    (done : List Char) :
    Lifts (Alike Ends) (plainClass fuel nest done cs) (plainClass fuel' nest done cs') := by
  induction fuel generalizing cs cs' nest done fuel' with
  | zero => exact .none
  | succ fuel ih =>
    obtain ⟨fuel', rfl⟩ : ∃ n, fuel' = n + 1 := ⟨fuel' - 1, by omega⟩
    have less := Nat.le_of_succ_le_succ more
    cases ends with
    | nil => exact .none
    | close => exact .none
    | @cons c rest rest' tail =>
      simp only [plainClass]
      split
      · cases tail with
        | nil => exact .none
        | close => exact .none
        | cons d after =>
          by_cases backspace : d = 'b'
          · subst backspace
            exact ih after less _ _
          · simp only
            refine .ite (fun _ => ih after less _ _) fun _ => ?_
            refine (readCommonEscape_ends (after.cons d)).bind ?_
            rintro ⟨escape, rest⟩ ⟨_, rest'⟩ ⟨rfl, ends⟩
            cases escape with
            | char c => exact ih ends less _ _
            | «members» text => exact ih ends less _ _
      · exact ih tail less _ _
      · exact .ite (fun _ => .some ⟨rfl, tail⟩) fun _ => ih tail less _ _
      · exact ih tail less _ _

/-- The same class in front of either rest. -/
def SameClass (read read' : Term × List Char) : Prop :=
  ∃ s depth, read.1 = .members s depth ∧ read'.1 = .members s depth ∧ Ends read.2 read'.2

private theorem readClassText_ends {start start' : List Char × List Char} (alike : Alike Ends start start')
    (caseless : Bool) :
    Lifts SameClass
      ((plainClass (start.2.length + 1) 1 start.1 start.2).bind fun (text, rest) =>
        match Modes.readClass { Modes.initial with caseless := caseless } text with
        | some (part, []) =>
          some (Term.members part.members (if caseless then part.depth + 1 else part.depth), rest)
        | _ => none)
      ((plainClass (start'.2.length + 1) 1 start'.1 start'.2).bind fun (text, rest) =>
        match Modes.readClass { Modes.initial with caseless := caseless } text with
        | some (part, []) =>
          some (Term.members part.members (if caseless then part.depth + 1 else part.depth), rest)
        | _ => none) := by
  obtain ⟨done, cs⟩ := start
  obtain ⟨_, cs'⟩ := start'
  obtain ⟨rfl, ends⟩ := alike
  refine (plainClass_ends ends (Nat.succ_le_succ ends.length_le) 1 done).bind ?_
  rintro ⟨text, rest⟩ ⟨_, rest'⟩ ⟨rfl, ends⟩
  dsimp only
  split
  · exact .some ⟨_, _, rfl, rfl, ends⟩
  · exact .none

private theorem classStart_ends : Ends cs cs' → Alike Ends
    (match cs with
      | '^' :: ']' :: rest => ([']', '^'], rest)
      | '^' :: rest => (['^'], rest)
      | ']' :: rest => ([']'], rest)
      | cs => ([], cs))
    (match cs' with
      | '^' :: ']' :: rest => ([']', '^'], rest)
      | '^' :: rest => (['^'], rest)
      | ']' :: rest => ([']'], rest)
      | cs => ([], cs)) := by
  intro ends
  split
  · obtain ⟨_, rfl, pair⟩ := ends.of_cons
    obtain ⟨after, rfl, tail⟩ := pair.of_cons
    exact ⟨rfl, tail⟩
  · next rest other =>
    obtain ⟨rest', rfl, tail⟩ := ends.of_cons
    split
    case h_2 same => exact (List.cons.inj same).2 ▸ ⟨rfl, tail⟩
    all_goals exfalso; grind [Ends.of_cons_right]
  · obtain ⟨rest', rfl, tail⟩ := ends.of_cons
    exact ⟨rfl, tail⟩
  · split
    case h_4 => exact ⟨rfl, ends⟩
    all_goals exfalso; grind [Ends.of_cons_right, Ends.of_pair_right]

theorem readClass_ends (ends : Ends cs cs') (caseless : Bool) :
    Lifts SameClass (readClass caseless cs) (readClass caseless cs') :=
  readClassText_ends (classStart_ends ends) caseless

theorem readClass_members {caseless : Bool} {rest : List Char} {t : Term}
    (read : readClass caseless cs = some (t, rest)) : ∃ s depth, t = .members s depth := by
  obtain ⟨_, _, s, depth, same, _⟩ := readClass_ends (.refl cs) caseless _ read
  exact ⟨s, depth, same⟩

/-! ## References -/

namespace Scanner

/-- The scanner of the same text inside a first group. -/
def inside (s : Scanner) : Scanner where
  modes := s.modes
  opens := s.opens ++ [(none, false)]
  groups := s.groups + 1
  names := s.names.map fun name => (name.1, laterGroup name.2)
  afterAtom := s.afterAtom

/-- A name stands for a group in either text or in none. -/
theorem isSome_groupOf?_inside (s : Scanner) (name : List Char) :
    (s.inside.groupOf? name).isSome = (s.groupOf? name).isSome := by
  have named (names : List (List Char × Nat)) :
      (names.map fun name => (name.1, laterGroup name.2)).lookup name = (names.lookup name).map laterGroup := by
    induction names with
    | nil => rfl
    | cons first rest ih =>
      rw [List.map_cons, List.lookup_cons, List.lookup_cons, ih]
      split <;> rfl
  rw [groupOf?, groupOf?, inside, named]
  cases s.names.lookup name <;> rfl

theorem readNumbered_ends (ends : Ends cs cs') {bytes bytes' : Nat} (more : bytes ≤ bytes') :
    Lifts (Alike Ends) (readNumbered bytes cs) (readNumbered bytes' cs') := by
  refine (readNumber_ends ends).lifts.bind ?_
  rintro ⟨index, rest⟩ ⟨_, rest'⟩ ⟨rfl, ends⟩
  dsimp only
  split
  · rw [if_pos (by omega)]
    exact .some ⟨rfl, ends⟩
  · exact .none

/-- A reference is read in either text, whatever group it is to. -/
theorem readReference_ends (ends : Ends cs cs') (s : Scanner) (close : Char) :
    Lifts (fun p q => Ends p.2 q.2) (s.readReference close cs) (s.inside.readReference close cs') := by
  have name := readName_ends ends close
  rw [readReference.eq_def, readReference.eq_def]
  cases found : readName close cs with
  | some read =>
    obtain ⟨⟨_, rest'⟩, found', rfl, ends⟩ := name read found
    rw [found']
    intro x group
    obtain ⟨index, known, rfl⟩ := Option.map_eq_some_iff.mp group
    obtain ⟨other, known'⟩ : ∃ other, s.inside.groupOf? read.1 = some other := by
      rw [← Option.isSome_iff_exists, isSome_groupOf?_inside, known]
      rfl
    exact ⟨(other, rest'), by simp [known'], ends⟩
  | none =>
    cases ends with
    | nil => exact .none
    | close => exact .none
    | @cons sign rest rest' tail =>
      intro x found
      obtain ⟨⟨distance, after⟩, number, read⟩ := Option.bind_eq_some_iff.mp found
      obtain ⟨⟨_, after'⟩, number', rfl, ends⟩ := (readNumber_ends tail).lifts _ number
      dsimp only at ends read
      split at read
      · next c last =>
        obtain ⟨last', rfl, rest⟩ := ends.of_cons
        -- a sign is no part of a name
        have nameless : sign = '+' ∨ sign = '-' → readName close (sign :: rest') = none := by
          have plus : isNameChar '+' = false := by decide +kernel
          have minus : isNameChar '-' = false := by decide +kernel
          rintro (rfl | rfl) <;> simp [readName, plus, minus]
        split at read
        · cases read
        · next closes =>
          have closed : c = close := by simpa using closes
          split at read
          · next plus =>
            obtain rfl := Option.some.inj read
            obtain rfl : sign = '+' := by simpa using plus
            exact ⟨(s.groups + 1 + distance, last'), by simp [nameless, number', closed, inside], rest⟩
          · next other =>
            obtain ⟨near, same⟩ := Option.ite_none_right_eq_some.mp read
            obtain rfl := Option.some.inj same
            simp only [Bool.and_eq_true, beq_iff_eq, decide_eq_true_eq] at near
            obtain ⟨⟨rfl, near⟩, positive⟩ := near
            have near' : distance ≤ s.groups + 1 + 1 := Nat.le_succ_of_le near
            exact ⟨(s.groups + 1 + 1 - distance, last'),
              by simp [nameless, number', closed, inside, near', positive], rest⟩
      · cases read

end Scanner

/-! ## Tokens -/

/-- The token of the same text inside a first group, where references go to related groups. -/
inductive Token.Moved (refer : Nat → Nat → Prop) : Token → Token → Prop where
  | atom {t} (simple : t.movesStart = t.isKeep := by rfl) : Moved refer (.atom t) (.atom t.later)
  | reference {index other numbered} (link : refer index other) :
      Moved refer (.reference index numbered) (.reference other numbered)
  | quantifier {lo hi greedy possessive} :
      Moved refer (.quantifier lo hi greedy possessive) (.quantifier lo hi greedy possessive)
  | bar : Moved refer .bar .bar
  | plain : Moved refer (.opening .plain) (.opening .plain)
  | capture {index named} :
      Moved refer (.opening (.capture (index + 1) named)) (.opening (.capture (index + 2) named))
  | around {kind} : Moved refer (.opening (.around kind)) (.opening (.around kind))
  | atomic : Moved refer (.opening .atomic) (.opening .atomic)
  | condition : Moved refer (.opening .condition) (.opening .condition)
  | given {index other numbered} (link : refer index other) :
      Moved refer (.opening (.given index numbered)) (.opening (.given other numbered))
  | closing : Moved refer .closing .closing

theorem Token.Moved.of_quantifier {refer : Nat → Nat → Prop} {lo : Nat} {hi : Option Nat} {swapped : Bool}
    {lazily lazily' possessive possessive' : Bool} (same : lazily = lazily') (same' : possessive = possessive') :
    Moved refer (.quantifier lo hi (lazily == swapped) possessive)
      (.quantifier lo hi (lazily' == swapped) possessive') := by
  subst same same'
  exact .quantifier

namespace Scanner

/-- What was read of a text, and what is read of it inside a group. -/
def Inside (read read' : Token × Scanner × List Char) : Prop :=
  Token.Moved (fun _ _ => True) read.1 read'.1 ∧ read'.2.1 = read.2.1.inside ∧ Ends read.2.2 read'.2.2

theorem readFlags_ends (ends : Ends cs cs') {fuel fuel' : Nat} (more : fuel ≤ fuel') (modes : Modes)
    (start negated dash : Bool) :
    Lifts (fun group group' => group.modes = group'.modes ∧ group.opens = group'.opens ∧
      Ends group.rest group'.rest)
      (readFlags fuel modes start negated dash cs) (readFlags fuel' modes start negated dash cs') := by
  induction fuel generalizing cs cs' modes start negated dash fuel' with
  | zero => exact .none
  | succ fuel ih =>
    obtain ⟨fuel', rfl⟩ : ∃ n, fuel' = n + 1 := ⟨fuel' - 1, by omega⟩
    have less := Nat.le_of_succ_le_succ more
    refine (skip_ends ends modes).bind fun after after' cut => ?_
    obtain ⟨inner, _, same⟩ := cut
    cases inner with
    | nil => exact .none
    | close => exact .none
    | @cons c rest rest' tail =>
      have spaced : decide ((c :: rest').length < cs'.length) = decide ((c :: rest).length < cs.length) := by
        rcases same with empty | same
        · cases empty
        · rw [decide_eq_decide]
          omega
      rw [spaced]
      dsimp only
      refine .ite (fun _ => ?_) fun _ => .ite (fun _ => ?_) fun _ => .ite (fun _ => ?_) fun _ =>
        .ite (fun _ => ?_) fun _ => .ite (fun _ => .none) fun _ => ?_
      · exact .ite (fun _ => .none) fun _ => .some ⟨rfl, rfl, tail⟩
      · exact .ite (fun _ => .none) fun _ => .some ⟨rfl, rfl, tail⟩
      · exact .ite (fun _ => .none) fun _ => ih tail less _ _ _ _
      · exact .ite (fun _ => .none) fun _ => ih tail less _ _ _ _
      · exact .bind_same fun _ _ => ih tail less _ _ _ _

theorem openNamed_ends (ends : Ends cs cs') (s : Scanner) :
    Lifts Inside (s.openNamed cs) (s.inside.openNamed cs') := by
  refine (readName_ends ends '>').map ?_
  rintro ⟨name, rest⟩ ⟨_, rest'⟩ ⟨rfl, ends⟩
  exact ⟨.capture, rfl, ends⟩

theorem openGiven_ends (s : Scanner) (numbered : Bool) {read read' : Option (Nat × List Char)}
    (lifts : Lifts (fun p q => Ends p.2 q.2) read read') :
    Lifts Inside (s.openGiven numbered read) (s.inside.openGiven numbered read') := by
  refine lifts.bind ?_
  rintro ⟨index, rest⟩ ⟨other, rest'⟩ ends
  refine (skip_ends ends s.modes).bind fun after after' cut => ?_
  have inner := cut.ends
  split
  · obtain ⟨last, rfl, tail⟩ := inner.of_cons
    exact .some ⟨.given trivial, rfl, tail⟩
  · exact .none

theorem closeParen_ends (ends : Ends cs cs') (s : Scanner) :
    Lifts Inside (s.closeParen cs) (s.inside.closeParen cs') := by
  simp only [closeParen]
  split
  · exact .none
  · next restored condition opens same =>
    simp only [inside, same, List.cons_append]
    exact .ite (fun _ => .some ⟨.closing, rfl, ends⟩) fun _ => .some ⟨.closing, rfl, ends⟩

private theorem lazily_ends : Ends cs cs' → Alike Ends
    (match cs with
      | '?' :: rest => (true, rest)
      | rest => (false, rest))
    (match cs' with
      | '?' :: rest => (true, rest)
      | rest => (false, rest)) := by
  intro ends
  split
  · obtain ⟨rest', rfl, tail⟩ := ends.of_cons
    exact ⟨rfl, tail⟩
  · next other =>
    split
    · obtain ⟨rest, rfl, _⟩ := ends.of_cons_right (by decide)
      exact absurd rfl (other rest)
    · exact ⟨rfl, ends⟩

private theorem possessive_ends : Ends cs cs' → Alike Ends
    (match cs with
      | '+' :: rest => (true, rest)
      | rest => (false, rest))
    (match cs' with
      | '+' :: rest => (true, rest)
      | rest => (false, rest)) := by
  intro ends
  split
  · obtain ⟨rest', rfl, tail⟩ := ends.of_cons
    exact ⟨rfl, tail⟩
  · next other =>
    split
    · obtain ⟨rest, rfl, _⟩ := ends.of_cons_right (by decide)
      exact absurd rfl (other rest)
    · exact ⟨rfl, ends⟩

theorem quantify_ends (ends : Ends cs cs') (s : Scanner) (lo : Nat) (hi : Option Nat) :
    Lifts Inside (s.quantify lo hi cs) (s.inside.quantify lo hi cs') := by
  refine .ite (fun _ => .none) fun _ => (skip_ends ends s.modes).map fun after after' cut => ?_
  obtain ⟨same, ends⟩ := lazily_ends cut.ends
  obtain ⟨same', ends⟩ := possessive_ends ends
  exact ⟨.of_quantifier same same', rfl, ends⟩

/-- Flags open a group or stand by themselves. -/
private theorem openFlags_ends {rest rest' : List Char} (ends : Ends rest rest') (s : Scanner) :
    Lifts Inside
      ((readFlags (rest.length + 1) s.modes true false false rest).map fun group =>
        if group.opens then
          (.opening .plain, { s.opened (some s.modes) false with modes := group.modes }, group.rest)
        else (.atom .empty, { s with modes := group.modes, afterAtom := true }, group.rest))
      ((readFlags (rest'.length + 1) s.inside.modes true false false rest').map fun group =>
        if group.opens then
          (.opening .plain, { s.inside.opened (some s.inside.modes) false with modes := group.modes }, group.rest)
        else (.atom .empty, { s.inside with modes := group.modes, afterAtom := true }, group.rest)) := by
  refine (readFlags_ends ends (Nat.succ_le_succ ends.length_le) s.modes true false false).map ?_
  rintro ⟨modes, opens, rest⟩ ⟨_, _, rest'⟩ ⟨rfl, rfl, ends⟩
  cases opens with
  | true => exact ⟨.plain, rfl, ends⟩
  | false => exact ⟨.atom, rfl, ends⟩

/-- A condition is the number of a group or something to be matched. -/
private theorem openCondition_ends {c : Char} {rest rest' : List Char} (ends : Ends rest rest') (s : Scanner)
    {bytes bytes' : Nat} (more : bytes ≤ bytes') :
    Lifts Inside
      (if c.isDigit then s.openGiven true (readNumbered bytes (c :: rest))
        else some (.opening .condition, s.opened none true, c :: rest))
      (if c.isDigit then s.inside.openGiven true (readNumbered bytes' (c :: rest'))
        else some (.opening .condition, s.inside.opened none true, c :: rest')) := by
  refine .ite (fun _ => ?_) fun _ => .some ⟨.condition, rfl, ends.cons c⟩
  exact openGiven_ends s true ((readNumbered_ends (ends.cons c) more).mono fun _ _ same => same.2)

/-- A parenthesis opens the same, unless parentheses nest too deep. -/
theorem openParen_ends (ends : Ends cs cs') (s : Scanner) {bytes bytes' : Nat} (more : bytes ≤ bytes')
    (room : s.opens.length + 2 < nestLimit) :
    Lifts Inside (s.openParen bytes cs) (s.inside.openParen bytes' cs') := by
  have room' : ¬ nestLimit ≤ s.inside.opens.length + 1 := by
    rw [Scanner.inside, List.length_append, List.length_singleton]
    omega
  rw [openParen.eq_def, openParen.eq_def, if_neg (by omega), if_neg room']
  refine (skip_ends ends s.modes).bind fun front front' cut => ?_
  have inner := cut.ends
  clear cut
  split
  case h_13 =>
    split
    case h_13 => exact .some ⟨.capture, rfl, inner⟩
    all_goals exfalso; grind [Ends.of_cons_right, Ends.of_pair_right]
  case h_12 rest _ _ _ _ _ _ _ _ _ _ _ =>
    obtain ⟨rest', rfl, tail⟩ := inner.of_cons
    split
    case h_12 same =>
      obtain ⟨_, rfl⟩ := List.cons.inj same
      exact openFlags_ends tail s
    case h_11 c after _ _ same =>
      -- only a text that ends in a parenthesis can lack the character behind it
      obtain ⟨_, rfl⟩ := List.cons.inj same
      obtain ⟨alone, rfl, last⟩ := tail.of_cons_right (by decide)
      cases last with
      | close =>
        have refused : readFlags (['('].length + 1) s.modes true false false ['('] = none := by
          cases verbose : s.modes.verbose <;> simp [readFlags, skip, skipSpace, verbose, Modes.switch?]
        rw [refused]
        exact .none
      | cons => exfalso; grind
    all_goals exfalso; grind [Ends.of_cons_right, Ends.of_pair_right]
  case h_11 c rest _ _ =>
    obtain ⟨after, rfl, tail⟩ : ∃ after, front' = '?' :: '(' :: c :: after ∧ Ends rest after := by
      grind [Ends.of_cons]
    intro x found
    have opened := openCondition_ends tail s more x found
    split
    case h_11 same =>
      simp only [List.cons.injEq, true_and] at same
      obtain ⟨rfl, rfl⟩ := same
      exact opened
    all_goals exfalso; grind
  case h_5 rest _ _ =>
    obtain ⟨after, rfl, tail⟩ : ∃ after, front' = '?' :: '<' :: after ∧ Ends rest after := by
      grind [Ends.of_cons]
    intro x found
    have named := openNamed_ends tail s x found
    split
    case h_5 same =>
      simp only [List.cons.injEq, true_and] at same
      obtain rfl := same
      exact named
    all_goals exfalso; grind [Ends.of_cons_right]
  case h_1 rest =>
    obtain ⟨after, rfl, tail⟩ : ∃ after, front' = '?' :: '=' :: after ∧
        Ends rest after := by grind [Ends.of_cons]
    exact .some ⟨.around, rfl, tail⟩
  case h_2 rest =>
    obtain ⟨after, rfl, tail⟩ : ∃ after, front' = '?' :: '!' :: after ∧
        Ends rest after := by grind [Ends.of_cons]
    exact .some ⟨.around, rfl, tail⟩
  case h_3 rest =>
    obtain ⟨after, rfl, tail⟩ : ∃ after, front' = '?' :: '<' :: '=' :: after ∧ Ends rest after := by
      grind [Ends.of_cons]
    exact .some ⟨.around, rfl, tail⟩
  case h_4 rest =>
    obtain ⟨after, rfl, tail⟩ : ∃ after, front' = '?' :: '<' :: '!' :: after ∧ Ends rest after := by
      grind [Ends.of_cons]
    exact .some ⟨.around, rfl, tail⟩
  case h_6 rest =>
    obtain ⟨after, rfl, tail⟩ : ∃ after, front' = '?' :: 'P' :: '<' :: after ∧ Ends rest after := by
      grind [Ends.of_cons]
    exact openNamed_ends tail s
  case h_7 rest =>
    obtain ⟨after, rfl, tail⟩ : ∃ after, front' = '?' :: 'P' :: '=' :: after ∧ Ends rest after := by
      grind [Ends.of_cons]
    exact (readReference_ends tail s ')').map fun _ _ ends => ⟨.reference trivial, rfl, ends⟩
  case h_8 rest =>
    obtain ⟨after, rfl, tail⟩ : ∃ after, front' = '?' :: '>' :: after ∧
        Ends rest after := by grind [Ends.of_cons]
    exact .some ⟨.atomic, rfl, tail⟩
  case h_9 rest =>
    obtain ⟨after, rfl, tail⟩ : ∃ after, front' = '?' :: '(' :: '\'' :: after ∧ Ends rest after := by
      grind [Ends.of_cons]
    exact openGiven_ends s false (readReference_ends tail s '\'')
  case h_10 rest =>
    obtain ⟨after, rfl, tail⟩ : ∃ after, front' = '?' :: '(' :: '<' :: after ∧ Ends rest after := by
      grind [Ends.of_cons]
    exact openGiven_ends s false (readReference_ends tail s '>')

theorem readEscape_ends (ends : Ends cs cs') (s : Scanner) {bytes bytes' : Nat} (more : bytes ≤ bytes') :
    Lifts (fun p q => Token.Moved (fun _ _ => True) p.1 q.1 ∧ Ends p.2 q.2)
      (s.readEscape bytes cs) (s.inside.readEscape bytes' cs') := by
  rw [readEscape.eq_def, readEscape.eq_def]
  have referred {rest rest' : List Char} (ends : Ends rest rest') (close : Char) :
      Lifts (fun p q => Token.Moved (fun _ _ => True) p.1 q.1 ∧ Ends p.2 q.2)
        ((s.readReference close rest).map fun read => (Token.reference read.1 false, read.2))
        ((s.inside.readReference close rest').map fun read => (Token.reference read.1 false, read.2)) :=
    (readReference_ends ends s close).map fun _ _ ends => ⟨.reference trivial, ends⟩
  split
  · obtain ⟨_, rfl, pair⟩ := ends.of_cons
    obtain ⟨after, rfl, tail⟩ := pair.of_cons
    exact referred tail '\''
  · obtain ⟨_, rfl, pair⟩ := ends.of_cons
    obtain ⟨after, rfl, tail⟩ := pair.of_cons
    exact referred tail '>'
  · obtain ⟨after, rfl, tail⟩ := ends.of_cons
    exact .some ⟨.atom, tail⟩
  · obtain ⟨after, rfl, tail⟩ := ends.of_cons
    exact .some ⟨.atom, tail⟩
  · exact .none
  · exact .none
  · next rest other =>
    obtain ⟨after, rfl, tail⟩ := ends.of_cons
    split
    case h_7 same =>
      obtain ⟨_, rfl⟩ := List.cons.inj same
      exact .some ⟨.atom, tail⟩
    all_goals exfalso; grind [Ends.of_cons_right]
  · next rest other =>
    obtain ⟨after, rfl, tail⟩ := ends.of_cons
    split
    case h_8 same =>
      obtain ⟨_, rfl⟩ := List.cons.inj same
      exact .some ⟨.atom, tail⟩
    all_goals exfalso; grind [Ends.of_cons_right]
  · obtain ⟨after, rfl, tail⟩ := ends.of_cons
    exact .some ⟨.atom, tail⟩
  · obtain ⟨after, rfl, tail⟩ := ends.of_cons
    exact .some ⟨.atom, tail⟩
  · obtain ⟨after, rfl, tail⟩ := ends.of_cons
    exact .some ⟨.atom, tail⟩
  · obtain ⟨after, rfl, tail⟩ := ends.of_cons
    exact .some ⟨.atom, tail⟩
  · next c rest _ _ _ _ _ _ _ _ _ _ _ _ =>
    obtain ⟨after, rfl, tail⟩ := ends.of_cons
    have numbered : Lifts (fun p q => Token.Moved (fun _ _ => True) p.1 q.1 ∧ Ends p.2 q.2)
        ((readNumbered bytes (c :: rest)).map fun read => (Token.reference read.1 true, read.2))
        ((readNumbered bytes' (c :: after)).map fun read => (Token.reference read.1 true, read.2)) :=
      (readNumbered_ends (tail.cons c) more).map fun _ _ same => ⟨.reference trivial, same.2⟩
    have common := readCommonEscape_ends (tail.cons c)
    intro x found
    split
    case h_13 same =>
      obtain ⟨rfl, rfl⟩ := List.cons.inj same
      revert x
      refine Lifts.ite (fun _ => numbered) fun _ => common.bind ?_
      rintro ⟨escape, rest⟩ ⟨_, rest'⟩ ⟨rfl, ends⟩
      dsimp only at ends ⊢
      split
      · exact .some ⟨.atom, ends⟩
      · split
        · exact .map_same fun _ => ⟨.atom, ends⟩
        · intro x found
          obtain ⟨⟨t, _⟩, read, rfl⟩ := Option.map_eq_some_iff.mp found
          obtain ⟨members, depth, rfl⟩ := readClass_members read
          exact ⟨_, by rw [read]; rfl, .atom (t := .members members depth), ends⟩
        · exact .none
    all_goals exfalso; grind [Ends.of_cons_right]
  · exact .none

theorem token_ends (ends : Ends cs cs') (s : Scanner) {bytes bytes' : Nat} (more : bytes ≤ bytes')
    (room : s.opens.length + 2 < nestLimit ∨ cs.head? ≠ some '(') :
    Lifts Inside (s.token bytes cs) (s.inside.token bytes' cs') := by
  cases ends with
  | nil => exact .none
  | close => exact .none
  | @cons c rest rest' tail =>
    simp only [token]
    split
    · exact .some ⟨.atom, rfl, tail⟩
    · exact .some ⟨.atom, rfl, tail⟩
    · exact .some ⟨.atom, rfl, tail⟩
    · exact openParen_ends tail s more (room.resolve_right (by simp))
    · exact closeParen_ends tail s
    · exact .some ⟨.bar, rfl, tail⟩
    · refine (readEscape_ends tail s more).map ?_
      rintro ⟨token, rest⟩ ⟨token', rest'⟩ ⟨moved, ends⟩
      exact ⟨moved, rfl, ends⟩
    · refine (readClass_ends tail s.modes.caseless).bind ?_
      rintro ⟨term, rest⟩ ⟨term', rest'⟩ ⟨members, depth, rfl, rfl, ends⟩
      exact .some ⟨.atom, rfl, ends⟩
    · exact quantify_ends tail s 0 (some 1)
    · exact quantify_ends tail s 0 none
    · exact quantify_ends tail s 1 none
    · have read : Both (Alike (Alike Ends)) (if s.afterAtom then readRepeat s.modes rest else none)
          (if s.inside.afterAtom then readRepeat s.inside.modes rest' else none) := by
        change Both _ (if s.afterAtom then _ else _) (if s.afterAtom then _ else _)
        split
        · exact readRepeat_ends tail s.modes
        · exact .none
      generalize (if s.afterAtom then readRepeat s.modes rest else none) = first at read ⊢
      generalize (if s.inside.afterAtom then readRepeat s.inside.modes rest' else none) = second at read ⊢
      cases read with
      | none => exact .some ⟨.atom, rfl, tail⟩
      | @some x y same =>
        obtain ⟨lo, hi, rest⟩ := x
        obtain ⟨_, _, rest'⟩ := y
        obtain ⟨rfl, rfl, ends⟩ := same
        exact quantify_ends ends s lo hi
    · exact .some ⟨.atom, rfl, tail⟩

end Scanner

/-- A parenthesis that was opened inside the group leaves room for it outside. -/
theorem Scanner.room_of_openParen {s : Scanner} {bytes : Nat} {read : Token × Scanner × List Char}
    (opened : s.inside.openParen bytes cs = some read) : s.opens.length + 2 < Scanner.nestLimit := by
  rw [Scanner.openParen.eq_def] at opened
  split at opened
  · cases opened
  · next room =>
    rw [Scanner.inside, List.length_append, List.length_singleton] at room
    omega

/-- The text inside a group has the same tokens up to references, and then the one that closes the
group. -/
theorem scanFrom_ends (ends : Ends cs cs') {bytes bytes' : Nat} (more : bytes ≤ bytes') {fuel fuel' : Nat}
    {s : Scanner} {done done' tokens tokens' : List Token}
    (scanned : Token.scanFrom bytes fuel s done cs = some tokens)
    (scanned' : Token.scanFrom bytes' fuel' s.inside done' cs' = some tokens') :
    ∃ pairs : List (Token × Token), (∀ pair ∈ pairs, Token.Moved (fun _ _ => True) pair.1 pair.2) ∧
      tokens = pairs.map Prod.fst ++ done ∧ tokens' = .closing :: (pairs.map Prod.snd ++ done') := by
  induction fuel generalizing cs cs' fuel' s done done' with
  | zero => cases scanned
  | succ fuel ih =>
    cases fuel' with
    | zero => cases scanned'
    | succ fuel' =>
      rw [Token.scanFrom] at scanned scanned'
      obtain ⟨front, skipped, scanned⟩ := Option.bind_eq_some_iff.mp scanned
      obtain ⟨front', skipped', cut⟩ := skip_ends ends s.modes front skipped
      change (skip s.modes cs').bind _ = _ at scanned'
      rw [skipped', Option.bind_some] at scanned'
      have inner := cut.ends
      cases inner with
      | nil => simp [Scanner.inside] at scanned'
      | close =>
        -- the text is over, and the parenthesis closes the group
        simp only [List.isEmpty_nil, ↓reduceIte, Option.ite_none_right_eq_some, List.isEmpty_iff] at scanned
        obtain ⟨closed, same⟩ := scanned
        obtain rfl := Option.some.inj same
        have last : s.inside.token bytes' [')'] =
            some (.closing, { s.inside with opens := [], afterAtom := true }, []) := by
          simp [Scanner.token, Scanner.closeParen, Scanner.inside, closed]
        simp only [List.isEmpty_cons, Bool.false_eq_true, ↓reduceIte, last, Option.bind_some] at scanned'
        cases fuel' with
        | zero => cases scanned'
        | succ fuel' => exact ⟨[], by simp, rfl, (Option.some.inj scanned').symm⟩
      | @cons c rest rest' tail =>
        simp only [List.isEmpty_cons, Bool.false_eq_true, ↓reduceIte] at scanned scanned'
        obtain ⟨⟨token, next, after⟩, read, scanned⟩ := Option.bind_eq_some_iff.mp scanned
        obtain ⟨read'', again, scanned'⟩ := Option.bind_eq_some_iff.mp scanned'
        have room : s.opens.length + 2 < Scanner.nestLimit ∨ (c :: rest).head? ≠ some '(' := by
          by_cases opening : c = '('
          · subst opening
            exact .inl (Scanner.room_of_openParen again)
          · exact .inr (by simpa using opening)
        obtain ⟨⟨token', _, after'⟩, read', moved, rfl, ends⟩ :=
          Scanner.token_ends (tail.cons c) s more room _ read
        obtain rfl := Option.some.inj (read'.symm.trans again)
        obtain ⟨pairs, all, rfl, rfl⟩ := ih ends scanned scanned'
        refine ⟨pairs ++ [(token, token')], ?_, by simp, by simp⟩
        intro pair member
        rcases List.mem_append.mp member with member | member
        · exact all pair member
        · obtain rfl := List.mem_singleton.mp member
          exact moved

end PatternComposer.Regex.Extended
