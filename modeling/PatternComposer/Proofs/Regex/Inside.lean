import PatternComposer.Proofs.Regex.Ends
import PatternComposer.Proofs.Regex.Later

/-! # Reading inside a group

Whatever the plain dialect reads, it reads alike with a closing parenthesis behind the text, reader by
reader.
-/

namespace PatternComposer.Regex

variable {cs cs' : List Char}

theorem length_skipBlanks_le (inComment : Bool) (cs : List Char) : (skipBlanks inComment cs).length ≤ cs.length := by
  induction cs generalizing inComment with
  | nil => exact Nat.le_refl _
  | cons c rest ih =>
    rw [skipBlanks, List.length_cons]
    split
    · exact Nat.le_succ_of_le (ih _)
    · split
      · exact Nat.le_succ_of_le (ih _)
      · split
        · exact Nat.le_succ_of_le (ih _)
        · exact Nat.le_refl _

theorem Modes.length_skip_le (modes : Modes) (cs : List Char) : (modes.skip cs).length ≤ cs.length := by
  rw [skip]
  split
  · exact length_skipBlanks_le false cs
  · exact Nat.le_refl _

namespace Ends

/-! ## Flags and repetitions -/

theorem readFlags (ends : Ends cs cs') (modes : Modes) (seen : List Char) (negated dangling : Bool) :
    Lifts (fun group group' => group.modes = group'.modes ∧ group.opens = group'.opens ∧
      Ends group.rest group'.rest)
      (Regex.readFlags modes seen negated dangling cs) (Regex.readFlags modes seen negated dangling cs') := by
  induction ends generalizing modes seen negated dangling with
  | nil => exact .none
  | close => exact .none
  | cons c rest ih =>
    simp only [Regex.readFlags]
    refine .ite (fun _ => ?_) fun _ => .ite (fun _ => ?_) fun _ => .ite (fun _ => ?_) fun _ => ?_
    · exact .ite (fun _ => .none) fun _ => .some ⟨rfl, rfl, rest⟩
    · exact .ite (fun _ => .none) fun _ => .some ⟨rfl, rfl, rest⟩
    · exact .ite (fun _ => .none) fun _ => ih _ _ _ _
    · exact .ite (fun _ => .none) fun _ => .bind_same fun _ _ => ih _ _ _ _

theorem readDigits (ends : Ends cs cs') (modes : Modes) {fuel fuel' : Nat} (enough : cs.length ≤ fuel)
    (more : fuel ≤ fuel') (value : Option Nat) :
    Alike Ends (modes.readDigits fuel value cs) (modes.readDigits fuel' value cs') := by
  induction fuel generalizing fuel' value cs cs' with
  | zero =>
    obtain rfl := List.eq_nil_of_length_eq_zero (Nat.le_zero.mp enough)
    cases ends with
    | nil => cases fuel' <;> exact ⟨rfl, .nil⟩
    | close => cases fuel' <;> exact ⟨rfl, .close⟩
  | succ fuel ih =>
    obtain ⟨fuel', rfl⟩ : ∃ n, fuel' = n + 1 := ⟨fuel' - 1, by omega⟩
    cases ends with
    | nil => exact ⟨rfl, .nil⟩
    | close => exact ⟨rfl, .close⟩
    | cons c rest =>
      simp only [Modes.readDigits]
      split
      · have shorter := Nat.le_trans (modes.length_skip_le _) (Nat.le_of_succ_le_succ enough)
        exact ih (rest.skip modes) shorter (by omega) _
      · exact ⟨rfl, .cons c rest⟩

theorem readCount (ends : Ends cs cs') (modes : Modes) :
    Lifts (Alike Ends) (modes.readCount cs) (modes.readCount cs') := by
  have trimmed := ends.dropWhile Unicode.blank.contains
  obtain ⟨same, rest⟩ := trimmed.readDigits modes (Nat.le_refl _) trimmed.length_le none
  simp only [Modes.readCount]
  rw [same]
  exact .ite (fun _ => .none) fun _ => .some ⟨rfl, (rest.dropWhile _).skip modes⟩

theorem readBounds (ends : Ends cs cs') (modes : Modes) :
    Lifts (Alike (Alike Ends)) (modes.readBounds cs) (modes.readBounds cs') := by
  refine ((ends.skip modes).readCount modes).bind ?_
  rintro ⟨lo, rest⟩ ⟨_, rest'⟩ ⟨rfl, ends⟩
  refine .bind_same fun lo _ => ?_
  dsimp only at ends ⊢
  split
  · obtain ⟨after, rfl, tail⟩ := ends.of_cons
    exact .some ⟨rfl, rfl, tail.skip modes⟩
  · obtain ⟨after, rfl, tail⟩ := ends.of_cons
    have inner := tail.skip modes
    simp only
    split
    · next found =>
      rw [found] at inner
      obtain ⟨after, found', tail⟩ := inner.of_cons
      simp only [found']
      exact .some ⟨rfl, rfl, tail.skip modes⟩
    · next other =>
      split
      · next found' =>
        rw [found'] at inner
        obtain ⟨after, found, _⟩ := inner.of_cons_right (by decide)
        exact absurd found (other after)
      · refine (inner.readCount modes).bind ?_
        rintro ⟨hi, rest⟩ ⟨_, rest'⟩ ⟨rfl, ends⟩
        refine .bind_same fun hi _ => ?_
        dsimp only at ends ⊢
        split
        · obtain ⟨after, rfl, tail⟩ := ends.of_cons
          exact .ite (fun _ => .some ⟨rfl, rfl, tail.skip modes⟩) fun _ => .none
        · exact .none
  · exact .none

/-! ## Escapes -/

theorem readHexRun (ends : Ends cs cs') (modes : Modes) (count value : Nat) :
    Lifts (Alike Ends) (modes.readHexRun count value cs) (modes.readHexRun count value cs') := by
  induction count generalizing cs cs' value with
  | zero => exact .some ⟨rfl, ends⟩
  | succ count ih =>
    cases ends with
    | nil => exact .none
    | close => exact .none
    | cons c rest => exact .bind_same fun digit _ => ih (rest.skip modes) _

theorem readHexBraced (ends : Ends cs cs') (modes : Modes) {fuel fuel' : Nat} (more : fuel ≤ fuel')
    (value : Option Nat) :
    Lifts (Alike Ends) (modes.readHexBraced fuel value cs) (modes.readHexBraced fuel' value cs') := by
  induction fuel generalizing cs cs' value fuel' with
  | zero => exact .none
  | succ fuel ih =>
    obtain ⟨fuel', rfl⟩ : ∃ n, fuel' = n + 1 := ⟨fuel' - 1, by omega⟩
    cases ends with
    | nil => exact .none
    | close => exact .none
    | cons c rest =>
      refine .ite (fun _ => .map_same fun _ => ⟨rfl, rest.skip modes⟩) fun _ => .bind_same fun digit _ => ?_
      exact ih (rest.skip modes) (Nat.le_of_succ_le_succ more) _

theorem readHex (ends : Ends cs cs') (modes : Modes) (digits : Nat) :
    Lifts (Alike Ends) (modes.readHex digits cs) (modes.readHex digits cs') := by
  have inner := ends.skip modes
  rw [Modes.readHex, Modes.readHex]
  split
  · exact .none
  · next found =>
    rw [found] at inner
    obtain ⟨after, found', ends⟩ := inner.of_cons
    rw [found']
    refine ((ends.skip modes).readHexBraced modes ends.length_le none).bind ?_
    rintro ⟨code, rest⟩ ⟨_, rest'⟩ ⟨rfl, ends⟩
    exact .map_same fun _ => ⟨rfl, ends⟩
  · next other nonempty =>
    split
    · next found' =>
      rw [found'] at inner
      exact absurd inner.eq_nil_of_right other
    · next found' =>
      rw [found'] at inner
      obtain ⟨after, found, _⟩ := inner.of_cons_right (by decide)
      exact absurd found (nonempty after)
    · refine (inner.readHexRun modes digits 0).bind ?_
      rintro ⟨code, rest⟩ ⟨_, rest'⟩ ⟨rfl, ends⟩
      exact .ite (fun _ => .none) fun _ => .map_same fun _ => ⟨rfl, ends⟩

theorem readBraced (ends : Ends cs cs') (modes : Modes) {fuel fuel' : Nat} (more : fuel ≤ fuel')
    (name : List Char) :
    Lifts (Alike Ends) (modes.readBraced fuel name cs) (modes.readBraced fuel' name cs') := by
  induction fuel generalizing cs cs' name fuel' with
  | zero => exact .none
  | succ fuel ih =>
    obtain ⟨fuel', rfl⟩ : ∃ n, fuel' = n + 1 := ⟨fuel' - 1, by omega⟩
    cases ends with
    | nil => exact .none
    | close => exact .none
    | cons c rest =>
      refine .ite (fun _ => .some ⟨rfl, rest⟩) fun _ => ?_
      exact ih (rest.skip modes) (Nat.le_of_succ_le_succ more) _

theorem readProperty (ends : Ends cs cs') (modes : Modes) (negated : Bool) :
    Lifts (Alike Ends) (modes.readProperty negated cs) (modes.readProperty negated cs') := by
  have inner := ends.skip modes
  simp only [Modes.readProperty]
  refine .ite (fun _ => .none) fun _ => @Lifts.bind _ _ _ _ (Alike Ends) _ _ _ _ _ ?_ ?_
  · split
    · exact .none
    · next found =>
      rw [found] at inner
      obtain ⟨after, found', tail⟩ := inner.of_cons
      rw [found']
      exact (tail.skip modes).readBraced modes tail.length_le []
    · next c rest other found =>
      rw [found] at inner
      obtain ⟨after, found', tail⟩ := inner.of_cons
      simp only [found']
      exact .ite (fun _ => .none) fun _ => .some ⟨rfl, tail.skip modes⟩
  · rintro ⟨name, rest⟩ ⟨_, rest'⟩ ⟨rfl, ends⟩
    exact .map_same fun _ => ⟨rfl, ends⟩

theorem readEdgeName (ends : Ends cs cs') (modes : Modes) {fuel fuel' : Nat} (more : fuel ≤ fuel')
    (name : List Char) :
    Lifts (Alike Ends) (modes.readEdgeName fuel name cs) (modes.readEdgeName fuel' name cs') := by
  induction fuel generalizing cs cs' name fuel' with
  | zero => exact .none
  | succ fuel ih =>
    obtain ⟨fuel', rfl⟩ : ∃ n, fuel' = n + 1 := ⟨fuel' - 1, by omega⟩
    cases ends with
    | nil => exact .none
    | close => exact .none
    | cons c rest =>
      refine .ite (fun _ => .map_same fun _ => ⟨rfl, rest⟩) fun _ => .ite (fun _ => ?_) fun _ => .none
      exact ih (rest.skip modes) (Nat.le_of_succ_le_succ more) _

theorem readBoundary (ends : Ends cs cs') (modes : Modes) :
    Lifts (Alike Ends) (modes.readBoundary cs) (modes.readBoundary cs') := by
  simp only [Modes.readBoundary]
  split
  · obtain ⟨after, rfl, tail⟩ := ends.of_cons
    have inner := tail.skip modes
    simp only
    split
    · exact .none
    · next found =>
      rw [found] at inner
      obtain ⟨more, found', tail⟩ := inner.of_cons
      rw [found'] at inner
      simp only [found']
      refine .ite (fun _ => ?_) fun _ => .some ⟨rfl, ends⟩
      refine (inner.readEdgeName modes (Nat.succ_le_succ tail.length_le) []).map ?_
      rintro ⟨edge, rest⟩ ⟨_, rest'⟩ ⟨rfl, ends⟩
      exact ⟨rfl, ends⟩
  · next other =>
    split
    · obtain ⟨after, rfl, _⟩ := ends.of_cons_right (by decide)
      exact absurd rfl (other after)
    · exact .some ⟨rfl, ends⟩

theorem readEscape (ends : Ends cs cs') (modes : Modes) :
    Lifts (Alike Ends) (Regex.readEscape modes cs) (Regex.readEscape modes cs') := by
  cases ends with
  | nil => exact .none
  | close => exact .none
  | cons c rest =>
    simp only [Regex.readEscape]
    split
    · exact (rest.readHex modes 2).rename Escape.char
    · exact (rest.readHex modes 4).rename Escape.char
    · exact (rest.readHex modes 8).rename Escape.char
    · exact (rest.readProperty modes false).rename Escape.members
    · exact (rest.readProperty modes true).rename Escape.members
    · exact .some ⟨rfl, rest⟩
    · exact .some ⟨rfl, rest⟩
    · exact rest.readBoundary modes
    · exact .some ⟨rfl, rest⟩
    · exact .some ⟨rfl, rest⟩
    · exact .some ⟨rfl, rest⟩
    · split
      · exact .some ⟨rfl, rest⟩
      · exact .ite (fun _ => .some ⟨rfl, rest⟩) fun _ => .map_same fun _ => ⟨rfl, rest⟩

/-! ## Classes -/

private theorem readNamedBody (ends : Ends cs cs') (modes : Modes) (negated : Bool) :
    Both (Alike Ends)
      (match cs.dropWhile (· != ':') with
        | ':' :: ']' :: after =>
          (asciiClass? (cs.takeWhile (· != ':'))).map fun s => (modes.finishClass negated s, after)
        | _ => none)
      (match cs'.dropWhile (· != ':') with
        | ':' :: ']' :: after =>
          (asciiClass? (cs'.takeWhile (· != ':'))).map fun s => (modes.finishClass negated s, after)
        | _ => none) := by
  have behind := ends.dropWhile (· != ':')
  split
  · next found =>
    have name := ends.takeWhile_eq found
    rw [found] at behind
    obtain ⟨second, found', bracket⟩ := behind.of_cons
    obtain ⟨after, rfl, tail⟩ := bracket.of_cons
    simp only [found', name]
    refine (Both.refl _).map ?_
    rintro s _ rfl
    exact ⟨rfl, tail⟩
  · next other =>
    split
    · next found' =>
      rw [found'] at behind
      obtain ⟨second, found, tail⟩ := behind.of_cons_right (by decide)
      obtain ⟨after, rfl, _⟩ := tail.of_cons_right (by decide)
      exact absurd found (other after)
    · exact .none

/-- A class is named in either text or in none. -/
theorem readNamedClass (ends : Ends cs cs') (modes : Modes) :
    Both (Alike Ends) (modes.readNamedClass cs) (modes.readNamedClass cs') := by
  rw [Modes.readNamedClass.eq_def, Modes.readNamedClass.eq_def]
  split
  · obtain ⟨after, rfl, tail⟩ := ends.of_cons
    simp only
    cases tail with
    | nil => exact .none
    | close => exact Ends.close.readNamedBody modes false
    | cons d rest =>
      by_cases caret : d = '^'
      · subst caret
        exact rest.readNamedBody modes true
      · simp only [List.cons.injEq, caret, false_and, imp_self, implies_true]
        exact (rest.cons d).readNamedBody modes false
  · next other =>
    split
    · obtain ⟨after, rfl, _⟩ := ends.of_cons_right (by decide)
      exact absurd rfl (other after)
    · exact .none

theorem readHyphens (ends : Ends cs cs') (modes : Modes) {fuel fuel' : Nat} (more : fuel ≤ fuel')
    (items : ItemList) :
    Lifts (Alike Ends) (modes.readHyphens fuel items cs) (modes.readHyphens fuel' items cs') := by
  induction fuel generalizing cs cs' items fuel' with
  | zero => exact .none
  | succ fuel ih =>
    obtain ⟨fuel', rfl⟩ : ∃ n, fuel' = n + 1 := ⟨fuel' - 1, by omega⟩
    cases ends with
    | nil => exact .none
    | close => exact .none
    | cons c rest =>
      exact .ite (fun _ => ih (rest.skip modes) (Nat.le_of_succ_le_succ more) _) fun _ => .some ⟨rfl, .cons c rest⟩

private theorem readOpened (ends : Ends cs cs') (modes : Modes) (negated : Bool) :
    Lifts (Alike (Alike Ends))
      ((modes.readHyphens (cs.length + 1) .empty cs).bind fun (items, cs) =>
        match cs with
        | [] => none
        | ']' :: rest =>
          if items.count = 0 then
            match modes.skip rest with
            | [] => none
            | cs => some (negated, items.push (.single ']') 0, cs)
          else some (negated, items, cs)
        | cs => some (negated, items, cs))
      ((modes.readHyphens (cs'.length + 1) .empty cs').bind fun (items, cs) =>
        match cs with
        | [] => none
        | ']' :: rest =>
          if items.count = 0 then
            match modes.skip rest with
            | [] => none
            | cs => some (negated, items.push (.single ']') 0, cs)
          else some (negated, items, cs)
        | cs => some (negated, items, cs)) := by
  refine (ends.readHyphens modes (Nat.succ_le_succ ends.length_le) .empty).bind ?_
  rintro ⟨items, rest⟩ ⟨_, rest'⟩ ⟨rfl, ends⟩
  dsimp only at ends ⊢
  split
  · exact .none
  · obtain ⟨after, rfl, tail⟩ := ends.of_cons
    have inner := tail.skip modes
    refine .ite (fun _ => ?_) fun _ => .some ⟨rfl, rfl, ends⟩
    split
    · exact .none
    · next nonempty =>
      split
      · next found' =>
        rw [found'] at inner
        exact absurd inner.eq_nil_of_right nonempty
      · exact .some ⟨rfl, rfl, inner⟩
  · next nonempty other =>
    split
    · exact absurd ends.eq_nil_of_right nonempty
    · obtain ⟨after, rfl, _⟩ := ends.of_cons_right (by decide)
      exact absurd rfl (other after)
    · exact .some ⟨rfl, rfl, ends⟩

theorem readClassOpening (ends : Ends cs cs') (modes : Modes) :
    Lifts (Alike (Alike Ends)) (modes.readClassOpening cs) (modes.readClassOpening cs') := by
  have inner := ends.skip modes
  simp only [Modes.readClassOpening]
  split
  · next found =>
    rw [found] at inner
    obtain ⟨after, found', tail⟩ := inner.of_cons
    simp only [found']
    exact (tail.skip modes).readOpened modes true
  · next other =>
    split
    · next found' =>
      rw [found'] at inner
      obtain ⟨after, found, _⟩ := inner.of_cons_right (by decide)
      exact absurd found (other after)
    · exact inner.readOpened modes false

/-- Whether a character may stand in a class does not depend on what follows. -/
private theorem readAscii {first second : Option (Escape × List Char)} (modes : Modes) :
    Lifts (Alike Ends) first second →
    Lifts (Alike Ends)
      (match first with
        | some (.char c, rest) =>
          if modes.unicode || decide (c.toNat < 128) then some (.char c, rest) else none
        | read => read)
      (match second with
        | some (.char c, rest) =>
          if modes.unicode || decide (c.toNat < 128) then some (.char c, rest) else none
        | read => read) := by
  intro lifts
  cases first with
  | none => exact .none
  | some read =>
    obtain ⟨⟨_, rest'⟩, rfl, rfl, ends⟩ := lifts read rfl
    obtain ⟨escape, rest⟩ := read
    cases escape with
    | char c => exact .ite (fun _ => .some ⟨rfl, ends⟩) fun _ => .none
    | «members» s => exact .some ⟨rfl, ends⟩
    | look l => exact .some ⟨rfl, ends⟩

theorem readClassAtom (ends : Ends cs cs') (modes : Modes) :
    Lifts (Alike Ends) (modes.readClassAtom cs) (modes.readClassAtom cs') := by
  rw [Modes.readClassAtom.eq_def, Modes.readClassAtom.eq_def]
  refine readAscii modes ?_
  split
  · exact .none
  · obtain ⟨after, rfl, tail⟩ := ends.of_cons
    exact tail.readEscape modes
  · next c rest other =>
    obtain ⟨after, rfl, tail⟩ := ends.of_cons
    simp only
    exact .some ⟨rfl, tail⟩

private theorem readUpTo (ends : Ends cs cs') (modes : Modes) (first : Escape) :
    Lifts (Alike Ends)
      (match first with
        | .char lo =>
          (modes.readClassAtom cs).bind fun (last, rest) =>
            match last with
            | .char hi => if lo ≤ hi then some (CharSet.range lo.toNat hi.toNat, rest) else none
            | _ => none
        | _ => none)
      (match first with
        | .char lo =>
          (modes.readClassAtom cs').bind fun (last, rest) =>
            match last with
            | .char hi => if lo ≤ hi then some (CharSet.range lo.toNat hi.toNat, rest) else none
            | _ => none
        | _ => none) := by
  cases first with
  | char lo =>
    refine (ends.readClassAtom modes).bind ?_
    rintro ⟨last, rest⟩ ⟨_, rest'⟩ ⟨rfl, ends⟩
    cases last with
    | char hi => exact .ite (fun _ => .some ⟨rfl, ends⟩) fun _ => .none
    | «members» s => exact .none
    | look l => exact .none
  | «members» s => exact .none
  | look l => exact .none

theorem readClassItem (ends : Ends cs cs') (modes : Modes) :
    Lifts (Alike Ends) (modes.readClassItem cs) (modes.readClassItem cs') := by
  refine (ends.readClassAtom modes).bind ?_
  rintro ⟨first, rest⟩ ⟨_, rest'⟩ ⟨rfl, ends⟩
  have inner := ends.skip modes
  dsimp only at inner ⊢
  generalize modes.skip rest = front at inner ⊢
  generalize modes.skip rest' = front' at inner ⊢
  cases inner with
  | nil => exact .none
  | close => exact .none
  | cons c tail =>
    by_cases hyphen : c = '-'
    · subst hyphen
      have next := tail.skip modes
      have range := next.readUpTo modes first
      simp only
      generalize modes.skip _ = behind at next range ⊢
      generalize modes.skip _ = behind' at next range ⊢
      cases next with
      | nil => exact range
      | close => exact fun _ found => by cases first <;> cases found
      | cons d more => exact .ite (fun _ => .map_same fun _ => ⟨rfl, tail.cons '-'⟩) fun _ => range
    · simp only [List.cons.injEq, hyphen, false_and, imp_self, implies_true]
      exact .map_same fun _ => ⟨rfl, tail.cons c⟩

theorem readClassBody (ends : Ends cs cs') (modes : Modes) {fuel fuel' : Nat} (more : fuel ≤ fuel')
    (stack : List OpenPart) (items : ItemList) :
    Lifts (Alike Ends) (modes.readClassBody fuel stack items cs) (modes.readClassBody fuel' stack items cs') := by
  induction fuel generalizing cs cs' stack items fuel' with
  | zero => exact .none
  | succ fuel ih =>
    obtain ⟨fuel', rfl⟩ : ∃ n, fuel' = n + 1 := ⟨fuel' - 1, by omega⟩
    have less := Nat.le_of_succ_le_succ more
    have inner := ends.skip modes
    simp only [Modes.readClassBody]
    generalize modes.skip cs = front at inner ⊢
    generalize modes.skip cs' = front' at inner ⊢
    split
    · exact .none
    · obtain ⟨after, rfl, tail⟩ := inner.of_cons
      have named := tail.readNamedClass modes
      simp only
      generalize modes.readNamedClass _ = first at named ⊢
      generalize modes.readNamedClass _ = second at named ⊢
      cases named with
      | none =>
        refine (tail.readClassOpening modes).bind ?_
        rintro ⟨negated, inside, rest⟩ ⟨_, _, rest'⟩ ⟨rfl, rfl, ends⟩
        exact ih ends less _ _
      | @some x y same =>
        obtain ⟨name, rest⟩ := x
        obtain ⟨_, rest'⟩ := y
        obtain ⟨rfl, ends⟩ := same
        exact .bind_same fun s _ => ih ends less _ _
    · obtain ⟨after, rfl, tail⟩ := inner.of_cons
      simp only
      split
      · refine .bind_same fun members _ => .ite (fun _ => .some ⟨rfl, tail⟩) fun _ => ?_
        exact ih tail less _ _
      · exact .none
    · obtain ⟨second, rfl, pair⟩ := inner.of_cons
      obtain ⟨after, rfl, tail⟩ := pair.of_cons
      exact ih tail less _ _
    · obtain ⟨second, rfl, pair⟩ := inner.of_cons
      obtain ⟨after, rfl, tail⟩ := pair.of_cons
      exact ih tail less _ _
    · obtain ⟨second, rfl, pair⟩ := inner.of_cons
      obtain ⟨after, rfl, tail⟩ := pair.of_cons
      exact ih tail less _ _
    · next nonempty opening closing inter diff symmDiff =>
      split
      · exact absurd inner.eq_nil_of_right nonempty
      · obtain ⟨after, rfl, _⟩ := inner.of_cons_right (by decide)
        exact absurd rfl (opening after)
      · obtain ⟨after, rfl, _⟩ := inner.of_cons_right (by decide)
        exact absurd rfl (closing after)
      · obtain ⟨after, rfl, _⟩ := inner.of_pair_right (by decide) (by decide)
        exact absurd rfl (inter after)
      · obtain ⟨after, rfl, _⟩ := inner.of_pair_right (by decide) (by decide)
        exact absurd rfl (diff after)
      · obtain ⟨after, rfl, _⟩ := inner.of_pair_right (by decide) (by decide)
        exact absurd rfl (symmDiff after)
      · refine (inner.readClassItem modes).bind ?_
        rintro ⟨s, rest⟩ ⟨_, rest'⟩ ⟨rfl, ends⟩
        exact ih ends less _ _

theorem readClass (ends : Ends cs cs') (modes : Modes) :
    Lifts (Alike Ends) (modes.readClass cs) (modes.readClass cs') := by
  refine (ends.readClassOpening modes).bind ?_
  rintro ⟨negated, items, rest⟩ ⟨_, _, rest'⟩ ⟨rfl, rfl, tail⟩
  exact tail.readClassBody modes (Nat.succ_le_succ ends.length_le) _ _

end Ends

/-! ## Tokens -/

/-- The scanner of the same text inside a group with these modes around it. -/
def Scanner.inside (outer : Modes) (s : Scanner) : Scanner := { s with saved := s.saved ++ [outer] }

def Token.later : Token → Token
  | .piece node depth => .piece node.later depth
  | token => token

/-- What was read of a text, and what is read of it inside a group. -/
def Inside (outer : Modes) (read read' : Token × Scanner × List Char) : Prop :=
  read'.1 = read.1.later ∧ read'.2.1 = read.2.1.inside outer ∧ Ends read.2.2 read'.2.2

namespace Ends

theorem quantify (ends : Ends cs cs') (outer : Modes) (s : Scanner) (lo : Nat) (hi : Option Nat) :
    Inside outer ((s.modes.quantify lo hi cs).1, s, (s.modes.quantify lo hi cs).2)
      ((s.modes.quantify lo hi cs').1, s.inside outer, (s.modes.quantify lo hi cs').2) := by
  simp only [Modes.quantify]
  split
  · obtain ⟨after, rfl, tail⟩ := ends.of_cons
    exact ⟨rfl, rfl, tail⟩
  · next other =>
    split
    · obtain ⟨after, rfl, _⟩ := ends.of_cons_right (by decide)
      exact absurd rfl (other after)
    · exact ⟨rfl, rfl, ends⟩

theorem openNamed (ends : Ends cs cs') (outer : Modes) (s : Scanner) :
    Lifts (Inside outer) (s.openNamed cs) ((s.inside outer).openNamed cs') := by
  have behind := ends.dropWhile (· != '>')
  simp only [Scanner.openNamed]
  split
  · next found =>
    have name := ends.takeWhile_eq found
    rw [found] at behind
    obtain ⟨after, found', tail⟩ := behind.of_cons
    simp only [found', name]
    exact .ite (fun _ => .some ⟨rfl, rfl, tail⟩) fun _ => .none
  · exact .none

private theorem readSetting (ends : Ends cs cs') (outer : Modes) (s : Scanner) :
    Lifts (Inside outer)
      ((Regex.readFlags s.modes [] false false cs).map fun group =>
        if group.opens then
          (.openGroup false, { s with modes := group.modes, saved := s.modes :: s.saved }, group.rest)
        else (.setting, { s with modes := group.modes }, group.rest))
      ((Regex.readFlags s.modes [] false false cs').map fun group =>
        if group.opens then
          (.openGroup false,
            { s.inside outer with modes := group.modes, saved := s.modes :: (s.inside outer).saved }, group.rest)
        else (.setting, { s.inside outer with modes := group.modes }, group.rest)) := by
  refine (ends.readFlags s.modes [] false false).map ?_
  rintro ⟨modes, opens, rest⟩ ⟨_, _, rest'⟩ ⟨rfl, rfl, ends⟩
  cases opens with
  | true => exact ⟨rfl, rfl, ends⟩
  | false => exact ⟨rfl, rfl, ends⟩

theorem openParen (ends : Ends cs cs') (outer : Modes) (s : Scanner) :
    Lifts (Inside outer) (s.openParen cs) ((s.inside outer).openParen cs') := by
  have inner := ends.skip s.modes
  have skipped : (s.inside outer).modes.skip cs' = s.modes.skip cs' := rfl
  simp only [Scanner.openParen, skipped]
  generalize s.modes.skip cs = front at inner ⊢
  generalize s.modes.skip cs' = front' at inner ⊢
  split
  · exact .none
  · exact .none
  · exact .none
  · exact .none
  · next rest =>
    obtain ⟨after, rfl, tail⟩ : ∃ after, front' = '?' :: 'P' :: '<' :: after ∧ Ends rest after := by
      grind [of_cons]
    exact tail.openNamed outer s
  · next rest _ _ =>
    obtain ⟨after, rfl, tail⟩ : ∃ after, front' = '?' :: '<' :: after ∧ Ends rest after := by
      grind [of_cons]
    split
    all_goals grind [of_cons_right, openNamed]
  · next rest _ _ _ _ _ _ =>
    obtain ⟨after, rfl, tail⟩ := inner.of_cons
    split
    case h_7 same =>
      obtain ⟨_, rfl⟩ := List.cons.inj same
      exact tail.readSetting outer s
    all_goals exfalso; grind [of_cons_right, of_pair_right]
  · split
    case h_8 => exact .some ⟨rfl, rfl, inner⟩
    all_goals exfalso; grind [of_cons_right, of_pair_right]

theorem token (ends : Ends cs cs') (nonempty : cs ≠ []) (outer : Modes) (s : Scanner) :
    Lifts (Inside outer) (s.token cs) ((s.inside outer).token cs') := by
  cases ends with
  | nil => exact absurd rfl nonempty
  | close => exact absurd rfl nonempty
  | cons c rest =>
    simp only [Scanner.token]
    split
    · exact rest.openParen outer s
    · cases found : s.saved with
      | nil => exact .none
      | cons modes saved =>
        simp only [Scanner.inside, found, List.cons_append]
        exact .some ⟨rfl, rfl, rest⟩
    · exact .some ⟨rfl, rfl, rest⟩
    · refine (rest.readClass s.modes).map ?_
      rintro ⟨part, rest⟩ ⟨_, rest'⟩ ⟨rfl, ends⟩
      exact ⟨rfl, rfl, ends⟩
    · exact .some (rest.quantify outer s 0 (some 1))
    · exact .some (rest.quantify outer s 0 none)
    · exact .some (rest.quantify outer s 1 none)
    · refine (rest.readBounds s.modes).map ?_
      rintro ⟨lo, hi, rest⟩ ⟨_, _, rest'⟩ ⟨rfl, rfl, ends⟩
      exact ends.quantify outer s lo hi
    · refine (rest.readEscape s.modes).map ?_
      rintro ⟨escape, rest⟩ ⟨_, rest'⟩ ⟨rfl, ends⟩
      cases escape with
      | char c => exact ⟨rfl, rfl, ends⟩
      | «members» s => exact ⟨rfl, rfl, ends⟩
      | look l => exact ⟨rfl, rfl, ends⟩
    · exact .ite (fun _ => .some ⟨rfl, rfl, rest⟩) fun _ => .none
    · exact .some ⟨rfl, rfl, rest⟩
    · exact .some ⟨rfl, rfl, rest⟩
    · exact .some ⟨rfl, rfl, rest⟩

/-- The text inside a group has the same tokens, up to the one that closes the group. -/
theorem scanFrom (ends : Ends cs cs') (outer : Modes) {fuel fuel' : Nat} {s : Scanner}
    {done done' tokens tokens' : List Token} (scanned : Token.scanFrom fuel s done cs = some tokens)
    (scanned' : Token.scanFrom fuel' (s.inside outer) done' cs' = some tokens') :
    ∃ new, tokens = new ++ done ∧ tokens' = .closeGroup :: (new.map Token.later ++ done') := by
  induction fuel generalizing cs cs' fuel' s done done' with
  | zero => cases scanned
  | succ fuel ih =>
    cases fuel' with
    | zero => cases scanned'
    | succ fuel' =>
      have inner := ends.skip s.modes
      have skipped : (s.inside outer).modes.skip cs' = s.modes.skip cs' := rfl
      rw [Token.scanFrom] at scanned scanned'
      rw [skipped] at scanned'
      generalize s.modes.skip cs = front at inner scanned
      generalize s.modes.skip cs' = front' at inner scanned'
      cases inner with
      | nil => simp [Scanner.inside] at scanned'
      | close =>
        -- the text is over, and the parenthesis closes the group
        simp only [Option.ite_none_right_eq_some, Option.some.injEq, List.isEmpty_iff] at scanned
        obtain ⟨closed, rfl⟩ := scanned
        have last : (s.inside outer).token [')'] = some (.closeGroup, ⟨outer, [], s.names⟩, []) := by
          simp [Scanner.token, Scanner.inside, closed]
        change ((s.inside outer).token [')']).bind _ = _ at scanned'
        rw [last, Option.bind_some] at scanned'
        cases fuel' with
        | zero => cases scanned'
        | succ fuel' =>
          simp only [Token.scanFrom, Modes.skip_nil] at scanned'
          exact ⟨[], rfl, (Option.some.inj scanned').symm⟩
      | @cons c tail tail' rest =>
        obtain ⟨⟨token, next, after⟩, read, scanned⟩ := Option.bind_eq_some_iff.mp scanned
        obtain ⟨⟨_, _, after'⟩, read', rfl, rfl, ends⟩ :=
          (rest.cons c).token (List.cons_ne_nil _ _) outer s _ read
        obtain ⟨_, again, scanned'⟩ := Option.bind_eq_some_iff.mp scanned'
        obtain rfl := Option.some.inj (read'.symm.trans again)
        obtain ⟨new, rfl, rfl⟩ := ih ends scanned scanned'
        exact ⟨new ++ [token], by simp, by simp⟩

end Ends

end PatternComposer.Regex
