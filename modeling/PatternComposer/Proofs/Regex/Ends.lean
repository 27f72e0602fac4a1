import Mathlib
import PatternComposer.Regex.Modes

/-! # A closing parenthesis more at the end

Readers go through a text from left to right, so a text and the same text with a closing parenthesis
behind it (`Ends`) are read alike up to there. A comment may swallow the parenthesis, which is why
both texts may also have run out together. `Lifts` compares two readings the first of which
succeeds, and `Both` two readings that succeed or fail together.
-/

namespace PatternComposer.Regex

/-- The second text is the first one, with or without a closing parenthesis at its end. -/
inductive Ends : List Char → List Char → Prop where
  | nil : Ends [] []
  | close : Ends [] [')']
  | cons (c : Char) {cs cs' : List Char} (rest : Ends cs cs') : Ends (c :: cs) (c :: cs')

namespace Ends

variable {cs cs' rest rest' : List Char} {c : Char}

theorem refl (cs : List Char) : Ends cs cs := by
  induction cs with
  | nil => exact .nil
  | cons c rest ih => exact .cons c ih

theorem append_close (cs : List Char) : Ends cs (cs ++ [')']) := by
  induction cs with
  | nil => exact .close
  | cons c rest ih => exact .cons c ih

theorem length_le (ends : Ends cs cs') : cs.length ≤ cs'.length := by
  induction ends with
  | nil => exact Nat.le_refl _
  | close => exact Nat.zero_le _
  | cons c rest ih => exact Nat.succ_le_succ ih

theorem of_cons (ends : Ends (c :: rest) cs') : ∃ rest', cs' = c :: rest' ∧ Ends rest rest' := by
  cases ends with
  | cons _ rest => exact ⟨_, rfl, rest⟩

/-- Other characters stand in both texts. -/
theorem of_cons_right (ends : Ends cs (c :: rest')) (other : c ≠ ')') :
    ∃ rest, cs = c :: rest ∧ Ends rest rest' := by
  generalize written : c :: rest' = cs' at ends
  cases ends with
  | nil => cases written
  | close => exact absurd (List.cons.inj written).1 other
  | cons d rest =>
    obtain ⟨rfl, rfl⟩ := List.cons.inj written
    exact ⟨_, rfl, rest⟩

theorem of_pair_right {d : Char} (ends : Ends cs (c :: d :: rest')) (other : c ≠ ')') (another : d ≠ ')') :
    ∃ rest, cs = c :: d :: rest ∧ Ends rest rest' := by
  obtain ⟨tail, rfl, tailEnds⟩ := ends.of_cons_right other
  obtain ⟨rest, rfl, restEnds⟩ := tailEnds.of_cons_right another
  exact ⟨rest, rfl, restEnds⟩

theorem eq_nil_of_right (ends : Ends cs []) : cs = [] := by
  cases ends
  rfl

theorem dropWhile (ends : Ends cs cs') (p : Char → Bool) : Ends (cs.dropWhile p) (cs'.dropWhile p) := by
  induction ends with
  | nil => exact .nil
  | close =>
    rw [List.dropWhile_cons]
    split
    · exact .nil
    · exact .close
  | cons c rest ih =>
    rw [List.dropWhile_cons, List.dropWhile_cons]
    split
    · exact ih
    · exact .cons c rest

/-- What stops before the end stops alike. -/
theorem takeWhile_eq (ends : Ends cs cs') {p : Char → Bool} (stops : cs.dropWhile p = c :: rest) :
    cs'.takeWhile p = cs.takeWhile p := by
  induction ends with
  | nil => rfl
  | close => cases stops
  | cons d tail ih =>
    rw [List.dropWhile_cons] at stops
    rw [List.takeWhile_cons, List.takeWhile_cons]
    split at stops
    · next holds => rw [if_pos holds, if_pos holds, ih stops]
    · next fails => rw [if_neg fails, if_neg fails]

/-- The parenthesis is no part of such a stretch. -/
theorem takeWhile_eq_of_not (ends : Ends cs cs') {p : Char → Bool} (none : p ')' = false) :
    cs'.takeWhile p = cs.takeWhile p := by
  induction ends with
  | nil => rfl
  | close => rw [List.takeWhile_cons, none]; rfl
  | cons d tail ih => rw [List.takeWhile_cons, List.takeWhile_cons, ih]

theorem drop (ends : Ends cs cs') (count : Nat) (inside : count ≤ cs.length) :
    Ends (cs.drop count) (cs'.drop count) := by
  induction count generalizing cs cs' with
  | zero => exact ends
  | succ count ih =>
    cases ends with
    | nil => cases inside
    | close => cases inside
    | cons c tail => exact ih tail (Nat.le_of_succ_le_succ inside)

theorem take_eq (ends : Ends cs cs') (count : Nat) (inside : count ≤ cs.length) : cs'.take count = cs.take count := by
  induction count generalizing cs cs' with
  | zero => rfl
  | succ count ih =>
    cases ends with
    | nil => rfl
    | close => cases inside
    | cons c tail => rw [List.take_succ_cons, List.take_succ_cons, ih tail (Nat.le_of_succ_le_succ inside)]

theorem skipBlanks (ends : Ends cs cs') (inComment : Bool) :
    Ends (Regex.skipBlanks inComment cs) (Regex.skipBlanks inComment cs') := by
  induction ends generalizing inComment with
  | nil => exact .nil
  | close =>
    cases inComment with
    | true => exact .nil
    | false =>
      have visible : Unicode.blank.contains ')' = false := by decide
      simp [Regex.skipBlanks, visible, Ends.close]
  | cons c rest ih =>
    simp only [Regex.skipBlanks]
    split
    · exact ih _
    · split
      · exact ih _
      · split
        · exact ih _
        · exact .cons c rest

theorem skip (ends : Ends cs cs') (modes : Modes) : Ends (modes.skip cs) (modes.skip cs') := by
  rw [Modes.skip, Modes.skip]
  split
  · exact ends.skipBlanks false
  · exact ends

end Ends

/-! ## Comparing readings -/

/-- If the first reading succeeds, so does the second, with a related result. -/
def Lifts {α β : Type} (related : α → β → Prop) (first : Option α) (second : Option β) : Prop :=
  ∀ x, first = some x → ∃ y, second = some y ∧ related x y

/-- Both readings succeed, with related results, or both fail. -/
inductive Both {α β : Type} (related : α → β → Prop) : Option α → Option β → Prop where
  | none : Both related none none
  | some {x y} (same : related x y) : Both related (some x) (some y)

/-- The same value, and rests that are related. -/
def Alike {α β : Type} (related : β → β → Prop) (first second : α × β) : Prop :=
  first.1 = second.1 ∧ related first.2 second.2

namespace Lifts

variable {α β γ δ : Type} {related : α → β → Prop} {after : γ → δ → Prop}

theorem none {second : Option β} : Lifts related none second := fun _ found => by cases found

theorem some {x : α} {y : β} (same : related x y) : Lifts related (some x) (some y) :=
  fun _ found => ⟨y, rfl, Option.some.inj found ▸ same⟩

theorem mono {other : α → β → Prop} {first : Option α} {second : Option β} (lifts : Lifts related first second)
    (weaker : ∀ x y, related x y → other x y) : Lifts other first second := by
  intro x found
  obtain ⟨y, found', same⟩ := lifts x found
  exact ⟨y, found', weaker x y same⟩

theorem bind {first : Option α} {second : Option β} {f : α → Option γ} {g : β → Option δ}
    (lifts : Lifts related first second) (next : ∀ x y, related x y → Lifts after (f x) (g y)) :
    Lifts after (first.bind f) (second.bind g) := by
  intro z found
  obtain ⟨x, read, found⟩ := Option.bind_eq_some_iff.mp found
  obtain ⟨y, read', same⟩ := lifts x read
  rw [read']
  exact next x y same z found

/-- What is read first does not depend on the end. -/
theorem bind_same {first : Option α} {f : α → Option γ} {g : α → Option δ}
    (next : ∀ x, first = .some x → Lifts after (f x) (g x)) : Lifts after (first.bind f) (first.bind g) := by
  intro z found
  obtain ⟨x, read, found⟩ := Option.bind_eq_some_iff.mp found
  rw [read]
  exact next x read z found

theorem map {first : Option α} {second : Option β} {f : α → γ} {g : β → δ}
    (lifts : Lifts related first second) (next : ∀ x y, related x y → after (f x) (g y)) :
    Lifts after (first.map f) (second.map g) := by
  intro z found
  obtain ⟨x, read, rfl⟩ := Option.map_eq_some_iff.mp found
  obtain ⟨y, read', same⟩ := lifts x read
  exact ⟨g y, by rw [read']; rfl, next x y same⟩

theorem map_same {first : Option α} {f : α → γ} {g : α → δ} (next : ∀ x, after (f x) (g x)) :
    Lifts after (first.map f) (first.map g) := by
  intro z found
  obtain ⟨x, read, rfl⟩ := Option.map_eq_some_iff.mp found
  exact ⟨g x, by rw [read]; rfl, next x⟩

/-- What was read may be renamed. -/
theorem rename (f : α → β) {first second : Option (α × List Char)} (lifts : Lifts (Alike Ends) first second) :
    Lifts (Alike Ends) (first.map fun p => (f p.1, p.2)) (second.map fun p => (f p.1, p.2)) :=
  lifts.map fun _ _ same => ⟨congrArg f same.1, same.2⟩

theorem ite {condition : Prop} [Decidable condition] {first other : Option α} {second other' : Option β}
    (holds : condition → Lifts related first second) (fails : ¬ condition → Lifts related other other') :
    Lifts related (if condition then first else other) (if condition then second else other') := by
  split
  · next here => exact holds here
  · next here => exact fails here

/-- Folds whose steps are compared one by one. -/
theorem foldlM {step : α → γ → Option α} {step' : β → γ → Option β}
    (forward : ∀ a b item, related a b → Lifts related (step a item) (step' b item)) {a : α} {b : β}
    (start : related a b) (items : List γ) :
    Lifts related (items.foldlM step a) (items.foldlM step' b) := by
  induction items generalizing a b with
  | nil => exact .some start
  | cons item items ih =>
    rw [List.foldlM_cons, List.foldlM_cons]
    exact (forward a b item start).bind fun _ _ next => ih next

end Lifts

namespace Both

variable {α β γ δ : Type} {related : α → β → Prop} {after : γ → δ → Prop}

theorem refl (first : Option α) : Both Eq first first := by
  cases first with
  | none => exact .none
  | some x => exact .some rfl

theorem lifts {first : Option α} {second : Option β} (both : Both related first second) :
    Lifts related first second := by
  cases both with
  | none => exact .none
  | some same => exact .some same

theorem bind {first : Option α} {second : Option β} {f : α → Option γ} {g : β → Option δ}
    (both : Both related first second) (next : ∀ x y, related x y → Both after (f x) (g y)) :
    Both after (first.bind f) (second.bind g) := by
  cases both with
  | none => exact .none
  | some same => exact next _ _ same

theorem map {first : Option α} {second : Option β} {f : α → γ} {g : β → δ}
    (both : Both related first second) (next : ∀ x y, related x y → after (f x) (g y)) :
    Both after (first.map f) (second.map g) := by
  cases both with
  | none => exact .none
  | some same => exact .some (next _ _ same)

end Both

end PatternComposer.Regex
