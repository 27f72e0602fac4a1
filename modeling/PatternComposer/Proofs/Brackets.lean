import Mathlib
import PatternComposer.Statement

/-! # Words of brackets

Statements are begun and ended by brackets of their kind. A word of brackets is well-nested if it can be
put together from pairs (`WellNested`). Striking out neighbours that make a pair, as long as there are
any, leads to the same rest in whatever order it is done (`isReduction_iff`), and exactly the well-nested
words leave no rest (`wellNested_iff`).
-/

namespace PatternComposer

/-- The beginning or the end of a statement. -/
inductive Bracket where
  | opening (kind : Statement)
  | closing (kind : Statement)
deriving DecidableEq, Repr

namespace Bracket

inductive WellNested : List Bracket → Prop where
  | nil : WellNested []
  | enclose (kind : Statement) {inner : List Bracket} (nested : WellNested inner) :
      WellNested (.opening kind :: (inner ++ [.closing kind]))
  | append {first second : List Bracket} (left : WellNested first) (right : WellNested second) :
      WellNested (first ++ second)

/-- Two neighbours that make a pair are struck out. -/
inductive Cancels : List Bracket → List Bracket → Prop where
  | pair (before : List Bracket) (kind : Statement) (after : List Bracket) :
      Cancels (before ++ .opening kind :: .closing kind :: after) (before ++ after)

/-- Pairs were struck out until there were none. -/
def IsReduction (word rest : List Bracket) : Prop :=
  Relation.ReflTransGen Cancels word rest ∧ ∀ next, ¬ Cancels rest next

/-- Puts a bracket behind a word without pairs, whose last bracket comes first. -/
def put (reversed : List Bracket) (bracket : Bracket) : List Bracket :=
  match reversed, bracket with
  | .opening kind :: rest, .closing other =>
    if kind = other then rest else .closing other :: .opening kind :: rest
  | reversed, bracket => bracket :: reversed

/-- What is left of a word when its pairs are struck out. -/
def reduce (word : List Bracket) : List Bracket := (word.foldl put []).reverse

theorem put_pair (reversed : List Bracket) (kind : Statement) :
    put (.opening kind :: reversed) (.closing kind) = reversed := by simp [put]

@[simp] theorem put_opening (reversed : List Bracket) (kind : Statement) :
    put reversed (.opening kind) = .opening kind :: reversed := by
  cases reversed with
  | nil => rfl
  | cons bracket rest => cases bracket <;> rfl

/-- A bracket makes a pair with the last one, or stands behind it. -/
theorem put_cases (reversed : List Bracket) (bracket : Bracket) :
    (∃ kind rest, reversed = .opening kind :: rest ∧ bracket = .closing kind ∧ put reversed bracket = rest) ∨
      put reversed bracket = bracket :: reversed ∧
        ∀ kind rest, reversed = .opening kind :: rest → bracket ≠ .closing kind := by
  cases bracket with
  | opening kind => exact .inr ⟨put_opening .., by simp⟩
  | closing kind =>
    cases reversed with
    | nil => exact .inr ⟨rfl, by simp⟩
    | cons last rest =>
      cases last with
      | closing other => exact .inr ⟨rfl, by simp⟩
      | opening other =>
        by_cases same : other = kind
        · subst same
          exact .inl ⟨other, rest, rfl, rfl, put_pair ..⟩
        · refine .inr ⟨by simp [put, same], ?_⟩
          rintro _ _ ⟨rfl, rfl⟩ pair
          exact same (Bracket.closing.inj pair).symm

/-! ## Reduction -/

theorem Cancels.reduce_eq {word next : List Bracket} (cancels : Cancels word next) :
    reduce word = reduce next := by
  obtain ⟨before, kind, after⟩ := cancels
  simp [reduce, put_pair]

theorem reduce_eq_of_cancels {word rest : List Bracket} (leads : Relation.ReflTransGen Cancels word rest) :
    reduce word = reduce rest := by
  induction leads with
  | refl => rfl
  | tail _ last ih => rw [ih, last.reduce_eq]

/-- Brackets are put one behind the other by striking out pairs. -/
theorem cancels_foldl_put (reversed word : List Bracket) :
    Relation.ReflTransGen Cancels (reversed.reverse ++ word) (word.foldl put reversed).reverse := by
  induction word generalizing reversed with
  | nil => rw [List.append_nil]; exact .refl
  | cons bracket word ih =>
    rw [List.foldl_cons]
    obtain ⟨kind, rest, rfl, rfl, same⟩ | ⟨same, _⟩ := put_cases reversed bracket
    · rw [same]
      refine .head ?_ (ih rest)
      simpa using Cancels.pair rest.reverse kind word
    · rw [same]
      simpa using ih (bracket :: reversed)

/-- No two neighbours make a pair, the last bracket coming first. -/
def Unpaired (reversed : List Bracket) : Prop :=
  reversed.IsChain fun later earlier => ∀ kind, earlier = .opening kind → later ≠ .closing kind

theorem Unpaired.put {reversed : List Bracket} (unpaired : Unpaired reversed) (bracket : Bracket) :
    Unpaired (Bracket.put reversed bracket) := by
  obtain ⟨kind, rest, rfl, _, same⟩ | ⟨same, other⟩ := put_cases reversed bracket
  · rw [same]
    exact unpaired.tail
  · rw [same]
    cases reversed with
    | nil => exact List.isChain_singleton _
    | cons last rest =>
      refine List.isChain_cons_cons.mpr ⟨?_, unpaired⟩
      rintro kind rfl
      exact other kind rest rfl

theorem Unpaired.foldl_put {reversed : List Bracket} (unpaired : Unpaired reversed) (word : List Bracket) :
    Unpaired (word.foldl Bracket.put reversed) := by
  induction word generalizing reversed with
  | nil => exact unpaired
  | cons bracket word ih => exact ih (unpaired.put bracket)

theorem Unpaired.not_cancels {reversed next : List Bracket} (unpaired : Unpaired reversed) :
    ¬ Cancels reversed.reverse next := by
  intro cancels
  generalize same : reversed.reverse = word at cancels
  obtain ⟨before, kind, after⟩ := cancels
  obtain rfl : reversed = after.reverse ++ .closing kind :: .opening kind :: before.reverse := by
    rw [← List.reverse_reverse reversed, same]
    simp
  have pair := (List.isChain_append_cons_cons.mp unpaired).2.1
  exact pair kind rfl rfl

theorem isReduction_reduce (word : List Bracket) : IsReduction word (reduce word) :=
  ⟨cancels_foldl_put [] word, fun _ => Unpaired.not_cancels (Unpaired.foldl_put List.isChain_nil word)⟩

/-- The order in which pairs are struck out makes no difference. -/
theorem isReduction_iff {word rest : List Bracket} : IsReduction word rest ↔ rest = reduce word := by
  constructor
  · rintro ⟨leads, stuck⟩
    rw [reduce_eq_of_cancels leads]
    rcases (isReduction_reduce rest).1.cases_head with same | ⟨next, cancels, _⟩
    · exact same
    · exact absurd cancels (stuck next)
  · rintro rfl
    exact isReduction_reduce word

/-! ## Well-nested words -/

namespace WellNested

theorem foldl_put {word : List Bracket} (nested : WellNested word) (reversed : List Bracket) :
    word.foldl put reversed = reversed := by
  induction nested generalizing reversed with
  | nil => rfl
  | enclose kind _ ih =>
    rw [List.foldl_cons, List.foldl_append, put_opening, ih, List.foldl_cons, List.foldl_nil, put_pair]
  | append _ _ left right => rw [List.foldl_append, left, right]

/-- A pair may be put anywhere into a well-nested word. -/
theorem insert_pair {word : List Bracket} (nested : WellNested word) (kind : Statement) :
    ∀ {before after : List Bracket}, word = before ++ after →
      WellNested (before ++ .opening kind :: .closing kind :: after) := by
  have pair : WellNested [.opening kind, .closing kind] := .enclose kind .nil
  induction nested with
  | nil =>
    intro before after split
    obtain ⟨rfl, rfl⟩ := List.append_eq_nil_iff.mp split.symm
    exact pair
  | @enclose outer inner nested ih =>
    intro before after split
    cases before with
    | nil =>
      subst split
      exact pair.append (.enclose outer nested)
    | cons first before =>
      obtain ⟨rfl, tail⟩ := List.cons.inj split
      obtain ⟨more, rfl, last⟩ | ⟨more, rfl, rfl⟩ := List.append_eq_append_iff.mp tail
      · obtain ⟨rfl, rfl⟩ | ⟨rfl, rfl⟩ := List.singleton_eq_append_iff.mp last
        · simpa using WellNested.enclose outer (ih (List.append_nil inner).symm)
        · simpa using (WellNested.enclose outer nested).append pair
      · simpa using WellNested.enclose outer (ih rfl)
  | append left right first second =>
    intro before after split
    obtain ⟨more, rfl, rfl⟩ | ⟨more, rfl, rfl⟩ := List.append_eq_append_iff.mp split
    · simpa using left.append (second rfl)
    · simpa using (first rfl).append right

theorem of_cancels {word : List Bracket} (leads : Relation.ReflTransGen Cancels word []) : WellNested word := by
  induction leads using Relation.ReflTransGen.head_induction_on with
  | refl => exact .nil
  | head cancels _ ih =>
    obtain ⟨before, kind, after⟩ := cancels
    exact ih.insert_pair kind rfl

end WellNested

/-- The well-nested words are those of which nothing is left. -/
theorem wellNested_iff {word : List Bracket} : WellNested word ↔ reduce word = [] := by
  constructor
  · intro nested
    rw [reduce, nested.foldl_put, List.reverse_nil]
  · intro nothing
    exact .of_cancels (nothing ▸ (isReduction_reduce word).1)

/-- A closing bracket that met no bracket of its kind never goes away. -/
theorem mem_foldl_put_of_closing {kind : Statement} {reversed : List Bracket} (member : .closing kind ∈ reversed)
    (word : List Bracket) : .closing kind ∈ word.foldl put reversed := by
  induction word generalizing reversed with
  | nil => exact member
  | cons bracket word ih =>
    refine ih ?_
    obtain ⟨_, rest, rfl, _, same⟩ | ⟨same, _⟩ := put_cases reversed bracket
    · rw [same]
      simpa using member
    · rw [same]
      exact List.mem_cons_of_mem _ member

end Bracket
end PatternComposer
