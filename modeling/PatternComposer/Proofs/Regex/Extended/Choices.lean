import PatternComposer.Proofs.Regex.Choices
import PatternComposer.Proofs.Regex.Extended.Sign
import PatternComposer.Regex.Matcher

/-! # Repeated texts in the extended dialect

The extended dialect takes choices for the same node as the plain one, so it is no way around the
size limit: what is too large for the plain search is refused altogether (`ofText?_whole`).
-/

namespace PatternComposer.Regex.Extended

open Choice (chars textSigns textNode wholeSigns)

/-! ## Terms -/

/-- Terms in a row, as a level puts them. -/
def rowTerm : List Term → Term
  | [] => .empty
  | [t] => t
  | ts => .cat ts

/-- Terms as alternatives, as a level puts them. -/
def altTerm : List Term → Term
  | [t] => t
  | ts => .alt ts

def textTerm (text : List Char) : Term := rowTerm (text.map fun c => .literal c false)

/-- A text in group `index`, if it is in a group that captures. -/
def enclosedTerm (wrap : Bool) (index : Nat) (text : List Char) : Term :=
  if wrap then .group index (textTerm text) else textTerm text

def choiceTerm (wrap : Bool) (index : Nat) (choice : Choice) : Term :=
  .rep (if wrap then .group index (textTerm choice.text) else textTerm choice.text)
    choice.least.toNat (some choice.most.toNat) true

def choiceTerms (wrap : Bool) (index : Nat) : List Choice → List Term
  | [] => []
  | choice :: rest => choiceTerm wrap index choice :: choiceTerms wrap (if wrap then index + 1 else index) rest

def wholeTerm (captured wrap : Bool) (choices : List Choice) : Term :=
  .cat [.look .textStart,
    if captured then .group 1 (altTerm (choiceTerms wrap 2 choices)) else altTerm (choiceTerms wrap 1 choices),
    .look .textEnd]

/-! ## Arranging the tokens -/

/-- The tokens of signs, arranged one after the other. -/
def arrange (a : Arrangement) (signs : List Sign) : Option Arrangement :=
  signs.foldlM (fun a sign => a.step (signToken a.groups sign)) a

theorem groups_close {a after : Arrangement} {t : Term} (closed : a.close t = some after) :
    after.groups = a.groups := by
  rw [Arrangement.close] at closed
  split at closed
  · cases closed
  · cases closed
    rfl

theorem groups_step {a after : Arrangement} {sign : Sign}
    (stepped : a.step (signToken a.groups sign) = some after) :
    after.groups = signCount a.groups sign := by
  cases sign with
  | start => cases stepped; rfl
  | stop => cases stepped; rfl
  | bar => cases stepped; rfl
  | char c => cases stepped; rfl
  | times lo hi =>
    obtain ⟨level, _, rfl⟩ := Option.map_eq_some_iff.mp stepped
    rfl
  | opening captured => cases captured <;> cases stepped <;> rfl
  | closing =>
    simp only [signToken, Arrangement.step, Option.ite_none_left_eq_some] at stepped
    obtain ⟨_, stepped⟩ := stepped
    split at stepped
    · exact groups_close stepped
    · exact groups_close stepped
    · exact groups_close stepped
    · exact groups_close stepped
    · cases stepped
      rfl
    · obtain ⟨t, _, closed⟩ := Option.bind_eq_some_iff.mp stepped
      exact groups_close closed

theorem foldlM_signTokens (a : Arrangement) (signs : List Sign) :
    (signTokens a.groups signs).foldlM Arrangement.step a = arrange a signs := by
  induction signs generalizing a with
  | nil => rfl
  | cons sign rest ih =>
    rw [signTokens, arrange, List.foldlM_cons, List.foldlM_cons]
    cases stepped : a.step (signToken a.groups sign) with
    | none => rfl
    | some after =>
      rw [← groups_step stepped]
      exact ih after

theorem arrange_append (a : Arrangement) (first second : List Sign) :
    arrange a (first ++ second) = (arrange a first).bind fun a => arrange a second := by
  rw [arrange, List.foldlM_append]
  rfl

/-- An arrangement without references and names. -/
def plainly (level : Level) (outer : List Level) (groups : Nat) : Arrangement :=
  ⟨level, outer, groups, [], false, false⟩

theorem arrange_chars (text : List Char) (kind : LevelKind) (branches row : List Term) (outer : List Level)
    (groups : Nat) :
    arrange (plainly ⟨kind, branches, row⟩ outer groups) (chars text) =
      some (plainly ⟨kind, branches, (text.map fun c => .literal c false).reverse ++ row⟩ outer groups) := by
  induction text generalizing row with
  | nil => rfl
  | cons c rest ih =>
    change arrange (plainly ⟨kind, branches, .literal c false :: row⟩ outer groups) (chars rest) = _
    rw [ih, List.map_cons, List.reverse_cons, List.append_assoc]
    rfl

theorem arrange_opening (captured : Bool) (level : Level) (outer : List Level) (groups : Nat) (rest : List Sign) :
    arrange (plainly level outer groups) (.opening captured :: rest) =
      arrange (plainly (.empty (if captured then .capture (groups + 1) else .plain)) (level :: outer)
        (if captured then groups + 1 else groups)) rest := by
  cases captured <;> rfl

/-- Closing a group puts what stood in it after what stood before it. -/
theorem arrange_closing (captured : Bool) (index : Nat) (branches row : List Term) (level : Level)
    (outer : List Level) (groups : Nat) (rest : List Sign) :
    arrange (plainly ⟨if captured then .capture index else .plain, branches, row⟩ (level :: outer) groups)
        (.closing :: rest) =
      arrange (plainly (level.push (if captured then .group index (Level.mk .plain branches row).term
        else (Level.mk .plain branches row).term)) outer groups) rest := by
  have consistent (inner : Level) : (plainly inner (level :: outer) groups).consistent = true := by
    simp [Arrangement.consistent, plainly]
  rw [arrange, List.foldlM_cons]
  cases captured <;> simp only [signToken, Arrangement.step, consistent] <;> rfl

/-- No term of a row is left out as nothing. -/
theorem row_of_terms {kind : LevelKind} {branches terms : List Term}
    (something : ∀ t ∈ terms, Level.isNothing t = false) :
    (Level.mk kind branches terms.reverse).row = rowTerm terms := by
  have kept : terms.filter (fun t => !Level.isNothing t) = terms := by
    rw [List.filter_eq_self]
    intro t member
    rw [something t member]
    rfl
  rw [Level.row, List.reverse_reverse, kept]
  match terms with
  | [] => rfl
  | [t] => rfl
  | _ :: _ :: _ => rfl

theorem row_of_chars (kind : LevelKind) (text : List Char) :
    (Level.mk kind [] (text.map fun c => .literal c false).reverse).row = textTerm text := by
  apply row_of_terms
  intro t member
  obtain ⟨c, _, rfl⟩ := List.mem_map.mp member
  rfl

/-- A text becomes one term. -/
theorem arrange_textSigns (text : List Char) (wrap : Bool) (kind : LevelKind) (branches row : List Term)
    (outer : List Level) (groups : Nat) :
    arrange (plainly ⟨kind, branches, row⟩ outer groups) (textSigns wrap text) =
      some (plainly ⟨kind, branches, enclosedTerm wrap (groups + 1) text :: row⟩ outer
        (if wrap then groups + 1 else groups)) := by
  rw [textSigns]
  split
  · next lone =>
    simp only [Bool.and_eq_true, Bool.not_eq_true', beq_iff_eq] at lone
    obtain ⟨rfl, single⟩ := lone
    obtain ⟨c, rfl⟩ := List.length_eq_one_iff.mp single
    rfl
  · have inner : (Level.mk .plain [] (text.map fun c => .literal c false).reverse).term = textTerm text :=
      row_of_chars .plain text
    rw [arrange_opening, arrange_append, Level.empty, arrange_chars, List.append_nil, Option.bind_some,
      arrange_closing, inner]
    rfl

/-- A choice becomes one term. -/
theorem arrange_signs {choice : Choice} (nonempty : choice.text ≠ []) (wrap : Bool) (kind : LevelKind)
    (branches row : List Term) (outer : List Level) (groups : Nat) :
    arrange (plainly ⟨kind, branches, row⟩ outer groups) (choice.signs wrap) =
      some (plainly ⟨kind, branches, choiceTerm wrap (groups + 1) choice :: row⟩ outer
        (if wrap then groups + 1 else groups)) := by
  obtain ⟨text, least, most⟩ := choice
  have repeatable : (enclosedTerm wrap (groups + 1) text).isRepeatable = true := by
    cases wrap with
    | false =>
      obtain ⟨c, rest, rfl⟩ := List.exists_cons_of_ne_nil nonempty
      cases rest <;> rfl
    | true => rfl
  rw [Choice.signs, arrange_append, arrange_textSigns, Option.bind_some]
  simp only [arrange, List.foldlM_cons, List.foldlM_nil, signToken, Arrangement.step, plainly, Level.quantify?,
    repeatable, ↓reduceIte, Option.map_some, Bool.false_eq_true]
  rfl

theorem arrange_choices {choices : List Choice} (wellFormed : ∀ choice ∈ choices, choice.WellFormed)
    (nonempty : choices ≠ []) (wrap : Bool) (kind : LevelKind) (branches : List Term) (outer : List Level)
    (groups : Nat) :
    ∃ level, ∃ count, arrange (plainly ⟨kind, branches, []⟩ outer groups)
        (List.intercalate [.bar] (choices.map (Choice.signs wrap))) = some (plainly level outer count) ∧
      level.kind = kind ∧
      level.row :: level.branches = (choiceTerms wrap (groups + 1) choices).reverse ++ branches := by
  induction choices generalizing branches groups with
  | nil => exact absurd rfl nonempty
  | cons choice rest ih =>
    have first := arrange_signs (wellFormed choice List.mem_cons_self).nonempty wrap kind branches [] outer groups
    cases rest with
    | nil =>
      rw [List.map_singleton, List.intercalate_singleton, first]
      exact ⟨_, _, rfl, rfl, rfl⟩
    | cons second more =>
      obtain ⟨level, count, arranged, same, branched⟩ :=
        ih (fun other member => wellFormed other (List.mem_cons_of_mem _ member)) nofun
          (choiceTerm wrap (groups + 1) choice :: branches) (if wrap then groups + 1 else groups)
      refine ⟨level, count, ?_, same, ?_⟩
      · rw [List.map_cons, List.map_cons, List.intercalate_cons_cons, arrange_append, arrange_append, first]
        exact arranged
      · cases wrap <;> simp [branched, choiceTerms]

theorem term_of_branches {level : Level} {terms : List Term}
    (branched : level.row :: level.branches = terms.reverse) : level.term = altTerm terms := by
  have whole : terms = level.branches.reverse ++ [level.row] := by
    rw [← List.reverse_reverse terms, ← branched, List.reverse_cons]
  rw [Level.term]
  split
  · next none => rw [whole, none]; rfl
  · next some =>
    rw [whole, List.reverse_cons, altTerm]
    intro t same
    have lone := congrArg List.length same
    simp at lone
    exact some lone

theorem isNothing_altTerm {choices : List Choice} (wrap : Bool) (index : Nat) :
    Level.isNothing (altTerm (choiceTerms wrap index choices)) = false := by
  match choices with
  | [] => rfl
  | [choice] => rfl
  | _ :: _ :: _ => rfl

/-- The extended dialect reads the choices as they are meant. -/
theorem ofText?_wholeTerm {choices : List Choice} (wellFormed : ∀ choice ∈ choices, choice.WellFormed)
    (nonempty : choices ≠ []) (captured wrap : Bool) :
    ∃ groups, Tree.ofText? (Sign.write (wholeSigns captured wrap choices)) =
      some ⟨wholeTerm captured wrap choices, groups, []⟩ := by
  let start : Level := ⟨.plain, [], [.look .textStart]⟩
  obtain ⟨⟨kind, branches, row⟩, count, arranged, rfl, branched⟩ := arrange_choices wellFormed nonempty wrap
    (if captured then .capture 1 else .plain) [] [start] (if captured then 1 else 0)
  have inner : (Level.mk .plain branches row).term =
      altTerm (choiceTerms wrap ((if captured then 1 else 0) + 1) choices) := by
    apply term_of_branches
    exact branched.trans (List.append_nil _)
  let middle : Term := if captured then .group 1 (altTerm (choiceTerms wrap 2 choices))
    else altTerm (choiceTerms wrap 1 choices)
  have folded : arrange .initial (wholeSigns captured wrap choices) =
      some (plainly ⟨.plain, [], [.look .textEnd, middle, .look .textStart]⟩ [] count) := by
    have opened : arrange .initial (wholeSigns captured wrap choices) =
        arrange (plainly start [] 0) (.opening captured ::
          (List.intercalate [.bar] (choices.map (Choice.signs wrap)) ++ [.closing, .stop])) := rfl
    rw [opened, arrange_opening, arrange_append, Level.empty, Nat.zero_add, arranged, Option.bind_some,
      arrange_closing, inner]
    cases captured <;> rfl
  have something : ∀ t ∈ [.look .textStart, middle, .look .textEnd], Level.isNothing t = false := by
    intro t member
    simp only [List.mem_cons, List.not_mem_nil, or_false] at member
    rcases member with rfl | rfl | rfl
    · rfl
    · cases captured with
      | false => exact isNothing_altTerm wrap 1
      | true => rfl
    · rfl
  have read : (Level.mk .plain [] [.look .textEnd, middle, .look .textStart]).term =
      wholeTerm captured wrap choices := row_of_terms something
  refine ⟨count, ?_⟩
  rw [Tree.ofText?, scan?_write (Choice.faithful_whole wellFormed captured wrap)
    (Choice.follow_whole wellFormed nonempty captured wrap), Option.bind_some, Tree.ofTokens?]
  rw [show List.foldlM _ _ (signTokens 0 _) = _ from foldlM_signTokens .initial _, folded, Option.bind_some]
  rw [← read]
  rfl

/-! ## The node of the term -/

open Term (Place inRow)

theorem inRow_node (parts : List Part) : (inRow parts).node = .catAll (parts.map (·.node)) := by
  match parts with
  | [] => rfl
  | [part] => rfl
  | _ :: _ :: _ => rfl

theorem toPart?_cat {items : List Term} {parts : List Part} (read : Term.toParts? .row items = some parts)
    (place : Place) :
    ∃ part, (Term.cat items).toPart? place = some part ∧ part.node = .catAll (parts.map (·.node)) := by
  refine ⟨if place = .branch then inRow parts else Term.enclose (inRow parts), ?_, ?_⟩
  · rw [Term.toPart?, read, Option.map_some]
  · rw [← inRow_node]
    split <;> rfl

theorem toPart?_textTerm {text : List Char} (nonempty : text ≠ []) (place : Place) :
    ∃ part, (textTerm text).toPart? place = some part ∧ part.node = textNode text := by
  have parts : ∀ text : List Char, Term.toParts? .row (text.map fun c => .literal c false) =
      some (text.map fun c => ⟨.set (.single c), 0⟩) := by
    intro text
    induction text with
    | nil => rfl
    | cons c rest ih => rw [List.map_cons, Term.toParts?, ih]; rfl
  cases text with
  | nil => exact absurd rfl nonempty
  | cons c rest =>
    cases rest with
    | nil => exact ⟨_, rfl, rfl⟩
    | cons d rest =>
      obtain ⟨part, read, node⟩ := toPart?_cat (parts (c :: d :: rest)) place
      exact ⟨part, read, by rw [node, List.map_map]; rfl⟩

theorem toPart?_choiceTerm {choice : Choice} (wellFormed : choice.WellFormed) (wrap : Bool) (index : Nat)
    (place : Place) :
    ∃ part, (choiceTerm wrap index choice).toPart? place = some part ∧ part.node = choice.node wrap index := by
  have body : ∃ part, Term.toPart? .quantified
      (if wrap then .group index (textTerm choice.text) else textTerm choice.text) = some part ∧
      part.node = if wrap then .group index (textNode choice.text) else textNode choice.text := by
    cases wrap with
    | false => exact toPart?_textTerm wellFormed.nonempty .quantified
    | true =>
      obtain ⟨part, read, node⟩ := toPart?_textTerm wellFormed.nonempty .branch
      refine ⟨⟨.group index part.node, part.depth + 1⟩, ?_, by rw [node]; rfl⟩
      change Term.toPart? .quantified (.group index _) = _
      rw [Term.toPart?, read, Option.map_some]
  obtain ⟨part, read, node⟩ := body
  have low : ¬ countLimit < choice.least.toNat := Nat.not_lt.mpr (Nat.le_of_lt_succ choice.least.toNat_lt)
  have high : ¬ countLimit < choice.most.toNat := Nat.not_lt.mpr (Nat.le_of_lt_succ choice.most.toNat_lt)
  have order : ¬ choice.most.toNat < choice.least.toNat :=
    Nat.not_lt.mpr (UInt32.le_iff_toNat_le.mp wellFormed.ordered)
  rw [choiceTerm, Term.toPart?, read, Choice.node, ← node]
  simp only [low, high, order, Option.any_some, decide_false, Bool.or_self, Bool.false_eq_true, ↓reduceIte,
    Option.map_some, Option.some.injEq, exists_eq_left']
  split <;> rfl

theorem toParts?_choiceTerms {choices : List Choice} (wellFormed : ∀ choice ∈ choices, choice.WellFormed)
    (wrap : Bool) (index : Nat) (place : Place) :
    ∃ parts, Term.toParts? place (choiceTerms wrap index choices) = some parts ∧
      parts.map (·.node) = Choice.nodes wrap index choices := by
  induction choices generalizing index with
  | nil => exact ⟨[], rfl, rfl⟩
  | cons choice rest ih =>
    obtain ⟨part, first, node⟩ := toPart?_choiceTerm (wellFormed choice List.mem_cons_self) wrap index place
    obtain ⟨parts, later, nodes⟩ := ih (fun other member => wellFormed other (List.mem_cons_of_mem _ member)) _
    refine ⟨part :: parts, ?_, ?_⟩
    · rw [choiceTerms, Term.toParts?, first, Option.bind_some, later, Option.map_some]
    · rw [List.map_cons, node, nodes, Choice.nodes]

theorem toPart?_altTerm {choices : List Choice} (wellFormed : ∀ choice ∈ choices, choice.WellFormed)
    (nonempty : choices ≠ []) (wrap : Bool) (index : Nat) (place : Place) :
    ∃ part, (altTerm (choiceTerms wrap index choices)).toPart? place = some part ∧
      part.node = .altAll (Choice.nodes wrap index choices) := by
  match choices, nonempty with
  | [choice], _ => exact toPart?_choiceTerm (wellFormed choice List.mem_cons_self) wrap index place
  | choice :: second :: more, _ =>
    obtain ⟨parts, read, nodes⟩ := toParts?_choiceTerms wellFormed wrap index .branch
    refine ⟨Term.enclose ⟨.altAll (parts.map (·.node)), (parts.map (·.depth)).foldl max 0 + 1⟩, ?_, ?_⟩
    · change (Term.alt (choiceTerms wrap index (choice :: second :: more))).toPart? place = _
      rw [Term.toPart?, read, Option.map_some]
    · rw [← nodes]
      rfl

theorem toPart?_wholeTerm {choices : List Choice} (wellFormed : ∀ choice ∈ choices, choice.WellFormed)
    (nonempty : choices ≠ []) (captured wrap : Bool) :
    ∃ part, (wholeTerm captured wrap choices).toPart? .branch = some part ∧
      part.node = Choice.whole captured wrap choices := by
  have middle : ∃ part, Term.toPart? .row (if captured then .group 1 (altTerm (choiceTerms wrap 2 choices))
      else altTerm (choiceTerms wrap 1 choices)) = some part ∧
      part.node = if captured then .group 1 (.altAll (Choice.nodes wrap 2 choices))
        else .altAll (Choice.nodes wrap 1 choices) := by
    cases captured with
    | false => exact toPart?_altTerm wellFormed nonempty wrap 1 .row
    | true =>
      obtain ⟨part, read, node⟩ := toPart?_altTerm wellFormed nonempty wrap 2 .branch
      refine ⟨⟨.group 1 part.node, part.depth + 1⟩, ?_, by rw [node]; rfl⟩
      change Term.toPart? .row (.group 1 _) = _
      rw [Term.toPart?, read, Option.map_some]
  obtain ⟨part, read, node⟩ := middle
  have parts : Term.toParts? .row [.look .textStart,
      if captured then .group 1 (altTerm (choiceTerms wrap 2 choices)) else altTerm (choiceTerms wrap 1 choices),
      .look .textEnd] = some [⟨.look .textStart, 1⟩, part, ⟨.look .textEnd, 1⟩] := by
    simp only [Term.toParts?, Term.toPart?, read, Option.bind_some, Option.map_some]
  obtain ⟨whole, row, same⟩ := toPart?_cat parts .branch
  refine ⟨whole, row, ?_⟩
  rw [same, Choice.whole, ← node]
  rfl

theorem isHard_rowTerm (ts : List Term) : (rowTerm ts).isHard [] = Term.anyHard [] ts := by
  cases ts with
  | nil => rfl
  | cons t rest =>
    cases rest with
    | nil => exact (Bool.or_false _).symm
    | cons u rest => rfl

theorem isHard_textTerm (text : List Char) : (textTerm text).isHard [] = false := by
  rw [textTerm, isHard_rowTerm]
  induction text with
  | nil => rfl
  | cons c rest ih => exact ih

theorem isHard_altTerm (wrap : Bool) (index : Nat) (choices : List Choice) :
    (altTerm (choiceTerms wrap index choices)).isHard [] = false := by
  have one : ∀ (index : Nat) (choice : Choice), (choiceTerm wrap index choice).isHard [] = false := by
    intro index choice
    rw [choiceTerm, Term.isHard]
    cases wrap with
    | false => exact isHard_textTerm choice.text
    | true =>
      change (Term.group index (textTerm choice.text)).isHard [] = false
      rw [Term.isHard, isHard_textTerm]
      rfl
  have all : ∀ (choices : List Choice) (index : Nat), Term.anyHard [] (choiceTerms wrap index choices) = false := by
    intro choices
    induction choices with
    | nil => exact fun _ => rfl
    | cons choice rest ih =>
      intro index
      rw [choiceTerms, Term.anyHard, one, ih]
      rfl
  cases choices with
  | nil => rfl
  | cons choice more =>
    cases more with
    | nil => exact one index choice
    | cons second more => exact all (choice :: second :: more) index

theorem isHard_wholeTerm (captured wrap : Bool) (choices : List Choice) :
    (wholeTerm captured wrap choices).isHard [] = false := by
  have first := isHard_altTerm wrap 1 choices
  have second := isHard_altTerm wrap 2 choices
  cases captured <;> simp [wholeTerm, Term.isHard, Term.anyHard, Term.isHardLook, first, second]

/-- A pattern text of choices is matched by the plain search, or refused if it is too large for it. -/
theorem ofText?_whole {choices : List Choice} (wellFormed : ∀ choice ∈ choices, choice.WellFormed)
    (nonempty : choices ≠ []) (captured wrap : Bool) :
    ∃ groups, Matcher.ofText? (Sign.write (wholeSigns captured wrap choices)) =
      if (Choice.whole captured wrap choices).fits then
        some (.plain (Choice.whole captured wrap choices).program groups)
      else none := by
  obtain ⟨groups, plain⟩ := Choice.ofText?_whole wellFormed nonempty captured wrap
  obtain ⟨count, extended⟩ := ofText?_wholeTerm wellFormed nonempty captured wrap
  obtain ⟨part, read, node⟩ := toPart?_wholeTerm wellFormed nonempty captured wrap
  refine ⟨groups, ?_⟩
  rw [Matcher.ofText?, Matcher.ofPlain?, plain, Option.bind_some, Matcher.ofExtended?, extended, Option.bind_some]
  simp only [isHard_wholeTerm, Bool.false_eq_true, ↓reduceIte, read, Option.bind_some, node]
  split
  · rfl
  · next large => simp [large]

end PatternComposer.Regex.Extended
