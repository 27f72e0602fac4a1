import PatternComposer.Proofs.Regex.Extended.Choices
import PatternComposer.Proofs.Regex.Extended.Tests
import PatternComposer.Proofs.Regex.Grouped

/-! # Texts with a text that follows or must not follow

A literal text with a lookahead for another one behind it. The plain dialect refuses it, so it is searched with
backtracking. Its plan tests whether the first text stands at a position with the second one behind it, or without
(`tests_lookahead`), and what is found is the first such place (`find_lookahead_text`).
-/

namespace PatternComposer.Regex

open Choice (chars textSigns textNode Stands)

/-! ## Texts in a plain search -/

namespace Choice

theorem code_textNode (text : List Char) : (textNode text).code = text.map fun c => .take (.single c) := by
  induction text with
  | nil => rfl
  | cons c rest ih =>
    cases rest with
    | nil => rfl
    | cons d more => exact congrArg (Inst.take (.single c) :: ·) ih

theorem exists_stands_iff {cs text : List Char} {pos : Nat} :
    (∃ j, Stands cs pos text j) ↔ text <+: cs.drop pos := by
  constructor
  · rintro ⟨j, _, split⟩
    exact ⟨cs.drop j, split.symm⟩
  · rintro ⟨rest, split⟩
    refine ⟨pos + text.length, rfl, ?_⟩
    rw [← List.drop_drop, ← split, List.drop_left]

end Choice

namespace Extended

/-! ## Reading -/

/-- Looking ahead for what follows, or for what must not follow. -/
def lookingAhead (negated : Bool) : Around := if negated then .notAhead else .ahead

/-- A text with a lookahead for another one, each of them in a group that captures if `wrap`. -/
def lookaheadText (negated wrap : Bool) (first second : List Char) : List Char :=
  Sign.write (textSigns wrap first) ++
    '(' :: '?' :: (if negated then '!' else '=') :: Sign.write (textSigns wrap second ++ [.closing])

def lookaheadTerm (negated wrap : Bool) (first second : List Char) : Term :=
  .cat [enclosedTerm wrap 1 first, .around (lookingAhead negated) (enclosedTerm wrap 2 second)]

variable {first second : List Char}

theorem faithful_inside (wrap : Bool) (faithful : ∀ c ∈ second, c ∉ Sign.copied) :
    ∀ sign ∈ textSigns wrap second ++ [.closing], sign.Faithful := by
  intro sign member
  rcases List.mem_append.mp member with member | member
  · exact Choice.faithful_textSigns faithful wrap sign member
  · obtain rfl := List.mem_singleton.mp member
    trivial

/-- A lookahead needs no other spelling for the engine. -/
theorem toEngine_lookahead (negated wrap : Bool) (faithful : ∀ c ∈ first, c ∉ Sign.copied)
    (faithful' : ∀ c ∈ second, c ∉ Sign.copied) :
    Dialect.toEngine (lookaheadText negated wrap first second) = lookaheadText negated wrap first second := by
  have bare : ∀ c ∈ ['(', '?', if negated then '!' else '='], c ≠ '\\' ∧ c ≠ '[' := by
    cases negated <;> simp
  have mark := Sign.toEngineFrom_bare bare (Sign.write (textSigns wrap second ++ [.closing]))
  have inner := Sign.toEngine_write (faithful_inside wrap faithful')
  rw [Dialect.toEngine_eq] at inner
  rw [inner] at mark
  rw [Dialect.toEngine_eq, lookaheadText, Sign.toEngineFrom_write (Choice.faithful_textSigns faithful wrap)]
  exact congrArg _ mark

theorem fresh_lookahead (cs : List Char) : Sign.Fresh ('(' :: cs) := fun _ => ⟨nofun, nofun⟩

/-- The plain dialect refuses to look ahead. -/
theorem ofPlain?_lookahead (negated wrap : Bool) (nonempty : first ≠ [])
    (faithful : ∀ c ∈ first, c ∉ Sign.copied)
    (second : List Char) : Matcher.ofPlain? (lookaheadText negated wrap first second) = none := by
  have reads := Sign.reads_write (Choice.faithful_textSigns faithful wrap)
    (Choice.follow_textSigns nonempty wrap false (Nat.zero_le 1))
    (fresh_lookahead ('?' :: (if negated then '!' else '=') :: Sign.write (textSigns wrap second ++ [.closing])))
  have unread : Regex.Token.scan? (lookaheadText negated wrap first second) = none := by
    refine reads.scan?_eq_none (List.cons_ne_nil _ _) ?_
    cases negated <;> rfl
  rw [Matcher.ofPlain?, Regex.Tree.ofText?, unread]
  rfl

theorem groups_arrange {a after : Arrangement} {signs : List Sign} (arranged : arrange a signs = some after) :
    after.groups = signs.foldl signCount a.groups := by
  induction signs generalizing a with
  | nil => cases arranged; rfl
  | cons sign rest ih =>
    rw [arrange, List.foldlM_cons] at arranged
    obtain ⟨next, stepped, arranged⟩ := Option.bind_eq_some_iff.mp arranged
    rw [List.foldl_cons, ← groups_step stepped]
    exact ih arranged

/-- A lookahead is read as one token, whatever stands in it. -/
theorem token_lookahead (negated : Bool) {s : Scanner} (modes : s.modes = .initial)
    (shallow : s.opens.length + 1 < Scanner.nestLimit) (bytes : Nat) (rest : List Char) :
    s.token bytes ('(' :: '?' :: (if negated then '!' else '=') :: rest) =
      some (.opening (.around (lookingAhead negated)), s.opened none false, rest) := by
  have room : ¬ Scanner.nestLimit ≤ s.opens.length + 1 := Nat.not_le.mpr shallow
  have front : skip s.modes ('?' :: (if negated then '!' else '=') :: rest) =
      some ('?' :: (if negated then '!' else '=') :: rest) := by
    rw [modes]
    exact skip_initial fun _ => by simp
  change Scanner.openParen bytes s _ = _
  rw [Scanner.openParen, if_neg room, front, Option.bind_some]
  cases negated <;> rfl

/-- The tokens of both texts, with the one that looks ahead between them. -/
def lookaheadTokens (negated wrap : Bool) (first second : List Char) : List Token :=
  signTokens 0 (textSigns wrap first) ++ .opening (.around (lookingAhead negated)) ::
    signTokens (if wrap then 1 else 0) (textSigns wrap second ++ [.closing])

theorem scan?_lookahead (negated wrap : Bool) (nonempty : first ≠ []) (faithful : ∀ c ∈ first, c ∉ Sign.copied)
    (nonempty' : second ≠ []) (faithful' : ∀ c ∈ second, c ∉ Sign.copied) :
    Token.scan? (lookaheadText negated wrap first second) = some (lookaheadTokens negated wrap first second) := by
  -- The mark of the lookahead is no sign. It is read by itself, between the signs of the two texts.
  let inner := textSigns wrap second ++ [.closing]
  let bytes := Text.byteLength (lookaheadText negated wrap first second)
  have agrees : Agrees .initial (false, 0) 0 := ⟨rfl, rfl, fun _ member => absurd member List.not_mem_nil, rfl, rfl⟩
  have uncommented :
      ∀ after, '(' :: '?' :: (if negated then '!' else '=') :: Sign.write inner ≠ '(' :: '?' :: '#' :: after := by
    cases negated <;> simp
  obtain ⟨s, before, reached⟩ := reads_write (Choice.faithful_textSigns faithful wrap)
    (Choice.follow_textSigns nonempty wrap false (Nat.zero_le 1)) agrees bytes (fresh_lookahead _) uncommented
  have counted : (if wrap then 1 else 0) = (textSigns wrap first).foldl signCount 0 :=
    groups_arrange (arrange_textSigns first wrap .plain [] [] [] 0)
  rw [← counted] at reached
  have shallow : s.opens.length + 1 < Scanner.nestLimit := by
    rw [reached.depth]
    decide
  have looks : Agrees (s.opened none false) (false, 1) (if wrap then 1 else 0) := by
    refine ⟨reached.modes, congrArg Nat.succ reached.depth, fun open_ member => ?_, reached.groups, rfl⟩
    rcases List.mem_cons.mp member with rfl | member
    · exact ⟨rfl, rfl⟩
    · exact reached.restores open_ member
  have follows : inner.foldlM Sign.follow (false, 1) = some (true, 0) := by
    rw [List.foldlM_append, Choice.follow_textSigns nonempty' wrap false (Nat.le_refl 1)]
    rfl
  obtain ⟨last, behind, closed⟩ := reads_write (faithful_inside wrap faithful') follows looks bytes Sign.fresh_nil
    fun _ => nofun
  rw [List.append_nil] at behind
  have seen := skip_initial uncommented
  rw [← reached.modes] at seen
  have shorter :
      (Sign.write inner).length < ('(' :: '?' :: (if negated then '!' else '=') :: Sign.write inner).length := by
    simp only [List.length_cons]
    omega
  have read := token_lookahead negated reached.modes shallow bytes (Sign.write inner)
  exact (before.append (.token seen read shorter behind)).scan?_eq (List.eq_nil_of_length_eq_zero closed.depth)

theorem isNothing_enclosedTerm (wrap : Bool) (index : Nat) {text : List Char} (nonempty : text ≠ []) :
    Level.isNothing (enclosedTerm wrap index text) = false := by
  cases wrap with
  | true => rfl
  | false =>
    obtain ⟨c, rest, rfl⟩ := List.exists_cons_of_ne_nil nonempty
    cases rest <;> rfl

/-- The extended dialect reads the lookahead as it is meant. -/
theorem ofText?_lookahead (negated wrap : Bool) (nonempty : first ≠ [])
    (faithful : ∀ c ∈ first, c ∉ Sign.copied)
    (nonempty' : second ≠ []) (faithful' : ∀ c ∈ second, c ∉ Sign.copied) :
    ∃ groups, Tree.ofText? (lookaheadText negated wrap first second) =
      some ⟨lookaheadTerm negated wrap first second, groups, []⟩ := by
  let front := enclosedTerm wrap 1 first
  let body := enclosedTerm wrap 2 second
  let count := if wrap then 1 else 0
  let count' := if wrap then 2 else 0
  let outside : Level := ⟨.plain, [], [front]⟩
  have before : arrange .initial (textSigns wrap first) = some (plainly outside [] count) :=
    arrange_textSigns first wrap .plain [] [] [] 0
  have inside : arrange (plainly (.empty (.around (lookingAhead negated))) [outside] count) (textSigns wrap second) =
      some (plainly ⟨.around (lookingAhead negated), [], [body]⟩ [outside] count') := by
    have arranged := arrange_textSigns second wrap (.around (lookingAhead negated)) [] [] [outside] count
    cases wrap <;> exact arranged
  have something : ∀ t ∈ [body], Level.isNothing t = false := by
    intro t member
    obtain rfl := List.mem_singleton.mp member
    exact isNothing_enclosedTerm wrap 2 nonempty'
  have row : (Level.mk (.around (lookingAhead negated)) [] [body]).term = body := row_of_terms something
  have closed : arrange (plainly ⟨.around (lookingAhead negated), [], [body]⟩ [outside] count') [.closing] =
      some (plainly ⟨.plain, [], [.around (lookingAhead negated) body, front]⟩ [] count') := by
    rw [← congrArg (Term.around (lookingAhead negated)) row]
    rfl
  have folded : (lookaheadTokens negated wrap first second).foldlM Arrangement.step .initial =
      some (plainly ⟨.plain, [], [.around (lookingAhead negated) body, front]⟩ [] count') := by
    rw [lookaheadTokens, List.foldlM_append,
      show List.foldlM _ _ (signTokens 0 _) = _ from foldlM_signTokens .initial _,
      before]
    change List.foldlM _ (plainly (.empty (.around (lookingAhead negated))) [outside] count) (signTokens count _) = _
    rw [show List.foldlM _ _ (signTokens count _) = _ from foldlM_signTokens (plainly _ _ count) _,
      arrange_append, inside]
    exact closed
  have something : ∀ t ∈ [front, .around (lookingAhead negated) body], Level.isNothing t = false := by
    intro t member
    rcases List.mem_cons.mp member with rfl | member
    · exact isNothing_enclosedTerm wrap 1 nonempty
    · obtain rfl := List.mem_singleton.mp member
      rfl
  have whole : (Level.mk .plain [] [.around (lookingAhead negated) body, front]).term =
      lookaheadTerm negated wrap first second := row_of_terms something
  refine ⟨count', ?_⟩
  rw [Tree.ofText?, scan?_lookahead negated wrap nonempty faithful nonempty' faithful', Option.bind_some,
    Tree.ofTokens?, folded, Option.bind_some, ← whole]
  rfl

/-! ## Planning -/

variable {wrap : Bool} {index : Nat} {text : List Char}

theorem isHard_enclosedTerm (wrap : Bool) (index : Nat) (text : List Char) :
    (enclosedTerm wrap index text).isHard [] = false := by
  cases wrap with
  | false => exact isHard_textTerm text
  | true =>
    change (Term.group index (textTerm text)).isHard [] = false
    rw [Term.isHard, isHard_textTerm]
    rfl

theorem isConst_rowTerm (ts : List Term) : (rowTerm ts).isConst = Term.allConst ts := by
  cases ts with
  | nil => rfl
  | cons t rest =>
    cases rest with
    | nil => exact (Bool.and_true _).symm
    | cons u rest => rfl

theorem isConst_textTerm (text : List Char) : (textTerm text).isConst = true := by
  rw [textTerm, isConst_rowTerm]
  induction text with
  | nil => rfl
  | cons c rest ih => exact ih

theorem isConst_enclosedTerm (wrap : Bool) (index : Nat) (text : List Char) :
    (enclosedTerm wrap index text).isConst = true := by
  cases wrap with
  | false => exact isConst_textTerm text
  | true =>
    change (Term.group index (textTerm text)).isConst = true
    rw [Term.isConst, isConst_textTerm]

/-- Where nothing has to come back to it, a text is planned like a row of its own. -/
theorem ofTerm?_enclosedTerm (wrap : Bool) (index : Nat) (nonempty : text ≠ []) :
    Plan.ofTerm? [] false (enclosedTerm wrap index text) = Plan.ofEasy? [enclosedTerm wrap index text] := by
  have easy := isHard_enclosedTerm wrap index text
  cases wrap with
  | true =>
    change Plan.ofTerm? [] false (.group index (textTerm text)) = _
    rw [Plan.ofTerm?, show (Term.group index (textTerm text)).isHard [] = false from easy]
    rfl
  | false =>
    match text, nonempty with
    | [c], _ => rfl
    | c :: d :: rest, _ =>
      change Plan.ofTerm? [] false (.cat _) = _
      rw [Plan.ofTerm?, show Term.anyHard [] _ = false from easy]
      rfl

/-- A term of fixed size goes first, then the lookahead behind it. -/
theorem ofRow?_lookahead {t around : Term} (easy : t.isHard [] = false) (const : t.isConst = true)
    (hard : around.isHard [] = true) (own looks : Plan) :
    Plan.ofRow? [] true [t, around] [own, looks] =
      (Plan.ofEasy? [t]).map fun front => .seq front (.seq looks .done) := by
  simp only [Plan.ofRow?, easy, const, hard, List.takeWhile_cons, List.drop_succ_cons, List.drop_zero, List.length_cons,
    List.length_nil, List.reverse_cons, List.reverse_nil, List.nil_append, Bool.not_true, Bool.not_false, Bool.and_true,
    Bool.false_and, Bool.and_false, Bool.false_eq_true, ↓reduceIte]
  cases Plan.ofEasy? [t] <;> rfl

theorem ofTerm?_lookahead {negated : Bool} {t body : Term} {plan : Plan} (easy : t.isHard [] = false)
    (const : t.isConst = true)
    (planned : Plan.ofTerm? [] true (.cat [t, .around (lookingAhead negated) body]) = some plan) :
    ∃ front inner, Plan.ofEasy? [t] = some front ∧ Plan.ofTerm? [] false body = some inner ∧
      plan = .seq front (.seq (.look (lookingAhead negated) inner) .done) := by
  have around : Plan.ofTerm? [] true (.around (lookingAhead negated) body) =
      (Plan.ofTerm? [] false body).map (.look (lookingAhead negated)) := by
    cases negated <;> exact Plan.ofTerm?.eq_def ..
  rw [Plan.ofTerm?] at planned
  obtain ⟨plans, each, row⟩ := Option.bind_eq_some_iff.mp planned
  rw [Plan.ofTerms?, Plan.ofTerms?, Plan.ofTerms?, around] at each
  obtain ⟨own, _, others⟩ := Option.bind_eq_some_iff.mp each
  obtain ⟨_, behind, rfl⟩ := Option.map_eq_some_iff.mp others
  obtain ⟨_, looks, last⟩ := Option.bind_eq_some_iff.mp behind
  obtain ⟨inner, found, rfl⟩ := Option.map_eq_some_iff.mp looks
  cases last
  rw [ofRow?_lookahead easy const rfl] at row
  obtain ⟨front, first, rfl⟩ := Option.map_eq_some_iff.mp row
  exact ⟨front, inner, first, found, rfl⟩

/-! ## Running -/

theorem allText?_literals (text : List Char) : Term.allText? (text.map fun c => .literal c false) = some text := by
  induction text with
  | nil => rfl
  | cons c rest ih =>
    rw [List.map_cons, Term.allText?, ih]
    rfl

theorem text?_textTerm (nonempty : text ≠ []) : (textTerm text).text? = some text := by
  match text, nonempty with
  | [c], _ => rfl
  | c :: d :: rest, _ => exact allText?_literals (c :: d :: rest)

theorem groups_rowTerm (ts : List Term) : (rowTerm ts).groups = Term.allGroups ts := by
  cases ts with
  | nil => rfl
  | cons t rest =>
    cases rest with
    | nil => exact (List.append_nil _).symm
    | cons u rest => rfl

theorem groups_textTerm (text : List Char) : (textTerm text).groups = [] := by
  rw [textTerm, groups_rowTerm]
  induction text with
  | nil => rfl
  | cons c rest ih => exact ih

/-- A captured text is left to the plain search. -/
theorem ofEasy?_captured {plan : Plan} (nonempty : text ≠ [])
    (planned : Plan.ofEasy? [.group index (textTerm text)] = some plan) :
    plan = .plain (Node.group index (textNode text)).program [index] := by
  obtain ⟨part, read, node⟩ := toPart?_textTerm nonempty .branch
  have parts : Term.toParts? .branch [.group index (textTerm text)] =
      some [⟨.group index part.node, part.depth + 1⟩] := by
    rw [Term.toParts?, Term.toPart?, read]
    rfl
  have groups : Term.allGroups [.group index (textTerm text)] = [index] := by
    rw [Term.allGroups, Term.groups, groups_textTerm]
    rfl
  rw [Plan.ofEasy?] at planned
  simp only [Term.allText?, Term.text?, Option.bind_none] at planned
  rw [parts, Option.bind_some, groups, Term.inRow, Plan.ofPart?, Option.ite_none_right_eq_some] at planned
  rw [← node]
  exact (Option.some.inj planned.2).symm

theorem tests_captured (subject : Subject) (notWhole : index ≠ 0) (text : List Char) :
    Plan.Tests subject (.plain (Node.group index (textNode text)).program [index]) text.length 0
      fun pos => text <+: subject.text.toList.drop pos := by
  have code : (Node.group index (textNode text)).code =
      .mark (2 * index) :: ((text.map fun c => .take (.single c)) ++ [.mark (2 * index + 1)]) := by
    rw [Node.code, Choice.code_textNode]
  have straight : ∀ inst ∈ (Node.group index (textNode text)).code, inst.isStraight = true := by
    intro inst member
    rw [code] at member
    simp only [List.mem_cons, List.mem_append, List.mem_map, List.not_mem_nil, or_false] at member
    rcases member with rfl | ⟨c, _, rfl⟩ | rfl <;> rfl
  have width : codeWidth (Node.group index (textNode text)).code = text.length := by
    rw [code, codeWidth]
    simp [Inst.width, Function.comp_def]
  have accepts : ∀ pos ≤ subject.text.size,
      ((Node.group index (textNode text)).program.matchAt? subject.text pos).isSome = true ↔
        text <+: subject.text.toList.drop pos := by
    intro pos within
    have ordered : (Node.group index (textNode text)).Ordered := Choice.ordered_textNode text
    rw [Node.matchAt?_isSome_iff ordered within, ← Choice.exists_stands_iff]
    exact exists_congr fun j => Choice.spans_textNode
  rw [← width]
  exact .plain straight (by simpa using notWhole.symm) accepts

/-- However a text is planned, its plan tests whether the text stands at a position. -/
theorem tests_ofEasy? {plan : Plan} (nonempty : text ≠ []) (notWhole : index ≠ 0)
    (planned : Plan.ofEasy? [enclosedTerm wrap index text] = some plan) (subject : Subject) :
    plan.Tests subject text.length 0 fun pos => text <+: subject.text.toList.drop pos := by
  cases wrap with
  | true =>
    obtain rfl := ofEasy?_captured nonempty planned
    exact tests_captured subject notWhole text
  | false =>
    have own : Plan.ofEasy? [textTerm text] = some (.text text) := by
      rw [Plan.ofEasy?]
      simp [Term.allText?, text?_textTerm nonempty]
    obtain rfl := Option.some.inj (own.symm.trans planned)
    exact .text text

theorem tests_look {subject : Subject} {plan : Plan} {width : Nat} {holds : Nat → Prop} (negated : Bool)
    (tests : plan.Tests subject width 0 holds) :
    Plan.Tests subject (.look (lookingAhead negated) plan) 0 (if negated then 1 else 0)
      fun pos => holds pos ↔ negated = false := by
  cases negated with
  | false => exact tests.ahead.congr fun pos => (iff_true_right rfl).symm
  | true => exact tests.notAhead.congr fun pos => (iff_false_right (by decide)).symm

/-- The second text follows the first one at this position of a text, or must not follow it. -/
def LooksAhead (negated : Bool) (first second cs : List Char) (pos : Nat) : Prop :=
  first <+: cs.drop pos ∧ (first ++ second <+: cs.drop pos ↔ negated = false)

theorem append_prefix_drop_iff {cs : List Char} {pos : Nat} (starts : first <+: cs.drop pos) :
    first ++ second <+: cs.drop pos ↔ second <+: cs.drop (pos + first.length) := by
  obtain ⟨rest, split⟩ := starts
  rw [← List.drop_drop, ← split, List.drop_left, List.prefix_append_right_inj]

/-- The search with a lookahead finds the first place where the one text stands with the other behind it, or without. -/
theorem find_lookahead_text {negated wrap : Bool} (nonempty : first ≠ [])
    (faithful : ∀ c ∈ first, c ∉ Sign.copied)
    (nonempty' : second ≠ []) (faithful' : ∀ c ∈ second, c ∉ Sign.copied) {matcher : Matcher}
    (read : Matcher.ofText? (lookaheadText negated wrap first second) = some matcher) (cs : List Char) :
    matcher.isBacktracking = true ∧
      ((matcher.find cs.toArray 0 = none ∧ Plan.backtrackLimit < cs.length + 2) ∨
        ∃ found, matcher.find cs.toArray 0 = some found ∧
          Span.IsFirst (Plan.startsFrom (LooksAhead negated first second cs) cs.length 0) first.length found) := by
  obtain ⟨groups, drawn⟩ := ofText?_lookahead negated wrap nonempty faithful nonempty' faithful'
  rw [Matcher.ofText?, ofPlain?_lookahead negated wrap nonempty faithful second] at read
  obtain ⟨tree, same, made⟩ := Matcher.ofExtended?_eq_some read
  obtain rfl := Option.some.inj (drawn.symm.trans same)
  have hard : (lookaheadTerm negated wrap first second).isHard [] = true := by
    simp [lookaheadTerm, Term.isHard, Term.anyHard]
  rw [Matcher.ofTree?, if_pos hard] at made
  obtain ⟨plan, planned, rfl⟩ := Option.map_eq_some_iff.mp made
  obtain ⟨front, inner, begins, follows, rfl⟩ := ofTerm?_lookahead (isHard_enclosedTerm wrap 1 first)
    (isConst_enclosedTerm wrap 1 first) planned
  rw [ofTerm?_enclosedTerm wrap 2 nonempty'] at follows
  let subject : Subject := ⟨cs.toArray, 0⟩
  have looks := tests_look negated (tests_ofEasy? nonempty' (by decide) follows subject)
  have tests := (tests_ofEasy? nonempty (by decide) begins subject).seq looks.seq_done
  have same (pos : Nat) : (first <+: cs.drop pos ∧ (second <+: cs.drop (pos + first.length) ↔ negated = false)) ↔
      LooksAhead negated first second cs pos :=
    and_congr_right fun starts => by rw [append_prefix_drop_iff starts]
  refine ⟨rfl, ?_⟩
  obtain ⟨gaveUp, short⟩ | ⟨found, answer, spec⟩ :=
    Matcher.find_of_tests (tests.congr same) (Nat.zero_le _) groups
  · refine .inl ⟨gaveUp, ?_⟩
    have price : (if negated then 1 else 0) ≤ 1 := by cases negated <;> decide
    rw [List.size_toArray] at short
    omega
  · rw [List.size_toArray] at spec
    exact .inr ⟨found, answer, spec⟩

end Extended
end PatternComposer.Regex
