import PatternComposer.Proofs.Builder.Run

/-! # Open statements of a pattern text

`Reading` reads a pattern text from left to right: escapes, classes, and the parentheses outside of
both. It knows nothing of builders. `openStatements_eq_openers` says that the statements which a
builder counts as open are those whose parentheses are unmatched in its text, whatever calls led
there, so that the stack and the text cannot drift apart.

The kind of a parenthesis is decided by the two characters after it. A fragment may therefore not
begin with what would turn a parenthesis in front of it into a lookahead: it has to be `Settled`.
-/

namespace PatternComposer

/-- The kind of statement that a parenthesis opens, given the text after it. -/
def Statement.ofOpening (rest : List Char) : Statement :=
  if rest.take 2 = ['?', '='] ∨ rest.take 2 = ['?', '!'] then .lookAhead else .group

/-- Where a reader of a pattern text stands. `opened` holds the unmatched openers, the innermost
first. -/
structure Reading where
  opened : List Statement
  inClass : Bool
  escaped : Bool
deriving DecidableEq, Repr

namespace Reading

/-- A place outside of classes and escapes. -/
def outside (opened : List Statement) : Reading := ⟨opened, false, false⟩

/-- Reads one character in front of `rest`. -/
def step (r : Reading) (c : Char) (rest : List Char) : Reading :=
  if r.escaped then { r with escaped := false }
  else if c = '\\' then { r with escaped := true }
  else if r.inClass then { r with inClass := c != ']' }
  else if c = '[' then { r with inClass := true }
  else if c = '(' then { r with opened := .ofOpening rest :: r.opened }
  else if c = ')' then { r with opened := r.opened.tail }
  else r

def read (r : Reading) : List Char → Reading
  | [] => r
  | c :: rest => (r.step c rest).read rest

end Reading

/-- The kinds of the unmatched openers of a text, the outermost first. -/
def openers (text : String) : List Statement :=
  ((Reading.outside []).read text.toList).opened.reverse

/-- A text that does not change the kind of a parenthesis in front of it. -/
def Settled (text : List Char) : Prop :=
  text.take 1 ≠ ['='] ∧ text.take 1 ≠ ['!'] ∧ text.take 2 ≠ ['?', '='] ∧ text.take 2 ≠ ['?', '!']

instance (text : List Char) : Decidable (Settled text) := by unfold Settled; infer_instance

theorem Statement.ofOpening_append (s : List Char) {t : List Char} (settled : Settled t) :
    ofOpening (s ++ t) = ofOpening s := by
  obtain ⟨equals, bang, ahead, notAhead⟩ := settled
  match s with
  | [] => simp [ofOpening, ahead, notAhead]
  | [c] => simp [ofOpening, equals, bang]
  | c :: d :: rest => simp [ofOpening]

namespace Reading

theorem read_append (r : Reading) (s : List Char) {t : List Char} (settled : Settled t) :
    r.read (s ++ t) = (r.read s).read t := by
  induction s generalizing r with
  | nil => rfl
  | cons c rest ih =>
    have same : r.step c (rest ++ t) = r.step c rest := by
      simp only [step, Statement.ofOpening_append rest settled]
    simp only [List.cons_append, read, same, ih]

/-- Characters without a meaning for the reader. -/
def isNeutral (c : Char) : Bool := c != '\\' && c != '[' && c != '(' && c != ')'

theorem read_neutral {s : List Char} (neutral : ∀ c ∈ s, isNeutral c) (opened : List Statement) :
    (outside opened).read s = outside opened := by
  induction s with
  | nil => rfl
  | cons c rest ih =>
    have plain := neutral c (List.mem_cons_self ..)
    have same : (outside opened).step c rest = outside opened := by grind [step, outside, isNeutral]
    rw [read, same]
    exact ih fun d member => neutral d (List.mem_cons_of_mem _ member)

/-- In a class only a closing bracket and a backslash matter. -/
theorem read_class {s : List Char} (opened : List Statement)
    (inert : ∀ c ∈ s, c ≠ '\\' ∧ c ≠ ']') :
    read ⟨opened, true, false⟩ s = ⟨opened, true, false⟩ := by
  induction s with
  | nil => rfl
  | cons c rest ih =>
    have plain := inert c (List.mem_cons_self ..)
    have same : step ⟨opened, true, false⟩ c rest = ⟨opened, true, false⟩ := by grind [step]
    rw [read, same]
    exact ih fun d member => inert d (List.mem_cons_of_mem _ member)

/-- Escaped text opens and closes nothing: every parenthesis in it has its backslash. -/
theorem read_escape {s : List Char} (backslash : '\\' ∉ s) (bracket : '[' ∉ s)
    (opened : List Statement) (rest : List Char) :
    (outside opened).read (Text.escape s ++ rest) = (outside opened).read rest := by
  induction s with
  | nil => rfl
  | cons c s ih =>
    have tail := ih (fun member => backslash (List.mem_cons_of_mem _ member))
      (fun member => bracket (List.mem_cons_of_mem _ member))
    by_cases escaped : Text.isEscaped c
    · simpa [Text.escape, escaped, read, step, outside] using tail
    · have plain : isNeutral c := by
        grind [isNeutral, Text.isEscaped_iff]
      have same (more : List Char) : (outside opened).step c more = outside opened := by
        grind [step, outside, isNeutral]
      simpa [Text.escape, escaped, read, same] using tail

end Reading

/-! ## Fragments -/

namespace Settled

theorem append {s t : List Char} (first : Settled s) (second : Settled t) : Settled (s ++ t) := by
  obtain ⟨equals, bang, ahead, notAhead⟩ := second
  match s with
  | [] => exact ⟨equals, bang, ahead, notAhead⟩
  | [c] => simp_all [Settled]
  | c :: d :: rest => simpa [Settled] using first

theorem ofOpening_eq {t : List Char} (settled : Settled t) : Statement.ofOpening t = .group :=
  Statement.ofOpening_append [] settled

/-- No character that would change a parenthesis is left without its backslash. -/
theorem escape {s : List Char} (nonempty : s ≠ []) (rest : List Char) :
    Settled (Text.escape s ++ rest) := by
  obtain ⟨c, s, rfl⟩ := List.exists_cons_of_ne_nil nonempty
  by_cases escaped : Text.isEscaped c
  · simp [Settled, Text.escape, escaped]
  · have plain : c ≠ '=' ∧ c ≠ '!' ∧ c ≠ '?' := by grind [Text.isEscaped_iff]
    simp [Settled, Text.escape, escaped, plain]

end Settled

namespace Builder

open Reading

/-- What a text has to be for a fragment to append it between two others. -/
def Neutral (fragment : List Char) : Prop :=
  Settled fragment ∧ ∀ opened, (outside opened).read fragment = outside opened

theorem neutral_textFragment (captured : Bool) {text : String} (backslash : '\\' ∉ text.toList)
    (bracket : '[' ∉ text.toList) : Neutral (textFragment captured text).toList := by
  by_cases empty : text.isEmpty
  · simp [textFragment, empty, Neutral, Settled, Reading.read]
  have nonempty : text.toList ≠ [] := by simpa using empty
  have reads := read_escape backslash bracket
  have settled := Settled.escape nonempty
  have group := (settled [')']).ofOpening_eq
  have closed (opened : List Statement) :
      (outside (.group :: opened)).read (Text.escape text.toList ++ [')']) = outside opened := by
    rw [reads]; rfl
  by_cases wrapped : captured
  · simp only [textFragment, empty, wrapped, Bool.false_eq_true, ↓reduceIte, Text.escapeString,
      String.toList_append, String.toList_ofList]
    refine ⟨by simp [Settled], fun opened => ?_⟩
    have opens : (outside opened).step '(' (Text.escape text.toList ++ [')']) =
        outside (.group :: opened) := by simp [step, outside, group]
    exact (congrArg (read · _) opens).trans (closed opened)
  by_cases single : text.length = 1
  · simp only [textFragment, empty, wrapped, single, Bool.false_eq_true, ↓reduceIte,
      Text.escapeString, String.toList_ofList]
    refine ⟨by simpa using settled [], fun opened => ?_⟩
    simpa [Reading.read] using reads opened []
  · simp only [textFragment, empty, wrapped, single, Bool.false_eq_true, ↓reduceIte,
      Text.escapeString, String.toList_append, String.toList_ofList]
    exact ⟨by simp [Settled], closed⟩

private theorem isNeutral_of_mem_digits {n : Nat} {c : Char} (member : c ∈ Nat.toDigits 10 n) :
    isNeutral c := by
  have digit := Nat.isDigit_of_mem_toDigits (by decide) (by decide) member
  have literal : ∀ d ∈ ['\\', '[', '(', ')'], d.isDigit = false := by simp
  grind [isNeutral]

theorem neutral_timesFragment (min : UInt32) (max : Option UInt32) :
    Neutral (timesFragment min max).toList := by
  refine ⟨by cases max <;> simp [timesFragment, Settled], read_neutral fun c member => ?_⟩
  cases max <;> simp [timesFragment] at member <;>
    grind [isNeutral, isNeutral_of_mem_digits]

theorem neutral_reference (n : Nat) : Neutral ('\\' :: Nat.toDigits 10 n) := by
  obtain ⟨d, rest, digits⟩ := List.exists_cons_of_ne_nil (Nat.toDigits_ne_nil (b := 10) (n := n))
  rw [digits]
  refine ⟨by simp [Settled], fun opened => ?_⟩
  -- The backslash takes the first digit with it; the others are characters like any.
  change (outside opened).read rest = outside opened
  refine read_neutral (fun c member => ?_) opened
  exact isNeutral_of_mem_digits (n := n) (digits ▸ List.mem_cons_of_mem _ member)

theorem neutral_class {members : List Char} (inert : ∀ c ∈ members, c ≠ '\\' ∧ c ≠ ']') :
    Neutral ('[' :: (members ++ [']'])) := by
  refine ⟨by simp [Settled], fun opened => ?_⟩
  change Reading.read ⟨opened, true, false⟩ (members ++ [']']) = outside opened
  rw [read_append _ _ (by decide), read_class opened inert]
  rfl

/-! ## Effects -/

/-- An effect does to the openers of the text what it does to the open statements. -/
def Effect.Lexical : Effect → Prop
  | .append fragment => Neutral fragment.toList
  | .opening kind fragment => Settled fragment.toList ∧
      ∀ opened, (outside opened).read fragment.toList = outside (kind :: opened)
  | .closing _ => True

theorem Effect.lexical_of_nullary {operation : Operation} {effect : Effect}
    (nullary : ofNullary? operation = some effect) : effect.Lexical := by
  cases operation <;> cases nullary <;>
    simp [Lexical, Neutral, Settled, Reading.read, step, outside, Statement.ofOpening]

/-- Arguments that are taken over verbatim have to be free of what the reader looks for. -/
def Admits (operation : Operation) (text : List Char) : Prop :=
  match operation with
  | .matchesFreeText => False
  | .matchesFor | .matchesOneOf | .matchesNotFor | .matchesNotOneOf =>
    '\\' ∉ text ∧ '[' ∉ text ∧ ']' ∉ text
  | _ => '\\' ∉ text ∧ '[' ∉ text

theorem Effect.lexical_of_text {settings : Settings} {operation : Operation} {text : String}
    {effect : Effect} (admits : Admits operation text.toList)
    (performed : ofText? settings text operation = some effect) : effect.Lexical := by
  have literal (captured : Bool) (free : '\\' ∉ text.toList ∧ '[' ∉ text.toList) :
      Neutral (textFragment captured text).toList := neutral_textFragment captured free.1 free.2
  have set (free : '\\' ∉ text.toList ∧ '[' ∉ text.toList ∧ ']' ∉ text.toList) :
      Neutral ("[" ++ text ++ "]").toList ∧ Neutral ("[^" ++ text ++ "]").toList := by
    have inert : ∀ c ∈ text.toList, c ≠ '\\' ∧ c ≠ ']' := by grind
    have negated : ∀ c ∈ '^' :: text.toList, c ≠ '\\' ∧ c ≠ ']' := by grind
    exact ⟨by simpa using neutral_class inert, by simpa using neutral_class negated⟩
  cases operation with
  | «matches» => cases performed; exact literal _ admits
  | matchesText => cases performed; exact literal _ admits
  | matchesCapturedText => cases performed; exact literal _ admits
  | matchesFreeText => exact admits.elim
  | matchesFor => cases performed; exact (set admits).1
  | matchesOneOf => cases performed; exact (set admits).1
  | matchesNotFor => cases performed; exact (set admits).2
  | matchesNotOneOf => cases performed; exact (set admits).2
  | _ => cases performed

theorem Effect.lexical_of_numbers {settings : Settings} {operation : Operation}
    {numbers : List UInt32} {effect : Effect}
    (performed : ofCall settings operation (numbers.map .number) = .ok effect) :
    effect.Lexical := by
  match numbers with
  | [] => exact lexical_of_nullary (ofCall_nil_eq_ok_iff.mp performed)
  | [n] =>
    cases operation with
    | matchesTimes => cases performed; exact neutral_timesFragment n none
    | withConstraint => cases performed; exact neutral_timesFragment n none
    | useGroup => cases performed; simpa [Lexical] using neutral_reference n.toNat
    | _ => cases performed
  | [min, max] =>
    cases operation with
    | matchesTimes => cases performed; exact neutral_timesFragment min (some max)
    | withConstraint => cases performed; exact neutral_timesFragment min (some max)
    | _ => cases performed
  | _ :: _ :: _ :: _ => cases performed

/-! ## Runs -/

/-- The stack of a builder is what a reader finds open in its text. With validation no closing
parenthesis is left over either, so the text may stand inside of other statements. -/
structure Agrees (b : Builder) : Prop where
  settled : Settled b.pattern.toList
  opened : (outside []).read b.pattern.toList = outside b.nesting.innermostFirst
  enclosed : b.settings.groupValidation → ∀ below,
    (outside below).read b.pattern.toList = outside (b.nesting.innermostFirst ++ below)

namespace Agrees

theorem ofSettings (settings : Settings) : Agrees (ofSettings settings) :=
  ⟨(by decide : Settled []), rfl, fun _ _ => rfl⟩

theorem clear {b : Builder} : Agrees b.clear := ⟨(by decide : Settled []), rfl, fun _ _ => rfl⟩

theorem push {b : Builder} (agrees : Agrees b) {fragment : String}
    (neutral : Neutral fragment.toList) : Agrees (b.push fragment) where
  settled := by simpa [Builder.push] using agrees.settled.append neutral.1
  opened := by
    simp only [Builder.push, String.toList_append, read_append _ _ neutral.1, agrees.opened,
      neutral.2]
  enclosed strict below := by
    simp only [Builder.push, String.toList_append, read_append _ _ neutral.1,
      agrees.enclosed strict, neutral.2]

theorem opening {b : Builder} (agrees : Agrees b) {kind : Statement} {fragment : String}
    (settled : Settled fragment.toList)
    (opens : ∀ opened, (outside opened).read fragment.toList = outside (kind :: opened)) :
    Agrees (b.opening kind fragment) where
  settled := by simpa [Builder.opening] using agrees.settled.append settled
  opened := by
    simp only [Builder.opening, String.toList_append, read_append _ _ settled, agrees.opened,
      opens, Nesting.push]
  enclosed strict below := by
    simp only [Builder.opening, String.toList_append, read_append _ _ settled,
      agrees.enclosed strict, opens, Nesting.push, List.cons_append]

/-- With validation the innermost statement is of the kind that is closed, so the parenthesis
closes one of the text's own. -/
theorem closing {b next : Builder} (agrees : Agrees b) {kind : Statement}
    (closed : b.closing kind = .ok next) : Agrees next := by
  obtain ⟨nesting, popped, rfl⟩ := Except.map_eq_ok_iff.mp closed
  obtain ⟨strictly, rfl⟩ := Nesting.pop_eq_ok_iff.mp popped
  have settled : Settled ")".toList := by decide
  refine ⟨?_, ?_, ?_⟩
  · simpa using agrees.settled.append settled
  · rw [String.toList_append, read_append _ _ settled, agrees.opened]
    rfl
  · intro strict below
    obtain ⟨rest, top⟩ := List.head?_eq_some_iff.mp (strictly strict)
    rw [String.toList_append, read_append _ _ settled, agrees.enclosed strict, top]
    rfl

theorem perform {b next : Builder} (agrees : Agrees b) {effect : Effect}
    (lexical : effect.Lexical) (performed : effect.perform b = .ok next) : Agrees next := by
  cases effect with
  | append fragment => cases performed; exact agrees.push lexical
  | opening kind fragment => cases performed; exact agrees.opening lexical.1 lexical.2
  | closing kind => exact agrees.closing performed

/-- What is built with validation may be inserted anywhere. -/
theorem neutral_source {b : Builder} (agrees : Agrees b) (strict : b.settings.groupValidation)
    {pattern : Pattern} (built : b.build = .ok pattern) : Neutral pattern.source.toList := by
  obtain ⟨closed, compiled⟩ := buildWithFlags_eq_ok built
  have empty : b.nesting.innermostFirst = [] := List.head?_eq_none_iff.mp (closed strict)
  have reads := agrees.enclosed strict
  simp only [empty, List.nil_append] at reads
  rw [(Pattern.compile_eq_ok compiled).1, source]
  split
  · have settled : Settled [')'] := by decide
    have group := (agrees.settled.append settled).ofOpening_eq
    refine ⟨by simp [Settled], fun opened => ?_⟩
    simp only [String.toList_append]
    have opens : (outside opened).step '(' (b.pattern.toList ++ [')']) =
        outside (.group :: opened) := by simp [step, outside, group]
    change ((outside opened).step '(' (b.pattern.toList ++ [')'])).read
      (b.pattern.toList ++ [')']) = _
    rw [opens, read_append _ _ settled, reads]
    rfl
  · exact ⟨agrees.settled, reads⟩

end Agrees

/-- The calls of a run whose text stays in agreement with its stack. A builder that is inserted
has to come from such calls itself, with validation. -/
inductive Admissible : Call → Prop where
  | numbers (operation : Operation) (numbers : List UInt32) :
      Admissible (.operation operation (numbers.map .number))
  | text {operation : Operation} {text : String} (admits : Admits operation text.toList) :
      Admissible (.operation operation [.text text])
  | builder (operation : Operation) {settings : Settings} {calls : List Call}
      (strict : settings.groupValidation) (admissible : ∀ call ∈ calls, Admissible call) :
      Admissible (.operation operation [.builder ((ofSettings settings).run calls)])
  | addAlias (operation name : String) : Admissible (.addAlias operation name)
  | deleteAlias (name : String) : Admissible (.deleteAlias name)
  | clear : Admissible .clear

theorem Agrees.attempt_operation {b : Builder} (agrees : Agrees b) {operation : Operation}
    {args : List Argument}
    (lexical : ∀ effect, Effect.ofCall b.settings operation args = .ok effect → effect.Lexical) :
    Agrees (b.attempt (.operation operation args)) := by
  rw [attempt, Call.perform, apply_eq_perform]
  cases called : Effect.ofCall b.settings operation args with
  | error e => exact agrees
  | ok effect =>
    cases performed : effect.perform b with
    | error e => simpa [Except.bind, performed] using agrees
    | ok next => simpa [Except.bind, performed] using agrees.perform (lexical effect called) performed

theorem Agrees.run {b : Builder} (agrees : Agrees b) {calls : List Call}
    (each : ∀ call ∈ calls, ∀ b, Agrees b → Agrees (b.attempt call)) : Agrees (b.run calls) := by
  induction calls generalizing b with
  | nil => exact agrees
  | cons call rest ih =>
    exact ih (each call (List.mem_cons_self ..) b agrees)
      fun other member => each other (List.mem_cons_of_mem _ member)

/-- No admissible call takes the stack and the text apart, whether it fails or not. -/
theorem Admissible.agrees {call : Call} (admissible : Admissible call) :
    ∀ b, Agrees b → Agrees (b.attempt call) := by
  induction admissible with
  | numbers operation numbers =>
    exact fun b agrees => agrees.attempt_operation fun _ => Effect.lexical_of_numbers
  | @text operation text admits =>
    refine fun b agrees => agrees.attempt_operation fun effect called => ?_
    exact Effect.lexical_of_text admits (Effect.ofCall_text_eq_ok_iff.mp called)
  | @builder operation settings calls strict _ ih =>
    refine fun b agrees => agrees.attempt_operation fun effect called => ?_
    have inner := (Agrees.ofSettings settings).run ih
    obtain ⟨pattern, built, rfl⟩ := Effect.eq_append_of_ofCall_builder called
    exact inner.neutral_source (by simpa [ofSettings] using strict) built
  | addAlias operation name =>
    intro b agrees
    rw [attempt, Call.perform, Builder.addAlias]
    cases b.aliases.add operation name with
    | error e => exact agrees
    | ok aliases => exact ⟨agrees.settled, agrees.opened, agrees.enclosed⟩
  | deleteAlias name => exact fun b agrees => ⟨agrees.settled, agrees.opened, agrees.enclosed⟩
  | clear => exact fun b _ => Agrees.clear

/-- Every closing parenthesis that a reader meets in the text closes one that the text opened. -/
def ClosesItsOwn (text : String) : Prop :=
  ∀ below, ((outside below).read text.toList).opened =
    ((outside []).read text.toList).opened ++ below

/-- The open statements of a builder are the unmatched openers of its text, and with validation no
closing parenthesis is unmatched. -/
theorem openStatements_eq_openers (settings : Settings) {calls : List Call}
    (admissible : ∀ call ∈ calls, Admissible call) :
    ((ofSettings settings).run calls).openStatements =
        openers ((ofSettings settings).run calls).pattern ∧
      (settings.groupValidation → ClosesItsOwn ((ofSettings settings).run calls).pattern) := by
  have agrees := (Agrees.ofSettings settings).run
    fun call member => (admissible call member).agrees
  refine ⟨?_, fun strict below => ?_⟩
  · rw [openers, agrees.opened]
    rfl
  · rw [agrees.opened, agrees.enclosed (by simpa [ofSettings] using strict)]
    rfl

/-- A run with an insertion, a lookahead around a class with a parenthesis in it, and an end
operation that fails. -/
theorem openStatements_eq_openers_after_failure :
    let insertion : List Call := [.operation .beginNonCapturedGroup [],
      .operation .matchesText [.text "f(x)"], .operation .endGroup []]
    let calls : List Call := [.operation .beginGroup [], .operation .zeroOrOneTimes [],
      .operation .matchesBuilder [.builder ((ofSettings .initial).run insertion)],
      .operation .ifNotFollowedBy [], .operation .matchesFor [.text "(?="],
      .operation .endGroup [], .operation .useGroup [.number 12]]
    (∀ call ∈ calls, Admissible call) ∧
      ((ofSettings .initial).run calls).openStatements =
        openers ((ofSettings .initial).run calls).pattern := by
  intro insertion calls
  have inner : ∀ call ∈ insertion, Admissible call := by
    simp only [insertion, List.forall_mem_cons]
    exact ⟨.numbers _ [], .text (by simp [Admits]), .numbers _ [], nofun⟩
  have admissible : ∀ call ∈ calls, Admissible call := by
    simp only [calls, List.forall_mem_cons]
    exact ⟨.numbers _ [], .numbers _ [], .builder _ rfl inner, .numbers _ [], .text (by simp [Admits]),
      .numbers _ [], .numbers _ [12], nofun⟩
  exact ⟨admissible, (openStatements_eq_openers .initial admissible).1⟩

end Builder
end PatternComposer
