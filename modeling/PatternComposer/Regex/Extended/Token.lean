import PatternComposer.Regex.Extended.Term
import PatternComposer.Text.Offsets

/-! # Tokens of extended patterns

The extended dialect reads a pattern more leniently than the plain one: braces that make no
repetition stand for themselves, flags stay switched after the group that they stand in unless the
group itself has flags, and comments may stand anywhere between tokens.
-/

namespace PatternComposer.Regex.Extended

/-- What an opening parenthesis begins. -/
inductive Opening where
  | plain
  | capture (index : Nat) (named : Bool)
  | around (kind : Around)
  | atomic
  /-- A condition that is itself a pattern; the branches follow it. -/
  | condition
  /-- The branches of a condition on a group. -/
  | given (index : Nat) (numbered : Bool)
deriving Repr

inductive Token where
  | atom (term : Term)
  /-- A reference back to a group, by its number or otherwise. -/
  | reference (index : Nat) (numbered : Bool)
  | quantifier (lo : Nat) (hi : Option Nat) (greedy possessive : Bool)
  | bar
  | opening (kind : Opening)
  | closing
deriving Repr

/-- Where the reader stands. `opens` holds for each open parenthesis the modes to go back to, if
there are any, and whether a condition ends there; `afterAtom` says whether a quantifier could
apply to what was just read. -/
structure Scanner where
  modes : Modes
  opens : List (Option Modes × Bool)
  groups : Nat
  names : List (List Char × Nat)
  afterAtom : Bool

/-- The text after a comment, from after its opening. A backslash hides the character after it. -/
def skipComment : List Char → Option (List Char)
  | [] => none
  | [c] => if c == ')' then some [] else none
  | c :: d :: rest =>
    if c == ')' then some (d :: rest)
    else if c == '\\' then skipComment rest
    else skipComment (d :: rest)

/-- The text after blanks and comments. An unclosed comment is an error. -/
def skipSpace (modes : Modes) : Nat → List Char → Option (List Char)
  | 0, cs => some cs
  | fuel + 1, cs =>
    match cs with
    | '(' :: '?' :: '#' :: rest => (skipComment rest).bind (skipSpace modes fuel)
    | c :: rest =>
      if modes.verbose then
        if c == '#' then skipSpace modes fuel ((rest.dropWhile (· != '\n')).drop 1)
        else if c == ' ' || c == '\r' || c == '\n' || c == '\t' then skipSpace modes fuel rest
        else some cs
      else some cs
    | [] => some []

def skip (modes : Modes) (cs : List Char) : Option (List Char) := skipSpace modes cs.length cs

/-- The largest number that counts and references are read as. -/
def numberLimit : Nat := 0xFFFFFFFFFFFFFFFF

/-- Reads a decimal number at the front of a text. -/
def readNumber (cs : List Char) : Option (Nat × List Char) :=
  let digits := cs.takeWhile Char.isDigit
  let value := digits.foldl (fun n c => 10 * n + (c.toNat - 48)) 0
  if digits.isEmpty || decide (numberLimit < value) then none
  else some (value, cs.drop digits.length)

/-- Reads a repetition from after its opening brace to after its closing brace. A missing lower
bound is zero; the bounds may be out of order. -/
def readRepeat (modes : Modes) (cs : List Char) : Option (Nat × Option Nat × List Char) :=
  (skip modes cs).bind fun cs =>
    let low : Option (Nat × List Char) := match cs with
      | ',' :: _ => some (0, cs)
      | _ => readNumber cs
    low.bind fun (lo, rest) =>
      (skip modes rest).bind fun rest =>
        match rest with
        | '}' :: rest => some (lo, some lo, rest)
        | ',' :: rest =>
          (skip modes rest).bind fun rest =>
            let (hi, rest) : Option Nat × List Char := match readNumber rest with
              | some (hi, rest) => (some hi, rest)
              | none => (none, rest)
            (skip modes rest).bind fun rest =>
              match rest with
              | '}' :: rest => some (lo, hi, rest)
              | _ => none
        | _ => none

/-- Reads a character given by hexadecimal digits: exactly `digits` of them, or one to eight in
braces. -/
def readHex (digits : Nat) (cs : List Char) : Option (Char × List Char) :=
  let value (ds : List Char) : Nat := ds.foldl (fun n c => 16 * n + (hexValue? c).getD 0) 0
  let isHex (c : Char) : Bool := (hexValue? c).isSome
  let fixed := cs.take digits
  if fixed.length = digits ∧ fixed.all isHex then
    (charOfCode? (value fixed)).map fun c => (c, cs.drop digits)
  else
    match cs with
    | '{' :: rest =>
      let ds := rest.takeWhile isHex
      if ds.isEmpty || decide (8 < ds.length) then none
      else
        match rest.drop ds.length with
        | '}' :: rest => (charOfCode? (value ds)).map fun c => (c, rest)
        | _ => none
    | _ => none

def isNameChar (c : Char) : Bool := c == '_' || Unicode.isAlphanumeric c

/-- Reads a name that `close` ends. -/
def readName (close : Char) (cs : List Char) : Option (List Char × List Char) :=
  let name := cs.takeWhile isNameChar
  match cs.drop name.length with
  | c :: rest => if c == close && !name.isEmpty then some (name, rest) else none
  | [] => none

namespace Scanner

def initial : Scanner := ⟨.initial, [], 0, [], false⟩

/-- The group that a name or a number stands for. -/
def groupOf? (s : Scanner) (name : List Char) : Option Nat :=
  match s.names.lookup name with
  | some index => some index
  | none =>
    match readNumber name with
    | some (index, []) => some index
    | _ => none

/-- Reads a reference that `close` ends: a name, a number, or a distance to the groups opened so
far. -/
def readReference (s : Scanner) (close : Char) (cs : List Char) : Option (Nat × List Char) :=
  match readName close cs with
  | some (name, rest) => (s.groupOf? name).map fun index => (index, rest)
  | none =>
    match cs with
    | sign :: rest =>
      (readNumber rest).bind fun (distance, rest) =>
        match rest with
        | c :: rest =>
          if c != close then none
          else if sign == '+' then some (s.groups + distance, rest)
          else if sign == '-' && decide (distance ≤ s.groups + 1) && decide (0 < distance) then
            some (s.groups + 1 - distance, rest)
          else none
        | [] => none
    | [] => none

/-- A number refers to a group only if it is less than half the pattern's length in bytes. -/
def readNumbered (bytes : Nat) (cs : List Char) : Option (Nat × List Char) :=
  (readNumber cs).bind fun (index, rest) =>
    if index < bytes / 2 then some (index, rest) else none

end Scanner

/-- The text of a property escape from its letter on, and what follows it. -/
def cutProperty (letter : Char) : List Char → Option (List Char × List Char)
  | [] => none
  | '{' :: rest =>
    match rest.dropWhile (· != '}') with
    | '}' :: after => some (letter :: '{' :: rest.takeWhile (· != '}') ++ ['}'], after)
    | _ => none
  | c :: rest => some ([letter, c], rest)

/-- The set that a plain escape without Unicode restrictions stands for. -/
def plainMembers? (caseless : Bool) (escape : List Char) : Option CharSet :=
  match readEscape { Modes.initial with caseless := caseless } escape with
  | some (.members s, []) => some s
  | _ => none

/-- What an escape stands for by itself, wherever it is written. -/
inductive CommonEscape where
  | char (c : Char)
  /-- A set, in plain notation. -/
  | members (text : List Char)

/-- Reads an escape that means the same inside and outside of classes, from after the backslash.
Other letters are errors. -/
def readCommonEscape : List Char → Option (CommonEscape × List Char)
  | [] => none
  | c :: rest =>
    match c with
    | 'd' | 'D' | 's' | 'S' | 'w' | 'W' => some (.members ['\\', c], rest)
    | 'h' => some (.members "[0-9A-Fa-f]".toList, rest)
    | 'H' => some (.members "[^0-9A-Fa-f]".toList, rest)
    | 'x' => (readHex 2 rest).map fun (c, rest) => (.char c, rest)
    | 'u' => (readHex 4 rest).map fun (c, rest) => (.char c, rest)
    | 'U' => (readHex 8 rest).map fun (c, rest) => (.char c, rest)
    | 'p' | 'P' =>
      (cutProperty c rest).map fun (text, rest) => (.members ('\\' :: text), rest)
    | 'e' => some (.char '\x1B', rest)
    | c =>
      match controlEscape? c with
      | some control => some (.char control, rest)
      | none => if c.isAlpha || c.isDigit then none else some (.char c, rest)

/-- Characters that are written with a backslash in plain notation. Hyphens are not. -/
def isQuoted (c : Char) : Bool := "\\.+*?()|[]{}^$#".toList.contains c

/-- Letters that only mean themselves inside a class. -/
def isClassLetter (c : Char) : Bool := ['k', 'A', 'z', 'B', 'K', 'G'].contains c

/-- Spells the escapes of a class in plain notation, up to the bracket that closes it. `nest`
counts the brackets that are open; the result is reversed. -/
def plainClass : Nat → Nat → List Char → List Char → Option (List Char × List Char)
  | 0, _, _, _ => none
  | _, _, _, [] => none
  | fuel + 1, nest, done, c :: rest =>
    match c with
    | '\\' =>
      match rest with
      | [] => none
      | 'b' :: rest => plainClass fuel nest ('\x08' :: done) rest
      | d :: after =>
        if isClassLetter d then plainClass fuel nest (d :: done) after
        else (readCommonEscape rest).bind fun (escape, rest) =>
          match escape with
          | .char c =>
            plainClass fuel nest (if isQuoted c then c :: '\\' :: done else c :: done) rest
          | .members text => plainClass fuel nest (text.reverse ++ done) rest
    | '[' => plainClass fuel (nest + 1) (c :: done) rest
    | ']' =>
      if nest ≤ 1 then some ((c :: done).reverse, rest)
      else plainClass fuel (nest - 1) (c :: done) rest
    | c => plainClass fuel nest (c :: done) rest

/-- Reads a class from after its opening bracket. A closing bracket that comes first is a
member. -/
def readClass (caseless : Bool) (cs : List Char) : Option (Term × List Char) :=
  let (done, cs) : List Char × List Char := match cs with
    | '^' :: ']' :: rest => ([']', '^'], rest)
    | '^' :: rest => (['^'], rest)
    | ']' :: rest => ([']'], rest)
    | cs => ([], cs)
  (plainClass (cs.length + 1) 1 done cs).bind fun (text, rest) =>
    match Modes.readClass { Modes.initial with caseless := caseless } text with
    | some (part, []) =>
      some (.members part.members (if caseless then part.depth + 1 else part.depth), rest)
    | _ => none

namespace Scanner

/-- Reads flags from after the question mark. `start` says that nothing was read yet and `dash`
that the last character was the hyphen; blanks between count as something read. -/
def readFlags : Nat → Modes → Bool → Bool → Bool → List Char → Option FlagGroup
  | 0, _, _, _, _, _ => none
  | fuel + 1, modes, start, negated, dash, cs =>
    (skip modes cs).bind fun after =>
      let spaced := decide (after.length < cs.length)
      match after with
      | [] => none
      | c :: rest =>
        let start := start && !spaced
        let dash := dash && !spaced
        if c == ')' then if start || dash then none else some ⟨modes, false, rest⟩
        else if c == ':' then if dash then none else some ⟨modes, true, rest⟩
        else if c == '-' then if negated then none else readFlags fuel modes false true true rest
        else if c == 'u' then if negated then none else readFlags fuel modes false negated false rest
        else if c == 'R' then none
        else (modes.switch? c !negated).bind fun modes =>
          readFlags fuel modes false negated false rest

/-- Groups may nest less than this deep. -/
def nestLimit : Nat := 64

def opened (s : Scanner) (restored : Option Modes) (condition : Bool) : Scanner :=
  { s with opens := (restored, condition) :: s.opens, afterAtom := false }

/-- Opens a group with a name. -/
def openNamed (s : Scanner) (cs : List Char) : Option (Token × Scanner × List Char) :=
  (readName '>' cs).map fun (name, rest) =>
    let index := s.groups + 1
    (.opening (.capture index true),
      { s.opened none false with groups := index, names := (name, index) :: s.names }, rest)

/-- Opens the branches that a condition on a group chooses between. -/
def openGiven (s : Scanner) (numbered : Bool) (reference : Option (Nat × List Char)) :
    Option (Token × Scanner × List Char) :=
  reference.bind fun (index, rest) =>
    (skip s.modes rest).bind fun rest =>
      match rest with
      | ')' :: rest => some (.opening (.given index numbered), s.opened none false, rest)
      | _ => none

/-- Reads what follows an opening parenthesis. -/
def openParen (bytes : Nat) (s : Scanner) (cs : List Char) :
    Option (Token × Scanner × List Char) :=
  if nestLimit ≤ s.opens.length + 1 then none
  else (skip s.modes cs).bind fun cs =>
    match cs with
    | '?' :: '=' :: rest => some (.opening (.around .ahead), s.opened none false, rest)
    | '?' :: '!' :: rest => some (.opening (.around .notAhead), s.opened none false, rest)
    | '?' :: '<' :: '=' :: rest => some (.opening (.around .behind), s.opened none false, rest)
    | '?' :: '<' :: '!' :: rest => some (.opening (.around .notBehind), s.opened none false, rest)
    | '?' :: '<' :: rest => s.openNamed rest
    | '?' :: 'P' :: '<' :: rest => s.openNamed rest
    | '?' :: 'P' :: '=' :: rest =>
      (s.readReference ')' rest).map fun (index, rest) =>
        (.reference index false, { s with afterAtom := true }, rest)
    | '?' :: '>' :: rest => some (.opening .atomic, s.opened none false, rest)
    | '?' :: '(' :: '\'' :: rest => s.openGiven false (s.readReference '\'' rest)
    | '?' :: '(' :: '<' :: rest => s.openGiven false (s.readReference '>' rest)
    | '?' :: '(' :: c :: rest =>
      if c.isDigit then s.openGiven true (readNumbered bytes (c :: rest))
      else some (.opening .condition, s.opened none true, c :: rest)
    | '?' :: rest =>
      (readFlags (rest.length + 1) s.modes true false false rest).map fun group =>
        if group.opens then
          (.opening .plain, { s.opened (some s.modes) false with modes := group.modes }, group.rest)
        else
          (.atom .empty, { s with modes := group.modes, afterAtom := true }, group.rest)
    | rest =>
      let index := s.groups + 1
      some (.opening (.capture index false), { s.opened none false with groups := index }, rest)

/-- Closes a parenthesis. What follows a condition is a new branch. -/
def closeParen (s : Scanner) (rest : List Char) : Option (Token × Scanner × List Char) :=
  match s.opens with
  | [] => none
  | (restored, condition) :: opens =>
    let modes := restored.getD s.modes
    if condition then
      some (.closing,
        { s with modes := modes, opens := (none, false) :: opens, afterAtom := false }, rest)
    else some (.closing, { s with modes := modes, opens := opens, afterAtom := true }, rest)

/-- Reads an escape outside of classes, from after the backslash. -/
def readEscape (bytes : Nat) (s : Scanner) (cs : List Char) : Option (Token × List Char) :=
  let look (l : Look) (rest : List Char) : Option (Token × List Char) :=
    some (.atom (.look l), rest)
  match cs with
  | 'k' :: '\'' :: rest =>
    (s.readReference '\'' rest).map fun (index, rest) => (.reference index false, rest)
  | 'k' :: '<' :: rest =>
    (s.readReference '>' rest).map fun (index, rest) => (.reference index false, rest)
  | 'A' :: rest => look .textStart rest
  | 'z' :: rest => look .textEnd rest
  | 'b' :: '{' :: _ => none
  | 'B' :: '{' :: _ => none
  | 'b' :: rest => look (.word .boundary false) rest
  | 'B' :: rest => look (.word .inside false) rest
  | '<' :: rest => look (.word .start false) rest
  | '>' :: rest => look (.word .stop false) rest
  | 'K' :: rest => some (.atom .keep, rest)
  | 'G' :: rest => some (.atom .resume, rest)
  | c :: rest =>
    if c.isDigit then
      (readNumbered bytes (c :: rest)).map fun (index, rest) => (.reference index true, rest)
    else (readCommonEscape (c :: rest)).bind fun (escape, rest) =>
      match escape with
      | .char c => some (.atom (.literal c s.modes.caseless), rest)
      | .members text =>
        match text with
        | '\\' :: text =>
          (plainMembers? s.modes.caseless text).map fun members =>
            (.atom (.members members (if s.modes.caseless then 1 else 0)), rest)
        | '[' :: text => (readClass false text).map fun (term, _) => (.atom term, rest)
        | _ => none
  | [] => none

/-- Reads a quantifier: after it a question mark makes it lazy, and a plus sign makes it keep what
it took. -/
def quantify (s : Scanner) (lo : Nat) (hi : Option Nat) (rest : List Char) :
    Option (Token × Scanner × List Char) :=
  if !s.afterAtom then none
  else (skip s.modes rest).map fun rest =>
    let (lazily, rest) : Bool × List Char := match rest with
      | '?' :: rest => (true, rest)
      | rest => (false, rest)
    let (possessive, rest) : Bool × List Char := match rest with
      | '+' :: rest => (true, rest)
      | rest => (false, rest)
    (.quantifier lo hi (lazily == s.modes.swapGreed) possessive, { s with afterAtom := false }, rest)

/-- Reads the token at the front of a text that has no blanks there, given the length of the whole
pattern in bytes. -/
def token (bytes : Nat) (s : Scanner) : List Char → Option (Token × Scanner × List Char)
  | [] => none
  | c :: rest =>
    let atom (term : Term) (rest : List Char) : Option (Token × Scanner × List Char) :=
      some (.atom term, { s with afterAtom := true }, rest)
    match c with
    | '.' => atom (.anyChar s.modes.dotAll) rest
    | '^' => atom (.look s.modes.lineStart) rest
    | '$' => atom (.look s.modes.lineEnd) rest
    | '(' => s.openParen bytes rest
    | ')' => s.closeParen rest
    | '|' => some (.bar, { s with afterAtom := false }, rest)
    | '\\' =>
      (s.readEscape bytes rest).map fun (token, rest) => (token, { s with afterAtom := true }, rest)
    | '[' => (readClass s.modes.caseless rest).bind fun (term, rest) => atom term rest
    | '?' => s.quantify 0 (some 1) rest
    | '*' => s.quantify 0 none rest
    | '+' => s.quantify 1 none rest
    | '{' =>
      match if s.afterAtom then readRepeat s.modes rest else none with
      | some (lo, hi, rest) => s.quantify lo hi rest
      | none => atom (.literal c s.modes.caseless) rest
    | c => atom (.literal c s.modes.caseless) rest

end Scanner

namespace Token

/-- Reads the tokens of a text, the last one first, in front of those read before it. -/
def scanFrom (bytes : Nat) :
    Nat → Scanner → List Token → List Char → Option (List Token)
  | 0, _, _, _ => none
  | fuel + 1, s, done, cs =>
    (skip s.modes cs).bind fun cs =>
      if cs.isEmpty then if s.opens.isEmpty then some done else none
      else (s.token bytes cs).bind fun (token, s, rest) => scanFrom bytes fuel s (token :: done) rest

/-- The tokens of a pattern text. -/
def scan? (cs : List Char) : Option (List Token) :=
  (scanFrom (Text.byteLength cs) (cs.length + 1) .initial [] cs).map List.reverse

end Token
end PatternComposer.Regex.Extended
