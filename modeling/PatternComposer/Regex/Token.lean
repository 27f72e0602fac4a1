import PatternComposer.Regex.Bracket
import PatternComposer.Regex.Node

/-! # Tokens

A pattern text is read from left to right into tokens. The modes in force are resolved on the way:
a token for a character already holds the set that it matches, and a quantifier already knows
whether it is greedy. What a token means in its surroundings is left to `Tree.ofTokens?`.
-/

namespace PatternComposer.Regex

inductive Token where
  /-- Something that matches on its own; `depth` counts the brackets nested in it. -/
  | piece (node : Node) (depth : Nat)
  /-- A change of modes. -/
  | setting
  | quantifier (lo : Nat) (hi : Option Nat) (greedy : Bool)
  | bar
  | openGroup (capturing : Bool)
  | closeGroup
deriving Repr

/-- Where the reader stands: the modes in force, those to go back to at the end of each open group,
and the group names used so far. -/
structure Scanner where
  modes : Modes
  saved : List Modes
  names : List (List Char)

namespace Scanner

def initial : Scanner := ⟨.initial, [], []⟩

end Scanner

namespace Modes

/-- The set that a character of the pattern matches. -/
def literal (modes : Modes) (c : Char) : CharSet :=
  if modes.caseless && (modes.unicode || decide (c.toNat < 128)) then
    (modes.foldClass (.single c)).canonical
  else .single c

/-- The set of any character that does not end a line. -/
def anyChar (modes : Modes) : CharSet :=
  if modes.dotAll then .all
  else if modes.crlf then ⟨[(0, 0x9), (0xB, 0xC), (0xE, CharSet.top)]⟩
  else ⟨[(0, 0x9), (0xB, CharSet.top)]⟩

def lineStart (modes : Modes) : Look := if modes.multiLine then .lineStart modes.crlf else .textStart

def lineEnd (modes : Modes) : Look := if modes.multiLine then .lineEnd modes.crlf else .textEnd

end Modes

/-- The largest repetition count. -/
def countLimit : Nat := 0xFFFFFFFF

namespace Modes

/-- Reads the digits of a repetition count. Blanks may follow a digit in verbose mode only. -/
def readDigits (modes : Modes) : Nat → Option Nat → List Char → Option Nat × List Char
  | 0, value, cs => (value, cs)
  | _, value, [] => (value, [])
  | fuel + 1, value, c :: rest =>
    if c.isDigit then
      readDigits modes fuel (some (10 * value.getD 0 + (c.toNat - 48))) (modes.skip rest)
    else (value, c :: rest)

/-- Reads a repetition count with blanks around it. -/
def readCount (modes : Modes) (cs : List Char) : Option (Option Nat × List Char) :=
  let cs := cs.dropWhile Unicode.blank.contains
  let (value, rest) := modes.readDigits cs.length none cs
  if value.any fun n => decide (countLimit < n) then none
  else some (value, modes.skip (rest.dropWhile Unicode.blank.contains))

/-- Reads a repetition from after its opening brace to after its closing brace. -/
def readBounds (modes : Modes) (cs : List Char) : Option (Nat × Option Nat × List Char) :=
  (modes.readCount (modes.skip cs)).bind fun (lo, rest) =>
    lo.bind fun lo =>
      match rest with
      | '}' :: rest => some (lo, some lo, modes.skip rest)
      | ',' :: rest =>
        match modes.skip rest with
        | '}' :: rest => some (lo, none, modes.skip rest)
        | rest =>
          (modes.readCount rest).bind fun (hi, rest) =>
            hi.bind fun hi =>
              match rest with
              | '}' :: rest => if lo ≤ hi then some (lo, some hi, modes.skip rest) else none
              | _ => none
      | _ => none

/-- A quantifier and whether a question mark that follows makes it lazy. -/
def quantify (modes : Modes) (lo : Nat) (hi : Option Nat) : List Char → Token × List Char
  | '?' :: rest => (.quantifier lo hi modes.swapGreed, rest)
  | rest => (.quantifier lo hi !modes.swapGreed, rest)

end Modes

/-- A group name: a letter or underscore, then also digits, dots and brackets. -/
def isGroupName : List Char → Bool
  | [] => false
  | c :: rest =>
    (c == '_' || Unicode.alphabetic.contains c) &&
      rest.all fun c => c == '_' || c == '.' || c == '[' || c == ']' || Unicode.isAlphanumeric c

namespace Scanner

/-- Opens a group named by the text up to the closing angle bracket. No two groups share a name. -/
def openNamed (s : Scanner) (cs : List Char) : Option (Token × Scanner × List Char) :=
  let name := cs.takeWhile (· != '>')
  match cs.dropWhile (· != '>') with
  | '>' :: rest =>
    if isGroupName name && !s.names.contains name then
      some (.openGroup true, { s with saved := s.modes :: s.saved, names := name :: s.names }, rest)
    else none
  | _ => none

/-- Reads what follows an opening parenthesis. Looking around is refused. -/
def openParen (s : Scanner) (cs : List Char) : Option (Token × Scanner × List Char) :=
  match s.modes.skip cs with
  | '?' :: '=' :: _ => none
  | '?' :: '!' :: _ => none
  | '?' :: '<' :: '=' :: _ => none
  | '?' :: '<' :: '!' :: _ => none
  | '?' :: 'P' :: '<' :: rest => s.openNamed rest
  | '?' :: '<' :: rest => s.openNamed rest
  | '?' :: rest =>
    (readFlags s.modes [] false false rest).map fun group =>
      if group.opens then
        (.openGroup false, { s with modes := group.modes, saved := s.modes :: s.saved }, group.rest)
      else (.setting, { s with modes := group.modes }, group.rest)
  | rest => some (.openGroup true, { s with saved := s.modes :: s.saved }, rest)

/-- Reads the token at the front of a text that has no blanks to skip there. -/
def token (s : Scanner) : List Char → Option (Token × Scanner × List Char)
  | [] => none
  | c :: rest =>
    let quantify (lo : Nat) (hi : Option Nat) (rest : List Char) :=
      let (token, rest) := s.modes.quantify lo hi rest
      (token, s, rest)
    match c with
    | '(' => s.openParen rest
    | ')' =>
      match s.saved with
      | [] => none
      | modes :: saved => some (.closeGroup, { s with modes := modes, saved := saved }, rest)
    | '|' => some (.bar, s, rest)
    | '[' =>
      (s.modes.readClass rest).map fun (part, rest) =>
        (.piece (.set part.members) part.depth, s, rest)
    | '?' => some (quantify 0 (some 1) rest)
    | '*' => some (quantify 0 none rest)
    | '+' => some (quantify 1 none rest)
    | '{' => (s.modes.readBounds rest).map fun (lo, hi, rest) => quantify lo hi rest
    | '\\' =>
      (readEscape s.modes rest).map fun (escape, rest) =>
        match escape with
        | .char c => (.piece (.set (s.modes.literal c)) 0, s, rest)
        | .members members => (.piece (.set members) 0, s, rest)
        | .look look => (.piece (.look look) 0, s, rest)
    | '.' => if s.modes.unicode then some (.piece (.set s.modes.anyChar) 0, s, rest) else none
    | '^' => some (.piece (.look s.modes.lineStart) 0, s, rest)
    | '$' => some (.piece (.look s.modes.lineEnd) 0, s, rest)
    | c => some (.piece (.set (s.modes.literal c)) 0, s, rest)

end Scanner

namespace Token

/-- Reads the tokens of a text, the last one first, in front of those read before it. -/
def scanFrom : Nat → Scanner → List Token → List Char → Option (List Token)
  | 0, _, _, _ => none
  | fuel + 1, s, done, cs =>
    match s.modes.skip cs with
    | [] => if s.saved.isEmpty then some done else none
    | cs => (s.token cs).bind fun (token, s, rest) => scanFrom fuel s (token :: done) rest

/-- The tokens of a pattern text, if each part of it can be read. -/
def scan? (cs : List Char) : Option (List Token) :=
  (scanFrom (cs.length + 1) .initial [] cs).map List.reverse

end Token
end PatternComposer.Regex
