import PatternComposer.Regex.Escape

/-! # Bracketed classes

A class lists characters, ranges, escapes and nested classes, and combines such lists with set
operators of equal precedence. Folding case comes before negation, and each operand of an operator
is folded on its own.
-/

namespace PatternComposer.Regex

/-- A class read so far together with how deep its brackets nest. -/
structure ClassPart where
  members : CharSet
  depth : Nat

/-- The items listed so far at one place. -/
structure ItemList where
  members : CharSet
  count : Nat
  depth : Nat

namespace ItemList

def empty : ItemList := ⟨.empty, 0, 0⟩

def push (items : ItemList) (members : CharSet) (depth : Nat) : ItemList :=
  ⟨items.members.union members, items.count + 1, max items.depth depth⟩

/-- Several items nest one level deeper than a lone one. -/
def toPart (items : ItemList) : ClassPart :=
  ⟨items.members, if items.count ≤ 1 then items.depth else items.depth + 1⟩

end ItemList

inductive SetOp where
  | inter
  | diff
  | symmDiff
deriving DecidableEq, Repr

/-- What waits for its right end: a bracket with the items outside it, or an operator with its
left operand. -/
inductive OpenPart where
  | bracket (outer : ItemList) (negated : Bool)
  | op (op : SetOp) (left : ClassPart)

namespace Modes

/-- Case folding as it acts on a listed set: without Unicode only ASCII letters fold. -/
def foldClass (modes : Modes) (s : CharSet) : CharSet :=
  if modes.caseless then
    if modes.unicode then s.foldCase else s.foldCase.inter (.range 0 0x7F)
  else s

def combine (modes : Modes) (op : SetOp) (left right : ClassPart) : ClassPart :=
  let l := modes.foldClass left.members
  let r := modes.foldClass right.members
  let members := match op with
    | .inter => l.inter r
    | .diff => l.diff r
    | .symmDiff => l.symmDiff r
  ⟨members.canonical, max left.depth right.depth + 1⟩

/-- Completes the operator on top of the stack, if there is one. -/
def closeOp (modes : Modes) (stack : List OpenPart) (right : ClassPart) :
    ClassPart × List OpenPart :=
  match stack with
  | .op op left :: stack => (modes.combine op left right, stack)
  | stack => (right, stack)

/-- A class with its negation. Without Unicode a negated class would take in parts of
characters. -/
def finishClass (modes : Modes) (negated : Bool) (s : CharSet) : Option CharSet :=
  let folded := (modes.foldClass s).canonical
  if negated then if modes.unicode then some folded.complement else none else some folded

end Modes

/-- Named ASCII classes. -/
def asciiClass? (name : List Char) : Option CharSet :=
  let table : List (String × CharSet) := [
    ("alnum", ⟨[(0x30, 0x39), (0x41, 0x5A), (0x61, 0x7A)]⟩),
    ("alpha", ⟨[(0x41, 0x5A), (0x61, 0x7A)]⟩),
    ("ascii", ⟨[(0, 0x7F)]⟩),
    ("blank", ⟨[(0x9, 0x9), (0x20, 0x20)]⟩),
    ("cntrl", ⟨[(0, 0x1F), (0x7F, 0x7F)]⟩),
    ("digit", ⟨[(0x30, 0x39)]⟩),
    ("graph", ⟨[(0x21, 0x7E)]⟩),
    ("lower", ⟨[(0x61, 0x7A)]⟩),
    ("print", ⟨[(0x20, 0x7E)]⟩),
    ("punct", ⟨[(0x21, 0x2F), (0x3A, 0x40), (0x5B, 0x60), (0x7B, 0x7E)]⟩),
    ("space", ⟨[(0x9, 0xD), (0x20, 0x20)]⟩),
    ("upper", ⟨[(0x41, 0x5A)]⟩),
    ("word", ⟨[(0x30, 0x39), (0x41, 0x5A), (0x5F, 0x5F), (0x61, 0x7A)]⟩),
    ("xdigit", ⟨[(0x30, 0x39), (0x41, 0x46), (0x61, 0x66)]⟩)]
  table.lookup (String.ofList name)

namespace Modes

/-- A named ASCII class, from after its opening bracket: a colon, an optional caret, the name, a
colon and a bracket. Anything else is no named class; a refused one is the inner `none`. -/
def readNamedClass (modes : Modes) : List Char → Option (Option CharSet × List Char)
  | ':' :: rest =>
    let (negated, body) := match rest with
      | '^' :: body => (true, body)
      | body => (false, body)
    match body.dropWhile (· != ':') with
    | ':' :: ']' :: after =>
      (asciiClass? (body.takeWhile (· != ':'))).map fun s =>
        (modes.finishClass negated s, after)
    | _ => none
  | _ => none

/-- Hyphens directly after an opening bracket are members. -/
def readHyphens (modes : Modes) : Nat → ItemList → List Char → Option (ItemList × List Char)
  | 0, _, _ => none
  | _, _, [] => none
  | fuel + 1, items, c :: rest =>
    if c == '-' then readHyphens modes fuel (items.push (.single '-') 0) (modes.skip rest)
    else some (items, c :: rest)

/-- The start of a class, from after its opening bracket: whether it is negated, and the members
that stand first although they would mean something else further on. -/
def readClassOpening (modes : Modes) (cs : List Char) : Option (Bool × ItemList × List Char) :=
  let (negated, cs) := match modes.skip cs with
    | '^' :: rest => (true, modes.skip rest)
    | cs => (false, cs)
  (modes.readHyphens (cs.length + 1) .empty cs).bind fun (items, cs) =>
    match cs with
    | [] => none
    | ']' :: rest =>
      if items.count = 0 then
        match modes.skip rest with
        | [] => none
        | cs => some (negated, items.push (.single ']') 0, cs)
      else some (negated, items, cs)
    | cs => some (negated, items, cs)

/-- One end of a range, or a whole item. Without Unicode its characters are ASCII. -/
def readClassAtom (modes : Modes) (cs : List Char) : Option (Escape × List Char) :=
  let read : Option (Escape × List Char) := match cs with
    | [] => none
    | '\\' :: rest => readEscape modes rest
    | c :: rest => some (.char c, rest)
  match read with
  | some (.char c, rest) =>
    if modes.unicode || decide (c.toNat < 128) then some (.char c, rest) else none
  | read => read

/-- One item: a set, a character or a range. A hyphen before a closing bracket or before another
hyphen makes no range. -/
def readClassItem (modes : Modes) (cs : List Char) : Option (CharSet × List Char) :=
  (modes.readClassAtom cs).bind fun (first, rest) =>
    let alone : Option CharSet := match first with
      | .char c => some (.single c)
      | .members s => some s
      | .look _ => none
    match modes.skip rest with
    | [] => none
    | '-' :: after =>
      let next := (modes.skip after).head?
      if next == some ']' || next == some '-' then alone.map fun s => (s, '-' :: after)
      else
        match first with
        | .char lo =>
          (modes.readClassAtom (modes.skip after)).bind fun (last, rest) =>
            match last with
            | .char hi => if lo ≤ hi then some (.range lo.toNat hi.toNat, rest) else none
            | _ => none
        | _ => none
    | rest => alone.map fun s => (s, rest)

/-- Reads the rest of a class up to the bracket that closes its outermost bracket. -/
def readClassBody (modes : Modes) :
    Nat → List OpenPart → ItemList → List Char → Option (ClassPart × List Char)
  | 0, _, _, _ => none
  | fuel + 1, stack, items, cs =>
    match modes.skip cs with
    | [] => none
    | '[' :: rest =>
      match modes.readNamedClass rest with
      | some (named, rest) =>
        named.bind fun s => readClassBody modes fuel stack (items.push s 0) rest
      | none =>
        (modes.readClassOpening rest).bind fun (negated, inner, rest) =>
          readClassBody modes fuel (.bracket items negated :: stack) inner rest
    | ']' :: rest =>
      let (part, stack) := modes.closeOp stack items.toPart
      match stack with
      | .bracket outer negated :: stack =>
        (modes.finishClass negated part.members).bind fun members =>
          if stack.isEmpty then some (⟨members, part.depth + 1⟩, rest)
          else readClassBody modes fuel stack (outer.push members (part.depth + 1)) rest
      | _ => none
    | '&' :: '&' :: rest =>
      let (part, stack) := modes.closeOp stack items.toPart
      readClassBody modes fuel (.op .inter part :: stack) .empty rest
    | '-' :: '-' :: rest =>
      let (part, stack) := modes.closeOp stack items.toPart
      readClassBody modes fuel (.op .diff part :: stack) .empty rest
    | '~' :: '~' :: rest =>
      let (part, stack) := modes.closeOp stack items.toPart
      readClassBody modes fuel (.op .symmDiff part :: stack) .empty rest
    | cs =>
      (modes.readClassItem cs).bind fun (s, rest) =>
        readClassBody modes fuel stack (items.push s 0) rest

/-- Reads a class from after its opening bracket. -/
def readClass (modes : Modes) (cs : List Char) : Option (ClassPart × List Char) :=
  (modes.readClassOpening cs).bind fun (negated, items, rest) =>
    modes.readClassBody (cs.length + 1) [.bracket .empty negated] items rest

end Modes
end PatternComposer.Regex
