import PatternComposer.Regex.Tree
import Std.Data.TreeMap.Basic

/-! # The size of a compiled pattern

A pattern is refused when the automaton over UTF-8 bytes that it stands for would take more than
ten megabytes, read in either direction. The size is worked out from the tree before anything is
expanded, so `a{4294967295}` is refused as quickly as it is read. Each state takes 32 bytes, each
entry of a branching state 4 and each byte range of a class state 8.
-/

namespace PatternComposer.Regex

namespace Utf8

/-- A run of byte ranges: the bytes of several characters of equal length. -/
abbrev ByteRun := List (Nat × Nat)

/-- The bytes of a code point. -/
def bytes (code : Nat) : List Nat :=
  if code < 0x80 then [code]
  else if code < 0x800 then [0xC0 + code / 64, 0x80 + code % 64]
  else if code < 0x10000 then
    [0xE0 + code / 4096, 0x80 + code / 64 % 64, 0x80 + code % 64]
  else
    [0xF0 + code / 262144, 0x80 + code / 4096 % 64, 0x80 + code / 64 % 64, 0x80 + code % 64]

/-- Where a range has to be cut so that its parts have bytes of equal length. -/
def lengthCut (lo hi : Nat) : Option Nat :=
  [0x7F, 0x7FF, 0xFFFF].find? fun last => decide (lo ≤ last) && decide (last < hi)

/-- Where a range has to be cut so that it covers whole blocks of the block size `m + 1`. -/
def blockCut (lo hi : Nat) : Option Nat :=
  [0x3F, 0xFFF, 0x3FFFF].findSome? fun m =>
    let first := lo / (m + 1)
    let last := hi / (m + 1)
    if first = last then none
    else if lo % (m + 1) ≠ 0 then some (first * (m + 1) + m)
    else if hi % (m + 1) ≠ m then some (last * (m + 1) - 1)
    else none

/-- The byte runs of a range of code points, in ascending order. Surrogates have none. -/
def runs : Nat → Nat → Nat → List ByteRun
  | 0, _, _ => []
  | fuel + 1, lo, hi =>
    if hi < lo then []
    else if lo ≤ 0xDFFF ∧ 0xD800 ≤ hi then
      (if lo < 0xD800 then runs fuel lo 0xD7FF else []) ++
        (if 0xDFFF < hi then runs fuel 0xE000 hi else [])
    else
      let cut := lengthCut lo hi <|> if hi < 0x80 then none else blockCut lo hi
      match cut with
      | some cut => runs fuel lo cut ++ runs fuel (cut + 1) hi
      | none => [(bytes lo).zip (bytes hi)]

/-- The byte runs of a set. -/
def ofSet (s : CharSet) : List ByteRun :=
  s.canonical.ranges.flatMap fun r => runs 64 r.1 r.2

/-- The length of the common beginning of two runs. -/
def shared : ByteRun → ByteRun → Nat
  | r :: rs, q :: qs => if r == q then shared rs qs + 1 else 0
  | _, _ => 0

/-- The number of different beginnings of the runs. -/
def beginnings : ByteRun → List ByteRun → Nat
  | _, [] => 0
  | previous, run :: rest => run.length - shared previous run + beginnings run rest

/-- Splits off the runs that begin with the byte range `r`, without that range. -/
def takeGroup (r : Nat × Nat) : List ByteRun → List ByteRun × List ByteRun
  | [] => ([], [])
  | run :: rest =>
    match run with
    | q :: tail =>
      if q == r then
        let (group, others) := takeGroup r rest
        (tail :: group, others)
      else ([], run :: rest)
    | [] => ([], run :: rest)

/-- Nodes of a shared byte tree by their transitions, numbered from 1. -/
abbrev NodeTable := Std.TreeMap (List Nat) Nat

/-- The number of a node with these transitions, entered in the table if it is new. -/
def intern (table : NodeTable) (transitions : List Nat) : Nat × NodeTable :=
  match table[transitions]? with
  | some id => (id, table)
  | none => (table.size + 1, table.insert transitions (table.size + 1))

/-- Shares the byte trees of runs of at most `depth` bytes: the transitions of their root, three
numbers each, and the table of the nodes below it. Node 0 stands after the last byte. -/
def shareTree : Nat → Nat → List ByteRun → NodeTable → List Nat × NodeTable
  | 0, _, _, table => ([], table)
  | _, 0, _, table => ([], table)
  | _, _, [], table => ([], table)
  | _, _, [] :: _, table => ([], table)
  | depth + 1, width + 1, (r :: tail) :: rest, table =>
    let (group, others) := takeGroup r rest
    let (child, table) :=
      if tail.isEmpty then (0, table)
      else
        let (transitions, table) := shareTree depth (width + 1) (tail :: group) table
        intern table transitions
    let (transitions, table) := shareTree (depth + 1) width others table
    (r.1 :: r.2 :: child :: transitions, table)

/-- The bytes that a set beyond ASCII takes in forward direction. -/
def forwardSize (byteRuns : List ByteRun) : Nat :=
  let (transitions, table) := shareTree 5 (byteRuns.length + 1) byteRuns ∅
  let (_, table) := intern table transitions
  32 + table.foldl (fun total key _ => total + 32 + 8 * (key.length / 3)) 0

/-- The bytes that a set beyond ASCII takes in backward direction. -/
def backwardSize (byteRuns : List ByteRun) : Nat :=
  64 + 4 * byteRuns.length + 32 * beginnings [] byteRuns

end Utf8

/-- A size in both directions. -/
structure Footprint where
  forward : Nat
  backward : Nat
deriving DecidableEq, Repr

namespace Footprint

def both (n : Nat) : Footprint := ⟨n, n⟩

def add (a b : Footprint) : Footprint := ⟨a.forward + b.forward, a.backward + b.backward⟩

def times (n : Nat) (a : Footprint) : Footprint := ⟨n * a.forward, n * a.backward⟩

instance : Add Footprint := ⟨add⟩

def ofSet (s : CharSet) : Footprint :=
  match s.canonical.ranges with
  | [] => both 32
  | [(lo, hi)] =>
    if lo = hi then both (32 * (Utf8.bytes lo).length)
    else if hi < 0x80 then both 72
    else ofRuns [(lo, hi)]
  | ranges =>
    if CharSet.below ⟨ranges⟩ 0x80 then both (64 + 8 * ranges.length) else ofRuns ranges
where
  ofRuns (ranges : List (Nat × Nat)) : Footprint :=
    let byteRuns := Utf8.ofSet ⟨ranges⟩
    ⟨Utf8.forwardSize byteRuns, Utf8.backwardSize byteRuns⟩

/-- A repetition of a body with a given footprint. -/
def repetition (consumes : Bool) (lo : Nat) (hi : Option Nat) (body : Footprint) : Footprint :=
  match lo, hi with
  | 0, some 0 => both 32
  | 0, some 1 => body + both 72
  | 0, none => if consumes then body + both 40 else body + both 112
  | lo, none => times lo body + both 40
  | lo, some hi =>
    if lo = hi then times lo body else times lo body + both 32 + times (hi - lo) (body + both 40)

end Footprint

namespace Node

/-- The footprint of a tree. An alternation nested in another one shares its states. -/
def footprint : Node → Footprint
  | .empty => .both 0
  | .set members => .ofSet members
  | .look _ => .both 32
  | .cat a b => a.footprint + b.footprint
  | .alt a b =>
    let joined (n : Node) : Nat := match n with
      | .alt _ _ => 68
      | _ => 0
    let inner := a.footprint + b.footprint
    ⟨inner.forward + 72 - joined a - joined b, inner.backward + 72 - joined a - joined b⟩
  | .rep body lo hi _ =>
    if body.onlyEmpty then
      .repetition false (min lo 1) (some (min (hi.getD 1) 1)) body.footprint
    else .repetition body.consumes lo hi body.footprint
  | .group _ body => ⟨body.footprint.forward + 64, body.footprint.backward⟩

end Node

/-- The largest size that is accepted. -/
def sizeLimit : Nat := 10 * 1024 * 1024

/-- Whether a tree stays within the size limit, with the states around every pattern. -/
def Node.fits (node : Node) : Bool :=
  decide (node.footprint.forward + 208 ≤ sizeLimit) &&
    decide (node.footprint.backward + 144 ≤ sizeLimit)

end PatternComposer.Regex
