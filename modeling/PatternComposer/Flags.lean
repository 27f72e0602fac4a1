/-! # Flags

A flag is a character. A flag set keeps its flags in order of first appearance and holds none
twice, so putting the flags of a build after the configured ones is an ordered union.
-/

namespace PatternComposer

/-- An ordered set of flag characters. -/
structure Flags where
  toList : List Char
  nodup : toList.Nodup
deriving DecidableEq, Repr

namespace Flags

def empty : Flags := ⟨[], List.nodup_nil⟩

instance : Inhabited Flags := ⟨empty⟩

instance : EmptyCollection Flags := ⟨empty⟩

def contains (flags : Flags) (flag : Char) : Bool := flags.toList.contains flag

/-- Adds a flag at the end unless it is there already. -/
def insert (flags : Flags) (flag : Char) : Flags :=
  if h : flag ∈ flags.toList then flags
  else ⟨flags.toList ++ [flag], by
    rw [List.nodup_append]
    refine ⟨flags.nodup, by simp, ?_⟩
    intro a member b single
    obtain rfl : b = flag := by simpa using single
    rintro rfl
    exact h member⟩

/-- Adds flags in order. -/
def extend (flags : Flags) (more : List Char) : Flags := more.foldl insert flags

def merge (flags other : Flags) : Flags := flags.extend other.toList

def ofList (cs : List Char) : Flags := empty.extend cs

/-- The flags of a text, one for each character. -/
def ofString (s : String) : Flags := ofList s.toList

/-- The flags of several texts, taken together. -/
def ofStrings (ss : List String) : Flags := ofList (ss.flatMap String.toList)

def singleton (flag : Char) : Flags := ⟨[flag], by simp⟩

def size (flags : Flags) : Nat := flags.toList.length

def isEmpty (flags : Flags) : Bool := flags.toList.isEmpty

protected def toString (flags : Flags) : String := String.ofList flags.toList

instance : ToString Flags := ⟨Flags.toString⟩

/-- Report every match instead of the first one. -/
def global : Char := 'g'

/-- Match letters regardless of case. -/
def caseInsensitive : Char := 'i'

/-- Let line assertions hold at line boundaries. -/
def multiLine : Char := 'm'

/-- Let the dot match line ends. -/
def dotAll : Char := 's'

/-- Match code points. This is always so. -/
def unicode : Char := 'u'

/-- Match only at the start of the text. -/
def sticky : Char := 'y'

/-- Every flag with a meaning. -/
def supported : List Char := [global, caseInsensitive, multiLine, dotAll, unicode, sticky]

/-- Flags that are part of the engine's pattern text; the others act on how matches are looked
for. -/
def inline : List Char := [caseInsensitive, multiLine, dotAll]

/-- The first flag without a meaning. -/
def firstUnsupported? (flags : Flags) : Option Char :=
  flags.toList.find? fun flag => !supported.contains flag

end Flags
end PatternComposer
