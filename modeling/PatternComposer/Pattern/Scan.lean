import PatternComposer.Pattern.Basic

/-! # All matches of a pattern

A global pattern is searched for again from the end of each match. After an empty match the search
moves on by one character, so that it is not found again. A match that a `\K` lets begin in front of
the search can be found again all the same, over and over.
-/

namespace PatternComposer

/-- Where the search goes on after a match. -/
def Match.resume (m : Match) (cs : List Char) : Nat :=
  if m.isEmpty then m.stop + Text.widthAt cs m.stop else m.stop

/-- Collects matches one after the other. When `adjacent`, a match has to begin where the search
for it did. `fuel` bounds the number of matches; with more of them the search is `endless`. -/
def scanFrom {ε : Type} (endless : ε) (findAt : Nat → Except ε (Option Match)) (cs : List Char)
    (adjacent : Bool) : Nat → Nat → Except ε (List Match)
  | 0, _ => .error endless
  | fuel + 1, pos =>
    if Text.byteLength cs < pos then .ok []
    else
      match findAt pos with
      | .error e => .error e
      | .ok none => .ok []
      | .ok (some m) =>
        if adjacent && m.start != pos then .ok []
        else (scanFrom endless findAt cs adjacent fuel (m.resume cs)).map (m :: ·)

namespace Pattern

/-- Every match of a global pattern, or the first match of another one. Matches of a sticky
pattern leave no gaps. -/
def findAll (p : Pattern) (text : String) : Except Error (List Match) :=
  if p.isGlobal then
    scanFrom (.engine .endless) (p.findAt text) text.toList p.isSticky (text.toList.length + 2) 0
  else (p.find text).map Option.toList

end Pattern
end PatternComposer
