import PatternComposer.Proofs.Pattern.Influence

/-! # All matches of a global pattern

Of the engine only this is assumed: a match that it finds from a boundary on lies behind that
boundary, inside the text and on boundaries itself (`InRange`). Then the search for all matches comes to
an end, each match is the first one behind the one before it, and a sticky search returns what the
other one does up to its first gap.

The search is followed by `Scans`, which has no bound on the number of matches. What makes it end
is that each match moves the position on by at least one character, also an empty one.
-/

namespace PatternComposer

namespace Text

/-- Byte offsets between characters, and the two ends of a text. -/
def IsBoundary (cs : List Char) (offset : Nat) : Prop :=
  ∃ index ≤ cs.length, byteOffset cs index = offset

theorem byteOffset_length (cs : List Char) : byteOffset cs cs.length = byteLength cs := by
  rw [byteOffset, List.take_length]

theorem byteOffset_succ {cs : List Char} {index : Nat} {c : Char} (here : cs[index]? = some c) :
    byteOffset cs (index + 1) = byteOffset cs index + c.utf8Size := by
  rw [byteOffset, List.take_add_one, here, byteLength_append]
  simp [byteOffset, byteLength]

theorem byteOffset_mono (cs : List Char) {i j : Nat} (le : i ≤ j) :
    byteOffset cs i ≤ byteOffset cs j := by
  obtain ⟨more, split⟩ := List.take_prefix_take_left (l := cs) le
  rw [byteOffset, byteOffset, ← split, byteLength_append]
  exact Nat.le_add_right ..

theorem byteOffset_lt {cs : List Char} {i j : Nat} (lt : i < j) (inside : j ≤ cs.length) :
    byteOffset cs i < byteOffset cs j := by
  have here : cs[i]? = some cs[i] := List.getElem?_eq_getElem (by omega)
  have step := byteOffset_succ here
  have width := cs[i].utf8Size_pos
  have rest := byteOffset_mono cs (show i + 1 ≤ j from lt)
  omega

theorem byteOffset_le_iff {cs : List Char} {i j : Nat} (inside : i ≤ cs.length) :
    byteOffset cs i ≤ byteOffset cs j ↔ i ≤ j := by
  refine ⟨fun le => Nat.le_of_not_lt fun gt => ?_, byteOffset_mono cs⟩
  exact absurd le (Nat.not_le.mpr (byteOffset_lt gt inside))

end Text

variable {ε : Type} {findAt : Nat → Except ε (Option Match)} {cs : List Char}

/-- What is asked of the engine: from a boundary on it finds matches behind the boundary, whose ends are
boundaries of the text. -/
def InRange (cs : List Char) (findAt : Nat → Except ε (Option Match)) : Prop :=
  ∀ pos m, Text.IsBoundary cs pos → findAt pos = .ok (some m) →
    pos ≤ m.start ∧ m.start ≤ m.stop ∧ Text.IsBoundary cs m.start ∧ Text.IsBoundary cs m.stop

/-- The search for all matches from a position on has this result. -/
inductive Scans (findAt : Nat → Except ε (Option Match)) (cs : List Char) (adjacent : Bool) :
    Nat → Except ε (List Match) → Prop where
  | past {pos} (past : Text.byteLength cs < pos) : Scans findAt cs adjacent pos (.ok [])
  | failed {pos e} (inside : pos ≤ Text.byteLength cs) (failed : findAt pos = .error e) :
      Scans findAt cs adjacent pos (.error e)
  | none {pos} (inside : pos ≤ Text.byteLength cs) (none : findAt pos = .ok none) :
      Scans findAt cs adjacent pos (.ok [])
  | gap {pos m} (inside : pos ≤ Text.byteLength cs) (found : findAt pos = .ok (some m))
      (gap : adjacent ∧ m.start ≠ pos) : Scans findAt cs adjacent pos (.ok [])
  | next {pos m result} (inside : pos ≤ Text.byteLength cs) (found : findAt pos = .ok (some m))
      (closed : adjacent → m.start = pos) (rest : Scans findAt cs adjacent (m.resume cs) result) :
      Scans findAt cs adjacent pos (result.map (m :: ·))

/-- The position in front of a character, or behind the end of the text. Searches begin nowhere
else. -/
def Spot (cs : List Char) (pos index : Nat) : Prop :=
  (index ≤ cs.length ∧ pos = Text.byteOffset cs index) ∨
    (index = cs.length + 1 ∧ pos = Text.byteLength cs + 1)

namespace Spot

theorem zero (cs : List Char) : Spot cs 0 0 := .inl ⟨Nat.zero_le _, by simp [Text.byteOffset, Text.byteLength]⟩

theorem inside_iff {pos index : Nat} (spot : Spot cs pos index) :
    pos ≤ Text.byteLength cs ↔ index ≤ cs.length := by
  rcases spot with ⟨inside, rfl⟩ | ⟨rfl, rfl⟩
  · rw [← Text.byteOffset_length, Text.byteOffset_le_iff inside]
  · omega

theorem isBoundary {pos index : Nat} (spot : Spot cs pos index)
    (inside : pos ≤ Text.byteLength cs) : Text.IsBoundary cs pos := by
  rcases spot with ⟨bound, rfl⟩ | ⟨_, rfl⟩
  · exact ⟨index, bound, rfl⟩
  · omega

end Spot

/-- Behind an empty match the search goes on one character further, or past the end. -/
theorem Match.resume_of_empty {m : Match} {index : Nat} (inside : index ≤ cs.length)
    (start : m.start = Text.byteOffset cs index) (stop : m.stop = Text.byteOffset cs index) :
    m.stop < m.resume cs ∧ Spot cs (m.resume cs) (index + 1) := by
  have here := Text.charIndex_byteOffset cs inside
  have resumed : m.resume cs = Text.byteOffset cs index + (cs[index]?.map Char.utf8Size).getD 1 := by
    simp only [resume, isEmpty, start, stop, BEq.rfl, ↓reduceIte, Text.widthAt, here]
  cases atIndex : cs[index]? with
  | none =>
    obtain rfl : index = cs.length := Nat.le_antisymm inside (List.getElem?_eq_none_iff.mp atIndex)
    rw [resumed, stop, atIndex, Text.byteOffset_length]
    exact ⟨Nat.lt_succ_self _, .inr ⟨rfl, rfl⟩⟩
  | some c =>
    have width := c.utf8Size_pos
    obtain ⟨bound, _⟩ := List.getElem?_eq_some_iff.mp atIndex
    rw [resumed, stop, atIndex]
    exact ⟨Nat.lt_add_of_pos_right width, .inl ⟨bound, (Text.byteOffset_succ atIndex).symm⟩⟩

/-- A search goes on behind the match that it found, and by at least one character further than
it began. -/
theorem Match.resume_spot (engine : InRange cs findAt) {pos index : Nat} {m : Match}
    (spot : Spot cs pos index) (inside : pos ≤ Text.byteLength cs)
    (found : findAt pos = .ok (some m)) :
    m.start < m.resume cs ∧ m.stop ≤ m.resume cs ∧
      ∃ next, index < next ∧ next ≤ cs.length + 1 ∧ Spot cs (m.resume cs) next := by
  obtain ⟨behind, ordered, ⟨first, firstInside, start⟩, ⟨last, lastInside, stop⟩⟩ :=
    engine pos m (spot.isBoundary inside) found
  have reached : index ≤ first := by
    rcases spot with ⟨bound, rfl⟩ | ⟨_, rfl⟩
    · exact (Text.byteOffset_le_iff bound).mp (start ▸ behind)
    · omega
  have forward : first ≤ last := (Text.byteOffset_le_iff firstInside).mp (start ▸ stop ▸ ordered)
  by_cases empty : m.start = m.stop
  · obtain ⟨further, next⟩ := m.resume_of_empty lastInside (empty.trans stop.symm) stop.symm
    exact ⟨empty ▸ further, Nat.le_of_lt further, last + 1, by omega, by omega, next⟩
  · have resumed : m.resume cs = m.stop := by simp [resume, isEmpty, empty]
    have longer : first < last := by
      refine Nat.lt_of_le_of_ne forward fun same => empty ?_
      rw [← start, ← stop, same]
    rw [resumed]
    exact ⟨by omega, Nat.le_refl _, last, by omega, by omega, .inl ⟨lastInside, stop.symm⟩⟩

/-- The bound on the number of matches is never reached. -/
theorem scanFrom_scans (engine : InRange cs findAt) (endless : ε) (adjacent : Bool) {fuel pos index : Nat}
    (spot : Spot cs pos index) (enough : cs.length + 2 ≤ fuel + index) (bound : index ≤ cs.length + 1) :
    Scans findAt cs adjacent pos (scanFrom endless findAt cs adjacent fuel pos) := by
  induction fuel generalizing pos index with
  | zero => omega
  | succ fuel ih =>
    rw [scanFrom]
    split
    · next past => exact .past past
    · next within =>
      have inside : pos ≤ Text.byteLength cs := Nat.le_of_not_lt within
      split
      · next e failed => exact .failed inside failed
      · next none => exact .none inside none
      · next m found =>
        split
        · next gap => exact .gap inside found (by simpa using gap)
        · next closed =>
          obtain ⟨_, _, next, further, bound, spot⟩ := m.resume_spot engine spot inside found
          exact .next inside found (by simpa using closed) (ih spot (by omega) bound)

/-! ## The matches that are returned -/

/-- Each match is the first one from where the search went on after the one before it, and from where it
would go on after the last one there is none. -/
def Chained (findAt : Nat → Except ε (Option Match)) (cs : List Char) : Nat → List Match → Prop
  | pos, [] => Text.byteLength cs < pos ∨ findAt pos = .ok none
  | pos, m :: rest =>
    pos ≤ Text.byteLength cs ∧ findAt pos = .ok (some m) ∧ Chained findAt cs (m.resume cs) rest

/-- Each match begins where the search for it did. -/
def Gapless (cs : List Char) : Nat → List Match → Prop
  | _, [] => True
  | pos, m :: rest => m.start = pos ∧ Gapless cs (m.resume cs) rest

theorem Scans.chained {pos : Nat} {result : Except ε (List Match)} {matched : List Match}
    (scans : Scans findAt cs false pos result) (returned : result = .ok matched) :
    Chained findAt cs pos matched := by
  induction scans generalizing matched with
  | past past => cases returned; exact .inl past
  | failed => cases returned
  | none _ none => cases returned; exact .inr none
  | gap _ _ gap => exact absurd gap.1 Bool.false_ne_true
  | next inside found _ _ ih =>
    obtain ⟨rest, same, rfl⟩ := Except.map_eq_ok_iff.mp returned
    exact ⟨inside, found, ih same⟩

namespace Chained

variable {pos index : Nat} {matched : List Match}

theorem behind (engine : InRange cs findAt) (spot : Spot cs pos index)
    (chained : Chained findAt cs pos matched) {m : Match} (member : m ∈ matched) :
    pos ≤ m.start := by
  induction matched generalizing pos index with
  | nil => cases member
  | cons first rest ih =>
    obtain ⟨inside, found, tail⟩ := chained
    have start := (engine pos first (spot.isBoundary inside) found).1
    obtain ⟨later, _, next, _, _, spot⟩ := first.resume_spot engine spot inside found
    rcases List.mem_cons.mp member with rfl | member
    · exact start
    · have rest := ih spot tail member
      omega

/-- Matches begin in ascending order and do not overlap. -/
theorem ordered (engine : InRange cs findAt) (spot : Spot cs pos index)
    (chained : Chained findAt cs pos matched) :
    matched.Pairwise fun m later => m.start < later.start ∧ m.stop ≤ later.start := by
  induction matched generalizing pos index with
  | nil => exact .nil
  | cons first rest ih =>
    obtain ⟨inside, found, tail⟩ := chained
    obtain ⟨later, disjoint, next, _, _, spot⟩ := first.resume_spot engine spot inside found
    refine .cons (fun m member => ?_) (ih spot tail)
    have start := tail.behind engine spot member
    exact ⟨by omega, by omega⟩

/-- There is at most one match for each character and one for the end of the text. -/
theorem length_le (engine : InRange cs findAt) (spot : Spot cs pos index)
    (bound : index ≤ cs.length + 1) (chained : Chained findAt cs pos matched) :
    matched.length + index ≤ cs.length + 1 := by
  induction matched generalizing pos index with
  | nil => simpa using bound
  | cons first rest ih =>
    obtain ⟨inside, found, tail⟩ := chained
    obtain ⟨_, _, next, further, bound, spot⟩ := first.resume_spot engine spot inside found
    have rest := ih spot bound tail
    simp only [List.length_cons]
    omega

theorem head?_eq (chained : Chained findAt cs 0 matched) : findAt 0 = .ok matched.head? := by
  cases matched with
  | nil => exact chained.resolve_left (Nat.not_lt_zero _)
  | cons m rest => exact chained.2.1

end Chained

theorem Chained.eq_nil {pos : Nat} {all : List Match} (chained : Chained findAt cs pos all)
    (stopped : Text.byteLength cs < pos ∨ findAt pos = .ok none) : all = [] := by
  cases all with
  | nil => rfl
  | cons m rest =>
    obtain ⟨inside, found, _⟩ := chained
    rcases stopped with past | none
    · omega
    · cases found.symm.trans none

theorem Chained.eq_cons {pos : Nat} {all : List Match} {m : Match}
    (chained : Chained findAt cs pos all) (inside : pos ≤ Text.byteLength cs)
    (found : findAt pos = .ok (some m)) :
    ∃ rest, all = m :: rest ∧ Chained findAt cs (m.resume cs) rest := by
  cases all with
  | nil =>
    rcases chained with past | none
    · omega
    · cases found.symm.trans none
  | cons other rest =>
    obtain ⟨_, same, tail⟩ := chained
    cases found.symm.trans same
    exact ⟨rest, rfl, tail⟩

/-- A sticky search returns what the other one does up to its first gap. -/
theorem Scans.gapless {pos : Nat} {result : Except ε (List Match)} {matched all : List Match}
    (scans : Scans findAt cs true pos result) (returned : result = .ok matched)
    (chained : Chained findAt cs pos all) :
    matched <+: all ∧ Gapless cs pos matched ∧
      ∀ more, more <+: all → Gapless cs pos more → more <+: matched := by
  induction scans generalizing matched all with
  | past past =>
    cases returned
    obtain rfl := chained.eq_nil (.inl past)
    exact ⟨List.nil_prefix, trivial, fun more shorter _ => shorter⟩
  | failed => cases returned
  | none _ none =>
    cases returned
    obtain rfl := chained.eq_nil (.inr none)
    exact ⟨List.nil_prefix, trivial, fun more shorter _ => shorter⟩
  | gap inside found gap =>
    cases returned
    obtain ⟨rest, rfl, _⟩ := chained.eq_cons inside found
    refine ⟨List.nil_prefix, trivial, fun more shorter gapless => ?_⟩
    cases more with
    | nil => exact List.nil_prefix
    | cons first more =>
      obtain ⟨rfl, _⟩ := List.cons_prefix_cons.mp shorter
      exact absurd gapless.1 gap.2
  | next inside found closed _ ih =>
    obtain ⟨tail, same, rfl⟩ := Except.map_eq_ok_iff.mp returned
    obtain ⟨rest, rfl, follow⟩ := chained.eq_cons inside found
    obtain ⟨shorter, gapless, longest⟩ := ih same follow
    refine ⟨List.cons_prefix_cons.mpr ⟨rfl, shorter⟩, ⟨closed rfl, gapless⟩,
      fun more shorterToo gaplessToo => ?_⟩
    cases more with
    | nil => exact List.nil_prefix
    | cons first more =>
      obtain ⟨rfl, others⟩ := List.cons_prefix_cons.mp shorterToo
      exact List.cons_prefix_cons.mpr ⟨rfl, longest more others gaplessToo.2⟩

namespace Pattern

/-- Stickiness is no business of the engine: without it a source is searched for in the same way. -/
theorem findAt_of_unsticky {source : String} {flags others : Flags} {p q : Pattern}
    (compiled : compile source flags = .ok p) (unsticky : compile source others = .ok q)
    (same : others.toList = flags.toList.filter (· != Flags.sticky)) : q.findAt = p.findAt := by
  refine findAt_eq (fun flag given => ?_) compiled unsticky
  have other : flag ≠ Flags.sticky := by
    rintro rfl
    exact absurd given (by decide)
  simp [same, other]

/-- The search of a global pattern ends. Without stickiness its matches follow one another as the
engine finds them, in order and without overlap, the first one being the match of `find`; a sticky
pattern has the longest beginning of them that leaves no gap. -/
theorem findAll_chained {source : String} {flags : Flags} {p : Pattern}
    (compiled : compile source flags = .ok p) (global : p.isGlobal) {text : String}
    (engine : InRange text.toList (p.findAt text)) :
    Scans (p.findAt text) text.toList p.isSticky 0 (p.findAll text) ∧
      (p.isSticky = false → ∀ matched, p.findAll text = .ok matched →
        Chained (p.findAt text) text.toList 0 matched ∧
        matched.Pairwise (fun m later => m.start < later.start ∧ m.stop ≤ later.start) ∧
        matched.length ≤ text.length + 1 ∧
        p.find text = .ok matched.head? ∧
        p.isMatch text = .ok (!matched.isEmpty)) ∧
      (p.isSticky → ∀ others q matched all, compile source others = .ok q →
        others.toList = flags.toList.filter (· != Flags.sticky) →
        p.findAll text = .ok matched → q.findAll text = .ok all →
        matched <+: all ∧ Gapless text.toList 0 matched ∧
          ∀ more, more <+: all → Gapless text.toList 0 more → more <+: matched) := by
  have spot := Spot.zero text.toList
  have scans (p : Pattern) (global : p.isGlobal) (engine : InRange text.toList (p.findAt text)) :
      Scans (p.findAt text) text.toList p.isSticky 0 (p.findAll text) := by
    rw [findAll, if_pos global]
    exact scanFrom_scans engine _ _ spot (by omega) (by omega)
  refine ⟨scans p global engine, fun free matched returned => ?_, ?_⟩
  · have chained := (free ▸ scans p global engine).chained returned
    have found : p.find text = .ok matched.head? := by
      rw [find, chained.head?_eq, free]
      cases matched <;> rfl
    refine ⟨chained, chained.ordered engine spot, ?_, found, ?_⟩
    · simpa only [Nat.add_zero, String.length_toList] using chained.length_le engine spot (by omega)
    · cases matched <;> simp [isMatch, found, Except.map]
  · intro sticky others q matched all unsticky same returned returnedAll
    have again := findAt_of_unsticky compiled unsticky same
    have flagsOf := (compile_eq_ok compiled).2.1
    have flagsOfOthers := (compile_eq_ok unsticky).2.1
    have globalToo : q.isGlobal := by
      rw [isGlobal, flagsOf] at global
      rw [isGlobal, flagsOfOthers, Flags.contains, same]
      simpa [Flags.contains, Flags.global, Flags.sticky] using global
    have free : q.isSticky = false := by
      rw [isSticky, flagsOfOthers, Flags.contains, same]
      simp
    have chained := (free ▸ scans q globalToo (again ▸ engine)).chained returnedAll
    rw [again] at chained
    exact (sticky ▸ scans p global engine).gapless returned chained

/-- A match with a character, an empty one in front of a wide character and one at the end. -/
theorem findAll_chained_of_optional :
    let p : Pattern := ⟨"x*", Flags.ofString "g",
      .plain (Regex.Node.rep (.set (.single 'x')) 0 none true).program 0⟩
    compile "x*" (Flags.ofString "g") = .ok p ∧ p.isGlobal ∧
      InRange "xé".toList (p.findAt "xé") ∧
      p.findAll "xé" = .ok [⟨0, 1, []⟩, ⟨1, 1, []⟩, ⟨3, 3, []⟩] ∧
      Chained (p.findAt "xé") "xé".toList 0 [⟨0, 1, []⟩, ⟨1, 1, []⟩, ⟨3, 3, []⟩] := by
  intro p
  have compiled : compile "x*" (Flags.ofString "g") = .ok p := by cbv
  have first : p.findAt "xé" 0 = .ok (some ⟨0, 1, []⟩) := by cbv
  have second : p.findAt "xé" 1 = .ok (some ⟨1, 1, []⟩) := by cbv
  have last : p.findAt "xé" 3 = .ok (some ⟨3, 3, []⟩) := by cbv
  have returned : p.findAll "xé" = .ok [⟨0, 1, []⟩, ⟨1, 1, []⟩, ⟨3, 3, []⟩] := by cbv
  have engine : InRange "xé".toList (p.findAt "xé") := by
    have bounds : Text.IsBoundary "xé".toList 0 ∧ Text.IsBoundary "xé".toList 1 ∧
        Text.IsBoundary "xé".toList 3 :=
      ⟨⟨0, by decide, rfl⟩, ⟨1, by decide, rfl⟩, ⟨2, by decide, rfl⟩⟩
    rintro pos m ⟨index, bound, offset⟩ found
    have few : index = 0 ∨ index = 1 ∨ index = 2 := by
      have : "xé".toList.length = 2 := rfl
      omega
    obtain rfl | rfl | rfl := few
    · obtain rfl : 0 = pos := offset
      obtain rfl : ⟨0, 1, []⟩ = m := by simpa using first.symm.trans found
      exact ⟨by decide, by decide, bounds.1, bounds.2.1⟩
    · obtain rfl : 1 = pos := offset
      obtain rfl : ⟨1, 1, []⟩ = m := by simpa using second.symm.trans found
      exact ⟨by decide, by decide, bounds.2.1, bounds.2.1⟩
    · obtain rfl : 3 = pos := offset
      obtain rfl : ⟨3, 3, []⟩ = m := by simpa using last.symm.trans found
      exact ⟨by decide, by decide, bounds.2.2, bounds.2.2⟩
  have chained := ((findAll_chained compiled rfl engine).2.1 rfl _ returned).1
  exact ⟨compiled, rfl, engine, returned, chained⟩

end Pattern
end PatternComposer
