import PatternComposer.Proofs.Pattern.AllMatches
import PatternComposer.Proofs.Pattern.Wrapping
import PatternComposer.Proofs.Regex.Extended.Located

/-! # Matches are stretches of the text

Whatever matches are reported, they can be cut out of the text. Searches for all matches go on from
boundary to boundary and never back. They end with matches that begin one behind the other, unless a `\K` in
something that looks behind moves the start of a match in front of the search: then a match may begin where
another one did, or be found again without end.
-/

namespace PatternComposer

/-- The match is a stretch between two boundaries of the text. -/
structure Match.Usable (text : String) (m : Match) : Prop where
  ordered : m.start ≤ m.stop
  inside : m.stop ≤ Text.byteLength text.toList
  start : Text.IsBoundary text.toList m.start
  stop : Text.IsBoundary text.toList m.stop

namespace Match.Usable

variable {text : String} {m : Match}

/-- What a match takes can be cut out of the text, and is as long as the match. -/
theorem cut (usable : m.Usable text) :
    ∃ before after, text.toList = before ++ (m.text text).toList ++ after ∧ Text.byteLength before = m.start ∧
      Text.byteLength (m.text text).toList = m.size := by
  obtain ⟨⟨first, firstInside, start⟩, ⟨last, lastInside, stop⟩⟩ := And.intro usable.start usable.stop
  have forward : first ≤ last := (Text.byteOffset_le_iff firstInside).mp (start ▸ stop ▸ usable.ordered)
  have taken : (m.text text).toList = (text.toList.take last).drop first := by
    rw [Match.text, String.toList_ofList, ← start, ← stop, Text.slice_byteOffset]
  have front : text.toList.take last = text.toList.take first ++ (m.text text).toList := by
    rw [taken, ← List.take_append_drop first (text.toList.take last), List.take_take, Nat.min_eq_left forward,
      List.drop_left' (by simp; omega)]
  refine ⟨text.toList.take first, text.toList.drop last, ?_, start, ?_⟩
  · rw [← front, List.take_append_drop]
  · have sum : Text.byteOffset text.toList last = m.start + Text.byteLength (m.text text).toList := by
      rw [Text.byteOffset, front, Text.byteLength_append, ← start, Text.byteOffset]
    rw [Match.size, ← stop, sum, Nat.add_sub_cancel_left]

end Match.Usable

/-! ## Searches that do not go back -/

variable {ε : Type} {findAt : Nat → Except ε (Option Match)} {text : String}

/-- What every engine does: from a boundary on it finds stretches that do not end in front of the boundary. -/
def StopsBehind (text : String) (findAt : Nat → Except ε (Option Match)) : Prop :=
  ∀ pos m, Text.IsBoundary text.toList pos → findAt pos = .ok (some m) → m.Usable text ∧ pos ≤ m.stop

/-- A search goes on further behind, or where it began, but then with a match that begins in front of it. -/
theorem StopsBehind.resume (engine : StopsBehind text findAt) {pos index : Nat} {m : Match}
    (spot : Spot text.toList pos index) (inside : pos ≤ Text.byteLength text.toList)
    (found : findAt pos = .ok (some m)) :
    m.resume text.toList = pos ∨
      ∃ next, index < next ∧ next ≤ text.toList.length + 1 ∧ Spot text.toList (m.resume text.toList) next := by
  obtain ⟨⟨ordered, _, _, ⟨last, lastInside, stop⟩⟩, reached⟩ := engine pos m (spot.isBoundary inside) found
  have within : index ≤ text.toList.length := spot.inside_iff.mp inside
  have here : pos = Text.byteOffset text.toList index := by
    rcases spot with ⟨_, same⟩ | ⟨past, _⟩
    · exact same
    · omega
  have forward : index ≤ last := (Text.byteOffset_le_iff within).mp (here ▸ stop ▸ reached)
  by_cases empty : m.start = m.stop
  · obtain ⟨_, next⟩ := m.resume_of_empty lastInside (empty.trans stop.symm) stop.symm
    exact .inr ⟨last + 1, by omega, by omega, next⟩
  · have resumed : m.resume text.toList = m.stop := by simp [Match.resume, Match.isEmpty, empty]
    rw [resumed]
    rcases Nat.eq_or_lt_of_le forward with rfl | later
    · exact .inl (stop.symm.trans here.symm)
    · exact .inr ⟨last, later, by omega, .inl ⟨lastInside, stop.symm⟩⟩

/-- A search that goes on where it began has no result. -/
theorem not_scans_of_resume {adjacent : Bool} {pos : Nat} {m : Match} (inside : pos ≤ Text.byteLength text.toList)
    (found : findAt pos = .ok (some m)) (closed : adjacent → m.start = pos) (again : m.resume text.toList = pos)
    (result : Except ε (List Match)) : ¬ Scans findAt text.toList adjacent pos result := by
  intro scans
  induction scans with
  | past past => omega
  | failed _ failed => cases found.symm.trans failed
  | none _ none => cases found.symm.trans none
  | gap _ other gap =>
    cases found.symm.trans other
    exact gap.2 (closed gap.1)
  | next _ other _ _ ih =>
    cases found.symm.trans other
    rw [again] at ih
    exact ih inside found closed rfl

/-- A search that has a result has one from where it goes on. -/
theorem Scans.of_found {adjacent : Bool} {pos : Nat} {m : Match} {result : Except ε (List Match)}
    (scans : Scans findAt text.toList adjacent pos result) (inside : pos ≤ Text.byteLength text.toList)
    (found : findAt pos = .ok (some m)) (closed : adjacent → m.start = pos) :
    ∃ rest, Scans findAt text.toList adjacent (m.resume text.toList) rest := by
  cases scans with
  | past past => omega
  | failed _ failed => cases found.symm.trans failed
  | none _ none => cases found.symm.trans none
  | gap _ other gap =>
    cases found.symm.trans other
    exact absurd (closed gap.1) gap.2
  | next _ other _ rest =>
    cases found.symm.trans other
    exact ⟨_, rest⟩

/-- A search from a position on that goes on there says that it is endless. -/
theorem scanFrom_of_resume (endless : ε) {adjacent : Bool} {pos : Nat} {m : Match}
    (inside : pos ≤ Text.byteLength text.toList) (found : findAt pos = .ok (some m))
    (closed : adjacent → m.start = pos) (again : m.resume text.toList = pos) (fuel : Nat) :
    scanFrom endless findAt text.toList adjacent fuel pos = .error endless := by
  induction fuel with
  | zero => rfl
  | succ fuel ih =>
    have follows : (adjacent && m.start != pos) = false := by
      cases adjacent with
      | false => rfl
      | true => simp [closed rfl]
    rw [scanFrom, if_neg (Nat.not_lt.mpr inside), found]
    simp only [follows, again, ih]
    rfl

/-- The search for all matches returns what its loop returns, or says that the loop does not end. -/
theorem StopsBehind.scanFrom_cases (engine : StopsBehind text findAt) (endless : ε) (adjacent : Bool)
    {fuel pos index : Nat} (spot : Spot text.toList pos index) (enough : text.toList.length + 2 ≤ fuel + index)
    (bound : index ≤ text.toList.length + 1) :
    Scans findAt text.toList adjacent pos (scanFrom endless findAt text.toList adjacent fuel pos) ∨
      scanFrom endless findAt text.toList adjacent fuel pos = .error endless ∧
        ∀ result, ¬ Scans findAt text.toList adjacent pos result := by
  induction fuel generalizing pos index with
  | zero => omega
  | succ fuel ih =>
    rw [scanFrom]
    split
    · next past => exact .inl (.past past)
    next within =>
    have inside : pos ≤ Text.byteLength text.toList := Nat.le_of_not_lt within
    split
    · next e failed => exact .inl (.failed inside failed)
    · next none => exact .inl (.none inside none)
    next m found =>
    split
    · next gap => exact .inl (.gap inside found (by simpa using gap))
    next follows =>
    have closed : adjacent → m.start = pos := by simpa using follows
    rcases engine.resume spot inside found with again | ⟨next, further, bound, spot⟩
    · rw [again, scanFrom_of_resume endless inside found closed again]
      exact .inr ⟨rfl, not_scans_of_resume inside found closed again⟩
    · rcases ih spot (by omega) bound with scans | ⟨same, none⟩
      · exact .inl (.next inside found closed scans)
      · rw [same]
        refine .inr ⟨rfl, fun result scans => ?_⟩
        obtain ⟨rest, scans⟩ := scans.of_found inside found closed
        exact none rest scans

/-- Every match that a search collects is usable. -/
theorem StopsBehind.usable (engine : StopsBehind text findAt) {adjacent : Bool} {pos index : Nat}
    {result : Except ε (List Match)} (scans : Scans findAt text.toList adjacent pos result)
    (spot : Spot text.toList pos index) {matched : List Match} (returned : result = .ok matched) :
    ∀ m ∈ matched, m.Usable text := by
  induction scans generalizing index matched with
  | past => cases returned; exact fun m member => by cases member
  | failed => cases returned
  | none => cases returned; exact fun m member => by cases member
  | gap => cases returned; exact fun m member => by cases member
  | next inside found closed scans ih =>
    obtain ⟨rest, same, rfl⟩ := Except.map_eq_ok_iff.mp returned
    have usable := (engine _ _ (spot.isBoundary inside) found).1
    rcases engine.resume spot inside found with again | ⟨next, _, _, spot⟩
    · exact absurd scans (again ▸ not_scans_of_resume inside found closed again _)
    · exact List.forall_mem_cons.mpr ⟨usable, ih spot same⟩

/-- If no match begins in front of the search, a sticky search has matches in ascending order as well. -/
theorem Scans.ascending {adjacent : Bool} (engine : InRange text.toList findAt) {pos index : Nat}
    {result : Except ε (List Match)} (scans : Scans findAt text.toList adjacent pos result)
    (spot : Spot text.toList pos index) {matched : List Match} (returned : result = .ok matched) :
    (∀ m ∈ matched, pos ≤ m.start) ∧ matched.Pairwise fun m later => m.start < later.start := by
  induction scans generalizing index matched with
  | past => cases returned; exact ⟨by simp, .nil⟩
  | failed => cases returned
  | none => cases returned; exact ⟨by simp, .nil⟩
  | gap => cases returned; exact ⟨by simp, .nil⟩
  | next inside found closed scans ih =>
    obtain ⟨rest, same, rfl⟩ := Except.map_eq_ok_iff.mp returned
    have first := (engine _ _ (spot.isBoundary inside) found).1
    obtain ⟨later, _, next, _, _, spot⟩ := Match.resume_spot engine spot inside found
    obtain ⟨behind, ordered⟩ := ih spot same
    refine ⟨List.forall_mem_cons.mpr ⟨first, fun m member => ?_⟩, .cons (fun m member => ?_) ordered⟩
    · have := behind m member
      omega
    · have := behind m member
      omega

namespace Pattern

/-- The pattern has a `\K` in something that looks behind. -/
def keepsBehind (p : Pattern) : Bool :=
  p.isBacktracking && (Regex.Extended.Tree.ofText? (engineText p.source p.flags)).any fun tree => tree.term.keepsBehind

/-- What the engine finds from a boundary on. -/
theorem findAt_located {source : String} {flags : Flags} {p : Pattern} (compiled : compile source flags = .ok p)
    {text : String} {pos : Nat} {m : Match} (boundary : Text.IsBoundary text.toList pos)
    (found : p.findAt text pos = .ok (some m)) :
    m.Usable text ∧ pos ≤ m.stop ∧ (p.keepsBehind = false → pos ≤ m.start) := by
  obtain ⟨rfl, rfl, read⟩ := compile_eq_ok compiled
  obtain ⟨index, bound, rfl⟩ := boundary
  rw [findAt, Text.charIndex_byteOffset _ bound] at found
  split at found
  · next span searched =>
    obtain ⟨span, rfl, rfl⟩ := Option.map_eq_some_iff.mp (Except.ok.inj found)
    have located := Regex.Matcher.find_located read (by simpa using bound) searched
    have inside : span.stop ≤ text.toList.length := by simpa using located.inside
    refine ⟨⟨?_, ?_, ?_, ?_⟩, ?_, fun calm => ?_⟩
    · exact Text.byteOffset_mono _ located.ordered
    · exact Text.byteOffset_length _ ▸ Text.byteOffset_mono _ inside
    · exact ⟨span.start, Nat.le_trans located.ordered inside, rfl⟩
    · exact ⟨span.stop, inside, rfl⟩
    · exact Text.byteOffset_mono _ located.reached
    · refine Text.byteOffset_mono _ (located.ahead fun hard tree drawn => ?_)
      have hard : p.isBacktracking = true := hard
      simpa [keepsBehind, hard, drawn] using calm
  · cases found

theorem stopsBehind_findAt {source : String} {flags : Flags} {p : Pattern} (compiled : compile source flags = .ok p)
    (text : String) : StopsBehind text (p.findAt text) := by
  intro pos m boundary found
  obtain ⟨usable, reached, _⟩ := findAt_located compiled boundary found
  exact ⟨usable, reached⟩

theorem inRange_findAt {source : String} {flags : Flags} {p : Pattern} (compiled : compile source flags = .ok p)
    (calm : p.keepsBehind = false) (text : String) : InRange text.toList (p.findAt text) := by
  intro pos m boundary found
  obtain ⟨usable, _, ahead⟩ := findAt_located compiled boundary found
  exact ⟨ahead calm, usable.ordered, usable.start, usable.stop⟩

theorem find_usable {source : String} {flags : Flags} {p : Pattern} (compiled : compile source flags = .ok p)
    {text : String} {m : Match} (found : p.find text = .ok (some m)) : m.Usable text := by
  obtain ⟨first, searched, same⟩ := Except.map_eq_ok_iff.mp found
  obtain ⟨rfl, _⟩ := Option.filter_eq_some_iff.mp same
  have spot := Spot.zero text.toList
  exact (findAt_located compiled (spot.isBoundary (Nat.zero_le _)) searched).1

/-- Every reported match is a stretch of the text that can be cut out. The search for all matches returns what its
loop returns, or says that the loop does not end; unless a `\K` stands in something that looks behind it ends,
with matches in strictly ascending order. -/
theorem findAll_usable {source : String} {flags : Flags} {p : Pattern} (compiled : compile source flags = .ok p)
    (text : String) :
    (∀ m, p.find text = .ok (some m) → m.Usable text) ∧
      (∀ matched, p.findAll text = .ok matched → ∀ m ∈ matched, m.Usable text) ∧
      (p.isGlobal →
        (Scans (p.findAt text) text.toList p.isSticky 0 (p.findAll text) ∨
          p.findAll text = .error (.engine .endless) ∧
            ∀ result, ¬ Scans (p.findAt text) text.toList p.isSticky 0 result) ∧
        (p.keepsBehind = false → Scans (p.findAt text) text.toList p.isSticky 0 (p.findAll text) ∧
          ∀ matched, p.findAll text = .ok matched → matched.Pairwise fun m later => m.start < later.start)) := by
  have spot := Spot.zero text.toList
  have engine := stopsBehind_findAt compiled text
  have scanned (global : p.isGlobal) : Scans (p.findAt text) text.toList p.isSticky 0 (p.findAll text) ∨
      p.findAll text = .error (.engine .endless) ∧
        ∀ result, ¬ Scans (p.findAt text) text.toList p.isSticky 0 result := by
    rw [findAll, if_pos global]
    exact engine.scanFrom_cases _ _ spot (by omega) (by omega)
  refine ⟨fun m found => find_usable compiled found, fun matched returned => ?_,
    fun global => ⟨scanned global, fun calm => ?_⟩⟩
  · by_cases global : p.isGlobal
    · rcases scanned global with scans | ⟨endless, _⟩
      · exact engine.usable scans spot returned
      · cases endless.symm.trans returned
    · rw [findAll, if_neg global] at returned
      obtain ⟨first, found, rfl⟩ := Except.map_eq_ok_iff.mp returned
      intro m member
      obtain rfl := Option.mem_toList.mp member
      exact find_usable compiled found
  · have inRange := inRange_findAt compiled calm text
    have scans : Scans (p.findAt text) text.toList p.isSticky 0 (p.findAll text) := by
      rw [findAll, if_pos global]
      exact scanFrom_scans inRange _ _ spot (by omega) (by omega)
    exact ⟨scans, fun matched returned => (scans.ascending inRange spot returned).2⟩

/-- Ahead of a letter a `\K` may move the start: the wide letter is left out of the match. -/
theorem findAll_usable_of_lookahead :
    let p : Pattern := ⟨"é(?=\\Ka)|a", Flags.ofString "g",
      .backtracking (.alt (.seq (.text ['é']) (.seq (.ahead (.seq .done (.seq .keep (.text ['a'])))) .done))
        (.text ['a'])) 0⟩
    compile "é(?=\\Ka)|a" (Flags.ofString "g") = .ok p ∧ p.isGlobal ∧ p.keepsBehind = false ∧
      p.findAll "éaa" = .ok [⟨2, 2, []⟩, ⟨3, 4, []⟩] ∧
      (∀ m ∈ [Match.mk 2 2 [], ⟨3, 4, []⟩], m.Usable "éaa") ∧
      Scans (p.findAt "éaa") "éaa".toList p.isSticky 0 (.ok [⟨2, 2, []⟩, ⟨3, 4, []⟩]) := by
  intro p
  have compiled : compile "é(?=\\Ka)|a" (Flags.ofString "g") = .ok p := by cbv
  have calm : p.keepsBehind = false := by cbv
  have returned : p.findAll "éaa" = .ok [⟨2, 2, []⟩, ⟨3, 4, []⟩] := by cbv
  obtain ⟨_, usable, ends⟩ := findAll_usable compiled "éaa"
  have scans := ((ends rfl).2 calm).1
  rw [returned] at scans
  exact ⟨compiled, rfl, calm, returned, usable _ returned, scans⟩

/-- Two matches that begin where the text does, the second one longer than the first. -/
theorem findAll_startsAgain :
    (compile "(?<=\\Kaa)b|(?<=\\Ka)a" (Flags.ofString "g")).bind (fun p => p.findAll "aab") =
      .ok [⟨0, 2, []⟩, ⟨0, 3, []⟩] := by
  cbv

/-- The letter in front of the search is found again and again. -/
theorem findAll_endless :
    (compile "(?<=\\Ka)" (Flags.ofString "g")).bind (fun p => p.findAll "ab") = .error (.engine .endless) := by
  cbv

end Pattern
end PatternComposer
