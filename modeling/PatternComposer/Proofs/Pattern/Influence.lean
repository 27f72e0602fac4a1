import PatternComposer.Pattern.Scan
import PatternComposer.Proofs.Flags
import PatternComposer.Proofs.Regex.Matcher

/-! # What flags have a say in

Only flags that the engine is given in front of the pattern text have a part in the matcher, and their order has
none. The other flags choose among what the matcher finds: a global pattern goes on behind its first match, and a
sticky one keeps a match only where it has to stand. Asking for all matches is the one question that a global
pattern answers in another way.
-/

namespace PatternComposer

/-! ## Flags that the engine is given -/

namespace Flags

/-- The engine is given the same flags. -/
def SameInline (flags others : Flags) : Prop := ∀ flag ∈ inline, flag ∈ flags.toList ↔ flag ∈ others.toList

theorem SameInline.perm {flags others : Flags} (same : SameInline flags others) :
    (flags.toList.filter inline.contains).Perm (others.toList.filter inline.contains) := by
  refine (List.perm_ext_iff_of_nodup (flags.nodup.filter _) (others.nodup.filter _)).mpr fun flag => ?_
  simp only [List.mem_filter, List.contains_eq_mem, decide_eq_true_eq]
  exact and_congr_left fun given => same flag given

theorem sameInline_ofList {supplied more : List Char} :
    SameInline (ofList supplied) (ofList more) ↔ ∀ flag ∈ inline, flag ∈ supplied ↔ flag ∈ more := by
  simp only [SameInline, mem_ofList]

theorem firstUnsupported?_ofList {supplied : List Char} (known : ∀ flag ∈ supplied, flag ∈ supported) :
    (ofList supplied).firstUnsupported? = none := by
  simpa [firstUnsupported?, mem_ofList] using known

end Flags

namespace Pattern

theorem ofText?_engineText {flags others : Flags} (same : flags.SameInline others) (source : String) :
    Regex.Matcher.ofText? (engineText source flags) = Regex.Matcher.ofText? (engineText source others) := by
  have perm := same.perm
  rw [engineText, engineText, inlineFlags, inlineFlags]
  cases given : flags.toList.filter Flags.inline.contains with
  | nil =>
    rw [given, List.nil_perm] at perm
    rw [perm]
  | cons c letters =>
    have switches : Regex.Switches (c :: letters) := by
      refine ⟨List.cons_ne_nil c letters, given ▸ flags.nodup.filter _, fun d member => ?_⟩
      rw [← given] at member
      simpa using (List.mem_filter.mp member).2
    rw [given] at perm
    obtain ⟨d, more, given'⟩ := List.exists_cons_of_ne_nil (switches.perm perm).nonempty
    rw [given'] at perm ⊢
    simpa using Regex.Matcher.ofText?_perm switches perm (Dialect.toEngine source.toList)

/-! ## Compiling -/

/-- Two attempts to compile come to the same: the engine refuses both, or accepts both in the same way. -/
inductive CompileAlike : Except Error Pattern → Except Error Pattern → Prop where
  | accepted {p q : Pattern} (engine : q.isBacktracking = p.isBacktracking) : CompileAlike (.ok p) (.ok q)
  | refused : CompileAlike (.error (.engine .refused)) (.error (.engine .refused))

theorem compile_alike {flags others : Flags} (same : flags.SameInline others) (known : flags.firstUnsupported? = none)
    (known' : others.firstUnsupported? = none) (source : String) :
    CompileAlike (compile source flags) (compile source others) := by
  rw [compile, compile, known, known', ofText?_engineText same]
  cases Regex.Matcher.ofText? (engineText source others) with
  | some matcher => exact .accepted rfl
  | none => exact .refused

/-- The engine searches in the same way for patterns with the same flags in front. -/
theorem findAt_eq {source : String} {flags others : Flags} {p q : Pattern} (same : flags.SameInline others)
    (compiled : compile source flags = .ok p) (compiled' : compile source others = .ok q) : q.findAt = p.findAt := by
  have accepted := (compile_eq_ok compiled).2.2
  rw [ofText?_engineText same, (compile_eq_ok compiled').2.2] at accepted
  have matcher : q.matcher = p.matcher := Option.some.inj accepted
  funext text pos
  rw [findAt, findAt, matcher]

/-! ## Answers -/

/-- Two patterns answer alike where the first match is asked for. -/
structure FirstAlike (p q : Pattern) (text : String) : Prop where
  find : q.find text = p.find text
  isMatch : q.isMatch text = p.isMatch text
  captures : q.captures text = p.captures text

/-- Two patterns answer alike whatever is asked for. -/
structure AnswersAlike (p q : Pattern) (text : String) : Prop extends FirstAlike p q text where
  findAll : q.findAll text = p.findAll text

variable {p q : Pattern}

theorem firstAlike (search : q.findAt = p.findAt) (sticky : q.isSticky = p.isSticky) (text : String) :
    FirstAlike p q text := by
  have found : q.find text = p.find text := by rw [Pattern.find, Pattern.find, search, sticky]
  exact ⟨found, by rw [Pattern.isMatch, Pattern.isMatch, found], by rw [Pattern.captures, Pattern.captures, found]⟩

theorem answersAlike (search : q.findAt = p.findAt) (sticky : q.isSticky = p.isSticky)
    (global : q.isGlobal = p.isGlobal) (text : String) : AnswersAlike p q text := by
  have first := firstAlike search sticky text
  exact ⟨first, by rw [Pattern.findAll, Pattern.findAll, search, sticky, global, first.find]⟩

/-- Only a match at the start of the text is kept. -/
structure KeepsStart (p q : Pattern) (text : String) : Prop where
  find : q.find text = (p.find text).map fun found => found.filter (·.start == 0)
  isMatch : q.isMatch text = (p.find text).map fun found => found.any (·.start == 0)
  captures : q.captures text = (p.find text).map fun found => ((found.filter (·.start == 0)).map (·.captures)).getD []

theorem keepsStart (search : q.findAt = p.findAt) (sticky : q.isSticky) (text : String) : KeepsStart p q text := by
  have found : q.find text = (p.find text).map fun found => found.filter (·.start == 0) := by
    rw [Pattern.find, Pattern.find, search, sticky]
    cases p.findAt text 0 with
    | error e => rfl
    | ok found =>
      -- what the other pattern kept, it kept for standing at the start as well if it is sticky itself
      simp only [Except.map, Option.filter_filter]
      congr 2
      funext m
      cases m.start == 0 <;> simp
  refine ⟨found, ?_, ?_⟩
  · rw [Pattern.isMatch, found]
    cases p.find text with
    | error e => rfl
    | ok found => simp [Except.map, Option.isSome_filter]
  · rw [Pattern.captures, found]
    cases p.find text <;> rfl

/-! ## Lists of flags -/

/-- One list of flags has those of another and one more. -/
def Adds (flag : Char) (supplied more : List Char) : Prop := ∀ c, c ∈ more ↔ c ∈ supplied ∨ c = flag

variable {supplied more : List Char} {flag : Char}

theorem Adds.sameInline (adds : Adds flag supplied more) (outside : flag ∉ Flags.inline) :
    (Flags.ofList supplied).SameInline (.ofList more) := by
  refine Flags.sameInline_ofList.mpr fun c given => ?_
  have other : c ≠ flag := fun same => outside (same ▸ given)
  simp [adds c, other]

theorem Adds.contains (adds : Adds flag supplied more) {c : Char} (other : c ≠ flag) :
    (Flags.ofList more).contains c = (Flags.ofList supplied).contains c := by
  simp [Flags.contains_ofList, adds c, other]

/-- What flags have a say in. Supported flags that switch the same modes on compile alike, and patterns with the same
flags answer alike; `u` has no say in any answer, `g` only in that to all matches, and with `y` a match is kept only
where the text starts. -/
theorem compile_influence {source : String} (known : ∀ flag ∈ supplied, flag ∈ Flags.supported)
    (known' : ∀ flag ∈ more, flag ∈ Flags.supported) :
    ((∀ flag ∈ Flags.inline, flag ∈ supplied ↔ flag ∈ more) →
      CompileAlike (compile source (.ofList supplied)) (compile source (.ofList more))) ∧
    ∀ p q, compile source (.ofList supplied) = .ok p → compile source (.ofList more) = .ok q → ∀ text,
      ((∀ flag, flag ∈ supplied ↔ flag ∈ more) → AnswersAlike p q text) ∧
      (Adds Flags.unicode supplied more → AnswersAlike p q text) ∧
      (Adds Flags.global supplied more → FirstAlike p q text) ∧
      (Adds Flags.sticky supplied more → KeepsStart p q text) := by
  constructor
  · intro same
    exact compile_alike (Flags.sameInline_ofList.mpr same) (Flags.firstUnsupported?_ofList known)
      (Flags.firstUnsupported?_ofList known') source
  intro p q compiled compiled' text
  have search (same : (Flags.ofList supplied).SameInline (.ofList more)) := findAt_eq same compiled compiled'
  have global : p.isGlobal = (Flags.ofList supplied).contains Flags.global := by
    rw [isGlobal, (compile_eq_ok compiled).2.1]
  have sticky : p.isSticky = (Flags.ofList supplied).contains Flags.sticky := by
    rw [isSticky, (compile_eq_ok compiled).2.1]
  have global' : q.isGlobal = (Flags.ofList more).contains Flags.global := by
    rw [isGlobal, (compile_eq_ok compiled').2.1]
  have sticky' : q.isSticky = (Flags.ofList more).contains Flags.sticky := by
    rw [isSticky, (compile_eq_ok compiled').2.1]
  refine ⟨fun same => ?members, fun adds => ?unicode, fun adds => ?global, fun adds => ?sticky⟩
  case members =>
    have contained (flag : Char) : (Flags.ofList more).contains flag = (Flags.ofList supplied).contains flag := by
      simp [Flags.contains_ofList, same flag]
    refine answersAlike (search (Flags.sameInline_ofList.mpr fun flag _ => same flag)) ?_ ?_ text
    · rw [sticky', contained, sticky]
    · rw [global', contained, global]
  case unicode =>
    refine answersAlike (search (adds.sameInline (by decide))) ?_ ?_ text
    · rw [sticky', adds.contains (by decide), sticky]
    · rw [global', adds.contains (by decide), global]
  case global =>
    refine firstAlike (search (adds.sameInline (by decide))) ?_ text
    rw [sticky', adds.contains (by decide), sticky]
  case sticky =>
    refine keepsStart (search (adds.sameInline (by decide))) ?_ text
    rw [sticky', Flags.contains_ofList]
    simpa using (adds Flags.sticky).mpr (.inr rfl)

/-- A letter at the end of a line, with two modes in either order and with one flag more. -/
theorem compile_influence_of_lineEnd :
    let p (flags : List Char) : Pattern := ⟨"b$", .ofList flags,
      .plain (Regex.Node.cat (.set (.single 'b')) (.look (.lineEnd false))).program 0⟩
    (∀ flags ∈ [['m', 's'], ['s', 'm', 's'], ['m', 's', 'u'], ['g', 'm', 's'], ['m', 'y', 's']],
      (∀ flag ∈ flags, flag ∈ Flags.supported) ∧ compile "b$" (.ofList flags) = .ok (p flags)) ∧
    CompileAlike (compile "b$" (.ofList ['m', 's'])) (compile "b$" (.ofList ['s', 'm', 's'])) ∧
    AnswersAlike (p ['m', 's']) (p ['s', 'm', 's']) "ab\nb" ∧
    AnswersAlike (p ['m', 's']) (p ['m', 's', 'u']) "ab\nb" ∧
    FirstAlike (p ['m', 's']) (p ['g', 'm', 's']) "ab\nb" ∧
    (p ['m', 's']).find "ab\nb" = .ok (some ⟨1, 2, []⟩) ∧ (p ['m', 'y', 's']).find "ab\nb" = .ok none := by
  intro p
  have accepted : ∀ flags ∈ [['m', 's'], ['s', 'm', 's'], ['m', 's', 'u'], ['g', 'm', 's'], ['m', 'y', 's']],
      (∀ flag ∈ flags, flag ∈ Flags.supported) ∧ compile "b$" (.ofList flags) = .ok (p flags) := by
    simp only [List.forall_mem_cons]
    refine ⟨⟨?_, by cbv⟩, ⟨?_, by cbv⟩, ⟨?_, by cbv⟩, ⟨?_, by cbv⟩, ⟨?_, by cbv⟩, by simp⟩ <;>
      simp [Flags.supported, Flags.global, Flags.multiLine, Flags.dotAll, Flags.unicode, Flags.sticky]
  obtain ⟨known, compiled⟩ := accepted ['m', 's'] (by simp)
  obtain ⟨knownOrder, reordered⟩ := accepted ['s', 'm', 's'] (by simp)
  obtain ⟨knownUnicode, unicode⟩ := accepted ['m', 's', 'u'] (by simp)
  obtain ⟨knownGlobal, global⟩ := accepted ['g', 'm', 's'] (by simp)
  obtain ⟨knownSticky, sticky⟩ := accepted ['m', 'y', 's'] (by simp)
  have same (flag : Char) : flag ∈ ['m', 's'] ↔ flag ∈ ['s', 'm', 's'] := by grind
  have addsUnicode : Adds Flags.unicode ['m', 's'] ['m', 's', 'u'] := by grind [Adds, Flags.unicode]
  have addsGlobal : Adds Flags.global ['m', 's'] ['g', 'm', 's'] := by grind [Adds, Flags.global]
  have addsSticky : Adds Flags.sticky ['m', 's'] ['m', 'y', 's'] := by grind [Adds, Flags.sticky]
  have found : (p ['m', 's']).find "ab\nb" = .ok (some ⟨1, 2, []⟩) := by cbv
  obtain ⟨alike, answers⟩ := @compile_influence _ _ "b$" known knownOrder
  obtain ⟨_, quiet, _⟩ := (compile_influence known knownUnicode).2 _ _ compiled unicode "ab\nb"
  obtain ⟨_, _, first, _⟩ := (compile_influence known knownGlobal).2 _ _ compiled global "ab\nb"
  obtain ⟨_, _, _, keeps⟩ := (compile_influence known knownSticky).2 _ _ compiled sticky "ab\nb"
  refine ⟨accepted, alike fun flag _ => same flag, (answers _ _ compiled reordered _).1 same, quiet addsUnicode,
    first addsGlobal, found, ?_⟩
  rw [(keeps addsSticky).find, found]
  rfl

end Pattern
end PatternComposer
