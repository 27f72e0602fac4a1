import PatternComposer.Pattern.Scan
import PatternComposer.Proofs.Builder.Run
import PatternComposer.Proofs.Pattern.Dialect
import PatternComposer.Proofs.Regex.Grouped

/-! # Wrapping a pattern inside a group

A builder can put the whole pattern into a group when it is built. What is found stays the same and gets
a capture more, the matched text, in front of the others.

References count groups from the start of the pattern and are not rewritten, so they miss their groups in
the wrapped pattern unless they name them or count back. The wrapped pattern may also be too deep or too
large for the plain search where the pattern itself is not, and be read in the extended dialect, which
reads some texts differently. And a `\K` begins the match behind the start of the group.
-/

namespace PatternComposer

/-! ## Matches -/

namespace Match

/-- The match without its first capture. -/
def inner (m : Match) : Match := { m with captures := m.captures.tail }

/-- The match with the matched text in front of its captures. -/
def enclosed (text : String) (m : Match) : Match := { m with captures := m.text text :: m.captures }

end Match

theorem Text.charIndex_byteOffset_min (cs : List Char) (index : Nat) :
    charIndex cs (byteOffset cs index) = min index cs.length := by
  rcases Nat.le_total index cs.length with inside | outside
  · rw [charIndex_byteOffset cs inside, Nat.min_eq_left inside]
  · have same : byteOffset cs index = byteOffset cs cs.length := by
      rw [byteOffset, byteOffset, List.take_of_length_le outside, List.take_length]
    rw [same, charIndex_byteOffset cs (Nat.le_refl _), Nat.min_eq_right outside]

/-- Between the offsets of two characters lie the characters between them. -/
theorem Text.slice_byteOffset (cs : List Char) (start stop : Nat) :
    slice cs (byteOffset cs start) (byteOffset cs stop) = (cs.take stop).drop start := by
  rw [slice, charIndex_byteOffset_min, charIndex_byteOffset_min, ← List.take_eq_take_min, List.drop_eq_drop_iff,
    List.length_take]
  omega

theorem Text.charIndex_le (cs : List Char) (offset : Nat) : charIndex cs offset ≤ cs.length := by
  induction cs generalizing offset with
  | nil => cases offset <;> simp [charIndex]
  | cons c rest ih =>
    cases offset with
    | zero => simp [charIndex]
    | succ offset =>
      rw [charIndex]
      · exact Nat.succ_le_succ (ih _)
      · exact Nat.succ_ne_zero offset

namespace Pattern

/-! ## Searching for mapped matches -/

variable {f : Match → Match}

theorem scanFrom_map {ε : Type} {findAt findAt' : Nat → Except ε (Option Match)}
    (frame : ∀ m, (f m).start = m.start ∧ (f m).stop = m.stop)
    (each : ∀ pos, findAt' pos = (findAt pos).map fun found => found.map f) (endless : ε) (cs : List Char)
    (adjacent : Bool) (fuel pos : Nat) :
    scanFrom endless findAt' cs adjacent fuel pos =
      (scanFrom endless findAt cs adjacent fuel pos).map fun ms => ms.map f := by
  induction fuel generalizing pos with
  | zero => rfl
  | succ fuel ih =>
    rw [scanFrom, scanFrom, each]
    split
    · rfl
    · cases findAt pos with
      | error e => rfl
      | ok found =>
        cases found with
        | none => rfl
        | some m =>
          have resume : (f m).resume cs = m.resume cs := by
            rw [Match.resume, Match.resume, Match.isEmpty, Match.isEmpty, (frame m).1, (frame m).2]
          simp only [Except.map, Option.map, (frame m).1, resume, ih]
          split
          · rfl
          · cases scanFrom endless findAt cs adjacent fuel (m.resume cs) <;> rfl

theorem find_map {p q : Pattern} (flags : q.flags = p.flags) {text : String}
    (frame : ∀ m, (f m).start = m.start ∧ (f m).stop = m.stop)
    (each : ∀ pos, q.findAt text pos = (p.findAt text pos).map fun found => found.map f) :
    q.find text = (p.find text).map (fun found => found.map f) ∧
      q.findAll text = (p.findAll text).map fun ms => ms.map f := by
  have sticky : q.isSticky = p.isSticky := by rw [isSticky, isSticky, flags]
  have global : q.isGlobal = p.isGlobal := by rw [isGlobal, isGlobal, flags]
  have found : q.find text = (p.find text).map fun found => found.map f := by
    rw [find, find, each, sticky]
    cases p.findAt text 0 with
    | error e => rfl
    | ok found =>
      cases found with
      | none => rfl
      | some m =>
        simp only [Except.map, Option.map, Option.filter, (frame m).1]
        split <;> rfl
  refine ⟨found, ?_⟩
  rw [findAll, findAll, global, sticky]
  split
  · exact scanFrom_map frame each _ _ _ _ _
  · rw [found]
    cases p.find text with
    | error e => rfl
    | ok found => cases found <;> rfl

/-! ## The matches of a wrapped pattern -/

theorem toMatch_inner {steady : Prop} {span span' : Regex.Span} (wraps : span.Wraps steady span') (cs : List Char) :
    (toMatch cs span').inner = toMatch cs span := by
  obtain ⟨start, groups, _⟩ := wraps.groups
  simp only [toMatch, Match.inner, wraps.start, wraps.stop, groups, List.map_cons, List.tail_cons]

theorem toMatch_enclosed {steady : Prop} {span span' : Regex.Span} (wraps : span.Wraps steady span') (given : steady)
    (text : String) : toMatch text.toList span' = (toMatch text.toList span).enclosed text := by
  obtain ⟨start, groups, same⟩ := wraps.groups
  have first : (text.toList.take span.stop).drop start = (text.toList.take span.stop).drop span.start := by
    rw [List.drop_eq_drop_iff, List.length_take]
    have := same given
    omega
  simp only [toMatch, Match.enclosed, Match.text, Text.slice_byteOffset, wraps.start, wraps.stop, groups,
    List.map_cons, first]

theorem findAt_wraps {p q : Pattern} {steady : Prop} {text : String} {pos : Nat}
    (both : Regex.Both (Regex.Both (Regex.Span.Wraps steady))
      (p.matcher.find text.toList.toArray (Text.charIndex text.toList pos))
      (q.matcher.find text.toList.toArray (Text.charIndex text.toList pos))) :
    p.findAt text pos = (q.findAt text pos).map (fun found => found.map Match.inner) ∧
      (steady → q.findAt text pos = (p.findAt text pos).map fun found => found.map (Match.enclosed text)) := by
  simp only [findAt]
  generalize p.matcher.find text.toList.toArray (Text.charIndex text.toList pos) = found at both ⊢
  generalize q.matcher.find text.toList.toArray (Text.charIndex text.toList pos) = found' at both ⊢
  cases both with
  | none => exact ⟨rfl, fun _ => rfl⟩
  | some both =>
    cases both with
    | none => exact ⟨rfl, fun _ => rfl⟩
    | some wraps =>
      simp only [Except.map, Option.map, toMatch_inner wraps, true_and]
      intro given
      rw [toMatch_enclosed wraps given]

end Pattern

/-! ## The run of a wrapping builder -/

namespace Dialect

theorem startsWithDigit_append (cs : List Char) : startsWithDigit (cs ++ [')']) = startsWithDigit cs := by
  cases cs <;> rfl

/-- A parenthesis behind a pattern is spelled as it is. -/
theorem toEngineFrom_append (inClass : Bool) (cs : List Char) :
    toEngineFrom inClass (cs ++ [')']) = toEngineFrom inClass cs ++ [')'] := by
  have escape {c : Char} {rest : List Char} (lone : c = '\\' → rest = [] → False)
      (pair : ∀ d after, c = '\\' → rest = d :: after → False) : c ≠ '\\' := by
    intro same
    cases rest with
    | nil => exact lone same rfl
    | cons d after => exact pair d after same rfl
  fun_induction toEngineFrom inClass cs with
  | case1 => rfl
  | case2 => rfl
  | case3 inClass rest digit ih => simp [toEngineFrom, startsWithDigit_append, digit, ih]
  | case4 inClass rest digit ih => simp [toEngineFrom, startsWithDigit_append, digit, ih]
  | case5 inClass c rest other inner ih =>
    obtain ⟨rfl, rfl⟩ := inner
    simp [toEngineFrom, ih]
  | case6 inClass c rest other outer ih => simp [toEngineFrom, other, outer, ih]
  | case7 inClass c rest lone pair opens ih =>
    rw [List.cons_append, toEngineFrom_plain _ _ (escape lone pair), if_pos opens, ih]
    rfl
  | case8 inClass c rest lone pair stays closes ih =>
    rw [List.cons_append, toEngineFrom_plain _ _ (escape lone pair), if_neg stays, if_pos closes, ih]
    rfl
  | case9 inClass c rest lone pair stays open_ ih =>
    rw [List.cons_append, toEngineFrom_plain _ _ (escape lone pair), if_neg stays, if_neg open_, ih]
    rfl

theorem toEngine_grouped (cs : List Char) : toEngine ('(' :: (cs ++ [')'])) = '(' :: (toEngine cs ++ [')']) := by
  have same : ('(' :: (cs ++ [')'])).contains '\\' = cs.contains '\\' := by simp [List.contains_eq_mem]
  rw [toEngine, toEngine, same]
  split
  · rw [toEngineFrom_plain _ _ (by decide), toEngineFrom_append]
    rfl
  · rfl

end Dialect

namespace Builder

/-- The builder with another choice about the group around the whole pattern. -/
def wrapping (b : Builder) (wrap : Bool) : Builder :=
  { b with settings := { b.settings with wrapInsideGroup := wrap } }

theorem Effect.perform_wrapping (b : Builder) (wrap : Bool) (effect : Effect) :
    effect.perform (b.wrapping wrap) = (effect.perform b).map fun next => next.wrapping wrap := by
  cases effect with
  | append fragment => rfl
  | opening kind fragment => rfl
  | closing kind =>
    change (b.nesting.pop kind b.settings.groupValidation).map _ =
      ((b.nesting.pop kind b.settings.groupValidation).map _).map _
    cases b.nesting.pop kind b.settings.groupValidation <;> rfl

theorem perform_wrapping (b : Builder) (wrap : Bool) (call : Call) :
    call.perform (b.wrapping wrap) = (call.perform b).map fun next => next.wrapping wrap := by
  have applied (operation : Operation) (args : List Argument) :
      (b.wrapping wrap).apply operation args = (b.apply operation args).map fun next => next.wrapping wrap := by
    rw [apply_eq_perform, apply_eq_perform]
    change (Effect.ofCall b.settings operation args).bind _ = _
    cases Effect.ofCall b.settings operation args with
    | error e => rfl
    | ok effect => exact effect.perform_wrapping b wrap
  cases call with
  | operation op args => exact applied op args
  | invocation name args =>
    have registered : (b.wrapping wrap).aliases = b.aliases := rfl
    rw [Call.perform, Call.perform, invoke, invoke, registered]
    cases b.aliases.resolve? name with
    | none => rfl
    | some op => exact applied op args
  | addAlias op name =>
    change (b.aliases.add op name).map _ = ((b.aliases.add op name).map _).map _
    cases b.aliases.add op name <;> rfl
  | deleteAlias name => rfl
  | clear => rfl

/-- Whether the whole pattern is to be wrapped has no part in a run. -/
theorem run_wrapping (b : Builder) (wrap : Bool) (calls : List Call) :
    (b.wrapping wrap).run calls = (b.run calls).wrapping wrap := by
  induction calls generalizing b with
  | nil => rfl
  | cons call calls ih =>
    have step : (b.wrapping wrap).attempt call = (b.attempt call).wrapping wrap := by
      rw [attempt, attempt, perform_wrapping]
      cases call.perform b <;> rfl
    rw [run_cons, run_cons, step, ih]

end Builder

/-! ## Wrapped patterns -/

namespace Pattern

theorem leading_inlineFlags (flags : Flags) : Regex.Leading (inlineFlags flags) := by
  rw [inlineFlags]
  split
  · exact .nothing
  · next letters nonempty =>
    have nodup := flags.nodup.filter Flags.inline.contains
    refine .setting nonempty nodup fun c member => ?_
    simpa using (List.mem_filter.mp member).2

theorem engineText_wrapped (source : String) (flags : Flags) :
    engineText ("(" ++ source ++ ")") flags =
      inlineFlags flags ++ '(' :: (Dialect.toEngine source.toList ++ [')']) := by
  have spelled : ("(" ++ source ++ ")").toList = '(' :: (source.toList ++ [')']) := by simp
  rw [engineText, spelled, Dialect.toEngine_grouped]

/-- The groups that a pattern refers back to, the last reference first. -/
def references (p : Pattern) : List Nat :=
  if p.isBacktracking then ((Regex.Extended.Tree.ofText? (engineText p.source p.flags)).map (·.refs)).getD [] else []

/-- The pattern has a `\K`. -/
def hasKeep (p : Pattern) : Bool :=
  p.isBacktracking && ((Regex.Extended.Token.scan? (engineText p.source p.flags)).getD []).any (·.isKeep)

/-- A pattern and the same pattern in a group, which the engine accepts alike. -/
structure Wrapped (p q : Pattern) : Prop where
  source : q.source = "(" ++ p.source ++ ")"
  flags : q.flags = p.flags
  read : Regex.Matcher.ofText? (engineText p.source p.flags) = some p.matcher
  read' : Regex.Matcher.ofText? (engineText q.source q.flags) = some q.matcher
  engine : q.isBacktracking = p.isBacktracking
  references : p.references = [] ∨ q.references = p.references.map Regex.laterGroup

theorem Wrapped.find {p q : Pattern} (wrapped : Wrapped p q) (text : Array Char) (pos : Nat)
    (inside : pos ≤ text.size) :
    Regex.Both (Regex.Both (Regex.Span.Wraps (p.hasKeep = false))) (p.matcher.find text pos)
      (q.matcher.find text pos) := by
  obtain ⟨source, flags, read, read', engine, references⟩ := wrapped
  have spelled : engineText q.source q.flags =
      inlineFlags p.flags ++ '(' :: (Dialect.toEngine p.source.toList ++ [')']) := by
    rw [source, flags, engineText_wrapped]
  rw [spelled] at read'
  refine Regex.Matcher.find_grouped (leading_inlineFlags p.flags) read read' engine ?_ ?_ inside
  · intro backtracking tree tree' found found'
    have hard : p.isBacktracking = true := backtracking
    have hard' : q.isBacktracking = true := engine.trans hard
    have own : p.references = tree.refs := by rw [Pattern.references, if_pos hard, engineText, found]; rfl
    have own' : q.references = tree'.refs := by rw [Pattern.references, if_pos hard', spelled, found']; rfl
    rw [own, own'] at references
    rcases references with none | moved
    · rw [none, Regex.Extended.Tree.refs_wrapped_nil (leading_inlineFlags p.flags) found found' none]
      rfl
    · exact moved
  · intro calm backtracking tokens found token member
    have hard : p.isBacktracking = true := backtracking
    rw [hasKeep, hard, engineText, found] at calm
    exact List.any_eq_false.mp calm token member |> Bool.eq_false_iff.mpr

end Pattern

namespace Builder

variable {settings : Settings} {calls : List Call} {flags : Flags} {p q : Pattern}

theorem wrapped_of_built
    (built : ((ofSettings { settings with wrapInsideGroup := false }).run calls).buildWithFlags flags = .ok p)
    (built' : ((ofSettings { settings with wrapInsideGroup := true }).run calls).buildWithFlags flags = .ok q)
    (engine : q.isBacktracking = p.isBacktracking)
    (references : p.references = [] ∨ q.references = p.references.map Regex.laterGroup) :
    Pattern.Wrapped p q := by
  have start (wrap : Bool) : (ofSettings { settings with wrapInsideGroup := wrap }).run calls =
      ((ofSettings settings).run calls).wrapping wrap := (ofSettings settings).run_wrapping wrap calls
  rw [start] at built built'
  obtain ⟨source, given, read⟩ := Pattern.compile_eq_ok (buildWithFlags_eq_ok built).2
  obtain ⟨source', given', read'⟩ := Pattern.compile_eq_ok (buildWithFlags_eq_ok built').2
  exact {
    source := by rw [source, source']; rfl
    flags := by rw [given, given']; rfl
    read := by rw [source, given]; exact read
    read' := by rw [source', given']; exact read'
    engine := engine
    references := references }

/-- Wrapped inside a group, what a run of calls builds finds the same, with a capture more in front. The same
search has to accept both patterns, and references, if there are any, have to move on with the groups. Unless a
`\K` moves the start, the new capture is the matched text. -/
theorem find_wrapInsideGroup
    (built : ((ofSettings { settings with wrapInsideGroup := false }).run calls).buildWithFlags flags = .ok p)
    (built' : ((ofSettings { settings with wrapInsideGroup := true }).run calls).buildWithFlags flags = .ok q)
    (engine : q.isBacktracking = p.isBacktracking)
    (references : p.references = [] ∨ q.references = p.references.map Regex.laterGroup) (text : String) :
    p.find text = (q.find text).map (fun found => found.map Match.inner) ∧
      p.findAll text = (q.findAll text).map (fun ms => ms.map Match.inner) ∧
      (p.hasKeep = false →
        q.find text = (p.find text).map (fun found => found.map (Match.enclosed text)) ∧
          q.findAll text = (p.findAll text).map (fun ms => ms.map (Match.enclosed text))) := by
  have wrapped := wrapped_of_built built built' engine references
  have each (pos : Nat) := Pattern.findAt_wraps
    (wrapped.find text.toList.toArray (Text.charIndex text.toList pos) (by simpa using Text.charIndex_le _ _))
  obtain ⟨found, all⟩ := Pattern.find_map (f := Match.inner) wrapped.flags.symm (fun _ => ⟨rfl, rfl⟩) fun pos =>
    (each pos).1
  refine ⟨found, all, fun calm => ?_⟩
  exact Pattern.find_map wrapped.flags (fun _ => ⟨rfl, rfl⟩) fun pos => (each pos).2 calm

/-- A letter that another one must not follow, in a text with two such letters. -/
theorem find_wrapInsideGroup_of_lookahead :
    let calls : List Call := [.operation .matchesCapturedText [.text "a"], .operation .ifNotFollowedBy [],
      .operation .matchesText [.text "b"], .operation .endLookAhead []]
    let letter (index : Nat) : Regex.Program := (Regex.Node.group index (.set (.single 'a'))).program
    let plan (index : Nat) : Regex.Extended.Plan :=
      .seq (.plain (letter index) [index]) (.seq (.notAhead (.text ['b'])) .done)
    let p : Pattern := ⟨"(a)(?!b)", Flags.ofString "g", .backtracking (plan 1) 1⟩
    let q : Pattern := ⟨"((a)(?!b))", Flags.ofString "g", .backtracking (.capture 1 (plan 2)) 2⟩
    ((ofSettings { Settings.initial with wrapInsideGroup := false }).run calls).buildWithFlags (Flags.ofString "g") =
        .ok p ∧
      ((ofSettings { Settings.initial with wrapInsideGroup := true }).run calls).buildWithFlags (Flags.ofString "g") =
        .ok q ∧
      q.isBacktracking = p.isBacktracking ∧ p.references = [] ∧ p.hasKeep = false ∧
      p.findAll "ab a" = .ok [⟨3, 4, ["a"]⟩] ∧ q.findAll "ab a" = .ok [⟨3, 4, ["a", "a"]⟩] := by
  intro calls letter plan p q
  have built : ((ofSettings { Settings.initial with wrapInsideGroup := false }).run calls).buildWithFlags
      (Flags.ofString "g") = .ok p := by cbv
  have built' : ((ofSettings { Settings.initial with wrapInsideGroup := true }).run calls).buildWithFlags
      (Flags.ofString "g") = .ok q := by cbv
  have none : p.references = [] := by cbv
  have calm : p.hasKeep = false := by cbv
  have all : p.findAll "ab a" = .ok [⟨3, 4, ["a"]⟩] := by cbv
  have same := (find_wrapInsideGroup built built' rfl (.inl none) "ab a").2.2 calm
  refine ⟨built, built', rfl, none, calm, all, same.2.trans ?_⟩
  rw [all]
  cbv

/-- A reference that the pattern makes to its first group is one to the group around it when it is wrapped. It
stands inside that group, and never holds. -/
theorem find_wrapInsideGroup_with_useGroup :
    let calls : List Call := [.operation .matchesCapturedText [.text "a"], .operation .useGroup [.number 1]]
    (((ofSettings { Settings.initial with wrapInsideGroup := false }).run calls).build.bind fun p => p.find "aa") =
        .ok (some ⟨0, 2, ["a"]⟩) ∧
      (((ofSettings { Settings.initial with wrapInsideGroup := true }).run calls).build.bind fun q => q.find "aa") =
        .ok none := by
  intro calls
  exact ⟨by cbv, by cbv⟩

/-- Behind a `\K` the match begins later than the group. -/
example :
    let b (wrap : Bool) := (ofSettings { Settings.initial with wrapInsideGroup := wrap }).matchesText "a\\Kb"
    ((b false).build.bind fun p => p.find "ab") = .ok (some ⟨1, 2, []⟩) ∧
      ((b true).build.bind fun q => q.find "ab") = .ok (some ⟨1, 2, ["ab"]⟩) := by
  intro b
  exact ⟨by cbv, by cbv⟩

/-- The plain search reads 250 repetitions on top of each other, but no group around them. The extended search reads
the group, and all braces behind the first as text. -/
example :
    let text : List Char := 'a' :: (List.replicate 250 ['{', '1', '}']).flatten
    let search (text : List Char) := (Regex.Matcher.ofText? text).map fun matcher =>
      (matcher.isBacktracking, matcher.find #['a'] 0)
    search text = some (false, some (some ⟨0, 1, []⟩)) ∧
      search ('(' :: (text ++ [')'])) = some (true, some none) := by
  decide +kernel

end Builder

end PatternComposer
