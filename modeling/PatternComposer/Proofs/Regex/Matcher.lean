import PatternComposer.Proofs.Regex.Leading
import PatternComposer.Regex.Matcher

/-! # The search that accepts a text

The extended dialect is asked only when the plain one refuses, and the matcher shows which of them accepted.
Neither of them cares about the order of the flags in front.
-/

namespace PatternComposer.Regex.Matcher

theorem isBacktracking_ofExtended? {cs : List Char} {matcher : Matcher} (read : ofExtended? cs = some matcher) :
    matcher.isBacktracking = true := by
  obtain ⟨tree, _, read⟩ := Option.bind_eq_some_iff.mp read
  split at read
  · obtain ⟨plan, _, rfl⟩ := Option.map_eq_some_iff.mp read
    rfl
  · obtain ⟨part, _, read⟩ := Option.bind_eq_some_iff.mp read
    obtain ⟨_, same⟩ := Option.ite_none_right_eq_some.mp read
    obtain rfl := Option.some.inj same
    rfl

theorem ofPlain?_eq_some {cs : List Char} {matcher : Matcher} (read : ofPlain? cs = some matcher) :
    ∃ tree, Tree.ofText? cs = some tree ∧ matcher = .plain tree.node.program tree.groups := by
  obtain ⟨tree, found, read⟩ := Option.bind_eq_some_iff.mp read
  obtain ⟨_, same⟩ := Option.ite_none_right_eq_some.mp read
  exact ⟨tree, found, (Option.some.inj same).symm⟩

/-- A text is accepted by the plain dialect, or by the extended one because the plain one refuses it. -/
theorem ofText?_cases {cs : List Char} {matcher : Matcher} (read : ofText? cs = some matcher) :
    (ofPlain? cs = some matcher ∧ matcher.isBacktracking = false) ∨
      (ofPlain? cs = none ∧ ofExtended? cs = some matcher ∧ matcher.isBacktracking = true) := by
  cases plain : ofPlain? cs with
  | some found =>
    rw [ofText?, plain] at read
    obtain rfl := Option.some.inj read
    obtain ⟨tree, _, rfl⟩ := ofPlain?_eq_some plain
    exact .inl ⟨rfl, rfl⟩
  | none =>
    rw [ofText?, plain] at read
    exact .inr ⟨rfl, read, isBacktracking_ofExtended? read⟩

/-- The search that accepts a text shows in the matcher. -/
theorem ofText?_eq_some {cs : List Char} {matcher : Matcher} (read : ofText? cs = some matcher) :
    if matcher.isBacktracking then ofExtended? cs = some matcher else ofPlain? cs = some matcher := by
  obtain ⟨accepted, plain⟩ | ⟨_, accepted, extended⟩ := ofText?_cases read
  · rwa [plain]
  · rwa [extended]

theorem isBacktracking_iff {cs : List Char} {matcher : Matcher} (read : ofText? cs = some matcher) :
    matcher.isBacktracking ↔ ofPlain? cs = none := by
  obtain ⟨accepted, plain⟩ | ⟨refused, _, extended⟩ := ofText?_cases read
  · simp [accepted, plain]
  · simp [refused, extended]

theorem isSome_ofText? (cs : List Char) :
    (ofText? cs).isSome ↔ (ofPlain? cs).isSome ∨ (ofExtended? cs).isSome := by
  rw [ofText?]
  cases ofPlain? cs <;> simp

/-- Flags in front make the same matcher in any order. -/
theorem ofText?_perm {letters others : List Char} (switches : Switches letters) (same : letters.Perm others)
    (rest : List Char) :
    ofText? ('(' :: '?' :: (letters ++ ')' :: rest)) = ofText? ('(' :: '?' :: (others ++ ')' :: rest)) := by
  rw [ofText?, ofText?, ofPlain?, ofPlain?, ofExtended?, ofExtended?, Tree.ofText?_perm switches same,
    Extended.Tree.ofText?_perm switches same]

end PatternComposer.Regex.Matcher
