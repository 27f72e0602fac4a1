import PatternComposer.Proofs.Regex.Enclosed
import PatternComposer.Proofs.Regex.Extended.Enclosed
import PatternComposer.Proofs.Regex.Extended.Wrapped
import PatternComposer.Proofs.Regex.Matcher

/-! # Patterns in a group

Put into a group, a pattern finds what it found before, and the group takes the whole match, if the
same search accepts both texts and the references move on with the groups. Behind a `\K` the match
begins later than the group does.
-/

namespace PatternComposer.Regex.Matcher

variable {front body : List Char} {matcher wrapped : Matcher} {steady : Prop} {text : Array Char} {pos : Nat}

/-- A plain search in a new first group finds the same, whatever moves the start elsewhere. -/
theorem findPlain?_wraps (steady : Prop) (node : Node) (groups : Nat) (inside : pos ≤ text.size) :
    Both (Span.Wraps steady) (findPlain? node.program groups text pos)
      (findPlain? (Program.wrapped node.code) (groups + 1) text pos) := by
  rw [findPlain?_wrapped node.closed_code groups inside, Node.program]
  cases findPlain? node.code.toArray groups text pos with
  | none => exact .none
  | some span => exact .some ⟨rfl, rfl, span.start, rfl, fun _ => rfl⟩

theorem find_grouped_plain (leading : Leading front) (read : ofPlain? (front ++ body) = some matcher)
    (read' : ofPlain? (front ++ '(' :: (body ++ [')'])) = some wrapped) (inside : pos ≤ text.size) :
    Both (Both (Span.Wraps steady)) (matcher.find text pos) (wrapped.find text pos) := by
  obtain ⟨tree, found, rfl⟩ := ofPlain?_eq_some read
  obtain ⟨tree', found', rfl⟩ := ofPlain?_eq_some read'
  obtain ⟨program, groups⟩ := Tree.ofText?_wrapped leading found found'
  rw [program, groups]
  exact .some (findPlain?_wraps steady tree.node tree.groups inside)

/-! ## The extended dialect -/

/-- The matcher of an extended tree. -/
def ofTree? (tree : Extended.Tree) : Option Matcher :=
  if tree.term.isHard tree.refs then
    (Extended.Plan.ofTerm? tree.refs true tree.term).map fun plan => .backtracking plan tree.groups
  else
    (tree.term.toPart? .branch).bind fun part =>
      if part.depth ≤ depthLimit ∧ part.node.fits then some (.extended part.node.program tree.groups) else none

theorem ofExtended?_eq_some {cs : List Char} (read : ofExtended? cs = some matcher) :
    ∃ tree, Extended.Tree.ofText? cs = some tree ∧ ofTree? tree = some matcher :=
  Option.bind_eq_some_iff.mp read

/-- A group that nothing refers to makes a term no harder. -/
theorem isHard_grouped (t : Extended.Term) (refs : List Nat) :
    (Extended.Term.group 1 t.later).isHard (refs.map laterGroup) = t.isHard refs := by
  have free : (refs.map laterGroup).contains 1 = false := by
    rw [← Bool.not_eq_true, List.contains_iff_mem]
    intro member
    obtain ⟨index, _, same⟩ := List.mem_map.mp member
    exact laterGroup_ne index same
  rw [Extended.Term.isHard, Extended.Term.isHard_later, free, Bool.or_false]

/-- The search for a term in a new first group finds the same. -/
theorem find_grouped_tree {tree : Extended.Tree} (calm : steady → tree.term.movesStart = false)
    (made : ofTree? tree = some matcher)
    (made' : ofTree? ⟨.group 1 tree.term.later, tree.groups + 1, tree.refs.map laterGroup⟩ = some wrapped)
    (inside : pos ≤ text.size) : Both (Both (Span.Wraps steady)) (matcher.find text pos) (wrapped.find text pos) := by
  obtain ⟨term, groups, refs⟩ := tree
  simp only [ofTree?, isHard_grouped] at made made'
  split at made
  · next hard =>
    rw [if_pos hard] at made'
    obtain ⟨plan, planned, rfl⟩ := Option.map_eq_some_iff.mp made
    rw [Extended.Plan.ofTerm?, Extended.Plan.ofTerm?_later, planned] at made'
    obtain rfl := Option.some.inj made'
    exact find_wrapped (fun given => Extended.Plan.movesStart_ofTerm? (calm given) planned) groups text pos
  · next easy =>
    rw [if_neg easy] at made'
    obtain ⟨part, drawn, made⟩ := Option.bind_eq_some_iff.mp made
    obtain ⟨_, same⟩ := Option.ite_none_right_eq_some.mp made
    obtain rfl := Option.some.inj same
    rw [Extended.Term.toPart?, Extended.Term.toPart?_later, drawn] at made'
    obtain ⟨_, same⟩ := Option.ite_none_right_eq_some.mp made'
    obtain rfl := Option.some.inj same
    have program : (Node.group 1 part.later.node).program = Program.wrapped part.node.code := by
      rw [Node.program, Node.code, Part.later, Node.code_later]
      rfl
    change Both _ (find (.extended _ _) text pos) (find (.extended (Node.group 1 part.later.node).program _) text pos)
    rw [program]
    exact .some (findPlain?_wraps steady part.node groups inside)

/-- Put into a group, a pattern that the same search accepts finds what it found before. -/
theorem find_grouped (leading : Leading front) (read : ofText? (front ++ body) = some matcher)
    (read' : ofText? (front ++ '(' :: (body ++ [')'])) = some wrapped)
    (engine : wrapped.isBacktracking = matcher.isBacktracking)
    (refs : matcher.isBacktracking = true → ∀ tree tree',
      Extended.Tree.ofText? (front ++ body) = some tree →
      Extended.Tree.ofText? (front ++ '(' :: (body ++ [')'])) = some tree' → tree'.refs = tree.refs.map laterGroup)
    (calm : steady → matcher.isBacktracking = true →
      ∀ tokens, Extended.Token.scan? (front ++ body) = some tokens → ∀ token ∈ tokens, token.isKeep = false)
    (inside : pos ≤ text.size) : Both (Both (Span.Wraps steady)) (matcher.find text pos) (wrapped.find text pos) := by
  have accepted := ofText?_eq_some read
  have accepted' := ofText?_eq_some read'
  rw [engine] at accepted'
  cases hard : matcher.isBacktracking with
  | false =>
    rw [hard] at accepted accepted'
    exact find_grouped_plain leading accepted accepted' inside
  | true =>
    rw [hard] at accepted accepted'
    obtain ⟨tree, found, made⟩ := ofExtended?_eq_some accepted
    obtain ⟨tree', found', made'⟩ := ofExtended?_eq_some accepted'
    have moved := refs hard tree tree' found found'
    obtain ⟨term, groups⟩ := Extended.Tree.ofText?_wrapped leading found found' moved
    obtain ⟨_, _, _⟩ := tree'
    obtain rfl := term
    obtain rfl := groups
    obtain rfl := moved
    obtain ⟨tokens, scanned, _⟩ := Option.bind_eq_some_iff.mp found
    exact find_grouped_tree
      (fun given => Extended.Tree.movesStart_ofText? leading found found' scanned (calm given hard tokens scanned))
      made made' inside

end PatternComposer.Regex.Matcher
