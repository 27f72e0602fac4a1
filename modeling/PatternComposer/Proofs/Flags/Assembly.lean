import PatternComposer.Proofs.Flags

/-! # Flag sets are ordered unions

However a set is made and added to, it lists what was supplied on the way, each flag where it came first. Nothing
else of its history is left. So sets merge like lists are joined: in any grouping, and a set that is merged in
again adds nothing.
-/

namespace PatternComposer

/-! ## First occurrences in joined lists -/

section FirstOccurrences

variable {α : Type} [BEq α] [LawfulBEq α]

/-- What occurs again in the first list may be left out there. -/
theorem eraseDups_eraseDups_append (xs ys : List α) : (xs.eraseDups ++ ys).eraseDups = (xs ++ ys).eraseDups := by
  have same : ys.removeAll xs.eraseDups = ys.removeAll xs := by
    refine List.filter_congr fun y _ => congrArg not ?_
    rw [Bool.eq_iff_iff]
    simp [List.mem_eraseDups]
  rw [List.eraseDups_append, List.eraseDups_append, eraseDups_of_nodup (nodup_eraseDups xs), same]

omit [LawfulBEq α] in
theorem head?_eraseDups (xs : List α) : xs.eraseDups.head? = xs.head? := by
  cases xs with
  | nil => rfl
  | cons x rest => rw [List.eraseDups_cons, List.head?_cons, List.head?_cons]

/-- The first element of a kind stands before all its repetitions. -/
theorem find?_eraseDups (p : α → Bool) (xs : List α) : xs.eraseDups.find? p = xs.find? p := by
  rw [← List.head?_filter, ← eraseDups_filter, head?_eraseDups, List.head?_filter]

end FirstOccurrences

namespace Flags

/-! ## Ways of making a set -/

/-- How a set comes to be: from one flag, from a list, from a text or from several texts, and then by adding to it. A
set that is merged in has a history of its own. -/
inductive Assembly where
  | empty
  | singleton (flag : Char)
  | ofList (flags : List Char)
  | ofString (s : String)
  | ofStrings (ss : List String)
  | insert (before : Assembly) (flag : Char)
  | extend (before : Assembly) (more : List Char)
  | merge (before other : Assembly)

namespace Assembly

/-- The set that comes to be. -/
def assemble : Assembly → Flags
  | .empty => Flags.empty
  | .singleton flag => Flags.singleton flag
  | .ofList flags => Flags.ofList flags
  | .ofString s => Flags.ofString s
  | .ofStrings ss => Flags.ofStrings ss
  | .insert before flag => before.assemble.insert flag
  | .extend before more => before.assemble.extend more
  | .merge before other => before.assemble.merge other.assemble

/-- Every character that is supplied on the way, in order and with all repetitions. -/
def supplied : Assembly → List Char
  | .empty => []
  | .singleton flag => [flag]
  | .ofList flags => flags
  | .ofString s => s.toList
  | .ofStrings ss => ss.flatMap String.toList
  | .insert before flag => before.supplied ++ [flag]
  | .extend before more => before.supplied ++ more
  | .merge before other => before.supplied ++ other.supplied

end Assembly

theorem toList_merge (flags other : Flags) :
    (flags.merge other).toList = (flags.toList ++ other.toList).eraseDups := toList_extend flags other.toList

theorem toList_assemble (assembly : Assembly) : assembly.assemble.toList = assembly.supplied.eraseDups := by
  induction assembly with
  | empty => rfl
  | singleton flag => exact (eraseDups_of_nodup (Flags.singleton flag).nodup).symm
  | ofList flags => exact toList_ofList flags
  | ofString s => exact toList_ofList s.toList
  | ofStrings ss => exact toList_ofList _
  | insert before flag ih =>
    rw [Assembly.assemble, Assembly.supplied, toList_insert, ih, eraseDups_eraseDups_append]
  | extend before more ih =>
    rw [Assembly.assemble, Assembly.supplied, toList_extend, ih, eraseDups_eraseDups_append]
  | merge before other ih also =>
    rw [Assembly.assemble, Assembly.supplied, toList_merge, ih, also, eraseDups_eraseDups_append,
      eraseDups_append_eraseDups]

theorem ofStrings_eq_ofString_join (ss : List String) : ofStrings ss = ofString (String.join ss) := by
  rw [ofStrings, ofString, String.toList_join]

/-! ## The laws of merging -/

theorem ext_toList {flags other : Flags} (same : flags.toList = other.toList) : flags = other := by
  cases flags
  cases other
  cases same
  rfl

theorem merge_assoc (a b c : Flags) : (a.merge b).merge c = a.merge (b.merge c) := by
  apply ext_toList
  rw [toList_merge, toList_merge, toList_merge, toList_merge, eraseDups_eraseDups_append, eraseDups_append_eraseDups,
    List.append_assoc]

theorem isPrefix_merge (flags other : Flags) : flags.toList <+: (flags.merge other).toList := by
  rw [toList_merge, List.eraseDups_append, eraseDups_of_nodup flags.nodup]
  exact List.prefix_append _ _

theorem contains_merge (flags other : Flags) (flag : Char) :
    (flags.merge other).contains flag = (flags.contains flag || other.contains flag) := by
  rw [contains, contains, contains, toList_merge, Bool.eq_iff_iff]
  simp [List.mem_eraseDups]

theorem merge_empty (flags : Flags) : flags.merge empty = flags := rfl

theorem empty_merge (flags : Flags) : empty.merge flags = flags := by
  apply ext_toList
  rw [toList_merge, empty, List.nil_append, eraseDups_of_nodup flags.nodup]

theorem merge_self (flags : Flags) : flags.merge flags = flags := by
  have nothing : flags.toList.removeAll flags.toList = [] := by simp [List.removeAll]
  apply ext_toList
  rw [toList_merge, List.eraseDups_append, nothing, eraseDups_of_nodup flags.nodup, List.eraseDups_nil, List.append_nil]

/-! ## The first flag without a meaning -/

theorem firstUnsupported?_assemble (assembly : Assembly) :
    assembly.assemble.firstUnsupported? = assembly.supplied.find? fun flag => !supported.contains flag := by
  rw [firstUnsupported?, toList_assemble, find?_eraseDups]

/-- A set is the ordered union of what it was made from: it lists each supplied character once, in the order in which
they came first, and its first flag without a meaning is the first supplied one. Several texts are as good as one
text of them all. Merging is associative, with the empty set as identity, and adds nothing the second time; it keeps
what was there in front and takes in the flags of both. -/
theorem orderedUnion_spec :
    (∀ assembly : Assembly,
      assembly.assemble.toList.Nodup ∧ assembly.assemble.toList = assembly.supplied.eraseDups ∧
      (∀ flag, assembly.assemble.firstUnsupported? = some flag ↔
        flag ∉ supported ∧ ∃ before after, assembly.supplied = before ++ flag :: after ∧
          ∀ c ∈ before, c ∈ supported) ∧
      (assembly.assemble.firstUnsupported? = none ↔ ∀ c ∈ assembly.supplied, c ∈ supported)) ∧
    (∀ ss : List String, ofStrings ss = ofString (String.join ss)) ∧
    (∀ a b c : Flags, (a.merge b).merge c = a.merge (b.merge c)) ∧
    (∀ flags : Flags, flags.merge flags = flags ∧ flags.merge empty = flags ∧ empty.merge flags = flags) ∧
    (∀ flags other : Flags, flags.toList <+: (flags.merge other).toList) ∧
    (∀ (flags other : Flags) (flag : Char),
      (flags.merge other).contains flag ↔ flags.contains flag ∨ other.contains flag) := by
  refine ⟨fun assembly => ⟨?_, toList_assemble assembly, fun flag => ?_, ?_⟩, ofStrings_eq_ofString_join,
    merge_assoc, fun flags => ⟨merge_self flags, merge_empty flags, empty_merge flags⟩, isPrefix_merge,
    fun flags other flag => ?_⟩
  · rw [toList_assemble]
    exact nodup_eraseDups _
  · rw [firstUnsupported?_assemble, List.find?_eq_some_iff_append]
    simp
  · rw [firstUnsupported?_assemble, List.find?_eq_none]
    simp
  · rw [contains_merge, Bool.or_eq_true]

-- What is configured comes first, and what a build repeats of it is left out.
example : (Assembly.merge (.ofString "gig") (.ofStrings ["m", "gy"])).assemble.toList = ['g', 'i', 'm', 'y'] := by
  decide

end Flags
end PatternComposer
