import PatternComposer.Proofs.Regex.Later
import PatternComposer.Regex.Extended.Plan

/-! # Extended terms with later group numbers

The numbers of groups, and with them the references, move on by one behind a new first group. What a
term takes, whether it is hard and which plain tree it stands for stay the same up to the numbers.
-/

namespace PatternComposer.Regex.Extended

namespace Term

mutual

def later : Term → Term
  | .cat items => .cat (laterAll items)
  | .alt branches => .alt (laterAll branches)
  | .group index body => .group (laterGroup index) body.later
  | .rep body lo hi greedy => .rep body.later lo hi greedy
  | .around kind body => .around kind body.later
  | .backref index => .backref (laterGroup index)
  | .atomic body => .atomic body.later
  | .matched index => .matched (laterGroup index)
  | .conditional condition yes no => .conditional condition.later yes.later no.later
  | t => t

def laterAll : List Term → List Term
  | [] => []
  | t :: rest => t.later :: laterAll rest

end

theorem laterAll_eq_map (terms : List Term) : laterAll terms = terms.map later := by
  induction terms with
  | nil => rw [laterAll, List.map_nil]
  | cons t rest ih => rw [laterAll, ih, List.map_cons]

@[simp] theorem isRepeatable_later (t : Term) : t.later.isRepeatable = t.isRepeatable := by
  cases t <;> simp [later, isRepeatable]

mutual

@[simp] theorem minSize_later (t : Term) : t.later.minSize = t.minSize := by
  cases t with
  | cat items => simp [later, minSize, sumSizes_later items]
  | alt branches => simp [later, minSize, leastSize_later branches]
  | group index body => simp [later, minSize, minSize_later body]
  | rep body lo hi greedy => simp [later, minSize, minSize_later body]
  | atomic body => simp [later, minSize, minSize_later body]
  | conditional condition yes no =>
    simp [later, minSize, minSize_later condition, minSize_later yes, minSize_later no]
  | _ => simp [later, minSize]

theorem sumSizes_later (terms : List Term) : sumSizes (laterAll terms) = sumSizes terms := by
  match terms with
  | [] => simp [laterAll]
  | t :: rest => simp [laterAll, sumSizes, minSize_later t, sumSizes_later rest]

theorem leastSize_later (terms : List Term) : leastSize (laterAll terms) = leastSize terms := by
  match terms with
  | [] => simp [laterAll]
  | [t] => simp [laterAll, leastSize, minSize_later t]
  | t :: u :: rest =>
    have tail := leastSize_later (u :: rest)
    rw [laterAll] at tail ⊢
    simp [laterAll, leastSize, minSize_later t] at tail ⊢
    rw [tail]

end

theorem allSize_later (terms : List Term) : allSize (laterAll terms) = allSize terms := by
  match terms with
  | [] => simp [laterAll]
  | [t] => simp [laterAll, allSize]
  | t :: u :: rest =>
    have tail := allSize_later (u :: rest)
    rw [laterAll] at tail ⊢
    simp [laterAll, allSize] at tail ⊢
    rw [tail]

mutual

@[simp] theorem isConst_later (t : Term) : t.later.isConst = t.isConst := by
  cases t with
  | cat items => simp [later, isConst, allConst_later items]
  | alt branches => simp [later, isConst, allConst_later branches, allSize_later]
  | group index body => simp [later, isConst, isConst_later body]
  | rep body lo hi greedy => simp [later, isConst, isConst_later body]
  | atomic body => simp [later, isConst, isConst_later body]
  | conditional condition yes no =>
    simp [later, isConst, isConst_later condition, isConst_later yes, isConst_later no]
  | _ => simp [later, isConst]

theorem allConst_later (terms : List Term) : allConst (laterAll terms) = allConst terms := by
  match terms with
  | [] => simp [laterAll]
  | t :: rest => simp [laterAll, allConst, isConst_later t, allConst_later rest]

end

theorem contains_laterGroup (refs : List Nat) (index : Nat) :
    (refs.map laterGroup).contains (laterGroup index) = refs.contains index := by
  induction refs with
  | nil => rfl
  | cons first rest ih =>
    have same : (laterGroup index == laterGroup first) = (index == first) := by
      rw [Bool.eq_iff_iff, beq_iff_eq, beq_iff_eq, laterGroup_inj]
    rw [List.map_cons, List.contains_cons, List.contains_cons, ih, same]

mutual

@[simp] theorem isHard_later (refs : List Nat) (t : Term) :
    t.later.isHard (refs.map laterGroup) = t.isHard refs := by
  cases t with
  | cat items => simp [later, isHard, anyHard_later refs items]
  | alt branches => simp [later, isHard, anyHard_later refs branches]
  | group index body => rw [later, isHard, isHard, isHard_later refs body, contains_laterGroup]
  | rep body lo hi greedy => simp [later, isHard, isHard_later refs body]
  | _ => simp [later, isHard]

theorem anyHard_later (refs : List Nat) (terms : List Term) :
    anyHard (refs.map laterGroup) (laterAll terms) = anyHard refs terms := by
  match terms with
  | [] => simp [laterAll, anyHard]
  | t :: rest => simp [laterAll, anyHard, isHard_later refs t, anyHard_later refs rest]

end

mutual

@[simp] theorem groups_later (t : Term) : t.later.groups = t.groups.map laterGroup := by
  cases t with
  | cat items => simp [later, groups, allGroups_later items]
  | alt branches => simp [later, groups, allGroups_later branches]
  | group index body => simp [later, groups, groups_later body]
  | rep body lo hi greedy => simp [later, groups, groups_later body]
  | around kind body => simp [later, groups, groups_later body]
  | atomic body => simp [later, groups, groups_later body]
  | conditional condition yes no =>
    simp [later, groups, groups_later condition, groups_later yes, groups_later no]
  | _ => simp [later, groups]

theorem allGroups_later (terms : List Term) : allGroups (laterAll terms) = (allGroups terms).map laterGroup := by
  match terms with
  | [] => simp [laterAll, allGroups]
  | t :: rest => simp [laterAll, allGroups, groups_later t, allGroups_later rest]

end

mutual

@[simp] theorem text?_later (t : Term) : t.later.text? = t.text? := by
  cases t with
  | literal c caseless => cases caseless <;> simp [later, text?]
  | cat items => simp [later, text?, allText?_later items]
  | _ => simp [later, text?]

theorem allText?_later (terms : List Term) : allText? (laterAll terms) = allText? terms := by
  match terms with
  | [] => simp [laterAll]
  | t :: rest => simp [laterAll, allText?, text?_later t, allText?_later rest]

end

theorem enclose_later (part : Part) : enclose part.later = (enclose part).later := rfl

theorem inRow_later (parts : List Part) : inRow (parts.map Part.later) = (inRow parts).later := by
  match parts with
  | [] => rfl
  | [part] => rfl
  | first :: second :: rest =>
    rw [Part.later]
    simp [inRow, Node.later_catAll, Part.later, Function.comp_def]

mutual

theorem toPart?_later (place : Place) (t : Term) : t.later.toPart? place = (t.toPart? place).map Part.later := by
  cases t with
  | literal c caseless => cases caseless <;> simp [later, toPart?, Part.later, Node.later]
  | anyChar newline => cases newline <;> simp [later, toPart?, Part.later, Node.later]
  | cat items =>
    rw [later, toPart?, toPart?, toParts?_later .row items, Option.map_map, Option.map_map]
    congr 1
    funext parts
    rw [Function.comp_apply, Function.comp_apply, inRow_later]
    split
    · rfl
    · rw [enclose_later]
  | alt branches =>
    rw [later, toPart?, toPart?, toParts?_later .branch branches, Option.map_map, Option.map_map]
    congr 1
    funext parts
    simp [enclose, Part.later, Node.later_altAll, Function.comp_def]
  | group index body =>
    rw [later, toPart?, toPart?, toPart?_later .branch body, Option.map_map, Option.map_map]
    rfl
  | rep body lo hi greedy =>
    rw [later, toPart?, toPart?, toPart?_later .quantified body]
    split
    · rfl
    · rw [Option.map_map, Option.map_map]
      congr 1
      funext part
      simp only [Function.comp_apply]
      split <;> rfl
  | _ => simp [later, toPart?, Part.later, Node.later]

theorem toParts?_later (place : Place) (terms : List Term) :
    toParts? place (laterAll terms) = (toParts? place terms).map (·.map Part.later) := by
  match terms with
  | [] => simp [laterAll, toParts?]
  | t :: rest =>
    rw [laterAll, toParts?, toParts?, toPart?_later place t, toParts?_later place rest]
    cases t.toPart? place with
    | none => rfl
    | some part => cases toParts? place rest <;> rfl

end

/-- The branches that a look behind may try one by one. -/
def branches? : Term → Option (List Term)
  | .alt branches => some branches
  | _ => none

theorem branches?_later (t : Term) : t.later.branches? = t.branches?.map (·.map later) := by
  cases t with
  | alt all => rw [later, laterAll_eq_map]; rfl
  | _ => rw [later] <;> first | rfl | simp

end Term

/-! ## Plans -/

namespace Plan

def later : Plan → Plan
  | .plain program groups => .plain (program.map Inst.later) (groups.map laterGroup)
  | .seq first second => .seq first.later second.later
  | .alt first second => .alt first.later second.later
  | .capture index body => .capture (laterGroup index) body.later
  | .option body greedy => .option body.later greedy
  | .loop body lo hi greedy guarded => .loop body.later lo hi greedy guarded
  | .ahead body => .ahead body.later
  | .notAhead body => .notAhead body.later
  | .atomic body => .atomic body.later
  | .backref index => .backref (laterGroup index)
  | .matched index => .matched (laterGroup index)
  | .conditional condition yes no => .conditional condition.later yes.later no.later
  | plan => plan

theorem ofPart?_later (part : Part) (groups : List Nat) :
    ofPart? part.later (groups.map laterGroup) = (ofPart? part groups).map later := by
  simp only [ofPart?, Part.later, Node.fits_later, Node.program_later]
  split <;> rfl

theorem ofEasy?_later (terms : List Term) : ofEasy? (terms.map Term.later) = (ofEasy? terms).map later := by
  cases terms with
  | nil => rfl
  | cons t rest =>
    have text := Term.allText?_later (t :: rest)
    have groups := Term.allGroups_later (t :: rest)
    have parts (place : Term.Place) := Term.toParts?_later place (t :: rest)
    rw [Term.laterAll_eq_map] at text groups
    simp only [Term.laterAll_eq_map] at parts
    have searched (place : Term.Place) :
        ((Term.toParts? place ((t :: rest).map Term.later)).bind fun parts =>
          ofPart? (Term.inRow parts) (Term.allGroups ((t :: rest).map Term.later))) =
        ((Term.toParts? place (t :: rest)).bind fun parts =>
          ofPart? (Term.inRow parts) (Term.allGroups (t :: rest))).map later := by
      rw [parts, groups]
      cases Term.toParts? place (t :: rest) with
      | none => rfl
      | some parts =>
        change ofPart? (Term.inRow (parts.map Part.later)) _ = _
        rw [Term.inRow_later, ofPart?_later]
        rfl
    rw [List.map_cons] at text searched
    simp only [ofEasy?, List.map_cons, text]
    split
    · rfl
    · cases rest <;> exact searched _

theorem seqAll_later (plans : List Plan) : seqAll (plans.map later) = (seqAll plans).later := by
  induction plans with
  | nil => rfl
  | cons plan rest ih =>
    cases rest with
    | nil => rfl
    | cons second more => exact congrArg (Plan.seq plan.later) ih

theorem altAll_later (plans : List Plan) : altAll (plans.map later) = (altAll plans).later := by
  induction plans with
  | nil => rfl
  | cons plan rest ih =>
    cases rest with
    | nil => rfl
    | cons second more => exact congrArg (Plan.alt plan.later) ih

theorem ofRow?_later (refs : List Nat) (hard : Bool) (items : List Term) (plans : List Plan) :
    ofRow? (refs.map laterGroup) hard (items.map Term.later) (plans.map later) =
      (ofRow? refs hard items plans).map later := by
  simp only [ofRow?, List.takeWhile_map, List.length_map, ← List.map_drop, ← List.map_take, ← List.map_reverse,
    Function.comp_def, Term.isConst_later, Term.isHard_later, ofEasy?_later]
  cases ofEasy? (items.takeWhile fun t => t.isConst && !t.isHard refs) with
  | none => rfl
  | some first =>
    cases ofEasy? (List.reverse _) with
    | none => rfl
    | some last =>
      simp only [Option.map_some, Option.bind_some, ← seqAll_later, List.map_append, List.map_cons, List.map_nil]

theorem ofRepetition_later (body : Plan) (minSize lo : Nat) (hi : Option Nat) (greedy : Bool) :
    ofRepetition body.later minSize lo hi greedy = (ofRepetition body minSize lo hi greedy).later := by
  rw [ofRepetition, ofRepetition]
  split <;> rfl

theorem ofTerm?_behind (refs : List Nat) (hard : Bool) (body : Term) :
    ofTerm? refs hard (.around .behind body) =
      if body.isConst then (ofTerm? refs false body).map fun plan => .ahead (.seq (.back body.minSize) plan)
      else body.branches?.bind fun branches =>
        (behindEach? refs branches).map fun plans => altAll (plans.map .ahead) := by
  cases body <;> rw [ofTerm?] <;> first | rfl | exact fun _ same => by cases same

theorem ofTerm?_notBehind (refs : List Nat) (hard : Bool) (body : Term) :
    ofTerm? refs hard (.around .notBehind body) =
      if body.isConst then (ofTerm? refs false body).map fun plan => .notAhead (.seq (.back body.minSize) plan)
      else body.branches?.bind fun branches =>
        (behindEach? refs branches).map fun plans => seqAll (plans.map .notAhead) := by
  cases body <;> rw [ofTerm?] <;> first | rfl | exact fun _ same => by cases same

mutual

/-- The plan of a term with later numbers is its plan with later numbers. -/
theorem ofTerm?_later (refs : List Nat) (hard : Bool) (t : Term) :
    ofTerm? (refs.map laterGroup) hard t.later = (ofTerm? refs hard t).map later := by
  cases t with
  | literal c caseless =>
    cases caseless with
    | false => simp [Term.later, ofTerm?, later]
    | true => simpa [Term.later, ofTerm?] using ofEasy?_later [.literal c true]
  | anyChar newline =>
    cases hard with
    | false => simpa [Term.later, ofTerm?] using ofEasy?_later [.anyChar newline]
    | true => simp [Term.later, ofTerm?, later]
  | members s depth => simpa [Term.later, ofTerm?] using ofEasy?_later [.members s depth]
  | look l =>
    have easy := ofEasy?_later [.look l]
    simp only [Term.later, ofTerm?]
    split
    · exact easy
    · rfl
  | cat items =>
    have easy := ofEasy?_later [.cat items]
    have hard_ := Term.anyHard_later refs items
    rw [List.map_cons, List.map_nil, Term.later] at easy
    rw [Term.later, ofTerm?, ofTerm?, hard_]
    split
    · exact easy
    · rw [Term.laterAll_eq_map, ofTerms?_later refs true items]
      cases ofTerms? refs true items with
      | none => rfl
      | some plans => exact ofRow?_later refs hard items plans
  | alt branches =>
    have easy := ofEasy?_later [.alt branches]
    have hard_ := Term.anyHard_later refs branches
    rw [List.map_cons, List.map_nil, Term.later] at easy
    rw [Term.later, ofTerm?, ofTerm?, hard_]
    split
    · exact easy
    · rw [Term.laterAll_eq_map, ofTerms?_later refs hard branches, Option.map_map, Option.map_map]
      congr 1
      funext plans
      exact altAll_later plans
  | group index body =>
    have easy := ofEasy?_later [.group index body]
    have hard_ := Term.isHard_later refs (.group index body)
    rw [List.map_cons, List.map_nil, Term.later] at easy
    rw [Term.later] at hard_
    rw [Term.later, ofTerm?, ofTerm?, hard_]
    split
    · exact easy
    · rw [ofTerm?_later refs hard body, Option.map_map, Option.map_map]
      rfl
  | rep body lo hi greedy =>
    have easy := ofEasy?_later [.rep body lo hi greedy]
    rw [List.map_cons, List.map_nil, Term.later] at easy
    rw [Term.later, ofTerm?, ofTerm?, Term.isHard_later, Term.minSize_later, ofTerm?_later refs hard body,
      ofTerm?_later refs true body]
    split
    · exact easy
    · split
      · rw [Option.map_map, Option.map_map]
        rfl
      · rw [Option.map_map, Option.map_map]
        congr 1
        funext plan
        exact ofRepetition_later plan body.minSize lo hi greedy
  | around kind body =>
    have fixed := ofTerm?_later refs false body
    have each (all : List Term) (found : body.branches? = some all) :
        behindEach? (refs.map laterGroup) (all.map Term.later) = (behindEach? refs all).map (·.map later) := by
      cases body with
      | alt inner =>
        have each := behindEach?_later refs inner
        cases found
        exact each
      | _ => cases found
    have together {combine : List Plan → Plan} (same : ∀ plans, combine (plans.map later) = (combine plans).later) :
        ((body.branches?.map (List.map Term.later)).bind fun all =>
            (behindEach? (refs.map laterGroup) all).map combine) =
          (body.branches?.bind fun all => (behindEach? refs all).map combine).map later := by
      cases found : body.branches? with
      | none => rfl
      | some all =>
        rw [Option.map_some, Option.bind_some, Option.bind_some, each all found, Option.map_map, Option.map_map]
        congr 1
        funext plans
        exact same plans
    cases kind with
    | ahead => simp [Term.later, ofTerm?, fixed, Function.comp_def, later]
    | notAhead => simp [Term.later, ofTerm?, fixed, Function.comp_def, later]
    | behind =>
      rw [Term.later, ofTerm?_behind, ofTerm?_behind, Term.isConst_later, Term.minSize_later, fixed,
        Term.branches?_later]
      split
      · rw [Option.map_map, Option.map_map]
        rfl
      · refine together fun plans => ?_
        simp only [← altAll_later, List.map_map]
        rfl
    | notBehind =>
      rw [Term.later, ofTerm?_notBehind, ofTerm?_notBehind, Term.isConst_later, Term.minSize_later, fixed,
        Term.branches?_later]
      split
      · rw [Option.map_map, Option.map_map]
        rfl
      · refine together fun plans => ?_
        simp only [← seqAll_later, List.map_map]
        rfl
  | atomic body => simp [Term.later, ofTerm?, ofTerm?_later refs false body, Function.comp_def, later]
  | conditional condition yes no =>
    rw [Term.later, ofTerm?, ofTerm?, ofTerm?_later refs hard condition, ofTerm?_later refs hard yes,
      ofTerm?_later refs hard no]
    cases ofTerm? refs hard condition with
    | none => rfl
    | some condition =>
      cases ofTerm? refs hard yes with
      | none => rfl
      | some yes => cases ofTerm? refs hard no <;> rfl
  | _ => simp [Term.later, ofTerm?, later]

theorem ofTerms?_later (refs : List Nat) (hard : Bool) (terms : List Term) :
    ofTerms? (refs.map laterGroup) hard (terms.map Term.later) = (ofTerms? refs hard terms).map (·.map later) := by
  match terms with
  | [] => simp [ofTerms?]
  | t :: rest =>
    rw [List.map_cons, ofTerms?, ofTerms?, ofTerm?_later refs hard t, ofTerms?_later refs hard rest]
    cases ofTerm? refs hard t with
    | none => rfl
    | some plan => cases ofTerms? refs hard rest <;> rfl

theorem behindEach?_later (refs : List Nat) (terms : List Term) :
    behindEach? (refs.map laterGroup) (terms.map Term.later) = (behindEach? refs terms).map (·.map later) := by
  match terms with
  | [] => simp [behindEach?]
  | t :: rest =>
    rw [List.map_cons, behindEach?, behindEach?, Term.isConst_later, ofTerm?_later refs false t,
      behindEach?_later refs rest, Term.minSize_later]
    split
    · cases ofTerm? refs false t with
      | none => rfl
      | some plan => cases behindEach? refs rest <;> rfl
    · rfl

end

end Plan
end PatternComposer.Regex.Extended
