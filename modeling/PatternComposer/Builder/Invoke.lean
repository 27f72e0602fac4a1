import PatternComposer.Builder.Basic

/-! # Operations invoked by name

`Builder.apply` runs an operation on arguments of any kinds, provided that they fit it, and
`Builder.invoke` finds the operation by its name or by an alias.
-/

namespace PatternComposer

/-- An argument whose kind is only known when it is given. -/
inductive Argument where
  | text (text : String)
  | number (n : UInt32)
  | pattern (pattern : Pattern)
  | builder (builder : Builder)

namespace Argument

def kind : Argument → ArgumentKind
  | .text _ => .text
  | .number _ => .number
  | .pattern _ => .pattern
  | .builder _ => .builder

end Argument

namespace Builder

/-- Runs an operation that takes no arguments, if it is one. -/
def applyNullary (b : Builder) : Operation → Option (Except Error Builder)
  | .matchesAny => some (.ok b.matchesAny)
  | .matchesDigit => some (.ok b.matchesDigit)
  | .matchesNonDigit => some (.ok b.matchesNonDigit)
  | .matchesFormFeed => some (.ok b.matchesFormFeed)
  | .matchesLineFeed => some (.ok b.matchesLineFeed)
  | .matchesCarriageReturn => some (.ok b.matchesCarriageReturn)
  | .matchesWhiteSpace => some (.ok b.matchesWhiteSpace)
  | .matchesNotWhiteSpace => some (.ok b.matchesNotWhiteSpace)
  | .matchesTab => some (.ok b.matchesTab)
  | .matchesVerticalTab => some (.ok b.matchesVerticalTab)
  | .matchesAlphanumeric => some (.ok b.matchesAlphanumeric)
  | .matchesNonAlphanumeric => some (.ok b.matchesNonAlphanumeric)
  | .matchesNull => some (.ok b.matchesNull)
  | .matchesLetter => some (.ok b.matchesLetter)
  | .matchesUppercaseLetter => some (.ok b.matchesUppercaseLetter)
  | .matchesLowercaseLetter => some (.ok b.matchesLowercaseLetter)
  | .matchesBackspace => some (.ok b.matchesBackspace)
  | .oneOrMoreTimes => some (.ok b.oneOrMoreTimes)
  | .zeroOrMoreTimes => some (.ok b.zeroOrMoreTimes)
  | .zeroOrOneTimes => some (.ok b.zeroOrOneTimes)
  | .withNotGreedy => some (.ok b.withNotGreedy)
  | .matchesWordBoundary => some (.ok b.matchesWordBoundary)
  | .matchesNotWordBoundary => some (.ok b.matchesNotWordBoundary)
  | .beginLine => some (.ok b.beginLine)
  | .endLine => some (.ok b.endLine)
  | .beginGroup => some (.ok b.beginGroup)
  | .beginNonCapturedGroup => some (.ok b.beginNonCapturedGroup)
  | .endGroup => some b.endGroup
  | .endNonCapturedGroup => some b.endNonCapturedGroup
  | .startLookAheadFor => some (.ok b.startLookAheadFor)
  | .ifFollowedBy => some (.ok b.ifFollowedBy)
  | .startNegatedLookAhead => some (.ok b.startNegatedLookAhead)
  | .ifNotFollowedBy => some (.ok b.ifNotFollowedBy)
  | .endLookAhead => some b.endLookAhead
  | .endNegatedLookAhead => some b.endNegatedLookAhead
  | .matchEnd => some b.matchEnd
  | .or => some (.ok b.or)
  | .and => some (.ok b.and)
  | _ => none

/-- Runs an operation that takes one text, if it is one. -/
def applyText (b : Builder) (text : String) : Operation → Option (Except Error Builder)
  | .matches => some (b.matches (.text text))
  | .matchesFreeText => some (.ok (b.matchesFreeText text))
  | .matchesFor => some (.ok (b.matchesFor text))
  | .matchesOneOf => some (.ok (b.matchesOneOf text))
  | .matchesNotFor => some (.ok (b.matchesNotFor text))
  | .matchesNotOneOf => some (.ok (b.matchesNotOneOf text))
  | .matchesText => some (.ok (b.matchesText text))
  | .matchesCapturedText => some (.ok (b.matchesCapturedText text))
  | _ => none

/-- Runs an operation on arguments, if they fit its parameters. -/
def applyFitting (b : Builder) (operation : Operation) :
    List Argument → Option (Except Error Builder)
  | [] => b.applyNullary operation
  | [.text text] => b.applyText text operation
  | [.pattern pattern] =>
    match operation with
    | .matches => some (b.matches (.pattern pattern))
    | .matchesRegexp => some (.ok (b.matchesRegexp pattern))
    | _ => none
  | [.builder other] =>
    match operation with
    | .matches => some (b.matches (.builder other))
    | .matchesBuilder => some (b.matchesBuilder other)
    | _ => none
  | [.number n] =>
    match operation with
    | .matchesTimes => some (.ok (b.matchesTimes n none))
    | .withConstraint => some (.ok (b.withConstraint n none))
    | .useGroup => some (.ok (b.useGroup n))
    | _ => none
  | [.number min, .number max] =>
    match operation with
    | .matchesTimes => some (.ok (b.matchesTimes min (some max)))
    | .withConstraint => some (.ok (b.withConstraint min (some max)))
    | _ => none
  | _ => none

/-- Runs an operation on arguments. -/
def apply (b : Builder) (operation : Operation) (args : List Argument) : Except Error Builder :=
  match b.applyFitting operation args with
  | some result => result
  | none => .error (.illegalArgument (.mismatch operation (args.map Argument.kind)))

/-- Runs an operation that is given by its name or by an alias. -/
def invoke (b : Builder) (name : String) (args : List Argument) : Except Error Builder :=
  match b.aliases.resolve? name with
  | some operation => b.apply operation args
  | none => .error (.unknownOperation name)

end Builder
end PatternComposer
