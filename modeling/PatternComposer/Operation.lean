/-! # Operations by name

Every chaining operation of the builder, so that it can be invoked by its name.
-/

namespace PatternComposer

inductive Operation where
  | matches
  | matchesFreeText
  | matchesRegexp
  | matchesBuilder
  | matchesAny
  | matchesFor
  | matchesOneOf
  | matchesNotFor
  | matchesNotOneOf
  | matchesDigit
  | matchesNonDigit
  | matchesFormFeed
  | matchesLineFeed
  | matchesCarriageReturn
  | matchesWhiteSpace
  | matchesNotWhiteSpace
  | matchesTab
  | matchesVerticalTab
  | matchesAlphanumeric
  | matchesNonAlphanumeric
  | matchesNull
  | matchesLetter
  | matchesUppercaseLetter
  | matchesLowercaseLetter
  | matchesBackspace
  | matchesText
  | matchesCapturedText
  | matchesTimes
  | withConstraint
  | oneOrMoreTimes
  | zeroOrMoreTimes
  | zeroOrOneTimes
  | withNotGreedy
  | matchesWordBoundary
  | matchesNotWordBoundary
  | beginLine
  | endLine
  | beginGroup
  | beginNonCapturedGroup
  | endGroup
  | endNonCapturedGroup
  | startLookAheadFor
  | ifFollowedBy
  | startNegatedLookAhead
  | ifNotFollowedBy
  | endLookAhead
  | endNegatedLookAhead
  | matchEnd
  | useGroup
  | or
  | and
deriving DecidableEq, Repr, Inhabited

namespace Operation

/-- Every operation, in the order in which they are listed to users. -/
def all : List Operation := [
  .matches, .matchesFreeText, .matchesRegexp, .matchesBuilder, .matchesAny, .matchesFor,
  .matchesOneOf, .matchesNotFor, .matchesNotOneOf, .matchesDigit, .matchesNonDigit,
  .matchesFormFeed, .matchesLineFeed, .matchesCarriageReturn, .matchesWhiteSpace,
  .matchesNotWhiteSpace, .matchesTab, .matchesVerticalTab, .matchesAlphanumeric,
  .matchesNonAlphanumeric, .matchesNull, .matchesLetter, .matchesUppercaseLetter,
  .matchesLowercaseLetter, .matchesBackspace, .matchesText, .matchesCapturedText, .matchesTimes,
  .withConstraint, .oneOrMoreTimes, .zeroOrMoreTimes, .zeroOrOneTimes, .withNotGreedy,
  .matchesWordBoundary, .matchesNotWordBoundary, .beginLine, .endLine, .beginGroup,
  .beginNonCapturedGroup, .endGroup, .endNonCapturedGroup, .startLookAheadFor, .ifFollowedBy,
  .startNegatedLookAhead, .ifNotFollowedBy, .endLookAhead, .endNegatedLookAhead, .matchEnd,
  .useGroup, .or, .and]

def name : Operation → String
  | .matches => "matches"
  | .matchesFreeText => "matches_free_text"
  | .matchesRegexp => "matches_regexp"
  | .matchesBuilder => "matches_builder"
  | .matchesAny => "matches_any"
  | .matchesFor => "matches_for"
  | .matchesOneOf => "matches_one_of"
  | .matchesNotFor => "matches_not_for"
  | .matchesNotOneOf => "matches_not_one_of"
  | .matchesDigit => "matches_digit"
  | .matchesNonDigit => "matches_non_digit"
  | .matchesFormFeed => "matches_form_feed"
  | .matchesLineFeed => "matches_line_feed"
  | .matchesCarriageReturn => "matches_carriage_return"
  | .matchesWhiteSpace => "matches_white_space"
  | .matchesNotWhiteSpace => "matches_not_white_space"
  | .matchesTab => "matches_tab"
  | .matchesVerticalTab => "matches_vertical_tab"
  | .matchesAlphanumeric => "matches_alphanumeric"
  | .matchesNonAlphanumeric => "matches_non_alphanumeric"
  | .matchesNull => "matches_null"
  | .matchesLetter => "matches_letter"
  | .matchesUppercaseLetter => "matches_uppercase_letter"
  | .matchesLowercaseLetter => "matches_lowercase_letter"
  | .matchesBackspace => "matches_backspace"
  | .matchesText => "matches_text"
  | .matchesCapturedText => "matches_captured_text"
  | .matchesTimes => "matches_times"
  | .withConstraint => "with_constraint"
  | .oneOrMoreTimes => "one_or_more_times"
  | .zeroOrMoreTimes => "zero_or_more_times"
  | .zeroOrOneTimes => "zero_or_one_times"
  | .withNotGreedy => "with_not_greedy"
  | .matchesWordBoundary => "matches_word_boundary"
  | .matchesNotWordBoundary => "matches_not_word_boundary"
  | .beginLine => "begin_line"
  | .endLine => "end_line"
  | .beginGroup => "begin_group"
  | .beginNonCapturedGroup => "begin_non_captured_group"
  | .endGroup => "end_group"
  | .endNonCapturedGroup => "end_non_captured_group"
  | .startLookAheadFor => "start_look_ahead_for"
  | .ifFollowedBy => "if_followed_by"
  | .startNegatedLookAhead => "start_negated_look_ahead"
  | .ifNotFollowedBy => "if_not_followed_by"
  | .endLookAhead => "end_look_ahead"
  | .endNegatedLookAhead => "end_negated_look_ahead"
  | .matchEnd => "match_end"
  | .useGroup => "use_group"
  | .or => "or"
  | .and => "and"

instance : ToString Operation := ⟨name⟩

/-- The operation with a name. -/
def ofName? (name : String) : Option Operation := all.find? fun op => op.name == name

theorem mem_all (op : Operation) : op ∈ all := by cases op <;> decide

end Operation
end PatternComposer
