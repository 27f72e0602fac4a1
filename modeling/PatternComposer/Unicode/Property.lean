import PatternComposer.Unicode.Age
import PatternComposer.Unicode.Break

/-! # Character properties by name

Names are compared without regard to case, blanks, hyphens, underscores and a leading `is`. A
lone name is a yes-or-no property, a general category or a script, looked for in this order; a
name with a value is a general category, a script, a version or a class of text boundaries.
-/

namespace PatternComposer.Unicode

/-- Yes-or-no properties by name. -/
def properties : List (String × CharSet) := [
  ("ahex", asciiHexDigit), ("asciihexdigit", asciiHexDigit), ("alpha", alphabetic),
  ("alphabetic", alphabetic), ("bidic", bidiControl), ("bidicontrol", bidiControl),
  ("bidim", bidiMirrored), ("bidimirrored", bidiMirrored), ("caseignorable", caseIgnorable),
  ("ci", caseIgnorable), ("cased", cased), ("changeswhencasefolded", changesWhenCasefolded),
  ("cwcf", changesWhenCasefolded), ("changeswhencasemapped", changesWhenCasemapped),
  ("cwcm", changesWhenCasemapped), ("changeswhenlowercased", changesWhenLowercased),
  ("cwl", changesWhenLowercased), ("changeswhentitlecased", changesWhenTitlecased),
  ("cwt", changesWhenTitlecased), ("changeswhenuppercased", changesWhenUppercased),
  ("cwu", changesWhenUppercased), ("dash", dash), ("defaultignorablecodepoint", defaultIgnorable),
  ("di", defaultIgnorable), ("dep", discouraged), ("deprecated", discouraged), ("dia", diacritic),
  ("diacritic", diacritic), ("emoji", emoji), ("ecomp", emojiComponent),
  ("emojicomponent", emojiComponent), ("emod", emojiModifier), ("emojimodifier", emojiModifier),
  ("ebase", emojiModifierBase), ("emojimodifierbase", emojiModifierBase),
  ("emojipresentation", emojiPresentation), ("epres", emojiPresentation),
  ("extendedpictographic", extendedPictographic), ("extpict", extendedPictographic),
  ("ext", extender), ("extender", extender), ("graphemebase", graphemeBase),
  ("grbase", graphemeBase), ("graphemeextend", graphemeExtend), ("grext", graphemeExtend),
  ("graphemelink", graphemeLink), ("grlink", graphemeLink), ("hex", hexDigit),
  ("hexdigit", hexDigit), ("hyphen", hyphen), ("idsb", idsBinaryOperator),
  ("idsbinaryoperator", idsBinaryOperator), ("idst", idsTrinaryOperator),
  ("idstrinaryoperator", idsTrinaryOperator), ("idsu", idsUnaryOperator),
  ("idsunaryoperator", idsUnaryOperator), ("idcompatmathcontinue", idCompatMathContinue),
  ("idcompatmathstart", idCompatMathStart), ("idc", idContinue), ("idcontinue", idContinue),
  ("ids", idStart), ("idstart", idStart), ("ideo", ideographic), ("ideographic", ideographic),
  ("joinc", joinControl), ("joincontrol", joinControl), ("loe", logicalOrderException),
  ("logicalorderexception", logicalOrderException), ("lower", lowercase), ("lowercase", lowercase),
  ("math", math), ("mcm", modifierCombiningMark), ("modifiercombiningmark", modifierCombiningMark),
  ("nchar", noncharacter), ("noncharactercodepoint", noncharacter), ("oalpha", otherAlphabetic),
  ("otheralphabetic", otherAlphabetic), ("odi", otherDefaultIgnorable),
  ("otherdefaultignorablecodepoint", otherDefaultIgnorable), ("ogrext", otherGraphemeExtend),
  ("othergraphemeextend", otherGraphemeExtend), ("oidc", otherIdContinue),
  ("otheridcontinue", otherIdContinue), ("oids", otherIdStart), ("otheridstart", otherIdStart),
  ("olower", otherLowercase), ("otherlowercase", otherLowercase), ("omath", otherMath),
  ("othermath", otherMath), ("otheruppercase", otherUppercase), ("oupper", otherUppercase),
  ("patsyn", patternMark), ("patternsyntax", patternMark), ("patternwhitespace", patternBlank),
  ("patws", patternBlank), ("pcm", prependedMark), ("prependedconcatenationmark", prependedMark),
  ("qmark", quotationMark), ("quotationmark", quotationMark), ("radical", radical),
  ("regionalindicator", regionalIndicator), ("ri", regionalIndicator),
  ("sentenceterminal", sentenceTerminal), ("sterm", sentenceTerminal), ("sd", softDotted),
  ("softdotted", softDotted), ("term", terminalPunctuation),
  ("terminalpunctuation", terminalPunctuation), ("uideo", unifiedIdeograph),
  ("unifiedideograph", unifiedIdeograph), ("upper", uppercase), ("uppercase", uppercase),
  ("variationselector", variationSelector), ("vs", variationSelector), ("space", blank),
  ("whitespace", blank), ("wspace", blank), ("xidc", xidContinue), ("xidcontinue", xidContinue),
  ("xids", xidStart), ("xidstart", xidStart)]

/-- General categories, single and grouped, by name. -/
def categories : List (String × CharSet) := [
  ("any", .all), ("assigned", unassigned.complement), ("ascii", .range 0 0x7F),
  ("c", other), ("other", other), ("cc", control), ("control", control), ("cntrl", control),
  ("cf", format), ("format", format), ("cn", unassigned), ("unassigned", unassigned),
  ("co", privateUse), ("privateuse", privateUse), ("l", letter), ("letter", letter),
  ("lc", casedLetter), ("casedletter", casedLetter), ("ll", lowercaseLetter),
  ("lowercaseletter", lowercaseLetter), ("lm", modifierLetter), ("modifierletter", modifierLetter),
  ("lo", otherLetter), ("otherletter", otherLetter), ("lt", titlecaseLetter),
  ("titlecaseletter", titlecaseLetter), ("lu", uppercaseLetter),
  ("uppercaseletter", uppercaseLetter), ("m", mark), ("mark", mark), ("combiningmark", mark),
  ("mc", spacingMark), ("spacingmark", spacingMark), ("me", enclosingMark),
  ("enclosingmark", enclosingMark), ("mn", nonspacingMark), ("nonspacingmark", nonspacingMark),
  ("n", number), ("number", number), ("nd", digit), ("decimalnumber", digit), ("digit", digit),
  ("nl", letterNumber), ("letternumber", letterNumber), ("no", otherNumber),
  ("othernumber", otherNumber), ("p", punctuation), ("punctuation", punctuation),
  ("punct", punctuation), ("pc", connectorPunctuation),
  ("connectorpunctuation", connectorPunctuation), ("pd", dashPunctuation),
  ("dashpunctuation", dashPunctuation), ("pe", closePunctuation),
  ("closepunctuation", closePunctuation), ("pf", finalPunctuation),
  ("finalpunctuation", finalPunctuation), ("pi", initialPunctuation),
  ("initialpunctuation", initialPunctuation), ("po", otherPunctuation),
  ("otherpunctuation", otherPunctuation), ("ps", openPunctuation),
  ("openpunctuation", openPunctuation), ("s", symbol), ("symbol", symbol),
  ("sc", currencySymbol), ("currencysymbol", currencySymbol), ("sk", modifierSymbol),
  ("modifiersymbol", modifierSymbol), ("sm", mathSymbol), ("mathsymbol", mathSymbol),
  ("so", otherSymbol), ("othersymbol", otherSymbol), ("z", separator), ("separator", separator),
  ("zl", lineSeparator), ("lineseparator", lineSeparator), ("zp", paragraphSeparator),
  ("paragraphseparator", paragraphSeparator), ("zs", spaceSeparator),
  ("spaceseparator", spaceSeparator)]

/-- The form of a name that comparisons use. The name of one letter left of `isc` stays whole. -/
def plainName (name : List Char) : String :=
  let keep (cs : List Char) : List Char :=
    (cs.filter fun c => c != ' ' && c != '_' && c != '-' && decide (c.toNat < 128)).map Char.toLower
  let rest : Option (List Char) :=
    match name with
    | a :: b :: rest => if a.toLower == 'i' && b.toLower == 's' then some (keep rest) else none
    | _ => none
  match rest with
  | some ['c'] => "isc"
  | some cs => String.ofList cs
  | none => String.ofList (keep name)

/-- The set of a lone name. `cf`, `sc` and `lc` are categories only. -/
def named? (name : List Char) : Option CharSet :=
  let name := plainName name
  let property := if name == "cf" || name == "sc" || name == "lc" then none
    else properties.lookup name
  property <|> categories.lookup name <|> (Script.named? name).map Script.chars

/-- The set of a name with a value. -/
def valued? (name value : List Char) : Option CharSet :=
  let value := plainName value
  match plainName name with
  | "gc" | "generalcategory" => categories.lookup value
  | "sc" | "script" => (Script.named? value).map Script.chars
  | "scx" | "scriptextensions" => (Script.named? value).map Script.extended
  | "age" => Version.age? value Version.all
  | "gcb" | "graphemeclusterbreak" => GraphemeBreak.classes.lookup value
  | "wb" | "wordbreak" => WordBreak.classes.lookup value
  | "sb" | "sentencebreak" => SentenceBreak.classes.lookup value
  | _ => none

end PatternComposer.Unicode
