import PatternComposer.Alias
import PatternComposer.Config.Settings
import PatternComposer.Nesting
import PatternComposer.Pattern.Basic
import PatternComposer.Text.Escape

/-! # The pattern builder

A builder holds the pattern text assembled so far and the statements that are open in it. Each
operation appends one fragment; operations that begin or end a statement also open or close it.
Building checks that nothing is open and hands the text to the engine.
-/

namespace PatternComposer

structure Builder where
  pattern : String
  nesting : Nesting
  settings : Settings
  aliases : AliasRegistry

namespace Builder

/-- An empty builder with the given settings. -/
def ofSettings (settings : Settings) : Builder := ⟨"", .empty, settings, .empty⟩

/-- An empty builder with the initial settings. -/
def new : Builder := ofSettings .initial

instance : Inhabited Builder := ⟨new⟩

/-- A builder from raw options, with warnings about those that could not be used. -/
def load (raw : Option ConfigValue) : Builder × List ConfigWarning :=
  let (settings, warnings) := Settings.load raw
  (ofSettings settings, warnings)

/-- A builder from raw options. -/
def ofOptions (raw : ConfigValue) : Builder := (load (some raw)).1

/-- Open statements, the outermost first. -/
def openStatements (b : Builder) : List Statement := b.nesting.toList

/-- Appends a fragment. -/
def push (b : Builder) (fragment : String) : Builder := { b with pattern := b.pattern ++ fragment }

/-- Opens a statement and appends its beginning. -/
def opening (b : Builder) (kind : Statement) (fragment : String) : Builder :=
  { b with pattern := b.pattern ++ fragment, nesting := b.nesting.push kind }

/-- Closes a statement and appends its end. -/
def closing (b : Builder) (kind : Statement) : Except Error Builder :=
  (b.nesting.pop kind b.settings.groupValidation).map fun nesting =>
    { b with pattern := b.pattern ++ ")", nesting := nesting }

/-! ## Building -/

/-- The source of the pattern that the builder would build. -/
def source (b : Builder) : String :=
  if b.settings.wrapInsideGroup then "(" ++ b.pattern ++ ")" else b.pattern

/-- Compiles the pattern with the configured flags and then those given. -/
def buildWithFlags (b : Builder) (flags : Flags) : Except Error Pattern :=
  match if b.settings.groupValidation then b.nesting.top? else none with
  | some kind => .error (.missingEnd kind)
  | none => Pattern.compile b.source ((Flags.ofList b.settings.flags).merge flags)

/-- Compiles the pattern with the configured flags. -/
def build (b : Builder) : Except Error Pattern := b.buildWithFlags .empty

/-! ## Matching characters -/

/-- Any single character. -/
def matchesAny (b : Builder) : Builder := b.push "."

/-- One of the characters of a set in brackets. The set is not escaped. -/
def matchesFor (b : Builder) (characters : String) : Builder := b.push ("[" ++ characters ++ "]")

def matchesOneOf (b : Builder) (characters : String) : Builder := b.matchesFor characters

/-- Any character but those of a set in brackets. The set is not escaped. -/
def matchesNotFor (b : Builder) (characters : String) : Builder :=
  b.push ("[^" ++ characters ++ "]")

def matchesNotOneOf (b : Builder) (characters : String) : Builder := b.matchesNotFor characters

def matchesDigit (b : Builder) : Builder := b.matchesFor "0-9"

def matchesNonDigit (b : Builder) : Builder := b.matchesNotFor "0-9"

def matchesFormFeed (b : Builder) : Builder := b.push "\\f"

def matchesLineFeed (b : Builder) : Builder := b.push "\\n"

def matchesCarriageReturn (b : Builder) : Builder := b.push "\\r"

def matchesWhiteSpace (b : Builder) : Builder := b.push "\\s"

def matchesNotWhiteSpace (b : Builder) : Builder := b.push "\\S"

def matchesTab (b : Builder) : Builder := b.push "\\t"

def matchesVerticalTab (b : Builder) : Builder := b.push "\\v"

def matchesAlphanumeric (b : Builder) : Builder := b.push "\\w"

def matchesNonAlphanumeric (b : Builder) : Builder := b.push "\\W"

def matchesNull (b : Builder) : Builder := b.push "\\0"

def matchesLetter (b : Builder) : Builder := b.matchesFor "a-zA-Z"

def matchesUppercaseLetter (b : Builder) : Builder := b.matchesFor "A-Z"

def matchesLowercaseLetter (b : Builder) : Builder := b.matchesFor "a-z"

def matchesBackspace (b : Builder) : Builder := b.push "[\\b]"

/-! ## Matching text, patterns and builders -/

/-- The fragment of a literal text. It is grouped unless it is a single character, so that a
quantifier applies to all of it; an empty text has no fragment. -/
def textFragment (captured : Bool) (text : String) : String :=
  let escaped := Text.escapeString text
  if text.isEmpty then ""
  else if captured then "(" ++ escaped ++ ")"
  else if text.length = 1 then escaped
  else "(?:" ++ escaped ++ ")"

/-- Literal text. -/
def matchesText (b : Builder) (text : String) : Builder :=
  b.push (textFragment b.settings.wrapTextInsideGroup text)

/-- Literal text in a capturing group. -/
def matchesCapturedText (b : Builder) (text : String) : Builder := b.push (textFragment true text)

/-- Pattern text, as it is. -/
def matchesFreeText (b : Builder) (text : String) : Builder := b.push text

/-- The source of a compiled pattern, without a group around it. -/
def matchesRegexp (b : Builder) (pattern : Pattern) : Builder := b.push pattern.source

/-- The source of what another builder builds. -/
def matchesBuilder (b other : Builder) : Except Error Builder := other.build.map b.matchesRegexp

/-- Something to insert into a pattern. -/
inductive Input where
  | text (text : String)
  | pattern (pattern : Pattern)
  | builder (builder : Builder)
  /-- A value of another type. It is refused. -/
  | unsupported (type : String)

/-- An input that may be missing. -/
def Input.ofOption : Option Input → Input
  | some input => input
  | none => .unsupported "none"

/-- Inserts text, a pattern or what a builder builds. -/
def «matches» (b : Builder) : Input → Except Error Builder
  | .text text => .ok (b.matchesText text)
  | .pattern pattern => .ok (b.matchesRegexp pattern)
  | .builder other => b.matchesBuilder other
  | .unsupported type => .error (.illegalArgument (.unsupported type))

/-! ## Quantifiers -/

/-- The piece before `min` times, or between `min` and `max` times. -/
def matchesTimes (b : Builder) (min : UInt32) (max : Option UInt32) : Builder :=
  b.push (match max with
    | some max => "\x7b" ++ toString min.toNat ++ "," ++ toString max.toNat ++ "\x7d"
    | none => "\x7b" ++ toString min.toNat ++ "\x7d")

def withConstraint (b : Builder) (min : UInt32) (max : Option UInt32) : Builder :=
  b.matchesTimes min max

def oneOrMoreTimes (b : Builder) : Builder := b.push "+"

def zeroOrMoreTimes (b : Builder) : Builder := b.push "*"

def zeroOrOneTimes (b : Builder) : Builder := b.push "?"

/-- Makes the quantifier before it lazy. -/
def withNotGreedy (b : Builder) : Builder := b.push "?"

/-! ## Positions and alternatives -/

def matchesWordBoundary (b : Builder) : Builder := b.push "\\b"

def matchesNotWordBoundary (b : Builder) : Builder := b.push "\\B"

def beginLine (b : Builder) : Builder := b.push "^"

def endLine (b : Builder) : Builder := b.push "$"

def or (b : Builder) : Builder := b.push "|"

/-- Does nothing; reads well between other operations. -/
def and (b : Builder) : Builder := b

/-! ## Groups and lookaheads -/

def beginGroup (b : Builder) : Builder := b.opening .group "("

def beginNonCapturedGroup (b : Builder) : Builder := b.opening .group "(?:"

def endGroup (b : Builder) : Except Error Builder := b.closing .group

def endNonCapturedGroup (b : Builder) : Except Error Builder := b.endGroup

def startLookAheadFor (b : Builder) : Builder := b.opening .lookAhead "(?="

def ifFollowedBy (b : Builder) : Builder := b.startLookAheadFor

def startNegatedLookAhead (b : Builder) : Builder := b.opening .lookAhead "(?!"

def ifNotFollowedBy (b : Builder) : Builder := b.startNegatedLookAhead

def endLookAhead (b : Builder) : Except Error Builder := b.closing .lookAhead

def endNegatedLookAhead (b : Builder) : Except Error Builder := b.endLookAhead

def matchEnd (b : Builder) : Except Error Builder := b.endLookAhead

/-- The text that a group captured. Whether there is such a group is not checked. -/
def useGroup (b : Builder) (group : UInt32) : Builder := b.push ("\\" ++ toString group.toNat)

/-! ## Aliases and starting over -/

/-- Adds an alias for an operation. -/
def addAlias (b : Builder) (operation name : String) : Except Error Builder :=
  (b.aliases.add operation name).map fun aliases => { b with aliases := aliases }

/-- Removes an alias, and tells whether there was one. -/
def deleteAlias (b : Builder) (name : String) : Builder × Bool :=
  ({ b with aliases := b.aliases.remove name }, b.aliases.contains name)

/-- Forgets the pattern and what is open in it. Settings and aliases stay. -/
def clear (b : Builder) : Builder := { b with pattern := "", nesting := .empty }

end Builder
end PatternComposer
