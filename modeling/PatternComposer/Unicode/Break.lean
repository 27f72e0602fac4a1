import PatternComposer.Unicode.Derived
import PatternComposer.Unicode.Script

/-! # Text boundaries

The classes of characters that the segmentation of a text into graphemes, words and sentences
tells apart. Characters of no class here are of the class for the rest, which has no name.
-/

namespace PatternComposer.Unicode

/-! ## Graphemes -/

namespace GraphemeBreak

def extend : CharSet := graphemeExtend.union emojiModifier

/-- Characters that are not shown, the joiners, the two line ends and the tags apart. -/
def control : CharSet :=
  (((lineSeparator.union paragraphSeparator).union ((Unicode.control.union format).union
    (unassigned.inter defaultIgnorable))).diff prependedMark).diff
      ⟨[(0xA, 0xA), (0xD, 0xD), (0x200C, 0x200D), (0xE0020, 0xE007F)]⟩

def spacingMark : CharSet :=
  ((Unicode.spacingMark.diff otherGraphemeExtend).union ⟨[(0xE33, 0xE33), (0xEB3, 0xEB3)]⟩).diff ⟨[
    (0x102B, 0x102C), (0x1038, 0x1038), (0x1062, 0x1064), (0x1067, 0x106D), (0x1083, 0x1083),
    (0x1087, 0x108C), (0x108F, 0x108F), (0x109A, 0x109C), (0x1A61, 0x1A61), (0x1A63, 0x1A64),
    (0xAA7B, 0xAA7B), (0xAA7D, 0xAA7D), (0x11720, 0x11721)]⟩

def prepend : CharSet := prependedMark.union ⟨[
  (0xD4E, 0xD4E), (0x111C2, 0x111C3), (0x113D1, 0x113D1), (0x1193F, 0x1193F), (0x11941, 0x11941),
  (0x11A3A, 0x11A3A), (0x11A84, 0x11A89), (0x11D46, 0x11D46), (0x11F02, 0x11F02)]⟩

/-! Hangul syllables: the jamo, and composed syllables without and with a final one. -/

def leadingJamo : CharSet := ⟨[(0x1100, 0x115F), (0xA960, 0xA97C)]⟩

def vowelJamo : CharSet := ⟨[
  (0x1160, 0x11A7), (0xD7B0, 0xD7C6), (0x16D63, 0x16D63), (0x16D67, 0x16D6A)]⟩

def trailingJamo : CharSet := ⟨[(0x11A8, 0x11FF), (0xD7CB, 0xD7FB)]⟩

def openSyllable : CharSet := ⟨(List.range 399).map fun i => (0xAC00 + 28 * i, 0xAC00 + 28 * i)⟩
def closedSyllable : CharSet := ⟨(List.range 399).map fun i => (0xAC01 + 28 * i, 0xAC1B + 28 * i)⟩

def classes : List (String × CharSet) := [
  ("cn", control), ("control", control), ("cr", .range 0xD 0xD), ("ex", extend), ("extend", extend),
  ("l", leadingJamo), ("lf", .range 0xA 0xA), ("lv", openSyllable), ("lvt", closedSyllable),
  ("pp", prepend), ("prepend", prepend), ("regionalindicator", regionalIndicator),
  ("ri", regionalIndicator), ("sm", spacingMark), ("spacingmark", spacingMark), ("t", trailingJamo),
  ("v", vowelJamo), ("zwj", .range 0x200D 0x200D)]

end GraphemeBreak

/-! ## Sentences -/

namespace SentenceBreak

/-- Full stops, which may also end an abbreviation. -/
def period : CharSet := ⟨[(0x2E, 0x2E), (0x2024, 0x2024), (0xFE52, 0xFE52), (0xFF0E, 0xFF0E)]⟩

def separator : CharSet := ⟨[(0x85, 0x85), (0x2028, 0x2029)]⟩

/-- Marks after which a sentence goes on. -/
def continuation : CharSet := ⟨[
  (0x2C, 0x2D), (0x3A, 0x3B), (0x37E, 0x37E), (0x55D, 0x55D), (0x60C, 0x60D), (0x7F8, 0x7F8),
  (0x1802, 0x1802), (0x1808, 0x1808), (0x2013, 0x2014), (0x3001, 0x3001), (0xFE10, 0xFE11),
  (0xFE13, 0xFE14), (0xFE31, 0xFE32), (0xFE50, 0xFE51), (0xFE54, 0xFE55), (0xFE58, 0xFE58),
  (0xFE63, 0xFE63), (0xFF0C, 0xFF0D), (0xFF1A, 0xFF1B), (0xFF64, 0xFF64)]⟩

def lineEnd : CharSet := ⟨[(0xA, 0xA), (0xD, 0xD)]⟩
def extend : CharSet := (graphemeExtend.union Unicode.spacingMark).union (.range 0x200D 0x200D)

def format : CharSet :=
  (Unicode.format.diff (prependedMark.diff (.range 0x70F 0x70F))).diff
    ⟨[(0x200C, 0x200D), (0xE0020, 0xE007F)]⟩

def space : CharSet := blank.diff (separator.union lineEnd)
def lower : CharSet := (lowercase.diff graphemeExtend).diff ⟨[(0x10D0, 0x10FA), (0x10FD, 0x10FF)]⟩

def upper : CharSet := (titlecaseLetter.union uppercase).diff ⟨[(0x1C90, 0x1CBA), (0x1CBD, 0x1CBF)]⟩

/-- Letters without case. -/
def otherLetter : CharSet :=
  (alphabetic.union (.range 0x5F3 0x5F3)).diff ((lower.union upper).union extend)

def terminal : CharSet := sentenceTerminal.diff period

def numeric : CharSet :=
  (digit.union (prependedMark.diff (.range 0x70F 0x70F))).union
    ⟨[(0x66B, 0x66C), (0x19DA, 0x19DA)]⟩

/-- Brackets and quotation marks. -/
def close : CharSet :=
  (((openPunctuation.union closePunctuation).union
    ((initialPunctuation.union finalPunctuation).union quotationMark)).diff
      ⟨[(0xFF02, 0xFF02), (0xFF07, 0xFF07)]⟩).union ⟨[
        (0x275B, 0x2760), (0x2E00, 0x2E01), (0x2E06, 0x2E08), (0x2E0B, 0x2E0B), (0x1F676, 0x1F678)]⟩

def classes : List (String × CharSet) := [
  ("at", period), ("aterm", period), ("cl", close), ("close", close), ("cr", .range 0xD 0xD),
  ("ex", extend), ("extend", extend), ("fo", format), ("format", format), ("le", otherLetter),
  ("lf", .range 0xA 0xA), ("lo", lower), ("lower", lower), ("nu", numeric), ("numeric", numeric),
  ("oletter", otherLetter), ("sc", continuation), ("scontinue", continuation), ("se", separator),
  ("sep", separator), ("sp", space), ("st", terminal), ("sterm", terminal), ("up", upper),
  ("upper", upper)]

end SentenceBreak

/-! ## Words -/

namespace WordBreak

def extend : CharSet := (graphemeExtend.union Unicode.spacingMark).union emojiModifier

def format : CharSet :=
  (Unicode.format.diff prependedMark).diff ⟨[(0x200B, 0x200D), (0xE0020, 0xE007F)]⟩

def numeric : CharSet := SentenceBreak.numeric.diff (.range 0x66C 0x66C)
def hebrewLetter : CharSet := Script.hebrew.inter otherLetter
def connector : CharSet := connectorPunctuation.union (.range 0x202F 0x202F)

def katakana : CharSet := Script.katakana.union ⟨[
  (0x3031, 0x3035), (0x309B, 0x309C), (0x30A0, 0x30A0), (0x30FC, 0x30FC), (0xFF70, 0xFF70)]⟩

/-- Marks that count as letters of a word. -/
def letterLike : CharSet := ⟨[
  (0x2C2, 0x2C5), (0x2D2, 0x2D7), (0x2DE, 0x2DF), (0x2E5, 0x2EB), (0x2ED, 0x2ED), (0x2EF, 0x2FF),
  (0x55A, 0x55C), (0x55E, 0x55E), (0x58A, 0x58A), (0x5F3, 0x5F3), (0x70F, 0x70F), (0xA708, 0xA716),
  (0xA720, 0xA721), (0xA789, 0xA78A), (0xAB5B, 0xAB5B)]⟩

/-- Letters of scripts that write words without spaces between them. -/
def unspaced : CharSet := ⟨[
  (0xE01, 0xE30), (0xE32, 0xE33), (0xE40, 0xE46), (0xE81, 0xE82), (0xE84, 0xE84), (0xE86, 0xE8A),
  (0xE8C, 0xEA3), (0xEA5, 0xEA5), (0xEA7, 0xEB0), (0xEB2, 0xEB3), (0xEBD, 0xEBD), (0xEC0, 0xEC4),
  (0xEC6, 0xEC6), (0xEDC, 0xEDF), (0x1000, 0x102A), (0x103F, 0x103F), (0x1050, 0x1055),
  (0x105A, 0x105D), (0x1061, 0x1061), (0x1065, 0x1066), (0x106E, 0x1070), (0x1075, 0x1081),
  (0x108E, 0x108E), (0x1780, 0x17B3), (0x17D7, 0x17D7), (0x17DC, 0x17DC), (0x1950, 0x196D),
  (0x1970, 0x1974), (0x1980, 0x19AB), (0x19B0, 0x19C9), (0x1A20, 0x1A54), (0x1AA7, 0x1AA7),
  (0xA9E0, 0xA9E4), (0xA9E6, 0xA9EF), (0xA9FA, 0xA9FE), (0xAA60, 0xAA76), (0xAA7A, 0xAA7A),
  (0xAA7E, 0xAAAF), (0xAAB1, 0xAAB1), (0xAAB5, 0xAAB6), (0xAAB9, 0xAABD), (0xAAC0, 0xAAC0),
  (0xAAC2, 0xAAC2), (0xAADB, 0xAADD), (0x11700, 0x1171A), (0x11740, 0x11746)]⟩

/-- Letters of scripts that write spaces between words. -/
def letter : CharSet :=
  (((alphabetic.union letterLike).diff (ideographic.union (katakana.union Script.hiragana))).diff
    hebrewLetter).diff (extend.union unspaced)

/-- Marks that stand between digits of one word. -/
def midNum : CharSet := ⟨[
  (0x2C, 0x2C), (0x3B, 0x3B), (0x37E, 0x37E), (0x589, 0x589), (0x60C, 0x60D), (0x66C, 0x66C),
  (0x7F8, 0x7F8), (0x2044, 0x2044), (0xFE50, 0xFE50), (0xFE54, 0xFE54), (0xFF0C, 0xFF0C),
  (0xFF1B, 0xFF1B)]⟩

/-- Line ends besides the line feed and the carriage return. -/
def newline : CharSet := ⟨[(0xB, 0xC), (0x85, 0x85), (0x2028, 0x2029)]⟩

def space : CharSet := spaceSeparator.diff ⟨[(0xA0, 0xA0), (0x2007, 0x2007), (0x202F, 0x202F)]⟩

def classes : List (String × CharSet) := [
  ("aletter", letter), ("cr", .range 0xD 0xD), ("doublequote", .range 0x22 0x22),
  ("dq", .range 0x22 0x22), ("ex", connector), ("extend", extend), ("extendnumlet", connector),
  ("fo", format), ("format", format), ("hebrewletter", hebrewLetter), ("hl", hebrewLetter),
  ("ka", katakana), ("katakana", katakana), ("le", letter), ("lf", .range 0xA 0xA),
  ("mb", midNumLet), ("midletter", midLetter), ("midnum", midNum), ("midnumlet", midNumLet),
  ("ml", midLetter), ("mn", midNum), ("newline", newline), ("nl", newline), ("nu", numeric),
  ("numeric", numeric), ("regionalindicator", regionalIndicator), ("ri", regionalIndicator),
  ("singlequote", singleQuote), ("sq", singleQuote), ("wsegspace", space),
  ("zwj", .range 0x200D 0x200D)]

end WordBreak

end PatternComposer.Unicode
