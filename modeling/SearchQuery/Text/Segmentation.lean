import SearchQuery.Text.Property
import SearchQuery.Text.Script

/-!
# Segmentation classes

Text is cut into user-perceived characters, words and sentences by three properties, each of which
puts a character into one class. The classes are defined by the standard from other properties; an
earlier rule wins over a later one, which the definitions here say by differences. Characters to
which no rule applies are in no class.
-/

namespace SearchQuery.Text.Segmentation

open PropertyTable PropertySet

/-- A carriage return, a line feed, and the joiner, which are classes of their own everywhere. -/
def carriageReturn : Ranges := [(0x0D, 0x0D)]

@[inherit_doc carriageReturn]
def lineFeed : Ranges := [(0x0A, 0x0A)]

@[inherit_doc carriageReturn]
def joiner : Ranges := [(0x200D, 0x200D)]

/-- The signs before digits that belong to the number. -/
def numberSign : Ranges := .ofLines ["600-605 6DD 890-891 8E2 110BD 110CD"]

/-- The characters of numbers: digits, the signs before them, and the decimal sign of one script. -/
def decimal : Ranges := .unions [categoryRanges [.nd], numberSign, .ofLines ["66B 19DA"]]

/-! ## User-perceived characters -/

namespace Grapheme

/-- The characters that continue the one before them. -/
def extend : Ranges := graphemeExtend.union emojiModifier

/-- The characters that stand before the one they belong to. -/
def prepend : Ranges :=
  prependedConcatenationMark.union
    (.ofLines ["D4E 111C2-111C3 113D1 1193F 11941 11A3A 11A84-11A89 11D46 11F02"])

/-- The controls, which stand alone. -/
def control : Ranges :=
  ((categoryRanges [.zl, .zp, .cc, .cf]).union ((categoryRanges [.cn]).inter defaultIgnorable)).diff
    (.unions [carriageReturn, lineFeed, joiner, extend, prepend])

/-- The marks that take space, but for those that stand alone. -/
def spacingMark : Ranges :=
  ((categoryRanges [.mc]).union (.ofLines ["E33 EB3"])).diff
    (extend.union (.ofLines [
      "102B-102C 1038 1062-1064 1067-106D 1083 1087-108C 108F 109A-109C 1A61 1A63-1A64 AA7B AA7D",
      "11720-11721"]))

/-- The leading consonants of syllables. -/
def leading : Ranges := .ofLines ["1100-115F A960-A97C"]

/-- The vowels of syllables. -/
def vowel : Ranges := .ofLines ["1160-11A7 D7B0-D7C6 16D63 16D67-16D6A"]

/-- The trailing consonants of syllables. -/
def trailing : Ranges := .ofLines ["11A8-11FF D7CB-D7FB"]

/-- The syllables of a consonant and a vowel: every 28th of all syllables. -/
def openSyllable : Ranges := (List.range 399).map fun k => (0xAC00 + 28 * k, 0xAC00 + 28 * k)

/-- The syllables with a trailing consonant. -/
def closedSyllable : Ranges := Ranges.diff [(0xAC00, 0xD7A3)] openSyllable

/-- The classes by their names in lower case and without separators. -/
def classNamed? (name : String) : Option Ranges :=
  match name with
  | "control" | "cn" => some control
  | "cr" => some carriageReturn
  | "extend" | "ex" => some extend
  | "l" => some leading
  | "lf" => some lineFeed
  | "lv" => some openSyllable
  | "lvt" => some closedSyllable
  | "prepend" | "pp" => some prepend
  | "regionalindicator" | "ri" => some regionalIndicator
  | "spacingmark" | "sm" => some spacingMark
  | "t" => some trailing
  | "v" => some vowel
  | "zwj" => some joiner
  | _ => none

end Grapheme

/-! ## Words -/

namespace Word

/-- The characters that belong to the one before them. -/
def extend : Ranges := .unions [graphemeExtend, categoryRanges [.mc], emojiModifier]

/-- The line breaks beyond carriage return and line feed. -/
def newline : Ranges := .ofLines ["B-C 85 2028-2029"]

/-- The format characters that do not matter. -/
def format : Ranges :=
  (categoryRanges [.cf]).diff
    (.unions [.ofLines ["200B-200D"], prependedConcatenationMark, extend])

/-- The katakana, which stand together without blanks. -/
def katakana : Ranges :=
  (Script.katakana.members.union (.ofLines ["3031-3035 309B-309C 30A0 30FC FF70"])).diff extend

/-- The letters that a quote may stand between. -/
def hebrewLetter : Ranges := Script.hebrew.members.inter (categoryRanges [.lo])

/-- The characters between digits that leave a number one. -/
def midNum : Ranges := .ofLines ["2C 3B 37E 589 60C-60D 66C 7F8 2044 FE50 FE54 FF0C FF1B"]

/-- The characters that join words and numbers. -/
def extendNumLet : Ranges := (categoryRanges [.pc]).union (.ofLines ["202F"])

/-- The blanks that stand together. -/
def blank : Ranges := .ofLines ["20 1680 2000-2006 2008-200A 205F 3000"]

/-- The letters of the scripts whose words no blanks divide. -/
def complexContext : Ranges := .ofLines [
  "E01-E30 E32-E33 E40-E46 E81-E82 E84 E86-E8A E8C-EA3 EA5 EA7-EB0 EB2-EB3 EBD EC0-EC4 EC6",
  "EDC-EDF 1000-102A 103F 1050-1055 105A-105D 1061 1065-1066 106E-1070 1075-1081 108E 1780-17B3",
  "17D7 17DC 1950-196D 1970-1974 1980-19AB 19B0-19C9 1A20-1A54 1AA7 A9E0-A9E4 A9E6-A9EF A9FA-A9FE",
  "AA60-AA76 AA7A AA7E-AAAF AAB1 AAB5-AAB6 AAB9-AABD AAC0 AAC2 AADB-AADD 11700-1171A 11740-11746"]

/-- The signs that count as letters. -/
def letterSign : Ranges := .ofLines [
  "B8 2C2-2C5 2D2-2D7 2DE-2DF 2E5-2EB 2ED 2EF-2FF 55A-55C 55E 58A 5F3 70F A708-A716 A720-A721",
  "A789-A78A AB5B"]

/-- The other letters. -/
def letter : Ranges :=
  (alphabetic.union letterSign).diff
    (.unions [ideographic, katakana, complexContext, Script.hiragana.members, extend, hebrewLetter])

/-- The classes by their names in lower case and without separators. -/
def classNamed? (name : String) : Option Ranges :=
  match name with
  | "cr" => some carriageReturn
  | "doublequote" | "dq" => some [(0x22, 0x22)]
  | "extendnumlet" | "ex" => some extendNumLet
  | "extend" => some extend
  | "format" | "fo" => some format
  | "hebrewletter" | "hl" => some hebrewLetter
  | "katakana" | "ka" => some katakana
  | "aletter" | "le" => some letter
  | "lf" => some lineFeed
  | "midnumlet" | "mb" => some midNumLet
  | "midletter" | "ml" => some midLetter
  | "midnum" | "mn" => some midNum
  | "newline" | "nl" => some newline
  | "numeric" | "nu" => some decimal
  | "regionalindicator" | "ri" => some regionalIndicator
  | "singlequote" | "sq" => some [(0x27, 0x27)]
  | "wsegspace" => some blank
  | "zwj" => some joiner
  | _ => none

end Word

/-! ## Sentences -/

namespace Sentence

/-- The characters that belong to the one before them. -/
def extend : Ranges := .unions [graphemeExtend, categoryRanges [.mc], joiner]

/-- The line breaks beyond carriage return and line feed. -/
def separator : Ranges := .ofLines ["85 2028-2029"]

/-- The digits of numbers. -/
def numeric : Ranges := decimal.union (.ofLines ["66C"])

/-- The format characters that do not matter. -/
def format : Ranges := (categoryRanges [.cf]).diff (.unions [.ofLines ["200C-200D"], numeric, extend])

/-- The blanks. -/
def blank : Ranges := whiteSpace.diff (.unions [carriageReturn, lineFeed, separator])

/-- The lower-case characters, but for those of the script whose capitals make no sentence. -/
def lower : Ranges := lowercase.diff (extend.union (.ofLines ["10D0-10FA 10FD-10FF"]))

/-- The upper-case and title-case characters, but for those capitals. -/
def upper : Ranges :=
  ((categoryRanges [.lt]).union uppercase).diff (.ofLines ["1C90-1CBA 1CBD-1CBF"])

/-- The letters without case. -/
def otherLetter : Ranges :=
  (alphabetic.union (.ofLines ["A0 5F3"])).diff (.unions [lower, upper, extend, blank, numeric])

/-- The full stops, which may end an abbreviation. -/
def fullStop : Ranges := .ofLines ["2E 2024 FE52 FF0E"]

/-- The other marks that end a sentence. -/
def terminal : Ranges := sentenceTerminal.diff fullStop

/-- The brackets and quotes that may follow the end of a sentence. -/
def closing : Ranges :=
  (categoryRanges [.ps, .pe, .pi, .pf]).union
    (.ofLines ["22 27 275B-2760 2E00-2E01 2E06-2E08 2E0B 1F676-1F678"])

/-- The marks after which a sentence goes on. -/
def continuing : Ranges := .ofLines [
  "2C-2D 3A-3B 37E 55D 60C-60D 7F8 1802 1808 2013-2014 3001 FE10-FE11 FE13-FE14 FE31-FE32",
  "FE50-FE51 FE54-FE55 FE58 FE63 FF0C-FF0D FF1A-FF1B FF64"]

/-- The classes by their names in lower case and without separators. -/
def classNamed? (name : String) : Option Ranges :=
  match name with
  | "aterm" | "at" => some fullStop
  | "close" | "cl" => some closing
  | "cr" => some carriageReturn
  | "extend" | "ex" => some extend
  | "format" | "fo" => some format
  | "oletter" | "le" => some otherLetter
  | "lf" => some lineFeed
  | "lower" | "lo" => some lower
  | "numeric" | "nu" => some numeric
  | "scontinue" | "sc" => some continuing
  | "sep" | "se" => some separator
  | "sp" => some blank
  | "sterm" | "st" => some terminal
  | "upper" | "up" => some upper
  | _ => none

end Sentence

end SearchQuery.Text.Segmentation
