import SearchQuery.Text.CategoryTable
import SearchQuery.Text.PropertyTable

/-!
# Character properties

The properties that the standard derives from its tables and from the general categories. Those of
words and of patterns are predicates on characters; for the others the set is enough.
-/

namespace SearchQuery.Text

/-! ## Predicates on characters -/

/-- White space: the blanks, tabs and line breaks of every script. -/
def isWhiteSpace (c : Char) : Bool := PropertyTable.whiteSpace.contains c

/-- Letters: the characters whose category is a letter category. -/
def isLetter (c : Char) : Bool := (Category.of c).isLetter

/-- Numbers: the characters whose category is a number category. -/
def isNumber (c : Char) : Bool := (Category.of c).isNumber

/-- The decimal digits of every script. -/
def isDigit (c : Char) : Bool := Category.of c = .nd

/-- Alphabetic characters: letters, letter numbers, and some marks and enclosed letters. -/
def isAlphabetic (c : Char) : Bool :=
  isLetter c || Category.of c = .nl || PropertyTable.otherAlphabetic.contains c

/-- The two joiners, which format text without being white space. -/
def isJoinControl (c : Char) : Bool := PropertyTable.joinControl.contains c

/-- Word characters of a pattern: alphabetic characters, marks, digits, connectors and joiners. -/
def isWordChar (c : Char) : Bool :=
  isAlphabetic c || (Category.of c).isMark || isDigit c || Category.of c = .pc || isJoinControl c

/-- Characters that are drawn onto the character before them. -/
def isGraphemeExtender (c : Char) : Bool :=
  Category.of c = .mn || Category.of c = .me || PropertyTable.otherGraphemeExtend.contains c

/-! ## Sets of characters -/

namespace PropertySet

open PropertyTable

/-- The alphabetic characters. -/
def alphabetic : Ranges := (categoryRanges [.lu, .ll, .lt, .lm, .lo, .nl]).union otherAlphabetic

/-- The word characters of a pattern. -/
def wordChar : Ranges :=
  .unions [alphabetic, categoryRanges [.mn, .mc, .me, .nd, .pc], joinControl]

/-- The lower-case characters. -/
def lowercase : Ranges := (categoryRanges [.ll]).union otherLowercase

/-- The upper-case characters. -/
def uppercase : Ranges := (categoryRanges [.lu]).union otherUppercase

/-- The characters that have a case. -/
def cased : Ranges := .unions [lowercase, uppercase, categoryRanges [.lt]]

/-- The characters between letters that leave a word one. -/
def midLetter : Ranges := .ofLines ["3A B7 387 55F 5F4 2027 FE13 FE55 FF1A"]

/-- The characters between letters or between digits that leave a word one. -/
def midNumLet : Ranges := .ofLines ["2E 2018-2019 2024 FE52 FF07 FF0E"]

/-- The characters that do not matter for the case of their neighbours. -/
def caseIgnorable : Ranges :=
  .unions [categoryRanges [.mn, .me, .cf, .lm, .sk], midLetter, midNumLet, .ofLines ["27"]]

/-- The characters whose title case differs from them: those whose upper case does, but for the
title-case digraphs and the letters that have no title case. -/
def changesWhenTitlecased : Ranges :=
  (changesWhenUppercased.diff
    (.ofLines ["1C5 1C8 1CB 1F2 10D0-10FA 10FD-10FF 1F88-1F8F 1F98-1F9F 1FA8-1FAF 1FBC 1FCC 1FFC"])
  ).union (.ofLines ["1C4 1C7 1CA 1F1"])

/-- The characters that folding changes: those whose lower case differs, but for the letters that
fold to upper case, and letters with a second form or with a fold of several letters. -/
def changesWhenCasefolded : Ranges :=
  (changesWhenLowercased.diff (.ofLines ["13A0-13F5"])).union
    (.ofLines [
      "B5 DF 149 17F 345 3C2 3D0-3D1 3D5-3D6 3F0-3F1 3F5 587 13F8-13FD 1C80-1C88 1E9A-1E9B",
      "1F80-1F87 1F90-1F97 1FA0-1FA7 1FB2-1FB4 1FB7 1FC2-1FC4 1FC7 1FF2-1FF4 1FF7 AB70-ABBF",
      "FB00-FB06 FB13-FB17"])

/-- The characters that some change of case changes. -/
def changesWhenCasemapped : Ranges :=
  .unions [changesWhenLowercased, changesWhenUppercased, changesWhenTitlecased]

/-- The code points that are ignored in display where they are not supported. -/
def defaultIgnorable : Ranges :=
  (Ranges.unions [otherDefaultIgnorable, categoryRanges [.cf], variationSelector]).diff
    (.unions [whiteSpace, .ofLines ["FFF9-FFFB 13430-13440"], prependedConcatenationMark])

/-- The characters that are drawn onto the character before them. -/
def graphemeExtend : Ranges := (categoryRanges [.mn, .me]).union otherGraphemeExtend

/-- The characters that others may be drawn onto. -/
def graphemeBase : Ranges :=
  (categoryRanges [.cc, .cf, .cs, .co, .cn, .zl, .zp] |>.union graphemeExtend).compl

/-- The digits of hexadecimal numbers, in ASCII. -/
def asciiHexDigit : Ranges := .ofLines ["30-39 41-46 61-66"]

/-- The digits of hexadecimal numbers, in both widths. -/
def hexDigit : Ranges := asciiHexDigit.union (.ofLines ["FF10-FF19 FF21-FF26 FF41-FF46"])

/-- The code points that are kept for the syntax around identifiers. -/
def patternReserved : Ranges := patternSyntax.union patternWhiteSpace

/-- The characters that may begin an identifier. -/
def idStart : Ranges :=
  (categoryRanges [.lu, .ll, .lt, .lm, .lo, .nl] |>.union otherIdStart).diff patternReserved

/-- The characters that may continue an identifier. -/
def idContinue : Ranges :=
  (Ranges.unions [idStart, categoryRanges [.mn, .mc, .nd, .pc], otherIdContinue]).diff
    patternReserved

/-- The characters whose compatibility form cannot begin or continue an identifier. -/
def idUnstable : Ranges :=
  .ofLines ["37A 309B-309C FC5E-FC63 FDFA-FDFB FE70 FE72 FE74 FE76 FE78 FE7A FE7C FE7E"]

/-- The characters that may begin an identifier also in compatibility form. -/
def xidStart : Ranges :=
  idStart.diff (idUnstable.union (.ofLines ["E33 EB3 FF9E-FF9F"]))

/-- The characters that may continue an identifier also in compatibility form. -/
def xidContinue : Ranges := idContinue.diff idUnstable

/-- The mathematical characters that may continue an identifier in some profiles. -/
def idCompatMathContinue : Ranges :=
  idCompatMathStart.union (.ofLines ["B2-B3 B9 2070 2074-207E 2080-208E"])

/-- The mathematical characters. -/
def math : Ranges := (categoryRanges [.sm]).union otherMath

end PropertySet

end SearchQuery.Text
