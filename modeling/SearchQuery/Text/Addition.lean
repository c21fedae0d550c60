import SearchQuery.Text.Property

/-!
# Characters of the next version

The tables of categories and properties are those of version 16 of the standard, which patterns
follow. Quoted text and the names of groups already follow version 17. This module lists what that
version adds, and defines the predicates that go by it.
-/

namespace SearchQuery.Text

namespace Addition

/-- The added characters with a visible form of their own. -/
def visible : Ranges := .ofLines [
  "88F C5C CDC 20C1 2B96 A7CE-A7CF A7D2 A7D4 A7F1 FBC3-FBD2 FD90-FD91 FDC8-FDCE 10940-10959",
  "10EC5-10EC7 10ED0-10ED8 11B61 11B65 11B67 11DB0-11DDB 11DE0-11DE9 16EA0-16EB8 16EBB-16ED3",
  "16FF2-16FF6 187F8-187FF 18D09-18D1E 18D80-18DF2 1CCFA-1CCFC 1CEBA-1CED0 1CEE0-1CEF0 1E6C0-1E6DE",
  "1E6E0-1E6E2 1E6E4-1E6E5 1E6E7-1E6ED 1E6F0-1E6F4 1E6FE-1E6FF 1F6D8 1F777-1F77A 1F8D0-1F8D8",
  "1FA54-1FA57 1FA8A 1FA8E 1FAC8 1FACD 1FAEA 1FAEF 1FBFA 2B73A-2B73F 2CEA2-2CEAD 323B0-33479"]

/-- The added alphabetic characters. -/
def alphabetic : Ranges := .ofLines [
  "88F C5C CDC A7CE-A7CF A7D2 A7D4 A7F1 10940-10959 10EC5-10EC7 10EFA-10EFB 11B60-11B67",
  "11DB0-11DDB 16EA0-16EB8 16EBB-16ED3 16FF2-16FF6 187F8-187FF 18D09-18D1E 18D80-18DF2 1E6C0-1E6DE",
  "1E6E0-1E6F5 1E6FE-1E6FF 2B73A-2B73F 2CEA2-2CEAD 323B0-33479"]

/-- The added numbers. -/
def number : Ranges := .ofLines [
  "11DE0-11DE9 16FF4-16FF6"]

end Addition

/-- Alphabetic characters, the added ones included. -/
def isAlphabeticNow (c : Char) : Bool := isAlphabetic c || Addition.alphabetic.contains c

/-- Numbers, the added ones included. -/
def isNumberNow (c : Char) : Bool := isNumber c || Addition.number.contains c

/-- The two sound marks that take a place of their own although they extend a character. -/
def isHalfwidthSoundMark (c : Char) : Bool := Ranges.contains [(0xFF9E, 0xFF9F)] c

/-- The letters that fill the place of a missing part of a syllable and show nothing. -/
def isFiller (c : Char) : Bool :=
  Ranges.contains [(0x115F, 0x1160), (0x3164, 0x3164), (0xFFA0, 0xFFA0)] c

/-- Characters with a visible form of their own, and the ordinary space. -/
def isVisible (c : Char) : Bool :=
  c = ' ' || Addition.visible.contains c ||
    !((Category.of c).isOther || (Category.of c).isSeparator || isFiller c ||
      (isGraphemeExtender c && !isHalfwidthSoundMark c))

end SearchQuery.Text
