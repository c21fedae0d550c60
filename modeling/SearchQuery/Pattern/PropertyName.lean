import SearchQuery.Pattern.CharSet
import SearchQuery.Text.Age
import SearchQuery.Text.Segmentation

/-!
# Names of character properties

A pattern names a property in braces: a general category, a script, one of the yes-or-no
properties, or the value of a property with the name of the property in front. Names are compared
loosely: letter case, blanks, underscores and hyphens do not matter, nor does a leading `is`.
-/

namespace SearchQuery

open Text

namespace PropertyName

/-- The name in lower case, without separators and without anything outside ASCII. -/
def squeeze (name : List Char) : List Char :=
  (name.filter fun c => c != ' ' && c != '_' && c != '-' && c.toNat < 128).map Char.toLower

/-- The form under which names are compared. A leading `is` is dropped, except from `isc`. -/
def loose (name : List Char) : String :=
  match name with
  | i :: s :: rest =>
    if i.toLower = 'i' && s.toLower = 's' then
      if squeeze rest = ['c'] then "isc" else String.ofList (squeeze rest)
    else String.ofList (squeeze name)
  | _ => String.ofList (squeeze name)

/-- The categories that a name stands for. -/
def categoriesNamed? (name : String) : Option (List Category) :=
  match name with
  | "l" | "letter" => some [.lu, .ll, .lt, .lm, .lo]
  | "lc" | "casedletter" => some [.lu, .ll, .lt]
  | "lu" | "uppercaseletter" => some [.lu]
  | "ll" | "lowercaseletter" => some [.ll]
  | "lt" | "titlecaseletter" => some [.lt]
  | "lm" | "modifierletter" => some [.lm]
  | "lo" | "otherletter" => some [.lo]
  | "m" | "mark" | "combiningmark" => some [.mn, .mc, .me]
  | "mn" | "nonspacingmark" => some [.mn]
  | "mc" | "spacingmark" => some [.mc]
  | "me" | "enclosingmark" => some [.me]
  | "n" | "number" => some [.nd, .nl, .no]
  | "nd" | "decimalnumber" | "digit" => some [.nd]
  | "nl" | "letternumber" => some [.nl]
  | "no" | "othernumber" => some [.no]
  | "p" | "punctuation" | "punct" => some [.pc, .pd, .ps, .pe, .pi, .pf, .po]
  | "pc" | "connectorpunctuation" => some [.pc]
  | "pd" | "dashpunctuation" => some [.pd]
  | "ps" | "openpunctuation" => some [.ps]
  | "pe" | "closepunctuation" => some [.pe]
  | "pi" | "initialpunctuation" => some [.pi]
  | "pf" | "finalpunctuation" => some [.pf]
  | "po" | "otherpunctuation" => some [.po]
  | "s" | "symbol" => some [.sm, .sc, .sk, .so]
  | "sm" | "mathsymbol" => some [.sm]
  | "sc" | "currencysymbol" => some [.sc]
  | "sk" | "modifiersymbol" => some [.sk]
  | "so" | "othersymbol" => some [.so]
  | "z" | "separator" => some [.zs, .zl, .zp]
  | "zs" | "spaceseparator" => some [.zs]
  | "zl" | "lineseparator" => some [.zl]
  | "zp" | "paragraphseparator" => some [.zp]
  | "c" | "other" => some [.cc, .cf, .cs, .co, .cn]
  | "cc" | "control" | "cntrl" => some [.cc]
  | "cf" | "format" => some [.cf]
  | "co" | "privateuse" => some [.co]
  | "cn" | "unassigned" => some [.cn]
  | _ => none

/-- The set that the name of a general category stands for. -/
def categorySet? (name : String) : Option CharSet :=
  match name with
  | "any" => some .all
  | "assigned" => some (.compl (.categories [.cn]))
  | "ascii" => some (.range '\x00' '\x7f')
  | _ => (categoriesNamed? name).map .categories

/-- The set that the name of a script stands for. -/
def scriptSet? (name : String) : Option CharSet :=
  (Script.named? name).map fun s => .among s.members

/-- The set of the characters that are used in the script of a name. -/
def extendedScriptSet? (name : String) : Option CharSet :=
  (Script.named? name).map fun s => .among s.extended

open PropertyTable PropertySet in
/-- The yes-or-no properties by their names. -/
def binaryTable? (name : String) : Option Ranges :=
  match name with
  | "asciihexdigit" | "ahex" => some asciiHexDigit
  | "alphabetic" | "alpha" => some alphabetic
  | "bidicontrol" | "bidic" => some bidiControl
  | "bidimirrored" | "bidim" => some bidiMirrored
  | "caseignorable" | "ci" => some caseIgnorable
  | "cased" => some cased
  | "changeswhencasefolded" | "cwcf" => some changesWhenCasefolded
  | "changeswhencasemapped" | "cwcm" => some changesWhenCasemapped
  | "changeswhenlowercased" | "cwl" => some changesWhenLowercased
  | "changeswhentitlecased" | "cwt" => some changesWhenTitlecased
  | "changeswhenuppercased" | "cwu" => some changesWhenUppercased
  | "dash" => some dash
  | "defaultignorablecodepoint" | "di" => some defaultIgnorable
  | "deprecated" | "dep" => some deprecated
  | "diacritic" | "dia" => some diacritic
  | "emoji" => some emoji
  | "emojicomponent" | "ecomp" => some emojiComponent
  | "emojimodifier" | "emod" => some emojiModifier
  | "emojimodifierbase" | "ebase" => some emojiModifierBase
  | "emojipresentation" | "epres" => some emojiPresentation
  | "extendedpictographic" | "extpict" => some extendedPictographic
  | "extender" | "ext" => some extender
  | "graphemebase" | "grbase" => some graphemeBase
  | "graphemeextend" | "grext" => some graphemeExtend
  | "graphemelink" | "grlink" => some graphemeLink
  | "hexdigit" | "hex" => some hexDigit
  | "hyphen" => some hyphen
  | "idcompatmathcontinue" => some idCompatMathContinue
  | "idcompatmathstart" => some idCompatMathStart
  | "idcontinue" | "idc" => some idContinue
  | "idstart" | "ids" => some idStart
  | "ideographic" | "ideo" => some ideographic
  | "idsbinaryoperator" | "idsb" => some idsBinaryOperator
  | "idstrinaryoperator" | "idst" => some idsTrinaryOperator
  | "idsunaryoperator" | "idsu" => some idsUnaryOperator
  | "joincontrol" | "joinc" => some joinControl
  | "logicalorderexception" | "loe" => some logicalOrderException
  | "lowercase" | "lower" => some lowercase
  | "math" => some math
  | "modifiercombiningmark" | "mcm" => some modifierCombiningMark
  | "noncharactercodepoint" | "nchar" => some noncharacter
  | "otheralphabetic" | "oalpha" => some otherAlphabetic
  | "otherdefaultignorablecodepoint" | "odi" => some otherDefaultIgnorable
  | "othergraphemeextend" | "ogrext" => some otherGraphemeExtend
  | "otheridcontinue" | "oidc" => some otherIdContinue
  | "otheridstart" | "oids" => some otherIdStart
  | "otherlowercase" | "olower" => some otherLowercase
  | "othermath" | "omath" => some otherMath
  | "otheruppercase" | "oupper" => some otherUppercase
  | "patternsyntax" | "patsyn" => some patternSyntax
  | "patternwhitespace" | "patws" => some patternWhiteSpace
  | "prependedconcatenationmark" | "pcm" => some prependedConcatenationMark
  | "quotationmark" | "qmark" => some quotationMark
  | "radical" => some radical
  | "regionalindicator" | "ri" => some regionalIndicator
  | "sentenceterminal" | "sterm" => some sentenceTerminal
  | "softdotted" | "sd" => some softDotted
  | "terminalpunctuation" | "term" => some terminalPunctuation
  | "unifiedideograph" | "uideo" => some unifiedIdeograph
  | "uppercase" | "upper" => some uppercase
  | "variationselector" | "vs" => some variationSelector
  | "whitespace" | "wspace" | "space" => some PropertyTable.whiteSpace
  | "xidcontinue" | "xidc" => some xidContinue
  | "xidstart" | "xids" => some xidStart
  | _ => none

/-- The set that a bare name stands for: a yes-or-no property, a category or a script. -/
def bare? (name : List Char) : Option CharSet :=
  let n := loose name
  ((binaryTable? n).map .among).or <| (categorySet? n).or (scriptSet? n)

/-- The set that a name stands for as the value of a property. -/
def valued? (property value : List Char) : Option CharSet :=
  let v := loose value
  match loose property with
  | "gc" | "generalcategory" => categorySet? v
  | "sc" | "script" => scriptSet? v
  | "scx" | "scriptextensions" => extendedScriptSet? v
  | "age" => (assignedBy? v).map .among
  | "gcb" | "graphemeclusterbreak" => (Segmentation.Grapheme.classNamed? v).map .among
  | "wb" | "wordbreak" => (Segmentation.Word.classNamed? v).map .among
  | "sb" | "sentencebreak" => (Segmentation.Sentence.classNamed? v).map .among
  | _ => none

/-- Splits a text around the first occurrence of a separator. -/
def splitAt? (sep : List Char) : List Char → Option (List Char × List Char)
  | [] => if sep.isEmpty then some ([], []) else none
  | c :: cs =>
    if sep.isPrefixOf (c :: cs) then some ([], (c :: cs).drop sep.length)
    else (splitAt? sep cs).map fun (l, r) => (c :: l, r)

/-- The set that the text between the braces stands for, and whether its complement is meant. -/
def braced? (text : List Char) : Option (CharSet × Bool) :=
  match splitAt? ['!', '='] text with
  | some (property, value) => (valued? property value).map (·, true)
  | none =>
    match (splitAt? [':'] text).or (splitAt? ['='] text) with
    | some (property, value) => (valued? property value).map (·, false)
    | none => (bare? text).map (·, false)

end PropertyName

end SearchQuery
