import SearchQuery.Pattern.Matching
import SearchQuery.Pattern.Reader
import SearchQuery.Token

/-!
# Lexical rules

A rule recognizes the tokens of one kind at the beginning of a text. It is given either by a
pattern for the token alone, or by a pattern with two groups, of which the first is the token and
the second begins where the text goes on. The built-in rules are listed in the order in which they
are tried; `builtinSlot` is the place among them where the rules of the caller come in.
-/

namespace SearchQuery

/-- How a rule finds the token at the beginning of a text. -/
inductive Matcher where
  /-- What the pattern matches is the token, and the text goes on after it. -/
  | token (p : Pattern)
  /-- The first group is the token, and the text goes on where the second group begins. -/
  | split (p : Pattern)
  deriving DecidableEq, Repr

/-- A kind of token with the pattern that recognizes it. -/
structure Rule where
  kind : Kind
  /-- The text of the pattern with two groups. -/
  source : String
  matcher : Matcher
  deriving DecidableEq, Repr

/-- Why a rule is refused. -/
inductive RuleError where
  | notAPattern (label : String)
  | wrongGroups (label : String) (found : Nat)
  deriving DecidableEq, Repr

namespace RuleError

/-- The label of the rule that was refused. -/
def label : RuleError → String
  | notAPattern label | wrongGroups label _ => label

/-- The wording of the error. -/
def message : RuleError → String
  | notAPattern label => "invalid pattern for " ++ label ++ ": ..."
  | wrongGroups label found =>
    "pattern for " ++ label ++ " must have exactly 2 capture groups (token, rest), found " ++
      Nat.repr found

end RuleError

namespace Rule

/-- The number of groups of a pattern that tells the token from the rest. -/
def groupCount : Nat := 2

/-- A rule by a pattern with two groups. -/
def ofPattern (kind : Kind) (source : String) : Except RuleError Rule :=
  match Pattern.read? source with
  | none => .error (.notAPattern kind.name)
  | some p =>
    if p.groupCount = groupCount then .ok ⟨kind, source, .split p⟩
    else .error (.wrongGroups kind.name p.groupCount)

/-- The pattern with two groups that belongs to a pattern for a token. -/
def splitSource (token : String) : String := "(?s)^(" ++ token ++ ")(.*)$"

/-- The pattern for a token, made to begin at the beginning of a text. -/
def anchoredSource (token : String) : String := "(?s)^(?:" ++ token ++ ")"

/-- A rule by a pattern for the token alone. The pattern has to make sense both in a group of its
own with the rest behind it and by itself. -/
def ofToken (kind : Kind) (token : String) : Except RuleError Rule :=
  match ofPattern kind (splitSource token) with
  | .error e => .error e
  | .ok rule =>
    match Pattern.read? (anchoredSource token) with
    | none => .error (.notAPattern kind.name)
    | some p => .ok { rule with matcher := .token p }

/-- The token at the beginning of a text and the text that is left. There is no token if the match
takes no character, or if the first group is missing or does not begin the text. -/
def cut? (r : Rule) (text : List Char) : Option (List Char × List Char) :=
  match r.matcher with
  | .token p =>
    match p.match? text with
    | none => none
    | some t => if t.pos = 0 then none else some (text.take t.pos, t.rest)
  | .split p =>
    match p.match? text with
    | none => none
    | some t =>
      match t.capture? 1 with
      | none => none
      | some first =>
        if first.start = 0 ∧ first.stop ≠ 0 then
          let next := ((t.capture? 2).map (·.start)).getD first.stop
          some (text.take first.stop, text.drop next)
        else none

end Rule

/-! ## The built-in rules -/

namespace Rule

/-- The characters that may begin a word. A hyphen in front is a negation. -/
def wordStart : CharSet :=
  .unions [.letter, .number, .single '_', .single '.', .single '/', .single '%']

/-- The characters that may continue a word. -/
def wordContinue : CharSet :=
  .unions [.letter, .number, .single '_', .single '-', .single '.', .single '/', .single '%']

/-- The pattern at the beginning of a text. -/
def anchored (p : Pattern) : Pattern := .seq (.anchor .textStart) p

/-- Any number of characters of a set, as many as there are. -/
def many (s : CharSet) : Pattern := .repeated 0 none true (.one s)

/-- The rule of a pattern for a token, which is given both as text and as the pattern itself. -/
def builtinToken (kind : Kind) (token : String) (p : Pattern) : Rule :=
  ⟨kind, splitSource token, .token (anchored p)⟩

/-- A rule for a single character. -/
def builtinChar (kind : Kind) (token : String) (c : Char) : Rule :=
  builtinToken kind token (.one (.single c))

/-- Runs of white space. -/
def whiteSpaceRule : Rule :=
  builtinToken .whiteSpace "\\s+"
    (.repeated 1 none true (.one .whiteSpace))

/-- Text between double quotes. -/
def phraseRule : Rule :=
  builtinToken .phrase "\"[^\"]*\""
    (.seq (.one (.single '"')) (.seq (many (.compl (.single '"'))) (.one (.single '"'))))

/-- The word `OR` where no word goes on. -/
def orRule : Rule where
  kind := .or
  source := "(?s)^(OR)((?:[^\\p\x7bL\x7d\\p\x7bN\x7d_\\-./%].*)?)$"
  matcher :=
    .split <|
      .seq (.anchor .textStart) <|
        .seq (.group 1 (.text "OR")) <|
          .seq
            (.group 2 (.repeated 0 (some 1) true (.seq (.one (.compl wordContinue)) (many .all))))
            (.anchor .textEnd)

/-- Words. -/
def wordRule : Rule :=
  builtinToken .word "[\\p\x7bL\x7d\\p\x7bN\x7d_./%][\\p\x7bL\x7d\\p\x7bN\x7d_\\-./%]*"
    (.seq (.one wordStart) (many wordContinue))

/-- Any single character. -/
def illegalRule : Rule := builtinToken .illegal "." (.one .all)

/-- The rules that no rule of the caller can displace. -/
def structural : List Rule := [whiteSpaceRule, phraseRule, orRule]

/-- The rules that are tried when no rule of the caller applies. -/
def generic : List Rule :=
  [wordRule,
   builtinChar .openParen "\\(" '(',
   builtinChar .closeParen "\\)" ')',
   builtinChar .minus "-" '-',
   builtinChar .colon ":" ':',
   builtinChar .quote "\"" '"',
   illegalRule]

/-- The built-in rules in the order in which they are tried. -/
def builtins : List Rule := structural ++ generic

/-- How many built-in rules come before those of the caller. -/
def builtinSlot : Nat := structural.length

end Rule

end SearchQuery
