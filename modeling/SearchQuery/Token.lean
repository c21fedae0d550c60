import SearchQuery.Text.Quoted

/-!
# Tokens

A query is cut into tokens. A token has a kind, the text it was made from and the number of
characters before it; the token at the end of a query has no text.
-/

namespace SearchQuery

/-- The kinds of tokens. A rule that the caller registers may have a kind of its own, known by its
label. -/
inductive Kind where
  | finish
  | word
  | openParen
  | closeParen
  | minus
  | colon
  | or
  | whiteSpace
  | phrase
  | illegal
  | quote
  | field (label : String)
  deriving DecidableEq, Repr

namespace Kind

/-- The name of a kind; a field's name is its label. -/
def name : Kind → String
  | finish => "END"
  | word => "WORD"
  | openParen => "LPAREN"
  | closeParen => "RPAREN"
  | minus => "MINUS"
  | colon => "COLON"
  | or => "OR"
  | whiteSpace => "WHITESPACE"
  | phrase => "TEXT"
  | illegal => "ILLEGAL"
  | quote => "QUOTE"
  | field label => label

/-- The kinds that exist without any rule of the caller. -/
def builtins : List Kind :=
  [finish, word, openParen, closeParen, minus, colon, or, whiteSpace, phrase, illegal, quote]

/-- The built-in kind of a name. -/
def builtin? (n : String) : Option Kind := builtins.find? (·.name == n)

/-- Whether the kind is a field of the caller. -/
def isField : Kind → Bool
  | field _ => true
  | _ => false

end Kind

/-- The word that joins two operands. -/
def andKeyword : String := "AND"

/-- A piece of a query. -/
structure Token where
  kind : Kind
  text : Option String
  position : Nat
  deriving DecidableEq, Repr

namespace Token

/-- The token at the end of a query. -/
def endAt (position : Nat) : Token := ⟨.finish, none, position⟩

/-- Whether the token ends a query. -/
def isEnd (t : Token) : Bool := t.kind = .finish

/-- Whether the token is the given word. -/
def isKeyword (t : Token) (keyword : String) : Bool := t.kind = .word && t.text = some keyword

/-- Whether the token is the word that joins two operands. -/
def isAnd (t : Token) : Bool := t.isKeyword andKeyword

/-- The token in messages: its kind and its text in quotes. -/
def display (t : Token) : String :=
  match t.text with
  | some text => t.kind.name ++ " " ++ Text.quoted text
  | none => t.kind.name

/-- The text filled up with spaces in front to a width in characters. -/
def padLeft (width : Nat) (s : String) : String :=
  String.ofList (List.replicate (width - s.length) ' ') ++ s

/-- The text filled up with spaces behind to a width in characters. -/
def padRight (width : Nat) (s : String) : String :=
  s ++ String.ofList (List.replicate (width - s.length) ' ')

/-- The token in a listing: its position in four columns, its kind in ten, its text in quotes. -/
def line (t : Token) : String :=
  let position := padLeft 4 (Nat.repr t.position)
  match t.text with
  | some text => position ++ "  " ++ padRight 10 t.kind.name ++ " " ++ Text.quoted text
  | none => position ++ "  " ++ t.kind.name

end Token

end SearchQuery
