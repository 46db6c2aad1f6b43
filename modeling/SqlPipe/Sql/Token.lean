/-!
# Tokens

The tokens of SQL, each with the place where it begins and the gap in front of it.  A token keeps
the inside of a literal as it was written, so that it can be written again without being decoded.
Only literals with numeric escapes are decoded, because their escapes have a meaning of their own.
-/

namespace SqlPipe.Sql

inductive Literal
  | single
  | double
  | national
  | escaped
  | unicode
  | hex
  | byteSingle
  | byteDouble
  | rawSingle
  | rawDouble
  | rawTripleSingle
  | rawTripleDouble
  deriving DecidableEq, Repr

def Literal.opening : Literal → String
  | .single => "'"
  | .double => "\""
  | .national => "N'"
  | .escaped => "E'"
  | .unicode => "U&'"
  | .hex => "X'"
  | .byteSingle => "B'"
  | .byteDouble => "B\""
  | .rawSingle => "R'"
  | .rawDouble => "R\""
  | .rawTripleSingle => "R'''"
  | .rawTripleDouble => "R\"\"\""

def Literal.closing : Literal → String
  | .single | .national | .escaped | .unicode | .hex | .byteSingle | .rawSingle => "'"
  | .double | .byteDouble | .rawDouble => "\""
  | .rawTripleSingle => "'''"
  | .rawTripleDouble => "\"\"\""

/-- A token. -/
inductive Token
  /-- A word.  The keyword is its upper-case form, and empty when the word is quoted. -/
  | word (value : String) (quote : Option Char) (keyword : String)
  | number (digits : String) (long : Bool)
  | literal (kind : Literal) (inside : String)
  | dollar (tag : Option String) (inside : String)
  | placeholder (text : String)
  | symbol (text : String)
  | customOperator (text : String)
  | stray (c : Char)
  deriving DecidableEq, Repr, Inhabited

/-- The quote that closes a name opened by the given quote. -/
def closingQuote (opening : Char) : Char :=
  if opening == '[' then ']' else opening

namespace Token

def text : Token → String
  | word value none _ => value
  | word value (some quote) _ => quote.toString ++ value ++ (closingQuote quote).toString
  | number digits long => if long then digits ++ "L" else digits
  | literal kind inside => kind.opening ++ inside ++ kind.closing
  | dollar none inside => "$$" ++ inside ++ "$$"
  | dollar (some tag) inside => "$" ++ tag ++ "$" ++ inside ++ "$" ++ tag ++ "$"
  | placeholder text => text
  | symbol text => text
  | customOperator text => text
  | stray c => c.toString

def keyword : Token → String
  | word _ _ keyword => keyword
  | _ => ""

end Token

/-- What stands between two tokens. -/
inductive Gap
  | none
  | blank
  /-- White space with a line feed outside comments. -/
  | line
  deriving DecidableEq, Repr

/-- A place in a text, counted from one. -/
structure Place where
  line : Nat
  column : Nat
  deriving DecidableEq, Repr, Inhabited

def Place.text (place : Place) : String :=
  " at Line: " ++ toString place.line ++ ", Column: " ++ toString place.column

structure Located where
  token : Token
  place : Place
  gap : Gap
  deriving DecidableEq, Repr

/-- Letters outside ASCII whose upper case is ASCII. -/
def upperLetter (c : Char) : List Char :=
  match c.toNat with
  | 0x131 => ['I']
  | 0x17F => ['S']
  | 0xDF => ['S', 'S']
  | 0xFB00 => ['F', 'F']
  | 0xFB01 => ['F', 'I']
  | 0xFB02 => ['F', 'L']
  | 0xFB03 => ['F', 'F', 'I']
  | 0xFB04 => ['F', 'F', 'L']
  | 0xFB05 => ['S', 'T']
  | 0xFB06 => ['S', 'T']
  | _ => [c.toUpper]

def keywordOf (value : List Char) : String :=
  String.ofList (value.flatMap upperLetter)

end SqlPipe.Sql
