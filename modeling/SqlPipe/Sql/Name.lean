import SqlPipe.Sql.Token

/-!
# Names

Identifiers as they are written, and their normal form.
-/

namespace SqlPipe.Sql

/-- An identifier with the quote that it was written in. -/
structure Ident where
  value : String
  quote : Option Char
  deriving DecidableEq, Repr

abbrev QualifiedName := List Ident

/-- Doubles each quote of a text that stands alone.  A quote behind a backslash and a quote that is
doubled already stay as they are. -/
def doubleLoneQuotesOnto (quote : Char) (written : List Char) (previous : Char) :
    List Char → List Char
  | [] => written.reverse
  | [c] =>
      if c == quote && previous != '\\' then (c :: c :: written).reverse
      else (c :: written).reverse
  | c :: d :: rest =>
      if c == quote then
        if previous == '\\' then doubleLoneQuotesOnto quote (c :: written) previous (d :: rest)
        else if d == quote then doubleLoneQuotesOnto quote (d :: c :: written) c rest
        else doubleLoneQuotesOnto quote (c :: c :: written) c (d :: rest)
      else doubleLoneQuotesOnto quote (c :: written) c (d :: rest)

def betweenQuotes (quote : Char) (inside : String) : String :=
  quote.toString ++ String.ofList (doubleLoneQuotesOnto quote [] '\x00' inside.toList) ++
    quote.toString

def Ident.text (ident : Ident) : String :=
  match ident.quote with
  | none => ident.value
  | some '[' => "[" ++ ident.value ++ "]"
  | some quote => betweenQuotes quote ident.value

def QualifiedName.text (name : QualifiedName) : String :=
  ".".intercalate (name.map Ident.text)

end SqlPipe.Sql
