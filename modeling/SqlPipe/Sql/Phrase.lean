import SqlPipe.Sql.Name

/-!
# Phrases

The normal form of a construct is a phrase: parts with one blank between them, or a list with
commas.  Parts that do not stand leave no trace.
-/

namespace SqlPipe.Sql

/-- Parts of a normal form with blanks between them. -/
def phrase (parts : List String) : String :=
  " ".intercalate (parts.filter (· != ""))

def commaList (parts : List String) : String :=
  ", ".intercalate parts

def clause (word : String) : Option String → String
  | some text => word ++ " " ++ text
  | none => ""

def wordIf (stands : Bool) (word : String) : String :=
  if stands then word else ""

def nameList (names : List Ident) : String :=
  commaList (names.map Ident.text)

def qualifiedNameList (names : List QualifiedName) : String :=
  commaList (names.map QualifiedName.text)

end SqlPipe.Sql
