import SqlPipe.Sql.Lexicon
import SqlPipe.Text.Search

/-!
# Operators

The spellings of operators and punctuation.  Of the spellings that fit a text, the longest counts.
In a dialect whose operators are open, an operator goes on as far as operator characters follow,
and is then one that the grammar does not know.
-/

namespace SqlPipe.Sql

structure Spelling where
  text : List Char
  /-- The operator, or nothing when the spelling is only the beginning of one. -/
  symbol : Option String
  /-- Operator characters that follow belong to the operator. -/
  extends_ : Bool
  /-- Known only to dialects with operators on geometric values. -/
  geometric : Bool

namespace Spelling

def closed (text : String) : Spelling := ⟨text.toList, some text, false, false⟩

def extensible (text : String) : Spelling := ⟨text.toList, some text, true, false⟩

def geometricClosed (text : String) : Spelling := ⟨text.toList, some text, false, true⟩

def geometricExtensible (text : String) : Spelling := ⟨text.toList, some text, true, true⟩

def unfinished (text : String) : Spelling := ⟨text.toList, none, true, true⟩

/-- The spellings of more than one character, longer ones before their beginnings. -/
def compound : List Spelling :=
  [extensible "->>", extensible "->",
   extensible "||/", extensible "||", extensible "|/",
   geometricExtensible "|&>", unfinished "|&", geometricExtensible "|>>", unfinished "|>",
   closed "=>", closed "==",
   ⟨['!', '='], some "<>", false, false⟩, closed "!!",
   closed "!~~*", closed "!~~", closed "!~*", closed "!~",
   extensible "<=>", extensible "<=", ⟨['<', '|'], some "<<|", true, true⟩, extensible "<>",
   geometricExtensible "<<|", extensible "<<", geometricExtensible "<->", unfinished "<-",
   geometricExtensible "<^", extensible "<@",
   extensible ">=", extensible ">>", geometricExtensible ">^",
   closed "::", closed ":=",
   geometricClosed "&>", geometricClosed "&<|", geometricExtensible "&<", extensible "&&",
   closed "^@",
   extensible "~*", geometricExtensible "~=", extensible "~~*", extensible "~~",
   extensible "#-", extensible "#>>", extensible "#>", geometricExtensible "##",
   geometricClosed "@@", geometricClosed "@-@", unfinished "@-", closed "@>", closed "@?",
   geometricClosed "?||", geometricClosed "?|", geometricClosed "?&", geometricClosed "?-|",
   geometricClosed "?-", geometricClosed "?#"]

def single : List Spelling :=
  ["-", "%", "|", "<", ">", "&", "~", "#"].map extensible ++
    ["(", ")", ",", "/", "+", "*", "=", "!", ":", ";", "\\", "[", "]", "^", "\x7b", "\x7d",
      "@"].map closed ++ [geometricClosed "?"]

def find? (lexicon : Lexicon) (text : List Char) (spellings : List Spelling) : Option Spelling :=
  spellings.find? fun spelling =>
    (!spelling.geometric || lexicon.geometry) && Text.startsWith spelling.text text

end Spelling

end SqlPipe.Sql
