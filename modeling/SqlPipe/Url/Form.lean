import SqlPipe.Url.Percent
import SqlPipe.Text.Search

/-!
# Form parameters

The query of a URL read as a list of named parameters: pairs stand between ampersands, a name ends
at the first equals sign, and a plus sign is a blank.
-/

namespace SqlPipe.Url

/-- What a name or a value of a parameter stands for. -/
def formDecode (text : List Char) : String :=
  Text.utf8String (percentDecode (Text.utf8Encode (text.map fun c => if c == '+' then ' ' else c)))

def formPair (text : List Char) : String × String :=
  match Text.splitAt? ['='] text with
  | some (name, value) => (formDecode name, formDecode value)
  | none => (formDecode text, "")

def formPairs (query : List Char) : List (String × String) :=
  ((Text.splitAll '&' query).filter (!·.isEmpty)).map formPair

/-- What stands in a written parameter as it is. -/
def formPlain (c : Char) : Bool :=
  c.isAlphanum || ['*', '-', '.', '_'].contains c

def formEncode (text : String) : List Char :=
  text.toList.flatMap fun c =>
    if c == ' ' then ['+'] else percentChar (fun c => !formPlain c) c

def formQuery (pairs : List (String × String)) : List Char :=
  Text.joinWith ['&'] (pairs.map fun (name, value) => formEncode name ++ '=' :: formEncode value)

end SqlPipe.Url
