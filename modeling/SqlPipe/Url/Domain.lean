import SqlPipe.Url.International.Label
import SqlPipe.Url.International.Mapping
import SqlPipe.Url.Punycode
import SqlPipe.Text.Search

/-!
# Names of domains

The name of a domain is brought into ASCII: characters are mapped and composed, and each label that
still holds characters beyond ASCII is written in Punycode.  A label that is Punycode already has to
stand for something that would be written in just this way.
-/

namespace SqlPipe.Url

def punycodeSign : List Char := "xn--".toList

def isAscii (c : Char) : Bool := c.toNat < 0x80

def forbiddenInDomain (c : Char) : Bool :=
  c.toNat ≤ 0x20 || c.toNat == 0x7F || "%#/:<>?@[\\]^|".toList.contains c

def isPlainInDomain (c : Char) : Bool :=
  if isAscii c then !forbiddenInDomain c && !c.isUpper
  else International.mapChar? c == some [c]

/-- What a label in Punycode stands for: something beyond ASCII in its composed form. -/
def readPunycode? (text : List Char) : Option (List Char) := do
  let label ← Punycode.decode? text
  if label.all isAscii || International.compose label != label then none else some label

def readLabel? (label : List Char) : Option (List Char) :=
  match Text.after? punycodeSign label with
  | some text => readPunycode? text
  | none => some label

def writeLabel (label : List Char) : List Char :=
  if label.all isAscii then label else punycodeSign ++ Punycode.encode label

def labelsOk (labels : List (List Char)) : Bool :=
  let codes := labels.map fun label => label.map Char.toNat
  let directions := codes.map fun label => label.map International.directionOf
  labels.all (·.all isPlainInDomain) && codes.all International.labelOk &&
    (!directions.any International.runsRight || directions.all International.runsOneWay)

/-- The ASCII form of a name that may hold any characters. -/
def internationalToAscii? (text : List Char) : Option (List Char) := do
  let mapped ← text.mapM International.mapChar?
  let labels ← (Text.splitAll '.' (International.compose mapped.flatten)).mapM readLabel?
  if labelsOk labels then some (Text.joinWith ['.'] (labels.map writeLabel)) else none

def domainToAscii? (bytes : List UInt8) : Option (List Char) :=
  let text := Text.utf8Decode bytes
  if Text.utf8Encode text ≠ bytes then none
  else
    let small := text.map Char.toLower
    if text.all isAscii && !(Text.splitAll '.' small).any (Text.startsWith punycodeSign) then
      if text.any forbiddenInDomain then none else some small
    else internationalToAscii? text

end SqlPipe.Url
