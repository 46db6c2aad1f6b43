import SqlPipe.Dialect
import SqlPipe.Text.Alphabetic

/-!
# The lexical rules of a dialect

Which characters begin and continue names, which quotes delimit names, and which kinds of literals
and operators a dialect knows.  The rules of a dialect without rules of its own are generous: it
takes what some widespread dialect takes.
-/

namespace SqlPipe.Sql

/-- The lexical rules of a dialect. -/
structure Lexicon where
  beginsName : Char → Bool
  continuesName : Char → Bool
  opensName : Char → Bool
  /-- A character that makes an operator of the characters around it. -/
  continuesOperator : Char → Bool
  backslashEscapes : Bool
  byteLiterals : Bool
  rawLiterals : Bool
  escapedLiterals : Bool
  unicodeLiterals : Bool
  digitNames : Bool
  digitSeparators : Bool
  /-- A `$` may stand inside a parameter, so that there are no dollar tags. -/
  dollarPlaceholders : Bool
  /-- `--` begins a comment only in front of a blank. -/
  dashesNeedBlank : Bool
  hashComments : Bool
  /-- A carriage return ends a line comment. -/
  returnEndsComment : Bool
  nestedComments : Bool
  geometry : Bool
  doubleSlash : Bool

def codeIn (low high : Nat) (c : Char) : Bool :=
  low ≤ c.toNat && c.toNat ≤ high

/-- The rules that all dialects share unless they say otherwise. -/
def Lexicon.shared : Lexicon where
  beginsName c := Text.isAlphabetic c || c == '_' || c == '#' || c == '@'
  continuesName c :=
    Text.isAlphabetic c || c.isDigit || c == '@' || c == '$' || c == '#' || c == '_'
  opensName c := c == '\x22' || c == '\x60'
  continuesOperator _ := false
  backslashEscapes := false
  byteLiterals := false
  rawLiterals := false
  escapedLiterals := false
  unicodeLiterals := false
  digitNames := false
  digitSeparators := false
  dollarPlaceholders := false
  dashesNeedBlank := false
  hashComments := false
  returnEndsComment := false
  nestedComments := false
  geometry := false
  doubleSlash := false

def Lexicon.of : Dialect → Lexicon
  | .mysql =>
      let begins c :=
        Text.isAlphabetic c || c == '_' || c == '$' || c == '@' || codeIn 0x80 0xFFFF c
      { Lexicon.shared with
        beginsName := begins
        continuesName := fun c => begins c || c.isDigit
        opensName := (· == '\x60')
        backslashEscapes := true
        byteLiterals := true
        digitNames := true
        dashesNeedBlank := true
        hashComments := true }
  | .postgres =>
      let begins c := Text.isAlphabetic c || c == '_' || 0x80 ≤ c.toNat
      { Lexicon.shared with
        beginsName := begins
        continuesName := fun c => begins c || c.isDigit || c == '$'
        opensName := (· == '\x22')
        continuesOperator := ("+-*/<>=~!@#%^&|`?".toList.contains ·)
        byteLiterals := true
        escapedLiterals := true
        unicodeLiterals := true
        digitSeparators := true
        returnEndsComment := true
        nestedComments := true
        geometry := true }
  | .sqlite =>
      let begins c := c.isAlpha || c == '_' || codeIn 0x7F 0xFFFF c
      { Lexicon.shared with
        beginsName := begins
        continuesName := fun c => begins c || c.isDigit
        opensName := fun c => c == '\x60' || c == '\x22' || c == '['
        dollarPlaceholders := true }
  | .oracle =>
      { Lexicon.shared with
        byteLiterals := true
        rawLiterals := true
        escapedLiterals := true
        unicodeLiterals := true
        nestedComments := true
        geometry := true
        doubleSlash := true }
  | .sqlServer =>
      { Lexicon.shared with
        opensName := fun c => c == '\x22' || c == '['
        nestedComments := true }

end SqlPipe.Sql
