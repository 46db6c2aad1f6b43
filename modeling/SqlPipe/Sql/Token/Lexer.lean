import SqlPipe.Sql.SyntaxError
import SqlPipe.Sql.Token.Operator
import SqlPipe.Text.Space

/-!
# Reading tokens

A text is read token by token.  Each reader takes a cursor, that is a place and what follows it,
and returns a token and the cursor behind it.  What a reader takes is never empty, so a text is
read in at most as many steps as it has characters.
-/

namespace SqlPipe.Sql

def Place.after (place : Place) (c : Char) : Place :=
  if c == '\n' then ⟨place.line + 1, 1⟩ else ⟨place.line, place.column + 1⟩

structure Cursor where
  rest : List Char
  place : Place

namespace Cursor

def start (text : List Char) : Cursor := ⟨text, ⟨1, 1⟩⟩

def skip (cursor : Cursor) : Cursor :=
  match cursor.rest with
  | [] => cursor
  | c :: rest => ⟨rest, cursor.place.after c⟩

def drop : Nat → Cursor → Cursor
  | 0, cursor => cursor
  | n + 1, cursor => drop n cursor.skip

/-- Takes characters as long as the test accepts a character and the one after it. -/
def spanOnto
    (keep : Char → Option Char → Bool) (taken : List Char) (place : Place) :
    List Char → List Char × Cursor
  | [] => (taken.reverse, ⟨[], place⟩)
  | c :: rest =>
      if keep c rest.head? then spanOnto keep (c :: taken) (place.after c) rest
      else (taken.reverse, ⟨c :: rest, place⟩)

def span (cursor : Cursor) (keep : Char → Bool) : List Char × Cursor :=
  spanOnto (fun c _ => keep c) [] cursor.place cursor.rest

/-- Takes what stands before the first occurrence of a part, and passes the part. -/
def throughOnto
    (part taken : List Char) (place : Place) : List Char → Option (List Char × Cursor)
  | [] => none
  | c :: rest =>
      if Text.startsWith part (c :: rest) then
        some (taken.reverse, drop part.length ⟨c :: rest, place⟩)
      else throughOnto part (c :: taken) (place.after c) rest

def through? (cursor : Cursor) (part : List Char) : Option (List Char × Cursor) :=
  throughOnto part [] cursor.place cursor.rest

def finish (cursor : Cursor) : Place :=
  cursor.rest.foldl Place.after cursor.place

end Cursor

/-- Takes the inside of a literal up to its closing quote, as it is written.  A doubled quote, and
with backslash escapes a backslash and the character after it, belong to the inside. -/
def insideOnto
    (quote : Char) (backslash : Bool) (taken : List Char) (place : Place) :
    List Char → Option (List Char × Cursor)
  | [] => none
  | [c] => if c == quote then some (taken.reverse, ⟨[], place.after c⟩) else none
  | c :: d :: rest =>
      if c == quote then
        if d == quote then
          insideOnto quote backslash (d :: c :: taken) ((place.after c).after d) rest
        else some (taken.reverse, ⟨d :: rest, place.after c⟩)
      else if backslash && c == '\\' then
        insideOnto quote backslash (d :: c :: taken) ((place.after c).after d) rest
      else insideOnto quote backslash (c :: taken) (place.after c) (d :: rest)

def inside? (quote : Char) (backslash : Bool) (cursor : Cursor) : Option (List Char × Cursor) :=
  insideOnto quote backslash [] cursor.skip.place cursor.skip.rest

/-- Passes a block comment whose opening is passed already.  `depth` counts the comments around
the current one. -/
def blockEnd (nested : Bool) (depth : Nat) (place : Place) : List Char → Option Cursor
  | [] => none
  | [_] => none
  | c :: d :: rest =>
      if nested && c == '/' && d == '*' then
        blockEnd nested (depth + 1) ((place.after c).after d) rest
      else if c == '*' && d == '/' then
        match depth with
        | 0 => some ⟨rest, (place.after c).after d⟩
        | depth + 1 => blockEnd nested depth ((place.after c).after d) rest
      else blockEnd nested depth (place.after c) (d :: rest)

/-! ## Literals with numeric escapes -/

def digitValue? (base : Nat) (c : Char) : Option Nat :=
  let value :=
    if c.isDigit then c.toNat - 0x30
    else if 'a' ≤ c && c ≤ 'f' then c.toNat - 0x57
    else if 'A' ≤ c && c ≤ 'F' then c.toNat - 0x37
    else 16
  if value < base then some value else none

def numberOf? (base : Nat) (digits : List Char) : Option Nat :=
  if digits.isEmpty then none
  else digits.foldlM (fun value c => return value * base + (← digitValue? base c)) 0

def charOf? (code : Nat) : Option Char :=
  if code.isValidChar then some (Char.ofNat code) else none

/-- The character of a single byte, which has to be ASCII. -/
def byteChar? (base : Nat) (digits : List Char) : Option Char := do
  -- three octal digits can go beyond a byte
  let code := (← numberOf? base digits) % 256
  if code ≤ 127 then charOf? code else none

/-- The character named by a fixed number of hexadecimal digits, which a plus sign may lead. -/
def wideEscape? (width : Nat) (cursor : Cursor) : Option (Char × Cursor) := do
  let digits := cursor.rest.take width
  if digits.length < width then none
  else
    let digits := if digits.head? == some '+' then digits.drop 1 else digits
    let c ← charOf? (← numberOf? 16 digits)
    pure (c, cursor.drop width)

def digitsUpTo (base limit : Nat) (cursor : Cursor) : List Char × Cursor :=
  let digits := (cursor.rest.take limit).takeWhile fun c => (digitValue? base c).isSome
  (digits, cursor.drop digits.length)

/-- The character that an escape stands for, the backslash being passed. -/
def escape? (cursor : Cursor) : Option (Char × Cursor) :=
  match cursor.rest with
  | [] => none
  | c :: _ =>
      let next := cursor.skip
      match c with
      | 'b' => some ('\x08', next)
      | 'f' => some ('\x0c', next)
      | 'n' => some ('\n', next)
      | 'r' => some ('\r', next)
      | 't' => some ('\t', next)
      | 'u' => wideEscape? 4 next
      | 'U' => wideEscape? 8 next
      | 'x' =>
          let (digits, after) := digitsUpTo 16 2 next
          if digits.isEmpty then some ('x', next)
          else (byteChar? 16 digits).map ((·, after))
      | _ =>
          if (digitValue? 8 c).isSome then
            let (digits, after) := digitsUpTo 8 3 cursor
            (byteChar? 8 digits).map ((·, after))
          else some (c, next)

def escapedInside? (decoded : List Char) (cursor : Cursor) : Nat → Option (List Char × Cursor)
  | 0 => none
  | steps + 1 =>
      match cursor.rest with
      | [] => none
      | '\x27' :: '\x27' :: _ => escapedInside? ('\x27' :: decoded) (cursor.drop 2) steps
      | '\x27' :: _ => some (decoded.reverse, cursor.skip)
      | '\\' :: _ =>
          match escape? cursor.skip with
          | some (c, cursor) =>
              if c == '\x00' then none else escapedInside? (c :: decoded) cursor steps
          | none => none
      | c :: _ => escapedInside? (c :: decoded) cursor.skip steps

def codePoint? (value : Nat) (cursor : Cursor) : Nat → Except SyntaxError (Char × Cursor)
  | 0 =>
      match charOf? value with
      | some c => .ok (c, cursor)
      | none =>
          .error (.lexical ("Invalid unicode character: " ++ String.ofList (Nat.toDigits 16 value))
            cursor.place)
  | width + 1 =>
      match cursor.rest with
      | [] =>
          .error (.lexical "Unexpected EOF while parsing hex digit in escaped unicode string."
            cursor.place)
      | c :: _ =>
          match digitValue? 16 c with
          | some digit => codePoint? (value * 16 + digit) cursor.skip width
          | none =>
              .error (.lexical ("Invalid hex digit in escaped unicode string: " ++ c.toString)
                cursor.skip.place)

def unicodeInside? (decoded : List Char) (cursor : Cursor) :
    Nat → Except SyntaxError (List Char × Cursor)
  | 0 => .error (.lexical "Unterminated unicode encoded string literal" cursor.place)
  | steps + 1 =>
      match cursor.rest with
      | [] => .error (.lexical "Unterminated unicode encoded string literal" cursor.place)
      | '\x27' :: '\x27' :: _ => unicodeInside? ('\x27' :: decoded) (cursor.drop 2) steps
      | '\x27' :: _ => .ok (decoded.reverse, cursor.skip)
      | '\\' :: '\\' :: _ => unicodeInside? ('\\' :: decoded) (cursor.drop 2) steps
      | '\\' :: '+' :: _ => do
          let (c, cursor) ← codePoint? 0 (cursor.drop 2) 6
          unicodeInside? (c :: decoded) cursor steps
      | '\\' :: _ => do
          let (c, cursor) ← codePoint? 0 cursor.skip 4
          unicodeInside? (c :: decoded) cursor steps
      | c :: _ => unicodeInside? (c :: decoded) cursor.skip steps

/-! ## One token -/

/-- The token that stood immediately in front, when there is no gap. -/
abbrev Previous := Option Token

abbrev Reading := Except SyntaxError (Token × Cursor)

def readWord (lexicon : Lexicon) (taken : List Char) (cursor : Cursor) : Token × Cursor :=
  let (more, cursor) := cursor.span lexicon.continuesName
  let value := taken ++ more
  (.word (String.ofList value) none (keywordOf value), cursor)

def readLiteral (kind : Literal) (quote : Char) (backslash : Bool) (cursor : Cursor) : Reading :=
  match inside? quote backslash cursor with
  | some (inside, after) => .ok (.literal kind (String.ofList inside), after)
  | none => .error (.lexical "Unterminated string literal" cursor.place)

def readRaw (once thrice : Literal) (quote : Char) (cursor : Cursor) : Reading :=
  let unterminated := .error (.lexical "Unterminated string literal" cursor.place)
  if Text.startsWith [quote, quote, quote] cursor.rest then
    match (cursor.drop 3).through? [quote, quote, quote] with
    | some (inside, after) => .ok (.literal thrice (String.ofList inside), after)
    | none => unterminated
  else if Text.startsWith [quote, quote] cursor.rest then .ok (.literal once "", cursor.drop 2)
  else readLiteral once quote false cursor

def readQuotedName (cursor : Cursor) (opening : Char) : Reading :=
  let closing := closingQuote opening
  match inside? closing false cursor with
  | some (inside, after) => .ok (.word (String.ofList inside) (some opening) "", after)
  | none =>
      .error (.lexical
        ("Expected close delimiter '" ++ closing.toString ++ "' before EOF.") cursor.place)

def takeExponent (cursor : Cursor) : List Char × Cursor :=
  match cursor.rest with
  | e :: rest =>
      if e == 'e' || e == 'E' then
        let sign := match rest with
          | '+' :: _ => ['+']
          | '-' :: _ => ['-']
          | _ => []
        let (digits, after) := (cursor.drop (1 + sign.length)).span Char.isDigit
        if digits.isEmpty then ([], cursor) else (e :: sign ++ digits, after)
      else ([], cursor)
  | [] => ([], cursor)

/-- A number, or what begins like one. -/
def readNumber (lexicon : Lexicon) (previous : Previous) (cursor : Cursor) : Reading :=
  let afterWord := match previous with
    | some (.word ..) => true
    | _ => false
  let afterPeriod := previous == some (.symbol ".")
  let separator c (next : Option Char) :=
    lexicon.digitSeparators && c == '_' &&
      next.any fun d => (digitValue? 16 d).isSome
  let digits cursor :=
    Cursor.spanOnto (fun c next => c.isDigit || separator c next) [] cursor.place cursor.rest
  if Text.startsWith ['.', '_'] cursor.rest then
    if afterWord then .ok (.symbol ".", cursor.skip)
    else .error (.lexical "Unexpected character '_'" cursor.place)
  else
    let (whole, after) := digits cursor
    if whole == ['0'] && after.rest.head? == some 'x' then
      let after := after.skip
      let (inside, after) :=
        Cursor.spanOnto (fun c next => (digitValue? 16 c).isSome || separator c next) []
          after.place after.rest
      .ok (.literal .hex (String.ofList inside), after)
    else
      let point := after.rest.head? == some '.'
      let after := if point then after.skip else after
      if whole.isEmpty && lexicon.digitNames && afterWord then .ok (.symbol ".", after)
      else
        let (fraction, after) := digits after
        if whole.isEmpty && fraction.isEmpty then .ok (.symbol ".", after)
        else
          let mantissa := whole ++ (if point then ['.'] else []) ++ fraction
          let (exponent, after) := takeExponent after
          let number := mantissa ++ exponent
          let (more, afterName) :=
            if lexicon.digitNames && exponent.isEmpty then after.span lexicon.continuesName
            else ([], after)
          -- behind digits letters make a name where names may begin with digits
          if !more.isEmpty then
            let value := number ++ more
            .ok (.word (String.ofList value) none (keywordOf value), afterName)
          else if lexicon.digitNames && !exponent.isEmpty && afterPeriod then
            .ok (.word (String.ofList number) none (keywordOf number), after)
          else if after.rest.head? == some 'L' then
            .ok (.number (String.ofList number) true, after.skip)
          else .ok (.number (String.ofList number) false, after)

/-- What begins with a dollar: a literal between tags, or a parameter. -/
def readDollar (lexicon : Lexicon) (cursor : Cursor) : Reading :=
  let after := cursor.skip
  let (tag, behind) :=
    after.span fun c =>
      Text.isAlphanumeric c || c == '_' || (lexicon.dollarPlaceholders && c == '$')
  if !lexicon.dollarPlaceholders && behind.rest.head? == some '$' then
    let delimiter := '$' :: tag ++ ['$']
    match behind.skip.through? delimiter with
    | some (inside, after) =>
        let tag := if tag.isEmpty then none else some (String.ofList tag)
        .ok (.dollar tag (String.ofList inside), after)
    | none =>
        let reason :=
          if tag.isEmpty then "Unterminated dollar-quoted string"
          else "Unterminated dollar-quoted, expected $"
        .error (.lexical reason behind.finish)
  else .ok (.placeholder (String.ofList ('$' :: tag)), behind)

def readSpelling (lexicon : Lexicon) (spelling : Spelling) (cursor : Cursor) : Reading :=
  let after := cursor.drop spelling.text.length
  let (more, behind) := if spelling.extends_ then after.span lexicon.continuesOperator
    else ([], after)
  if !more.isEmpty then .ok (.customOperator (String.ofList (spelling.text ++ more)), behind)
  else
    match spelling.symbol with
    | some symbol => .ok (.symbol symbol, after)
    | none =>
        .error (.lexical
          ("Expected a valid binary operator after '" ++ String.ofList spelling.text ++ "'")
          after.place)

/-- A number of characters in front of a name that begins with `@` or `#`, if one comes next. -/
def signedName? (lexicon : Lexicon) (text : List Char) : Option Nat :=
  match text with
  | '@' :: '@' :: c :: _ =>
      if c != ' ' && lexicon.beginsName '@' then some 3 else none
  | '@' :: '@' :: [] => none
  | '@' :: c :: _ =>
      if !([' ', '\x27', '\x22', '\x60'].contains c) && lexicon.beginsName '@' then some 2
      else none
  | '#' :: c :: _ => if c != ' ' && lexicon.beginsName '#' then some 2 else none
  | _ => none

def readOperator? (lexicon : Lexicon) (cursor : Cursor) : Option Reading :=
  match Spelling.find? lexicon cursor.rest Spelling.compound with
  | some spelling => some (readSpelling lexicon spelling cursor)
  | none =>
      match signedName? lexicon cursor.rest with
      | some width =>
          some (.ok (readWord lexicon (cursor.rest.take width) (cursor.drop width)))
      | none =>
          match cursor.rest with
          | '@' :: '@' :: _ => some (.ok (.symbol "@@", cursor.drop 2))
          | '/' :: '/' :: _ =>
              if lexicon.doubleSlash then some (.ok (.symbol "//", cursor.drop 2))
              else some (.ok (.symbol "/", cursor.skip))
          | text =>
              (Spelling.find? lexicon text Spelling.single).map fun spelling =>
                readSpelling lexicon spelling cursor

def readAnnounced? (lexicon : Lexicon) (cursor : Cursor) : Option Reading :=
  let next := cursor.skip
  match cursor.rest with
  | c :: '\x27' :: _ =>
      if lexicon.byteLiterals && (c == 'b' || c == 'B') then
        some (readLiteral .byteSingle '\x27' false next)
      else if lexicon.rawLiterals && (c == 'r' || c == 'R') then
        some (readRaw .rawSingle .rawTripleSingle '\x27' next)
      else if c == 'n' || c == 'N' then
        some (readLiteral .national '\x27' lexicon.backslashEscapes next)
      else if lexicon.escapedLiterals && (c == 'e' || c == 'E') then
        some (match escapedInside? [] next.skip next.rest.length with
          | some (inside, after) => .ok (.literal .escaped (String.ofList inside), after)
          | none => .error (.lexical "Unterminated encoded string literal" cursor.place))
      else if c == 'x' || c == 'X' then some (readLiteral .hex '\x27' true next)
      else none
  | c :: '\x22' :: _ =>
      if lexicon.byteLiterals && (c == 'b' || c == 'B') then
        some (readLiteral .byteDouble '\x22' false next)
      else if lexicon.rawLiterals && (c == 'r' || c == 'R') then
        some (readRaw .rawDouble .rawTripleDouble '\x22' next)
      else none
  | c :: '&' :: '\x27' :: _ =>
      if lexicon.unicodeLiterals && (c == 'u' || c == 'U') then
        some (do
          let (inside, after) ← unicodeInside? [] (cursor.drop 3) cursor.rest.length
          pure (.literal .unicode (String.ofList inside), after))
      else none
  | _ => none

/-- The token at a character that is neither white space nor the beginning of a comment. -/
def readToken (lexicon : Lexicon) (previous : Previous) (c : Char) (cursor : Cursor) : Reading :=
  match readAnnounced? lexicon cursor with
  | some reading => reading
  | none =>
      if c == '\x27' then readLiteral .single c lexicon.backslashEscapes cursor
      else if lexicon.opensName c then readQuotedName cursor c
      else if c == '\x22' && !lexicon.beginsName c then
        readLiteral .double c lexicon.backslashEscapes cursor
      else if c.isDigit || c == '.' then readNumber lexicon previous cursor
      else
        match readOperator? lexicon cursor with
        | some reading => reading
        | none =>
            if c == '?' then
              let (digits, after) := cursor.skip.span Text.isNumeric
              .ok (.placeholder (String.ofList ('?' :: digits)), after)
            else if lexicon.beginsName c then .ok (readWord lexicon [c] cursor.skip)
            else if c == '$' then readDollar lexicon cursor
            else .ok (.stray c, cursor.skip)

/-! ## Gaps and whole texts -/

def lineEnd (lexicon : Lexicon) (cursor : Cursor) : Cursor :=
  (cursor.span fun c => !(c == '\n' || (lexicon.returnEndsComment && c == '\r'))).2.skip

def readGap? (lexicon : Lexicon) (cursor : Cursor) : Option (Except SyntaxError (Gap × Cursor)) :=
  match cursor.rest with
  | '\n' :: _ => some (.ok (.line, cursor.skip))
  | '\r' :: '\n' :: _ => some (.ok (.line, cursor.drop 2))
  | '\r' :: _ => some (.ok (.line, cursor.skip))
  | '-' :: '-' :: rest =>
      if lexicon.dashesNeedBlank && rest.head? != some ' ' then none
      else some (.ok (.blank, lineEnd lexicon cursor))
  | '/' :: '*' :: rest =>
      some (match blockEnd lexicon.nestedComments 0 (cursor.drop 2).place rest with
        | some after => .ok (.blank, after)
        | none =>
            .error (.lexical "Unexpected EOF while in a multi-line comment" cursor.finish))
  | c :: _ =>
      if c == ' ' || c == '\t' then some (.ok (.blank, cursor.skip))
      else if c == '#' && lexicon.hashComments then some (.ok (.blank, lineEnd lexicon cursor))
      else if Text.isSpace c && !lexicon.beginsName c then some (.ok (.blank, cursor.skip))
      else none
  | [] => none

def Gap.join : Gap → Gap → Gap
  | .line, _ => .line
  | _, .line => .line
  | .blank, _ => .blank
  | .none, gap => gap

/-- Reads all tokens, which stand last token first in `read`. -/
def readAll
    (lexicon : Lexicon) (read : List Located) (gap : Gap) (cursor : Cursor) :
    Nat → Except SyntaxError (List Located)
  | 0 => .ok read.reverse
  | steps + 1 =>
      match cursor.rest with
      | [] => .ok read.reverse
      | c :: _ =>
          match readGap? lexicon cursor with
          | some (.ok (more, after)) => readAll lexicon read (gap.join more) after steps
          | some (.error error) => .error error
          | none =>
              let previous :=
                if gap = .none then read.head?.map Located.token else Option.none
              match readToken lexicon previous c cursor with
              | .ok (token, after) =>
                  readAll lexicon (⟨token, cursor.place, gap⟩ :: read) .none after steps
              | .error error => .error error

def tokensOf (lexicon : Lexicon) (text : String) : Except SyntaxError (List Located) :=
  let chars := text.toList
  readAll lexicon [] .none (.start chars) chars.length

end SqlPipe.Sql
