import SqlPipe.Sql.Grammar.Productions

/-!
# Intervals

Spans of time and the parts of a time by which they are measured.
-/

namespace SqlPipe.Sql.Interval

open SqlPipe.Sql.Parser

variable (below : Productions)

def temporalUnits : List String :=
  ["YEAR", "YEARS", "MONTH", "MONTHS", "WEEK", "WEEKS", "DAY", "DAYS", "HOUR", "HOURS", "MINUTE",
    "MINUTES", "SECOND", "SECONDS", "CENTURY", "DECADE", "DOW", "DOY", "EPOCH", "ISODOW",
    "ISOYEAR", "JULIAN", "MICROSECOND", "MICROSECONDS", "MILLENIUM", "MILLENNIUM", "MILLISECOND",
    "MILLISECONDS", "NANOSECOND", "NANOSECONDS", "QUARTER", "TIMEZONE", "TIMEZONE_HOUR",
    "TIMEZONE_MINUTE"]

def temporalParts : List String :=
  ["DATE", "DATETIME", "DAYOFWEEK", "DAYOFYEAR", "ISOWEEK", "TIME", "TIMEZONE_ABBR",
    "TIMEZONE_REGION", "YEAROFWEEK", "YEAROFWEEKISO", "WEEKDAY", "WEEKISO", "YEARWEEK"]

def temporalField : Parser String := do
  let dialect ← dialect
  let open_ := dialect == .postgres || dialect == .oracle
  match (← get) with
  | ⟨.word value quote keyword, _, _⟩ :: _ =>
      if temporalUnits.contains keyword || temporalParts.contains keyword then
        advance
        if ← onlyIf (keyword == "WEEK" && dialect == .oracle) (symbol? "(") then
          let start ← identifier
          symbol ")"
          return "WEEK(" ++ start.text ++ ")"
        else pure keyword
      else if open_ then
        advance
        pure (Ident.text ⟨value, quote⟩)
      else expected "date/time field"
  | ⟨.literal .single inside, _, _⟩ :: _ =>
      if open_ then
        advance
        pure (Ident.text ⟨inside, some '\x27'⟩)
      else expected "date/time field"
  | _ => expected "date/time field"

def atTemporalUnit : Parser Bool := return temporalUnits.contains (← peekKeyword)

/-- A span of time behind its keyword.  Where its unit may be missing, the amount is an operand;
where the unit ends it, the amount is any expression. -/
def span (operand : Parser Expr) : Parser Expr := do
  let needsUnit := (← dialect) == .mysql
  let amount ← if needsUnit then below.expression else operand
  let unit? ← if ← atTemporalUnit then some <$> temporalField else pure none
  if needsUnit && unit?.isNone then
    unsupported "INTERVAL requires a unit after the literal value"
  else
    let text := "INTERVAL " ++ amount.text
    match unit? with
    | some "SECOND" =>
        let size ←
          if ← symbol? "(" then
            let whole ← wholeNumber
            let fraction ← if ← symbol? "," then some <$> wholeNumber else pure none
            symbol ")"
            pure (some (commaList (whole :: fraction.toList)))
          else pure none
        pure (.plain (phrase [text, "SECOND", inParens size]))
    | _ =>
        let size := inParens (← precision?)
        if ← keyword? "TO" then
          let last ← temporalField
          let fraction ← if last == "SECOND" then inParens <$> precision? else pure ""
          pure (.plain (phrase [text, unit?.getD "", size, "TO", last, fraction]))
        else pure (.plain (phrase [text, unit?.getD "", size]))

end SqlPipe.Sql.Interval
