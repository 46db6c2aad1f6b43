import SqlPipe.Text.Search

/-!
# Batched inserts

An `INSERT ... VALUES` statement is a target and rows.  Rows of inserts with one target can be sent
as a single statement, so the target is the key under which rows wait.
-/

namespace SqlPipe

/-- The written values of one row. -/
structure Row where
  values : List String
  deriving DecidableEq, Repr

def Row.render (row : Row) : String :=
  "(" ++ ", ".intercalate row.values ++ ")"

def assembleRows (target : String) (rows : List String) : String :=
  target ++ "VALUES " ++ ", ".intercalate rows

/-- An insert split into its target and its rows. -/
structure Insert where
  /-- Everything before the keyword `VALUES`, ending in a blank. -/
  target : String
  rows : List Row
  deriving DecidableEq, Repr

def Insert.toSql (insert : Insert) : String :=
  assembleRows insert.target (insert.rows.map Row.render)

end SqlPipe
