import SqlPipe.Classify.Layout
import SqlPipe.Statement

/-!
# Classes by keyword

The class of a statement as its words tell it: first the few phrases that mean transaction control
only when they stand alone, then the leading keyword, by the dialect's own table and then by the
table that all dialects share.  Every text has a class.
-/

namespace SqlPipe.Classify

open StatementClass

/-- Statements that are transaction control when they are written exactly so. -/
def phraseClass? (dialect : Dialect) (phrase : String) : Option StatementClass :=
  match phrase with
  | "begin" | "start transaction" => some (transaction .opening)
  | "commit" | "rollback" => some (transaction .closing)
  | _ =>
      match dialect, phrase with
      | .sqlite, "begin transaction"
      | .sqlite, "begin deferred"
      | .sqlite, "begin deferred transaction"
      | .sqlite, "begin immediate"
      | .sqlite, "begin immediate transaction"
      | .sqlite, "begin exclusive"
      | .sqlite, "begin exclusive transaction" => some (transaction .opening)
      | .sqlite, "end"
      | .sqlite, "end transaction"
      | .sqlite, "commit transaction"
      | .sqlite, "rollback transaction" => some (transaction .closing)
      | .mysql, "begin work"
      | .mysql, "start transaction read only"
      | .mysql, "start transaction read write"
      | .mysql, "start transaction with consistent snapshot" => some (transaction .opening)
      | .mysql, "commit work"
      | .mysql, "rollback work" => some (transaction .closing)
      | .sqlServer, "begin tran"
      | .sqlServer, "begin transaction" => some (transaction .opening)
      | .sqlServer, "commit tran"
      | .sqlServer, "commit transaction"
      | .sqlServer, "rollback tran"
      | .sqlServer, "rollback transaction" => some (transaction .closing)
      | .oracle, "commit work"
      | .oracle, "rollback work" => some (transaction .closing)
      | _, _ => none

def dialectClass? (dialect : Dialect) (word : String) : Option StatementClass :=
  match dialect, word with
  | .mysql, "call" => some control
  | .postgres, "lock" => some (manipulation .anySession)
  | .postgres, "vacuum"
  | .postgres, "reindex"
  | .postgres, "cluster"
  | .postgres, "checkpoint" => some control
  | .postgres, "comment"
  | .postgres, "do" => some definition
  | .postgres, "with"
  | .postgres, "values" => some (manipulation .anySession)
  | .postgres, "discard"
  | .postgres, "reset" => some (manipulation .everySession)
  | .sqlite, "pragma"
  | .sqlite, "attach"
  | .sqlite, "detach" => some (manipulation .everySession)
  | .sqlite, "vacuum" => some control
  | .sqlite, "reindex" => some definition
  | .sqlite, "with" => some (manipulation .anySession)
  | .sqlServer, "exec"
  | .sqlServer, "execute" => some control
  | .sqlServer, "merge"
  | .sqlServer, "with" => some (manipulation .anySession)
  | .oracle, "merge"
  | .oracle, "with" => some (manipulation .anySession)
  | .oracle, "call"
  | .oracle, "exec" => some control
  | .oracle, "comment" => some definition
  | _, _ => none

def sharedClass? (word : String) : Option StatementClass :=
  match word with
  | "select" | "insert" | "replace" | "update" | "delete" | "copy" =>
      some (manipulation .anySession)
  | "stream" | "vstream" | "revert" | "flush" => some control
  | "savepoint" | "lock" => some (transaction .opening)
  | "unlock" | "release" | "rollback" => some (transaction .closing)
  | "create" | "alter" | "rename" | "drop" | "truncate" | "grant" | "revoke" => some definition
  | "set" | "use" => some (manipulation .everySession)
  | "show" | "describe" | "desc" | "explain" | "analyze" | "repair" | "optimize" =>
      some (manipulation .anySession)
  | _ => none

/-- The class that the keywords of a text tell. -/
def ofKeywords (dialect : Dialect) (text : String) : StatementClass :=
  match body text.toList with
  | [] => unknown
  -- dumps write the settings of their session so
  | '/' :: '*' :: '!' :: _ => manipulation .everySession
  | code =>
      let byPhrase := (words? code).bind fun words =>
        phraseClass? dialect (String.ofList (Text.joinWith [' '] words))
      let word := String.ofList (firstWord code)
      (byPhrase <|> dialectClass? dialect word <|> sharedClass? word).getD unknown

end SqlPipe.Classify
