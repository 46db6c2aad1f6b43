import SqlPipe.Proofs.Sql.Names
import SqlPipe.Proofs.Sql.Rows

/-!
# Inserts read part by part

An insert as a batch writes it: its beginning with the name of the table, its columns, and its rows,
with nothing behind them.  Each part is read in front of the one behind it.
-/

namespace SqlPipe.Sql

open SqlPipe.Sql.Parser

/-- An insert of which only what stands in front of the columns was read. -/
def InsertTree.opened (ignoring : Bool) (name : QualifiedName) : InsertTree :=
  { InsertTree.appending ignoring true false name [] (.ofBody ⟨"", none⟩) with
    source := .unstated }

def headTokens (ignoring : Bool) (name : List (Ident × String)) : List Token :=
  (if ignoring then [wordToken "IGNORE".toList] else []) ++
    wordToken "INTO".toList ::
      [Token.symbol "."].intercalate (name.map fun part => [nameToken part])

/-- What stands behind the name of a table in a batch: its columns or its rows. -/
def EndsTable (rest : List Located) : Prop :=
  tokenAt rest = some (.symbol "(") ∨ tokenAt rest = some (wordToken "VALUES".toList)

section Insert

variable {context : Context} {below : Productions} {ignoring : Bool}
  {name columns : List (Ident × String)}

theorem EndsTable.keywordAt_ne {rest : List Located} (hrest : EndsTable rest) {word : String}
    (hempty : "" ≠ word) (hvalues : "VALUES" ≠ word) : keywordAt rest ≠ word := by
  obtain _ | ⟨located, rest⟩ := rest
  · exact hempty
  · obtain hsymbol | hword : located.token = .symbol "(" ∨
        located.token = wordToken "VALUES".toList := by
      simpa [EndsTable, tokenAt] using hrest
    · rw [keywordAt, hsymbol]
      exact hempty
    · rw [keywordAt, hword]
      exact hvalues

theorem EndsTable.tokenAt_ne {rest : List Located} (hrest : EndsTable rest) {text : String}
    (htext : "(" ≠ text) : tokenAt rest ≠ some (.symbol text) := by
  rcases hrest with h | h
  · simpa [h] using htext
  · simp [h, wordToken]

section Table

variable (hfree : ∀ part ∈ name, part.2 ∉ takenWords) (hne : name ≠ [])

include hfree hne

theorem keywordAt_ne_taken {located : List Located} (rest : List Located)
    (hlocated : located.map Located.token =
      [Token.symbol "."].intercalate (name.map fun part => [nameToken part]))
    {word : String} (hword : word ∈ takenWords) : keywordAt (located ++ rest) ≠ word := by
  obtain ⟨part, name, rfl⟩ := List.exists_cons_of_ne_nil hne
  rw [List.map_cons, intercalate_cons, List.singleton_append] at hlocated
  obtain ⟨place, gap, others, rfl, -⟩ := exists_located hlocated
  rintro rfl
  exact hfree part List.mem_cons_self hword

theorem reads_target (hbound : name.length ≤ context.bound) :
    Reads context (Manipulation.target below)
      ([Token.symbol "."].intercalate (name.map fun part => [nameToken part])) EndsTable
      (.table (name.map Prod.fst)) := by
  intro located rest hlocated hrest
  have hfunction : keywordAt (located ++ rest) ≠ "FUNCTION" :=
    keywordAt_ne_taken hfree hne rest hlocated (by decide)
  have hname := reads_qualifiedName hne hbound hlocated (hrest.tokenAt_ne (by decide))
  unfold Manipulation.target
  exact ok_bind (among_of_false (keyword?_of_ne hfunction) _) (map_of_ok _ hname)

end Table

section Options

variable {front behind : List Located}
  (hfront : front.map Located.token = if ignoring then [wordToken "IGNORE".toList] else [])
  (hbehind : keywordAt behind = "INTO")

include hfront hbehind

theorem keywordAt_options :
    keywordAt (front ++ behind) = if ignoring then "IGNORE" else "INTO" := by
  cases ignoring with
  | false =>
      obtain rfl := List.map_eq_nil_iff.mp hfront
      exact hbehind
  | true =>
      obtain ⟨place, gap, none, rfl, -⟩ := exists_located hfront
      rfl

theorem conflict?_of_options :
    Manipulation.conflict? context (front ++ behind) = .ok (none, front ++ behind) := by
  have hkeyword := keywordAt_options hfront hbehind
  have hreplace : keywordAt (front ++ behind) ≠ "REPLACE" := by
    rw [hkeyword]
    cases ignoring <;> decide
  have hor : keywordAt (front ++ behind) ≠ "OR" := by
    rw [hkeyword]
    cases ignoring <;> decide
  have hat : atKeyword "OR" context (front ++ behind) = .ok (false, front ++ behind) := by
    refine ok_bind peekKeyword_eq ?_
    rw [beq_false_of_ne hor]
    exact pure_eq
  exact ok_bind (keyword?_of_ne hreplace) (ok_bind hat pure_eq)

/-- A batch says nothing of its priority, whether the dialect has priorities or not. -/
theorem priority_of_options (generous : Bool) :
    (if generous = true then anyKeyword? ["LOW_PRIORITY", "DELAYED", "HIGH_PRIORITY"]
      else pure none) context (front ++ behind) = .ok (none, front ++ behind) := by
  split
  · apply anyKeyword?_of_not_mem
    rw [keywordAt_options hfront hbehind]
    cases ignoring <;> decide
  · exact pure_eq

theorem ignoring_of_options {generous : Bool} (hgenerous : ignoring = true → generous = true) :
    (if generous = true then keyword? "IGNORE" else pure false) context (front ++ behind) =
      .ok (ignoring, behind) := by
  cases ignoring with
  | false =>
      obtain rfl := List.map_eq_nil_iff.mp hfront
      split
      · exact keyword?_of_ne (by rw [List.nil_append, hbehind]; decide)
      · exact pure_eq
  | true =>
      obtain ⟨place, gap, none, rfl, hnone⟩ := exists_located hfront
      obtain rfl := List.map_eq_nil_iff.mp hnone
      rw [if_pos (hgenerous rfl)]
      exact keyword?_of_eq rfl

end Options

theorem reads_insertHead
    (hignoring : ignoring = true → context.dialect = .mysql ∨ context.dialect = .oracle)
    (hfree : ∀ part ∈ name, part.2 ∉ takenWords) (hne : name ≠ [])
    (hbound : name.length ≤ context.bound) :
    Reads context (Manipulation.insertHead below false) (headTokens ignoring name) EndsTable
      (.opened ignoring (name.map Prod.fst)) := by
  intro located rest hlocated hrest
  obtain ⟨front, others, rfl, hfront, hothers⟩ := List.map_eq_append_iff.mp hlocated
  obtain ⟨place, gap, table, rfl, htable⟩ := exists_located hothers
  have hlocal : keywordAt (table ++ rest) ≠ "LOCAL" :=
    keywordAt_ne_taken hfree hne rest htable (by decide)
  have htableWord : keywordAt (table ++ rest) ≠ "TABLE" :=
    keywordAt_ne_taken hfree hne rest htable (by decide)
  have hinto : keywordAt (⟨wordToken "INTO".toList, place, gap⟩ :: (table ++ rest)) = "INTO" := rfl
  have hgenerous : ignoring = true →
      (context.dialect == .mysql || context.dialect == .oracle) = true := by
    simpa using hignoring
  have hotherName : (if (context.dialect == .postgres) = true then
      behind? "AS" (Ident.text <$> identifier) else pure none) context rest = .ok (none, rest) := by
    split
    · exact behind?_of_ne (hrest.keywordAt_ne (by decide) (by decide)) _
    · exact pure_eq
  rw [List.append_assoc, List.cons_append]
  unfold Manipulation.insertHead
  refine ok_bind dialect_eq (ok_bind (conflict?_of_options hfront hinto) ?_)
  refine ite_bind (priority_of_options hfront hinto _) ?_
  refine ite_bind (ignoring_of_options hfront hinto hgenerous) ?_
  refine ok_bind (keyword?_of_ne (by rw [hinto]; decide)) (ok_bind (keyword?_of_eq rfl) ?_)
  refine ok_bind (keyword?_of_ne hlocal) (ok_bind (keyword?_of_ne htableWord) ?_)
  exact ok_bind (reads_target hfree hne hbound htable hrest) (ite_bind hotherName pure_eq)

section Columns

variable {first : Located} {listed located : List Located} {query : Query}
  (hfree : ∀ column ∈ columns, column.2 ∉ takenWords)
  (hlisted : listed.map Located.token = columnTokens columns)
  (hfirst : first.token = wordToken "VALUES".toList)

include hlisted hfirst

theorem endsTable_of_columns : EndsTable (listed ++ first :: located) := by
  unfold columnTokens at hlisted
  split at hlisted
  · obtain rfl := List.map_eq_nil_iff.mp hlisted
    exact .inr (by simp [tokenAt, hfirst])
  · obtain ⟨place, gap, others, rfl, -⟩ := exists_located hlisted
    exact .inl rfl

include hfree

/-- What stands behind the name of a table in a batch is no query between parentheses. -/
theorem atQuery_eq_false : ∃ found word,
    atSymbol "(" context (listed ++ first :: located) = .ok (found, listed ++ first :: located) ∧
    peekKeywordAt 1 context (listed ++ first :: located) =
      .ok (word, listed ++ first :: located) ∧ (found && word == "SELECT") = false := by
  unfold columnTokens at hlisted
  split at hlisted
  next =>
    obtain rfl := List.map_eq_nil_iff.mp hlisted
    have hsymbol : tokenAt (first :: located) ≠ some (.symbol "(") := by
      simp [tokenAt, hfirst, wordToken]
    exact ⟨false, _, atSymbol_of_ne hsymbol, rfl, rfl⟩
  next hsome =>
    obtain ⟨column, columns, rfl⟩ := List.exists_cons_of_ne_nil (by simpa using hsome)
    rw [List.map_cons, intercalate_cons, List.singleton_append, List.cons_append] at hlisted
    obtain ⟨place, gap, others, rfl, hothers⟩ := exists_located hlisted
    obtain ⟨place', gap', others, rfl, -⟩ := exists_located hothers
    have hselect : column.2 ≠ "SELECT" := by
      intro hword
      have hnotTaken := hfree column List.mem_cons_self
      rw [hword] at hnotTaken
      exact hnotTaken (by decide)
    exact ⟨true, column.2, rfl, rfl, by simpa using hselect⟩

variable (hbound : (columnTokens columns).length ≤ context.bound)
  (hquery : below.query context (first :: located) = .ok (query, []))

include hbound hquery

theorem insertBody_eq (head : InsertTree) :
    Manipulation.insertBody below head context (listed ++ first :: located) =
      .ok ({ head with
        columns := columns.map Prod.fst, partition := none, source := .query query }, []) := by
  have hends : EndsTable (listed ++ first :: located) := endsTable_of_columns hlisted hfirst
  have hkeyword : keywordAt (first :: located) = "VALUES" := by
    rw [keywordAt, hfirst]
    rfl
  have hsymbol : tokenAt (first :: located) ≠ some (.symbol "(") := by
    simp [tokenAt, hfirst, wordToken]
  have hsource : Manipulation.insertSource below context (first :: located) =
      .ok (.query query, []) := by
    unfold Manipulation.insertSource
    refine ok_bind (atAnyKeyword_of_not_mem (by rw [hkeyword]; decide)) ?_
    refine ok_bind (among_of_false (keyword?_of_ne (by rw [hkeyword]; decide)) _) ?_
    exact map_of_ok _ hquery
  obtain ⟨found, word, hat, hpeek, hfalse⟩ := atQuery_eq_false hfree hlisted hfirst
  unfold Manipulation.insertBody
  refine ok_bind (keywords?_of_ne (hends.keywordAt_ne (by decide) (by decide))) ?_
  refine ok_bind hat (ok_bind hpeek ?_)
  simp only [hfalse]
  refine ok_bind dialect_eq (ok_bind (reads_columns? _ hbound hlisted hsymbol) ?_)
  refine ok_bind (behind?_of_ne (by rw [hkeyword]; decide) _) (ok_bind hsource ?_)
  exact pure_eq

variable {heads : List Located} (hnameFree : ∀ part ∈ name, part.2 ∉ takenWords) (hne : name ≠ [])
  (hignoring : ignoring = true → context.dialect = .mysql ∨ context.dialect = .oracle)
  (hheads : heads.map Located.token = headTokens ignoring name)
  (hlength : name.length ≤ context.bound)

include hnameFree hne hignoring hheads hlength

theorem insert_eq :
    Manipulation.insert below false context (heads ++ (listed ++ first :: located)) =
      .ok (.appending ignoring true false (name.map Prod.fst) (columns.map Prod.fst) query,
        []) := by
  have hends : EndsTable (listed ++ first :: located) := endsTable_of_columns hlisted hfirst
  have hhead : Manipulation.insertHead below false context
      (heads ++ (listed ++ first :: located)) =
        .ok (.opened ignoring (name.map Prod.fst), listed ++ first :: located) :=
    reads_insertHead hignoring hnameFree hne hlength hheads hends
  -- No token is left behind the rows, so no clause is found there.
  have hrowName : Manipulation.rowName? context [] = .ok (none, []) := by
    unfold Manipulation.rowName?
    refine ok_bind dialect_eq ?_
    split
    · exact behind?_of_ne (by decide) _
    · exact pure_eq
  have hconflict : Manipulation.onConflict? below context [] = .ok (none, []) := by
    unfold Manipulation.onConflict?
    exact ok_bind (keyword?_of_ne (by decide)) pure_eq
  have hreturning : Manipulation.returning? below context [] = .ok (none, []) :=
    behind?_of_ne (by decide) _
  unfold Manipulation.insert
  refine ok_bind hhead ?_
  refine ok_bind (insertBody_eq hfree hlisted hfirst hbound hquery _) ?_
  exact ok_bind hrowName (ok_bind hconflict (ok_bind hreturning pure_eq))

end Columns

end Insert

/-- An insert behind its keyword is the statement that begins with the keyword. -/
theorem statement_of_insert {below : Productions} {context : Context} {tokens : List Located}
    {tree : InsertTree} (hinsert : Manipulation.insert below false context tokens = .ok (tree, []))
    (place : Place) (gap : Gap) :
    Statement.statement below context (⟨wordToken "INSERT".toList, place, gap⟩ :: tokens) =
      .ok (⟨.insert, some tree⟩, []) := by
  have hbehind : Statement.behindWord? below "INSERT" context tokens =
      .ok (some ⟨.insert, some tree⟩, []) := by
    unfold Statement.behindWord?
    exact ok_bind read_eq (ok_bind hinsert pure_eq)
  have hkeyword : keywordAt (⟨wordToken "INSERT".toList, place, gap⟩ :: tokens) = "INSERT" := rfl
  have hsymbol : tokenAt (⟨wordToken "INSERT".toList, place, gap⟩ :: tokens) ≠
      some (.symbol "(") := by
    simp [tokenAt, wordToken]
  unfold Statement.statement
  refine ok_bind peekKeyword_eq ?_
  rw [hkeyword]
  refine ok_bind (atSymbol_of_ne hsymbol) (ok_bind get_eq (ok_bind advance_eq ?_))
  exact ok_bind hbehind pure_eq

theorem statementList_singleton {context : Context} {located : Located} {tokens : List Located}
    {tree : Tree} (hword : located.token ≠ .symbol ";")
    (hstatement : (Productions.atDepth nestingLimit).statement context (located :: tokens) =
      .ok (tree, [])) (rounds : ℕ) :
    statementList [] true (rounds + 2) context (located :: tokens) = .ok ([tree], []) := by
  have hsymbol : tokenAt (located :: tokens) ≠ some (.symbol ";") := by
    simpa [tokenAt] using hword
  have hend : statementList [tree] false (rounds + 1) context [] = .ok ([tree], []) := by
    unfold statementList
    exact ok_bind (symbol?_of_ne (by decide)) (ok_bind peek?_eq pure_eq)
  unfold statementList
  refine ok_bind (symbol?_of_ne hsymbol) (ok_bind peek?_eq ?_)
  refine ok_bind peekKeyword_eq ?_
  exact ok_bind hstatement hend

end SqlPipe.Sql
