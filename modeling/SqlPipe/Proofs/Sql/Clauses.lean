import SqlPipe.Proofs.Sql.Fitting

/-!
# Clauses of a batched insert

What the decomposition of an insert keeps of it, and what it passes over.  It keeps the target, the
columns and the rows, and refuses every clause that it looks at.  At the end of the query there are
clauses that it does not look at: the rows that are fetched, locks, the document that the result
makes, and in one dialect settings and a format.
-/

namespace SqlPipe.Sql

namespace Query

def plain (body : Body) (tail : Tail) : Query :=
  ⟨none, body, none, none, tail.settings, tail.fetch, tail.locks, tail.document, tail.format⟩

theorem eq_plain
    {query : Query} (hhead : query.head = none) (horder : query.order = none)
    (hlimit : query.limit = none) : query = plain query.body query.tail := by
  obtain ⟨head, body, order, limit, settings, fetch, locks, document, format⟩ := query
  simp only at hhead horder hlimit
  subst hhead horder hlimit
  rfl

theorem plainRows?_eq_some_iff {query : Query} {rows : List Row} :
    query.plainRows? = some rows ↔
      ∃ text tail, query = plain ⟨text, some rows⟩ tail ∧ rows ≠ [] := by
  constructor
  · intro hrows
    unfold plainRows? at hrows
    split at hrows
    · cases hrows
    next hplain =>
      simp only [Bool.or_eq_true, Option.isSome_iff_ne_none, not_or, ne_eq, not_not] at hplain
      obtain ⟨⟨hhead, horder⟩, hlimit⟩ := hplain
      obtain ⟨hbody, hne⟩ := Option.filter_eq_some_iff.mp hrows
      refine ⟨query.body.text, query.tail, ?_, by simpa using hne⟩
      have hquery := eq_plain hhead horder hlimit
      rw [← hbody]
      exact hquery
  · rintro ⟨text, tail, rfl, hne⟩
    simp [plainRows?, plain, hne]

end Query

namespace InsertTree

/-- An insert of rows into columns of a table, and nothing else but the end of its query.  What
stands in front of the name of the table makes no difference. -/
def appending
    (ignoring into table : Bool) (name : QualifiedName) (columns : List Ident) (query : Query) :
    InsertTree where
  replacing := false
  conflict := none
  priority := none
  ignoring
  overwriting := false
  into
  table
  target := .table name
  targetName := none
  columns
  partition := none
  source := .query query
  rowName := none
  onConflict := none
  returning := none

def targetText (dialect : Dialect) (ignoring : Bool) (name : QualifiedName)
    (columns : List Ident) : String :=
  let option := if ignoring then "IGNORE " else ""
  let list :=
    if columns.isEmpty then ""
    else "(" ++ commaList (columns.map (Ident.quoted dialect.quoting)) ++ ") "
  "INSERT " ++ option ++ "INTO " ++ name.quoted dialect.quoting ++ " " ++ list

theorem batchTarget?_eq_some_iff {dialect : Dialect} {tree : InsertTree} {text : String} :
    tree.batchTarget? dialect.quoting = some text ↔
      ∃ name, tree.target = .table name ∧
        text = targetText dialect tree.ignoring name tree.columns := by
  unfold batchTarget?
  split
  next function htarget => simp [htarget]
  next name htarget =>
    constructor
    · intro htext
      exact ⟨name, htarget, (Option.some.inj htext).symm⟩
    · rintro ⟨other, hother, rfl⟩
      rw [htarget] at hother
      cases hother
      rfl

theorem eq_appending
    {tree : InsertTree} {name : QualifiedName} {query : Query}
    (happends : tree.onlyAppends = true) (htarget : tree.target = .table name)
    (hsource : tree.source = .query query) :
    tree = appending tree.ignoring tree.into tree.table name tree.columns query := by
  obtain ⟨replacing, conflict, priority, ignoring, overwriting, into, table, target, targetName,
    columns, partition, source, rowName, onConflict, returning⟩ := tree
  simp only [onlyAppends, Bool.and_eq_true, Bool.not_eq_true', Option.isNone_iff_eq_none] at *
  obtain ⟨⟨⟨⟨⟨⟨⟨⟨rfl, rfl⟩, rfl⟩, rfl⟩, rfl⟩, rfl⟩, rfl⟩, rfl⟩, rfl⟩ := happends
  rw [htarget, hsource]
  rfl

/-- An insert is taken apart if and only if it appends rows to a table and does nothing else, apart
from the clauses at the end of its query. -/
theorem toInsert?_eq_some_iff {dialect : Dialect} {tree : InsertTree} {insert : Insert} :
    tree.toInsert? dialect = some insert ↔
      ∃ ignoring into table name columns text tail,
        tree = appending ignoring into table name columns
          (.plain ⟨text, some insert.rows⟩ tail) ∧
        insert.rows ≠ [] ∧ insert.target = targetText dialect ignoring name columns := by
  constructor
  · intro hinsert
    unfold toInsert? at hinsert
    split at hinsert
    next rows target hrows htarget =>
      obtain rfl := Option.some.inj hinsert
      obtain ⟨name, hname, htext⟩ := batchTarget?_eq_some_iff.mp htarget
      unfold plainRows? at hrows
      split at hrows
      next query hsource =>
        split at hrows
        next happends =>
          obtain ⟨text, tail, rfl, hne⟩ := Query.plainRows?_eq_some_iff.mp hrows
          exact ⟨_, _, _, name, _, text, tail, eq_appending happends hname hsource, hne, htext⟩
        next => cases hrows
      next => cases hrows
    next => cases hinsert
  · rintro ⟨ignoring, into, table, name, columns, text, tail, rfl, hne, htext⟩
    have htarget : (appending ignoring into table name columns
        (.plain ⟨text, some insert.rows⟩ tail)).batchTarget? dialect.quoting =
          some insert.target := batchTarget?_eq_some_iff.mpr ⟨name, rfl, htext⟩
    have hrows : (appending ignoring into table name columns
        (.plain ⟨text, some insert.rows⟩ tail)).plainRows? = some insert.rows :=
      Query.plainRows?_eq_some_iff.mpr ⟨text, tail, rfl, hne⟩
    rw [toInsert?, hrows, htarget]

end InsertTree

/-! ## Decompositions -/

/-- A text that is taken apart is an insert that fits the dialect and appends rows to a table. -/
theorem exists_appending_of_decompose? {dialect : Dialect} {text : String} {insert : Insert}
    (hinsert : decompose? dialect text = some insert) :
    ∃ kind ignoring into table name columns body tail,
      treesOf dialect text = .ok [⟨kind, some (.appending ignoring into table name columns
        (.plain ⟨body, some insert.rows⟩ tail))⟩] ∧
      InsertTree.Fits dialect (.appending ignoring into table name columns
        (.plain ⟨body, some insert.rows⟩ tail)) ∧
      insert.rows ≠ [] ∧ insert.target = InsertTree.targetText dialect ignoring name columns := by
  unfold decompose? at hinsert
  split at hinsert
  next tree htrees =>
    obtain ⟨parts, hparts, hinsert⟩ := Option.bind_eq_some_iff.mp hinsert
    obtain ⟨ignoring, into, table, name, columns, body, tail, rfl, hne, htarget⟩ :=
      InsertTree.toInsert?_eq_some_iff.mp hinsert
    have hfits := fits_of_treesOf htrees tree (List.mem_singleton_self tree)
    obtain ⟨kind, _⟩ := tree
    subst hparts
    exact ⟨kind, ignoring, into, table, name, columns, body, tail, htrees, hfits _ rfl, hne,
      htarget⟩
  next => cases hinsert

/-- A text is taken apart if and only if it is one insert that appends rows to a table and has no
other clause than those at the end of its query. -/
theorem decompose?_eq_some_iff {dialect : Dialect} {text : String} {insert : Insert} :
    decompose? dialect text = some insert ↔
      ∃ kind ignoring into table name columns body tail,
        treesOf dialect text = .ok [⟨kind, some (.appending ignoring into table name columns
          (.plain ⟨body, some insert.rows⟩ tail))⟩] ∧
        tail.Fits dialect ∧ insert.rows ≠ [] ∧
        insert.target = InsertTree.targetText dialect ignoring name columns := by
  constructor
  · intro hinsert
    obtain ⟨kind, ignoring, into, table, name, columns, body, tail, htrees, hfits, hne, htarget⟩ :=
      exists_appending_of_decompose? hinsert
    exact ⟨kind, ignoring, into, table, name, columns, body, tail, htrees,
      (hfits.query _ rfl).tail, hne, htarget⟩
  · rintro ⟨kind, ignoring, into, table, name, columns, body, tail, htrees, _, hne, htarget⟩
    unfold decompose?
    rw [htrees]
    exact InsertTree.toInsert?_eq_some_iff.mpr
      ⟨ignoring, into, table, name, columns, body, tail, rfl, hne, htarget⟩

/-- The rows that the query of a statement fetches, if the statement is an insert. -/
def Tree.fetch? (tree : Tree) : Option String :=
  match tree.insert with
  | some ⟨_, _, _, _, _, _, _, _, _, _, _, .query query, _, _, _⟩ => query.fetch
  | _ => none

theorem decompose?_drops_fetch :
    (treesOf .postgres "INSERT INTO t VALUES (1), (2) FETCH FIRST 1 ROWS ONLY").toOption.map
        (List.map Tree.fetch?) = some [some "FETCH FIRST 1 ROWS ONLY"] ∧
      decompose? .postgres "INSERT INTO t VALUES (1), (2) FETCH FIRST 1 ROWS ONLY" =
        some ⟨"INSERT INTO t ", [⟨["1"]⟩, ⟨["2"]⟩]⟩ := by
  decide +kernel

end SqlPipe.Sql
