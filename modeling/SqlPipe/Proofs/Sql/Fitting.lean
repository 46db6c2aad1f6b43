import SqlPipe.Proofs.Sql.Statements
import SqlPipe.Sql.Decomposition

/-!
# Inserts that fit their dialect

What is known of every insert that is read in a dialect: only some dialects have inserts that pass
over errors, rows without values, settings and formats.  This goes through all statements, because
any of them could be an insert.
-/

namespace SqlPipe.Sql

open SqlPipe.Sql.Parser

/-- The clauses at the end of a query that a decomposition does not look at. -/
structure Tail where
  settings : Option String
  fetch : Option String
  locks : List String
  document : Option String
  format : Option String
  deriving DecidableEq, Repr

namespace Tail

def empty : Tail := ⟨none, none, [], none, none⟩

/-- The dialect has the clauses. -/
def Fits (dialect : Dialect) (tail : Tail) : Prop :=
  dialect = .oracle ∨ tail.settings = none ∧ tail.format = none

end Tail

namespace Query

def tail (query : Query) : Tail :=
  ⟨query.settings, query.fetch, query.locks, query.document, query.format⟩

end Query

/-- The dialect has the rows: only one has rows without values. -/
def Body.Fits (dialect : Dialect) (body : Body) : Prop :=
  ∀ rows, body.rows = some rows → ∀ row ∈ rows, row.values = [] → dialect = .mysql

/-- The dialect has the rows and the clauses of the query. -/
structure Query.Fits (dialect : Dialect) (query : Query) : Prop where
  body : query.body.Fits dialect
  tail : query.tail.Fits dialect

/-- The dialect has what the insert consists of. -/
structure InsertTree.Fits (dialect : Dialect) (tree : InsertTree) : Prop where
  ignoring : tree.ignoring = true → dialect = .mysql ∨ dialect = .oracle
  named : ∀ name, tree.target = .table name → name ≠ []
  query : ∀ query, tree.source = .query query → query.Fits dialect

/-! ## Queries -/

section Productions

variable {context : Context}

theorem yields_among {dialects : List Dialect} {test : Parser Bool} :
    Yields context (among dialects test) fun found =>
      found = true → context.dialect ∈ dialects := by
  unfold among onlyIf
  refine yields_dialect.bind fun dialect hdialect => ?_
  subst hdialect
  split
  next hdialect =>
    intro tokens found rest hfound htrue
    exact List.contains_iff_mem.mp hdialect
  next => exact yields_pure (fun hfalse => absurd hfalse (by decide))

theorem yields_settings? (below : Productions) :
    Yields context below.settings? fun settings =>
      context.dialect = .oracle ∨ settings = none := by
  unfold Productions.settings?
  refine yields_dialect.bind fun dialect hdialect => ?_
  subst hdialect
  split
  next horacle =>
    intro tokens settings rest hsettings
    exact .inl (by simpa using horacle)
  next => exact yields_pure (.inr rfl)

theorem yields_format? :
    Yields context Query.format? fun format => context.dialect = .oracle ∨ format = none := by
  unfold Query.format?
  refine yields_among.bind fun found hfound => ?_
  cases found with
  | true =>
      intro tokens format rest hformat
      exact .inl (by simpa using hfound rfl)
  | false => exact yields_pure (.inr rfl)

theorem fits_row (below : Productions) :
    Yields context (Query.row below) fun row => row.2.values = [] → context.dialect = .mysql := by
  unfold Query.row
  refine yields_bind fun explicit => yields_bind fun opened => ?_
  refine yields_among.bind fun closed hclosed => ?_
  cases closed with
  | true => exact yields_pure fun _ => by simpa using hclosed rfl
  | false =>
      refine (ne_nil_of_commaSeparated _).bind fun values hvalues => ?_
      exact yields_bind fun _ => yields_pure fun hempty => absurd hempty hvalues

theorem fits_primary (below : Productions) :
    Yields context (Query.primary below) (·.Fits context.dialect) := by
  have hnone (text : String) : Body.Fits context.dialect ⟨text, none⟩ := fun _ h => nomatch h
  have hrows (word : String) :
      Yields context (Query.rowList below word) (·.Fits context.dialect) := by
    refine (yields_commaSeparated (fits_row below)).bind fun rows hrows => yields_pure ?_
    rintro _ ⟨⟩ row hrow
    obtain ⟨read, hread, rfl⟩ := List.mem_map.mp hrow
    exact hrows read hread
  unfold Query.primary
  refine yields_bind fun selection => ?_
  cases selection with
  | some text => exact yields_pure (hnone text)
  | none =>
      refine yields_bind fun opened => yields_ite ?_ (yields_bind fun word => ?_)
      · exact yields_bind fun query => yields_bind fun _ => yields_pure (hnone _)
      · split
        · exact yields_bind fun text => yields_pure (hnone _)
        · exact hrows _
        · exact yields_expected _

theorem fits_unions (words : List String) (operand : String → Parser Body) {left : Body}
    (hleft : left.Fits context.dialect) (rounds : ℕ) :
    Yields context (Query.unions words operand left rounds) (·.Fits context.dialect) := by
  induction rounds generalizing left with
  | zero => exact yields_pure hleft
  | succ rounds ih =>
      unfold Query.unions
      refine yields_bind fun word => ?_
      cases word with
      | some word =>
          refine yields_bind fun mode => yields_bind fun right => ih ?_
          exact fun _ h => nomatch h
      | none => exact yields_pure hleft

/-- Whatever stands below a query, its rows and its tail fit the dialect. -/
theorem fits_query (below : Productions) (manipulation : Parser (Option String)) :
    Yields context (Query.query below manipulation) (·.Fits context.dialect) := by
  unfold Query.query
  refine yields_bind fun head => yields_bind fun replaced => ?_
  cases replaced with
  | some text => exact yields_pure ⟨fun _ h => (nomatch h), .inr ⟨rfl, rfl⟩⟩
  | none =>
      have hbody : Yields context (Query.wholeBody below) (·.Fits context.dialect) := by
        unfold Query.wholeBody
        refine (fits_primary below).bind fun left hleft => yields_bind fun _ => ?_
        exact fits_unions _ _ hleft _
      refine hbody.bind fun body hbody => yields_bind fun order => yields_bind fun limit => ?_
      refine (yields_settings? below).bind fun settings hsettings => ?_
      refine yields_bind fun fetch => yields_bind fun shared => yields_bind fun locks => ?_
      refine yields_format?.bind fun format hformat => yields_pure ⟨hbody, ?_⟩
      rcases hsettings with horacle | hsettings
      · exact .inl horacle
      rcases hformat with horacle | hformat
      · exact .inl horacle
      exact .inr ⟨hsettings, hformat⟩

theorem fits_query_atDepth (depth : ℕ) :
    Yields context (Productions.atDepth depth).query (·.Fits context.dialect) := by
  cases depth with
  | zero => exact yields_throw _
  | succ depth => exact fits_query _ _

/-! ## Inserts -/

theorem fits_insertHead (below : Productions) (replacing : Bool) :
    Yields context (Manipulation.insertHead below replacing) (·.Fits context.dialect) := by
  have htarget : Yields context (Manipulation.target below) fun target =>
      ∀ name, target = .table name → name ≠ [] := by
    unfold Manipulation.target
    refine yields_bind fun function => yields_ite ?_ ?_
    · exact yields_bind fun name => yields_bind fun call => yields_pure fun _ h => nomatch h
    · refine ne_nil_of_qualifiedName.map fun name hname other hother => ?_
      cases hother
      exact hname
  unfold Manipulation.insertHead
  refine yields_dialect.bind fun dialect hdialect => yields_bind fun conflict => ?_
  subst hdialect
  refine yields_ite_bind fun priority => ?_
  have hignores : (context.dialect == .mysql || context.dialect == .oracle) = true →
      Yields context (keyword? "IGNORE") fun found => found = true →
        context.dialect = .mysql ∨ context.dialect = .oracle := by
    intro hdialect _ found _ _ _
    simpa using hdialect
  have hnever : ¬(context.dialect == .mysql || context.dialect == .oracle) = true →
      Yields context (pure false) fun found => found = true →
        context.dialect = .mysql ∨ context.dialect = .oracle :=
    fun _ => yields_pure fun h => nomatch h
  refine Yields.ite_bind hignores hnever fun ignoring hignoring => ?_
  refine yields_bind fun overwriting => yields_bind fun into => yields_bind fun isLocal => ?_
  refine yields_bind fun table => htarget.bind fun target htarget => ?_
  exact yields_ite_bind fun targetName =>
    yields_pure ⟨hignoring, htarget, fun _ h => nomatch h⟩

theorem fits_insert {below : Productions} (replacing : Bool)
    (hquery : Yields context below.query (·.Fits context.dialect)) :
    Yields context (Manipulation.insert below replacing) (·.Fits context.dialect) := by
  have hsource : Yields context (Manipulation.insertSource below) fun source =>
      ∀ query, source = .query query → query.Fits context.dialect := by
    unfold Manipulation.insertSource
    refine yields_bind fun atOther => yields_ite (yields_pure fun _ h => nomatch h) ?_
    refine yields_bind fun assigns => yields_ite ?_ ?_
    · exact Yields.map (fun _ _ _ _ => trivial) fun _ _ _ h => nomatch h
    · refine hquery.map fun query hfits other hother => ?_
      cases hother
      exact hfits
  have hbody (head : InsertTree) (hhead : head.Fits context.dialect) :
      Yields context (Manipulation.insertBody below head) (·.Fits context.dialect) := by
    unfold Manipulation.insertBody
    refine yields_bind fun default_ => yields_ite (yields_pure hhead) ?_
    refine yields_bind fun atSymbol => yields_bind fun word => ?_
    lift_lets
    intro atQuery rest
    have hrest (columns : List Ident) : Yields context (rest columns) (·.Fits context.dialect) :=
      yields_ite_bind fun partition => hsource.bind fun source hfits =>
        yields_pure ⟨hhead.ignoring, hhead.named, hfits⟩
    exact yields_ite (yields_bind hrest) (yields_bind fun dialect => yields_bind hrest)
  unfold Manipulation.insert
  refine (fits_insertHead below replacing).bind fun head hhead => ?_
  refine (hbody head hhead).bind fun tree htree => ?_
  exact yields_bind fun rowName => yields_bind fun onConflict => yields_bind fun returning =>
    yields_pure ⟨htree.ignoring, htree.named, htree.query⟩

/-! ## All statements -/

/-- If the statement is an insert, it fits the dialect. -/
def Tree.Fits (dialect : Dialect) (tree : Tree) : Prop :=
  ∀ insert, tree.insert = some insert → insert.Fits dialect

theorem Tree.fits_of_insert_eq_none {tree : Tree} (hinsert : tree.insert = none)
    (dialect : Dialect) : tree.Fits dialect :=
  fun insert hsome => by rw [hinsert] at hsome; cases hsome

namespace Statement

variable {below : Productions}

theorem fits_behindWord? (word : String)
    (hquery : Yields context below.query (·.Fits context.dialect)) :
    Yields context (behindWord? below word) (∀ tree ∈ ·, tree.Fits context.dialect) := by
  have hinserts (replacing : Bool) :
      Yields context (do return some ⟨.insert, some (← Manipulation.insert below replacing)⟩)
        (∀ tree ∈ ·, Tree.Fits context.dialect tree) :=
    (fits_insert replacing hquery).bind fun insert hfits => yields_pure (by
      rintro _ ⟨⟩ _ ⟨⟩
      exact hfits)
  by_cases hinsert : word = "INSERT"
  · subst hinsert
    exact yields_bind fun _ => hinserts false
  by_cases hreplace : word = "REPLACE"
  · subst hreplace
    refine yields_bind fun _ => yields_bind fun _ => yields_bind fun _ => ?_
    exact yields_ite (hinserts true) (yields_bind fun _ => yields_throw _)
  · refine (fitsWord_behindWord? below word).mono fun found hfound tree htree => ?_
    exact Tree.fits_of_insert_eq_none ((hfound tree htree).insert_eq_none hinsert hreplace) _

theorem fits_statement (hquery : Yields context below.query (·.Fits context.dialect)) :
    Yields context (statement below) (·.Fits context.dialect) := by
  unfold statement
  refine yields_bind fun word => yields_bind fun atParenthesis => yields_ite ?_ ?_
  · exact yields_bind fun query => yields_pure (Tree.fits_of_insert_eq_none rfl _)
  · refine yields_bind fun tokens => yields_bind fun _ => ?_
    refine (fits_behindWord? word hquery).bind fun found hfound => ?_
    cases found with
    | some tree => exact yields_pure (hfound tree rfl)
    | none => exact yields_bind fun _ => yields_expected _

end Statement

theorem fits_statement_atDepth (depth : ℕ) :
    Yields context (Productions.atDepth depth).statement (·.Fits context.dialect) := by
  cases depth with
  | zero => exact yields_throw _
  | succ depth => exact Statement.fits_statement (fits_query_atDepth depth)

theorem fits_statementList {read : List Tree} (delimited : Bool) (rounds : ℕ)
    (hread : ∀ tree ∈ read, tree.Fits context.dialect) :
    Yields context (statementList read delimited rounds)
      (∀ tree ∈ ·, tree.Fits context.dialect) := by
  have hreverse : ∀ tree ∈ read.reverse, tree.Fits context.dialect :=
    fun tree htree => hread tree (List.mem_reverse.mp htree)
  induction rounds generalizing read delimited with
  | zero => exact yields_pure hreverse
  | succ rounds ih =>
      unfold statementList
      refine yields_bind fun separated => yields_ite (ih true hread hreverse) ?_
      refine yields_bind fun next => yields_ite (yields_pure hreverse) ?_
      refine yields_bind fun word => yields_ite (yields_pure hreverse) ?_
      refine yields_ite (yields_expected _) ?_
      refine (fits_statement_atDepth nestingLimit).bind fun tree htree => ?_
      have hcons : ∀ other ∈ tree :: read, other.Fits context.dialect :=
        List.forall_mem_cons.mpr ⟨htree, hread⟩
      exact ih false hcons fun other hother => hcons other (List.mem_reverse.mp hother)

end Productions

theorem fits_of_treesOf {dialect : Dialect} {text : String} {trees : List Tree}
    (htrees : treesOf dialect text = .ok trees) : ∀ tree ∈ trees, tree.Fits dialect := by
  obtain ⟨tokens, rest, _, hlist⟩ := treesOf_eq_ok.mp htrees
  exact fits_statementList true _ (List.forall_mem_nil _) hlist

end SqlPipe.Sql
