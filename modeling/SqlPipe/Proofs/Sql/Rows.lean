import SqlPipe.Proofs.Sql.Values
import SqlPipe.Proofs.Sql.Clauses

/-!
# Lists of rows

A row of faithful values is read back from its text, and so is a list of such rows behind its
keyword.
-/

namespace SqlPipe.Sql

open SqlPipe.Sql.Parser

variable {dialect : Dialect}

/-! ## Rows -/

/-- All values of the row are faithful, and the dialect has rows without values if it has none. -/
def RowFaithful (dialect : Dialect) (row : Row) : Prop :=
  (row.values = [] → dialect = .mysql) ∧ ∀ value ∈ row.values, Faithful dialect value

/-- The row is written with the pieces, and is read from them. -/
structure RowReadsBack (dialect : Dialect) (row : Row) (pieces : List Piece) : Prop where
  text : charsOf pieces = row.render.toList
  lexes : ∀ previous behind, Lexes (Lexicon.of dialect) previous pieces behind
  parses : ∀ ⦃context⦄, context.dialect = dialect → (tokensIn pieces).length ≤ context.bound →
    Reads context (Query.row rowProductions) (tokensIn pieces) (fun _ => True) (false, row)

section Reading

variable {context : Context} {piecesOf : String → List Piece} {values : List String}
  (hback : ∀ value ∈ values, ReadsBack dialect value (piecesOf value))
  (hdialect : context.dialect = dialect)

include hback hdialect

/-- The values of a row are read in front of the parenthesis that closes the row. -/
theorem reads_values (hne : values ≠ [])
    (hbound : ([Token.symbol ","].intercalate
      (values.map fun value => tokensIn (piecesOf value))).length < context.bound) :
    Reads context (commaSeparated rowProductions.expressionText)
      ([Token.symbol ","].intercalate (values.map fun value => tokensIn (piecesOf value)))
      (fun rest => tokenAt rest = some (.symbol ")")) values := by
  have hnonzero : context.bound ≠ 0 := by omega
  have hitems : ∀ item ∈ values.map fun value => (tokensIn (piecesOf value), value),
      Reads context rowProductions.expressionText item.1 EndsValue item.2 := by
    intro item hitem
    obtain ⟨value, hvalue, rfl⟩ := List.mem_map.mp hitem
    exact (hback value hvalue).parses hdialect hnonzero
  have hreads := reads_commaSeparated (fun _ => .inl) hitems (by simpa using hne)
    (by simpa [Function.comp_def] using hbound)
  simp only [List.map_map, Function.comp_def, List.map_id'] at hreads
  intro located rest htokens hrest
  exact hreads htokens ⟨.inr hrest, by rw [hrest]; decide⟩

omit hdialect in
/-- What stands behind the parenthesis that opens a row does not close it. -/
theorem begins_values (hne : values ≠ []) :
    ∃ token others, ([Token.symbol ","].intercalate
      (values.map fun value => tokensIn (piecesOf value))) = token :: others ∧
      token ≠ .symbol ")" := by
  obtain ⟨value, values, rfl⟩ := List.exists_cons_of_ne_nil hne
  obtain ⟨token, others, hbegins, htoken⟩ := (hback value List.mem_cons_self).begins
  rw [List.map_cons, intercalate_cons, hbegins, List.cons_append]
  exact ⟨token, _, rfl, htoken⟩

theorem reads_row (hempty : values = [] → dialect = .mysql)
    (hbound : ([Token.symbol ","].intercalate
      (values.map fun value => tokensIn (piecesOf value))).length < context.bound) :
    Reads context (Query.row rowProductions)
      (.symbol "(" :: ([Token.symbol ","].intercalate
        (values.map fun value => tokensIn (piecesOf value)) ++ [.symbol ")"]))
      (fun _ => True) (false, ⟨values⟩) := by
  intro located rest htokens _
  obtain ⟨place, gap, inside, place', gap', rfl, hinside⟩ := exists_parenthesized htokens
  rw [List.cons_append, List.append_assoc]
  unfold Query.row
  refine ok_bind (keyword?_of_ne (by simp [keywordAt, Token.keyword])) ?_
  refine ok_bind (symbol_of_eq rfl) ?_
  -- Only where rows may be empty does the parser look for the closing parenthesis first.
  by_cases hvalues : values = []
  · obtain rfl := hvalues
    obtain rfl := List.map_eq_nil_iff.mp hinside
    have hmysql : context.dialect = .mysql := hdialect.trans (hempty rfl)
    have hclosing : among [.mysql] (symbol? ")") context
        ([] ++ (⟨.symbol ")", place', gap'⟩ :: rest)) = .ok (true, rest) := by
      refine ok_bind dialect_eq ?_
      rw [hmysql]
      exact symbol?_of_eq rfl
    exact ok_bind hclosing pure_eq
  · obtain ⟨token, others, hfirst, hne⟩ := begins_values hback hvalues
    have hopen : tokenAt (inside ++ ([⟨.symbol ")", place', gap'⟩] ++ rest)) ≠
        some (.symbol ")") := by
      rw [hfirst] at hinside
      obtain ⟨place, gap, inside, rfl, -⟩ := exists_located hinside
      simpa [tokenAt] using hne
    have hends : tokenAt ([⟨.symbol ")", place', gap'⟩] ++ rest) = some (.symbol ")") := rfl
    refine ok_bind (among_of_false (symbol?_of_ne hopen) _) ?_
    refine ok_bind (reads_values hback hdialect hvalues hbound hinside hends) ?_
    exact ok_bind (symbol_of_eq rfl) pure_eq

end Reading

theorem exists_rowReadsBack {row : Row} (hrow : RowFaithful dialect row) :
    ∃ pieces, RowReadsBack dialect row pieces := by
  obtain ⟨hempty, hvalues⟩ := hrow
  choose! piecesOf hback using hvalues
  refine ⟨parenthesizedPieces (commaPieces.intercalate (row.values.map piecesOf)), ?_, ?_, ?_⟩
  · have htexts : row.values.map (charsOf ∘ piecesOf) = row.values.map String.toList := by
      apply List.map_congr_left
      intro value hvalue
      exact (hback value hvalue).text
    simp [parenthesizedPieces, charsOf_intercalate, Row.render, String.toList_intercalate,
      htexts, Piece.chars, commaPieces]
  · intro previous behind
    have hvalues : ∀ item ∈ row.values.map piecesOf, ∀ ⦃previous behind⦄,
        ClosesValue behind → Lexes (Lexicon.of dialect) previous item behind := by
      intro item hitem
      obtain ⟨value, hvalue, rfl⟩ := List.mem_map.mp hitem
      exact (hback value hvalue).lexes
    exact lexes_parenthesizedPieces (lexes_commaPieces (fun _ => .inl rfl) hvalues (.inr rfl))
  · intro context hdialect hbound
    have htokens : tokensIn (commaPieces.intercalate (row.values.map piecesOf)) =
        [Token.symbol ","].intercalate (row.values.map fun value => tokensIn (piecesOf value)) := by
      rw [tokensIn_intercalate, List.map_map]
      rfl
    rw [tokensIn_parenthesizedPieces, htokens] at hbound ⊢
    rw [List.length_cons, List.length_append] at hbound
    exact reads_row hback hdialect hempty (by omega)

/-! ## Lists of rows -/

section Lists

variable {context : Context} {piecesOf : Row → List Piece} {rows : List Row}
  (hback : ∀ row ∈ rows, RowReadsBack dialect row (piecesOf row))

include hback

theorem charsOf_rows : charsOf (commaPieces.intercalate (rows.map piecesOf)) =
    (", ".intercalate (rows.map Row.render)).toList := by
  have htexts : rows.map (charsOf ∘ piecesOf) = rows.map (String.toList ∘ Row.render) := by
    apply List.map_congr_left
    intro row hrow
    exact (hback row hrow).text
  simp [charsOf_intercalate, String.toList_intercalate, htexts, Piece.chars, commaPieces]

theorem lexes_rows (previous : Previous) (behind : List Char) :
    Lexes (Lexicon.of dialect) previous (commaPieces.intercalate (rows.map piecesOf)) behind := by
  have hrows : ∀ item ∈ rows.map piecesOf, ∀ ⦃previous behind⦄, True →
      Lexes (Lexicon.of dialect) previous item behind := by
    intro item hitem previous behind _
    obtain ⟨row, hrow, rfl⟩ := List.mem_map.mp hitem
    exact (hback row hrow).lexes previous behind
  exact lexes_commaPieces (fun _ => trivial) hrows trivial

variable (hdialect : context.dialect = dialect) (hne : rows ≠ [])
  (hbound : (tokensIn (commaPieces.intercalate (rows.map piecesOf))).length < context.bound)

include hdialect hne hbound

theorem reads_rows :
    Reads context (commaSeparated (Query.row rowProductions))
      (tokensIn (commaPieces.intercalate (rows.map piecesOf))) (EndsList fun _ => True)
      (rows.map (false, ·)) := by
  have htokens : tokensIn (commaPieces.intercalate (rows.map piecesOf)) =
      [Token.symbol ","].intercalate (rows.map fun row => tokensIn (piecesOf row)) := by
    rw [tokensIn_intercalate, List.map_map]
    rfl
  rw [htokens] at hbound ⊢
  have hitems : ∀ item ∈ rows.map fun row => (tokensIn (piecesOf row), (false, row)),
      Reads context (Query.row rowProductions) item.1 (fun _ => True) item.2 := by
    intro item hitem
    obtain ⟨row, hrow, rfl⟩ := List.mem_map.mp hitem
    have hshort := length_le_of_mem_intercalate [Token.symbol ","]
      (List.mem_map_of_mem (f := fun row => tokensIn (piecesOf row)) hrow)
    exact (hback row hrow).parses hdialect (by omega)
  have hreads := reads_commaSeparated (fun _ _ => trivial) hitems (by simpa using hne)
    (by simpa [Function.comp_def] using hbound)
  simpa only [List.map_map, Function.comp_def] using hreads

variable {first : Located} {located : List Located}
  (hfirst : first.token = wordToken "VALUES".toList)
  (hlocated : located.map Located.token = tokensIn (commaPieces.intercalate (rows.map piecesOf)))

include hfirst hlocated

theorem primary_rows : Query.primary rowProductions context (first :: located) =
    .ok (⟨"VALUES " ++ commaList (rows.map Row.render), some rows⟩, []) := by
  have hrows : Query.rowList rowProductions "VALUES" context located =
      .ok (⟨"VALUES " ++ commaList (rows.map Row.render), some rows⟩, []) := by
    have hread : commaSeparated (Query.row rowProductions) context located =
        .ok (rows.map (false, ·), []) := by
      have hends : EndsList (fun _ => True) [] := ⟨trivial, by decide⟩
      simpa using reads_rows hback hdialect hne hbound hlocated hends
    refine ok_bind hread ?_
    simp [Function.comp_def, pure_eq]
  have hkeyword : keywordAt (first :: located) = "VALUES" := by
    rw [keywordAt, hfirst]
    rfl
  have hsymbol : tokenAt (first :: located) ≠ some (.symbol "(") := by
    simp [tokenAt, hfirst, wordToken]
  have hother {word : String} (hword : "VALUES" ≠ word) :
      keyword? word context (first :: located) = .ok (false, first :: located) :=
    keyword?_of_ne (by rwa [hkeyword])
  have hselection : Selection.selection? rowProductions context (first :: located) =
      .ok (none, first :: located) := by
    unfold Selection.selection?
    refine ok_bind (hother (by decide)) ?_
    exact ok_bind (among_of_false (hother (by decide)) _) pure_eq
  have hvalues : anyKeyword? ["VALUES", "VALUE", "TABLE"] context (first :: located) =
      .ok (some "VALUES", located) := by
    unfold anyKeyword?
    refine ok_bind peekKeyword_eq ?_
    rw [hkeyword]
    exact ok_bind advance_eq pure_eq
  unfold Query.primary
  refine ok_bind hselection (ok_bind (symbol?_of_ne hsymbol) (ok_bind hvalues ?_))
  exact hrows

/-- A list of rows behind its keyword, and nothing else, is a query. -/
theorem query_rows :
    Query.query rowProductions (Merge.manipulation? rowProductions) context (first :: located) =
      .ok (.plain ⟨"VALUES " ++ commaList (rows.map Row.render), some rows⟩ .empty, []) := by
  have hprimary := primary_rows hback hdialect hne hbound hfirst hlocated
  have hkeyword : keywordAt (first :: located) = "VALUES" := by
    rw [keywordAt, hfirst]
    rfl
  have hmanipulation : Merge.manipulation? rowProductions context (first :: located) =
      .ok (none, first :: located) := by
    unfold Merge.manipulation?
    exact ok_bind (anyKeyword?_of_not_mem (by rw [hkeyword]; decide)) pure_eq
  have hbody : Query.wholeBody rowProductions context (first :: located) =
      .ok (⟨"VALUES " ++ commaList (rows.map Row.render), some rows⟩, []) := by
    unfold Query.wholeBody
    refine ok_bind hprimary (ok_bind read_eq ?_)
    cases context.bound with
    | zero => exact pure_eq
    | succ rounds => rfl
  unfold Query.query
  refine ok_bind (behind?_of_ne (by rw [hkeyword]; decide) _) (ok_bind hmanipulation ?_)
  have horder : Query.order? rowProductions context [] = .ok (none, []) := rfl
  have hlimit : Query.limit? rowProductions context [] = .ok (none, []) := rfl
  have hsettings : rowProductions.settings? context [] = .ok (none, []) := by
    unfold Productions.settings?
    refine ok_bind dialect_eq ?_
    split
    · exact ok_bind (behind?_of_ne (by decide) _) pure_eq
    · exact pure_eq
  have hlocks : Query.locksTail [] context.bound context [] = .ok (([], none), []) := by
    cases context.bound with
    | zero => exact pure_eq
    | succ rounds => exact ok_bind (keyword?_of_ne (by decide)) pure_eq
  have hformat : Query.format? context [] = .ok (none, []) :=
    ok_bind (among_of_false (keyword?_of_ne (by decide)) _) pure_eq
  refine ok_bind hbody (ok_bind horder (ok_bind hlimit (ok_bind hsettings ?_)))
  refine ok_bind (behind?_of_ne (by decide) _) (ok_bind read_eq (ok_bind hlocks ?_))
  exact ok_bind hformat pure_eq

end Lists

end SqlPipe.Sql
