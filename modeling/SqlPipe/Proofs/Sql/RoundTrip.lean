import SqlPipe.Proofs.Sql.Inserts

/-!
# Batches read back

The statement that is sent for a batch is read back as the target and the rows that it was put
together from, if its target is legible and its values are faithful.  Not every value is.
-/

namespace SqlPipe.Sql

/-- The target of an insert into columns of a table whose names are all read back. -/
def LegibleTarget (dialect : Dialect) (target : String) : Prop :=
  ∃ ignoring name columns,
    (ignoring = true → dialect = .mysql ∨ dialect = .oracle) ∧ name ≠ [] ∧
    (∀ ident ∈ name ++ columns, Legible dialect ident) ∧
    target = InsertTree.targetText dialect ignoring name columns

section Batches

variable {dialect : Dialect}

def batchPieces (dialect : Dialect) (readOf : Ident → Ident × String) (ignoring : Bool)
    (name : QualifiedName) (columns : List Ident) (rows : List Piece) : List Piece :=
  keywordPieces "INSERT" ++ ((if ignoring then keywordPieces "IGNORE" else []) ++
    (keywordPieces "INTO" ++ (qualifiedPieces dialect readOf name ++
      .blank :: (columnPieces dialect readOf columns ++ (keywordPieces "VALUES" ++ rows)))))

theorem charsOf_batchPieces (readOf : Ident → Ident × String) (ignoring : Bool)
    (name : QualifiedName) (columns : List Ident) {rows : List Row} {pieces : List Piece}
    (hrows : charsOf pieces = (", ".intercalate (rows.map Row.render)).toList) :
    charsOf (batchPieces dialect readOf ignoring name columns pieces) =
      (Insert.toSql ⟨InsertTree.targetText dialect ignoring name columns, rows⟩).toList := by
  cases ignoring <;>
    simp [batchPieces, Insert.toSql, assembleRows, InsertTree.targetText, hrows,
      charsOf_qualifiedPieces, charsOf_columnPieces, Piece.chars]

theorem tokensIn_batchPieces (readOf : Ident → Ident × String) (ignoring : Bool)
    (name : QualifiedName) (columns : List Ident) (pieces : List Piece) :
    tokensIn (batchPieces dialect readOf ignoring name columns pieces) =
      wordToken "INSERT".toList :: (headTokens ignoring (name.map readOf) ++
        (columnTokens (columns.map readOf) ++
          wordToken "VALUES".toList :: tokensIn pieces)) := by
  cases ignoring <;>
    simp [batchPieces, headTokens, tokensIn_qualifiedPieces, tokensIn_columnPieces]

theorem lexes_batchPieces {readOf : Ident → Ident × String} (ignoring : Bool)
    {name : QualifiedName} {columns : List Ident} {pieces : List Piece}
    (hreads : ∀ ident ∈ name ++ columns, ReadsName dialect ident (readOf ident))
    (hrows : Lexes (Lexicon.of dialect) none pieces []) :
    Lexes (Lexicon.of dialect) none (batchPieces dialect readOf ignoring name columns pieces)
      [] := by
  have hkeyword {word : String} (hword : word ∈ ["INSERT", "IGNORE", "INTO", "VALUES"])
      (previous : Previous) (behind : List Char) :
      Lexes (Lexicon.of dialect) previous (keywordPieces word) behind := by
    have hletters : ∀ word ∈ ["INSERT", "IGNORE", "INTO", "VALUES"],
        lettersOnly word = true := by
      decide
    exact lexes_keywordPieces (hletters word hword)
  have hname : ∀ ident ∈ name, ReadsName dialect ident (readOf ident) :=
    fun ident h => hreads ident (List.mem_append_left columns h)
  have hcolumns : ∀ ident ∈ columns, ReadsName dialect ident (readOf ident) :=
    fun ident h => hreads ident (List.mem_append_right name h)
  have hrest (previous : Previous) : Lexes (Lexicon.of dialect) previous
      (columnPieces dialect readOf columns ++ (keywordPieces "VALUES" ++ pieces)) [] := by
    refine lexes_append.mpr ⟨lexes_columnPieces hcolumns, ?_⟩
    exact lexes_append.mpr ⟨hkeyword (by decide) _ _, hrows⟩
  have htable (previous : Previous) : Lexes (Lexicon.of dialect) previous
      (qualifiedPieces dialect readOf name ++
        .blank :: (columnPieces dialect readOf columns ++ (keywordPieces "VALUES" ++ pieces)))
      [] :=
    lexes_append.mpr ⟨lexes_qualifiedPieces hname ⟨' ', rfl, by decide⟩, hrest none⟩
  have hinto : Lexes (Lexicon.of dialect) none (keywordPieces "INTO" ++
      (qualifiedPieces dialect readOf name ++
        .blank :: (columnPieces dialect readOf columns ++ (keywordPieces "VALUES" ++ pieces))))
      [] :=
    lexes_append.mpr ⟨hkeyword (by decide) _ _, htable none⟩
  refine lexes_append.mpr ⟨hkeyword (by decide) _ _, ?_⟩
  cases ignoring with
  | false => exact lexes_append.mpr ⟨trivial, hinto⟩
  | true => exact lexes_append.mpr ⟨hkeyword (by decide) _ _, hinto⟩

/-- A target is written in the same way for the names that are read. -/
theorem targetText_map {readOf : Ident → Ident × String} (ignoring : Bool) {name : QualifiedName}
    {columns : List Ident}
    (hreads : ∀ ident ∈ name ++ columns, ReadsName dialect ident (readOf ident)) :
    InsertTree.targetText dialect ignoring ((name.map readOf).map Prod.fst)
        ((columns.map readOf).map Prod.fst) =
      InsertTree.targetText dialect ignoring name columns := by
  have hsame {idents : List Ident} (hidents : idents ⊆ name ++ columns) :
      idents.map (fun ident => (readOf ident).1.quoted dialect.quoting) =
        idents.map (Ident.quoted dialect.quoting) := by
    apply List.map_congr_left
    intro ident hident
    exact (hreads ident (hidents hident)).same
  have hname := hsame (List.subset_append_left name columns)
  have hcolumns := hsame (List.subset_append_right name columns)
  simp only [InsertTree.targetText, QualifiedName.quoted, List.map_map, Function.comp_def,
    List.isEmpty_map, hname, hcolumns]

/-- The tokens of a batch behind its keyword are read as an insert of the rows. -/
theorem insert_batch {context : Context} {ignoring : Bool} {name columns : List (Ident × String)}
    {rows : List Row} {piecesOf : Row → List Piece} {located : List Located}
    (hdialect : context.dialect = dialect)
    (hignoring : ignoring = true → dialect = .mysql ∨ dialect = .oracle) (hname : name ≠ [])
    (hfree : ∀ part ∈ name ++ columns, part.2 ∉ takenWords) (hne : rows ≠ [])
    (hback : ∀ row ∈ rows, RowReadsBack dialect row (piecesOf row))
    (hlocated : located.map Located.token = headTokens ignoring name ++ (columnTokens columns ++
      wordToken "VALUES".toList :: tokensIn (commaPieces.intercalate (rows.map piecesOf))))
    (hbound : located.length ≤ context.bound) :
    Manipulation.insert (.atDepth (nestingLimit - 1)) false context located =
      .ok (.appending ignoring true false (name.map Prod.fst) (columns.map Prod.fst)
        (.plain ⟨"VALUES " ++ commaList (rows.map Row.render), some rows⟩ .empty), []) := by
  have hlength := congrArg List.length hlocated
  have hparts := length_le_intercalate (List.cons_ne_nil (Token.symbol ".") [])
    (name.map fun part => [nameToken part])
  simp only [headTokens, List.length_map, List.length_append, List.length_cons] at hlength hparts
  obtain ⟨heads, behind, rfl, hheads, hbehind⟩ := List.map_eq_append_iff.mp hlocated
  obtain ⟨listed, behind, rfl, hlisted, hbehind⟩ := List.map_eq_append_iff.mp hbehind
  obtain ⟨place, gap, values, rfl, hvalues⟩ := exists_located hbehind
  have hquery : (Productions.atDepth (nestingLimit - 1)).query context
      (⟨wordToken "VALUES".toList, place, gap⟩ :: values) =
        .ok (.plain ⟨"VALUES " ++ commaList (rows.map Row.render), some rows⟩ .empty, []) :=
    query_rows hback hdialect hne (by omega) rfl hvalues
  exact insert_eq (fun column h => hfree column (List.mem_append_right name h)) hlisted rfl
    (by omega) hquery (fun part h => hfree part (List.mem_append_left columns h)) hname
    (by rwa [hdialect]) hheads (by omega)

/-- A batch with a legible target and faithful values is read back. -/
theorem decompose?_toSql_of_legible {target : String} {rows : List Row}
    (hlegible : LegibleTarget dialect target) (hne : rows ≠ [])
    (hrows : ∀ row ∈ rows, RowFaithful dialect row) :
    decompose? dialect (Insert.toSql ⟨target, rows⟩) = some ⟨target, rows⟩ := by
  obtain ⟨ignoring, name, columns, hignoring, hname, hidents, rfl⟩ := hlegible
  have : Nonempty Ident := ⟨⟨"", none⟩⟩
  -- From here on names and rows are written by functions, so that texts and tokens are computed.
  choose! readOf hreads using hidents
  choose! piecesOf hback using fun row hrow => exists_rowReadsBack (hrows row hrow)
  have hfree : ∀ part ∈ name.map readOf ++ columns.map readOf, part.2 ∉ takenWords := by
    intro part hpart
    rw [← List.map_append] at hpart
    obtain ⟨ident, hident, rfl⟩ := List.mem_map.mp hpart
    exact (hreads ident hident).free
  obtain ⟨located, htokens, hlocated⟩ := tokensOf_charsOf
    (lexes_batchPieces ignoring hreads (lexes_rows hback none []))
    (charsOf_batchPieces readOf ignoring name columns (charsOf_rows hback)).symm
  rw [tokensIn_batchPieces] at hlocated
  obtain ⟨place, gap, others, rfl, hothers⟩ := exists_located hlocated
  have hinsert : Manipulation.insert (.atDepth (nestingLimit - 1)) false
      { dialect, bound := others.length + 2 } others =
        .ok (.appending ignoring true false ((name.map readOf).map Prod.fst)
          ((columns.map readOf).map Prod.fst)
          (.plain ⟨"VALUES " ++ commaList (rows.map Row.render), some rows⟩ .empty), []) :=
    insert_batch rfl hignoring (by simpa using hname) hfree hne hback hothers (by simp)
  have hlist := statementList_singleton (by simp [wordToken])
    (statement_of_insert hinsert place gap) others.length
  rw [decompose?, treesOf_eq_ok.mpr ⟨_, _, htokens, hlist⟩]
  exact InsertTree.toInsert?_eq_some_iff.mpr ⟨ignoring, true, false, _, _, _, _, rfl, hne,
    (targetText_map ignoring hreads).symm⟩

variable {text : String} {insert : Insert} (hinsert : decompose? dialect text = some insert)

include hinsert

theorem legibleTarget_of_decompose? {opening closing : Char}
    (hquoting : dialect.quoting = .always opening closing) :
    LegibleTarget dialect insert.target := by
  obtain ⟨_, ignoring, _, _, name, columns, _, _, _, hfits, _, htarget⟩ :=
    exists_appending_of_decompose? hinsert
  exact ⟨ignoring, name, columns, hfits.ignoring, hfits.named name rfl,
    fun ident _ => legible_of_always hquoting ident, htarget⟩

theorem rowFaithful_of_decompose? {row : Row} (hrow : row ∈ insert.rows)
    (hvalues : ∀ value ∈ row.values, Faithful dialect value) : RowFaithful dialect row := by
  obtain ⟨_, _, _, _, _, _, _, _, _, hfits, _, _⟩ := exists_appending_of_decompose? hinsert
  exact ⟨(hfits.query _ rfl).body _ rfl row hrow, hvalues⟩

theorem rows_ne_nil_of_decompose? : insert.rows ≠ [] := by
  obtain ⟨_, _, _, _, _, _, _, _, _, _, hne, _⟩ := exists_appending_of_decompose? hinsert
  exact hne

end Batches

end SqlPipe.Sql
