import SqlPipe.Proofs.Sql.Lexemes
import SqlPipe.Proofs.Sql.Reading
import SqlPipe.Sql.Decomposition

/-!
# Names in targets

A name between delimiters is read back whatever it is, because delimiters inside it are doubled.
Where names stay as they were written, a name is legible if it is read back.
-/

namespace SqlPipe.Sql

open SqlPipe.Sql.Parser

variable {dialect : Dialect}

/-! ## Doubled delimiters -/

theorem replaceAll_singleton (c : Char) (replacement text : List Char) :
    Text.replaceAll [c] replacement text =
      text.flatMap fun d => if c = d then replacement else [d] := by
  suffices hall : ∀ written, Text.replaceOnto [c] replacement written text 0 =
      written.reverse ++ text.flatMap fun d => if c = d then replacement else [d] from hall []
  induction text with
  | nil =>
      intro written
      simp [Text.replaceOnto]
  | cons d text ih =>
      intro written
      by_cases hd : c = d
      · subst hd
        simp [Text.replaceOnto, Text.startsWith, Text.after?, ih]
      · simp [Text.replaceOnto, Text.startsWith, Text.after?, hd, ih]

theorem replaceAll_doubled (c : Char) (text : List Char) :
    Text.replaceAll [c, c] [c] (Text.replaceAll [c] [c, c] text) = text := by
  rw [replaceAll_singleton]
  suffices hall : ∀ written, Text.replaceOnto [c, c] [c] written
      (text.flatMap fun d => if c = d then [c, c] else [d]) 0 = written.reverse ++ text from
    hall []
  induction text with
  | nil =>
      intro written
      simp [Text.replaceOnto]
  | cons d text ih =>
      intro written
      by_cases hd : c = d
      · subst hd
        simp [Text.replaceOnto, Text.startsWith, Text.after?, ih]
      · simp [Text.replaceOnto, Text.startsWith, Text.after?, hd, ih]

theorem inside_doubled (c : Char) (text : List Char) :
    Inside c false (Text.replaceAll [c] [c, c] text) := by
  rw [replaceAll_singleton]
  induction text with
  | nil => exact .nil
  | cons d text ih =>
      rw [List.flatMap_cons]
      split
      · exact .doubled ih
      next hd => exact .plain (Ne.symm hd) (fun h => by cases h) ih

/-! ## Legible names -/

/-- What stands behind a name in a target. -/
def ClosesName (behind : List Char) : Prop :=
  ∃ c ∈ behind.head?, c ∈ [' ', '.', ',', ')']

/-- Words with a meaning of their own where a target has names. -/
def takenWords : List String := ["FUNCTION", "LOCAL", "SELECT", "TABLE"]

def nameToken (name : Ident × String) : Token := .word name.1.value name.1.quote name.2

/-- The identifier is written such that the name is read, and the name is written in the same
way. -/
structure ReadsName (dialect : Dialect) (ident : Ident) (name : Ident × String) : Prop where
  lexes : ∀ ⦃previous behind⦄, ClosesName behind → ReadsAs (Lexicon.of dialect) previous
    (ident.quoted dialect.quoting).toList (nameToken name) behind
  begins : ∀ c ∈ (ident.quoted dialect.quoting).toList.head?, c.isDigit = false ∧ c ≠ '_'
  same : name.1.quoted dialect.quoting = ident.quoted dialect.quoting
  free : name.2 ∉ takenWords

/-- An identifier that is read back as a target writes it. -/
def Legible (dialect : Dialect) (ident : Ident) : Prop :=
  ∃ name, ReadsName dialect ident name

theorem ne_of_closesName {c : Char} {behind : List Char} (hbehind : ClosesName behind)
    (hc : c ∉ [' ', '.', ',', ')']) : behind.head? ≠ some c := by
  obtain ⟨d, hd, hmem⟩ := hbehind
  rintro hhead
  rw [Option.mem_def.mp hd] at hhead
  exact hc (Option.some.inj hhead ▸ hmem)

theorem endsWord_of_closesName (dialect : Dialect) {behind : List Char}
    (hbehind : ClosesName behind) : EndsWord (Lexicon.of dialect) behind := by
  obtain ⟨d, hd, hmem⟩ := hbehind
  rintro c hc
  obtain rfl : d = c := by
    rw [Option.mem_def] at hd hc
    exact Option.some.inj (hd.symm.trans hc)
  simp only [List.mem_cons, List.not_mem_nil, or_false] at hmem
  rcases hmem with rfl | rfl | rfl | rfl <;> cases dialect <;> rfl

/-- No character that continues a name, and none behind it, is a quote. -/
theorem announcesNothing_of_closesName {more behind : List Char}
    (hmore : ∀ d ∈ more, (Lexicon.of dialect).continuesName d = true)
    (hbehind : ClosesName behind) : AnnouncesNothing (more ++ behind) := by
  have hmarks : (['\x27', '\x22', '&'].all fun d =>
      !(Lexicon.of dialect).continuesName d) = true := by
    cases dialect <;> decide
  have hother : ∀ d ∈ ['\x27', '\x22', '&'], d ∉ [' ', '.', ',', ')'] := by simp
  have hne : ∀ d ∈ (more ++ behind).head?, d ∉ ['\x27', '\x22', '&'] := by
    intro d hd hmem
    cases more with
    | nil => exact ne_of_closesName hbehind (hother d hmem) hd
    | cons e more =>
        obtain rfl : e = d := Option.some.inj hd
        have hname := hmore e List.mem_cons_self
        have hmark := List.all_eq_true.mp hmarks e hmem
        rw [hname] at hmark
        cases hmark
  intro d hd
  simpa using hne d hd

theorem delimiters_of_quoting {opening closing : Char}
    (hquoting : dialect.quoting = .always opening closing) :
    ((Lexicon.of dialect).opensName opening = true ∧ closingQuote opening = closing) ∧
      closing ∉ [' ', '.', ',', ')'] ∧ opening.isDigit = false ∧ opening ≠ '_' := by
  cases dialect with
  | mysql =>
      cases hquoting
      decide
  | sqlite =>
      cases hquoting
      decide
  | sqlServer =>
      cases hquoting
      decide
  | postgres => cases hquoting
  | oracle => cases hquoting

theorem legible_of_always {opening closing : Char}
    (hquoting : dialect.quoting = .always opening closing) (ident : Ident) :
    Legible dialect ident := by
  obtain ⟨⟨hopens, hcloses⟩, hmark, hplain⟩ := delimiters_of_quoting hquoting
  refine ⟨⟨⟨String.ofList (Text.replaceAll [closing] [closing, closing] ident.name.toList),
    some opening⟩, ""⟩, ?_, ?_, ?_, fun hmem => absurd hmem (by simp [takenWords])⟩
  · intro previous behind hbehind
    have hinside : Inside (closingQuote opening) false
        (Text.replaceAll [closing] [closing, closing] ident.name.toList) := by
      rw [hcloses]
      exact inside_doubled closing _
    have hquote : behind.head? ≠ some (closingQuote opening) := by
      rw [hcloses]
      exact ne_of_closesName hbehind hmark
    have hread : ReadsAs (Lexicon.of dialect) previous _ _ behind :=
      readsAs_quoted hopens hinside hquote
    rw [hcloses] at hread
    rw [hquoting, Ident.quoted]
    simpa [delimited, nameToken] using hread
  · rw [hquoting, Ident.quoted]
    simpa [delimited] using hplain
  · rw [hquoting, Ident.quoted, Ident.quoted]
    have hname : Ident.name ⟨String.ofList
        (Text.replaceAll [closing] [closing, closing] ident.name.toList), some opening⟩ =
          ident.name := by
      simp [Ident.name, hcloses, replaceAll_doubled]
    rw [hname]

/-- Where names stay as they were written, a plain word is legible. -/
theorem legible_word {c : Char} {more : List Char} (hquoting : dialect.quoting = .asWritten)
    (hc : c.isAlpha = true) (hmore : ∀ d ∈ more, (Lexicon.of dialect).continuesName d = true)
    (hfree : keywordOf (c :: more) ∉ takenWords) :
    Legible dialect ⟨String.ofList (c :: more), none⟩ := by
  refine ⟨⟨⟨String.ofList (c :: more), none⟩, keywordOf (c :: more)⟩, ?_, ?_, rfl, hfree⟩
  · intro previous behind hbehind
    rw [hquoting, Ident.quoted]
    simpa [Ident.text, wordToken, nameToken] using readsAs_word hc hmore
      (endsWord_of_closesName dialect hbehind) (announcesNothing_of_closesName hmore hbehind)
  · have hbegins : c.isDigit = false ∧ c ≠ '_' :=
      ⟨isDigit_of_isAlpha hc, ne_of_isAlpha hc (by decide)⟩
    rw [hquoting, Ident.quoted]
    simpa [Ident.text] using hbegins

/-- Where names stay as they were written, a quoted name is legible. -/
theorem legible_quoted {quote : Char} {inside : String} (hquoting : dialect.quoting = .asWritten)
    (hopens : (Lexicon.of dialect).opensName quote = true)
    (hinside : Inside quote false inside.toList) : Legible dialect ⟨inside, some quote⟩ := by
  have hquote : quote = '\x22' ∨ quote = '\x60' := by
    cases dialect with
    | postgres => exact .inl (by simpa [Lexicon.of, Lexicon.shared] using hopens)
    | oracle => simpa [Lexicon.of, Lexicon.shared] using hopens
    | mysql | sqlite | sqlServer => cases hquoting
  have hcloses : closingQuote quote = quote := by rcases hquote with rfl | rfl <;> rfl
  have htext : (Ident.text ⟨inside, some quote⟩).toList = quote :: inside.toList ++ [quote] := by
    have hbetween := toList_betweenQuotes (by rcases hquote with rfl | rfl <;> decide) hinside
    rcases hquote with rfl | rfl
    · exact hbetween
    · exact hbetween
  refine ⟨⟨⟨inside, some quote⟩, ""⟩, ?_, ?_, rfl, fun hmem => absurd hmem (by simp [takenWords])⟩
  · intro previous behind hbehind
    have hbehind : behind.head? ≠ some (closingQuote quote) := by
      rw [hcloses]
      apply ne_of_closesName hbehind
      rcases hquote with rfl | rfl <;> decide
    have hread : ReadsAs (Lexicon.of dialect) previous
        (quote :: inside.toList ++ [closingQuote quote])
        (.word (String.ofList inside.toList) (some quote) "") behind :=
      readsAs_quoted hopens (by rwa [hcloses]) hbehind
    rw [hcloses, String.ofList_toList, ← htext] at hread
    rw [hquoting]
    exact hread
  · rw [hquoting, Ident.quoted, htext]
    rcases hquote with rfl | rfl <;> simp

/-! ## Texts of names and columns -/

/-- The tokens of a list of columns, which is not written if there are none. -/
def columnTokens (names : List (Ident × String)) : List Token :=
  if names.isEmpty then []
  else .symbol "(" ::
    ([Token.symbol ","].intercalate (names.map fun name => [nameToken name]) ++ [.symbol ")"])

section Texts

variable (dialect : Dialect) (readOf : Ident → Ident × String)

def identPieces (ident : Ident) : List Piece :=
  [.lexeme (ident.quoted dialect.quoting).toList (nameToken (readOf ident))]

def qualifiedPieces (name : QualifiedName) : List Piece :=
  [Piece.lexeme ['.'] (.symbol ".")].intercalate (name.map (identPieces dialect readOf))

def columnPieces (columns : List Ident) : List Piece :=
  if columns.isEmpty then []
  else parenthesizedPieces (commaPieces.intercalate (columns.map (identPieces dialect readOf))) ++
    [.blank]

variable {dialect readOf}

theorem charsOf_qualifiedPieces (name : QualifiedName) :
    charsOf (qualifiedPieces dialect readOf name) = (name.quoted dialect.quoting).toList := by
  simp [qualifiedPieces, charsOf_intercalate, QualifiedName.quoted, String.toList_intercalate,
    Function.comp_def, identPieces, Piece.chars]

theorem charsOf_columnPieces (columns : List Ident) :
    charsOf (columnPieces dialect readOf columns) =
      (if columns.isEmpty then ""
        else "(" ++ commaList (columns.map (Ident.quoted dialect.quoting)) ++ ") ").toList := by
  unfold columnPieces
  split
  · rfl
  · simp [parenthesizedPieces, charsOf_intercalate, commaList, String.toList_intercalate,
      Function.comp_def, identPieces, commaPieces, Piece.chars]

theorem tokensIn_qualifiedPieces (name : QualifiedName) :
    tokensIn (qualifiedPieces dialect readOf name) =
      [Token.symbol "."].intercalate ((name.map readOf).map fun name => [nameToken name]) := by
  simp [qualifiedPieces, tokensIn_intercalate, Function.comp_def, identPieces]

theorem tokensIn_columnPieces (columns : List Ident) :
    tokensIn (columnPieces dialect readOf columns) = columnTokens (columns.map readOf) := by
  unfold columnPieces columnTokens
  simp only [List.isEmpty_map]
  split
  · rfl
  · simp [tokensIn_intercalate, Function.comp_def, identPieces, commaPieces]

variable {previous : Previous} {behind : List Char}

theorem lexes_identPieces {ident : Ident} (hreads : ReadsName dialect ident (readOf ident))
    (hbehind : ClosesName behind) :
    Lexes (Lexicon.of dialect) previous (identPieces dialect readOf ident) behind :=
  ⟨hreads.lexes hbehind, trivial⟩

theorem readsAs_period_of_readsName {ident : Ident} {name : Ident × String}
    (hreads : ReadsName dialect ident name) :
    ReadsAs (Lexicon.of dialect) previous ['.'] (.symbol ".")
      ((ident.quoted dialect.quoting).toList ++ behind) := by
  have hblank : ReadsAs (Lexicon.of dialect) none (ident.quoted dialect.quoting).toList
      (nameToken name) [' '] := hreads.lexes ⟨' ', rfl, by decide⟩
  have hne := hblank.nonempty
  obtain ⟨c, more, htext⟩ := List.exists_cons_of_ne_nil hne
  have hbegins := hreads.begins c (by rw [htext]; rfl)
  apply readsAs_period
  intro d hd
  rw [htext] at hd
  exact Option.some.inj hd ▸ hbegins

theorem lexes_qualifiedPieces {name : QualifiedName}
    (hreads : ∀ ident ∈ name, ReadsName dialect ident (readOf ident))
    (hbehind : ClosesName behind) :
    Lexes (Lexicon.of dialect) previous (qualifiedPieces dialect readOf name) behind := by
  have hperiods : ∀ item ∈ name.map (identPieces dialect readOf), ∀ previous behind,
      Lexes (Lexicon.of dialect) previous [.lexeme ['.'] (.symbol ".")]
        (charsOf item ++ behind) := by
    intro item hitem previous behind
    obtain ⟨ident, hident, rfl⟩ := List.mem_map.mp hitem
    refine ⟨?_, trivial⟩
    simpa [identPieces, Piece.chars] using readsAs_period_of_readsName (hreads ident hident)
  have hidents : ∀ item ∈ name.map (identPieces dialect readOf), ∀ ⦃previous behind⦄,
      ClosesName behind → Lexes (Lexicon.of dialect) previous item behind := by
    intro item hitem previous behind hbehind
    obtain ⟨ident, hident, rfl⟩ := List.mem_map.mp hitem
    exact lexes_identPieces (hreads ident hident) hbehind
  exact lexes_intercalate hperiods (fun _ => ⟨'.', rfl, by decide⟩) hidents hbehind

theorem lexes_columnPieces {columns : List Ident}
    (hreads : ∀ ident ∈ columns, ReadsName dialect ident (readOf ident)) :
    Lexes (Lexicon.of dialect) previous (columnPieces dialect readOf columns) behind := by
  have hidents : ∀ item ∈ columns.map (identPieces dialect readOf), ∀ ⦃previous behind⦄,
      ClosesName behind → Lexes (Lexicon.of dialect) previous item behind := by
    intro item hitem previous behind hbehind
    obtain ⟨ident, hident, rfl⟩ := List.mem_map.mp hitem
    exact lexes_identPieces (hreads ident hident) hbehind
  unfold columnPieces
  split
  · trivial
  · refine lexes_append.mpr ⟨lexes_parenthesizedPieces ?_, trivial⟩
    exact lexes_commaPieces (fun _ => ⟨',', rfl, by decide⟩) hidents ⟨')', rfl, by decide⟩

end Texts

/-! ## Names and columns read back -/

section Reading

variable {context : Context} {names : List (Ident × String)}

theorem identifier_nameToken (name : Ident × String) (place : Place) (gap : Gap)
    (rest : List Located) :
    identifier context (⟨nameToken name, place, gap⟩ :: rest) = .ok (name.1, rest) :=
  ok_bind get_eq (ok_bind advance_eq pure_eq)

theorem reads_nameTail (parts : List Ident) {rounds : ℕ} (hrounds : names.length ≤ rounds) :
    Reads context (nameTail parts rounds)
      (names.flatMap fun name => [.symbol ".", nameToken name])
      (fun rest => tokenAt rest ≠ some (.symbol "."))
      (parts.reverse ++ names.map Prod.fst) := by
  induction names generalizing parts rounds with
  | nil =>
      intro located rest htokens hends
      obtain rfl := List.map_eq_nil_iff.mp htokens
      simp only [List.map_nil, List.append_nil, List.nil_append]
      cases rounds with
      | zero => exact pure_eq
      | succ rounds =>
          unfold nameTail
          exact ok_bind (symbol?_of_ne hends) pure_eq
  | cons name names ih =>
      intro located rest htokens hends
      obtain ⟨rounds, rfl⟩ : ∃ fewer, rounds = fewer + 1 :=
        ⟨rounds - 1, by rw [List.length_cons] at hrounds; omega⟩
      rw [List.flatMap_cons, List.cons_append, List.singleton_append] at htokens
      obtain ⟨place, gap, others, rfl, hothers⟩ := exists_located htokens
      obtain ⟨place', gap', later, rfl, hlater⟩ := exists_located hothers
      have hsecond : tokenAt (⟨nameToken name, place', gap'⟩ :: (later ++ rest)) ≠
          some (.symbol ".") := by
        simp [tokenAt, nameToken]
      have htail := ih (name.1 :: parts) (Nat.le_of_succ_le_succ hrounds) hlater hends
      unfold nameTail
      refine ok_bind (symbol?_of_eq rfl) ?_
      refine ok_bind (onlyIf_of_false (among_of_false (symbol?_of_ne hsecond) _) _) ?_
      refine ok_bind (identifier_nameToken name place' gap' _) ?_
      rw [htail]
      simp

theorem reads_qualifiedName (hne : names ≠ []) (hbound : names.length ≤ context.bound) :
    Reads context qualifiedName
      ([Token.symbol "."].intercalate (names.map fun name => [nameToken name]))
      (fun rest => tokenAt rest ≠ some (.symbol ".")) (names.map Prod.fst) := by
  obtain ⟨name, names, rfl⟩ := List.exists_cons_of_ne_nil hne
  intro located rest htokens hends
  rw [List.map_cons, intercalate_cons, List.flatMap_map, List.singleton_append] at htokens
  obtain ⟨place, gap, later, rfl, hlater⟩ := exists_located htokens
  have htail : nameTail [name.1] context.bound context (later ++ rest) =
      .ok (name.1 :: names.map Prod.fst, rest) :=
    reads_nameTail [name.1] (Nat.le_of_succ_le hbound) hlater hends
  exact ok_bind (identifier_nameToken name place gap _) (ok_bind read_eq htail)

theorem reads_columns? (allowEmpty : Bool) (hbound : (columnTokens names).length ≤ context.bound) :
    Reads context (columns? allowEmpty) (columnTokens names)
      (fun rest => tokenAt rest ≠ some (.symbol "(")) (names.map Prod.fst) := by
  intro located rest htokens hends
  unfold columnTokens at htokens hbound
  split at htokens
  next hnone =>
    obtain rfl := List.isEmpty_iff.mp hnone
    obtain rfl := List.map_eq_nil_iff.mp htokens
    exact ok_bind (symbol?_of_ne hends) pure_eq
  next hsome =>
    rw [if_neg hsome, List.length_cons, List.length_append] at hbound
    obtain ⟨place, gap, inside, place', gap', rfl, hinside⟩ := exists_parenthesized htokens
    have hitems : ∀ item ∈ names.map fun name => ([nameToken name], name.1),
        Reads context identifier item.1 (fun _ => True) item.2 := by
      intro item hitem
      obtain ⟨name, -, rfl⟩ := List.mem_map.mp hitem
      intro located rest htokens _
      obtain ⟨place, gap, none, rfl, hnone⟩ := exists_located htokens
      obtain rfl := List.map_eq_nil_iff.mp hnone
      exact identifier_nameToken name place gap rest
    have hreads := reads_commaSeparated (fun _ _ => trivial) hitems (by simpa using hsome)
      (by simp [Function.comp_def]; omega)
    have hends : EndsList (fun _ => True) ([⟨.symbol ")", place', gap'⟩] ++ rest) := by
      simp [EndsList, tokenAt]
    simp only [List.map_map, Function.comp_def] at hreads
    have hopen : tokenAt (inside ++ ([⟨.symbol ")", place', gap'⟩] ++ rest)) ≠
        some (.symbol ")") := by
      obtain ⟨name, names, rfl⟩ := List.exists_cons_of_ne_nil (by simpa using hsome)
      rw [List.map_cons, intercalate_cons, List.singleton_append] at hinside
      obtain ⟨place, gap, inside, rfl, -⟩ := exists_located hinside
      simp [tokenAt, nameToken]
    rw [List.cons_append, List.append_assoc]
    unfold columns?
    refine ok_bind (symbol?_of_eq rfl) ?_
    refine ok_bind (onlyIf_of_false (symbol?_of_ne hopen) _) ?_
    exact ok_bind (hreads hinside hends) (ok_bind (symbol_of_eq rfl) pure_eq)

end Reading

end SqlPipe.Sql
