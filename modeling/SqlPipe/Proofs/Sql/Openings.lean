import SqlPipe.Proofs.Sql.Heads
import SqlPipe.Proofs.Sql.Lexemes
import SqlPipe.Proofs.Sql.Statements

/-!
# What a text opens with

The statements of a text begin behind the semicolons, white space and comments in front of it.  The
first of them is what the first token there says.
-/

namespace SqlPipe.Sql

variable {lexicon : Lexicon} {dialect : Dialect} {c : Char}

/-! ## Behind semicolons and gaps -/

def Lexicon.passes (lexicon : Lexicon) (c : Char) : Bool :=
  (Text.isSpace c && !lexicon.beginsName c) || c == ';'

theorem Lexicon.passes_iff :
    lexicon.passes c = true ↔
      Text.isSpace c = true ∧ lexicon.beginsName c = false ∨ c = ';' := by
  simp [Lexicon.passes]

theorem Lexicon.passes_feed (dialect : Dialect) : (Lexicon.of dialect).passes '\n' = true := by
  cases dialect <;> rfl

/-- The tokens go on with what is read of the text.  Nothing but semicolons stands in front. -/
def ReadsOn (lexicon : Lexicon) (tokens : List Located) (text : List Char) : Prop :=
  ∃ read gap place steps, text.length ≤ steps ∧
    (∀ located ∈ read, located.token = .symbol ";") ∧
    readAll lexicon read gap ⟨text, place⟩ steps = .ok tokens

namespace ReadsOn

variable {tokens : List Located} {rest : List Char}

theorem of_tokensOf {text : String} (htokens : tokensOf lexicon text = .ok tokens) :
    ReadsOn lexicon tokens text.toList :=
  ⟨[], .none, ⟨1, 1⟩, _, Nat.le_refl _, nofun, htokens⟩

theorem semicolons (hreads : ReadsOn lexicon tokens []) :
    ∀ located ∈ tokens, located.token = .symbol ";" := by
  obtain ⟨read, gap, place, steps, -, hread, hall⟩ := hreads
  have htokens : tokens = read.reverse := by
    cases steps <;> exact (Except.ok.inj hall).symm
  rw [htokens]
  exact fun located hlocated => hread located (List.mem_reverse.mp hlocated)

theorem gap (hreads : ReadsOn lexicon tokens (c :: rest)) {later : List Char}
    (hshorter : later.length ≤ rest.length)
    (hgap : ∀ place, ∃ gap after,
      readGap? lexicon ⟨c :: rest, place⟩ = some (.ok (gap, ⟨later, after⟩))) :
    ReadsOn lexicon tokens later := by
  obtain ⟨read, gap, place, steps, hsteps, hread, hall⟩ := hreads
  obtain ⟨more, after, hmore⟩ := hgap place
  obtain ⟨fewer, rfl⟩ : ∃ fewer, steps = fewer + 1 :=
    ⟨steps - 1, by rw [List.length_cons] at hsteps; omega⟩
  simp only [readAll, hmore] at hall
  refine ⟨read, gap.join more, after, fewer, ?_, hread, hall⟩
  rw [List.length_cons] at hsteps
  omega

theorem token
    (hreads : ReadsOn lexicon tokens (c :: rest))
    (hgap : ∀ place, readGap? lexicon ⟨c :: rest, place⟩ = none) :
    ∃ read previous place gap token after steps,
      readToken lexicon previous c ⟨c :: rest, place⟩ = .ok (token, after) ∧
      (∀ located ∈ read, located.token = .symbol ";") ∧ rest.length ≤ steps ∧
      readAll lexicon (⟨token, place, gap⟩ :: read) .none after steps = .ok tokens := by
  obtain ⟨read, gap, place, steps, hsteps, hread, hall⟩ := hreads
  obtain ⟨fewer, rfl⟩ : ∃ fewer, steps = fewer + 1 :=
    ⟨steps - 1, by rw [List.length_cons] at hsteps; omega⟩
  simp only [readAll, hgap place] at hall
  split at hall
  next token after htoken =>
    refine ⟨read, _, place, gap, token, after, fewer, htoken, hread, ?_, hall⟩
    rw [List.length_cons] at hsteps
    omega
  next => cases hall

/-! ## White space and semicolons -/

theorem ne_of_isSpace {c d : Char} (hc : Text.isSpace c = true) (hd : Text.isSpace d = false) :
    c ≠ d := by
  rintro rfl
  rw [hc] at hd
  cases hd

/-- White space that begins no name is a gap; a line feed behind a carriage return belongs to it. -/
theorem readGap?_of_isSpace
    (hspace : Text.isSpace c = true) (hname : lexicon.beginsName c = false) (rest : List Char)
    (place : Place) :
    ∃ gap after, readGap? lexicon ⟨c :: rest, place⟩ =
      some (.ok (gap, ⟨if c = '\r' ∧ rest.head? = some '\n' then rest.tail else rest, after⟩)) := by
  have hdash : c ≠ '-' := ne_of_isSpace hspace (by decide)
  have hslash : c ≠ '/' := ne_of_isSpace hspace (by decide)
  have hhash : c ≠ '#' := ne_of_isSpace hspace (by decide)
  by_cases hfeed : c = '\n'
  · subst hfeed
    exact ⟨.line, _, rfl⟩
  by_cases hreturn : c = '\r'
  · subst hreturn
    cases rest with
    | nil => exact ⟨.line, _, rfl⟩
    | cons d rest =>
        by_cases hd : d = '\n'
        · subst hd
          exact ⟨.line, _, rfl⟩
        · refine ⟨.line, place.after '\r', ?_⟩
          simp [readGap?, hd, Cursor.skip]
  · refine ⟨.blank, place.after c, ?_⟩
    simp [readGap?, hreturn, hdash, hslash, hhash, hspace, hname, Cursor.skip]

theorem semicolon (hreads : ReadsOn (Lexicon.of dialect) tokens (';' :: rest)) :
    ReadsOn (Lexicon.of dialect) tokens rest := by
  have hsemicolon (previous : Previous) :
      ReadsAs (Lexicon.of dialect) previous [';'] (.symbol ";") rest :=
    readsAs_punctuation (by decide)
  obtain ⟨read, previous, place, gap, token, after, steps, htoken, hread, hsteps, hall⟩ :=
    hreads.token fun place => (hsemicolon none).noGap place
  have hsame := (hsemicolon previous).reading ';' [] rfl place
  rw [List.singleton_append, htoken] at hsame
  cases hsame
  exact ⟨_, _, _, steps, hsteps, List.forall_mem_cons.mpr ⟨rfl, hread⟩, hall⟩

theorem dropWhile
    {passes : Char → Bool} (hreads : ReadsOn (Lexicon.of dialect) tokens rest)
    (hpasses : ∀ d, passes d = true →
      Text.isSpace d = true ∧ (Lexicon.of dialect).beginsName d = false ∨ d = ';')
    (hfeed : passes '\n' = true) :
    ReadsOn (Lexicon.of dialect) tokens (rest.dropWhile passes) := by
  induction hlength : rest.length using Nat.strong_induction_on generalizing rest with
  | _ length ih =>
    cases rest with
    | nil => exact hreads
    | cons d rest =>
        rw [List.length_cons] at hlength
        by_cases hd : passes d = true
        · rw [List.dropWhile_cons_of_pos hd]
          rcases hpasses d hd with ⟨hspace, hname⟩ | rfl
          · have hgap := readGap?_of_isSpace hspace hname rest
            split at hgap
            next hpair =>
              obtain ⟨-, hnext⟩ := hpair
              obtain ⟨rest, rfl⟩ := List.head?_eq_some_iff.mp hnext
              rw [List.tail_cons] at hgap
              rw [List.dropWhile_cons_of_pos hfeed]
              rw [List.length_cons] at hlength
              exact ih _ (by omega) (hreads.gap (Nat.le_succ _) hgap) rfl
            next => exact ih _ (by omega) (hreads.gap (Nat.le_refl _) hgap) rfl
          · exact ih _ (by omega) hreads.semicolon rfl
        · rw [List.dropWhile_cons_of_neg hd]
          exact hreads

theorem passed (hreads : ReadsOn (Lexicon.of dialect) tokens rest) :
    ReadsOn (Lexicon.of dialect) tokens (rest.dropWhile (Lexicon.of dialect).passes) :=
  hreads.dropWhile (fun _ => Lexicon.passes_iff.mp) (Lexicon.passes_feed dialect)

end ReadsOn

/-! ## The first statement -/

theorem statementList_semicolons {semicolons : List Located}
    (hsemicolons : ∀ located ∈ semicolons, located.token = .symbol ";") (context : Context)
    (rounds : ℕ) (tokens : List Located) :
    statementList [] true (semicolons.length + rounds) context (semicolons ++ tokens) =
      statementList [] true rounds context tokens := by
  induction semicolons with
  | nil => simp
  | cons located semicolons ih =>
      obtain ⟨hfirst, hothers⟩ := List.forall_mem_cons.mp hsemicolons
      rw [List.length_cons, Nat.succ_add, List.cons_append, ← ih hothers]
      rw [statementList]
      exact Parser.ok_bind (Parser.symbol?_of_eq hfirst) rfl

variable {tokens remaining : List Located} {rest : List Char} {context : Context}
  {trees : List Tree}

theorem exists_statement_of_statementList
    {semicolons others : List Located} {located : Located}
    (hsemicolons : ∀ located ∈ semicolons, located.token = .symbol ";")
    (hother : located.token ≠ .symbol ";")
    (hlist : statementList [] true ((semicolons ++ located :: others).length + 1) context
      (semicolons ++ located :: others) = .ok (trees, remaining)) :
    ∃ first more middle, trees = first :: more ∧
      (Productions.atDepth nestingLimit).statement context (located :: others) =
        .ok (first, middle) := by
  have hlength : (semicolons ++ located :: others).length + 1 =
      semicolons.length + (others.length + 1 + 1) := by
    rw [List.length_append, List.length_cons]
    omega
  rw [hlength, statementList_semicolons hsemicolons] at hlist
  exact exists_first_of_statementList hother hlist

/-- The first tree is what the grammar makes of the first token behind all semicolons. -/
theorem first_tree_of_statementList
    {semicolons others : List Located} {located : Located}
    (hsemicolons : ∀ located ∈ semicolons, located.token = .symbol ";")
    (hother : located.token ≠ .symbol ";") (htokens : tokens = semicolons ++ located :: others)
    (hlist : statementList [] true (tokens.length + 1) context tokens = .ok (trees, remaining)) :
    ∃ first more, trees = first :: more ∧
      if located.token = .symbol "(" then first = .ofClass (.manipulation .anySession)
      else first.FitsWord located.token.keyword := by
  subst htokens
  obtain ⟨first, more, middle, rfl, htree⟩ :=
    exists_statement_of_statementList hsemicolons hother hlist
  exact ⟨first, more, rfl, Statement.fitsWord_statement htree⟩

namespace ReadsOn

theorem no_trees
    (hreads : ReadsOn lexicon tokens [])
    (hlist : statementList [] true (tokens.length + 1) context tokens = .ok (trees, remaining)) :
    trees = [] := by
  have hsame := statementList_semicolons hreads.semicolons context 1 []
  rw [List.append_nil, hlist] at hsame
  cases hsame
  rfl

/-- The first statement is what the first token behind all semicolons says. -/
theorem first_tree
    (hreads : ReadsOn lexicon tokens (c :: rest)) (hc : c ≠ ';')
    (hgap : ∀ place, readGap? lexicon ⟨c :: rest, place⟩ = none)
    (hlist : statementList [] true (tokens.length + 1) context tokens = .ok (trees, remaining)) :
    ∃ previous place token after first others,
      readToken lexicon previous c ⟨c :: rest, place⟩ = .ok (token, after) ∧
      trees = first :: others ∧
      if token = .symbol "(" then first = .ofClass (.manipulation .anySession)
      else first.FitsWord token.keyword := by
  obtain ⟨read, previous, place, gap, token, after, steps, htoken, hread, -, hall⟩ :=
    hreads.token hgap
  obtain ⟨more, hmore⟩ := prefix_of_readAll hall
  rw [List.reverse_cons, List.append_assoc, List.singleton_append] at hmore
  have hsemicolons : ∀ located ∈ read.reverse, located.token = .symbol ";" :=
    fun located hlocated => hread located (List.mem_reverse.mp hlocated)
  have hother : token ≠ .symbol ";" := fun hsame =>
    hc (sign_of_readToken htoken (by decide) hsame)
  obtain ⟨first, others, htrees, hfits⟩ :=
    first_tree_of_statementList hsemicolons hother hmore.symm hlist
  exact ⟨previous, place, token, after, first, others, htoken, htrees, hfits⟩

end ReadsOn

variable {text : String}

theorem no_trees_of_treesOf
    (htrees : treesOf dialect text = .ok trees)
    (hpassed : text.toList.dropWhile (Lexicon.of dialect).passes = []) : trees = [] := by
  obtain ⟨tokens, remaining, htokens, hlist⟩ := treesOf_eq_ok.mp htrees
  have hreads := (ReadsOn.of_tokensOf htokens).passed
  rw [hpassed] at hreads
  exact hreads.no_trees hlist

def Located.isSemicolon (located : Located) : Bool :=
  located.token = .symbol ";"

def firstToken? (dialect : Dialect) (text : String) : Option Token :=
  match tokensOf (Lexicon.of dialect) text with
  | .ok tokens => (tokens.find? fun located => !located.isSemicolon).map Located.token
  | .error _ => none

theorem semicolons_of_find?
    {tokens : List Located} (hfind : (tokens.find? fun located => !located.isSemicolon) = none) :
    ∀ located ∈ tokens, located.token = .symbol ";" := by
  intro located hmem
  simpa [Located.isSemicolon] using List.find?_eq_none.mp hfind located hmem

theorem exists_semicolons_of_find? {tokens : List Located} {located : Located}
    (hfind : (tokens.find? fun located => !located.isSemicolon) = some located) :
    ∃ semicolons others, tokens = semicolons ++ located :: others ∧
      (∀ semicolon ∈ semicolons, semicolon.token = .symbol ";") ∧
      located.token ≠ .symbol ";" := by
  obtain ⟨hother, semicolons, others, htokens, hsemicolons⟩ :=
    List.find?_eq_some_iff_append.mp hfind
  refine ⟨semicolons, others, htokens, fun semicolon hmem => ?_, ?_⟩
  · simpa [Located.isSemicolon] using hsemicolons semicolon hmem
  · simpa [Located.isSemicolon] using hother

/-- A text with a statement has a first token, and the statement is what the token says. -/
theorem exists_firstToken_of_treesOf
    {first : Tree} {others : List Tree} (htrees : treesOf dialect text = .ok (first :: others)) :
    ∃ token, firstToken? dialect text = some token ∧
      (if token = .symbol "(" then first = .ofClass (.manipulation .anySession)
      else first.FitsWord token.keyword) ∧
      (first = .byKeywords ↔ token.keyword ∈ Statement.openWords) := by
  obtain ⟨tokens, remaining, htokens, hlist⟩ := treesOf_eq_ok.mp htrees
  rw [firstToken?, htokens]
  dsimp only
  cases hfind : tokens.find? fun located => !located.isSemicolon with
  | none =>
      have hall := statementList_semicolons (semicolons_of_find? hfind)
        { dialect, bound := tokens.length + 1 } 1 []
      rw [List.append_nil, hlist] at hall
      cases hall
  | some located =>
      obtain ⟨semicolons, more, rfl, hsemicolons, hother⟩ := exists_semicolons_of_find? hfind
      obtain ⟨_, _, middle, heq, htree⟩ :=
        exists_statement_of_statementList hsemicolons hother hlist
      cases heq
      exact ⟨located.token, rfl, Statement.fitsWord_statement htree,
        Statement.byKeywords_iff htree⟩

theorem treesOf_eq_nil_iff :
    treesOf dialect text = .ok [] ↔
      ∃ tokens, tokensOf (Lexicon.of dialect) text = .ok tokens ∧
        ∀ located ∈ tokens, located.token = .symbol ";" := by
  constructor
  · intro htrees
    obtain ⟨tokens, remaining, htokens, hlist⟩ := treesOf_eq_ok.mp htrees
    refine ⟨tokens, htokens, ?_⟩
    cases hfind : tokens.find? fun located => !located.isSemicolon with
    | none => exact semicolons_of_find? hfind
    | some located =>
        obtain ⟨semicolons, more, rfl, hsemicolons, hother⟩ := exists_semicolons_of_find? hfind
        obtain ⟨_, _, middle, heq, -⟩ :=
          exists_statement_of_statementList hsemicolons hother hlist
        cases heq
  · rintro ⟨tokens, htokens, hsemicolons⟩
    have hall := statementList_semicolons hsemicolons
      { dialect, bound := tokens.length + 1 } 1 []
    rw [List.append_nil] at hall
    exact treesOf_eq_ok.mpr ⟨tokens, [], htokens, hall⟩

theorem first_tree_of_treesOf
    (htrees : treesOf dialect text = .ok trees) {more : List Char}
    (hpassed : text.toList.dropWhile (Lexicon.of dialect).passes = c :: more)
    (hgap : ∀ place, readGap? (Lexicon.of dialect) ⟨c :: more, place⟩ = none) :
    ∃ previous place token after first others,
      readToken (Lexicon.of dialect) previous c ⟨c :: more, place⟩ = .ok (token, after) ∧
      trees = first :: others ∧
      if token = .symbol "(" then first = .ofClass (.manipulation .anySession)
      else first.FitsWord token.keyword := by
  obtain ⟨tokens, remaining, htokens, hlist⟩ := treesOf_eq_ok.mp htrees
  have hreads := (ReadsOn.of_tokensOf htokens).passed
  rw [hpassed] at hreads
  have hstops := List.head?_dropWhile_not (Lexicon.of dialect).passes text.toList
  rw [hpassed] at hstops
  refine hreads.first_tree ?_ hgap hlist
  rintro rfl
  simp [Lexicon.passes] at hstops

end SqlPipe.Sql
