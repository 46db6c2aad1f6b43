import SqlPipe.Sql.Grammar
import Mathlib.Data.List.Basic

/-!
# Results of parsers

What is known of a result whatever the tokens were.  A parser that reads one phrase after another
yields what the last of its steps yields, so that the phrases before it need not be looked at.
-/

namespace SqlPipe.Sql

namespace Parser

variable {α β : Type} {context : Context} {tokens rest : List Located}

theorem bind_eq_ok {parser : Parser α} {next : α → Parser β} {value : β} :
    (parser >>= next) context tokens = .ok (value, rest) ↔
      ∃ first middle, parser context tokens = .ok (first, middle) ∧
        next first context middle = .ok (value, rest) := by
  have hbind : (parser >>= next) context tokens =
      (parser context tokens >>= fun done => next done.1 context done.2) := rfl
  rw [hbind]
  cases parser context tokens with
  | error failure => simp [bind, Except.bind]
  | ok done =>
      constructor
      · intro hnext
        exact ⟨done.1, done.2, rfl, hnext⟩
      · rintro ⟨first, middle, hdone, hnext⟩
        cases hdone
        exact hnext

theorem bind_of_ok {parser : Parser α} {next : α → Parser β} {first : α} {middle : List Located}
    (hparser : parser context tokens = .ok (first, middle)) :
    (parser >>= next) context tokens = next first context middle := by
  have hbind : (parser >>= next) context tokens =
      (parser context tokens >>= fun done => next done.1 context done.2) := rfl
  rw [hbind, hparser]
  rfl

/-! ## Single steps -/

theorem ok_bind {parser : Parser α} {next : α → Parser β} {first : α} {middle : List Located}
    {result : Except SyntaxError (β × List Located)}
    (hparser : parser context tokens = .ok (first, middle))
    (hnext : next first context middle = result) : (parser >>= next) context tokens = result := by
  rw [bind_of_ok hparser, hnext]

/-- A choice in the middle: what is chosen goes on. -/
theorem ite_bind {condition : Prop} [Decidable condition] {parser alternative : Parser α}
    {next : α → Parser β} {first : α} {middle : List Located}
    {result : Except SyntaxError (β × List Located)}
    (hchosen : (if condition then parser else alternative) context tokens = .ok (first, middle))
    (hnext : next first context middle = result) :
    (if condition then parser >>= next else alternative >>= next) context tokens = result := by
  split at hchosen
  next hcondition =>
    rw [if_pos hcondition]
    exact ok_bind hchosen hnext
  next hcondition =>
    rw [if_neg hcondition]
    exact ok_bind hchosen hnext

theorem error_bind {parser : Parser α} {next : α → Parser β} {failure : SyntaxError}
    (hparser : parser context tokens = .error failure) :
    (parser >>= next) context tokens = .error failure := by
  have hbind : (parser >>= next) context tokens =
      (parser context tokens >>= fun done => next done.1 context done.2) := rfl
  rw [hbind, hparser]
  rfl

theorem dialect_eq : dialect context tokens = .ok (context.dialect, tokens) := rfl

theorem get_eq : (get : Parser (List Located)) context tokens = .ok (tokens, tokens) := rfl

theorem read_eq : (read : Parser Context) context tokens = .ok (context, tokens) := rfl

theorem advance_eq : advance context tokens = .ok ((), tokens.tail) := rfl

theorem throw_eq {failure : SyntaxError} :
    (throw failure : Parser α) context tokens = .error failure := rfl

theorem pure_eq {value : α} : (pure value : Parser α) context tokens = .ok (value, tokens) := rfl

theorem attempt_of_ok {parser : Parser α} {value : α}
    (hparser : parser context tokens = .ok (value, rest)) :
    attempt parser context tokens = .ok (.ok value, rest) := by
  rw [attempt, hparser]

theorem map_of_ok {parser : Parser α} {value : α} (function : α → β)
    (hparser : parser context tokens = .ok (value, rest)) :
    (function <$> parser) context tokens = .ok (function value, rest) := by
  rw [map_eq_pure_bind]
  exact ok_bind hparser pure_eq

theorem maybe_of_error {parser : Parser α} {failure : SyntaxError}
    (hparser : parser context tokens = .error failure) (hfailure : failure ≠ .tooDeep) :
    maybe parser context tokens = .ok (none, tokens) := by
  have hattempt : attempt parser context tokens = .ok (.error failure, tokens) := by
    rw [attempt, hparser]
  unfold maybe
  refine ok_bind hattempt ?_
  cases failure with
  | tooDeep => exact absurd rfl hfailure
  | _ => exact pure_eq

def keywordAt (tokens : List Located) : String :=
  match tokens with
  | located :: _ => located.token.keyword
  | [] => ""

theorem peekKeyword_eq : peekKeyword context tokens = .ok (keywordAt tokens, tokens) := by
  cases tokens <;> rfl

theorem keyword?_of_ne {word : String} (hword : keywordAt tokens ≠ word) :
    keyword? word context tokens = .ok (false, tokens) := by
  unfold keyword?
  refine ok_bind peekKeyword_eq ?_
  rw [if_neg (by simpa using hword)]
  exact pure_eq

theorem keyword?_of_eq {located : Located} {word : String} (hword : located.token.keyword = word) :
    keyword? word context (located :: tokens) = .ok (true, tokens) := by
  unfold keyword?
  refine ok_bind peekKeyword_eq ?_
  rw [if_pos (by simpa [keywordAt] using hword)]
  exact ok_bind advance_eq pure_eq

theorem keywords?_of_ne {word : String} {words : List String} (hword : keywordAt tokens ≠ word) :
    keywords? (word :: words) context tokens = .ok (false, tokens) := by
  have hbegins : beginsWith (word :: words) tokens = false := by
    cases tokens with
    | nil => rfl
    | cons located tokens => simpa [beginsWith, keywordAt] using fun h => absurd h hword
  unfold keywords?
  refine ok_bind get_eq ?_
  rw [hbegins]
  exact pure_eq

theorem behind?_of_ne {word : String} (hword : keywordAt tokens ≠ word) (parser : Parser α) :
    behind? word parser context tokens = .ok (none, tokens) :=
  ok_bind (keyword?_of_ne hword) pure_eq

theorem anyKeyword?_of_not_mem {words : List String} (hwords : keywordAt tokens ∉ words) :
    anyKeyword? words context tokens = .ok (none, tokens) := by
  unfold anyKeyword?
  refine ok_bind peekKeyword_eq ?_
  rw [if_neg (by simpa using hwords)]
  exact pure_eq

theorem atAnyKeyword_of_not_mem {words : List String} (hwords : keywordAt tokens ∉ words) :
    atAnyKeyword words context tokens = .ok (false, tokens) := by
  unfold atAnyKeyword
  refine ok_bind peekKeyword_eq ?_
  have hcontains : words.contains (keywordAt tokens) = false := by simpa using hwords
  rw [hcontains]
  exact pure_eq

theorem onlyIf_of_false {test : Parser Bool} (htest : test context tokens = .ok (false, tokens))
    (condition : Bool) : onlyIf condition test context tokens = .ok (false, tokens) := by
  cases condition
  · exact pure_eq
  · exact htest

theorem among_of_false {test : Parser Bool} (htest : test context tokens = .ok (false, tokens))
    (dialects : List Dialect) : among dialects test context tokens = .ok (false, tokens) :=
  ok_bind dialect_eq (onlyIf_of_false htest _)

def tokenAt (tokens : List Located) : Option Token := tokens.head?.map Located.token

theorem atSymbol_of_ne {text : String} (hsymbol : tokenAt tokens ≠ some (.symbol text)) :
    atSymbol text context tokens = .ok (false, tokens) := by
  unfold atSymbol
  refine ok_bind get_eq ?_
  cases tokens with
  | nil => exact pure_eq
  | cons located tokens =>
      have hne : (located.token == Token.symbol text) = false := by simpa [tokenAt] using hsymbol
      simp only [hne]
      exact pure_eq

theorem atSymbol_of_eq {located : Located} {text : String}
    (hsymbol : located.token = .symbol text) :
    atSymbol text context (located :: tokens) = .ok (true, located :: tokens) := by
  unfold atSymbol
  refine ok_bind get_eq ?_
  simp only [hsymbol, beq_self_eq_true]
  exact pure_eq

theorem symbol?_of_ne {text : String} (hsymbol : tokenAt tokens ≠ some (.symbol text)) :
    symbol? text context tokens = .ok (false, tokens) := by
  unfold symbol?
  exact ok_bind (atSymbol_of_ne hsymbol) pure_eq

theorem symbol?_of_eq {located : Located} {text : String} (hsymbol : located.token = .symbol text) :
    symbol? text context (located :: tokens) = .ok (true, tokens) := by
  unfold symbol?
  refine ok_bind (atSymbol_of_eq hsymbol) ?_
  exact ok_bind advance_eq pure_eq

theorem symbol_of_eq {located : Located} {text : String} (hsymbol : located.token = .symbol text) :
    symbol text context (located :: tokens) = .ok ((), tokens) := by
  unfold symbol
  exact ok_bind (symbol?_of_eq hsymbol) pure_eq

theorem many_of_none {parser : Parser (Option α)}
    (hparser : parser context tokens = .ok (none, tokens)) :
    many parser context tokens = .ok ([], tokens) := by
  unfold many
  refine ok_bind read_eq ?_
  cases context.bound with
  | zero => exact pure_eq
  | succ rounds =>
      unfold whileSome
      exact ok_bind hparser pure_eq

theorem peek?_eq : peek? context tokens = .ok (tokens.head?, tokens) := rfl

/-! ## Results whatever the tokens were -/

/-- Every result of the parser has the property. -/
def Yields (context : Context) (parser : Parser α) (property : α → Prop) : Prop :=
  ∀ ⦃tokens value rest⦄, parser context tokens = .ok (value, rest) → property value

variable {property : α → Prop} {other : β → Prop}

theorem yields_pure {value : α} (hvalue : property value) :
    Yields context (pure value) property := by
  intro tokens result rest hresult
  cases hresult
  exact hvalue

theorem yields_throw (failure : SyntaxError) :
    Yields context (throw failure : Parser α) property := by
  intro tokens result rest hresult
  cases hresult

theorem Yields.bind {parser : Parser α} {next : α → Parser β}
    (hparser : Yields context parser property)
    (hnext : ∀ value, property value → Yields context (next value) other) :
    Yields context (parser >>= next) other := by
  intro tokens result rest hresult
  obtain ⟨first, middle, hfirst, hlast⟩ := bind_eq_ok.mp hresult
  exact hnext first (hparser hfirst) hlast

theorem yields_bind {parser : Parser α} {next : α → Parser β}
    (hnext : ∀ value, Yields context (next value) other) :
    Yields context (parser >>= next) other := by
  have hparser : Yields context parser fun _ => True := fun _ _ _ _ => trivial
  exact hparser.bind fun value _ => hnext value

theorem Yields.mono {parser : Parser α} {weaker : α → Prop}
    (hparser : Yields context parser property)
    (hweaker : ∀ value, property value → weaker value) : Yields context parser weaker :=
  fun _ _ _ hresult => hweaker _ (hparser hresult)

theorem Yields.map {parser : Parser α} {function : α → β}
    (hparser : Yields context parser property)
    (hfunction : ∀ value, property value → other (function value)) :
    Yields context (function <$> parser) other := by
  rw [map_eq_pure_bind]
  exact hparser.bind fun value hvalue => yields_pure (hfunction value hvalue)

theorem yields_ite {condition : Prop} [Decidable condition] {parser alternative : Parser α}
    (hparser : Yields context parser property)
    (halternative : Yields context alternative property) :
    Yields context (if condition then parser else alternative) property := by
  split
  · exact hparser
  · exact halternative

/-- A choice in the middle: whatever is chosen, the rest is the same. -/
theorem yields_ite_bind {condition : Prop} [Decidable condition] {parser alternative : Parser α}
    {next : α → Parser β} (hnext : ∀ value, Yields context (next value) other) :
    Yields context (if condition then parser >>= next else alternative >>= next) other :=
  yields_ite (yields_bind hnext) (yields_bind hnext)

theorem Yields.ite_bind {condition : Prop} [Decidable condition] {parser alternative : Parser α}
    {next : α → Parser β} (hparser : condition → Yields context parser property)
    (halternative : ¬condition → Yields context alternative property)
    (hnext : ∀ value, property value → Yields context (next value) other) :
    Yields context (if condition then parser >>= next else alternative >>= next) other := by
  split
  next hcondition => exact (hparser hcondition).bind hnext
  next hcondition => exact (halternative hcondition).bind hnext

theorem yields_commaTail {parser : Parser α} (hparser : Yields context parser property)
    {read : List α} (hread : ∀ value ∈ read, property value) (rounds : ℕ) :
    Yields context (commaTail parser read rounds) (∀ value ∈ ·, property value) := by
  have hreverse : ∀ value ∈ read.reverse, property value :=
    fun value hvalue => hread value (List.mem_reverse.mp hvalue)
  induction rounds generalizing read with
  | zero => exact yields_pure hreverse
  | succ rounds ih =>
      unfold commaTail
      refine yields_bind fun found => yields_ite ?_ (yields_pure hreverse)
      refine hparser.bind fun value hvalue => ?_
      have hcons : ∀ other ∈ value :: read, property other :=
        List.forall_mem_cons.mpr ⟨hvalue, hread⟩
      exact ih hcons fun other hother => hcons other (List.mem_reverse.mp hother)

theorem yields_commaSeparated {parser : Parser α} (hparser : Yields context parser property) :
    Yields context (commaSeparated parser) (∀ value ∈ ·, property value) := by
  unfold commaSeparated
  refine hparser.bind fun first hfirst => yields_bind fun _ => ?_
  exact yields_commaTail hparser (List.forall_mem_singleton.mpr hfirst) _

theorem ne_nil_of_commaSeparated (parser : Parser α) :
    Yields context (commaSeparated parser) (· ≠ []) := by
  have htail (read : List α) (hread : read ≠ []) (rounds : ℕ) :
      Yields context (commaTail parser read rounds) (· ≠ []) := by
    induction rounds generalizing read with
    | zero => exact yields_pure (by simpa using hread)
    | succ rounds ih =>
        unfold commaTail
        refine yields_bind fun found => yields_ite ?_ (yields_pure (by simpa using hread))
        exact yields_bind fun value => ih _ (List.cons_ne_nil value read)
  unfold commaSeparated
  exact yields_bind fun first => yields_bind fun _ => htail _ (List.cons_ne_nil first []) _

theorem ne_nil_of_qualifiedName : Yields context qualifiedName (· ≠ []) := by
  have htail (parts : List Ident) (hparts : parts ≠ []) (rounds : ℕ) :
      Yields context (nameTail parts rounds) (· ≠ []) := by
    induction rounds generalizing parts with
    | zero => exact yields_pure (by simpa using hparts)
    | succ rounds ih =>
        unfold nameTail
        refine yields_bind fun found => yields_ite ?_ (yields_pure (by simpa using hparts))
        refine yields_bind fun twice => yields_ite ?_ ?_
        · exact yields_bind fun part => ih _ (List.cons_ne_nil _ _)
        · exact yields_bind fun part => ih _ (List.cons_ne_nil _ _)
  unfold qualifiedName
  exact yields_bind fun first => yields_bind fun _ => htail _ (List.cons_ne_nil first []) _

theorem yields_expected (what : String) :
    Yields context (expected what : Parser α) property :=
  yields_bind fun _ => yields_throw _

theorem yields_dialect : Yields context dialect (· = context.dialect) := by
  intro tokens value rest hresult
  cases hresult
  rfl

end Parser

open SqlPipe.Sql.Parser

/-! ## Statements of a text -/

theorem prefix_of_statementList
    (context : Context) (read : List Tree) (delimited : Bool) (rounds : ℕ) :
    Yields context (statementList read delimited rounds) (read.reverse <+: ·) := by
  induction rounds generalizing read delimited with
  | zero => exact yields_pure (List.prefix_refl _)
  | succ rounds ih =>
      unfold statementList
      refine yields_bind fun separated => yields_ite (ih read true) ?_
      refine yields_bind fun next => yields_ite (yields_pure (List.prefix_refl _)) ?_
      refine yields_bind fun word => yields_ite (yields_pure (List.prefix_refl _)) ?_
      refine yields_ite (yields_expected _) (yields_bind fun tree => ?_)
      refine (ih (tree :: read) false).mono ?_
      intro trees htrees
      rw [List.reverse_cons] at htrees
      exact (List.prefix_append _ _).trans htrees

/-- The first tree of a text that begins with a word is that of the statement which begins there. -/
theorem exists_first_of_statementList
    {rounds : ℕ} {context : Context} {located : Located} {tokens rest : List Located}
    {trees : List Tree} (hword : located.token ≠ .symbol ";")
    (htrees : statementList [] true (rounds + 1) context (located :: tokens) =
      .ok (trees, rest)) :
    ∃ tree others middle, trees = tree :: others ∧
      (Productions.atDepth nestingLimit).statement context (located :: tokens) =
        .ok (tree, middle) := by
  unfold statementList at htrees
  have hsymbol : tokenAt (located :: tokens) ≠ some (.symbol ";") := by simpa [tokenAt] using hword
  rw [bind_of_ok (symbol?_of_ne hsymbol), if_neg (by simp), bind_of_ok peek?_eq, if_neg (by simp),
    bind_of_ok peekKeyword_eq, if_neg (by simp), if_neg (by simp)] at htrees
  obtain ⟨tree, middle, htree, hothers⟩ := bind_eq_ok.mp htrees
  obtain ⟨others, rfl⟩ := prefix_of_statementList _ _ _ _ hothers
  exact ⟨tree, others, middle, rfl, htree⟩

theorem treesOf_eq_ok {dialect : Dialect} {text : String} {trees : List Tree} :
    treesOf dialect text = .ok trees ↔
      ∃ tokens rest, tokensOf (Lexicon.of dialect) text = .ok tokens ∧
        statementList [] true (tokens.length + 1) { dialect, bound := tokens.length + 1 } tokens =
          .ok (trees, rest) := by
  unfold treesOf
  cases tokensOf (Lexicon.of dialect) text with
  | error failure => simp [bind, Except.bind]
  | ok tokens =>
      cases hlist : statementList [] true (tokens.length + 1)
        { dialect, bound := tokens.length + 1 } tokens with
      | error failure => simp [bind, Except.bind, hlist]
      | ok done => simp [bind, Except.bind, pure, Except.pure, hlist, Prod.ext_iff]

/-- A statement that begins with a word, unless the word begins a query, is read by what the grammar
says of the word. -/
theorem behindWord?_of_statement
    {below : Productions} {context : Context} (located : Located) {tokens rest : List Located}
    {tree : Tree} (hsymbol : located.token ≠ .symbol "(")
    (hquery : ["SELECT", "WITH", "VALUES", "FROM"].contains located.token.keyword = false)
    (htree : Statement.statement below context (located :: tokens) = .ok (tree, rest)) :
    Statement.behindWord? below located.token.keyword context tokens =
      .ok (some tree, rest) := by
  have hat : tokenAt (located :: tokens) ≠ some (.symbol "(") := by simpa [tokenAt] using hsymbol
  unfold Statement.statement at htree
  rw [bind_of_ok peekKeyword_eq, bind_of_ok (atSymbol_of_ne hat), keywordAt, hquery,
    if_neg (by simp)] at htree
  obtain ⟨_, _, hget, htree⟩ := bind_eq_ok.mp htree
  cases hget
  obtain ⟨_, _, hadvance, htree⟩ := bind_eq_ok.mp htree
  cases hadvance
  obtain ⟨found, middle, hfound, htree⟩ := bind_eq_ok.mp htree
  rw [List.tail_cons] at hfound
  cases found with
  | some other =>
      cases htree
      exact hfound
  | none =>
      obtain ⟨_, _, _, htree⟩ := bind_eq_ok.mp htree
      have hnever : Yields context (expected "an SQL statement" : Parser Tree) fun _ => False :=
        yields_expected _
      exact (hnever htree).elim

end SqlPipe.Sql
