import SqlPipe.Proofs.Sql.Lexemes
import SqlPipe.Proofs.Sql.Reading

/-!
# Values of rows

A value is faithful when its text, in front of a comma or of a closing parenthesis, is read as an
expression whose normal form is that text.  Numbers, strings and the constants are.
-/

namespace SqlPipe.Sql

open SqlPipe.Sql.Parser

/-- A comma or a closing parenthesis comes next. -/
def EndsValue (rest : List Located) : Prop :=
  tokenAt rest = some (.symbol ",") ∨ tokenAt rest = some (.symbol ")")

variable {context : Context} {rest : List Located}

theorem EndsValue.cases {property : List Located → Prop} (hrest : EndsValue rest)
    (hcomma : ∀ place gap others, property (⟨.symbol ",", place, gap⟩ :: others))
    (hclosing : ∀ place gap others, property (⟨.symbol ")", place, gap⟩ :: others)) :
    property rest := by
  obtain _ | ⟨⟨token, place, gap⟩, others⟩ := rest
  · simp [EndsValue, tokenAt] at hrest
  · obtain rfl | rfl : token = .symbol "," ∨ token = .symbol ")" := by
      simpa [EndsValue, tokenAt] using hrest
    · exact hcomma place gap others
    · exact hclosing place gap others

namespace EndsValue

variable (hrest : EndsValue rest)

include hrest

theorem tokenAt_ne {text : String} (hcomma : text ≠ ",") (hclosing : text ≠ ")") :
    tokenAt rest ≠ some (.symbol text) := by
  rcases hrest with h | h
  · rw [h]
    simpa using hcomma.symm
  · rw [h]
    simpa using hclosing.symm

theorem keywordAt_eq : keywordAt rest = "" := by
  apply hrest.cases
  · intro place gap others
    rfl
  · intro place gap others
    rfl

theorem atOuterMark : Expression.atOuterMark context rest = .ok (false, rest) := by
  have hmark : (((rest.take Expression.outerMark.length).map Located.token) ==
      Expression.outerMark.map Token.symbol) = false := by
    apply hrest.cases
    · intro place gap others
      simp [Expression.outerMark]
    · intro place gap others
      simp [Expression.outerMark]
  unfold Expression.atOuterMark
  refine ok_bind dialect_eq ?_
  split
  · unfold atSymbols
    refine ok_bind get_eq ?_
    rw [hmark]
    exact pure_eq
  · exact pure_eq

theorem fields (below : Productions) (root : Expr) (rounds : ℕ) :
    Expression.fields below root rounds context rest = .ok (root, rest) := by
  have hclosed : Expression.closed root context rest = .ok (root, rest) :=
    ok_bind hrest.atOuterMark pure_eq
  cases rounds with
  | zero => exact pure_eq
  | succ rounds =>
      unfold Expression.fields
      refine ok_bind dialect_eq (ok_bind get_eq ?_)
      revert hclosed
      apply hrest.cases
      · intro place gap others hclosed
        exact hclosed
      · intro place gap others hclosed
        exact hclosed

theorem nextBinding : nextBinding context rest = .ok (.none, rest) := by
  unfold Parser.nextBinding
  refine ok_bind dialect_eq (ok_bind get_eq ?_)
  apply hrest.cases
  · intro place gap others
    cases hdialect : context.dialect <;> rfl
  · intro place gap others
    cases hdialect : context.dialect <;> rfl

theorem continuations : continuations context rest = .ok ([], rest) := by
  unfold Parser.continuations
  refine ok_bind dialect_eq (many_of_none (ok_bind get_eq ?_))
  apply hrest.cases
  · intro place gap others
    exact pure_eq
  · intro place gap others
    exact pure_eq

theorem operators (below : Productions) (left : Expr) (strength rounds : ℕ) :
    Expression.operators below left strength rounds context rest = .ok (left, rest) := by
  cases rounds with
  | zero => exact pure_eq
  | succ rounds =>
      have hstrength : Binding.none.strength context.dialect ≤ strength := by
        cases context.dialect <;> exact Nat.zero_le _
      unfold Expression.operators
      refine ok_bind hrest.nextBinding (ok_bind dialect_eq ?_)
      rw [if_pos hstrength]
      exact pure_eq

end EndsValue

/-- An operand in front of what ends a value is the whole expression. -/
theorem expression_of_operand
    {below : Productions} {tokens : List Located} {value : Expr} (hrest : EndsValue rest)
    (hoperand : Expression.operand below context.bound context tokens = .ok (value, rest))
    (strength : ℕ) :
    Expression.expression below strength context tokens = .ok (value, rest) := by
  have hcollate : keywordAt rest ≠ "COLLATE" := by
    rw [hrest.keywordAt_eq]
    decide
  unfold Expression.expression
  refine ok_bind read_eq (ok_bind hoperand (ok_bind (hrest.fields below value _) ?_))
  refine ok_bind (keyword?_of_ne hcollate) ?_
  exact hrest.operators below value strength _

/-- The token is not a word. -/
def NotWord (token : Token) : Prop := ∀ value quote keyword, token ≠ .word value quote keyword

theorem dataType_of_notWord {located : Located} (hword : NotWord located.token)
    (hbound : context.bound ≠ 0) :
    dataType context (located :: rest) =
      .error (.expected "a data type name" (some located)) := by
  have hkeyword : keywordAt (located :: rest) = "" := by
    rw [keywordAt]
    cases htoken : located.token with
    | word value quote keyword => exact absurd htoken (hword value quote keyword)
    | _ => rfl
  have hsimple : simpleType "" context (located :: rest) =
      .error (.expected "a data type name" (some located)) := by
    have hbegins : beginsType "" = false := by decide
    unfold simpleType
    rw [hbegins]
    refine ok_bind dialect_eq (ok_bind dialect_eq ?_)
    have hvector : ["TSVECTOR", "TSQUERY"].contains "" = false := by decide
    have hnext : peekAt? 0 context (located :: rest) =
        .ok (some located.token, located :: rest) := rfl
    rw [hvector]
    refine ok_bind hnext ?_
    obtain ⟨token, place, gap⟩ := located
    cases token with
    | word value quote keyword => exact absurd rfl (hword value quote keyword)
    | _ => rfl
  obtain ⟨rounds, hrounds⟩ := Nat.exists_eq_succ_of_ne_zero hbound
  have hwithin : typeWithin context.bound context (located :: rest) =
      .error (.expected "a data type name" (some located)) := by
    rw [hrounds]
    unfold typeWithin
    refine ok_bind peekKeyword_eq ?_
    rw [hkeyword]
    have hcompound : compoundType? "" (typeWithin rounds) context (located :: rest) =
        .ok (none, located :: rest) := ok_bind dialect_eq pure_eq
    refine ok_bind hcompound (error_bind hsimple)
  unfold dataType
  exact ok_bind read_eq (error_bind hwithin)

theorem typedLiteral_of_notWord
    {below : Productions} {operand : Parser Expr} {located : Located}
    (hword : NotWord located.token) (hbound : context.bound ≠ 0) :
    maybe (Expression.typedLiteral below operand) context (located :: rest) =
      .ok (none, located :: rest) := by
  have htype : dataType context (located :: rest) =
      .error (.expected "a data type name" (some located)) := dataType_of_notWord hword hbound
  have hliteral : Expression.typedLiteral below operand context (located :: rest) =
      .error (.expected "a data type name" (some located)) := error_bind htype
  exact maybe_of_error hliteral (by simp)

/-! ## Numbers and strings -/

theorem operand_of_number (below : Productions) (digits : String) {rounds : ℕ} (place : Place)
    (gap : Gap) (hrounds : rounds ≠ 0) (hbound : context.bound ≠ 0) :
    Expression.operand below rounds context (⟨.number digits false, place, gap⟩ :: rest) =
      .ok (.plain digits, rest) := by
  obtain ⟨rounds, rfl⟩ := Nat.exists_eq_succ_of_ne_zero hrounds
  have hnotWord : NotWord (.number digits false) := by
    intro value quote keyword
    simp
  unfold Expression.operand
  refine ok_bind (typedLiteral_of_notWord hnotWord hbound) ?_
  refine ok_bind dialect_eq (ok_bind get_eq ?_)
  rfl

theorem operand_of_string (below : Productions) {inside : String} {rounds : ℕ} (place : Place)
    (gap : Gap) (hrest : EndsValue rest) (hrounds : rounds ≠ 0) (hbound : context.bound ≠ 0) :
    Expression.operand below rounds context (⟨.literal .single inside, place, gap⟩ :: rest) =
      .ok (.plain (betweenQuotes '\x27' inside), rest) := by
  obtain ⟨rounds, rfl⟩ := Nat.exists_eq_succ_of_ne_zero hrounds
  have hnotWord : NotWord (.literal .single inside) := by
    intro value quote keyword
    simp
  have hvalue : value context (⟨.literal .single inside, place, gap⟩ :: rest) =
      .ok (betweenQuotes '\x27' inside, rest) := by
    unfold value
    refine ok_bind dialect_eq (ok_bind get_eq (ok_bind advance_eq ?_))
    refine ok_bind hrest.continuations ?_
    simp [String.join, literalText, pure_eq]
  unfold Expression.operand
  refine ok_bind (typedLiteral_of_notWord hnotWord hbound) ?_
  refine ok_bind dialect_eq (ok_bind get_eq ?_)
  exact map_of_ok Expr.plain hvalue

theorem operand_of_minus {below : Productions} {tokens : List Located} {operand : Expr}
    {rounds : ℕ} (place : Place) (gap : Gap) (hrounds : rounds ≠ 0) (hbound : context.bound ≠ 0)
    (hoperand : below.expr (Binding.product.strength context.dialect) context tokens =
      .ok (operand, rest)) :
    Expression.operand below rounds context (⟨.symbol "-", place, gap⟩ :: tokens) =
      .ok (.plain ("-" ++ operand.text), rest) := by
  obtain ⟨rounds, rfl⟩ := Nat.exists_eq_succ_of_ne_zero hrounds
  have hnotWord : NotWord (.symbol "-") := by
    intro value quote keyword
    simp
  unfold Expression.operand
  refine ok_bind (typedLiteral_of_notWord hnotWord hbound) ?_
  refine ok_bind dialect_eq (ok_bind get_eq ?_)
  refine ok_bind dialect_eq ?_
  refine ok_bind advance_eq (ok_bind hoperand ?_)
  rfl

/-! ## Constants -/

def constants : List String := ["NULL", "DEFAULT", "true", "false"]

section Words

variable {word : String} (hrest : EndsValue rest) (place : Place) (gap : Gap)

include hrest

theorem qualifiedName_of_word (word : String) :
    qualifiedName context (⟨wordToken word.toList, place, gap⟩ :: rest) =
      .ok ([⟨word, none⟩], rest) := by
  have htail : nameTail [⟨word, none⟩] context.bound context rest =
      .ok ([⟨word, none⟩], rest) := by
    cases context.bound with
    | zero => exact pure_eq
    | succ rounds =>
        unfold nameTail
        exact ok_bind (symbol?_of_ne (hrest.tokenAt_ne (by decide) (by decide))) pure_eq
  have hidentifier : identifier context (⟨wordToken word.toList, place, gap⟩ :: rest) =
      .ok (⟨word, none⟩, rest) := by
    simp only [wordToken, String.ofList_toList]
    exact ok_bind get_eq (ok_bind advance_eq pure_eq)
  unfold qualifiedName
  exact ok_bind hidentifier (ok_bind read_eq htail)

theorem arrayMarks_of_endsValue : arrayMarks context rest = .ok ("", rest) := by
  have hbracket : symbol? "[" context rest = .ok (false, rest) :=
    symbol?_of_ne (hrest.tokenAt_ne (by decide) (by decide))
  unfold arrayMarks
  refine ok_bind dialect_eq ?_
  split
  · exact ok_bind (many_of_none (ok_bind hbracket pure_eq)) pure_eq
  · exact pure_eq

variable (hword : word ∈ constants)

include hword

theorem simpleType_of_constant :
    simpleType (keywordOf word.toList) context (⟨wordToken word.toList, place, gap⟩ :: rest) =
      .ok (.named word, rest) := by
  have hplain : ∀ word ∈ constants, beginsType (keywordOf word.toList) = false ∧
      geometricTypeNames.contains (keywordOf word.toList) = false ∧
      ["TSVECTOR", "TSQUERY"].contains (keywordOf word.toList) = false := by
    decide
  obtain ⟨hbegins, hgeometric, hvector⟩ := hplain word hword
  have hmodifiers : typeModifiers? context rest = .ok ("", rest) :=
    ok_bind (symbol?_of_ne (hrest.tokenAt_ne (by decide) (by decide))) pure_eq
  unfold simpleType
  rw [hbegins, hgeometric, hvector]
  refine ok_bind dialect_eq (ok_bind dialect_eq (ok_bind rfl ?_))
  refine ok_bind (qualifiedName_of_word hrest place gap word) (ok_bind hmodifiers ?_)
  simp [QualifiedName.text, Ident.text, pure_eq]

/-- A constant alone is the name of a type that the grammar does not know. -/
theorem dataType_of_constant (hbound : context.bound ≠ 0) :
    dataType context (⟨wordToken word.toList, place, gap⟩ :: rest) = .ok (.named word, rest) := by
  have hcompound (type : Parser (DataType × Bool)) :
      compoundType? (keywordOf word.toList) type context
        (⟨wordToken word.toList, place, gap⟩ :: rest) =
      .ok (none, ⟨wordToken word.toList, place, gap⟩ :: rest) := by
    refine ok_bind dialect_eq ?_
    simp only [constants, List.mem_cons, List.not_mem_nil, or_false] at hword
    rcases hword with rfl | rfl | rfl | rfl
    · exact pure_eq
    · exact pure_eq
    · exact pure_eq
    · exact pure_eq
  obtain ⟨rounds, hrounds⟩ := Nat.exists_eq_succ_of_ne_zero hbound
  have hwithin : typeWithin context.bound context (⟨wordToken word.toList, place, gap⟩ :: rest) =
      .ok ((.named word, false), rest) := by
    rw [hrounds]
    unfold typeWithin
    refine ok_bind peekKeyword_eq (ok_bind (hcompound _) ?_)
    refine ok_bind (simpleType_of_constant hrest place gap hword) (ok_bind pure_eq ?_)
    exact ok_bind (arrayMarks_of_endsValue hrest) pure_eq
  unfold dataType
  exact ok_bind read_eq (ok_bind hwithin pure_eq)

end Words

theorem announced?_of_constant {word : String} (hword : word ∈ constants) (context : Context)
    (rest : List Located) (below : Productions) (operand : Parser Expr) :
    ∃ found : Option Expr, (∀ form ∈ found, form.text = word) ∧
      SpecialForm.announced? below operand word (keywordOf word.toList) context rest =
        .ok (found, rest) := by
  have hchoice (text : String) : ∀ form ∈ (if context.dialect == .sqlServer then none
      else some (Expr.plain text)), form.text = text := by
    split
    · simp
    · simp [Expr.plain]
  simp only [constants, List.mem_cons, List.not_mem_nil, or_false] at hword
  rcases hword with rfl | rfl | rfl | rfl
  · exact ⟨some (.plain "NULL"), by simp [Expr.plain], ok_bind dialect_eq pure_eq⟩
  · refine ⟨none, by simp, ok_bind dialect_eq ?_⟩
    cases context.dialect
    all_goals exact pure_eq
  · exact ⟨_, hchoice "true", ok_bind dialect_eq pure_eq⟩
  · exact ⟨_, hchoice "false", ok_bind dialect_eq pure_eq⟩

theorem named_of_endsValue (below : Productions) (ident : Ident) (hrest : EndsValue rest) :
    Expression.named below ident context rest = .ok (⟨ident.text, .name⟩, rest) := by
  unfold Expression.named
  refine ok_bind hrest.atOuterMark (ok_bind get_eq ?_)
  apply hrest.cases
  · intro place gap others
    exact pure_eq
  · intro place gap others
    exact pure_eq

theorem operand_of_constant
    (below : Productions) {word : String} {rounds : ℕ} (place : Place) (gap : Gap)
    (hword : word ∈ constants) (hrest : EndsValue rest) (hrounds : rounds ≠ 0)
    (hbound : context.bound ≠ 0) :
    ∃ value : Expr, value.text = word ∧
      Expression.operand below rounds context (⟨wordToken word.toList, place, gap⟩ :: rest) =
        .ok (value, rest) := by
  obtain ⟨rounds, rfl⟩ := Nat.exists_eq_succ_of_ne_zero hrounds
  have htype := dataType_of_constant hrest place gap hword hbound
  obtain ⟨found, hfound, hannounced⟩ :=
    announced?_of_constant hword context rest below (Expression.operand below rounds)
  have htyped : maybe (Expression.typedLiteral below (Expression.operand below rounds)) context
      (⟨wordToken word.toList, place, gap⟩ :: rest) =
      .ok (none, ⟨wordToken word.toList, place, gap⟩ :: rest) := by
    have hliteral : Expression.typedLiteral below (Expression.operand below rounds) context
        (⟨wordToken word.toList, place, gap⟩ :: rest) =
        .error (.expected "a literal" rest.head?) := ok_bind htype (ok_bind peek?_eq throw_eq)
    exact maybe_of_error hliteral (by simp)
  refine ⟨found.getD ⟨word, .name⟩, ?_, ?_⟩
  · cases found with
    | none => rfl
    | some form => exact hfound form rfl
  · unfold Expression.operand
    refine ok_bind htyped (ok_bind dialect_eq (ok_bind get_eq (ok_bind advance_eq ?_)))
    unfold Expression.word
    simp only [wordToken, String.ofList_toList, Ident.text, List.tail_cons]
    refine ok_bind (attempt_of_ok hannounced) ?_
    cases found with
    | some form => exact pure_eq
    | none => exact named_of_endsValue below ⟨word, none⟩ hrest

/-! ## Faithful values -/

/-- The productions by which the values of an insert are read. -/
def rowProductions : Productions := .atDepth (nestingLimit - 2)

/-- The value has a text of the given pieces, and in a row it is read from them. -/
structure ReadsBack (dialect : Dialect) (value : String) (pieces : List Piece) : Prop where
  text : charsOf pieces = value.toList
  lexes : ∀ ⦃previous behind⦄, ClosesValue behind →
    Lexes (Lexicon.of dialect) previous pieces behind
  begins : ∃ token others, tokensIn pieces = token :: others ∧ token ≠ .symbol ")"
  parses : ∀ ⦃context⦄, context.dialect = dialect → context.bound ≠ 0 →
    Reads context rowProductions.expressionText (tokensIn pieces) EndsValue value

/-- A value that is read back as it is written. -/
def Faithful (dialect : Dialect) (value : String) : Prop :=
  ∃ pieces, ReadsBack dialect value pieces

variable {dialect : Dialect}

theorem expressionText_of_operand
    {value : Expr} {tokens : List Located} (hrest : EndsValue rest)
    (hoperand : Expression.operand (.atDepth (nestingLimit - 3)) context.bound context tokens =
      .ok (value, rest)) :
    rowProductions.expressionText context tokens = .ok (value.text, rest) :=
  map_of_ok Expr.text (expression_of_operand hrest hoperand 0)

theorem readsBack_of_operand {value : String} (token : Token)
    (htoken : ∀ ⦃previous behind⦄, ClosesValue behind →
      ReadsAs (Lexicon.of dialect) previous value.toList token behind)
    (hbegins : token ≠ .symbol ")")
    (hoperand : ∀ ⦃context rest⦄ place gap, context.dialect = dialect → context.bound ≠ 0 →
      EndsValue rest → ∃ form : Expr, form.text = value ∧
        Expression.operand (.atDepth (nestingLimit - 3)) context.bound context
          (⟨token, place, gap⟩ :: rest) = .ok (form, rest)) :
    ReadsBack dialect value [.lexeme value.toList token] := by
  refine ⟨by simp [Piece.chars], ?_, ⟨token, [], rfl, hbegins⟩, ?_⟩
  · intro previous behind hbehind
    exact ⟨htoken hbehind, trivial⟩
  · intro context hdialect hbound located rest htokens hrest
    obtain ⟨place, gap, others, rfl, hothers⟩ := exists_located htokens
    obtain rfl := List.map_eq_nil_iff.mp hothers
    obtain ⟨form, rfl, hform⟩ := hoperand place gap hdialect hbound hrest
    exact expressionText_of_operand hrest hform

section Numerals

variable {whole : List Char} {fraction : Option (List Char)} (hwhole : whole ≠ [])
  (hdigits : ∀ c ∈ whole, c.isDigit = true)
  (hfraction : ∀ digits ∈ fraction, ∀ c ∈ digits, c.isDigit = true)

include hwhole hdigits hfraction

theorem faithful_numeral : Faithful dialect (String.ofList (numeral whole fraction)) := by
  refine ⟨_, readsBack_of_operand (.number (String.ofList (numeral whole fraction)) false) ?_
    (by simp) ?_⟩
  · intro previous behind hbehind
    rw [String.toList_ofList]
    exact readsAs_numeral hwhole hdigits hfraction hbehind
  · intro context rest place gap hdialect hbound hrest
    exact ⟨_, rfl, operand_of_number _ _ place gap hbound hbound⟩

theorem faithful_negative :
    Faithful dialect ("-" ++ String.ofList (numeral whole fraction)) := by
  refine ⟨[.lexeme ['-'] (.symbol "-"), .lexeme (numeral whole fraction)
    (.number (String.ofList (numeral whole fraction)) false)], ?_, ?_, ?_, ?_⟩
  · simp [Piece.chars]
  · intro previous behind hbehind
    obtain ⟨d, digits, rfl⟩ := List.exists_cons_of_ne_nil hwhole
    have hd := hdigits d List.mem_cons_self
    refine ⟨readsAs_minus hd, ?_, trivial⟩
    exact readsAs_numeral hwhole hdigits hfraction hbehind
  · exact ⟨_, _, rfl, by simp⟩
  · intro context hdialect hbound located rest htokens hrest
    obtain ⟨place, gap, others, rfl, hothers⟩ := exists_located htokens
    obtain ⟨place', gap', others, rfl, hnone⟩ := exists_located hothers
    obtain rfl := List.map_eq_nil_iff.mp hnone
    have hoperand : Expression.expression (.atDepth (nestingLimit - 4))
        (Binding.product.strength context.dialect) context
        (⟨.number (String.ofList (numeral whole fraction)) false, place', gap'⟩ :: rest) =
        .ok (.plain (String.ofList (numeral whole fraction)), rest) :=
      expression_of_operand hrest (operand_of_number _ _ place' gap' hbound hbound) _
    exact expressionText_of_operand hrest (operand_of_minus place gap hbound hbound hoperand)

end Numerals

theorem faithful_string {inside : String}
    (hinside : Inside '\x27' (Lexicon.of dialect).backslashEscapes inside.toList) :
    Faithful dialect (betweenQuotes '\x27' inside) := by
  have htext := toList_betweenQuotes (by decide) hinside
  refine ⟨_, readsBack_of_operand (.literal .single inside) ?_ (by simp) ?_⟩
  · intro previous behind hbehind
    have hquote : behind.head? ≠ some '\x27' := by
      rcases hbehind with h | h <;> rw [h] <;> decide
    have hread : ReadsAs (Lexicon.of dialect) previous ('\x27' :: inside.toList ++ ['\x27'])
        (.literal .single (String.ofList inside.toList)) behind := readsAs_string hinside hquote
    rw [String.ofList_toList] at hread
    rw [htext]
    exact hread
  · intro context rest place gap hdialect hbound hrest
    exact ⟨_, rfl, operand_of_string _ place gap hrest hbound hbound⟩

theorem ends_of_closesValue (dialect : Dialect) {behind : List Char}
    (hbehind : ClosesValue behind) :
    EndsWord (Lexicon.of dialect) behind ∧ AnnouncesNothing behind := by
  have hhead : ∀ c ∈ behind.head?, c = ',' ∨ c = ')' := by
    rintro c hc
    rcases hbehind with h | h
    · exact .inl (Option.some.inj (hc.symm.trans h))
    · exact .inr (Option.some.inj (hc.symm.trans h))
  constructor
  · intro c hc
    rcases hhead c hc with rfl | rfl <;> cases dialect <;> rfl
  · intro c hc
    rcases hhead c hc with rfl | rfl <;> decide

theorem faithful_constant {word : String} (hword : word ∈ constants) : Faithful dialect word := by
  refine ⟨_, readsBack_of_operand (wordToken word.toList) ?_ (by simp [wordToken]) ?_⟩
  · intro previous behind hbehind
    have hletters : ∀ word ∈ constants, lettersOnly word = true := by decide
    obtain ⟨hends, hnothing⟩ := ends_of_closesValue dialect hbehind
    exact readsAs_letters (hletters word hword) hends hnothing
  · intro context rest place gap hdialect hbound hrest
    exact operand_of_constant _ place gap hword hrest hbound hbound

end SqlPipe.Sql
