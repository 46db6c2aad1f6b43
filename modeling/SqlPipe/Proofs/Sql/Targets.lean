import SqlPipe.Proofs.Sql.Clauses
import SqlPipe.Proofs.Sql.Names

/-!
# Equal targets

Where every name stands between delimiters, a target can be read in one way only.  A closing
delimiter inside a name is doubled, and none of the signs between names is a delimiter.  So a name
ends at the first closing delimiter that stands alone, whatever separators, blanks and quotes the
name holds, and two inserts have the same target only when they name the same columns of the same
table.
-/

namespace SqlPipe.Sql

variable {opening closing : Char}

/-! ## Names between delimiters -/

theorem replaceAll_cons (closing c : Char) (name : List Char) :
    Text.replaceAll [closing] [closing, closing] (c :: name) =
      (if closing = c then [closing, closing] else [c]) ++
        Text.replaceAll [closing] [closing, closing] name := by
  rw [replaceAll_singleton, replaceAll_singleton, List.flatMap_cons]

theorem doubled_cons_ne
    {behind : List Char} (hbehind : behind.head? ≠ some closing) (c : Char)
    (name later : List Char) :
    Text.replaceAll [closing] [closing, closing] (c :: name) ++ later ≠ closing :: behind := by
  rw [replaceAll_cons]
  split
  · rintro heq
    obtain ⟨-, rfl⟩ := List.cons_eq_cons.mp heq
    exact hbehind rfl
  next hc =>
    rintro heq
    exact hc (List.cons_eq_cons.mp heq).1.symm

theorem doubled_append_inj
    {name other behind later : List Char}
    (hbehind : behind.head? ≠ some closing) (hlater : later.head? ≠ some closing)
    (heq : Text.replaceAll [closing] [closing, closing] name ++ closing :: behind =
      Text.replaceAll [closing] [closing, closing] other ++ closing :: later) :
    name = other ∧ behind = later := by
  induction name generalizing other with
  | nil =>
      cases other with
      | nil => exact ⟨rfl, (List.cons_eq_cons.mp heq).2⟩
      | cons c other => exact absurd heq.symm (doubled_cons_ne hbehind c other _)
  | cons c name ih =>
      cases other with
      | nil => exact absurd heq (doubled_cons_ne hlater c name _)
      | cons d other =>
          obtain ⟨rfl, hrest⟩ : c = d ∧
              Text.replaceAll [closing] [closing, closing] name ++ closing :: behind =
                Text.replaceAll [closing] [closing, closing] other ++ closing :: later := by
            rw [replaceAll_cons, replaceAll_cons] at heq
            -- Only a closing delimiter is doubled, so both names go on with the same character.
            by_cases hc : closing = c <;> by_cases hd : closing = d <;> simp_all
          obtain ⟨rfl, hbehind⟩ := ih hrest
          exact ⟨rfl, hbehind⟩

theorem delimited_append_inj
    {name other : String} {behind later : List Char}
    (hbehind : behind.head? ≠ some closing) (hlater : later.head? ≠ some closing)
    (heq : (delimited opening closing name).toList ++ behind =
      (delimited opening closing other).toList ++ later) :
    name = other ∧ behind = later := by
  simp only [delimited, String.toList_ofList, List.cons_append, List.append_assoc,
    List.nil_append, List.cons.injEq, true_and] at heq
  obtain ⟨hname, hrest⟩ := doubled_append_inj hbehind hlater heq
  exact ⟨String.toList_inj.mp hname, hrest⟩

/-! ## Lists of names -/

section Lists

variable {sign : Char} {more : List Char} {names others : List String} {behind later : List Char}

/-- What stands behind a list of names neither goes on with it nor belongs to its last name. -/
def EndsNames (opening closing sign : Char) (behind : List Char) : Prop :=
  ∀ c ∈ behind.head?, c ∉ [opening, closing, sign]

def namesBehind (opening closing sign : Char) (more : List Char) (names : List String) :
    List Char :=
  names.flatMap fun name => sign :: more ++ (delimited opening closing name).toList

theorem head?_namesBehind (hsign : sign ≠ closing) (hends : EndsNames opening closing sign behind)
    (names : List String) :
    (namesBehind opening closing sign more names ++ behind).head? ≠ some closing := by
  cases names with
  | nil =>
      intro hhead
      exact hends closing hhead (by simp)
  | cons name names =>
      intro hhead
      exact hsign (Option.some.inj hhead)

theorem namesBehind_append_inj (hsign : sign ≠ closing)
    (hbehind : EndsNames opening closing sign behind)
    (hlater : EndsNames opening closing sign later)
    (heq : namesBehind opening closing sign more names ++ behind =
      namesBehind opening closing sign more others ++ later) :
    names = others ∧ behind = later := by
  induction names generalizing others with
  | nil =>
      cases others with
      | nil => exact ⟨rfl, heq⟩
      | cons other others =>
          have hhead : behind.head? = some sign := congrArg List.head? heq
          exact absurd (by simp) (hbehind sign hhead)
  | cons name names ih =>
      cases others with
      | nil =>
          have hhead : later.head? = some sign := congrArg List.head? heq.symm
          exact absurd (by simp) (hlater sign hhead)
      | cons other others =>
          have hrest : (delimited opening closing name).toList ++
                (namesBehind opening closing sign more names ++ behind) =
              (delimited opening closing other).toList ++
                (namesBehind opening closing sign more others ++ later) := by
            simpa [namesBehind] using heq
          obtain ⟨rfl, htail⟩ := delimited_append_inj (head?_namesBehind hsign hbehind names)
            (head?_namesBehind hsign hlater others) hrest
          obtain ⟨rfl, hsame⟩ := ih htail
          exact ⟨rfl, hsame⟩

/-- Names between delimiters, with a separator between two of them. -/
def delimitedList (opening closing : Char) (separator : String) (names : List String) : String :=
  separator.intercalate (names.map (delimited opening closing))

theorem toList_delimitedList_cons {separator : String} (hseparator : separator.toList = sign :: more)
    (name : String) (names : List String) :
    (delimitedList opening closing separator (name :: names)).toList =
      (delimited opening closing name).toList ++ namesBehind opening closing sign more names := by
  rw [delimitedList, String.toList_intercalate, hseparator, List.map_cons, List.map_cons,
    intercalate_cons]
  simp [namesBehind, List.flatMap_map]

theorem delimitedList_append_inj {separator : String} (hseparator : separator.toList = sign :: more)
    (hsign : sign ≠ closing) (hbehind : EndsNames opening closing sign behind)
    (hlater : EndsNames opening closing sign later)
    (heq : (delimitedList opening closing separator names).toList ++ behind =
      (delimitedList opening closing separator others).toList ++ later) :
    names = others ∧ behind = later := by
  cases names with
  | nil =>
      cases others with
      | nil => exact ⟨rfl, by simpa [delimitedList] using heq⟩
      | cons other others =>
          rw [toList_delimitedList_cons hseparator] at heq
          have hhead : behind.head? = some opening := by
            simpa [delimitedList, delimited] using congrArg List.head? heq
          exact absurd (by simp) (hbehind opening hhead)
  | cons name names =>
      cases others with
      | nil =>
          rw [toList_delimitedList_cons hseparator] at heq
          have hhead : later.head? = some opening := by
            simpa [delimitedList, delimited] using (congrArg List.head? heq).symm
          exact absurd (by simp) (hlater opening hhead)
      | cons other others =>
          rw [toList_delimitedList_cons hseparator, toList_delimitedList_cons hseparator,
            List.append_assoc, List.append_assoc] at heq
          obtain ⟨rfl, htail⟩ := delimited_append_inj (head?_namesBehind hsign hbehind names)
            (head?_namesBehind hsign hlater others) heq
          obtain ⟨rfl, hsame⟩ := namesBehind_append_inj hsign hbehind hlater htail
          exact ⟨rfl, hsame⟩

end Lists

/-! ## Targets -/

/-- The columns of a target, which are not written where there are none. -/
def delimitedColumns (opening closing : Char) (columns : List String) : String :=
  if columns.isEmpty then "" else "(" ++ delimitedList opening closing ", " columns ++ ") "

/-- The target of a batch for columns of a table, all of them known by their names. -/
def delimitedTarget (opening closing : Char) (ignoring : Bool) (names columns : List String) :
    String :=
  "INSERT " ++ (if ignoring then "IGNORE " else "") ++ "INTO " ++
    delimitedList opening closing "." names ++ " " ++ delimitedColumns opening closing columns

theorem targetText_eq {dialect : Dialect} (hquoting : dialect.quoting = .always opening closing)
    (ignoring : Bool) (name : QualifiedName) (columns : List Ident) :
    InsertTree.targetText dialect ignoring name columns =
      delimitedTarget opening closing ignoring (name.map Ident.name) (columns.map Ident.name) := by
  have hquoted : Ident.quoted dialect.quoting = delimited opening closing ∘ Ident.name := by
    rw [hquoting]
    rfl
  simp [InsertTree.targetText, QualifiedName.quoted, delimitedTarget, delimitedColumns,
    delimitedList, commaList, hquoted]

/-- The delimiters of a dialect stand neither between names nor around lists of them. -/
theorem signs_of_quoting {dialect : Dialect} (hquoting : dialect.quoting = .always opening closing) :
    '.' ≠ closing ∧ ',' ≠ closing ∧ ' ' ∉ [opening, closing, '.'] ∧
      ')' ∉ [opening, closing, ','] := by
  cases dialect with
  | postgres | oracle => cases hquoting
  | _ =>
      cases hquoting
      decide

section Target

variable {dialect : Dialect} {names others columns columns' : List String}
variable (hquoting : dialect.quoting = .always opening closing)

include hquoting

theorem delimitedColumns_inj
    (heq : delimitedColumns opening closing columns = delimitedColumns opening closing columns') :
    columns = columns' := by
  obtain ⟨-, hcomma, -, hparenthesis⟩ := signs_of_quoting hquoting
  have hends : EndsNames opening closing ',' [')', ' '] := by
    rintro c hc
    obtain rfl := Option.some.inj hc
    exact hparenthesis
  cases columns with
  | nil =>
      cases columns' with
      | nil => rfl
      | cons column columns' =>
          have hchars := congrArg String.toList heq
          simp [delimitedColumns] at hchars
  | cons column columns =>
      cases columns' with
      | nil =>
          have hchars := congrArg String.toList heq
          simp [delimitedColumns] at hchars
      | cons column' columns' =>
          have hchars : (delimitedList opening closing ", " (column :: columns)).toList ++ [')', ' '] =
              (delimitedList opening closing ", " (column' :: columns')).toList ++ [')', ' '] := by
            simpa [delimitedColumns] using congrArg String.toList heq
          have hseparator : ", ".toList = ',' :: [' '] := rfl
          exact (delimitedList_append_inj hseparator hcomma hends hends hchars).1

theorem delimitedTarget_inj {ignoring ignoring' : Bool}
    (heq : delimitedTarget opening closing ignoring names columns =
      delimitedTarget opening closing ignoring' others columns') :
    ignoring = ignoring' ∧ names = others ∧ columns = columns' := by
  obtain ⟨hperiod, -, hblank, -⟩ := signs_of_quoting hquoting
  have hends (text : List Char) : EndsNames opening closing '.' (' ' :: text) := by
    rintro c hc
    obtain rfl := Option.some.inj hc
    exact hblank
  have hchars := congrArg String.toList heq
  obtain ⟨rfl, hrest⟩ : ignoring = ignoring' ∧
      (delimitedList opening closing "." names).toList ++
          ' ' :: (delimitedColumns opening closing columns).toList =
        (delimitedList opening closing "." others).toList ++
          ' ' :: (delimitedColumns opening closing columns').toList := by
    cases ignoring <;> cases ignoring' <;> simp [delimitedTarget] at hchars
    · exact ⟨rfl, hchars⟩
    · exact ⟨rfl, hchars⟩
  have hseparator : ".".toList = '.' :: [] := rfl
  obtain ⟨hnames, hbehind⟩ :=
    delimitedList_append_inj hseparator hperiod (hends _) (hends _) hrest
  have hcolumns := String.toList_inj.mp (List.cons_eq_cons.mp hbehind).2
  exact ⟨rfl, hnames, delimitedColumns_inj hquoting hcolumns⟩

end Target

/-! ## Names of identifiers -/

/-- A text in which a character occurs only doubled has each of them doubled. -/
theorem exists_doubled_of_inside {quote : Char} {inside : List Char}
    (hinside : Inside quote false inside) :
    ∃ name, inside = Text.replaceAll [quote] [quote, quote] name := by
  induction hinside with
  | nil => exact ⟨[], rfl⟩
  | @plain c rest hc _ _ ih =>
      obtain ⟨name, rfl⟩ := ih
      exact ⟨c :: name, by rw [replaceAll_cons, if_neg (Ne.symm hc)]; rfl⟩
  | doubled _ ih =>
      obtain ⟨name, rfl⟩ := ih
      exact ⟨quote :: name, by rw [replaceAll_cons, if_pos rfl]; rfl⟩
  | escaped hbackslash => cases hbackslash

/-- An identifier as it is read: a plain word, or a text in which the closing quote occurs only
doubled. -/
def Ident.AsRead (ident : Ident) : Prop :=
  ∀ quote, ident.quote = some quote → Inside (closingQuote quote) false ident.value.toList

/-- The name of an identifier with each closing quote of the identifier doubled. -/
def Ident.doubledName (ident : Ident) : List Char :=
  match ident.quote with
  | none => ident.name.toList
  | some quote =>
      Text.replaceAll [closingQuote quote] [closingQuote quote, closingQuote quote]
        ident.name.toList

theorem Ident.AsRead.value_eq {ident : Ident} (hread : ident.AsRead) :
    ident.value.toList = ident.doubledName := by
  obtain ⟨value, quote⟩ := ident
  cases quote with
  | none => rfl
  | some quote =>
      obtain ⟨name, hname⟩ := exists_doubled_of_inside (hread quote rfl)
      have hvalue : value.toList =
          Text.replaceAll [closingQuote quote] [closingQuote quote, closingQuote quote] name := hname
      simp only [Ident.doubledName, Ident.name, String.toList_ofList]
      rw [hvalue, replaceAll_doubled]

def InsertTree.tableNames (tree : InsertTree) : Option (List String) :=
  match tree.target with
  | .table name => some (name.map Ident.name)
  | .function _ => none

/-- Where names stand between delimiters, two inserts have the same target exactly if both or
neither of them ignore failures, and they name the same parts of a table and the same columns.  The
name of an identifier is its text without the doubling of its own closing quote, and it is what a
target shows of it: it stands between the delimiters with each closing one doubled. -/
theorem target_eq_iff {dialect : Dialect} (hquoting : dialect.quoting = .always opening closing) :
    (∀ {first second : InsertTree} {one two : Insert},
      first.toInsert? dialect = some one → second.toInsert? dialect = some two →
      (one.target = two.target ↔
        first.ignoring = second.ignoring ∧ first.tableNames = second.tableNames ∧
          first.columns.map Ident.name = second.columns.map Ident.name)) ∧
    ∀ ident : Ident,
      (ident.AsRead → ident.value.toList = ident.doubledName) ∧
      ∃ inside, (ident.quoted dialect.quoting).toList = opening :: inside ++ [closing] ∧
        Inside closing false inside ∧
        Text.replaceAll [closing, closing] [closing] inside = ident.name.toList := by
  refine ⟨fun hfirst hsecond => ?_, fun ident => ⟨fun hread => hread.value_eq, ?_⟩⟩
  · obtain ⟨ignoring, into, table, name, columns, text, tail, rfl, -, hone⟩ :=
      InsertTree.toInsert?_eq_some_iff.mp hfirst
    obtain ⟨ignoring', into', table', name', columns', text', tail', rfl, -, htwo⟩ :=
      InsertTree.toInsert?_eq_some_iff.mp hsecond
    rw [hone, htwo, targetText_eq hquoting, targetText_eq hquoting]
    constructor
    · intro heq
      obtain ⟨hignoring, hnames, hcolumns⟩ := delimitedTarget_inj hquoting heq
      exact ⟨hignoring, congrArg some hnames, hcolumns⟩
    · rintro ⟨hignoring, hnames, hcolumns⟩
      have hignoring : ignoring = ignoring' := hignoring
      have hnames : name.map Ident.name = name'.map Ident.name := Option.some.inj hnames
      have hcolumns : columns.map Ident.name = columns'.map Ident.name := hcolumns
      rw [hignoring, hnames, hcolumns]
  · rw [hquoting]
    exact ⟨_, String.toList_ofList, inside_doubled closing _, replaceAll_doubled closing _⟩

def InsertTree.ofNames (name : QualifiedName) (columns : List Ident) : InsertTree :=
  appending false true false name columns (.plain ⟨"VALUES (1)", some [⟨["1"]⟩]⟩ .empty)

/-- A table whose name holds a separator is not the table of its parts, and it is the same table
between other quotes. -/
theorem target_eq_iff_of_separator :
    let parts := InsertTree.ofNames [⟨"a", none⟩, ⟨"b", none⟩] [⟨"c", none⟩]
    let whole := InsertTree.ofNames [⟨"a``.``b", some '\x60'⟩] [⟨"c", none⟩]
    let again := InsertTree.ofNames [⟨"a`.`b", some '\x22'⟩] [⟨"c", some '['⟩]
    let one : Insert := ⟨"INSERT INTO `a`.`b` (`c`) ", [⟨["1"]⟩]⟩
    let two : Insert := ⟨"INSERT INTO `a``.``b` (`c`) ", [⟨["1"]⟩]⟩
    parts.toInsert? .mysql = some one ∧ whole.toInsert? .mysql = some two ∧
      again.toInsert? .mysql = some two ∧
      (one.target = two.target ↔ parts.tableNames = whole.tableNames) ∧
      whole.tableNames = again.tableNames ∧
      ∃ inside, (Ident.quoted (Dialect.quoting .mysql) ⟨"a``.``b", some '\x60'⟩).toList =
        '\x60' :: inside ++ ['\x60'] ∧
        Text.replaceAll ['\x60', '\x60'] ['\x60'] inside = "a`.`b".toList := by
  intro parts whole again one two
  have hread : parts.toInsert? .mysql = some one ∧ whole.toInsert? .mysql = some two ∧
      again.toInsert? .mysql = some two := by
    decide +kernel
  obtain ⟨hparts, hwhole, hagain⟩ := hread
  obtain ⟨htargets, hnames⟩ := @target_eq_iff '\x60' '\x60' .mysql rfl
  obtain ⟨-, inside, hquoted, -, hname⟩ := hnames ⟨"a``.``b", some '\x60'⟩
  refine ⟨hparts, hwhole, hagain, ?_, ((htargets hwhole hagain).mp rfl).2.1, inside, hquoted, ?_⟩
  · rw [htargets hparts hwhole]
    exact ⟨fun hsame => hsame.2.1, fun hsame => ⟨rfl, hsame, rfl⟩⟩
  · rw [hname]
    decide

end SqlPipe.Sql
