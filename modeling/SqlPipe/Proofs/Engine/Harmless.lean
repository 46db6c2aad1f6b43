import SqlPipe.Engine.Rehearsal
import SqlPipe.Proofs.Engine.Solo
import SqlPipe.Proofs.Text.Search

/-!
# Harmless messages

A driver message counts as harmless as soon as one of the dialect's signatures stands anywhere in
it.  Drivers quote rows and statements, and a signature inside of such a quotation counts as well.
No signature holds a quote, so a message is harmless on account of one of its three parts: of what
stands before the quotation, of what is quoted, or of what stands behind it.
-/

namespace SqlPipe

def Text.citing (before data behind : String) : String :=
  before ++ "'" ++ data ++ "'" ++ behind

theorem Text.append_citing (first before data behind : String) :
    first ++ Text.citing before data behind = Text.citing (first ++ before) data behind := by
  simp only [Text.citing, String.append_assoc]

namespace Dialect

theorem isHarmless_iff {dialect : Dialect} {message : String} :
    dialect.isHarmless message = true ↔
      ∃ signature ∈ dialect.harmlessSignatures, signature.toList <:+: message.toList := by
  rw [isHarmless, List.any_eq_true]
  simp only [Text.occursIn_iff]

theorem quote_not_mem_of_mem_harmlessSignatures
    {dialect : Dialect} {signature : String} (hmem : signature ∈ dialect.harmlessSignatures) :
    '\x27' ∉ signature.toList := by
  revert signature
  cases dialect <;> decide

theorem infix_citing_iff
    {signature : List Char} (hquote : '\x27' ∉ signature) {before data behind : String} :
    signature <:+: (Text.citing before data behind).toList ↔
      signature <:+: before.toList ∨ signature <:+: data.toList ∨ signature <:+: behind.toList := by
  have hciting : (Text.citing before data behind).toList =
      before.toList ++ '\x27' :: (data.toList ++ '\x27' :: behind.toList) := by
    simp [Text.citing]
  rw [hciting, Text.infix_around_iff hquote, Text.infix_around_iff hquote]

theorem isHarmless_citing (dialect : Dialect) (before data behind : String) :
    dialect.isHarmless (Text.citing before data behind) =
      (dialect.isHarmless before || dialect.isHarmless data || dialect.isHarmless behind) := by
  rw [Bool.eq_iff_iff, Bool.or_eq_true, Bool.or_eq_true]
  simp only [isHarmless_iff]
  constructor
  · rintro ⟨signature, hmem, hoccurs⟩
    rcases (infix_citing_iff (quote_not_mem_of_mem_harmlessSignatures hmem)).mp hoccurs with
      hbefore | hdata | hbehind
    · exact .inl (.inl ⟨signature, hmem, hbefore⟩)
    · exact .inl (.inr ⟨signature, hmem, hdata⟩)
    · exact .inr ⟨signature, hmem, hbehind⟩
  · rintro ((⟨signature, hmem, hpart⟩ | ⟨signature, hmem, hpart⟩) | ⟨signature, hmem, hpart⟩) <;>
      refine ⟨signature, hmem,
        (infix_citing_iff (quote_not_mem_of_mem_harmlessSignatures hmem)).mpr ?_⟩
    · exact .inl hpart
    · exact .inr (.inl hpart)
    · exact .inr (.inr hpart)

theorem isHarmless_citing_eq_iff (dialect : Dialect) (before behind u v : String) :
    dialect.isHarmless (Text.citing before u behind) =
        dialect.isHarmless (Text.citing before v behind) ↔
      dialect.isHarmless before = true ∨ dialect.isHarmless behind = true ∨
        dialect.isHarmless u = dialect.isHarmless v := by
  rw [isHarmless_citing, isHarmless_citing]
  cases dialect.isHarmless before <;> cases dialect.isHarmless behind <;> simp

end Dialect

namespace Line

/-! ## A key that is there already -/

/-- What a driver says of a row whose key is there already. -/
def duplicate (key : String) : Failure :=
  .database (Text.citing "ERROR 1062 (23000): Duplicate entry " key " for key 'PRIMARY'")

def duplicateCue (key : String) : Cue where
  part := "INSERT"
  connection := none
  times := none
  failure := some (duplicate key)
  cancels := false

/-- A line to a destination where each insert finds its key there already. -/
def duplicating (key : String) : Line Rehearsal where
  world := .fresh [] [duplicateCue key] []
  journal := []

theorem message_duplicate (key : String) :
    (duplicate key).message =
      Text.citing ("Database error: " ++ "ERROR 1062 (23000): Duplicate entry ") key
        " for key 'PRIMARY'" :=
  Text.append_citing _ _ _ _

theorem execute_duplicating
    (key : String) {text : String} (hinsert : Text.occursIn "INSERT".toList text.toList = true)
    (connection : Connection) :
    ((Rehearsal.destination .mysql 2 false).execute connection text (duplicating key).world).1 =
      .error (duplicate key) := by
  have happlies : Rehearsal.Cue.applies (duplicateCue key) connection text = true := by
    rw [Rehearsal.Cue.applies, duplicateCue, hinsert]
    rfl
  have hgiven : Rehearsal.give connection text (duplicating key).world.cues =
      (some (duplicateCue key), [Rehearsal.Cue.spent (duplicateCue key)]) := if_pos happlies
  have hexecute : (Rehearsal.execute connection text (duplicating key).world).1 =
      .error (duplicate key) := by
    rw [Rehearsal.execute, hgiven]
    rfl
  exact hexecute

/-- Of an insert whose key is there already, the key itself decides what comes. -/
theorem outcome_run_duplicating
    (key : String) {text : String} (hinsert : Text.occursIn "INSERT".toList text.toList = true)
    (connection : Connection) :
    ((duplicating key).run (Rehearsal.destination .mysql 2 false) connection (.statement text)).1 =
      if Dialect.mysql.isHarmless key then .ok ()
      else .error (.ofExecution text (duplicate key)) := by
  have hbefore : Dialect.mysql.isHarmless
      ("Database error: " ++ "ERROR 1062 (23000): Duplicate entry ") = false := by
    rw [Dialect.isHarmless, String.toList_append]
    decide
  have hbehind : Dialect.mysql.isHarmless " for key 'PRIMARY'" = false := by
    decide
  have hharmless :
      Dialect.mysql.isHarmless (duplicate key).message = Dialect.mysql.isHarmless key := by
    rw [message_duplicate, Dialect.isHarmless_citing, hbefore, hbehind, Bool.false_or,
      Bool.or_false]
  rw [outcome_run, Message.text, execute_duplicating key hinsert, ← hharmless]
  rfl

/-! ## Failures and what they quote -/

/-- What a failure quotes decides as much as what it says.  A failed execution counts as a success
when a signature of the dialect stands in the words around the quotation, which is meant, or in the
quoted rows and statements themselves.  Two messages of one form get different answers exactly when
neither side of the quotation holds a signature and just one of the quoted texts does. -/
theorem harmless_iff_form_or_quoted (dialect : Dialect) (before behind : String) :
    (∀ data, dialect.isHarmless (Text.citing before data behind) =
      (dialect.isHarmless before || dialect.isHarmless data || dialect.isHarmless behind)) ∧
    (∀ u v, dialect.isHarmless (Text.citing before u behind) =
        dialect.isHarmless (Text.citing before v behind) ↔
      dialect.isHarmless before = true ∨ dialect.isHarmless behind = true ∨
        dialect.isHarmless u = dialect.isHarmless v) ∧
    ∀ {σ : Type} (destination : Destination σ) (line : Line σ) (connection : Connection)
      (message : Message) (failure : Failure) (data : String),
      destination.dialect = dialect →
      (destination.execute connection message.text line.world).1 = .error failure →
      failure.message = Text.citing before data behind →
      (line.run destination connection message).1 =
        if dialect.isHarmless before || dialect.isHarmless data || dialect.isHarmless behind then
          .ok ()
        else .error (.ofExecution message.text failure) := by
  refine ⟨fun data => dialect.isHarmless_citing before data behind,
    fun u v => dialect.isHarmless_citing_eq_iff before behind u v, ?_⟩
  intro σ destination line connection message failure data hdialect hfailed hmessage
  rw [outcome_run, hfailed, hdialect, ← Dialect.isHarmless_citing, ← hmessage]
  rfl

theorem outcome_run_duplicating_signature :
    ((duplicating "(1065)").run (Rehearsal.destination .mysql 2 false) 0
      (.statement "INSERT INTO t VALUES ('(1065)')")).1 = .ok () := by
  have hinsert : Text.occursIn "INSERT".toList "INSERT INTO t VALUES ('(1065)')".toList = true := by
    decide
  have hsignature : Dialect.mysql.isHarmless "(1065)" = true := by decide
  have hrun := (harmless_iff_form_or_quoted .mysql
      ("Database error: " ++ "ERROR 1062 (23000): Duplicate entry ") " for key 'PRIMARY'").2.2
    (Rehearsal.destination .mysql 2 false) (duplicating "(1065)") 0
    (.statement "INSERT INTO t VALUES ('(1065)')") (duplicate "(1065)") "(1065)"
    rfl (execute_duplicating "(1065)" hinsert 0) (message_duplicate "(1065)")
  rw [hrun, hsignature, Bool.or_true, Bool.true_or, if_pos rfl]

/-- An insert that fails because of its key is ignored for one key and reported for another. -/
theorem exists_outcome_run_ne_of_quoted :
    Dialect.mysql.isHarmless (Text.citing "Duplicate entry " "(1065)" " for key 'PRIMARY'") ≠
      Dialect.mysql.isHarmless (Text.citing "Duplicate entry " "7" " for key 'PRIMARY'") ∧
    ((duplicating "(1065)").run (Rehearsal.destination .mysql 2 false) 0
      (.statement "INSERT INTO t VALUES ('(1065)')")).1 = .ok () ∧
    ((duplicating "7").run (Rehearsal.destination .mysql 2 false) 0
      (.statement "INSERT INTO t VALUES ('7')")).1 =
        .error (.execution "INSERT INTO t VALUES ('7')"
          "ERROR 1062 (23000): Duplicate entry '7' for key 'PRIMARY'") := by
  have hsignature : Dialect.mysql.isHarmless "(1065)" = true := by decide
  have hnone : Dialect.mysql.isHarmless "7" = false := by decide
  refine ⟨?_, ?_, ?_⟩
  · rw [Dialect.isHarmless_citing, Dialect.isHarmless_citing, hsignature, hnone]
    decide
  · rw [outcome_run_duplicating "(1065)" (by decide), hsignature, if_pos rfl]
  · rw [outcome_run_duplicating "7" (by decide), hnone]
    rfl

end Line

end SqlPipe
