import SqlPipe.Proofs.Classify.Transactions
import SqlPipe.Proofs.Engine.Depth
import SqlPipe.Engine.Rehearsal

/-!
# Counting savepoints

A database keeps the savepoints of a transaction on a stack, from which the release of a savepoint
takes all later ones too and a return to a savepoint takes only the later ones; the end of the
transaction closes it whatever is left.  An engine keeps a count, which every opening statement
raises and every closing one lowers.

The two agree on a script if and only if the script pairs its savepoints: within a transaction,
releases and returns never outnumber the savepoints before them, and when the transaction ends, all
savepoints are used up.  A script that ends its transaction earlier leaves the engine with a sentry
and no transaction; one that returns to a savepoint twice leaves it with a transaction and no
sentry.
-/

namespace SqlPipe

/-- The session of a database, as far as transactions go. -/
inductive Session
  | closed
  /-- A transaction is open, with its savepoints, the latest one first. -/
  | opened (savepoints : List String)
  deriving DecidableEq, Repr

namespace Session

def isOpen : Session → Bool
  | closed => false
  | opened _ => true

/-- The session after a statement, which may not be valid in it. -/
def step? : Session → TransactionStatement → Option Session
  | closed, .begin => some (opened [])
  | opened savepoints, .savepoint name => some (opened (name :: savepoints))
  | opened savepoints, .release name =>
      match savepoints.dropWhile (· ≠ name) with
      | [] => none
      | _ :: earlier => some (opened earlier)
  | opened savepoints, .rollbackTo name =>
      match savepoints.dropWhile (· ≠ name) with
      | [] => none
      | latest :: earlier => some (opened (latest :: earlier))
  | opened _, .commit => some closed
  | opened _, .rollback => some closed
  | _, _ => none

def run? (session : Session) : List TransactionStatement → Option Session
  | [] => some session
  | statement :: script => (session.step? statement).bind (run? · script)

/-- After the script, a transaction is open. -/
def OpenAfter (session : Session) (script : List TransactionStatement) : Prop :=
  ∃ savepoints, session.run? script = some (opened savepoints)

end Session

namespace TransactionStatement

def turn (statement : TransactionStatement) (depth : ℕ) : ℕ :=
  (Role.barrier (.transaction statement.boundary)).turn depth

def depthAfter (depth : ℕ) (script : List TransactionStatement) : ℕ :=
  script.foldl (fun depth statement => statement.turn depth) depth

/-- Savepoints are paired, so many of them being unused so far. -/
def Paired : ℕ → List TransactionStatement → Prop
  | _, [] => True
  | _, .begin :: script => Paired 0 script
  | unused, .savepoint _ :: script => Paired (unused + 1) script
  | unused, .release _ :: script => 0 < unused ∧ Paired (unused - 1) script
  | unused, .rollbackTo _ :: script => 0 < unused ∧ Paired (unused - 1) script
  | unused, .commit :: script => unused = 0 ∧ Paired 0 script
  | unused, .rollback :: script => unused = 0 ∧ Paired 0 script

instance decidablePaired : (count : ℕ) → (script : List TransactionStatement) →
    Decidable (Paired count script)
  | _, [] => inferInstanceAs (Decidable True)
  | _, .begin :: script => decidablePaired 0 script
  | count, .savepoint _ :: script => decidablePaired (count + 1) script
  | count, .release _ :: script =>
      have := decidablePaired (count - 1) script
      inferInstanceAs (Decidable (_ ∧ _))
  | count, .rollbackTo _ :: script =>
      have := decidablePaired (count - 1) script
      inferInstanceAs (Decidable (_ ∧ _))
  | _, .commit :: script =>
      have := decidablePaired 0 script
      inferInstanceAs (Decidable (_ ∧ _))
  | _, .rollback :: script =>
      have := decidablePaired 0 script
      inferInstanceAs (Decidable (_ ∧ _))

/-- Behind every beginning of the script, the depth is positive if and only if a transaction is
open. -/
def Agrees (depth : ℕ) (session : Session) (script : List TransactionStatement) : Prop :=
  ∀ before, before <+: script → (0 < depthAfter depth before ↔ session.OpenAfter before)

variable {depth : ℕ} {session next : Session} {statement : TransactionStatement}
  {script : List TransactionStatement}

theorem openAfter_nil : session.OpenAfter [] ↔ session.isOpen = true := by
  cases session <;> simp [Session.OpenAfter, Session.run?, Session.isOpen]

theorem openAfter_cons (hstep : session.step? statement = some next) :
    session.OpenAfter (statement :: script) ↔ next.OpenAfter script := by
  simp [Session.OpenAfter, Session.run?, hstep]

theorem agrees_nil : Agrees depth session [] ↔ (0 < depth ↔ session.isOpen = true) := by
  simp [Agrees, openAfter_nil, depthAfter]

theorem agrees_cons (hstep : session.step? statement = some next) :
    Agrees depth session (statement :: script) ↔
      (0 < depth ↔ session.isOpen = true) ∧ Agrees (statement.turn depth) next script := by
  constructor
  · intro hagrees
    refine ⟨?_, ?_⟩
    · simpa [openAfter_nil, depthAfter] using hagrees [] List.nil_prefix
    · intro before hbefore
      have hlonger := hagrees (statement :: before) (List.cons_prefix_cons.mpr ⟨rfl, hbefore⟩)
      rwa [openAfter_cons hstep] at hlonger
  · rintro ⟨hnow, hlater⟩ before hbefore
    rcases List.prefix_cons_iff.mp hbefore with rfl | ⟨shorter, rfl, hshorter⟩
    · simpa [openAfter_nil, depthAfter] using hnow
    · rw [openAfter_cons hstep]
      exact hlater shorter hshorter

theorem exists_step_of_run? {session : Session}
    (hvalid : (session.run? (statement :: script)).isSome) :
    ∃ next, session.step? statement = some next ∧ (next.run? script).isSome := by
  cases hstep : session.step? statement with
  | none => simp [Session.run?, hstep] at hvalid
  | some next =>
      refine ⟨next, rfl, ?_⟩
      simpa [Session.run?, hstep] using hvalid

/-- The count in a session in which so many savepoints are unused. -/
def standing : Session → ℕ → ℕ
  | .closed, _ => 0
  | .opened _, unused => unused + 1

theorem standing_pos {unused : ℕ} : 0 < standing session unused ↔ session.isOpen = true := by
  cases session <;> simp [standing, Session.isOpen]

/-- A count that does not tell whether a transaction is open shows it at once. -/
theorem not_agrees (hdiffers : ¬(0 < depth ↔ session.isOpen = true)) :
    ¬Agrees depth session script := by
  intro hagrees
  apply hdiffers
  simpa [openAfter_nil, depthAfter] using hagrees [] List.nil_prefix

/-- A session stays open when a savepoint is used up, or closes with the transaction. -/
theorem step?_of_closing
    {savepoints : List String} (hclosing : statement.boundary = .closing)
    (hstep : (Session.opened savepoints).step? statement = some next) :
    (∃ name, statement = .release name ∨ statement = .rollbackTo name) ∧ next.isOpen = true ∨
      (statement = .commit ∨ statement = .rollback) ∧ next = .closed := by
  cases statement with
  | begin => cases hclosing
  | savepoint name => cases hclosing
  | release name =>
      refine .inl ⟨⟨name, .inl rfl⟩, ?_⟩
      simp only [Session.step?] at hstep
      split at hstep
      · cases hstep
      · cases hstep
        rfl
  | rollbackTo name =>
      refine .inl ⟨⟨name, .inr rfl⟩, ?_⟩
      simp only [Session.step?] at hstep
      split at hstep
      · cases hstep
      · cases hstep
        rfl
  | commit => exact .inr ⟨.inl rfl, (Option.some.inj hstep).symm⟩
  | rollback => exact .inr ⟨.inr rfl, (Option.some.inj hstep).symm⟩

/-- The count agrees with the session on a valid script if and only if the script pairs its
savepoints. -/
theorem agrees_iff_paired
    (unused : ℕ) (hvalid : (session.run? script).isSome) :
    Agrees (standing session unused) session script ↔ Paired unused script := by
  induction script generalizing session unused with
  | nil => simp [agrees_nil, standing_pos, Paired]
  | cons statement script ih =>
      obtain ⟨next, hstep, hnext⟩ := exists_step_of_run? hvalid
      rw [agrees_cons hstep, and_iff_right standing_pos]
      cases session with
      | closed =>
          cases statement with
          | begin =>
              obtain rfl : Session.opened [] = next := Option.some.inj hstep
              exact ih 0 hnext
          | _ => cases hstep
      | opened savepoints =>
          -- A closing statement leaves the count at the number of unused savepoints, which is right
          -- for a closed session when there are none, and for an open one when there are some.
          have hused (hopen : next.isOpen = true) :
              Agrees unused next script ↔ 0 < unused ∧ Paired (unused - 1) script := by
            obtain ⟨earlier, rfl⟩ : ∃ earlier, next = .opened earlier := by
              cases next with
              | closed => cases hopen
              | opened earlier => exact ⟨earlier, rfl⟩
            cases unused with
            | zero => exact iff_of_false (not_agrees (by simp [Session.isOpen])) (by simp)
            | succ unused =>
                rw [and_iff_right (Nat.succ_pos unused)]
                exact ih unused hnext
          have hended (hclosed : next = .closed) :
              Agrees unused next script ↔ unused = 0 ∧ Paired 0 script := by
            subst hclosed
            cases unused with
            | zero =>
                rw [and_iff_right rfl]
                exact ih 0 hnext
            | succ unused => exact iff_of_false (not_agrees (by simp [Session.isOpen])) (by simp)
          cases hboundary : statement.boundary with
          | opening =>
              cases statement with
              | begin => cases hstep
              | savepoint name =>
                  obtain rfl : Session.opened (name :: savepoints) = next := Option.some.inj hstep
                  exact ih (unused + 1) hnext
              | _ => cases hboundary
          | closing =>
              have hturn : statement.turn (standing (.opened savepoints) unused) = unused := by
                simp [turn, hboundary, Role.turn, standing]
              rw [hturn]
              rcases step?_of_closing hboundary hstep with
                ⟨⟨name, rfl | rfl⟩, hopen⟩ | ⟨rfl | rfl, hclosed⟩
              · exact hused hopen
              · exact hused hopen
              · exact hended hclosed
              · exact hended hclosed

end TransactionStatement

namespace Engine

open TransactionStatement

/-- The calls of a script that is written with semicolons or without. -/
def callsOf {σ : Type} (script : List (TransactionStatement × Bool)) : List (Call σ) :=
  script.map fun written => .exec (written.1.text written.2)

theorem depth_callsOf
    {σ : Type} {destination : Destination σ} (hmany : 2 ≤ destination.maxOpen) (batchCap : ℕ)
    (world : σ) {script : List (TransactionStatement × Bool)}
    (hsucceeds : (fresh batchCap world).Succeeds destination (callsOf script)) :
    ((fresh batchCap world).run destination (callsOf script)).sink.depth =
      depthAfter 0 (script.map Prod.fst) := by
  have hcalls : (callsOf script : List (Call σ)) =
      (script.map fun written => written.1.text written.2).map .exec := by
    simp [callsOf]
  rw [hcalls] at hsucceeds ⊢
  rw [(consistent_fresh destination batchCap world).depth_run hmany hsucceeds]
  simp [depthAfter, List.foldl_map, roleOf_text, turn, fresh, Sink.fresh, Sink.depth]

/-- In a script of transaction control in which nothing fails, an engine holds a sentry as long as
its count is positive.  On a script that is valid for the database, this is as long as a transaction
is open if and only if the script pairs its savepoints. -/
theorem inTransaction_iff_open_iff_paired
    {σ : Type} (destination : Destination σ) (hmany : 2 ≤ destination.maxOpen) (batchCap : ℕ)
    (world : σ) (script : List (TransactionStatement × Bool))
    (hvalid : (Session.closed.run? (script.map Prod.fst)).isSome)
    (hsucceeds : (fresh batchCap world).Succeeds destination (callsOf script)) :
    let after := fun before => (fresh batchCap world).run destination (callsOf before)
    (∀ before, before <+: script →
        ((after before).sink.inTransaction = true ↔ 0 < depthAfter 0 (before.map Prod.fst))) ∧
      ((∀ before, before <+: script →
          ((after before).sink.inTransaction = true ↔
            Session.closed.OpenAfter (before.map Prod.fst))) ↔
        Paired 0 (script.map Prod.fst)) := by
  intro after
  have hcount : ∀ before, before <+: script →
      ((after before).sink.inTransaction = true ↔ 0 < depthAfter 0 (before.map Prod.fst)) := by
    rintro before ⟨later, rfl⟩
    have hconsistent : Consistent destination
        (arrivedBy destination (callsOf before)) (after before) :=
      consistent_run_fresh batchCap world (callsOf before)
    rw [callsOf, List.map_append] at hsucceeds
    rw [hconsistent.sound.inTransaction_iff,
      depth_callsOf hmany batchCap world (succeeds_append.mp hsucceeds).1]
  refine ⟨hcount, ?_⟩
  rw [← agrees_iff_paired 0 hvalid]
  constructor
  · intro htells before hbefore
    obtain ⟨written, hwritten, rfl⟩ := List.prefix_map_iff.mp hbefore
    rw [← htells written hwritten]
    exact (hcount written hwritten).symm
  · intro hagrees before hbefore
    rw [hcount before hbefore]
    exact hagrees _ (hbefore.map Prod.fst)

/-- A savepoint that is released before the transaction is committed keeps count and session
together. -/
theorem inTransaction_iff_open_after_release :
    let destination := Rehearsal.destination .mysql 2 false
    let script : List (TransactionStatement × Bool) :=
      [(.begin, true), (.savepoint "a", true), (.release "a", true), (.commit, true)]
    ∀ before, before <+: script →
      (((fresh 0 (Rehearsal.fresh [] [] [])).run destination
          (callsOf before)).sink.inTransaction = true ↔
        Session.closed.OpenAfter (before.map Prod.fst)) := by
  intro destination script
  have hsucceeds : (fresh 0 (Rehearsal.fresh [] [] [])).Succeeds destination
      (callsOf script) := by decide +kernel
  exact (inTransaction_iff_open_iff_paired destination (by decide) 0 (Rehearsal.fresh [] [] [])
    script (by decide) hsucceeds).2.mpr (by decide)

/-- A script that commits with a savepoint left is valid and succeeds, and leaves a sentry behind; a
script that returns twice to a savepoint loses the sentry of its open transaction. -/
theorem exists_inTransaction_ne_open :
    let written : TransactionStatement → TransactionStatement × Bool := fun statement =>
      (statement, true)
    let start := fresh 0 (Rehearsal.fresh [] [] [])
    let left := [TransactionStatement.begin, .savepoint "a", .commit]
    let returned := [TransactionStatement.begin, .savepoint "a", .rollbackTo "a", .rollbackTo "a"]
    let mysql := Rehearsal.destination .mysql 2 false
    let postgres := Rehearsal.destination .postgres 2 false
    (start.Succeeds mysql (callsOf (left.map written)) ∧
        Session.closed.run? left = some .closed ∧
        (start.run mysql (callsOf (left.map written))).sink.inTransaction = true) ∧
      start.Succeeds postgres (callsOf (returned.map written)) ∧
        Session.closed.run? returned = some (.opened ["a"]) ∧
        (start.run postgres (callsOf (returned.map written))).sink.inTransaction = false := by
  decide +kernel

end Engine

end SqlPipe
