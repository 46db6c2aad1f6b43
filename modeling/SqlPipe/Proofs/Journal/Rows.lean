import SqlPipe.Proofs.Journal.Ledger
import Mathlib.Data.List.Nodup

/-!
# Rows in a journal

Which rows a journal shows to have arrived for a target and which it shows to have been sent, each
with its place: how often transactions had begun or ended by then, and the connection that the
transaction of the moment held.

The main statement is that the rows sent for a target are a subsequence of those that arrived,
places included.  It rests on one invariant: what was sent, followed by what is on its way and what
waits, never leaves the order of arrival.  Since places count turns, no row is ever sent across a
statement.
-/

namespace SqlPipe

def Insert.rowsFor (target : String) (insert : Insert) : List Row :=
  if insert.target = target then insert.rows else []

def Message.rowsFor (target : String) : Message → List Row
  | .statement _ => []
  | .batch insert => insert.rowsFor target

def rowsFor (target : String) (inserts : List Insert) : List Row :=
  inserts.flatMap (Insert.rowsFor target)

@[simp] theorem rowsFor_nil (target : String) : rowsFor target [] = [] := rfl

@[simp] theorem rowsFor_cons (target : String) (insert : Insert) (others : List Insert) :
    rowsFor target (insert :: others) = insert.rowsFor target ++ rowsFor target others := rfl

@[simp] theorem rowsFor_append (target : String) (inserts others : List Insert) :
    rowsFor target (inserts ++ others) = rowsFor target inserts ++ rowsFor target others :=
  List.flatMap_append

/-- Of several inserts no two have the same target. -/
def DistinctTargets (inserts : List Insert) : Prop :=
  (inserts.map Insert.target).Nodup

theorem rowsFor_eq_nil
    {target : String} {inserts : List Insert}
    (habsent : target ∉ inserts.map Insert.target) : rowsFor target inserts = [] := by
  induction inserts with
  | nil => rfl
  | cons insert others ih =>
      simp only [List.map_cons, List.mem_cons, not_or] at habsent
      rw [rowsFor_cons, ih habsent.2, Insert.rowsFor, if_neg (Ne.symm habsent.1)]
      rfl

/-! ## Buffers -/

theorem target_mem_map_addRows
    {target : String} {insert : Insert} {buffers : List Insert} :
    target ∈ (Sink.addRows insert buffers).map Insert.target ↔
      target = insert.target ∨ target ∈ buffers.map Insert.target := by
  induction buffers with
  | nil => simp [Sink.addRows]
  | cons buffer others ih =>
      simp only [Sink.addRows]
      split
      next heq => simp [heq]
      next hne =>
        simp only [List.map_cons, List.mem_cons, ih]
        tauto

theorem DistinctTargets.addRows
    {buffers : List Insert} (hdistinct : DistinctTargets buffers) (insert : Insert) :
    DistinctTargets (Sink.addRows insert buffers) := by
  induction buffers with
  | nil => simp [DistinctTargets, Sink.addRows]
  | cons buffer others ih =>
      simp only [DistinctTargets, List.map_cons, List.nodup_cons] at hdistinct
      simp only [Sink.addRows]
      split
      next heq =>
        simpa only [DistinctTargets, List.map_cons, List.nodup_cons] using hdistinct
      next hne =>
        simp only [DistinctTargets, List.map_cons, List.nodup_cons]
        refine ⟨?_, ih hdistinct.2⟩
        rw [target_mem_map_addRows]
        exact not_or.mpr ⟨hne, hdistinct.1⟩

/-- New rows stand behind those that wait for their target, and change nothing for others. -/
theorem rowsFor_addRows
    {buffers : List Insert} (hdistinct : DistinctTargets buffers)
    (target : String) (insert : Insert) :
    rowsFor target (Sink.addRows insert buffers) =
      rowsFor target buffers ++ insert.rowsFor target := by
  induction buffers with
  | nil => simp [Sink.addRows]
  | cons buffer others ih =>
      simp only [DistinctTargets, List.map_cons, List.nodup_cons] at hdistinct
      simp only [Sink.addRows]
      split
      next heq =>
        by_cases htarget : insert.target = target
        · have hothers : rowsFor target others = [] := by
            apply rowsFor_eq_nil
            rw [← htarget, ← heq]
            exact hdistinct.1
          simp [Insert.rowsFor, heq, htarget, hothers]
        · simp [Insert.rowsFor, heq, htarget]
      next hne =>
        rw [rowsFor_cons, ih hdistinct.2, rowsFor_cons, List.append_assoc]

theorem rowsFor_eq_append_erase
    {outgoing : List Insert} (hdistinct : DistinctTargets outgoing)
    {insert : Insert} (hmem : insert ∈ outgoing) (target : String) :
    rowsFor target outgoing =
      insert.rowsFor target ++ rowsFor target (outgoing.erase insert) := by
  induction outgoing with
  | nil => cases hmem
  | cons first others ih =>
      simp only [DistinctTargets, List.map_cons, List.nodup_cons] at hdistinct
      by_cases heq : first = insert
      · subst first
        rw [List.erase_cons_head, rowsFor_cons]
      · have hothers : insert ∈ others := by
          rcases List.mem_cons.mp hmem with rfl | hothers
          · exact absurd rfl heq
          · exact hothers
        have hne : first.target ≠ insert.target := by
          intro htargets
          apply hdistinct.1
          rw [htargets]
          exact List.mem_map_of_mem hothers
        rw [List.erase_cons_tail (by simpa using heq), rowsFor_cons, rowsFor_cons,
          ih hdistinct.2 hothers]
        by_cases htarget : first.target = target
        · have hinsert : insert.rowsFor target = [] :=
            if_neg fun h => hne (htarget.trans h.symm)
          simp [hinsert]
        · have hfirst : first.rowsFor target = [] := if_neg htarget
          simp [hfirst]

theorem pending_eq_rowsFor
    {buffers : List Insert} (hdistinct : DistinctTargets buffers) (target : String) :
    Sink.pending target buffers = rowsFor target buffers := by
  induction buffers with
  | nil => rfl
  | cons buffer others ih =>
      simp only [DistinctTargets, List.map_cons, List.nodup_cons] at hdistinct
      by_cases htarget : buffer.target = target
      · have hothers : rowsFor target others = [] :=
          rowsFor_eq_nil (htarget ▸ hdistinct.1)
        simp [Sink.pending, Insert.rowsFor, htarget, hothers]
      · have hskip :
            Sink.pending target (buffer :: others) = Sink.pending target others := by
          simp [Sink.pending, htarget]
        rw [hskip, ih hdistinct.2, rowsFor_cons, Insert.rowsFor, if_neg htarget]
        rfl

namespace Journal

/-! ## One buffer and one batch for each target -/

theorem distinctTargets_waiting (journal : Journal) :
    DistinctTargets journal.ledger.waiting := by
  induction journal with
  | nil => simp [DistinctTargets, Ledger.empty]
  | cons action earlier ih =>
      cases action with
      | buffered insert => exact ih.addRows insert
      | emptied => simp [DistinctTargets, Ledger.after]
      | sent connection message => cases message <;> exact ih
      | _ => exact ih

theorem distinctTargets_outgoing (journal : Journal) :
    DistinctTargets journal.ledger.outgoing := by
  induction journal with
  | nil => simp [DistinctTargets, Ledger.empty]
  | cons action earlier ih =>
      cases action with
      | emptied => exact distinctTargets_waiting earlier
      | bound => simp [DistinctTargets, Ledger.after]
      | unbound => simp [DistinctTargets, Ledger.after]
      | sent connection message =>
          cases message with
          | statement text => simp [DistinctTargets, Ledger.after]
          | batch insert => exact (List.erase_sublist.map Insert.target).nodup ih
      | _ => exact ih

/-! ## Arrivals and dispatches -/

/-- When something happened: after how many turns, and on which connection a transaction was
open. -/
abbrev Place := ℕ × Option Connection

def placeOf (ledger : Ledger) : Place := (ledger.turn, ledger.sentry)

/-- The rows that arrived for a target, each with the place of its arrival. -/
def arrivals (target : String) : Journal → List (Row × Place)
  | [] => []
  | .buffered insert :: earlier =>
      arrivals target earlier ++ (insert.rowsFor target).map (·, placeOf (ledger earlier))
  | _ :: earlier => arrivals target earlier

/-- The rows that were sent for a target, each with the place of its sending.  Where a transaction
was open, the connection of the place is the one that the row was sent on. -/
def dispatches (target : String) : Journal → List (Row × Place)
  | [] => []
  | .sent connection (.batch insert) :: earlier =>
      let place := ((ledger earlier).turn, (ledger earlier).sentry.map fun _ => connection)
      dispatches target earlier ++ (insert.rowsFor target).map (·, place)
  | _ :: earlier => dispatches target earlier

def atPlace (ledger : Ledger) (rows : List Row) : List (Row × Place) :=
  rows.map (·, placeOf ledger)

/-- A batch on a connection that serves has the place of its ledger. -/
theorem dispatches_batch
    {target : String} {connection : Connection} {insert : Insert} {earlier : Journal}
    (hserves : earlier.ledger.Serves connection) :
    dispatches target (.sent connection (.batch insert) :: earlier) =
      dispatches target earlier ++ atPlace earlier.ledger (insert.rowsFor target) := by
  have hplace : (earlier.ledger.sentry.map fun _ => connection) = earlier.ledger.sentry := by
    cases hsentry : earlier.ledger.sentry with
    | none => rfl
    | some sentry => rw [Option.map_some, hserves.2 sentry hsentry]
  simp only [dispatches, hplace]
  rfl

/-- What was sent for a target, then what is on its way and then what waits never leave the order
and the places of arrival.  Rows get lost on the way, but they stay in order and in place. -/
theorem Orderly.dispatches_append_sublist_arrivals
    {limit : ℕ} {journal : Journal} (horderly : journal.Orderly limit) (target : String) :
    (dispatches target journal ++
      atPlace journal.ledger (rowsFor target journal.ledger.outgoing ++
        rowsFor target journal.ledger.waiting)).Sublist (arrivals target journal) := by
  induction journal with
  | nil => exact List.Sublist.refl _
  | cons action earlier ih =>
      obtain ⟨hallowed, hearlier⟩ := horderly
      have hkept := ih hearlier
      cases action with
      | sent connection message =>
          cases message with
          | statement text =>
              refine List.Sublist.trans ?_ hkept
              simp [dispatches, Ledger.after, hallowed.2, atPlace]
          | batch insert =>
              have hrows := rowsFor_eq_append_erase
                (distinctTargets_outgoing earlier) hallowed.2 target
              rw [dispatches_batch hallowed.1]
              simpa [Ledger.after, arrivals, hrows, atPlace, placeOf] using hkept
      | buffered insert =>
          -- the new rows arrive at the end of those that wait
          have hrows := rowsFor_addRows (distinctTargets_waiting earlier) target insert
          have hgrown := hkept.append_right
            (atPlace (ledger earlier) (insert.rowsFor target))
          simpa [Ledger.after, dispatches, arrivals, hrows, atPlace, placeOf] using hgrown
      | emptied =>
          -- what was still on its way is lost, and what waited is on its way
          refine List.Sublist.trans ?_ hkept
          simp only [dispatches, ledger_cons, Ledger.after, rowsFor_nil, List.append_nil]
          apply List.Sublist.append_left
          exact (List.sublist_append_right _ _).map _
      | bound connection =>
          refine List.Sublist.trans ?_ hkept
          simp [dispatches, Ledger.after, hallowed.2.1, atPlace]
      | unbound =>
          refine List.Sublist.trans ?_ hkept
          simp [dispatches, Ledger.after, hallowed.2, atPlace]
      | _ => exact hkept

/-- In an orderly journal the rows sent for a target are a subsequence of those that arrived for it,
each sent at the place of its arrival. -/
theorem Orderly.dispatches_sublist_arrivals
    {limit : ℕ} {journal : Journal} (horderly : journal.Orderly limit) (target : String) :
    (dispatches target journal).Sublist (arrivals target journal) :=
  (List.sublist_append_left _ _).trans
    (horderly.dispatches_append_sublist_arrivals target)

/-! ## Turns -/

/-- An action that takes a turn: a statement, or the beginning or end of a transaction. -/
def takesTurn : Action → Bool
  | .sent _ (.statement _) | .bound _ | .unbound => true
  | _ => false

theorem turn_after (ledger : Ledger) (action : Action) :
    (ledger.after action).turn = if takesTurn action then ledger.turn + 1 else ledger.turn := by
  cases action with
  | sent connection message => cases message <;> rfl
  | _ => rfl

theorem turn_le_append (later earlier : Journal) :
    (ledger earlier).turn ≤ (Journal.ledger (later ++ earlier)).turn := by
  induction later with
  | nil => exact le_rfl
  | cons action later ih =>
      refine ih.trans ?_
      rw [List.cons_append, ledger_cons, turn_after]
      split
      · exact Nat.le_succ _
      · exact le_rfl

theorem arrivals_append (target : String) (later earlier : Journal) :
    ∃ since, arrivals target (later ++ earlier) = arrivals target earlier ++ since ∧
      ∀ row ∈ since, (ledger earlier).turn ≤ row.2.1 := by
  induction later with
  | nil => exact ⟨[], by simp, by simp⟩
  | cons action later ih =>
      obtain ⟨since, heq, hturns⟩ := ih
      have hturn := turn_le_append later earlier
      cases action with
      | buffered insert =>
          refine ⟨since ++ atPlace (Journal.ledger (later ++ earlier))
            (insert.rowsFor target), ?_, ?_⟩
          · simp [arrivals, heq, atPlace]
          · intro row hrow
            rcases List.mem_append.mp hrow with hrow | hrow
            · exact hturns row hrow
            · obtain ⟨row, -, rfl⟩ := List.mem_map.mp hrow
              exact hturn
      | sent connection message => cases message <;> exact ⟨since, heq, hturns⟩
      | _ => exact ⟨since, heq, hturns⟩

theorem dispatches_append (target : String) (later earlier : Journal) :
    ∃ since, dispatches target (later ++ earlier) = dispatches target earlier ++ since ∧
      ∀ row ∈ since, (ledger earlier).turn ≤ row.2.1 := by
  induction later with
  | nil => exact ⟨[], by simp, by simp⟩
  | cons action later ih =>
      obtain ⟨since, heq, hturns⟩ := ih
      have hturn := turn_le_append later earlier
      cases action with
      | sent connection message =>
          cases message with
          | statement text => exact ⟨since, heq, hturns⟩
          | batch insert =>
              refine ⟨since ++ (insert.rowsFor target).map
                (·, ((Journal.ledger (later ++ earlier)).turn,
                  (Journal.ledger (later ++ earlier)).sentry.map fun _ => connection)), ?_, ?_⟩
              · simp [dispatches, heq]
              · intro row hrow
                rcases List.mem_append.mp hrow with hrow | hrow
                · exact hturns row hrow
                · obtain ⟨row, -, rfl⟩ := List.mem_map.mp hrow
                  exact hturn
      | _ => exact ⟨since, heq, hturns⟩

/-- What has arrived or was sent so far did so by the turn of the moment. -/
theorem turn_le_of_mem
    {target : String} {journal : Journal} {row : Row × Place}
    (hmem : row ∈ arrivals target journal ∨ row ∈ dispatches target journal) :
    row.2.1 ≤ journal.ledger.turn := by
  induction journal with
  | nil => simp [arrivals, dispatches] at hmem
  | cons action earlier ih =>
      refine Nat.le_trans ?_ (turn_le_append [action] earlier)
      cases action with
      | buffered insert =>
          simp only [arrivals, dispatches, List.mem_append, or_right_comm] at hmem
          rcases hmem with hmem | hmem
          · exact ih hmem
          · obtain ⟨row, -, rfl⟩ := List.mem_map.mp hmem
            exact le_rfl
      | sent connection message =>
          cases message with
          | statement text => exact ih hmem
          | batch insert =>
              simp only [arrivals, dispatches, List.mem_append, ← or_assoc] at hmem
              rcases hmem with hmem | hmem
              · exact ih hmem
              · obtain ⟨row, -, rfl⟩ := List.mem_map.mp hmem
                exact le_rfl
      | _ => exact ih hmem

/-- No row is sent across an action that takes a turn: the rows sent after it are a subsequence of
those that arrived after it. -/
theorem Orderly.sublist_since
    {limit : ℕ} {later earlier : Journal} {action : Action}
    (horderly : Journal.Orderly limit (later ++ action :: earlier))
    (hturn : takesTurn action = true) (target : String) :
    ∃ sent arrived,
      dispatches target (later ++ action :: earlier) = dispatches target earlier ++ sent ∧
      arrivals target (later ++ action :: earlier) = arrivals target earlier ++ arrived ∧
      sent.Sublist arrived := by
  have hnext : (Journal.ledger (action :: earlier)).turn = (ledger earlier).turn + 1 := by
    rw [ledger_cons, turn_after, if_pos hturn]
  obtain ⟨sent, hsent, hsentTurns⟩ := dispatches_append target later (action :: earlier)
  obtain ⟨arrived, harrived, harrivedTurns⟩ := arrivals_append target later (action :: earlier)
  have hdispatches : dispatches target (action :: earlier) = dispatches target earlier := by
    cases action with
    | sent connection message => cases message <;> first | rfl | cases hturn
    | _ => rfl
  have harrivals : arrivals target (action :: earlier) = arrivals target earlier := by
    cases action with
    | buffered insert => cases hturn
    | _ => rfl
  rw [hdispatches] at hsent
  rw [harrivals] at harrived
  refine ⟨sent, arrived, hsent, harrived, ?_⟩
  -- only what came after the action has a later turn than the action found
  have hsub := (horderly.dispatches_sublist_arrivals target).filter
    fun row => decide ((ledger earlier).turn < row.2.1)
  have hold : ∀ rows : List (Row × Place),
      (∀ row ∈ rows, row.2.1 ≤ (ledger earlier).turn) →
      rows.filter (fun row => decide ((ledger earlier).turn < row.2.1)) = [] := by
    intro rows hrows
    simpa [List.filter_eq_nil_iff] using hrows
  have hnew : ∀ rows : List (Row × Place),
      (∀ row ∈ rows, (Journal.ledger (action :: earlier)).turn ≤ row.2.1) →
      rows.filter (fun row => decide ((ledger earlier).turn < row.2.1)) = rows := by
    intro rows hrows
    rw [List.filter_eq_self]
    intro row hrow
    have hlater := hrows row hrow
    rw [hnext] at hlater
    exact decide_eq_true (Nat.lt_of_succ_le hlater)
  rwa [hsent, harrived, List.filter_append, List.filter_append,
    hold _ (fun row hrow => turn_le_of_mem (Or.inr hrow)),
    hold _ (fun row hrow => turn_le_of_mem (Or.inl hrow)),
    hnew sent hsentTurns, hnew arrived harrivedTurns] at hsub

/-! ## Rows without their places -/

theorem messages_cons (action : Action) (earlier : Journal) :
    Journal.messages (action :: earlier) =
      earlier.messages ++ (sentBy? action).toList := by
  cases haction : sentBy? action <;>
    simp [Journal.messages, List.filterMap_append, haction]

theorem messages_append (later earlier : Journal) :
    Journal.messages (later ++ earlier) = earlier.messages ++ later.messages := by
  simp [Journal.messages]

def sentRows (target : String) (journal : Journal) : List Row :=
  journal.messages.flatMap fun (_, message) => message.rowsFor target

theorem map_fst_arrivals (target : String) (journal : Journal) :
    (arrivals target journal).map Prod.fst = rowsFor target journal.ledger.arrived := by
  induction journal with
  | nil => rfl
  | cons action earlier ih =>
      cases action with
      | buffered insert =>
          simp [arrivals, Ledger.after, ih, Function.comp_def]
      | sent connection message => cases message <;> exact ih
      | _ => exact ih

theorem map_fst_dispatches (target : String) (journal : Journal) :
    (dispatches target journal).map Prod.fst = journal.sentRows target := by
  induction journal with
  | nil => rfl
  | cons action earlier ih =>
      rw [sentRows, messages_cons, List.flatMap_append, ← sentRows, ← ih]
      cases action with
      | sent connection message =>
          cases message with
          | statement text => simp [dispatches, sentBy?, Message.rowsFor]
          | batch insert =>
              simp [dispatches, sentBy?, Message.rowsFor, Function.comp_def]
      | _ => simp [dispatches, sentBy?]

end Journal

end SqlPipe
