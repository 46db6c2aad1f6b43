import SqlPipe.Engine.Polling
import Mathlib.Logic.Function.Iterate
import Mathlib.Order.Lattice

/-!
# Waiting in time

What waiting for a destination comes to depends on nothing but the time that is allowed and the
answers to its questions.  From these alone the module tells when each question is asked: the first
one at once, each later one when it is due, or as soon as the one before it has ended if that is
later.

Waiting follows this plan up to its last question.  A question is only asked when the one before it
has failed with time left, so the last one is asked less than an interval after the time is up, and
no answer to it is waited for longer than one interval more.
-/

namespace SqlPipe

variable {σ : Type}

namespace Response

variable {response : Response} {budget : ℕ}

/-- The answer is that the connection is alive, and comes within a budget. -/
def Confirms (response : Response) (budget : ℕ) : Prop :=
  response.outcome = .ok () ∧ ∃ delay, response.delay = some delay ∧ delay ≤ budget

/-- Why a question that nobody confirms has failed. -/
def FailsWith (response : Response) (budget : ℕ) (failure : Failure) : Prop :=
  (∃ delay, response.delay = some delay ∧ delay ≤ budget ∧ response.outcome = .error failure) ∨
    ((∀ delay, response.delay = some delay → budget < delay) ∧
      failure = .connection "ping timed out")

theorem within_cases (response : Response) (budget : ℕ) :
    (∃ delay, response.delay = some delay ∧ delay ≤ budget ∧
        response.within budget = (delay, response.outcome)) ∨
      ((∀ delay, response.delay = some delay → budget < delay) ∧
        response.within budget = (budget, .error (.connection "ping timed out"))) := by
  cases hdelay : response.delay with
  | none =>
      right
      simp [within, hdelay]
  | some delay =>
      by_cases hle : delay ≤ budget
      · left
        exact ⟨delay, rfl, hle, by simp [within, hdelay, hle]⟩
      · right
        refine ⟨?_, by simp [within, hdelay, hle]⟩
        intro other hother
        obtain rfl : delay = other := Option.some.inj hother
        omega

theorem within_le (response : Response) (budget : ℕ) : (response.within budget).1 ≤ budget := by
  obtain ⟨delay, _, hle, hwithin⟩ | ⟨_, hwithin⟩ := response.within_cases budget
  · rw [hwithin]
    exact hle
  · rw [hwithin]

theorem within_ok_iff : (response.within budget).2 = .ok () ↔ response.Confirms budget := by
  obtain ⟨delay, hdelay, hle, hwithin⟩ | ⟨hlate, hwithin⟩ := response.within_cases budget
  · rw [hwithin]
    constructor
    · intro hok
      exact ⟨hok, delay, hdelay, hle⟩
    · intro hconfirms
      exact hconfirms.1
  · rw [hwithin]
    constructor
    · intro hok
      cases hok
    · rintro ⟨_, delay, hdelay, hle⟩
      exact absurd hle (Nat.not_le.mpr (hlate delay hdelay))

theorem Confirms.within (hconfirms : response.Confirms budget) :
    response.delay = some (response.within budget).1 := by
  obtain ⟨delay, hdelay, _, hwithin⟩ | ⟨_, hwithin⟩ := response.within_cases budget
  · rw [hwithin, hdelay]
  · have hok := within_ok_iff.mpr hconfirms
    rw [hwithin] at hok
    cases hok

theorem failsWith_of_error {failure : Failure}
    (herror : (response.within budget).2 = .error failure) :
    response.FailsWith budget failure := by
  obtain ⟨delay, hdelay, hle, hwithin⟩ | ⟨hlate, hwithin⟩ := response.within_cases budget
  · rw [hwithin] at herror
    exact .inl ⟨delay, hdelay, hle, herror⟩
  · rw [hwithin] at herror
    injection herror with hfailure
    exact .inr ⟨hlate, hfailure.symm⟩

end Response

/-! ## The answers of a destination -/

namespace Destination

variable (destination : Destination σ)

/-- Asks a connection, checked out for the question, whether it is alive. -/
def ask (world : σ) : Response × σ :=
  match destination.acquire world with
  | (.error failure, world) => (⟨some 0, .error failure⟩, world)
  | (.ok connection, world) =>
      let (response, world) := destination.ping connection world
      (response, destination.release connection world)

def askedTimes (world : σ) (count : ℕ) : σ :=
  (fun world => (destination.ask world).2)^[count] world

def answers (world : σ) (number : ℕ) : Response :=
  (destination.ask (destination.askedTimes world number)).1

theorem askedTimes_succ (world : σ) (count : ℕ) :
    destination.askedTimes world (count + 1) =
      (destination.ask (destination.askedTimes world count)).2 :=
  Function.iterate_succ_apply' _ _ _

end Destination

theorem Line.ping_eq (destination : Destination σ) (line : Line σ) :
    (line.ping destination).1 = (destination.ask line.world).1 ∧
      (line.ping destination).2.world = (destination.ask line.world).2 := by
  unfold Line.ping Destination.ask Line.acquire
  cases hacquire : destination.acquire line.world with
  | mk answer world => cases answer <;> exact ⟨rfl, rfl⟩

/-! ## The plan -/

/-- How long an answer is waited for when a question is asked at a time. -/
def pingBudget (timeout asked : ℕ) : ℕ := max (timeout - asked) pingInterval

section plan

variable (timeout : ℕ) (answers : ℕ → Response)

def askedAt : ℕ → ℕ
  | 0 => 0
  | number + 1 =>
      max (askedAt number + ((answers number).within (pingBudget timeout (askedAt number))).1)
        ((number + 1) * pingInterval)

/-- A question is answered in time, and the answer is that the connection is alive. -/
def ConfirmedAt (number : ℕ) : Prop :=
  (answers number).Confirms (pingBudget timeout (askedAt timeout answers number))

def endingAt (number : ℕ) : ℕ × Outcome :=
  (answers number).within (pingBudget timeout (askedAt timeout answers number))

def endedAt (number : ℕ) : ℕ :=
  askedAt timeout answers number + (endingAt timeout answers number).1

end plan

variable {timeout : ℕ} {answers : ℕ → Response}

theorem askedAt_succ (number : ℕ) :
    askedAt timeout answers (number + 1) =
      max (endedAt timeout answers number) ((number + 1) * pingInterval) := rfl

theorem due_le_askedAt (number : ℕ) :
    number * pingInterval ≤ askedAt timeout answers number := by
  cases number with
  | zero => exact Nat.zero_le _
  | succ number => exact Nat.le_max_right ..

theorem askedAt_le_endedAt (number : ℕ) :
    askedAt timeout answers number ≤ endedAt timeout answers number :=
  Nat.le_add_right ..

/-- A question behind one that ended in time is due less than an interval after the time is up, and
so it is asked by then. -/
theorem askedAt_lt_of_endedAt_lt {number : ℕ} (hended : endedAt timeout answers number < timeout) :
    askedAt timeout answers (number + 1) < timeout + pingInterval := by
  have hdue : number * pingInterval ≤ askedAt timeout answers number := due_le_askedAt number
  have hasked : askedAt timeout answers number ≤ endedAt timeout answers number :=
    askedAt_le_endedAt number
  rw [askedAt_succ, Nat.add_mul, Nat.one_mul]
  apply max_lt
  · exact Nat.lt_add_right _ hended
  · omega

theorem endedAt_lt {number : ℕ} (hasked : askedAt timeout answers number < timeout + pingInterval) :
    endedAt timeout answers number < timeout + 2 * pingInterval := by
  have hspent := (answers number).within_le (pingBudget timeout (askedAt timeout answers number))
  simp only [endedAt, endingAt, pingBudget, pingInterval] at hasked hspent ⊢
  omega

/-! ## Waiting by the plan -/

namespace Line

variable (destination : Destination σ)

/-- Waiting has come to a question.  Nobody confirmed an earlier one. -/
structure ComesTo (timeout : ℕ) (world : σ) (number now : ℕ) (line : Line σ) : Prop where
  state : line.world = destination.askedTimes world number
  start : max now (number * pingInterval) = askedAt timeout (destination.answers world) number
  soon : askedAt timeout (destination.answers world) number < timeout + pingInterval
  earlier : ∀ before < number, ¬ ConfirmedAt timeout (destination.answers world) before

/-- Waiting is over with a question.  Nobody confirmed an earlier one, and this one either is
confirmed or has failed when the time is up. -/
structure EndsAt (timeout : ℕ) (world : σ) (last : ℕ) (waited : Waited σ) : Prop where
  state : waited.line.world = destination.askedTimes world (last + 1)
  elapsed : waited.elapsed = endedAt timeout (destination.answers world) last
  soon : askedAt timeout (destination.answers world) last < timeout + pingInterval
  earlier : ∀ before < last, ¬ ConfirmedAt timeout (destination.answers world) before
  outcome :
    ((endingAt timeout (destination.answers world) last).2 = .ok () ∧ waited.outcome = .ok ()) ∨
      ∃ failure, (endingAt timeout (destination.answers world) last).2 = .error failure ∧
        waited.outcome = .error (unreachable destination timeout failure) ∧
        timeout ≤ waited.elapsed

variable {destination} {world : σ} {line : Line σ} {now number : ℕ}

theorem waitFrom_eq (hcomes : ComesTo destination timeout world number now line) :
    line.waitFrom destination timeout number now =
      match (endingAt timeout (destination.answers world) number).2 with
      | .ok () =>
          ⟨endedAt timeout (destination.answers world) number, .ok (), (line.ping destination).2⟩
      | .error failure =>
          let line := (line.ping destination).2.report .error
            (destination.dialect.name ++ " database is not reachable: " ++ failure.message)
          if timeout ≤ endedAt timeout (destination.answers world) number then
            ⟨endedAt timeout (destination.answers world) number,
              .error (unreachable destination timeout failure), line⟩
          else
            line.waitFrom destination timeout (number + 1)
              (endedAt timeout (destination.answers world) number) := by
  have hresponse : (line.ping destination).1 = destination.answers world number := by
    rw [(line.ping_eq destination).1, hcomes.state]
    rfl
  rw [waitFrom]
  simp only [hcomes.start, hresponse]
  rfl

theorem state_ping (hcomes : ComesTo destination timeout world number now line) :
    (line.ping destination).2.world = destination.askedTimes world (number + 1) := by
  rw [(line.ping_eq destination).2, hcomes.state, Destination.askedTimes_succ]

theorem ComesTo.next {later : Line σ} (hcomes : ComesTo destination timeout world number now line)
    (hstate : later.world = (line.ping destination).2.world)
    (hfailed : (endingAt timeout (destination.answers world) number).2 ≠ .ok ())
    (hended : endedAt timeout (destination.answers world) number < timeout) :
    ComesTo destination timeout world (number + 1)
      (endedAt timeout (destination.answers world) number) later where
  state := hstate.trans (state_ping hcomes)
  start := rfl
  soon := askedAt_lt_of_endedAt_lt hended
  earlier before hbefore := by
    by_cases hlast : before = number
    · rw [hlast, ConfirmedAt, ← Response.within_ok_iff]
      exact hfailed
    · exact hcomes.earlier before (by omega)

theorem ComesTo.exists_endsAt (hcomes : ComesTo destination timeout world number now line) :
    ∃ last, EndsAt destination timeout world last
      (line.waitFrom destination timeout number now) := by
  -- The induction is on how long before the end of the last interval the question is due.
  induction hleft : timeout + pingInterval - number * pingInterval using Nat.strong_induction_on
    generalizing line now number with
  | _ left ih =>
    rw [waitFrom_eq hcomes]
    cases hending : (endingAt timeout (destination.answers world) number).2 with
    | ok =>
        exact ⟨number, state_ping hcomes, rfl, hcomes.soon, hcomes.earlier, .inl ⟨hending, rfl⟩⟩
    | error failure =>
        simp only
        split
        · rename_i hover
          exact ⟨number, state_ping hcomes, rfl, hcomes.soon, hcomes.earlier,
            .inr ⟨failure, hending, rfl, hover⟩⟩
        · rename_i hover
          have hdue : number * pingInterval < timeout + pingInterval :=
            (due_le_askedAt number).trans_lt hcomes.soon
          have hfailed : (endingAt timeout (destination.answers world) number).2 ≠ .ok () := by
            rw [hending]
            simp
          refine ih _ ?_ (hcomes.next rfl hfailed (Nat.lt_of_not_le hover)) rfl
          rw [← hleft, Nat.add_mul]
          simp only [pingInterval] at hdue ⊢
          omega

theorem comesTo_first (destination : Destination σ) (timeout : ℕ) (line : Line σ) :
    ComesTo destination timeout line.world 0 0 line where
  state := rfl
  start := rfl
  soon := Nat.add_pos_right _ (by decide)
  earlier before hbefore := absurd hbefore (Nat.not_lt_zero before)

namespace EndsAt

variable {last : ℕ} {waited : Waited σ}

theorem eq_last (hends : EndsAt destination timeout world last waited)
    (hle : number ≤ last)
    (hconfirmed : ConfirmedAt timeout (destination.answers world) number) : number = last := by
  by_contra hne
  exact hends.earlier number (Nat.lt_of_le_of_ne hle hne) hconfirmed

theorem outcome_eq_ok_iff (hends : EndsAt destination timeout world last waited) :
    waited.outcome = .ok () ↔ ConfirmedAt timeout (destination.answers world) last := by
  rw [ConfirmedAt, ← Response.within_ok_iff]
  change _ ↔ (endingAt timeout (destination.answers world) last).2 = .ok ()
  obtain ⟨hending, houtcome⟩ | ⟨failure, hending, houtcome, _⟩ := hends.outcome
  · rw [hending, houtcome]
  · rw [hending, houtcome]
    simp

theorem count_le (hends : EndsAt destination timeout world last waited) :
    last + 1 ≤ (timeout + 1999) / 2000 + 1 := by
  have hdue : last * pingInterval < timeout + pingInterval :=
    (due_le_askedAt last).trans_lt hends.soon
  simp only [pingInterval] at hdue ⊢
  omega

theorem elapsed_lt (hends : EndsAt destination timeout world last waited) :
    waited.elapsed < timeout + 2 * pingInterval := by
  rw [hends.elapsed]
  exact endedAt_lt hends.soon

theorem failure (hends : EndsAt destination timeout world last waited)
    (houtcome : waited.outcome ≠ .ok ()) :
    timeout ≤ waited.elapsed ∧
      ∃ failure, (endingAt timeout (destination.answers world) last).2 = .error failure ∧
        waited.outcome = .error (unreachable destination timeout failure) := by
  obtain ⟨_, hok⟩ | ⟨failure, hending, herror, hover⟩ := hends.outcome
  · exact absurd hok houtcome
  · exact ⟨hover, failure, hending, herror⟩

end EndsAt

/-- Waiting asks its questions at once and then when they are due or as soon as it can, up to the
first that is confirmed within its budget or, if there is none, up to the first that ends when the
time is up.  It succeeds exactly in the former case and then at the very moment of the answer;
otherwise it fails with the failure of the last question.  It asks at most one question more than
intervals begin in the time allowed, and is over before two intervals more have passed. -/
theorem waitUntilReachable_ends_in_time
    (destination : Destination σ) (timeout : ℕ) (line : Line σ) :
    ∃ last, last + 1 ≤ (timeout + 1999) / 2000 + 1 ∧
      let answers := destination.answers line.world
      let waited := line.waitUntilReachable destination timeout
      waited.line.world = destination.askedTimes line.world (last + 1) ∧
      waited.elapsed < timeout + 4000 ∧
      (waited.outcome = .ok () ↔
        ∃ number ≤ last, (answers number).Confirms
          (max (timeout - askedAt timeout answers number) 2000)) ∧
      (∀ number ≤ last,
        (answers number).Confirms (max (timeout - askedAt timeout answers number) 2000) →
        number = last ∧ ∃ delay, (answers number).delay = some delay ∧
          waited.elapsed = askedAt timeout answers number + delay) ∧
      (waited.outcome ≠ .ok () →
        timeout ≤ waited.elapsed ∧
        ∃ failure, (answers last).FailsWith
            (max (timeout - askedAt timeout answers last) 2000) failure ∧
          waited.outcome = .error (.connection (destination.dialect.name ++
            " database unreachable after " ++ Text.duration timeout ++ ": " ++
            failure.message))) := by
  obtain ⟨last, hends⟩ := (comesTo_first destination timeout line).exists_endsAt
  refine ⟨last, hends.count_le, hends.state, hends.elapsed_lt, ?_, ?_, ?_⟩
  · constructor
    · intro hok
      exact ⟨last, le_rfl, hends.outcome_eq_ok_iff.mp hok⟩
    · rintro ⟨number, hle, hconfirmed⟩
      obtain rfl := hends.eq_last hle hconfirmed
      exact hends.outcome_eq_ok_iff.mpr hconfirmed
  · intro number hle hconfirmed
    obtain rfl := hends.eq_last hle hconfirmed
    exact ⟨rfl, _, hconfirmed.within, hends.elapsed⟩
  · intro houtcome
    obtain ⟨hover, failure, hending, herror⟩ := hends.failure houtcome
    exact ⟨hover, failure, Response.failsWith_of_error hending, herror⟩

end Line
end SqlPipe
