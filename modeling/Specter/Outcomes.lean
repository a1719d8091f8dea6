import Specter.SenderSteps

/-!
# What a POST can end in, and what becomes of it

`send` files every response under one of four headings and every
exception it catches under "network failure". The exceptions it does
not catch leave the loop of `run` and end the process; which ones they
are is read off the class hierarchy, and they are the only way a
network failure can end it.
-/

namespace Specter

/-- The headings under which the outcome of a POST is accounted for. -/
inductive OutcomeClass where
  | accepted | rejected | networkFailure | clientError
deriving Repr, DecidableEq

def PostOutcome.heading : PostOutcome → OutcomeClass
  | .response status _ =>
    if status = 200 then .accepted
    else if status = 401 then .rejected
    else if 500 ≤ status then .networkFailure
    else .clientError
  | .transportError _ => .networkFailure
  | .valueError => .clientError

/-- The counters of `self'` are those of `self` with one more outcome of
the given heading. -/
def OutcomeClass.Accounted (self self' : Sender) : OutcomeClass → Prop
  | .accepted => self'.failCount = 0 ∧ self'.authFailCount = 0 ∧ self'.nextSendAfter = 0
  | .rejected => self'.authFailCount = self.authFailCount + 1 ∧ self'.failCount = self.failCount
  | .networkFailure => self'.failCount = self.failCount + 1
      ∧ self'.authFailCount = self.authFailCount ∧ self'.nextSendAfter = self.nextSendAfter
  | .clientError => self'.failCount = self.failCount
      ∧ self'.authFailCount = self.authFailCount ∧ self'.nextSendAfter = self.nextSendAfter

/-- The classes of the family that the `except` clause does not name,
directly or through a base. -/
def uncaughtErrors : List TransportError :=
  [.readError, .writeError, .closeError, .localProtocolError, .proxyError,
    .unsupportedProtocol, .transportError, .networkError, .protocolError]

theorem caught_iff (e : TransportError) : e.caught = true ↔ e ∉ uncaughtErrors := by
  cases e <;> decide

/-- A response or an exception of the httpx transport family: what the
network, rather than the payload, can make of a POST. -/
def PostOutcome.FromNetwork : PostOutcome → Prop
  | .valueError => False
  | _ => True

def PostOutcome.Uncaught (o : PostOutcome) : Prop :=
  ∃ e ∈ uncaughtErrors, o = .transportError e

theorem handled_iff {o : PostOutcome} (h : o.FromNetwork) : o.Handled ↔ ¬ o.Uncaught := by
  cases o with
  | response status text =>
      refine iff_of_true trivial ?_
      rintro ⟨e, -, he⟩
      cases he
  | transportError e =>
      rw [PostOutcome.Handled, caught_iff]
      constructor
      · rintro hmem ⟨e', he', heq⟩
        cases heq
        exact hmem he'
      · exact fun h hmem => h ⟨e, hmem, rfl⟩
  | valueError => exact h.elim

/-- Returning is enough: `send` never files an outcome wrongly. -/
theorem send_accounted {self self' : Sender} {payload : Payload}
    {post : Payload → PostOutcome} {time : ℚ} (hnet : (post payload).FromNetwork)
    (h : send self payload post time = .ok self') :
    (post payload).heading.Accounted self self' := by
  have hafter := (send_spec h).1
  cases hp : post payload with
  | response status text =>
      rw [hp] at hafter
      simp only [Ledger.after, Sender.ledger] at hafter
      simp only [PostOutcome.heading]
      split_ifs at hafter ⊢ <;>
        simp only [OutcomeClass.Accounted] <;>
        simp only [Ledger.mk.injEq] at hafter <;>
        first
          | exact hafter
          | exact ⟨hafter.2.1, hafter.1⟩
          | omega
  | transportError e =>
      rw [hp] at hafter
      simpa [PostOutcome.heading, OutcomeClass.Accounted, Ledger.after, Sender.ledger] using hafter
  | valueError => rw [hp] at hnet; exact hnet.elim

/-- A process is alive after some iterations exactly when `send` handled
every POST it attempted. -/
theorem run_ok_iff {env : Env} {l : Loop} {its : List Iteration} :
    (∃ l', Run.run (iterate env) l its = .ok l')
      ↔ ∀ a ∈ attemptsFrom env l its, a.outcome.Handled := by
  induction its generalizing l with
  | nil => exact ⟨fun _ _ h => (List.not_mem_nil h).elim, fun _ => ⟨l, rfl⟩⟩
  | cons it its ih =>
      cases hit : iterate env l it with
      | error e =>
          rw [Run.run_cons_error hit]
          refine iff_of_false (fun ⟨_, h⟩ => by cases h) fun h => ?_
          obtain ⟨l', hl'⟩ := iterate_ok_iff.mpr fun a ha =>
            h a (by rw [attemptsFrom, ha]; exact List.mem_cons_self ..)
          rw [hit] at hl'
          cases hl'
      | ok m =>
          have hhead := iterate_ok_iff.mp ⟨m, hit⟩
          rw [Run.run_cons_ok hit, ih]
          simp only [attemptsFrom, hit, List.mem_append, Option.mem_toList]
          constructor
          · rintro h a (ha | ha)
            · exact hhead a ha
            · exact h a ha
          · exact fun h a ha => h a (Or.inr ha)

theorem exists_attempt_of_run_error {env : Env} {l : Loop} {its : List Iteration}
    {e : PyException} (h : Run.run (iterate env) l its = .error e) :
    ∃ a ∈ attemptsFrom env l its, a.outcome.exception? = some e := by
  induction its generalizing l with
  | nil => cases h
  | cons it its ih =>
      cases hit : iterate env l it with
      | error e' =>
          rw [Run.run_cons_error hit] at h
          obtain rfl := Except.error.inj h
          obtain ⟨a, ha, hraise⟩ := iterate_error hit
          exact ⟨a, by rw [attemptsFrom, ha]; exact List.mem_cons_self .., hraise⟩
      | ok m =>
          rw [Run.run_cons_ok hit] at h
          obtain ⟨a, ha, hraise⟩ := ih h
          refine ⟨a, ?_, hraise⟩
          simp only [attemptsFrom, hit, List.mem_append]
          exact Or.inr ha

/-! ## Network failures and the life of the process -/

/-- **Accounting.** In every state a run reaches, `send` returns and
accounts for the outcome under its heading unless the POST ends in one of
`uncaughtErrors`; and a run outlives the network unless one of its POSTs
does, its dictionary being the one the received messages built. -/
theorem send_accounted_iff_caught (env : Env) :
    (∀ its l, runSender env its = .ok l →
      ∀ payload post time, (post payload).FromNetwork →
        ((∃ self', send l.sender payload post time = .ok self'
            ∧ (post payload).heading.Accounted l.sender self')
          ↔ ¬ (post payload).Uncaught))
    ∧ ∀ its, (∀ a ∈ attempts env its, a.outcome.FromNetwork) →
        ((∃ l, runSender env its = .ok l ∧ l.sender.state = accumulated env (received its))
          ↔ ∀ a ∈ attempts env its, ¬ a.outcome.Uncaught) := by
  refine ⟨fun its l _ payload post time hnet => ?_, fun its hnet => ?_⟩
  · rw [← handled_iff hnet, ← send_ok_iff l.sender payload post time]
    exact ⟨fun ⟨self', h, _⟩ => ⟨self', h⟩,
      fun ⟨self', h⟩ => ⟨self', h, send_accounted hnet h⟩⟩
  · have hlive : (∃ l, runSender env its = .ok l) ↔
        ∀ a ∈ attempts env its, a.outcome.Handled := run_ok_iff
    constructor
    · rintro ⟨l, hl, -⟩ a ha
      exact (handled_iff (hnet a ha)).mp (hlive.mp ⟨l, hl⟩ a ha)
    · intro h
      obtain ⟨l, hl⟩ := hlive.mpr fun a ha => (handled_iff (hnet a ha)).mpr (h a ha)
      exact ⟨l, hl, runSender_state hl⟩

/-- A POST answered 200 leaves the bench process running. -/
theorem bench_accounted_iff_caught :
    (∃ self', send (Sender.init benchEnv) (buildPayload (Sender.init benchEnv))
        (fun _ => .response 200 "") 0 = .ok self'
      ∧ OutcomeClass.accepted.Accounted (Sender.init benchEnv) self')
    ∧ ∃ l, runSender benchEnv [benchIteration 100 (.response 200 "") 100] = .ok l
      ∧ l.sender.state = accumulated benchEnv [benchFix] := by
  have hcaught (status : Int) (text : String) :
      ¬ (PostOutcome.response status text).Uncaught := fun ⟨_, _, h⟩ => by cases h
  constructor
  · exact ((send_accounted_iff_caught benchEnv).1 [] (Loop.init benchEnv) rfl
      (buildPayload (Sender.init benchEnv)) (fun _ => .response 200 "") 0 trivial).mpr
      (hcaught 200 "")
  · have hattempts : ∀ a ∈ attempts benchEnv [benchIteration 100 (.response 200 "") 100],
        a.outcome = .response 200 "" := by decide +kernel
    refine ((send_accounted_iff_caught benchEnv).2
      [benchIteration 100 (.response 200 "") 100] fun a ha => ?_).mpr fun a ha => ?_
    · rw [hattempts a ha]; trivial
    · rw [hattempts a ha]; exact hcaught 200 ""

/-- The link dying while the response is read: `httpx.ReadError` leaves
`send` and ends the process, position and counters with it. -/
theorem readError_ends_process :
    (∀ self', send (Sender.init benchEnv) (buildPayload (Sender.init benchEnv))
        (fun _ => .transportError .readError) 0 ≠ .ok self')
    ∧ runSender benchEnv [benchIteration 100 (.transportError .readError) 100]
        = .error (.transportError .readError) := by
  refine ⟨fun self' h => ?_, by decide +kernel⟩
  have : ¬ PostOutcome.Handled (.transportError .readError) := by decide
  exact this ((send_ok_iff _ _ _ _).mp ⟨self', h⟩)

end Specter
