import Specter.SenderLog

/-!
# The first telemetry sent

"First telemetry sent" is meant to mark the first 200 of the process,
unless failures come before it, and no other response. `send` recognises
it by `last_send` still being 0, but `run` writes `last_send` whenever a
send is due, also where the position gate then holds it back. So the
event depends on the reading of the latest due iteration
(`firstSentOnce_iff`).
-/

namespace Specter

/-! ## `last_send` is the reading of the latest due iteration -/

/-- The readings at which a send was due, whatever became of it. -/
def dueReadings (env : Env) (its : List Iteration) : List ℚ :=
  Run.outputs (iterate env)
    (fun l it => if Due env (receive env l.sender it.msg) it.now then [it.now] else [])
    (Loop.init env) its

theorem runSender_lastDue {env : Env} {its : List Iteration} {l : Loop}
    (h : runSender env its = .ok l) : l.sender.lastSend = (dueReadings env its).getLastD 0 := by
  refine Run.run_induction (P := fun its l => l.sender.lastSend = (dueReadings env its).getLastD 0)
    rfl (fun its l it l' hl ih hit => ?_) h
  rw [dueReadings, Run.outputs_append_singleton it hl, (iterate_spec hit).2.1]
  split_ifs
  · simp
  · simpa [dueReadings] using ih

/-! ## The event -/

/-- The event is logged in an iteration exactly if its POST is answered
200 and every earlier POST of the process was refused without being
counted. -/
def FirstSentOnce (env : Env) (its : List Iteration) : Prop :=
  ∀ pre it l l', pre ++ [it] <+: its → runSender env pre = .ok l →
    iterate env l it = .ok l' →
      (.firstSent ∈ logged l l' ↔
        ∃ a, attempt? env l it = some a ∧ a.outcome.heading = .accepted
          ∧ ∀ b ∈ attempts env pre, b.outcome.heading = .clientError)

/-- What `last_send = 0` has to mean at a 200 that ends no streak: nothing
came due before the first one, or the clock read 0 when it last did; and
before a later one it last came due at another reading than 0. -/
structure LastSendTells (env : Env) (its : List Iteration) : Prop where
  first : ∀ pre it l a, pre ++ [it] <+: its → runSender env pre = .ok l →
    attempt? env l it = some a → a.outcome.heading = .accepted →
    (∀ b ∈ attempts env pre, b.outcome.heading = .clientError) →
      (dueReadings env pre).getLastD 0 = 0
  later : ∀ pre it l a, pre ++ [it] <+: its → runSender env pre = .ok l →
    attempt? env l it = some a → a.outcome.heading = .accepted →
    streakOf .networkFailure (attempts env pre) = 0 →
    streakOf .rejected (attempts env pre) = 0 →
    (∃ b ∈ attempts env pre, b.outcome.heading = .accepted) →
      (dueReadings env pre).getLastD 0 ≠ 0

theorem streakOf_eq_zero_iff {heading : OutcomeClass} {as : List Attempt}
    (h : ∀ a ∈ as, a.outcome.heading ≠ .accepted) :
    streakOf heading as = 0 ↔ ∀ a ∈ as, a.outcome.heading ≠ heading := by
  rw [streakOf, Streak.streak_of_no_reset _ (by simpa using h), List.countP_eq_zero]
  simp

/-- Without a 200, both streaks are empty just if nothing was counted. -/
theorem all_clientError_iff (as : List Attempt) :
    (∀ a ∈ as, a.outcome.heading = .clientError) ↔
      streakOf .networkFailure as = 0 ∧ streakOf .rejected as = 0
        ∧ ∀ a ∈ as, a.outcome.heading ≠ .accepted := by
  constructor
  · intro h
    have hnone (heading : OutcomeClass) (hne : .clientError ≠ heading) :
        ∀ a ∈ as, a.outcome.heading ≠ heading := fun a ha => h a ha ▸ hne
    have haccepted := hnone .accepted (by decide)
    exact ⟨(streakOf_eq_zero_iff haccepted).mpr (hnone _ (by decide)),
      (streakOf_eq_zero_iff haccepted).mpr (hnone _ (by decide)), haccepted⟩
  · rintro ⟨hfail, hauth, haccepted⟩ a ha
    have hnotFail := (streakOf_eq_zero_iff haccepted).mp hfail a ha
    have hnotAuth := (streakOf_eq_zero_iff haccepted).mp hauth a ha
    have hnotOk := haccepted a ha
    cases hh : a.outcome.heading <;> simp_all

/-- The event, read off the ledger and `last_send`. -/
theorem firstSent_mem_notes {ledger : Ledger} {lastSend : ℚ} {a : Attempt} :
    .firstSent ∈ ledger.notes lastSend a ↔
      a.outcome.heading = .accepted
        ∧ ledger.failCount = 0 ∧ ledger.authFailCount = 0 ∧ lastSend = 0 := by
  by_cases haccepted : a.outcome.heading = .accepted
  · rw [mem_notes_accepted haccepted, and_iff_right haccepted]
    split_ifs with hfirst <;> simp [hfirst]
  · refine iff_of_false (fun hnote => ?_) fun h => haccepted h.1
    rw [Ledger.notes, List.mem_append] at hnote
    rcases hnote with hnote | halarm
    · cases ho : a.outcome with
      | response status text =>
          have hOk : status ≠ 200 := by
            rintro rfl
            exact haccepted (by rw [ho]; rfl)
          rw [ho, Ledger.outcomeNotes, if_neg hOk] at hnote
          split_ifs at hnote <;> simp at hnote
      | transportError e => simp [ho, Ledger.outcomeNotes] at hnote
      | valueError => simp [ho, Ledger.outcomeNotes] at hnote
    · split_ifs at halarm <;> simp at halarm

/-- What the code logs in an iteration of a run, in terms of its attempts. -/
theorem firstSent_logged_iff {env : Env} {pre : List Iteration} {it : Iteration} {l l' : Loop}
    (hl : runSender env pre = .ok l) (hit : iterate env l it = .ok l') :
    .firstSent ∈ logged l l' ↔
      ∃ a, attempt? env l it = some a ∧ a.outcome.heading = .accepted
        ∧ streakOf .networkFailure (attempts env pre) = 0
        ∧ streakOf .rejected (attempts env pre) = 0
        ∧ (dueReadings env pre).getLastD 0 = 0 := by
  rw [mem_logged_iterate hit rfl]
  simp only [firstSent_mem_notes, sender_counters hl, runSender_lastDue hl]

/-- **First sent.** The event marks the first 200 and nothing else if and
only if `last_send` tells the first 200 from the others. -/
theorem firstSentOnce_iff (env : Env) (its : List Iteration) :
    FirstSentOnce env its ↔ LastSendTells env its := by
  constructor
  · intro h
    have hlive {l : Loop} {it : Iteration} {a : Attempt} (ha : attempt? env l it = some a)
        (haccepted : a.outcome.heading = .accepted) : ∃ l', iterate env l it = .ok l' := by
      obtain ⟨text, htext⟩ := heading_accepted_iff.mp haccepted
      exact iterate_ok_of_response ha htext
    refine ⟨fun pre it l a hpre hl ha haccepted hfirst => ?_,
      fun pre it l a hpre hl ha haccepted hfail hauth hearlier hzero => ?_⟩
    · obtain ⟨l', hit⟩ := hlive ha haccepted
      have hlogged := (h pre it l l' hpre hl hit).mpr ⟨a, ha, haccepted, hfirst⟩
      obtain ⟨-, -, -, -, -, hzero⟩ := (firstSent_logged_iff hl hit).mp hlogged
      exact hzero
    · obtain ⟨l', hit⟩ := hlive ha haccepted
      have hlogged := (firstSent_logged_iff hl hit).mpr ⟨a, ha, haccepted, hfail, hauth, hzero⟩
      obtain ⟨-, -, -, hfirst⟩ := (h pre it l l' hpre hl hit).mp hlogged
      obtain ⟨b, hb, hOk⟩ := hearlier
      exact ((all_clientError_iff _).mp hfirst).2.2 b hb hOk
  · intro h pre it l l' hpre hl hit
    rw [firstSent_logged_iff hl hit]
    constructor
    · rintro ⟨a, ha, haccepted, hfail, hauth, hzero⟩
      refine ⟨a, ha, haccepted, (all_clientError_iff _).mpr ⟨hfail, hauth, fun b hb hOk => ?_⟩⟩
      exact h.later pre it l a hpre hl ha haccepted hfail hauth ⟨b, hb, hOk⟩ hzero
    · rintro ⟨a, ha, haccepted, hfirst⟩
      obtain ⟨hfail, hauth, -⟩ := (all_clientError_iff _).mp hfirst
      exact ⟨a, ha, haccepted, hfail, hauth, h.first pre it l a hpre hl ha haccepted hfirst⟩

/-- Before the position is known a send is due and held back; the first
200 then goes unmarked. -/
theorem first_200_unmarked :
    let its := [{ benchIteration 100 (.response 200 "") 100 with msg := none },
      benchIteration 101 (.response 200 "") 101]
    ¬ FirstSentOnce benchEnv its := by
  intro its h
  let pre := its.take 1
  let it := benchIteration 101 (.response 200 "") 101
  have hrun : observed benchEnv pre it (fun l l' a =>
      (attempts benchEnv pre, a.outcome.heading, (logged l l').filter LogEvent.ofSend))
      = some ([], .accepted, []) := by decide +kernel
  obtain ⟨l, l', a, hl, hit, ha, hobs⟩ := exists_of_observed hrun
  simp only [Prod.mk.injEq] at hobs
  obtain ⟨hnone, haccepted, hlog⟩ := hobs
  have hmarked := (h pre it l l' List.prefix_rfl hl hit).mpr
    ⟨a, ha, haccepted, by rw [hnone]; simp⟩
  have hmem := List.mem_filter.mpr ⟨hmarked, (rfl : LogEvent.ofSend _ = true)⟩
  rw [hlog] at hmem
  cases hmem

end Specter
