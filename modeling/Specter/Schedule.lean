import Specter.Lib.Streak
import Specter.LastKnown
import Specter.Outcomes

/-!
# When POSTs are attempted

The counters and the backoff deadline are functions of the attempts made
so far (`ledgerOf`), and `last_send` is the reading of the latest one:
once a position is known it stays known, and the gate never moves
`last_send` again. Everything about the schedule follows from these two
facts and the send condition.
-/

namespace Specter

/-! ## The books are a function of the attempts -/

/-- The ledger after some attempts, from the start of the process. -/
def ledgerOf (as : List Attempt) : Ledger :=
  as.foldl (fun ledger a => ledger.after a.answeredAt a.outcome) ⟨0, 0, 0⟩

theorem ledgerOf_append_singleton (as : List Attempt) (a : Attempt) :
    ledgerOf (as ++ [a]) = (ledgerOf as).after a.answeredAt a.outcome := by
  simp [ledgerOf]

theorem runSender_ledger {env : Env} {its : List Iteration} {l : Loop}
    (h : runSender env its = .ok l) : l.sender.ledger = ledgerOf (attempts env its) := by
  refine Run.run_induction (P := fun its l => l.sender.ledger = ledgerOf (attempts env its))
    rfl (fun its l it l' hl ih hit => ?_) h
  rw [attempts_append_singleton it hl]
  cases ha : attempt? env l it with
  | none => simpa [iterate_silent hit ha] using ih
  | some a =>
      rw [Option.toList_some, ledgerOf_append_singleton, (iterate_posted hit ha).2, ih]

/-- The attempts of a heading since the last one that was accepted. -/
def streakOf (heading : OutcomeClass) (as : List Attempt) : Nat :=
  Streak.streak (fun a => a.outcome.heading == .accepted) (fun a => a.outcome.heading == heading) as

theorem after_counters (ledger : Ledger) (time : ℚ) (o : PostOutcome) :
    (ledger.after time o).authFailCount =
        (match o.heading with
        | .accepted => 0
        | .rejected => ledger.authFailCount + 1
        | _ => ledger.authFailCount)
      ∧ (ledger.after time o).failCount =
        (match o.heading with
        | .accepted => 0
        | .networkFailure => ledger.failCount + 1
        | _ => ledger.failCount) := by
  cases o with
  | response status text =>
      by_cases hOk : status = 200
      · simp [Ledger.after, PostOutcome.heading, hOk]
      · by_cases hAuth : status = 401
        · simp [Ledger.after, PostOutcome.heading, hAuth]
        · by_cases hClient : status < 500
          · simp [Ledger.after, PostOutcome.heading, hOk, hAuth, hClient, Int.not_le.mpr hClient]
          · simp [Ledger.after, PostOutcome.heading, hOk, hAuth, hClient, Int.not_lt.mp hClient]
  | transportError e => exact ⟨rfl, rfl⟩
  | valueError => exact ⟨rfl, rfl⟩

theorem ledgerOf_counters (as : List Attempt) :
    (ledgerOf as).authFailCount = streakOf .rejected as
      ∧ (ledgerOf as).failCount = streakOf .networkFailure as := by
  unfold streakOf
  induction as using List.reverseRecOn with
  | nil => exact ⟨rfl, rfl⟩
  | append_singleton as a ih =>
      rw [ledgerOf_append_singleton, (after_counters ..).1, (after_counters ..).2, ih.1, ih.2]
      cases hh : a.outcome.heading with
      | accepted =>
          rw [Streak.streak_append_reset _ (by simp [hh]),
            Streak.streak_append_reset _ (by simp [hh])]
          exact ⟨rfl, rfl⟩
      | _ =>
          rw [Streak.streak_append_keep _ (by simp [hh]),
            Streak.streak_append_keep _ (by simp [hh])]
          simp [hh]

theorem sender_counters {env : Env} {its : List Iteration} {l : Loop}
    (h : runSender env its = .ok l) :
    l.sender.ledger.authFailCount = streakOf .rejected (attempts env its)
      ∧ l.sender.ledger.failCount = streakOf .networkFailure (attempts env its) := by
  rw [runSender_ledger h]
  exact ledgerOf_counters _

theorem heading_rejected_iff {o : PostOutcome} :
    o.heading = .rejected ↔ ∃ text, o = .response 401 text := by
  constructor
  · intro h
    cases o with
    | response status text =>
        simp only [PostOutcome.heading] at h
        split_ifs at h with hOk hAuth
        exact ⟨text, by rw [hAuth]⟩
    | transportError e => cases h
    | valueError => cases h
  · rintro ⟨text, rfl⟩
    rfl

theorem heading_accepted_iff {o : PostOutcome} :
    o.heading = .accepted ↔ ∃ text, o = .response 200 text := by
  constructor
  · intro h
    cases o with
    | response status text =>
        simp only [PostOutcome.heading] at h
        split_ifs at h with hOk
        exact ⟨text, by rw [hOk]⟩
    | transportError e => cases h
    | valueError => cases h
  · rintro ⟨text, rfl⟩
    rfl

/-- After a 401 the deadline is the backoff of the streak it extends. -/
theorem ledgerOf_deadline (as : List Attempt) {a : Attempt}
    (h : a.outcome.heading = .rejected) :
    (ledgerOf (as ++ [a])).nextSendAfter
      = a.answeredAt + backoffSeconds (streakOf .rejected (as ++ [a])) := by
  have hcount := (ledgerOf_counters (as ++ [a])).1
  obtain ⟨text, htext⟩ := heading_rejected_iff.mp h
  rw [ledgerOf_append_singleton, htext] at hcount ⊢
  rw [← hcount]
  rfl

/-! ## `last_send` is the reading of the latest attempt -/

theorem receive_positionKnown (env : Env) {self : Sender} (msg : Option Message)
    (h : PositionKnown self) : PositionKnown (receive env self msg) := by
  cases msg with
  | none => exact h
  | some m =>
      have hwrite := keeps_position env self m
      simp only [Prod.ext_iff] at hwrite
      unfold receive PositionKnown
      rw [hwrite.1, hwrite.2]
      cases hw : fieldWrite env (fun msg => msg.globalPosition?.filter (·.NonNull))
          (fun pos => (some (roundedDegrees pos.lat), some (roundedDegrees pos.lon))) m with
      | none => exact h
      | some pair =>
          unfold fieldWrite at hw
          split at hw
          · obtain ⟨pos, -, rfl⟩ := Option.map_eq_some_iff.mp hw
            exact ⟨by simp, by simp⟩
          · cases hw

/-- Once a POST has been attempted, the position is known and `last_send`
is the reading of the latest attempt. -/
theorem runSender_lastSend {env : Env} {its : List Iteration} {l : Loop}
    (h : runSender env its = .ok l) :
    ∀ a, (attempts env its).getLast? = some a →
      PositionKnown l.sender ∧ l.sender.lastSend = a.now := by
  refine Run.run_induction (P := fun its l => ∀ a, (attempts env its).getLast? = some a →
    PositionKnown l.sender ∧ l.sender.lastSend = a.now) (fun a ha => by cases ha)
    (fun its l it l' hl ih hit a ha => ?_) h
  obtain ⟨hstate, hlast, -⟩ := iterate_spec hit
  have hkeeps (hknown : PositionKnown (receive env l.sender it.msg)) :
      PositionKnown l'.sender := by
    unfold PositionKnown at hknown ⊢
    rwa [hstate]
  rw [attempts_append_singleton it hl] at ha
  cases hb : attempt? env l it with
  | some b =>
      obtain rfl : b = a := by simpa [hb] using ha
      obtain ⟨hdue, hknown, rfl⟩ := mem_attempt? hb
      exact ⟨hkeeps hknown, by rw [hlast, if_pos hdue]⟩
  | none =>
      obtain ⟨hknown, hsame⟩ := ih a (by simpa [hb] using ha)
      have hknown' := receive_positionKnown env it.msg hknown
      -- no POST and a known position: none was due
      have hdue : ¬ Due env (receive env l.sender it.msg) it.now := by
        intro hdue
        rw [attempt?, if_pos ⟨hdue, hknown'⟩] at hb
        cases hb
      exact ⟨hkeeps hknown', by rw [hlast, if_neg hdue, hsame]⟩

/-! ## The send condition, seen from the attempts -/

/-- The next attempt respects the deadline and the distance to the latest
attempt. -/
theorem due_of_attempt {env : Env} {its : List Iteration} {l : Loop} {it : Iteration}
    {b : Attempt} (h : runSender env its = .ok l) (hb : attempt? env l it = some b) :
    (ledgerOf (attempts env its)).nextSendAfter ≤ b.now
      ∧ ∀ a, (attempts env its).getLast? = some a → (env.sendInterval : ℚ) ≤ b.now - a.now := by
  obtain ⟨⟨hinterval, hdeadline⟩, -, rfl⟩ := mem_attempt? hb
  refine ⟨?_, fun a ha => ?_⟩
  · rw [← runSender_ledger h]
    rwa [receive_nextSendAfter] at hdeadline
  · rw [← (runSender_lastSend h a ha).2]
    rwa [receive_lastSend] at hinterval

/-- An iteration past both limits does attempt a POST. -/
theorem attempt_of_due {env : Env} {its : List Iteration} {l : Loop} {it : Iteration}
    {a : Attempt} (h : runSender env its = .ok l) (ha : (attempts env its).getLast? = some a)
    (hinterval : a.now + env.sendInterval ≤ it.now) (hdeadline : l.sender.nextSendAfter ≤ it.now) :
    (attempt? env l it).isSome = true := by
  obtain ⟨hknown, hlast⟩ := runSender_lastSend h a ha
  have hdue : Due env (receive env l.sender it.msg) it.now := by
    unfold Due
    rw [receive_lastSend, receive_nextSendAfter, hlast]
    exact ⟨by linarith, hdeadline⟩
  unfold attempt?
  rw [if_pos ⟨hdue, receive_positionKnown env it.msg hknown⟩]
  rfl

/-- Attempts of a run, the next one included: each respects the deadline
its predecessors leave, and follows the one before it by the interval. -/
theorem attempts_split {env : Env} {its : List Iteration} {l : Loop}
    (h : runSender env its = .ok l) :
    ∀ before b after, attempts env its = before ++ b :: after →
      (ledgerOf before).nextSendAfter ≤ b.now
        ∧ ∀ a, before.getLast? = some a → (env.sendInterval : ℚ) ≤ b.now - a.now := by
  refine Run.run_induction (P := fun its _ => ∀ before b after,
      attempts env its = before ++ b :: after →
        (ledgerOf before).nextSendAfter ≤ b.now
          ∧ ∀ a, before.getLast? = some a → (env.sendInterval : ℚ) ≤ b.now - a.now)
    (fun before b after heq => by simp at heq) (fun its l it l' hl ih _ before b after heq => ?_) h
  rw [attempts_append_singleton it hl] at heq
  cases hc : attempt? env l it with
  | none => exact ih before b after (by simpa [hc] using heq)
  | some c =>
      rw [hc, Option.toList_some] at heq
      rcases List.eq_nil_or_concat after with rfl | ⟨init, z, rfl⟩
      · -- the attempt in question is the one this iteration makes
        obtain ⟨rfl, rfl⟩ : attempts env its = before ∧ c = b := by
          simpa using List.append_inj' heq rfl
        exact due_of_attempt hl hc
      · refine ih before b init ?_
        rw [List.concat_eq_append, ← List.cons_append, ← List.append_assoc] at heq
        exact (List.append_inj' heq rfl).1

/-- With a nonnegative interval, a history whose readings never go back is
below the next attempt. -/
theorem le_next_of_sorted {env : Env} (hinterval : 0 ≤ env.sendInterval)
    {its : List Iteration} {l : Loop} {it : Iteration} {a b : Attempt}
    (hl : runSender env its = .ok l)
    (hsorted : (attempts env its).Pairwise fun a b => a.now ≤ b.now)
    (hb : attempt? env l it = some b) (ha : a ∈ attempts env its) : a.now ≤ b.now := by
  rcases List.eq_nil_or_concat (attempts env its) with hnil | ⟨init, z, hz⟩
  · rw [hnil] at ha; cases ha
  · have hlast : (attempts env its).getLast? = some z := by rw [hz]; simp
    have hgap := (due_of_attempt hl hb).2 z hlast
    have hcast : (0 : ℚ) ≤ env.sendInterval := by exact_mod_cast hinterval
    rw [hz, List.concat_eq_append] at hsorted ha
    rcases List.mem_append.mp ha with hmem | hmem
    · have := (List.pairwise_append.mp hsorted).2.2 a hmem z (by simp)
      linarith
    · rw [List.mem_singleton.mp hmem]
      linarith

theorem attempts_sorted {env : Env} (hinterval : 0 ≤ env.sendInterval) {its : List Iteration}
    {l : Loop} (h : runSender env its = .ok l) :
    (attempts env its).Pairwise fun a b => a.now ≤ b.now := by
  refine Run.run_induction
    (P := fun its _ => (attempts env its).Pairwise fun a b => a.now ≤ b.now)
    List.Pairwise.nil (fun its l it l' hl ih _ => ?_) h
  rw [attempts_append_singleton it hl]
  cases hb : attempt? env l it with
  | none => simpa using ih
  | some b =>
      rw [Option.toList_some, List.pairwise_append]
      refine ⟨ih, List.pairwise_singleton _ _, fun a ha b' hb' => ?_⟩
      obtain rfl := List.mem_singleton.mp hb'
      exact le_next_of_sorted hinterval hl ih hb ha

/-- The backoff of a 401 holds back every later attempt. -/
theorem backoff_holds {env : Env} {its : List Iteration} {l : Loop} {it : Iteration}
    {before between : List Attempt} {a b : Attempt} (hl : runSender env its = .ok l)
    (hb : attempt? env l it = some b) (heq : attempts env its = before ++ a :: between)
    (hrej : a.outcome.heading = .rejected) (hlater : 0 ≤ env.sendInterval ∨ between = []) :
    a.answeredAt + backoffSeconds (streakOf .rejected (before ++ [a])) ≤ b.now := by
  rw [← ledgerOf_deadline before hrej]
  cases between with
  | nil =>
      rw [← heq]
      exact (due_of_attempt hl hb).1
  | cons c rest =>
      have hinterval : 0 ≤ env.sendInterval := hlater.resolve_right (by simp)
      have hc : (ledgerOf (before ++ [a])).nextSendAfter ≤ c.now :=
        (attempts_split hl (before ++ [a]) c rest (by simp [heq])).1
      have hcb : c.now ≤ b.now :=
        le_next_of_sorted hinterval hl (attempts_sorted hinterval hl) hb (by simp [heq])
      exact hc.trans hcb

/-! ## The schedule of a run -/

/-- **Schedule.** In every state a run reaches:

- the counters are the 401s, and the 5xx and caught transport failures,
  since the last 200;
- if the next iteration attempts a POST, its reading is past the backoff
  of every earlier 401 (of the latest attempt, should the configured
  interval be negative), and at least the interval after the latest
  attempt;
- if its reading is past the interval and the deadline, it does attempt
  a POST. -/
theorem send_schedule (env : Env) (its : List Iteration) (l : Loop)
    (h : runSender env its = .ok l) :
    (l.sender.authFailCount = streakOf .rejected (attempts env its)
      ∧ l.sender.failCount = streakOf .networkFailure (attempts env its))
    ∧ ∀ it,
      (∀ b, attempt? env l it = some b →
        (∀ before a between text, attempts env its = before ++ a :: between →
          a.outcome = .response 401 text → 0 ≤ env.sendInterval ∨ between = [] →
          a.answeredAt + (min 60 (2 ^ (streakOf .rejected (before ++ [a]) - 1)) : ℕ) ≤ it.now)
        ∧ ∀ a, (attempts env its).getLast? = some a →
          (env.sendInterval : ℚ) ≤ it.now - a.now)
      ∧ ∀ a, (attempts env its).getLast? = some a → a.now + env.sendInterval ≤ it.now →
          l.sender.nextSendAfter ≤ it.now → (attempt? env l it).isSome = true := by
  refine ⟨?_, fun it => ⟨fun b hb => ?_, fun a ha => attempt_of_due h ha⟩⟩
  · exact sender_counters h
  · have hnow : b.now = it.now := by rw [(mem_attempt? hb).2.2]
    rw [← hnow]
    exact ⟨fun before a between text heq hrej => backoff_holds h hb heq
      (heading_rejected_iff.mpr ⟨text, hrej⟩), (due_of_attempt h hb).2⟩

/-- A 401 and a 200 on the bench: the second attempt comes once the
backoff of one second is over. -/
theorem bench_send_schedule :
    let its := [benchIteration 100 (.response 401 "") 101,
      benchIteration 101 (.response 200 "") 101, benchIteration 102 (.response 200 "") 102]
    ∃ l, runSender benchEnv its = .ok l
      ∧ l.sender.authFailCount = streakOf .rejected (attempts benchEnv its)
      ∧ (attempts benchEnv its).map (·.now) = [100, 102] := by
  obtain ⟨l, hl⟩ : ∃ l, runSender benchEnv [benchIteration 100 (.response 401 "") 101,
      benchIteration 101 (.response 200 "") 101, benchIteration 102 (.response 200 "") 102] =
        .ok l :=
    run_ok_iff.mpr (by decide +kernel)
  exact ⟨l, hl, (send_schedule benchEnv _ l hl).1.1, by decide +kernel⟩

/-- `SEND_INTERVAL` may be configured to be negative. A 401 is answered at
101, so its backoff ends at 102; a 200 at 102 drops the deadline; and
with the clock stepped back to 95 the next POST is within the backoff. -/
theorem negative_interval_cuts_backoff :
    let env := { benchEnv with sendInterval := -10 }
    let its := [benchIteration 100 (.response 401 "") 101,
      benchIteration 102 (.response 200 "") 102]
    let it := benchIteration 95 (.response 200 "") 95
    ∃ l, runSender env its = .ok l ∧ (attempt? env l it).isSome = true
      ∧ ∃ a between, attempts env its = a :: between ∧ a.outcome = .response 401 ""
        ∧ it.now < a.answeredAt + (min 60 (2 ^ (streakOf .rejected [a] - 1)) : ℕ) := by
  intro env its it
  obtain ⟨l, hl⟩ : ∃ l, runSender env its = .ok l := run_ok_iff.mpr (by decide +kernel)
  have hattempt : (runSender env its).toOption.map (fun l => (attempt? env l it).isSome) =
      some true := by decide +kernel
  rw [hl] at hattempt
  have hattempt := Option.some.inj hattempt
  have hmade : (attempts env its).map (fun a => (a.outcome, a.answeredAt)) =
      [(.response 401 "", 101), (.response 200 "", 102)] := by decide +kernel
  obtain ⟨a, between, has⟩ := List.exists_cons_of_ne_nil (l := attempts env its)
    (fun hnil => by rw [hnil] at hmade; cases hmade)
  rw [has, List.map_cons, List.cons.injEq, Prod.mk.injEq] at hmade
  obtain ⟨⟨houtcome, hanswered⟩, -⟩ := hmade
  have hfirst : streakOf .rejected [a] = 1 := by
    rw [streakOf, ← List.nil_append [a], Streak.streak_append_keep _ (by rw [houtcome]; rfl),
      Streak.streak_nil, houtcome]
    rfl
  refine ⟨l, hl, hattempt, a, between, has, houtcome, ?_⟩
  rw [hfirst, hanswered]
  norm_num [it, benchIteration]

end Specter
