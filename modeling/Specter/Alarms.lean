import Specter.SenderLog

/-!
# Alarms and restorations

Two things the cloud log is read for. The alarm is meant to come once in
an outage, at its 30th network failure; `send` tests the counter after
every outcome, so it comes again at any other answer that finds the
counter at 30 (`alarmOncePerOutage_iff`). And a 200 is meant to report
the streaks it ends; the `elif` chain reports one of them, the network
one when both have failures (`reportsStreaks_iff`).
-/

namespace Specter

/-! ## Events of one POST -/

theorem count_cloudLost_notes (ledger : Ledger) (lastSend : ℚ) (a : Attempt) :
    (ledger.notes lastSend a).count .cloudLost =
      if (ledger.after a.answeredAt a.outcome).failCount = 30 then 1 else 0 := by
  have houtcome : (ledger.outcomeNotes lastSend a.outcome).count .cloudLost = 0 := by
    cases a.outcome with
    | response status text => simp only [Ledger.outcomeNotes]; split_ifs <;> simp
    | transportError e => simp [Ledger.outcomeNotes]
    | valueError => simp [Ledger.outcomeNotes]
  rw [Ledger.notes, List.count_append, houtcome]
  split_ifs <;> simp

/-- The alarm is raised by the counter that the POST leaves. -/
theorem cloudLost_mem_notes {ledger : Ledger} {lastSend : ℚ} {a : Attempt} :
    .cloudLost ∈ ledger.notes lastSend a ↔
      (ledger.after a.answeredAt a.outcome).failCount = 30 := by
  rw [← List.count_pos_iff, count_cloudLost_notes]
  split_ifs with h <;> simp [h]

/-- The `elif` chain of a 200: the network streak comes first. -/
theorem restored_mem_notes {ledger : Ledger} {lastSend : ℚ} {a : Attempt}
    (h : a.outcome.heading = .accepted) (n : Nat) :
    (.cloudRestored n ∈ ledger.notes lastSend a ↔ n = ledger.failCount ∧ 0 < n)
      ∧ (.authRestored n ∈ ledger.notes lastSend a ↔
          ledger.failCount = 0 ∧ n = ledger.authFailCount ∧ 0 < n) := by
  rw [mem_notes_accepted h, mem_notes_accepted h]
  by_cases hfirst : ledger.failCount = 0 ∧ ledger.authFailCount = 0 ∧ lastSend = 0
  · simp only [hfirst, and_self, if_true, reduceCtorEq, false_iff, not_and]
    omega
  · rw [if_neg hfirst, if_neg hfirst]
    by_cases hfail : 0 < ledger.failCount
    · simp only [hfail, if_true, reduceCtorEq, false_iff, LogEvent.cloudRestored.injEq]
      omega
    · by_cases hauth : 0 < ledger.authFailCount
      · simp only [hfail, hauth, if_true, if_false, reduceCtorEq, false_iff,
          LogEvent.authRestored.injEq]
        omega
      · simp only [hfail, hauth, if_false, false_iff]
        omega

/-! ## The alarm -/

/-- In an outage, which is a stretch of a run without a 200, the alarm is
raised at most once, and only by the 30th network failure. -/
structure AlarmOncePerOutage (env : Env) (its : List Iteration) : Prop where
  atThirtieth : ∀ pre it l l', pre ++ [it] <+: its → runSender env pre = .ok l →
    iterate env l it = .ok l' → .cloudLost ∈ logged l l' →
      ∃ a, attempt? env l it = some a ∧ a.outcome.heading = .networkFailure
        ∧ streakOf .networkFailure (attempts env (pre ++ [it])) = 30
  once : ∀ pre seg l l', pre ++ seg <+: its → runSender env pre = .ok l →
    Run.run (iterate env) l seg = .ok l' →
      (∀ a ∈ attemptsFrom env l seg, a.outcome.heading ≠ .accepted) →
        (logged l l').count .cloudLost ≤ 1

/-- No answer other than a 200 or a server error finds the counter at 30. -/
def ThirtiethIsLast (env : Env) (its : List Iteration) : Prop :=
  ∀ before a after status text, attempts env its = before ++ a :: after →
    a.outcome = .response status text → streakOf .networkFailure before = 30 →
      status = 200 ∨ 500 ≤ status

/-- An answer that is neither a 200 nor a server error leaves the counter
where it is. -/
theorem after_failCount_of_refused {status : Int} (h : ¬ (status = 200 ∨ 500 ≤ status))
    (text : String) (ledger : Ledger) (time : ℚ) :
    (PostOutcome.response status text).heading ≠ .accepted
      ∧ (PostOutcome.response status text).heading ≠ .networkFailure
      ∧ (ledger.after time (.response status text)).failCount = ledger.failCount := by
  obtain ⟨hOk, hserver⟩ := not_or.mp h
  rw [(after_counters ledger time _).2]
  simp only [PostOutcome.heading, hOk, hserver, if_false]
  by_cases hAuth : status = 401 <;> simp [hAuth]

theorem networkFailure_or_refused {o : PostOutcome} (hhandled : o.Handled)
    (haccepted : o.heading ≠ .accepted) :
    o.heading = .networkFailure ∨
      ∃ status text, o = .response status text ∧ ¬ (status = 200 ∨ 500 ≤ status) := by
  cases o with
  | response status text =>
      by_cases hstatus : status = 200 ∨ 500 ≤ status
      · rcases hstatus with rfl | hserver
        · exact absurd rfl haccepted
        · left
          rw [PostOutcome.heading, if_neg (by omega), if_neg (by omega), if_pos hserver]
      · exact Or.inr ⟨status, text, rfl, hstatus⟩
  | transportError e => exact Or.inl rfl
  | valueError => exact hhandled.elim

/-- **Step.** A POST that is not accepted is one more failure, or leaves
the counter where it is, which is not at 30. -/
theorem ThirtiethIsLast.step {env : Env} {its pre : List Iteration} {it : Iteration}
    {l l' : Loop} {a : Attempt} (h : ThirtiethIsLast env its) (hpre : pre ++ [it] <+: its)
    (hl : runSender env pre = .ok l) (hit : iterate env l it = .ok l')
    (ha : attempt? env l it = some a) (haccepted : a.outcome.heading ≠ .accepted) :
    a.outcome.heading = .networkFailure
        ∧ l'.sender.ledger.failCount = l.sender.ledger.failCount + 1
      ∨ l.sender.ledger.failCount ≠ 30
        ∧ l'.sender.ledger.failCount = l.sender.ledger.failCount := by
  obtain ⟨hhandled, hledger⟩ := iterate_posted hit ha
  rw [hledger]
  rcases networkFailure_or_refused hhandled haccepted with hfail | ⟨status, text, htext, hstatus⟩
  · rw [(after_counters ..).2, hfail]
    exact Or.inl ⟨rfl, rfl⟩
  · rw [htext]
    obtain ⟨after, hsplit⟩ := attempts_split_iff.mpr ⟨pre, it, l, hpre, hl, rfl, ha⟩
    have hat : streakOf .networkFailure (attempts env pre) ≠ 30 := fun hat =>
      hstatus (h _ a after status text hsplit htext hat)
    exact Or.inr ⟨by rwa [(sender_counters hl).2],
      (after_failCount_of_refused hstatus text _ _).2.2⟩

/-- From `l` to `l'` the counter has not fallen, and the alarm was raised
if it got to 30 on the way. -/
def RaisedInPassing (l l' : Loop) : Prop :=
  l.sender.ledger.failCount ≤ l'.sender.ledger.failCount ∧
    ∃ notes, Logged l.sender l'.sender notes ∧ notes.count .cloudLost =
      if l.sender.ledger.failCount < 30 ∧ 30 ≤ l'.sender.ledger.failCount then 1 else 0

theorem RaisedInPassing.refl (l : Loop) : RaisedInPassing l l := by
  refine ⟨le_rfl, [], .refl _, ?_⟩
  rw [if_neg (by omega)]
  rfl

theorem RaisedInPassing.count_le {l l' : Loop} (h : RaisedInPassing l l') :
    (logged l l').count .cloudLost ≤ 1 := by
  obtain ⟨-, notes, hnotes, hcount⟩ := h
  rw [hnotes.count_logged rfl, hcount]
  split_ifs <;> omega

/-- **Run.** So it is in a stretch without a 200. -/
theorem ThirtiethIsLast.stretch {env : Env} {its pre : List Iteration} {l : Loop}
    (h : ThirtiethIsLast env its) (hl : runSender env pre = .ok l) :
    ∀ {seg l'}, Run.run (iterate env) l seg = .ok l' → pre ++ seg <+: its →
      (∀ a ∈ attemptsFrom env l seg, a.outcome.heading ≠ .accepted) → RaisedInPassing l l' := by
  refine fun hseg => Run.run_induction (P := fun seg l' => pre ++ seg <+: its →
      (∀ a ∈ attemptsFrom env l seg, a.outcome.heading ≠ .accepted) → RaisedInPassing l l')
    (fun _ _ => .refl l) (fun seg m it m' hm ih hit hpre hseg => ?_) hseg
  rw [attemptsFrom_append _ hm] at hseg
  rw [← List.append_assoc] at hpre
  obtain ⟨hle, notes, hnotes, hcount⟩ := ih ((List.prefix_append _ _).trans hpre)
    fun a ha => hseg a (List.mem_append_left _ ha)
  have hpost := iterate_logged hit
  cases ha : attempt? env m it with
  | none =>
      rw [ha] at hpost
      rw [RaisedInPassing, iterate_silent hit ha]
      exact ⟨hle, notes, by simpa using hnotes.trans hpost, hcount⟩
  | some a =>
      have hrun : runSender env (pre ++ seg) = .ok m := (Run.run_append_of_ok hl).trans hm
      have hmem : a ∈ attemptsFrom env m [it] := by simp [attemptsFrom, ha]
      have hstep := h.step hpre hrun hit ha (hseg a (List.mem_append_right _ hmem))
      rw [ha] at hpost
      refine ⟨by omega, _, hnotes.trans hpost, ?_⟩
      -- the counter gets to 30 before this POST, with it, or not yet
      rw [List.count_append, hcount, count_cloudLost_notes, ← (iterate_posted hit ha).2]
      split_ifs <;> omega

/-- **Alarm.** The alarm comes once in an outage, at its 30th failure, if
and only if every answer met with the counter at 30 is a 200 or one more
failure. -/
theorem alarmOncePerOutage_iff (env : Env) (its : List Iteration) :
    AlarmOncePerOutage env its ↔ ThirtiethIsLast env its := by
  constructor
  · intro h before a after status text hsplit htext hat
    obtain ⟨pre, it, l, hpre, hl, rfl, ha⟩ := attempts_split_iff.mp ⟨after, hsplit⟩
    by_contra hstatus
    obtain ⟨l', hit⟩ := iterate_ok_of_response ha htext
    have hrefused := after_failCount_of_refused hstatus text l.sender.ledger a.answeredAt
    have halarm : .cloudLost ∈ logged l l' := by
      refine (mem_logged_iterate hit rfl).mpr ⟨a, ha, cloudLost_mem_notes.mpr ?_⟩
      rw [htext, hrefused.2.2, (sender_counters hl).2, hat]
    obtain ⟨b, hb, hfail, -⟩ := h.atThirtieth pre it l l' hpre hl hit halarm
    obtain rfl := Option.some.inj (ha.symm.trans hb)
    rw [htext] at hfail
    exact hrefused.2.1 hfail
  · intro h
    refine ⟨fun pre it l l' hpre hl hit halarm => ?_,
      fun pre seg l l' hpre hl hseg haccepted => ?_⟩
    · obtain ⟨a, ha, hnote⟩ := (mem_logged_iterate hit rfl).mp halarm
      have hat := cloudLost_mem_notes.mp hnote
      have haccepted : a.outcome.heading ≠ .accepted := by
        intro haccepted
        rw [(after_counters ..).2, haccepted] at hat
        cases hat
      rw [← (iterate_posted hit ha).2] at hat
      rcases h.step hpre hl hit ha haccepted with ⟨hfail, -⟩ | ⟨hoff, hkeep⟩
      · refine ⟨a, ha, hfail, ?_⟩
        have hl' : runSender env (pre ++ [it]) = .ok l' :=
          (Run.run_append_singleton hl).trans hit
        rw [← (sender_counters hl').2, hat]
      · exact absurd (hkeep ▸ hat) hoff
    · exact (h.stretch hl hseg hpre haccepted).count_le

/-- Thirty server errors, and then the key is refused as well: the alarm
is raised by the 401, and for the second time. -/
theorem alarm_raised_by_401 :
    let its := (List.range 31).map fun k => benchIteration (100 + k)
      (.response (if k < 30 then 503 else 401) "") (100 + k)
    ¬ AlarmOncePerOutage benchEnv its := by
  intro its h
  have hrun : (runSender benchEnv its).toOption.map
      (fun l' => (logged (Loop.init benchEnv) l').count .cloudLost) = some 2 := by decide +kernel
  have hrefused : ∀ a ∈ attempts benchEnv its, a.outcome.heading ≠ .accepted := by
    decide +kernel
  cases hl : runSender benchEnv its with
  | error e => rw [hl] at hrun; cases hrun
  | ok l' =>
      rw [hl] at hrun
      have htwice : (logged (Loop.init benchEnv) l').count .cloudLost = 2 := Option.some.inj hrun
      have honce := h.once [] its _ l' List.prefix_rfl rfl hl hrefused
      omega

/-! ## Restorations -/

/-- A 200 reports the streaks it ends, each with its count, and no streak
that is empty. -/
def ReportsStreaks (env : Env) (its : List Iteration) : Prop :=
  ∀ pre it l l' a, pre ++ [it] <+: its → runSender env pre = .ok l →
    iterate env l it = .ok l' → attempt? env l it = some a →
    a.outcome.heading = .accepted →
      (∀ n, .cloudRestored n ∈ logged l l' ↔ n = l.sender.failCount ∧ 0 < n)
      ∧ (∀ n, .authRestored n ∈ logged l l' ↔ n = l.sender.authFailCount ∧ 0 < n)
      ∧ l'.sender.failCount = 0 ∧ l'.sender.authFailCount = 0

/-- No 200 ends a streak of both kinds. -/
def OneKindPerStreak (env : Env) (its : List Iteration) : Prop :=
  ∀ before a after, attempts env its = before ++ a :: after →
    a.outcome.heading = .accepted →
      streakOf .networkFailure before = 0 ∨ streakOf .rejected before = 0

/-- **Restorations.** Every 200 of a run reports all it ends if and only
if none ends network failures and rejections together. -/
theorem reportsStreaks_iff (env : Env) (its : List Iteration) :
    ReportsStreaks env its ↔ OneKindPerStreak env its := by
  constructor
  · intro h before a after hsplit haccepted
    obtain ⟨pre, it, l, hpre, hl, rfl, ha⟩ := attempts_split_iff.mp ⟨after, hsplit⟩
    obtain ⟨text, htext⟩ := heading_accepted_iff.mp haccepted
    obtain ⟨l', hit⟩ := iterate_ok_of_response ha htext
    obtain ⟨-, hauth, -⟩ := h pre it l l' a hpre hl hit ha haccepted
    rw [← (sender_counters hl).1, ← (sender_counters hl).2]
    rcases Nat.eq_zero_or_pos l.sender.ledger.authFailCount with hzero | hpos
    · exact Or.inr hzero
    · -- the rejections are reported, which takes an empty network streak
      left
      have hlogged := (hauth l.sender.authFailCount).mpr ⟨rfl, hpos⟩
      obtain ⟨b, hb, hnote⟩ := (mem_logged_iterate hit rfl).mp hlogged
      obtain rfl := Option.some.inj (ha.symm.trans hb)
      exact ((restored_mem_notes haccepted _).2.mp hnote).1
  · intro h pre it l l' a hpre hl hit ha haccepted
    obtain ⟨after, hsplit⟩ := attempts_split_iff.mpr ⟨pre, it, l, hpre, hl, rfl, ha⟩
    have hkind := h _ a after hsplit haccepted
    rw [← (sender_counters hl).1, ← (sender_counters hl).2] at hkind
    have hnotes (e : LogEvent) (he : e.ofSend = true) :
        e ∈ logged l l' ↔ e ∈ l.sender.ledger.notes l.sender.lastSend a := by
      rw [mem_logged_iterate hit he, ha]
      simp
    refine ⟨fun n => ?_, fun n => ?_, ?_⟩
    · rw [hnotes _ rfl]
      exact (restored_mem_notes haccepted n).1
    · rw [hnotes _ rfl, (restored_mem_notes haccepted n).2]
      refine ⟨fun hn => hn.2, fun hn => ⟨hkind.resolve_right ?_, hn⟩⟩
      rw [← show n = l.sender.ledger.authFailCount from hn.1]
      omega
    · obtain ⟨text, htext⟩ := heading_accepted_iff.mp haccepted
      have hledger := (iterate_posted hit ha).2
      rw [htext] at hledger
      exact ⟨congrArg Ledger.failCount hledger, congrArg Ledger.authFailCount hledger⟩

/-- A server error, a rejected key and then a 200, which says nothing of
the rejection. -/
theorem rejection_unreported :
    let its := [benchIteration 100 (.response 500 "") 100,
      benchIteration 101 (.response 401 "") 101, benchIteration 102 (.response 200 "") 102]
    ¬ ReportsStreaks benchEnv its := by
  intro its h
  let pre := its.take 2
  let it := benchIteration 102 (.response 200 "") 102
  have hrun : observed benchEnv pre it (fun l l' a =>
      (l.sender.authFailCount, a.outcome.heading, (logged l l').filter LogEvent.ofSend))
      = some (1, .accepted, [.cloudRestored 1]) := by decide +kernel
  obtain ⟨l, l', a, hl, hit, ha, hobs⟩ := exists_of_observed hrun
  simp only [Prod.mk.injEq] at hobs
  obtain ⟨hauth, haccepted, hlog⟩ := hobs
  have hreported := ((h pre it l l' a List.prefix_rfl hl hit ha haccepted).2.1 1).mpr
    ⟨hauth.symm, Nat.one_pos⟩
  have hmem := List.mem_filter.mpr ⟨hreported, (rfl : LogEvent.ofSend _ = true)⟩
  rw [hlog] at hmem
  cases List.mem_singleton.mp hmem

end Specter
