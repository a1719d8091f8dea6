import Specter.Schedule

/-!
# The schedule and a clock that is stepped

`last_send` and `next_send_after` are readings of `time.time()`, and are
compared with later ones. On a board whose clock is set while the
process runs, readings and elapsed time part ways, and the interval and
the backoff cap hold of the readings only. Here both time lines are
explicit: the elapsed instants of an iteration, which the code cannot
see, and the readings it does see. The instant of an attempt is that of
the reading it is decided on.
-/

namespace Specter

/-- An iteration with the elapsed time at which it begins, takes its two
readings and ends. -/
structure Timed where
  it : Iteration
  began : ℚ
  nowRead : ℚ
  answerRead : ℚ
  ended : ℚ

/-- Elapsed time never decreases, and a reading is a time since the epoch. -/
structure WellTimed (ts : List Timed) : Prop where
  within : ∀ t ∈ ts, t.began ≤ t.nowRead ∧ t.nowRead ≤ t.answerRead ∧ t.answerRead ≤ t.ended
  between : ts.Pairwise fun s t => s.ended ≤ t.began
  sinceEpoch : ∀ t ∈ ts, 0 ≤ t.it.now

def iterations (ts : List Timed) : List Iteration := ts.map (·.it)

/-- The POSTs attempted from `l` on, with the iterations that made them. -/
def postsFrom (env : Env) : Loop → List Timed → List (Timed × Attempt)
  | _, [] => []
  | l, t :: ts =>
    ((attempt? env l t.it).map (t, ·)).toList ++
      match iterate env l t.it with
      | .ok l' => postsFrom env l' ts
      | .error _ => []

def posts (env : Env) (ts : List Timed) : List (Timed × Attempt) :=
  postsFrom env (Loop.init env) ts

theorem postsFrom_attempts (env : Env) (l : Loop) (ts : List Timed) :
    (postsFrom env l ts).map (·.2) = attemptsFrom env l (iterations ts) := by
  induction ts generalizing l with
  | nil => rfl
  | cons t ts ih =>
      simp only [postsFrom, iterations, List.map_cons, attemptsFrom, List.map_append]
      congr 1
      · cases attempt? env l t.it <;> rfl
      · cases iterate env l t.it with
        | ok l' => exact ih l'
        | error e => rfl

theorem mem_postsFrom {env : Env} {l : Loop} {ts : List Timed} {p : Timed × Attempt}
    (h : p ∈ postsFrom env l ts) :
    p.1 ∈ ts ∧ p.2.now = p.1.it.now ∧ p.2.answeredAt = p.1.it.answeredAt := by
  induction ts generalizing l with
  | nil => cases h
  | cons t ts ih =>
      rw [postsFrom, List.mem_append] at h
      rcases h with h | h
      · obtain ⟨a, ha, rfl⟩ := Option.map_eq_some_iff.mp (Option.mem_toList.mp h)
        rw [(mem_attempt? ha).2.2]
        exact ⟨List.mem_cons_self .., rfl, rfl⟩
      · cases hit : iterate env l t.it with
        | ok l' =>
            rw [hit] at h
            obtain ⟨hmem, hread⟩ := ih h
            exact ⟨List.mem_cons_of_mem _ hmem, hread⟩
        | error e => rw [hit] at h; cases h

/-- The schedule in elapsed time: successive attempts are at least the
interval apart, and an iteration that begins late enough after the end of
the latest attempt makes one. -/
def ElapsedSchedule (env : Env) (ts : List Timed) : Prop :=
  ∀ before t after l, ts = before ++ t :: after →
    runSender env (iterations before) = .ok l →
    ∀ s a, (posts env before).getLast? = some (s, a) →
      ((attempt? env l t.it).isSome = true → (env.sendInterval : ℚ) ≤ t.nowRead - s.nowRead)
      ∧ (s.ended + max (env.sendInterval : ℚ) authBackoffCapSeconds ≤ t.began →
          (attempt? env l t.it).isSome = true)

/-- The clock neither shows an interval that has not elapsed nor hides
that the interval and the backoff cap have. -/
structure ClockFaithful (env : Env) (ts : List Timed) : Prop where
  noRush : ts.Pairwise fun s t =>
    (env.sendInterval : ℚ) ≤ t.it.now - s.it.now → (env.sendInterval : ℚ) ≤ t.nowRead - s.nowRead
  noLag : ts.Pairwise fun s t =>
    s.ended + max (env.sendInterval : ℚ) authBackoffCapSeconds ≤ t.began →
      max (env.sendInterval : ℚ) authBackoffCapSeconds ≤ t.it.now - s.it.now
        ∧ (authBackoffCapSeconds : ℚ) ≤ t.it.now - s.it.answeredAt

/-- A clock that is never stepped: readings are elapsed time plus a
constant. -/
def Unstepped (ts : List Timed) : Prop :=
  ∃ offset, ∀ t ∈ ts, t.it.now = t.nowRead + offset ∧ t.it.answeredAt = t.answerRead + offset

theorem clockFaithful_of_unstepped (env : Env) {ts : List Timed} (hw : WellTimed ts)
    (h : Unstepped ts) : ClockFaithful env ts := by
  obtain ⟨offset, hoffset⟩ := h
  constructor
  · refine List.Pairwise.imp_of_mem (fun hs ht _ hle => ?_) hw.between
    rw [(hoffset _ hs).1, (hoffset _ ht).1] at hle
    linarith
  · refine List.Pairwise.imp_of_mem (fun {s t} hs ht _ hle => ?_) hw.between
    obtain ⟨hsn, hsa, hse⟩ := hw.within s hs
    obtain ⟨htn, -, -⟩ := hw.within t ht
    have hmax := le_max_right (env.sendInterval : ℚ) (authBackoffCapSeconds : ℚ)
    rw [(hoffset _ hs).1, (hoffset _ ht).1, (hoffset _ hs).2]
    constructor <;> linarith

/-- A deadline is in the past once the clock has passed the epoch, the
old deadline and the cap after the answer. -/
theorem after_deadline_le {ledger : Ledger} {time now : ℚ} (o : PostOutcome)
    (hnow : 0 ≤ now) (hold : ledger.nextSendAfter ≤ now)
    (hcap : time + authBackoffCapSeconds ≤ now) : (ledger.after time o).nextSendAfter ≤ now := by
  have hbackoff (k : Nat) : ((backoffSeconds k : Nat) : ℚ) ≤ authBackoffCapSeconds := by
    exact_mod_cast Nat.min_le_left _ _
  cases o with
  | response status text =>
      simp only [Ledger.after]
      split_ifs
      · exact hnow
      · have := hbackoff (ledger.authFailCount + 1)
        dsimp only
        linarith
      · exact hold
      · exact hold
  | transportError e => exact hold
  | valueError => exact hold

theorem posts_attempts (env : Env) (ts : List Timed) :
    (posts env ts).map (·.2) = attempts env (iterations ts) :=
  postsFrom_attempts env (Loop.init env) ts

/-- **Elapsed time.** In a run whose clock is faithful the schedule is one
of elapsed time. -/
theorem elapsedSchedule_of_clockFaithful (env : Env) (ts : List Timed) (hw : WellTimed ts)
    (hf : ClockFaithful env ts) : ElapsedSchedule env ts := by
  rintro before t after l rfl hl s a hlast
  have hmem : (s, a) ∈ posts env before := List.mem_of_getLast? hlast
  obtain ⟨hs, hnow, hanswered⟩ := mem_postsFrom hmem
  have ht : t ∈ t :: after := List.mem_cons_self ..
  have hrush := (List.pairwise_append.mp hf.noRush).2.2 s hs t ht
  have hlag := (List.pairwise_append.mp hf.noLag).2.2 s hs t ht
  obtain ⟨init, hinit⟩ : ∃ init, attempts env (iterations before) = init ++ [a] := by
    obtain ⟨init, hposts⟩ := List.getLast?_eq_some_iff.mp hlast
    exact ⟨init.map (·.2), by rw [← posts_attempts, hposts]; simp⟩
  have halast : (attempts env (iterations before)).getLast? = some a := by rw [hinit]; simp
  constructor
  · intro hattempt
    obtain ⟨b, hb⟩ := Option.isSome_iff_exists.mp hattempt
    have hgap := (due_of_attempt hl hb).2 a halast
    rw [(mem_attempt? hb).2.2, hnow] at hgap
    exact hrush hgap
  · intro hlate
    obtain ⟨hinterval, hcap⟩ := hlag hlate
    have hself := le_max_left (env.sendInterval : ℚ) (authBackoffCapSeconds : ℚ)
    have hsixty := le_max_right (env.sendInterval : ℚ) (authBackoffCapSeconds : ℚ)
    have hpos : (0 : ℚ) ≤ authBackoffCapSeconds := by positivity
    refine attempt_of_due hl halast (by rw [hnow]; linarith) ?_
    have hledger : l.sender.nextSendAfter = (ledgerOf (init ++ [a])).nextSendAfter := by
      rw [← hinit, ← runSender_ledger hl]; rfl
    rw [hledger, ledgerOf_append_singleton]
    refine after_deadline_le a.outcome (hw.sinceEpoch t (by simp)) ?_ (by rw [hanswered]; linarith)
    have hold := (attempts_split hl init a [] hinit).1
    rw [hnow] at hold
    linarith

/-! ## Steps on the bench -/

/-- A bench iteration that begins at the elapsed time `elapsed`, takes no
time and reads `now`. -/
def benchTimed (elapsed now : ℚ) : Timed where
  it := benchIteration now (.response 200 "") now
  began := elapsed
  nowRead := elapsed
  answerRead := elapsed
  ended := elapsed

theorem wellTimed_benchTimed {e e' now now' : ℚ} (he : e ≤ e') (hnow : 0 ≤ now)
    (hnow' : 0 ≤ now') : WellTimed [benchTimed e now, benchTimed e' now'] where
  within := by simp [benchTimed]
  between := by simpa [benchTimed] using he
  sinceEpoch := by simpa [benchTimed, benchIteration] using ⟨hnow, hnow'⟩

/-- One second after the first POST, on a clock that runs evenly. -/
theorem bench_elapsedSchedule :
    ElapsedSchedule benchEnv [benchTimed 0 100, benchTimed 1 101] := by
  have hw : WellTimed [benchTimed 0 100, benchTimed 1 101] :=
    wellTimed_benchTimed (by norm_num) (by norm_num) (by norm_num)
  refine elapsedSchedule_of_clockFaithful benchEnv _ hw
    (clockFaithful_of_unstepped benchEnv hw ⟨100, ?_⟩)
  simp [benchTimed, benchIteration]
  norm_num

theorem posts_singleton {env : Env} {t : Timed} {a : Attempt}
    (h : attempt? env (Loop.init env) t.it = some a) : posts env [t] = [(t, a)] := by
  unfold posts postsFrom
  rw [h]
  cases iterate env (Loop.init env) t.it <;> rfl

/-- The clock is stepped forward by an hour a quarter of a second after a
POST, and another POST follows at once; or it is stepped back by more
than an hour, and a thousand seconds later nothing is sent. -/
theorem clock_steps_break_schedule :
    (WellTimed [benchTimed 0 100, benchTimed (1 / 4) 3700]
      ∧ ¬ ElapsedSchedule benchEnv [benchTimed 0 100, benchTimed (1 / 4) 3700])
    ∧ (WellTimed [benchTimed 0 5000, benchTimed 1000 1400]
      ∧ ¬ ElapsedSchedule benchEnv [benchTimed 0 5000, benchTimed 1000 1400]) := by
  have hfirst (now : ℚ) (h : (attempt? benchEnv (Loop.init benchEnv)
      (benchTimed 0 now).it).isSome = true) :
      ∃ a, (posts benchEnv [benchTimed 0 now]).getLast? = some (benchTimed 0 now, a) := by
    obtain ⟨a, ha⟩ := Option.isSome_iff_exists.mp h
    exact ⟨a, by rw [posts_singleton ha]; rfl⟩
  constructor
  · refine ⟨wellTimed_benchTimed (by norm_num) (by norm_num) (by norm_num), fun h => ?_⟩
    obtain ⟨a, ha⟩ := hfirst 100 (by decide +kernel)
    have hattempt : (match runSender benchEnv (iterations [benchTimed 0 100]) with
        | .ok l => (attempt? benchEnv l (benchTimed (1 / 4) 3700).it).isSome
        | .error _ => false) = true := by decide +kernel
    cases hl : runSender benchEnv (iterations [benchTimed 0 100]) with
    | error e => rw [hl] at hattempt; cases hattempt
    | ok l =>
        rw [hl] at hattempt
        have hgap := (h [_] _ [] l rfl hl _ a ha).1 hattempt
        norm_num [benchTimed, benchEnv] at hgap
  · refine ⟨wellTimed_benchTimed (by norm_num) (by norm_num) (by norm_num), fun h => ?_⟩
    obtain ⟨a, ha⟩ := hfirst 5000 (by decide +kernel)
    have hsilent : (match runSender benchEnv (iterations [benchTimed 0 5000]) with
        | .ok l => (attempt? benchEnv l (benchTimed 1000 1400).it).isNone
        | .error _ => false) = true := by decide +kernel
    cases hl : runSender benchEnv (iterations [benchTimed 0 5000]) with
    | error e => rw [hl] at hsilent; cases hsilent
    | ok l =>
        rw [hl] at hsilent
        have hsend := (h [_] _ [] l rfl hl _ a ha).2
          (by norm_num [benchTimed, benchEnv, authBackoffCapSeconds])
        rw [Option.isNone_iff_eq_none.mp hsilent] at hsend
        cases hsend

end Specter
