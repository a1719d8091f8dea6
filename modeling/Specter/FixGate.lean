import Specter.Outcomes
import Specter.Position

/-!
# Positions before the first fix

The gate of `run` looks at the stored position only, and the fix type of
GPS_RAW_INT is stored for the payload alone. So the position stays
absent until the first fix exactly in those runs in which the flight
controller itself holds positions back until then
(`noneUntilFix_iff`).
-/

namespace Specter

/-- A GPS_RAW_INT of the connected system reports a 3D fix, by the
threshold of the log message. -/
def FixReported (env : Env) (msgs : List Message) : Prop :=
  ∃ msg ∈ msgs, msg.srcSystem = env.targetSystem ∧ ∃ gps, msg.body = .gpsRawInt gps
    ∧ 3 ≤ gps.fixType

/-- As long as no fix has been reported, the position is absent and nothing is posted. -/
def NoneUntilFix (env : Env) (its : List Iteration) : Prop :=
  ∀ pre, pre <+: its → ¬ FixReported env (received pre) →
    (∀ l, runSender env pre = .ok l → l.sender.state.lat = none ∧ l.sender.state.lon = none)
      ∧ attempts env pre = []

/-- Every usable position of the connected system comes after a reported fix. -/
def PositionsFollowFix (env : Env) (msgs : List Message) : Prop :=
  ∀ before msg after pos, msgs = before ++ msg :: after → IsFix env msg pos →
    FixReported env before

theorem FixReported.mono {env : Env} {msgs msgs' : List Message} (hsub : msgs ⊆ msgs')
    (h : FixReported env msgs) : FixReported env msgs' := by
  obtain ⟨msg, hmem, hfix⟩ := h
  exact ⟨msg, hsub hmem, hfix⟩

/-- A position reports no fix type. -/
theorem fixReported_append_position {env : Env} {msgs : List Message} {msg : Message}
    {pos : GlobalPositionInt} (hpos : IsFix env msg pos) :
    FixReported env (msgs ++ [msg]) ↔ FixReported env msgs := by
  refine ⟨?_, FixReported.mono (List.subset_append_left _ _)⟩
  rintro ⟨m, hmem, hsrc, gps, hbody, hfix⟩
  rcases List.mem_append.mp hmem with hold | hnew
  · exact ⟨m, hold, hsrc, gps, hbody, hfix⟩
  · have hsel := hpos.2.1
    rw [← List.mem_singleton.mp hnew, Message.globalPosition?, hbody] at hsel
    cases hsel

/-- A received message came in with one of the iterations. -/
theorem received_eq_append_cons {its : List Iteration} {before after : List Message}
    {msg : Message} (h : received its = before ++ msg :: after) :
    ∃ pre, pre <+: its ∧ received pre = before ++ [msg] := by
  obtain ⟨front, back, rfl, hfront, hback⟩ := List.filterMap_eq_append_iff.mp h
  obtain ⟨silent, it, rest, rfl, hsilent, hit, -⟩ := List.filterMap_eq_cons_iff.mp hback
  refine ⟨front ++ silent ++ [it], ⟨rest, by simp⟩, ?_⟩
  have hnone : received silent = [] := List.filterMap_eq_nil_iff.mpr hsilent
  rw [received_append_singleton, received, List.filterMap_append, hfront, hit]
  simpa [received] using hnone

/-- Without a usable position there is nothing to post. -/
theorem attempts_eq_nil_of_no_position {env : Env} (hgate : env.bypassGpsGate = false)
    {its : List Iteration} (h : ∀ msg ∈ received its, ∀ pos, ¬ IsFix env msg pos) :
    attempts env its = [] := by
  refine List.eq_nil_iff_forall_not_mem.mpr fun a ha => ?_
  obtain ⟨pre, it, l, hpre, hl, hattempt⟩ := mem_attempts.mp ha
  have hknown := (mem_attempt? hattempt).2.1
  rw [PositionKnown, receive_accumulated (runSender_state hl) it] at hknown
  rcases accumulated_position hgate (received (pre ++ [it])) with
    ⟨-, hlat, -⟩ | ⟨before, msg, after, pos, heq, hpos, -⟩
  · exact hknown.1 hlat
  · refine h msg (received_subset hpre ?_) pos hpos
    rw [heq]
    exact List.mem_append_right _ (List.mem_cons_self ..)

/-- **Positions before the first fix.** With the bypass off, the position
is absent and nothing is posted until a fix is reported, if and only if
every usable position comes after one. -/
theorem noneUntilFix_iff (env : Env) (hgate : env.bypassGpsGate = false)
    (its : List Iteration) :
    NoneUntilFix env its ↔ PositionsFollowFix env (received its) := by
  constructor
  · intro h before msg after pos heq hpos
    by_contra hfix
    obtain ⟨pre, hpre, hreceived⟩ := received_eq_append_cons heq
    have hunfixed : ¬ FixReported env (received pre) := by
      rw [hreceived, fixReported_append_position hpos]
      exact hfix
    obtain ⟨habsent, hquiet⟩ := h pre hpre hunfixed
    -- nothing was posted, so the process lives, and it has stored the position
    obtain ⟨l, hl⟩ : ∃ l, runSender env pre = .ok l :=
      run_ok_iff.mpr fun a ha => by
        have hnil : attemptsFrom env (Loop.init env) pre = [] := hquiet
        rw [hnil] at ha
        cases ha
    have hlat := (habsent l hl).1
    rw [runSender_state hl] at hlat
    rcases accumulated_position hgate (received pre) with
      ⟨hnone, -⟩ | ⟨_, _, _, _, _, _, _, hsome, -⟩
    · exact hnone msg (by simp [hreceived]) pos hpos
    · rw [hsome] at hlat
      cases hlat
  · intro h pre hpre hunfixed
    have hnone : ∀ msg ∈ received pre, ∀ pos, ¬ IsFix env msg pos := by
      intro msg hmem pos hpos
      obtain ⟨rest, rfl⟩ := hpre
      obtain ⟨before, after, hsplit⟩ := List.append_of_mem hmem
      have hall : received (pre ++ rest) = before ++ msg :: (after ++ received rest) := by
        calc received (pre ++ rest) = received pre ++ received rest := List.filterMap_append
          _ = before ++ msg :: (after ++ received rest) := by
            rw [hsplit, List.append_assoc, List.cons_append]
      have hfix := h before msg (after ++ received rest) pos hall hpos
      refine hunfixed (FixReported.mono ?_ hfix)
      rw [hsplit]
      exact List.subset_append_left _ _
    refine ⟨fun l hl => ?_, attempts_eq_nil_of_no_position hgate hnone⟩
    rw [runSender_state hl]
    rcases accumulated_position hgate (received pre) with
      ⟨-, hlat, hlon⟩ | ⟨before, msg, after, pos, heq, hpos, -⟩
    · exact ⟨hlat, hlon⟩
    · exact absurd hpos (hnone msg (by simp [heq]) pos)

def benchGps (fixType : UInt8) : Message := ⟨1, 1, .gpsRawInt ⟨fixType, 9⟩⟩

/-- A flight controller that reports its fix first. -/
theorem bench_noneUntilFix :
    NoneUntilFix benchEnv
      [{ benchIteration 100 (.response 200 "") 100 with msg := some (benchGps 3) },
        benchIteration 101 (.response 200 "") 101] := by
  refine (noneUntilFix_iff benchEnv rfl _).mpr fun before msg after pos heq hpos => ?_
  have hmsgs : [benchGps 3, benchFix] = before ++ msg :: after := heq
  rcases List.append_eq_cons_iff.mp hmsgs.symm with ⟨rfl, h⟩ | ⟨rest, rfl, h⟩
  · obtain ⟨rfl, -⟩ := List.cons.inj h
    cases hpos.2.1
  · exact ⟨benchGps 3, List.mem_cons_self .., rfl, _, rfl, by decide⟩

/-- Positions of a flight controller that reports no fix (type 1) are
stored and posted. -/
theorem position_posted_without_fix :
    let its := [{ benchIteration 100 (.response 200 "") 100 with msg := some (benchGps 1) },
      benchIteration 101 (.response 200 "") 101]
    ¬ FixReported benchEnv (received its) ∧ (attempts benchEnv its).length = 1
      ∧ ¬ NoneUntilFix benchEnv its := by
  intro its
  have hunfixed : ¬ FixReported benchEnv (received its) := by
    rintro ⟨msg, hmem, -, gps, hbody, hfix⟩
    have hmsg : msg ∈ [benchGps 1, benchFix] := hmem
    rcases List.mem_pair.mp hmsg with rfl | rfl <;> cases hbody
    exact absurd hfix (by decide)
  have hposted : (attempts benchEnv its).length = 1 := by decide +kernel
  refine ⟨hunfixed, hposted, fun h => ?_⟩
  have hnil := (h its List.prefix_rfl hunfixed).2
  rw [hnil] at hposted
  cases hposted

end Specter
