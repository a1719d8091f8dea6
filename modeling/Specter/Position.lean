import Specter.LastKnown
import Specter.SenderSteps

/-!
# The position that is sent

`lat` and `lon` are written together and nowhere else, so they are one
register, and the gate of `run` only has to see that it has been written.
With the bypass off nothing is POSTed before the first usable
GLOBAL_POSITION_INT, and what is POSTed is the pair of the latest one.
-/

namespace Specter

/-- `msg` is a GLOBAL_POSITION_INT of the connected system, with position
`pos`, whose rounded coordinates are both nonzero. -/
def IsFix (env : Env) (msg : Message) (pos : GlobalPositionInt) : Prop :=
  msg.srcSystem = env.targetSystem ∧ msg.globalPosition? = some pos ∧ pos.NonNull

/-- The pair `update_state` stores for a fix, if the message is one. -/
def fixWrite (env : Env) : Message → Option (Option ℚ × Option ℚ) :=
  fieldWrite env (fun msg => msg.globalPosition?.filter (·.NonNull))
    fun pos => (some (roundedDegrees pos.lat), some (roundedDegrees pos.lon))

theorem fixWrite_eq_some {env : Env} {msg : Message} {pair : Option ℚ × Option ℚ}
    (h : fixWrite env msg = some pair) :
    ∃ pos, IsFix env msg pos
      ∧ pair = (some (roundedDegrees pos.lat), some (roundedDegrees pos.lon)) := by
  unfold fixWrite fieldWrite at h
  split at h
  · rename_i hsrc
    obtain ⟨pos, hpos, rfl⟩ := Option.map_eq_some_iff.mp h
    obtain ⟨hsel, hnn⟩ := Option.filter_eq_some_iff.mp hpos
    exact ⟨pos, ⟨hsrc, hsel, of_decide_eq_true hnn⟩, rfl⟩
  · cases h

theorem fixWrite_of_isFix {env : Env} {msg : Message} {pos : GlobalPositionInt}
    (h : IsFix env msg pos) :
    fixWrite env msg = some (some (roundedDegrees pos.lat), some (roundedDegrees pos.lon)) := by
  obtain ⟨hsrc, hsel, hnn⟩ := h
  simp [fixWrite, fieldWrite, hsrc, hsel, Option.filter, hnn]

/-- With the gate in force, the stored pair is absent until the first fix,
and that of the latest fix from then on. -/
theorem accumulated_position {env : Env} (hgate : env.bypassGpsGate = false)
    (msgs : List Message) :
    ((∀ msg ∈ msgs, ∀ pos, ¬ IsFix env msg pos)
        ∧ (accumulated env msgs).lat = none ∧ (accumulated env msgs).lon = none)
      ∨ ∃ before msg after pos, msgs = before ++ msg :: after ∧ IsFix env msg pos
          ∧ (∀ later ∈ after, ∀ pos', ¬ IsFix env later pos')
          ∧ (accumulated env msgs).lat = some (roundedDegrees pos.lat)
          ∧ (accumulated env msgs).lon = some (roundedDegrees pos.lon) := by
  have hreg := (keeps_position env).foldl (Sender.init env) msgs
  have hinit : ((Sender.init env).state.lat, (Sender.init env).state.lon)
      = ((none, none) : Option ℚ × Option ℚ) := by
    simp [Sender.init, State.init, hgate]
  have hnofix {msg : Message} (hw : fixWrite env msg = none) (pos : GlobalPositionInt) :
      ¬ IsFix env msg pos := fun hfix => by
    rw [fixWrite_of_isFix hfix] at hw
    cases hw
  simp only [hinit] at hreg
  rcases Register.last_eq_init_or (fixWrite env) (none, none) msgs with
    ⟨hnone, hlast⟩ | ⟨before, msg, after, pair, rfl, hmsg, hafter, hlast⟩
  · rw [fixWrite] at hlast
    rw [hlast, Prod.mk.injEq] at hreg
    exact Or.inl ⟨fun msg hmem => hnofix (hnone msg hmem), hreg⟩
  · obtain ⟨pos, hfix, rfl⟩ := fixWrite_eq_some hmsg
    rw [fixWrite] at hlast
    rw [hlast, Prod.mk.injEq] at hreg
    exact Or.inr ⟨before, msg, after, pos, rfl, hfix,
      fun later hmem => hnofix (hafter later hmem), hreg⟩

/-- **What is posted.** With the bypass off: in every state a run
reaches, the two coordinates are absent together; and whenever the next
iteration attempts a POST, a fix has been received, and the payload holds
the rounded pair of the latest one. -/
theorem posted_position (env : Env) (hgate : env.bypassGpsGate = false) :
    (∀ its l, runSender env its = .ok l →
      (l.sender.state.lat = none ↔ l.sender.state.lon = none))
    ∧ ∀ its l it a, runSender env its = .ok l → attempt? env l it = some a →
        ∃ before msg after pos, received (its ++ [it]) = before ++ msg :: after
          ∧ IsFix env msg pos ∧ (∀ later ∈ after, ∀ pos', ¬ IsFix env later pos')
          ∧ a.payload.lat = some (roundedDegrees pos.lat)
          ∧ a.payload.lon = some (roundedDegrees pos.lon) := by
  refine ⟨fun its l hl => ?_, fun its l it a hl ha => ?_⟩
  · rw [runSender_state hl]
    rcases accumulated_position hgate (received its) with
      ⟨-, hlat, hlon⟩ | ⟨-, -, -, pos, -, -, -, hlat, hlon⟩ <;> simp [hlat, hlon]
  · obtain ⟨-, hknown, rfl⟩ := mem_attempt? ha
    have hstate := receive_accumulated (runSender_state hl) it
    rcases accumulated_position hgate (received (its ++ [it])) with
      ⟨-, hlat, -⟩ | ⟨before, msg, after, pos, heq, hfix, hafter, hlat, hlon⟩
    · exact absurd (by rw [hstate, hlat]) hknown.1
    · refine ⟨before, msg, after, pos, heq, hfix, hafter, ?_, ?_⟩
      · rw [← hlat, ← hstate]; rfl
      · rw [← hlon, ← hstate]; rfl

/-- The bench process posts in its first iteration, so it has had a fix. -/
theorem bench_posted_position :
    ∃ before msg after pos, [benchFix] = before ++ msg :: after ∧ IsFix benchEnv msg pos := by
  have hfirst : (attempt? benchEnv (Loop.init benchEnv)
      (benchIteration 100 (.response 200 "") 100)).isSome = true := by decide +kernel
  obtain ⟨a, ha⟩ := Option.isSome_iff_exists.mp hfirst
  obtain ⟨before, msg, after, pos, heq, hfix, -⟩ :=
    (posted_position benchEnv rfl).2 [] (Loop.init benchEnv) _ a rfl ha
  exact ⟨before, msg, after, pos, heq, hfix⟩

end Specter
