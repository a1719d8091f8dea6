import Specter.Position
import Specter.Sentinels

/-!
# Which positions are accepted

Before GPS lock the flight controller sends the raw pair (0, 0), and
`update_state` means to skip it. What it tests is that neither rounded
coordinate is zero, so it skips every position within half a
micro-degree of the equator or of the prime meridian as well
(`nonNull_iff`), and the dictionary keeps an older pair. No stored
coordinate is ever zero, so the older pair is always a different one.
-/

namespace Specter

/-- The pair sent before GPS lock. -/
def GlobalPositionInt.IsNull (pos : GlobalPositionInt) : Prop := pos.lat = 0 ∧ pos.lon = 0

instance : DecidablePred GlobalPositionInt.IsNull :=
  fun _ => inferInstanceAs (Decidable (_ ∧ _))

/-- Off the equator and the prime meridian, in units of 1e-7 degrees. -/
def GlobalPositionInt.OffAxes (pos : GlobalPositionInt) : Prop :=
  5 < |pos.lat.toInt| ∧ 5 < |pos.lon.toInt|

instance : DecidablePred GlobalPositionInt.OffAxes :=
  fun _ => inferInstanceAs (Decidable (_ ∧ _))

def GlobalPositionInt.pair (pos : GlobalPositionInt) : Option ℚ × Option ℚ :=
  (some (roundedDegrees pos.lat), some (roundedDegrees pos.lon))

theorem nonNull_iff {pos : GlobalPositionInt} : pos.NonNull ↔ pos.OffAxes := by
  simp only [GlobalPositionInt.NonNull, GlobalPositionInt.OffAxes, ne_eq,
    roundedDegrees_eq_zero_iff, not_le]

theorem GlobalPositionInt.OffAxes.not_isNull {pos : GlobalPositionInt} (h : pos.OffAxes) :
    ¬ pos.IsNull := by
  rintro ⟨hlat, -⟩
  have hzero := h.1
  rw [hlat] at hzero
  exact absurd hzero (by decide)

/-! ## The stored pair -/

def State.pair (st : State) : Option ℚ × Option ℚ := (st.lat, st.lon)

theorem accumulated_pair (env : Env) (msgs : List Message) :
    (accumulated env msgs).pair =
      lastKnown GlobalPositionInt.pair (State.init env).pair
        ((positions env msgs).filter (·.NonNull)) := by
  have hreg := (keeps_position env).foldl (Sender.init env) msgs
  rw [last_fieldWrite, filterMap_filter_select] at hreg
  exact hreg

/-- No stored coordinate is zero, with the bypass or without. -/
theorem accumulated_ne_zero (env : Env) (msgs : List Message) :
    (accumulated env msgs).lat ≠ some 0 ∧ (accumulated env msgs).lon ≠ some 0 := by
  have hpair := accumulated_pair env msgs
  rcases lastKnown_eq_init_or GlobalPositionInt.pair (State.init env).pair
    ((positions env msgs).filter (·.NonNull)) with hinit | ⟨pos, hmem, -, hread⟩
  · rw [hinit] at hpair
    obtain ⟨hlat, hlon⟩ := Prod.mk.inj hpair
    rw [hlat, hlon]
    cases h : env.bypassGpsGate
    · simp [State.init, h]
    · simp only [State.init, h, if_true, ne_eq, Option.some.injEq]
      decide +kernel
  · rw [hread] at hpair
    obtain ⟨hlat, hlon⟩ := Prod.mk.inj hpair
    obtain ⟨hlatNe, hlonNe⟩ : pos.NonNull := by simpa using (List.mem_filter.mp hmem).2
    rw [hlat, hlon]
    exact ⟨fun h => hlatNe (Option.some.inj h), fun h => hlonNe (Option.some.inj h)⟩

theorem pair_ne_of_not_nonNull {pos : GlobalPositionInt} (h : ¬ pos.NonNull) (env : Env)
    (msgs : List Message) : (accumulated env msgs).pair ≠ pos.pair := by
  intro heq
  obtain ⟨hlat, hlon⟩ := Prod.mk.inj heq
  obtain ⟨hlatNe, hlonNe⟩ := accumulated_ne_zero env msgs
  rw [hlat] at hlatNe
  rw [hlon] at hlonNe
  exact h ⟨fun h0 => hlatNe (by rw [h0]), fun h0 => hlonNe (by rw [h0])⟩

/-! ## Acceptance -/

/-- The positions other than the pre-lock pair. -/
def realPositions (env : Env) (msgs : List Message) : List GlobalPositionInt :=
  (positions env msgs).filter (¬ ·.IsNull)

/-- What `update_state` makes of `msg` is right: it skips the pre-lock
pair and stores any other position. -/
def AcceptsRightly (env : Env) (self : Sender) (msg : Message) (pos : GlobalPositionInt) : Prop :=
  (updateState env self msg).state.pair =
    if pos.IsNull then self.state.pair else pos.pair

theorem acceptsRightly_iff {env : Env} {self : Sender} {msgs : List Message}
    (hself : self.state = accumulated env msgs) {msg : Message} {pos : GlobalPositionInt}
    (hsrc : msg.srcSystem = env.targetSystem) (hpos : msg.globalPosition? = some pos) :
    AcceptsRightly env self msg pos ↔ pos.IsNull ∨ pos.OffAxes := by
  have hbody : msg.body = .globalPositionInt pos := by
    unfold Message.globalPosition? at hpos
    split at hpos
    · cases hpos; assumption
    · cases hpos
  rw [AcceptsRightly, updateState_position self hsrc hbody, ← nonNull_iff]
  by_cases hnn : pos.NonNull
  · have hnull : ¬ pos.IsNull := GlobalPositionInt.OffAxes.not_isNull (nonNull_iff.mp hnn)
    simp [State.pair, GlobalPositionInt.pair, hnn, hnull]
  · by_cases hnull : pos.IsNull
    · simp [State.pair, hnn, hnull]
    · -- the old pair stays, and it is not this one
      have hne := pair_ne_of_not_nonNull hnn env msgs
      rw [← hself] at hne
      simpa [State.pair, hnn, hnull] using hne

theorem filter_nonNull_realPositions (env : Env) (msgs : List Message) :
    (realPositions env msgs).filter (·.NonNull) = (positions env msgs).filter (·.NonNull) := by
  rw [realPositions, List.filter_filter]
  refine List.filter_congr fun pos _ => ?_
  by_cases hnn : pos.NonNull
  · simp [hnn, (nonNull_iff.mp hnn : pos.OffAxes).not_isNull]
  · simp [hnn]

theorem follows_iff (env : Env) (msgs : List Message) :
    (accumulated env msgs).pair =
        lastKnown GlobalPositionInt.pair (State.init env).pair (realPositions env msgs)
      ↔ ∀ pos, (realPositions env msgs).getLast? = some pos → pos.OffAxes := by
  constructor
  · intro h pos hlast
    by_contra hoff
    refine pair_ne_of_not_nonNull (fun hnn => hoff (nonNull_iff.mp hnn)) env msgs ?_
    rw [h, lastKnown, hlast]
    rfl
  · intro h
    rw [accumulated_pair, ← filter_nonNull_realPositions, lastKnown_filter]
    exact fun pos hlast => by simpa using nonNull_iff.mpr (h pos hlast)

/-- **Acceptance, exactly.** In every state a run reaches, a position of
the connected system is accepted rightly if and only if it is the
pre-lock pair or off the axes. After any messages, the position reported
is that of the last one that is not the pre-lock pair if and only if
that one is off the axes. -/
theorem position_accepted_iff (env : Env) :
    (∀ its l, runSender env its = .ok l → ∀ msg pos, msg.srcSystem = env.targetSystem →
      msg.globalPosition? = some pos →
        (AcceptsRightly env l.sender msg pos ↔ pos.IsNull ∨ pos.OffAxes))
    ∧ ∀ msgs, ((accumulated env msgs).pair =
          lastKnown GlobalPositionInt.pair (State.init env).pair (realPositions env msgs)
        ↔ ∀ pos, (realPositions env msgs).getLast? = some pos → pos.OffAxes) :=
  ⟨fun _ _ hl _ _ hsrc hpos => acceptsRightly_iff (runSender_state hl) hsrc hpos,
    follows_iff env⟩

/-- Off the axes the bench position is stored. -/
theorem bench_position_accepted :
    (updateState benchEnv (Sender.init benchEnv) benchFix).state.pair =
      GlobalPositionInt.pair ⟨285271350, 770654210, 15430, 18045⟩ :=
  ((position_accepted_iff benchEnv).1 [] (Loop.init benchEnv) rfl benchFix
    ⟨285271350, 770654210, 15430, 18045⟩ rfl rfl).mpr (Or.inr ⟨by decide, by decide⟩)

/-- On the equator, at 10 degrees east: the bench position stays, although
the vehicle has left it. -/
theorem equator_position_dropped :
    let equator : Message := ⟨1, 1, .globalPositionInt ⟨0, 100000000, 15430, 18045⟩⟩
    ¬ AcceptsRightly benchEnv (updateState benchEnv (Sender.init benchEnv) benchFix) equator
        ⟨0, 100000000, 15430, 18045⟩
      ∧ (accumulated benchEnv [benchFix, equator]).pair =
          GlobalPositionInt.pair ⟨285271350, 770654210, 15430, 18045⟩ := by
  intro equator
  refine ⟨fun h => ?_, by decide +kernel⟩
  have hstate : (updateState benchEnv (Sender.init benchEnv) benchFix).state =
      accumulated benchEnv [benchFix] := rfl
  rcases (acceptsRightly_iff hstate rfl rfl).mp h with hnull | hoff
  · exact absurd hnull (by decide)
  · exact absurd hoff (by decide)

end Specter
