import Specter.Outcomes
import Specter.Sentinels

/-!
# Payloads the HTTP client can write

The body of a POST is written by an encoder that refuses the numbers
JSON has no text for. The integers of the wire stay finite through every
scaling, so the one field that can be refused is `speed`, which is
stored as it comes. Its `ValueError` leaves the loop of `run`, whose
`except` clause names network errors only.
-/

namespace Specter

def PyFloat.Finite : PyFloat → Prop
  | .finite _ => True
  | .inf _ | .nan => False

instance : DecidablePred PyFloat.Finite
  | .finite _ => inferInstanceAs (Decidable True)
  | .inf _ | .nan => inferInstanceAs (Decidable False)

/-- The numbers of the JSON body. -/
def Payload.numbers (payload : Payload) : List PyFloat :=
  (payload.lat.toList ++ payload.lon.toList
    ++ [payload.alt, payload.heading, payload.battery, payload.voltage,
      payload.gpsFixType.toNat, payload.satellites.toNat]).map .finite
  ++ [payload.speed]

/-- The `TX` line formats both coordinates as floats, and `None` is not one. -/
def Payload.Loggable (payload : Payload) : Prop :=
  payload.lat ≠ none ∧ payload.lon ≠ none

def Payload.Encodable (payload : Payload) : Prop :=
  ∀ x ∈ payload.numbers, x.Finite

instance : DecidablePred Payload.Encodable :=
  fun payload => inferInstanceAs (Decidable (∀ x ∈ payload.numbers, x.Finite))

theorem encodable_iff (payload : Payload) : payload.Encodable ↔ payload.speed.Finite := by
  have hscaled (qs : List ℚ) : ∀ x ∈ qs.map PyFloat.finite, x.Finite := by
    intro x hx
    obtain ⟨q, -, rfl⟩ := List.mem_map.mp hx
    trivial
  unfold Payload.Encodable Payload.numbers
  constructor
  · exact fun h => h payload.speed (List.mem_append_right _ (List.mem_singleton_self _))
  · intro h x hx
    rcases List.mem_append.mp hx with hx | hx
    · exact hscaled _ x hx
    · rw [List.mem_singleton.mp hx]
      exact h

/-- The encoder is strict (`allow_nan=False`): a POST raises `ValueError`
on exactly the bodies with a number that is not finite. -/
def StrictJson (its : List Iteration) : Prop :=
  ∀ it ∈ its, ∀ payload, it.post payload = .valueError ↔ ¬ payload.Encodable

/-! ## When the encoder gives up -/

def huds (env : Env) (msgs : List Message) : List VfrHud :=
  (fromTarget env msgs).filterMap (·.vfrHud?)

/-- Every POST reaches the network, and the process does not end in the encoder. -/
def PostsEncodable (env : Env) (its : List Iteration) : Prop :=
  (∀ a ∈ attempts env its,
      a.payload.Loggable ∧ a.payload.Encodable ∧ a.outcome ≠ .valueError)
    ∧ runSender env its ≠ .error .valueError

/-- Whenever a POST is due and the position known, the last VFR_HUD of
the connected system, if there is one, has a finite ground speed. -/
def SpeedFiniteWhenDue (env : Env) (its : List Iteration) : Prop :=
  ∀ pre it l, pre ++ [it] <+: its → runSender env pre = .ok l →
    Due env (receive env l.sender it.msg) it.now →
    PositionKnown (receive env l.sender it.msg) →
      ∀ hud, (huds env (received (pre ++ [it]))).getLast? = some hud → hud.groundspeed.Finite

theorem accumulated_speed (env : Env) (msgs : List Message) :
    (accumulated env msgs).speed = lastKnown (·.groundspeed) (.finite 0) (huds env msgs) :=
  congrArg Payload.speed (payload_eq_lastKnown env msgs)

theorem speed_finite_iff (env : Env) (msgs : List Message) :
    (accumulated env msgs).speed.Finite ↔
      ∀ hud, (huds env msgs).getLast? = some hud → hud.groundspeed.Finite := by
  rw [accumulated_speed, lastKnown]
  cases (huds env msgs).getLast? with
  | none => exact ⟨fun _ hud h => (Option.some_ne_none hud h.symm).elim, fun _ => trivial⟩
  | some hud => exact ⟨fun h _ heq => Option.some.inj heq ▸ h, fun h => h hud rfl⟩

theorem attempt?_of_due {env : Env} {l : Loop} {it : Iteration}
    (hdue : Due env (receive env l.sender it.msg) it.now)
    (hknown : PositionKnown (receive env l.sender it.msg)) :
    attempt? env l it = some ⟨buildPayload (receive env l.sender it.msg), it.now,
      it.post (buildPayload (receive env l.sender it.msg)), it.answeredAt⟩ :=
  if_pos ⟨hdue, hknown⟩

/-- **Encoding, exactly.** Under a strict encoder every POST of a run
reaches the network if and only if the ground speed last received is
finite whenever a POST is due. -/
theorem postsEncodable_iff (env : Env) (its : List Iteration) (hjson : StrictJson its) :
    PostsEncodable env its ↔ SpeedFiniteWhenDue env its := by
  have hspeed {pre : List Iteration} {it : Iteration} {l : Loop}
      (hl : runSender env pre = .ok l) :
      (buildPayload (receive env l.sender it.msg)).Encodable ↔
        ∀ hud, (huds env (received (pre ++ [it]))).getLast? = some hud →
          hud.groundspeed.Finite := by
    rw [encodable_iff, ← speed_finite_iff, ← receive_accumulated (runSender_state hl) it]
    rfl
  constructor
  · rintro ⟨hposts, -⟩ pre it l hpre hl hdue hknown
    have hmem := mem_attempts.mpr ⟨pre, it, l, hpre, hl, attempt?_of_due hdue hknown⟩
    exact (hspeed hl).mp (hposts _ hmem).2.1
  · intro h
    have hposts : ∀ a ∈ attempts env its,
        a.payload.Loggable ∧ a.payload.Encodable ∧ a.outcome ≠ .valueError := by
      intro a ha
      obtain ⟨pre, it, l, hpre, hl, hattempt⟩ := mem_attempts.mp ha
      obtain ⟨hdue, hknown, rfl⟩ := mem_attempt? hattempt
      have hencodable := (hspeed hl).mpr (h pre it l hpre hl hdue hknown)
      have hit : it ∈ its := hpre.subset (List.mem_append_right _ (List.mem_singleton_self _))
      exact ⟨hknown, hencodable, fun hraise => (hjson it hit _).mp hraise hencodable⟩
    refine ⟨hposts, fun hend => ?_⟩
    obtain ⟨a, ha, hraise⟩ := exists_attempt_of_run_error hend
    exact (hposts a ha).2.2 (exception?_eq_valueError hraise)

/-- A cloud that accepts what the encoder can write. -/
def benchPost (payload : Payload) : PostOutcome :=
  if payload.Encodable then .response 200 "" else .valueError

def benchHud (groundspeed : PyFloat) : Iteration where
  msg := some ⟨1, 1, .vfrHud ⟨groundspeed⟩⟩
  now := 100
  post := benchPost
  answeredAt := 100

theorem strictJson_of_benchPost {its : List Iteration} (h : ∀ it ∈ its, it.post = benchPost) :
    StrictJson its := by
  intro it hit payload
  rw [h it hit, benchPost]
  split_ifs with hencodable <;> simp [hencodable]

def benchParked : Iteration := { benchIteration 101 (.response 200 "") 101 with post := benchPost }

/-- A ground speed of 3.5 m/s. -/
theorem bench_postsEncodable :
    PostsEncodable benchEnv [benchHud (.finite 3.5), benchParked] := by
  refine (postsEncodable_iff benchEnv _ (strictJson_of_benchPost ?_)).mpr ?_
  · intro it hit
    rcases List.mem_pair.mp hit with rfl | rfl <;> rfl
  · intro pre it l hpre _ _ _ hud hlast
    obtain ⟨⟨src, comp, body⟩, hmsg, hsel⟩ := List.mem_filterMap.mp (List.mem_of_getLast? hlast)
    have hreceived := received_subset hpre (List.mem_of_mem_filter hmsg)
    rcases List.mem_pair.mp (hreceived : _ ∈ [_, benchFix]) with heq | heq <;> cases heq
    · cases hsel
      trivial
    · cases hsel

/-- A ground speed that is not a number ends the process at the next POST. -/
theorem nan_speed_ends_process :
    let its := [benchHud .nan, benchParked]
    StrictJson its ∧ runSender benchEnv its = .error .valueError
      ∧ ¬ PostsEncodable benchEnv its := by
  intro its
  have hend : runSender benchEnv its = .error .valueError := by decide +kernel
  refine ⟨strictJson_of_benchPost fun it hit => ?_, hend, fun h => h.2 hend⟩
  rcases List.mem_pair.mp hit with rfl | rfl <;> rfl

end Specter
