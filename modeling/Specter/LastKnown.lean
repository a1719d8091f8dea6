import Specter.Telemetry

/-!
# The accumulator holds last-known values

The specification of `update_state` is declarative: every payload field
is read off the last message that supplies it, among the messages of the
system the sender is connected to. Each field is a register of the fold
(`Register.Keeps`), so no field depends on how the messages of different
types and nodes are interleaved.
-/

namespace Specter

/-! ## The messages that supply a field -/

def Message.globalPosition? (msg : Message) : Option GlobalPositionInt :=
  match msg.body with
  | .globalPositionInt pos => some pos
  | _ => none

def Message.heartbeat? (msg : Message) : Option Heartbeat :=
  match msg.body with
  | .heartbeat beat => some beat
  | _ => none

def Message.sysStatus? (msg : Message) : Option SysStatus :=
  match msg.body with
  | .sysStatus status => some status
  | _ => none

def Message.vfrHud? (msg : Message) : Option VfrHud :=
  match msg.body with
  | .vfrHud hud => some hud
  | _ => none

def Message.gpsRaw? (msg : Message) : Option GpsRawInt :=
  match msg.body with
  | .gpsRawInt gps => some gps
  | _ => none

def GlobalPositionInt.NonNull (pos : GlobalPositionInt) : Prop :=
  roundedDegrees pos.lat ≠ 0 ∧ roundedDegrees pos.lon ≠ 0

instance : DecidablePred GlobalPositionInt.NonNull :=
  fun _ => inferInstanceAs (Decidable (_ ∧ _))

def SysStatus.reportsBattery (status : SysStatus) : Bool := 0 ≤ status.batteryRemaining.toInt

def SysStatus.reportsVoltage (status : SysStatus) : Bool := status.voltageBattery ≠ 65535

def fromTarget (env : Env) (msgs : List Message) : List Message :=
  msgs.filter (·.srcSystem = env.targetSystem)

/-- `read` of the last element, `init` if there is none. -/
def lastKnown {α β : Type} (read : α → β) (init : β) (xs : List α) : β :=
  (xs.getLast?.map read).getD init

theorem lastKnown_eq_init_or {α β : Type} (read : α → β) (init : β) (xs : List α) :
    lastKnown read init xs = init ∨
      ∃ x ∈ xs, xs.getLast? = some x ∧ lastKnown read init xs = read x := by
  cases h : xs.getLast? with
  | none => exact Or.inl (by simp [lastKnown, h])
  | some x => exact Or.inr ⟨x, List.mem_of_getLast? h, rfl, by simp [lastKnown, h]⟩

/-- A selection that keeps the last element keeps the value. -/
theorem lastKnown_filter {α β : Type} (read : α → β) (init : β) {p : α → Bool} {xs : List α}
    (h : ∀ x, xs.getLast? = some x → p x) :
    lastKnown read init (xs.filter p) = lastKnown read init xs := by
  rcases List.eq_nil_or_concat xs with rfl | ⟨ys, x, rfl⟩
  · rfl
  · have hx : p x = true := h x (by simp)
    simp [lastKnown, hx]

/-- The last-known-value payload. -/
def lastKnownPayload (env : Env) (msgs : List Message) : Payload :=
  let target := fromTarget env msgs
  let positions := target.filterMap (·.globalPosition?)
  let fixes := positions.filter (·.NonNull)
  let heartbeats := target.filterMap (·.heartbeat?)
  let statuses := target.filterMap (·.sysStatus?)
  let huds := target.filterMap (·.vfrHud?)
  let gps := target.filterMap (·.gpsRaw?)
  let init := State.init env
  { lat := lastKnown (fun pos => some (roundedDegrees pos.lat)) init.lat fixes
    lon := lastKnown (fun pos => some (roundedDegrees pos.lon)) init.lon fixes
    alt := lastKnown (fun pos => trueDiv pos.relativeAlt.toInt 1000) 0 positions
    speed := lastKnown (·.groundspeed) (.finite 0) huds
    heading := lastKnown (fun pos => pyInt (trueDiv pos.hdg.toNat 100)) 0 positions
    battery := lastKnown (fun s => (s.batteryRemaining.toInt : ℚ)) init.battery
      (statuses.filter (·.reportsBattery))
    voltage := lastKnown (fun s => trueDiv s.voltageBattery.toNat 1000) 0
      (statuses.filter (·.reportsVoltage))
    armed := lastKnown (·.armed) false heartbeats
    flightMode := lastKnown env.modeStringV10 "UNKNOWN" heartbeats
    gpsFixType := lastKnown (·.fixType) 0 gps
    satellites := lastKnown (·.satellitesVisible) 0 gps }

/-! ## Every field is a register -/

/-- The write of a field that is read off the messages `select` picks
from the connected system. -/
def fieldWrite {α β : Type} (env : Env) (select : Message → Option α) (read : α → β)
    (msg : Message) : Option β :=
  if msg.srcSystem = env.targetSystem then (select msg).map read else none

theorem last_fieldWrite {α β : Type} (env : Env) (select : Message → Option α)
    (read : α → β) (init : β) (msgs : List Message) :
    Register.last (fieldWrite env select read) init msgs
      = lastKnown read init ((fromTarget env msgs).filterMap select) := by
  have hwrites : msgs.filterMap (fieldWrite env select read)
      = ((fromTarget env msgs).filterMap select).map read := by
    rw [fromTarget, List.filterMap_filter, List.map_filterMap]
    congr 1
    funext msg
    by_cases h : msg.srcSystem = env.targetSystem <;> simp [fieldWrite, h]
  rw [Register.last, hwrites, List.getLast?_map, lastKnown]

/-- Messages of other systems leave the dictionary alone. -/
theorem updateState_of_foreign {env : Env} {msg : Message} (self : Sender)
    (h : msg.srcSystem ≠ env.targetSystem) :
    (updateState env self msg).state = self.state := by
  simp [updateState, h]

theorem updateState_position {env : Env} {msg : Message} (self : Sender)
    {pos : GlobalPositionInt} (hsrc : msg.srcSystem = env.targetSystem)
    (hb : msg.body = .globalPositionInt pos) :
    (updateState env self msg).state =
      { self.state with
        lat := if pos.NonNull then some (roundedDegrees pos.lat) else self.state.lat
        lon := if pos.NonNull then some (roundedDegrees pos.lon) else self.state.lon
        alt := trueDiv pos.relativeAlt.toInt 1000
        heading := trueDiv pos.hdg.toNat 100 } := by
  by_cases hpos : roundedDegrees pos.lat ≠ 0 ∧ roundedDegrees pos.lon ≠ 0 <;>
    simp [updateState, hsrc, hb, GlobalPositionInt.NonNull, hpos]

theorem updateState_sysStatus {env : Env} {msg : Message} (self : Sender) {status : SysStatus}
    (hsrc : msg.srcSystem = env.targetSystem) (hb : msg.body = .sysStatus status) :
    (updateState env self msg).state =
      { self.state with
        battery :=
          if status.reportsBattery then (status.batteryRemaining.toInt : ℚ)
          else self.state.battery
        voltage :=
          if status.reportsVoltage then trueDiv status.voltageBattery.toNat 1000
          else self.state.voltage } := by
  by_cases hbat : 0 ≤ status.batteryRemaining.toInt <;>
    by_cases hvol : status.voltageBattery = 65535 <;>
    simp [updateState, hsrc, hb, SysStatus.reportsBattery, SysStatus.reportsVoltage, hbat, hvol]

/-- A field is a register as soon as it is one for the messages of the
connected system. -/
theorem keeps_of_target {α β : Type} {env : Env} {select : Message → Option α}
    {read : α → β} (field : State → β)
    (h : ∀ (s : Sender) (msg : Message), msg.srcSystem = env.targetSystem →
      field (updateState env s msg).state = ((select msg).map read).getD (field s.state)) :
    Register.Keeps (updateState env) (fun s => field s.state) (fieldWrite env select read) := by
  intro s msg
  by_cases hsrc : msg.srcSystem = env.targetSystem
  · rw [fieldWrite, if_pos hsrc]
    exact h s msg hsrc
  · simp only [fieldWrite, if_neg hsrc, updateState_of_foreign s hsrc, Option.getD_none]

theorem keeps_position (env : Env) :
    Register.Keeps (updateState env) (fun s => (s.state.lat, s.state.lon))
      (fieldWrite env (fun msg => msg.globalPosition?.filter (·.NonNull))
        fun pos => (some (roundedDegrees pos.lat), some (roundedDegrees pos.lon))) := by
  refine keeps_of_target (fun st => (st.lat, st.lon)) fun s msg hsrc => ?_
  cases hb : msg.body with
  | globalPositionInt pos =>
      simp only [updateState_position s hsrc hb, Message.globalPosition?, hb, Option.filter]
      by_cases hpos : pos.NonNull <;> simp [hpos]
  | sysStatus status => simp [updateState_sysStatus s hsrc hb, Message.globalPosition?, hb]
  | _ => simp [updateState, hsrc, hb, Message.globalPosition?]

theorem keeps_altHeading (env : Env) :
    Register.Keeps (updateState env) (fun s => (s.state.alt, pyInt s.state.heading))
      (fieldWrite env (·.globalPosition?)
        fun pos => (trueDiv pos.relativeAlt.toInt 1000, pyInt (trueDiv pos.hdg.toNat 100))) := by
  refine keeps_of_target (fun st => (st.alt, pyInt st.heading)) fun s msg hsrc => ?_
  cases hb : msg.body with
  | globalPositionInt pos => simp [updateState_position s hsrc hb, Message.globalPosition?, hb]
  | sysStatus status => simp [updateState_sysStatus s hsrc hb, Message.globalPosition?, hb]
  | _ => simp [updateState, hsrc, hb, Message.globalPosition?]

theorem keeps_armedMode (env : Env) :
    Register.Keeps (updateState env) (fun s => (s.state.armed, s.state.flightMode))
      (fieldWrite env (·.heartbeat?) fun beat => (beat.armed, env.modeStringV10 beat)) := by
  refine keeps_of_target (fun st => (st.armed, st.flightMode)) fun s msg hsrc => ?_
  cases hb : msg.body with
  | globalPositionInt pos => simp [updateState_position s hsrc hb, Message.heartbeat?, hb]
  | sysStatus status => simp [updateState_sysStatus s hsrc hb, Message.heartbeat?, hb]
  | _ => simp [updateState, hsrc, hb, Message.heartbeat?]

theorem keeps_battery (env : Env) :
    Register.Keeps (updateState env) (fun s => s.state.battery)
      (fieldWrite env (fun msg => msg.sysStatus?.filter (·.reportsBattery))
        fun status => (status.batteryRemaining.toInt : ℚ)) := by
  refine keeps_of_target State.battery fun s msg hsrc => ?_
  cases hb : msg.body with
  | globalPositionInt pos => simp [updateState_position s hsrc hb, Message.sysStatus?, hb]
  | sysStatus status =>
      simp only [updateState_sysStatus s hsrc hb, Message.sysStatus?, hb, Option.filter]
      by_cases hreports : status.reportsBattery <;> simp [hreports]
  | _ => simp [updateState, hsrc, hb, Message.sysStatus?]

theorem keeps_voltage (env : Env) :
    Register.Keeps (updateState env) (fun s => s.state.voltage)
      (fieldWrite env (fun msg => msg.sysStatus?.filter (·.reportsVoltage))
        fun status => trueDiv status.voltageBattery.toNat 1000) := by
  refine keeps_of_target State.voltage fun s msg hsrc => ?_
  cases hb : msg.body with
  | globalPositionInt pos => simp [updateState_position s hsrc hb, Message.sysStatus?, hb]
  | sysStatus status =>
      simp only [updateState_sysStatus s hsrc hb, Message.sysStatus?, hb, Option.filter]
      by_cases hreports : status.reportsVoltage <;> simp [hreports]
  | _ => simp [updateState, hsrc, hb, Message.sysStatus?]

theorem keeps_speed (env : Env) :
    Register.Keeps (updateState env) (fun s => s.state.speed)
      (fieldWrite env (·.vfrHud?) (·.groundspeed)) := by
  refine keeps_of_target State.speed fun s msg hsrc => ?_
  cases hb : msg.body with
  | globalPositionInt pos => simp [updateState_position s hsrc hb, Message.vfrHud?, hb]
  | sysStatus status => simp [updateState_sysStatus s hsrc hb, Message.vfrHud?, hb]
  | _ => simp [updateState, hsrc, hb, Message.vfrHud?]

theorem keeps_gps (env : Env) :
    Register.Keeps (updateState env) (fun s => (s.state.gpsFixType, s.state.satellites))
      (fieldWrite env (·.gpsRaw?) fun gps => (gps.fixType, gps.satellitesVisible)) := by
  refine keeps_of_target (fun st => (st.gpsFixType, st.satellites)) fun s msg hsrc => ?_
  cases hb : msg.body with
  | globalPositionInt pos => simp [updateState_position s hsrc hb, Message.gpsRaw?, hb]
  | sysStatus status => simp [updateState_sysStatus s hsrc hb, Message.gpsRaw?, hb]
  | _ => simp [updateState, hsrc, hb, Message.gpsRaw?]

/-! ## The accumulator against the specification -/

theorem lastKnown_prod {α β γ : Type} (f : α → β) (g : α → γ) (b : β) (c : γ) (xs : List α) :
    lastKnown (fun a => (f a, g a)) (b, c) xs = (lastKnown f b xs, lastKnown g c xs) := by
  unfold lastKnown
  cases xs.getLast? <;> rfl

theorem filterMap_filter_select {α : Type} (select : Message → Option α) (p : α → Bool)
    (msgs : List Message) :
    msgs.filterMap (fun msg => (select msg).filter p) = (msgs.filterMap select).filter p := by
  rw [List.filter_filterMap]

theorem payload_eq_lastKnown (env : Env) (msgs : List Message) :
    buildPayload (msgs.foldl (updateState env) (Sender.init env)) = lastKnownPayload env msgs := by
  have hpos := (keeps_position env).foldl (Sender.init env) msgs
  have halt := (keeps_altHeading env).foldl (Sender.init env) msgs
  have harm := (keeps_armedMode env).foldl (Sender.init env) msgs
  have hbat := (keeps_battery env).foldl (Sender.init env) msgs
  have hvol := (keeps_voltage env).foldl (Sender.init env) msgs
  have hspeed := (keeps_speed env).foldl (Sender.init env) msgs
  have hgps := (keeps_gps env).foldl (Sender.init env) msgs
  simp only [last_fieldWrite, filterMap_filter_select, lastKnown_prod, Prod.mk.injEq] at *
  simp only [buildPayload, lastKnownPayload, Payload.mk.injEq]
  exact ⟨hpos.1, hpos.2, halt.1, hspeed, halt.2, hbat, hvol, harm.1, harm.2, hgps.1, hgps.2⟩

/-! ## Interleavings -/

/-- The subsequence of the connected system's messages of one type. -/
def ofType (env : Env) (type : MsgType) (msgs : List Message) : List Message :=
  (fromTarget env msgs).filter (·.type = type)

theorem filterMap_ofType {α : Type} {env : Env} {type : MsgType}
    {select : Message → Option α} (h : ∀ msg, select msg ≠ none → msg.type = type)
    (msgs : List Message) :
    (ofType env type msgs).filterMap select = (fromTarget env msgs).filterMap select := by
  rw [ofType, List.filterMap_filter]
  congr 1
  funext msg
  by_cases htype : msg.type = type
  · simp [htype]
  · have hnone : select msg = none := by
      by_contra hne
      exact htype (h msg hne)
    simp [htype, hnone]

theorem globalPosition?_type {msg : Message} (h : msg.globalPosition? ≠ none) :
    msg.type = .globalPositionInt := by
  unfold Message.globalPosition? at h
  cases hb : msg.body <;> simp [hb, Message.type] at h ⊢

theorem heartbeat?_type {msg : Message} (h : msg.heartbeat? ≠ none) :
    msg.type = .heartbeat := by
  unfold Message.heartbeat? at h
  cases hb : msg.body <;> simp [hb, Message.type] at h ⊢

theorem sysStatus?_type {msg : Message} (h : msg.sysStatus? ≠ none) :
    msg.type = .sysStatus := by
  unfold Message.sysStatus? at h
  cases hb : msg.body <;> simp [hb, Message.type] at h ⊢

theorem vfrHud?_type {msg : Message} (h : msg.vfrHud? ≠ none) : msg.type = .vfrHud := by
  unfold Message.vfrHud? at h
  cases hb : msg.body <;> simp [hb, Message.type] at h ⊢

theorem gpsRaw?_type {msg : Message} (h : msg.gpsRaw? ≠ none) : msg.type = .gpsRawInt := by
  unfold Message.gpsRaw? at h
  cases hb : msg.body <;> simp [hb, Message.type] at h ⊢

/-- The specification only looks at the five subsequences. -/
theorem lastKnownPayload_congr {env : Env} {ms ns : List Message}
    (h : ∀ type, ofType env type ms = ofType env type ns) :
    lastKnownPayload env ms = lastKnownPayload env ns := by
  have hselect {α : Type} {type : MsgType} {select : Message → Option α}
      (hsel : ∀ msg, select msg ≠ none → msg.type = type) :
      (fromTarget env ms).filterMap select = (fromTarget env ns).filterMap select := by
    rw [← filterMap_ofType hsel, ← filterMap_ofType hsel, h]
  simp only [lastKnownPayload, hselect fun _ => globalPosition?_type,
    hselect fun _ => heartbeat?_type, hselect fun _ => sysStatus?_type,
    hselect fun _ => vfrHud?_type, hselect fun _ => gpsRaw?_type]

/-- **Last-known values.** Folding `update_state` over any messages and
building the payload gives the last-known-value payload; so two message
lists with the same subsequences of the connected system, type by type,
give the same payload. -/
theorem payload_refines_lastKnown (env : Env) :
    (∀ msgs, buildPayload (msgs.foldl (updateState env) (Sender.init env))
        = lastKnownPayload env msgs)
    ∧ ∀ ms ns, (∀ type, ofType env type ms = ofType env type ns) →
        buildPayload (ms.foldl (updateState env) (Sender.init env))
          = buildPayload (ns.foldl (updateState env) (Sender.init env)) := by
  refine ⟨payload_eq_lastKnown env, fun ms ns h => ?_⟩
  rw [payload_eq_lastKnown, payload_eq_lastKnown, lastKnownPayload_congr h]

/-- A ground station's heartbeat and the order of the autopilot's messages
do not show in the bench payload. -/
theorem bench_payload_interleaved :
    let armed : Message := ⟨1, 1, .heartbeat ⟨2, 3, 217, 4⟩⟩
    let ground : Message := ⟨255, 190, .heartbeat ⟨6, 8, 0, 0⟩⟩
    buildPayload ([benchFix, armed].foldl (updateState benchEnv) (Sender.init benchEnv))
      = buildPayload ([armed, ground, benchFix].foldl (updateState benchEnv)
          (Sender.init benchEnv)) :=
  (payload_refines_lastKnown benchEnv).2 _ _ fun type => by cases type <;> rfl

end Specter
