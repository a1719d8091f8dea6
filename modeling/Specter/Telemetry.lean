import Mathlib.Data.Finset.Basic
import Specter.Lib.Register
import Specter.Mavlink

/-!
# The telemetry accumulator

`TelemetrySender` with its dictionary of last-known values, the message
handler `update_state` that fills it and `build_payload` that reads it.
What the process writes to its log is kept as an append-only list.
-/

namespace Specter

/-- What a sender process is started with. `targetSystem` is the system
id `connect()` learnt from the first heartbeat, and `modeStringV10` is
pymavlink's `mode_string_v10`. -/
structure Env where
  sendInterval : Int  -- `SEND_INTERVAL`, in seconds
  bypassGpsGate : Bool  -- `BYPASS_GPS_GATE == "1"`
  targetSystem : UInt8
  modeStringV10 : Heartbeat → String

/-- `self.state`. Numbers computed from integers are finite, so they are
rationals here; `speed` is a float as it came off the wire. The three
angles are absent until the first ATTITUDE. -/
structure State where
  lat : Option ℚ
  lon : Option ℚ
  alt : ℚ
  speed : PyFloat
  heading : ℚ
  battery : ℚ
  voltage : ℚ
  armed : Bool
  flightMode : String
  gpsFixType : UInt8
  satellites : UInt8
  roll : Option PyFloat
  yaw : Option PyFloat
  pitch : Option PyFloat
deriving Repr, DecidableEq

structure Payload where
  lat : Option ℚ
  lon : Option ℚ
  alt : ℚ
  speed : PyFloat
  heading : Int
  battery : ℚ
  voltage : ℚ
  armed : Bool
  flightMode : String
  gpsFixType : UInt8
  satellites : UInt8
deriving Repr, DecidableEq

/-- The exception classes below `httpx.TransportError`, and that class
itself. -/
inductive TransportError where
  | transportError
  | timeoutException | connectTimeout | readTimeout | writeTimeout | poolTimeout
  | networkError | connectError | readError | writeError | closeError
  | protocolError | localProtocolError | remoteProtocolError
  | proxyError | unsupportedProtocol
deriving Repr, DecidableEq

/-- The log messages, with the values each of them prints. -/
inductive LogEvent where
  | sawHeartbeat (src fc : UInt8)  -- `Saw heartbeat from sysid=… (FC sysid=…)`
  | armedChanged (armed : Bool)  -- `Armed` or `Disarmed`
  | flightMode (old new : String)  -- `Flight mode: … -> …`
  | fixAcquired (satellites : UInt8)  -- `GPS 3D fix acquired, satellites=…`
  | waitingForPosition  -- `Waiting for first GPS position before sending telemetry...`
  | tx (payload : Payload)  -- `TX lat=… lon=… alt=… armed=… mode=… fix=… sats=…`
  | firstSent  -- `First telemetry sent successfully`
  | cloudRestored (failures : Nat)  -- `Cloud connection restored after … failures`
  | authRestored (rejections : Nat)  -- `Auth restored after … rejections`
  | authRejected (backoff : Nat)  -- `Auth rejected (401); backing off …s. Check DRONE_API_KEY.`
  | clientError (status : Int) (text : String)  -- `Client error: …: …`
  | serverError (status : Int) (text : String)  -- `Server error: …: …`
  | sendFailed (error : TransportError)  -- `Send Failed: …`
  | cloudLost  -- `Cloud connection lost`
deriving Repr, DecidableEq

structure Sender where
  state : State
  failCount : Nat  -- transport failures and 5xx
  authFailCount : Nat  -- 401s
  lastSend : ℚ
  nextSendAfter : ℚ
  seenSysids : Finset UInt8
  log : List LogEvent
deriving DecidableEq

/-- The dictionary `__init__` starts from; a float literal is the double
nearest to it. -/
def State.init (env : Env) : State where
  lat := if env.bypassGpsGate then some (Binary64.round (286139 / 10000)) else none
  lon := if env.bypassGpsGate then some (Binary64.round (772090 / 10000)) else none
  alt := 0
  speed := .finite 0
  heading := 0
  battery := Binary64.round (1 / 10)
  voltage := 0
  armed := false
  flightMode := "UNKNOWN"
  gpsFixType := 0
  satellites := 0
  roll := none
  yaw := none
  pitch := none

/-- `TelemetrySender.__init__`. -/
def Sender.init (env : Env) : Sender where
  state := State.init env
  failCount := 0
  authFailCount := 0
  lastSend := 0
  nextSendAfter := 0
  seenSysids := ∅
  log := []

/-- `log.info` and `log.error`. -/
def Sender.emit (self : Sender) (event : LogEvent) : Sender :=
  { self with log := self.log ++ [event] }

def Sender.emitIf (self : Sender) (cond : Prop) [Decidable cond] (event : LogEvent) : Sender :=
  if cond then self.emit event else self

/-! ## `update_state` -/

/-- The note taken of the first heartbeat of every system id. -/
def noteHeartbeat (env : Env) (self : Sender) (msg : Message) : Sender :=
  if msg.type = .heartbeat ∧ msg.srcSystem ∉ self.seenSysids then
    { self with seenSysids := insert msg.srcSystem self.seenSysids }.emit
      (.sawHeartbeat msg.srcSystem env.targetSystem)
  else self

def updateState (env : Env) (self : Sender) (msg : Message) : Sender :=
  let self := noteHeartbeat env self msg
  if msg.srcSystem ≠ env.targetSystem then self
  else
    let st := self.state
    match msg.body with
    | .globalPositionInt pos =>
      let lat := roundedDegrees pos.lat
      let lon := roundedDegrees pos.lon
      -- (0, 0) is what the FC sends before GPS lock
      let st := if lat ≠ 0 ∧ lon ≠ 0 then { st with lat := some lat, lon := some lon } else st
      { self with state := { st with
          alt := trueDiv pos.relativeAlt.toInt 1000
          heading := trueDiv pos.hdg.toNat 100 } }
    | .heartbeat beat =>
      let newArmed := beat.armed
      let newMode := env.modeStringV10 beat
      let self := self.emitIf (newArmed ≠ st.armed) (.armedChanged newArmed)
      let self := self.emitIf (newMode ≠ st.flightMode) (.flightMode st.flightMode newMode)
      { self with state := { st with armed := newArmed, flightMode := newMode } }
    | .sysStatus status =>
      -- -1 and 65535 stand for "field not provided"
      let st := if 0 ≤ status.batteryRemaining.toInt then
        { st with battery := status.batteryRemaining.toInt } else st
      let st := if status.voltageBattery ≠ 65535 then
        { st with voltage := trueDiv status.voltageBattery.toNat 1000 } else st
      { self with state := st }
    | .attitude att =>
      { self with state := { st with
          roll := some (degrees att.roll)
          yaw := some (degrees att.yaw)
          pitch := some (degrees att.pitch) } }
    | .vfrHud hud => { self with state := { st with speed := hud.groundspeed } }
    | .gpsRawInt gps =>
      let self := self.emitIf (st.gpsFixType < 3 ∧ 3 ≤ gps.fixType)
        (.fixAcquired gps.satellitesVisible)
      { self with state := { st with
          gpsFixType := gps.fixType
          satellites := gps.satellitesVisible } }
    | .other _ => self

/-- `int(x)` on a finite float: truncation towards zero. -/
def pyInt (x : ℚ) : Int := if 0 ≤ x then ⌊x⌋ else ⌈x⌉

def buildPayload (self : Sender) : Payload where
  lat := self.state.lat
  lon := self.state.lon
  alt := self.state.alt
  speed := self.state.speed
  heading := pyInt self.state.heading
  battery := self.state.battery
  voltage := self.state.voltage
  armed := self.state.armed
  flightMode := self.state.flightMode
  gpsFixType := self.state.gpsFixType
  satellites := self.state.satellites

/-! ## Frame facts -/

@[simp] theorem emit_state (self : Sender) (e : LogEvent) : (self.emit e).state = self.state := rfl

@[simp] theorem emitIf_state (self : Sender) (c : Prop) [Decidable c] (e : LogEvent) :
    (self.emitIf c e).state = self.state := by
  unfold Sender.emitIf; split <;> rfl

@[simp] theorem noteHeartbeat_state (env : Env) (self : Sender) (msg : Message) :
    (noteHeartbeat env self msg).state = self.state := by
  unfold noteHeartbeat; split <;> rfl

/-! ## A bench set-up

Vehicle 1 with the values of the environment template, standing still at
one position. -/

def benchEnv : Env where
  sendInterval := 1
  bypassGpsGate := false
  targetSystem := 1
  modeStringV10 := fun beat => if beat.customMode = 0 then "STABILIZE" else "AUTO"

def benchFix : Message := ⟨1, 1, .globalPositionInt ⟨285271350, 770654210, 15430, 18045⟩⟩

end Specter
