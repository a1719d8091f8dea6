import Specter.LastKnown

/-!
# Values that stand for "field not provided"

A MAVLink field that the sender cannot fill holds a sentinel. The
SYS_STATUS branch skips such a field, and the payload keeps the last
value that was provided; the branches of GLOBAL_POSITION_INT and
GPS_RAW_INT store what they get. So a payload is free of sentinels
exactly if the last heading and the last satellite count were provided
(`sentinelFree_iff`): an earlier sentinel has been overwritten by then.
-/

namespace Specter

def GlobalPositionInt.reportsHeading (pos : GlobalPositionInt) : Bool := pos.hdg ≠ 65535

def GpsRawInt.reportsSatellites (gps : GpsRawInt) : Bool := gps.satellitesVisible ≠ 255

/-- A heading is below 360 degrees or not provided. -/
def Message.WellFormed (msg : Message) : Prop :=
  ∀ pos, msg.globalPosition? = some pos → pos.hdg = 65535 ∨ pos.hdg < 36000

/-! ## The rule -/

def positions (env : Env) (msgs : List Message) : List GlobalPositionInt :=
  (fromTarget env msgs).filterMap (·.globalPosition?)

def statuses (env : Env) (msgs : List Message) : List SysStatus :=
  (fromTarget env msgs).filterMap (·.sysStatus?)

def gpsFixes (env : Env) (msgs : List Message) : List GpsRawInt :=
  (fromTarget env msgs).filterMap (·.gpsRaw?)

/-- The payload built after `msgs` carries no value derived from a
sentinel: each of the four fields that can be missing keeps the last
value provided. -/
structure SentinelFree (env : Env) (msgs : List Message) (payload : Payload) : Prop where
  battery_ne : payload.battery ≠ -1
  voltage_ne : payload.voltage ≠ trueDiv 65535 1000
  heading_range : 0 ≤ payload.heading ∧ payload.heading ≤ 359
  satellites_ne : payload.satellites ≠ 255
  battery : payload.battery = lastKnown (fun s => (s.batteryRemaining.toInt : ℚ))
    (State.init env).battery ((statuses env msgs).filter (·.reportsBattery))
  voltage : payload.voltage = lastKnown (fun s => trueDiv s.voltageBattery.toNat 1000) 0
    ((statuses env msgs).filter (·.reportsVoltage))
  heading : payload.heading = lastKnown (fun pos => pyInt (trueDiv pos.hdg.toNat 100)) 0
    ((positions env msgs).filter (·.reportsHeading))
  satellites : payload.satellites = lastKnown (·.satellitesVisible) 0
    ((gpsFixes env msgs).filter (·.reportsSatellites))

/-! ## Scaled fields -/

/-- No other reading in millivolts becomes 65.535 volts. -/
theorem trueDiv_voltage_ne {v : UInt16} (h : v ≠ 65535) :
    trueDiv v.toNat 1000 ≠ trueDiv 65535 1000 := by
  intro heq
  have hle : (v.toNat : ℚ) ≤ 65534 := by
    have := v.toNat_lt
    have hne : v.toNat ≠ 65535 := fun h' => h (UInt16.toNat_inj.mp h')
    exact_mod_cast (by omega : v.toNat ≤ 65534)
  have herr := abs_le.mp (abs_trueDiv_sub_le v.toNat (d := 1000) (by norm_num))
  have hmax := abs_le.mp (abs_trueDiv_sub_le 65535 (d := 1000) (by norm_num))
  rw [abs_of_nonneg (by positivity)] at herr
  rw [heq] at herr
  norm_num at herr hmax
  linarith [herr.2, hmax.1]

theorem pyInt_heading_range {hdg : UInt16} (h : hdg < 36000) :
    0 ≤ pyInt (trueDiv hdg.toNat 100) ∧ pyInt (trueDiv hdg.toNat 100) ≤ 359 := by
  have hle : (hdg.toNat : ℚ) ≤ 35999 := by
    exact_mod_cast Nat.le_of_lt_succ (UInt16.lt_iff_toNat_lt.mp h)
  have hnonneg : (0 : ℚ) ≤ hdg.toNat := by positivity
  have herr := abs_le.mp (abs_trueDiv_sub_le hdg.toNat (d := 100) (by norm_num))
  rw [abs_of_nonneg (by positivity)] at herr
  norm_num at herr
  have hlow : 0 ≤ trueDiv hdg.toNat 100 := by linarith [herr.1]
  have hhigh : trueDiv hdg.toNat 100 < 360 := by linarith [herr.2]
  rw [pyInt, if_pos hlow]
  exact ⟨Int.floor_nonneg.mpr hlow,
    Int.le_of_lt_add_one (Int.floor_lt.mpr (by exact_mod_cast hhigh))⟩

/-! ## Which payloads are free of sentinels -/

theorem battery_ne (env : Env) (msgs : List Message) :
    (lastKnownPayload env msgs).battery ≠ -1 := by
  rcases lastKnown_eq_init_or (fun s : SysStatus => (s.batteryRemaining.toInt : ℚ))
    (State.init env).battery ((statuses env msgs).filter (·.reportsBattery)) with
    hinit | ⟨status, hmem, -, hread⟩
  · intro h
    have : Binary64.round (1 / 10) = -1 := hinit.symm.trans h
    revert this
    decide +kernel
  · intro h
    have hneg : (status.batteryRemaining.toInt : ℚ) = -1 := hread.symm.trans h
    have hreports : 0 ≤ status.batteryRemaining.toInt := by
      simpa [SysStatus.reportsBattery] using (List.mem_filter.mp hmem).2
    have : status.batteryRemaining.toInt = -1 := by exact_mod_cast hneg
    omega

theorem voltage_ne (env : Env) (msgs : List Message) :
    (lastKnownPayload env msgs).voltage ≠ trueDiv 65535 1000 := by
  rcases lastKnown_eq_init_or (fun s : SysStatus => trueDiv s.voltageBattery.toNat 1000) 0
    ((statuses env msgs).filter (·.reportsVoltage)) with hinit | ⟨status, hmem, -, hread⟩
  · intro h
    have : (0 : ℚ) = trueDiv 65535 1000 := hinit.symm.trans h
    revert this
    decide +kernel
  · intro h
    have hreports : status.voltageBattery ≠ 65535 := by
      simpa [SysStatus.reportsVoltage] using (List.mem_filter.mp hmem).2
    exact trueDiv_voltage_ne hreports (hread.symm.trans h)

/-- **Sentinels.** Whatever the flight controller sends, the payload is
free of sentinels if and only if the last heading and the last satellite
count it sent are none. -/
theorem sentinelFree_iff (env : Env) (msgs : List Message)
    (hwire : ∀ msg ∈ fromTarget env msgs, msg.WellFormed) :
    SentinelFree env msgs (buildPayload (msgs.foldl (updateState env) (Sender.init env))) ↔
      (∀ pos, (positions env msgs).getLast? = some pos → pos.hdg ≠ 65535) ∧
      ∀ gps, (gpsFixes env msgs).getLast? = some gps → gps.satellitesVisible ≠ 255 := by
  rw [payload_eq_lastKnown]
  have hheading : (lastKnownPayload env msgs).heading =
      lastKnown (fun pos => pyInt (trueDiv pos.hdg.toNat 100)) 0 (positions env msgs) := rfl
  have hsatellites : (lastKnownPayload env msgs).satellites =
      lastKnown (·.satellitesVisible) 0 (gpsFixes env msgs) := rfl
  constructor
  · intro h
    constructor
    · intro pos hlast hdg
      -- 65535 centi-degrees are stored as 655 degrees
      have hshown : (lastKnownPayload env msgs).heading = pyInt (trueDiv 65535 100) := by
        rw [hheading, lastKnown, hlast]
        simp [hdg]
      have hrange := h.heading_range.2
      rw [hshown] at hrange
      revert hrange
      decide +kernel
    · intro gps hlast hsat
      refine h.satellites_ne ?_
      rw [hsatellites, lastKnown, hlast]
      simpa using hsat
  · rintro ⟨hpos, hgps⟩
    refine
      { battery_ne := battery_ne env msgs
        voltage_ne := voltage_ne env msgs
        heading_range := ?_
        satellites_ne := ?_
        battery := rfl
        voltage := rfl
        heading := ?_
        satellites := ?_ }
    · rcases lastKnown_eq_init_or (fun pos : GlobalPositionInt => pyInt (trueDiv pos.hdg.toNat 100))
        0 (positions env msgs) with hinit | ⟨pos, hmem, hlast, hread⟩
      · rw [hheading, hinit]; decide
      · obtain ⟨msg, hmsg, hsel⟩ := List.mem_filterMap.mp hmem
        rw [hheading, hread]
        exact pyInt_heading_range ((hwire msg hmsg pos hsel).resolve_left (hpos pos hlast))
    · rcases lastKnown_eq_init_or (fun gps : GpsRawInt => gps.satellitesVisible) 0
        (gpsFixes env msgs) with hinit | ⟨gps, -, hlast, hread⟩
      · rw [hsatellites, hinit]; decide
      · rw [hsatellites, hread]
        exact hgps gps hlast
    · rw [hheading, lastKnown_filter]
      intro pos hlast
      simpa [GlobalPositionInt.reportsHeading] using hpos pos hlast
    · rw [hsatellites, lastKnown_filter]
      intro gps hlast
      simpa [GpsRawInt.reportsSatellites] using hgps gps hlast

/-- A heading that was not provided is overwritten by the next one. -/
theorem bench_sentinelFree :
    let unknown : Message := ⟨1, 1, .globalPositionInt ⟨285271350, 770654210, 15430, 65535⟩⟩
    SentinelFree benchEnv [unknown, benchFix]
      (buildPayload ([unknown, benchFix].foldl (updateState benchEnv) (Sender.init benchEnv))) := by
  refine (sentinelFree_iff benchEnv _ ?_).mpr ⟨?_, ?_⟩
  · intro msg hmsg pos hpos
    rcases List.mem_pair.mp (List.mem_of_mem_filter hmsg) with rfl | rfl <;> cases hpos
    · exact Or.inl rfl
    · exact Or.inr (by decide)
  · intro pos hlast
    cases hlast
    decide
  · intro gps hlast
    cases hlast

/-- A GPS that does not know its heading or its satellites: the payload
has a heading of 655 degrees and 255 satellites. -/
theorem sentinels_posted :
    let unknown : Message := ⟨1, 1, .globalPositionInt ⟨285271350, 770654210, 15430, 65535⟩⟩
    let gps : Message := ⟨1, 1, .gpsRawInt ⟨3, 255⟩⟩
    let payload := buildPayload
      ([benchFix, unknown, gps].foldl (updateState benchEnv) (Sender.init benchEnv))
    payload.heading = 655 ∧ payload.satellites = 255
      ∧ ¬ SentinelFree benchEnv [benchFix, unknown, gps] payload := by
  intro unknown gps payload
  have hshown : payload.heading = 655 ∧ payload.satellites = 255 := by decide +kernel
  exact ⟨hshown.1, hshown.2, fun h => h.satellites_ne hshown.2⟩

end Specter
