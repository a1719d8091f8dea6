import Specter.Lib.Binary64

/-!
# MAVLink messages

The messages `update_state` looks into, with the fields it reads at
their wire widths, and the Python arithmetic it applies to them. A
decoded field is an integer of its wire type, except for the `float`
fields, which may be any IEEE value.
-/

namespace Specter

/-- A Python float. A quotient of integers is always `finite`; only a
float that comes off the wire can be one of the others. -/
inductive PyFloat where
  | finite (q : ℚ)
  | inf (negative : Bool)
  | nan
deriving Repr, DecidableEq

/-- The double `180 / math.pi`. -/
def degreesPerRadian : ℚ := 1007958012753983 / 17592186044416

/-- `math.degrees`. -/
def degrees : PyFloat → PyFloat
  | .finite q => .finite (Binary64.round (q * degreesPerRadian))
  | .inf negative => .inf negative
  | .nan => .nan

/-- `n / d` on Python integers: the double nearest to the quotient. -/
def trueDiv (n : Int) (d : Nat) : ℚ := Binary64.round (n / d)

/-- `round(raw / 1e7, 6)`: degrees from a latitude or longitude as it is
sent, in units of 1e-7 degrees. -/
def roundedDegrees (raw : Int32) : ℚ :=
  Binary64.roundDecimal 6 (trueDiv raw.toInt 10000000)

/-- Scaling an integer errs by half a unit in the last place at most; no
quotient by a scale of MAVLink is subnormal. -/
theorem abs_trueDiv_sub_le (n : Int) {d : Nat} (hd : d ≤ 10000000) :
    |trueDiv n d - n / d| ≤ |(n / d : ℚ)| * 2 ^ (-53 : ℤ) := by
  by_cases hzero : (n / d : ℚ) = 0
  · simp [trueDiv, hzero]
  · refine Binary64.abs_round_sub_le_mul ?_
    obtain ⟨hn, hd0⟩ := div_ne_zero_iff.mp hzero
    have hnum : (1 : ℚ) ≤ |(n : ℚ)| := by
      exact_mod_cast Int.one_le_abs (by exact_mod_cast hn)
    have hden : (0 : ℚ) < d := by exact_mod_cast Nat.pos_of_ne_zero (by exact_mod_cast hd0)
    have hdle : (d : ℚ) ≤ 10000000 := by exact_mod_cast hd
    rw [abs_div, abs_of_pos hden, le_div_iff₀ hden]
    calc (2 : ℚ) ^ (-1022 : ℤ) * d ≤ 2 ^ (-24 : ℤ) * 10000000 := by
          refine mul_le_mul ?_ hdle hden.le (zpow_pos two_pos _).le
          exact zpow_le_zpow_right₀ (by norm_num) (by norm_num)
      _ ≤ 1 := by norm_num
      _ ≤ |(n : ℚ)| := hnum

/-- Coordinates of at most half a micro-degree round to zero. -/
theorem roundedDegrees_eq_zero_iff (raw : Int32) :
    roundedDegrees raw = 0 ↔ |raw.toInt| ≤ 5 := by
  set n := raw.toInt with hn
  set x := trueDiv n 10000000 with hx
  have herr : |x - (n : ℚ) / 10000000| ≤ |(n : ℚ) / 10000000| * 2 ^ (-53 : ℤ) := by
    exact_mod_cast abs_trueDiv_sub_le n (d := 10000000) le_rfl
  -- in micro-degrees, the error is far below what separates 0.5 from 0.6 and 0.4
  have hscaled : |x * 10 ^ 6 - (n : ℚ) / 10| ≤ |(n : ℚ)| * (1 / 10000) := by
    have hpow : (0 : ℚ) < 10 ^ 6 := by norm_num
    rw [abs_div, abs_of_pos (show (0 : ℚ) < 10000000 by norm_num)] at herr
    calc |x * 10 ^ 6 - (n : ℚ) / 10| = |x - (n : ℚ) / 10000000| * 10 ^ 6 := by
          rw [← abs_of_pos hpow, ← abs_mul, abs_of_pos hpow]; congr 1; ring
      _ ≤ |(n : ℚ)| / 10000000 * 2 ^ (-53 : ℤ) * 10 ^ 6 :=
          mul_le_mul_of_nonneg_right herr hpow.le
      _ = |(n : ℚ)| * (2 ^ (-53 : ℤ) / 10) := by ring
      _ ≤ |(n : ℚ)| * (1 / 10000) := mul_le_mul_of_nonneg_left (by norm_num) (abs_nonneg _)
  have hbounds := abs_le.mp ((abs_abs_sub_abs_le (x * 10 ^ 6) ((n : ℚ) / 10)).trans hscaled)
  rw [abs_div, abs_of_pos (show (0 : ℚ) < 10 by norm_num)] at hbounds
  constructor
  · intro hzero
    by_contra hlarge
    have hsix : (6 : ℚ) ≤ |(n : ℚ)| := by exact_mod_cast Int.not_le.mp hlarge
    have hne : Binary64.roundHalfEven (x * 10 ^ 6) ≠ 0 :=
      Binary64.roundHalfEven_ne_zero (by linarith [hbounds.1])
    refine Binary64.round_ne_zero ?_ hzero
    have hone : (1 : ℚ) ≤ |(Binary64.roundHalfEven (x * 10 ^ 6) : ℚ)| := by
      exact_mod_cast Int.one_le_abs hne
    rw [abs_div, abs_of_pos (show (0 : ℚ) < 10 ^ 6 by norm_num), le_div_iff₀ (by norm_num)]
    calc (2 : ℚ) ^ (-1022 : ℤ) * 10 ^ 6 ≤ 2 ^ (-20 : ℤ) * 10 ^ 6 :=
          mul_le_mul_of_nonneg_right
            (zpow_le_zpow_right₀ (by norm_num) (by norm_num)) (by norm_num)
      _ ≤ 1 := by norm_num
      _ ≤ _ := hone
  · intro hsmall
    suffices hround : Binary64.roundHalfEven (x * 10 ^ 6) = 0 by
      rw [roundedDegrees, Binary64.roundDecimal, hround]; simp
    rcases hsmall.eq_or_lt with hfive | hless
    · -- the double nearest to 5e-7 is below it
      rcases (abs_eq (by norm_num)).mp hfive with h | h <;>
        rw [hx, h] <;> decide +kernel
    · have hfour : |(n : ℚ)| ≤ 4 := by exact_mod_cast Int.le_of_lt_add_one hless
      exact Binary64.roundHalfEven_eq_zero (by linarith [hbounds.2])

/-! ## Messages -/

structure GlobalPositionInt where
  lat : Int32
  lon : Int32
  relativeAlt : Int32
  hdg : UInt16
deriving Repr, DecidableEq

/-- HEARTBEAT, as far as `update_state` and `mode_string_v10` read it. -/
structure Heartbeat where
  type : UInt8
  autopilot : UInt8
  baseMode : UInt8
  customMode : UInt32
deriving Repr, DecidableEq

structure SysStatus where
  batteryRemaining : Int8
  voltageBattery : UInt16
deriving Repr, DecidableEq

/-- ATTITUDE, in radians. -/
structure Attitude where
  roll : PyFloat
  pitch : PyFloat
  yaw : PyFloat
deriving Repr, DecidableEq

structure VfrHud where
  groundspeed : PyFloat
deriving Repr, DecidableEq

structure GpsRawInt where
  fixType : UInt8
  satellitesVisible : UInt8
deriving Repr, DecidableEq

/-- What `get_type()` distinguishes, with the fields read from each. Any
type without a branch of its own (and `BAD_DATA`) is `other`. -/
inductive Body where
  | globalPositionInt (pos : GlobalPositionInt)
  | heartbeat (beat : Heartbeat)
  | sysStatus (status : SysStatus)
  | attitude (att : Attitude)
  | vfrHud (hud : VfrHud)
  | gpsRawInt (gps : GpsRawInt)
  | other (name : String)
deriving Repr, DecidableEq

/-- A message with the two ids that name the node it comes from. -/
structure Message where
  srcSystem : UInt8
  srcComponent : UInt8
  body : Body
deriving Repr, DecidableEq

inductive MsgType where
  | globalPositionInt | heartbeat | sysStatus | attitude | vfrHud | gpsRawInt
  | other (name : String)
deriving Repr, DecidableEq

def Message.type (msg : Message) : MsgType :=
  match msg.body with
  | .globalPositionInt _ => .globalPositionInt
  | .heartbeat _ => .heartbeat
  | .sysStatus _ => .sysStatus
  | .attitude _ => .attitude
  | .vfrHud _ => .vfrHud
  | .gpsRawInt _ => .gpsRawInt
  | .other name => .other name

def modeFlagSafetyArmed : UInt8 := 128

/-- `bool(msg.base_mode & MAV_MODE_FLAG_SAFETY_ARMED)`. -/
def Heartbeat.armed (beat : Heartbeat) : Bool :=
  beat.baseMode &&& modeFlagSafetyArmed != 0

end Specter
