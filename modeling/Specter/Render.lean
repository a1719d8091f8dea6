import Specter.Lib.Envsubst
import Specter.Lib.Register
import Specter.Masking
import Specter.Upkeep

/-!
# The rendered configurations

`hostapd.conf` and mavlink-router's `main.conf` come from templates: the
variables of an environment file are sourced, some are exported, and
`envsubst` puts their values in. Every placeholder of either template is
exported, a field of `ConfTemplate`; so the rendered file has the lines
of the template with the values in place (`lines_render`).

The environment files here are of the kind the repository has: comments,
and assignments whose value `source` takes as it stands. Any other line
would be a command.
-/

namespace Specter

open Posix Envsubst Shell Shell.Script

/-! ## Environment files -/

def isBlank (c : Char) : Bool := c = ' ' || c = '\t'

/-- A character that stands for itself in the value of an assignment. -/
def isLiteral (c : Char) : Bool := c.isAlphanum || "_-+=./:,@%".toList.contains c

/-- What `source` makes of a line: nothing, or an assignment. -/
def envLine (line : Text) : Option (Option (Text × Text)) :=
  let line := line.dropWhile isBlank
  if line = [] ∨ line.head? = some '#' then some none
  else
    let name := line.takeWhile (· ≠ '=')
    let word := (line.drop (name.length + 1)).takeWhile (!isBlank ·)
    let rest := (line.drop (name.length + 1 + word.length)).dropWhile isBlank
    if isName name && line.contains '=' && word.all isLiteral
        && (rest = [] || rest.head? = some '#') then
      some (some (name, word))
    else none

def IsEnv (text : Text) : Prop := ∀ line ∈ lines text, (envLine line).isSome

instance : DecidablePred IsEnv := fun text =>
  inferInstanceAs (Decidable (∀ line ∈ lines text, (envLine line).isSome))

/-- The value a line assigns to a name. -/
def assigns (name line : Text) : Option Text :=
  (envLine line).join.bind fun (n, value) => if n = name then some value else none

/-- The value of a variable when the file has been sourced, if it has one
from there. -/
def sourced (text name : Text) : Option Text :=
  Register.last (fun line => (assigns name line).map some) none (lines text)

example : sourced "A=1\n# A=2\n A=3  # three\nB=x".toList "A".toList = some "3".toList := by decide

theorem isLiteral_of_assigns {name line value : Text} (h : assigns name line = some value) :
    value.all isLiteral := by
  obtain ⟨⟨n, v⟩, hline, hvalue⟩ := Option.bind_eq_some_iff.mp h
  obtain rfl : v = value := by
    dsimp only at hvalue
    split at hvalue
    · exact Option.some.inj hvalue
    · cases hvalue
  unfold envLine at hline
  dsimp only at hline
  split at hline
  · cases hline
  · split at hline
    · next hok =>
        cases hline
        simp only [Bool.and_eq_true] at hok
        exact hok.1.2
    · cases hline

theorem isLiteral_of_sourced {text name value : Text} (h : sourced text name = some value) :
    value.all isLiteral := by
  rcases Register.last_eq_init_or (fun line => (assigns name line).map some) none (lines text) with
    ⟨-, hlast⟩ | ⟨before, line, after, b, -, hline, -, hlast⟩
  · rw [sourced, hlast] at h
    cases h
  · obtain ⟨v, hv, rfl⟩ := Option.map_eq_some_iff.mp hline
    obtain rfl : v = value := Option.some.inj (hlast.symm.trans h)
    exact isLiteral_of_assigns hv

/-! ## Templates -/

/-- A template, and the variables that are exported for it. -/
structure ConfTemplate where
  body : List (List Piece)
  last : List Piece
  exports : List Text
  proper : ∀ line ∈ last :: body, ∀ p ∈ line, p.Proper
  plain : ∀ line ∈ last :: body, ∀ t, .plain t ∈ line → '\n' ∉ t
  exported : ∀ line ∈ last :: body, ∀ name, .var name ∈ line → name ∈ exports

namespace ConfTemplate

variable (t : ConfTemplate)

def text : Text := template t.body t.last

/-- The lines of the template, with values for the placeholders. -/
def linesWith (value : Text → Text) : List Text :=
  t.body.map (valueOf value) ++ if valueOf value t.last = [] then [] else [valueOf value t.last]

/-- The environment of `envsubst`: what the script has inherited, and what
it exports. -/
def environment (inherited : Text → Text) (vars name : Text) : Text :=
  if t.exports.contains name then (sourced vars name).getD (inherited name) else inherited name

def render (inherited : Text → Text) (vars : Text) : Text :=
  expand (t.environment inherited vars) t.text

/-- The file sets all that is exported. -/
def SetBy (vars : Text) : Prop := IsEnv vars ∧ ∀ name ∈ t.exports, sourced vars name ≠ none

instance (vars : Text) : Decidable (t.SetBy vars) := inferInstanceAs (Decidable (_ ∧ _))

variable {t}

theorem environment_eq (inherited : Text → Text) {vars name : Text} (hset : t.SetBy vars)
    (hname : name ∈ t.exports) :
    ∃ value, sourced vars name = some value ∧ t.environment inherited vars name = value := by
  obtain ⟨value, hvalue⟩ := Option.ne_none_iff_exists'.mp (hset.2 name hname)
  exact ⟨value, hvalue, by
    rw [environment, if_pos (List.contains_iff_mem.mpr hname), hvalue, Option.getD_some]⟩

/-- The rendered file has the lines of the template. -/
theorem lines_render {inherited : Text → Text} {vars : Text} (hset : t.SetBy vars) :
    lines (t.render inherited vars) = t.linesWith fun name => (sourced vars name).getD [] := by
  have hsame : ∀ line ∈ t.last :: t.body, valueOf (t.environment inherited vars) line
      = valueOf (fun name => (sourced vars name).getD []) line := by
    intro line hline
    refine congrArg List.flatten (List.map_congr_left fun p hp => ?_)
    cases p with
    | plain _ => rfl
    | var name =>
        obtain ⟨value, hvalue, henv⟩ := environment_eq inherited hset
          (t.exported line hline name hp)
        simp only [Piece.value, henv, hvalue, Option.getD_some]
  have hproper : ∀ line ∈ t.last :: t.body, ∀ p ∈ line,
      p.Proper ∧ '\n' ∉ p.value (t.environment inherited vars) := by
    intro line hline p hp
    refine ⟨t.proper line hline p hp, ?_⟩
    cases p with
    | plain text => exact t.plain line hline text hp
    | var name =>
        obtain ⟨value, hvalue, henv⟩ := environment_eq inherited hset
          (t.exported line hline name hp)
        rw [Piece.value, henv]
        intro hmem
        exact absurd (List.all_eq_true.mp (isLiteral_of_sourced hvalue) _ hmem) (by decide)
  rw [render, text, lines_expand hproper, linesWith, hsame t.last List.mem_cons_self,
    List.map_congr_left fun line hline => hsame line (List.mem_cons_of_mem _ hline)]

end ConfTemplate

def mavlinkRouterConf : ConfTemplate where
  body := [
    [.plain "[General]".toList],
    [.plain "TcpServerPort=".toList, .var "MAVLINK_TCP_PORT".toList],
    [],
    [.plain "[UartEndpoint fc]".toList],
    [.plain "Device=".toList, .var "FC_DEVICE".toList],
    [.plain "Baud=".toList, .var "FC_BAUD".toList],
    [],
    [.plain "[UdpEndpoint gcs]".toList],
    [.plain "Mode=Normal".toList],
    [.plain "Address=".toList, .var "GCS_IP".toList]]
  last := [.plain "Port=".toList, .var "MAVLINK_PORT".toList]
  exports := ["GCS_IP".toList, "MAVLINK_PORT".toList, "MAVLINK_TCP_PORT".toList,
    "FC_DEVICE".toList, "FC_BAUD".toList]
  proper := by decide
  plain := by simp
  exported := by simp

def hostapdConf : ConfTemplate where
  body := [
    [.plain "interface=".toList, .var "WIFI_INTERFACE".toList],
    [.plain "driver=nl80211".toList],
    [],
    [.plain "# Access Point identity".toList],
    [.plain "ssid=".toList, .var "WIFI_SSID".toList],
    [.plain "utf8_ssid=1".toList],
    [],
    [.plain "# 5GHz 802.11ac".toList],
    [.plain "hw_mode=a".toList],
    [.plain "channel=".toList, .var "WIFI_CHANNEL".toList],
    [.plain "country_code=IN".toList],
    [.plain "ieee80211d=1".toList],
    [.plain "wmm_enabled=1".toList],
    [.plain "ieee80211n=1".toList],
    [.plain "ieee80211ac=1".toList],
    [],
    [.plain "# WPA2-PSK".toList],
    [.plain "auth_algs=1".toList],
    [.plain "wpa=2".toList],
    [.plain "wpa_key_mgmt=WPA-PSK".toList],
    [.plain "rsn_pairwise=CCMP".toList],
    [.plain "wpa_passphrase=".toList, .var "WIFI_PASSWORD".toList],
    [],
    [.plain "# Misc".toList],
    [.plain "ignore_broadcast_ssid=0".toList]]
  last := []
  exports := ["WIFI_INTERFACE".toList, "WIFI_SSID".toList, "WIFI_PASSWORD".toList,
    "WIFI_CHANNEL".toList]
  proper := by decide
  plain := by simp
  exported := by simp

/-! ## On the drone -/

/-- The checkout has the template, and `envsubst` is called on it with
what the script has sourced and exported. -/
structure Site.Renders (site : Site) (inherited : Text → Text) (src : Source)
    (t : ConfTemplate) : Prop where
  file : site.checkout.file src = t.text
  envsubst : ∀ vars, IsEnv vars → site.envsubst vars t.text = t.render inherited vars

variable {sys sys' : System} {inherited : Text → Text} {occasions : List Occasion}

def wifiEnvTemplate : Text :=
  "WIFI_INTERFACE=wlan1\nWIFI_SSID=Specter-Drone\nWIFI_PASSWORD=changeme123\n".toList
    ++ "WIFI_CHANNEL=36\nWIFI_IP=192.168.10.1\nWIFI_IP_RANGE=192.168.10.50,192.168.10.150\n".toList

/-- The bench with both templates and the settings of wifi. -/
def renderingSite : Site where
  checkout :=
    { benchSite.checkout with
      file := fun src =>
        match src with
        | .wifiEnv => wifiEnvTemplate
        | .hostapdConf => hostapdConf.text
        | .mavlinkRouterConf => mavlinkRouterConf.text
        | _ => [] }
  envsubst := fun vars template =>
    if template = hostapdConf.text then hostapdConf.render (fun _ => []) vars
    else mavlinkRouterConf.render (fun _ => []) vars

theorem renderingSite_mavlink :
    renderingSite.Renders (fun _ => []) .mavlinkRouterConf mavlinkRouterConf where
  file := rfl
  envsubst := fun vars _ => by
    have hne : mavlinkRouterConf.text ≠ hostapdConf.text := by decide +kernel
    simp only [renderingSite, if_neg hne]

theorem renderingSite_wifi : renderingSite.Renders (fun _ => []) .hostapdConf hostapdConf where
  file := rfl
  envsubst := fun vars _ => by
    simp only [renderingSite, if_true]

def groundStationMoved : Text :=
  "GCS_IP=192.168.10.110\nMAVLINK_PORT=14550\nMAVLINK_TCP_PORT=5760\n".toList
    ++ "FC_DEVICE=/dev/ttyACM0\nFC_BAUD=115200\n# moved\nGCS_IP=192.168.10.111\n".toList

def moved : List Occasion :=
  [.edit fun f => if f = .mavlinkRouterEnv then some groundStationMoved else none]

theorem isUpkeep_moved : IsUpkeep moved := by
  intro i hi
  simp [moved] at hi

end Specter
