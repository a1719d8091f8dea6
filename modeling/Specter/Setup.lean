import Specter.SystemSteps

/-!
# The setup scripts

The five `scripts/setup_<module>.sh`, statement by statement, each run
by a shell of its own under `set -e` (without `pipefail`).

A condition `if ! c` has its branches swapped here. `|| true` is
`|| skip`.
-/

namespace Specter

open Posix Shell Shell.Script

def say (text : String) : Script Cmd := .cmd (.echo text.toList)

def tool (t : Tool) : Script Cmd := .cmd (.tool t)

/-- `systemctl start <svc> || true`. -/
def startIfPossible (svc : Service) : Script Cmd := .orElse (.cmd (.start svc)) .skip

def setupWifi : List (Script Cmd) := [
  say "--- WiFi AP Setup ---",
  .ifThenElse (.pipeline (.tool .iwList) [.tool .grepAp])
    (say "AP-capable driver already present, skipping build.")
    (.block [tool .aptHeaders, tool .makeClean, tool .make, tool .makeInstall, tool .modprobe]),
  tool .aptHostapd,
  .orElse (tool .disableVendorServices) .skip,
  .cmd (.mkdirP [.optSpecterBin]),
  .cmd (.cp .wifiStart .wifiStart),
  .cmd (.chmod .wifiStart),
  .cmd (.mkdirP [.etcHostapd, .etcSpecter]),
  .cmd (.cp .wifiEnv .wifiEnv),
  .cmd (.source .wifiEnv),
  .cmd .export,
  .pipeline (.envsubst .hostapdConf) [.tee .hostapdConf],
  .pipeline (.echo "DAEMON_CONF=\"/etc/hostapd/hostapd.conf\"".toList) [.tee .defaultHostapd],
  .cmd (.cp (.unit .droneWifi) (.unit .droneWifi)),
  .cmd .daemonReload,
  .cmd (.enable .droneWifi),
  startIfPossible .droneWifi,
  sayActive "drone-wifi: " .droneWifi,
  say "--- WiFi AP Setup Complete ---"]

def setupMavlink : List (Script Cmd) := [
  say "--- Drone Onboard Setup ---",
  .ifThenElse (.cmd .testPrebuilt)
    (.block [say "Installing prebuilt mavlink-routerd...", .cmd .installPrebuilt])
    (.ifThenElse (tool .commandMavlinkRouterd) .skip
      (.block [
        say "No prebuilt binary found — building from source (slow on low-RAM boards)...",
        .cmd .buildMavlinkRouter])),
  .cmd (.mkdirP [.etcSpecter]),
  .cmd (.mkdirP [.etcMavlinkRouter]),
  .cmd (.cp .mavlinkRouterEnv .mavlinkRouterEnv),
  .cmd (.source .mavlinkRouterEnv),
  .cmd .export,
  .pipeline (.envsubst .mavlinkRouterConf) [.tee .mainConf],
  .cmd (.cp (.unit .mavlinkRouter) (.unit .mavlinkRouter)),
  .cmd .daemonReload,
  .cmd (.enable .mavlinkRouter),
  startIfPossible .mavlinkRouter,
  say "--- Setup Complete ---",
  sayActive "mavlink-router: " .mavlinkRouter]

def setupCamera : List (Script Cmd) := [
  say "---Installing Gstreamer---",
  tool .aptGstreamer,
  .cmd (.mkdirP [.optSpecterBin]),
  .cmd (.cp .cameraRelay .cameraRelay),
  .cmd (.chmod .cameraRelay),
  .cmd (.mkdirP [.etcSpecter]),
  .cmd (.cp .cameraRelayEnv .cameraRelayEnv),
  .ifThenElse (tool .nmcliShowCamera) .skip (.orElse (tool .nmcliAddCamera) .skip),
  .cmd (.cp (.unit .cameraRelay) (.unit .cameraRelay)),
  .cmd .daemonReload,
  .cmd (.enable .cameraRelay),
  startIfPossible .cameraRelay,
  say "---Camera Stream Daemon Started---",
  sayActive "camera-relay: " .cameraRelay]

def setupCellular : List (Script Cmd) := [
  say "---Setting Up Cellular---",
  tool .aptModemmanager,
  .cmd (.mkdirP [.etcSpecter]),
  .cmd (.cp .cellularEnv .cellularEnv),
  .cmd (.source .cellularEnv),
  .ifThenElse (tool .simPinSet)
    (.block [
      .subshell (.orElse (.pipeline (.tool .mmcliList) [.tool .grepModem]) .skip),
      .ifThenElse (tool .modemFound)
        (.orElse (tool .mmcliPin) .skip)
        (say "No modem detected — skipping PIN unlock.")])
    .skip,
  .ifThenElse (tool .nmcliShowGsm) .skip
    (.block [tool .nmcliAddGsm, tool .nmcliAutoconnect]),
  .orElse (tool .nmcliUp)
    (say "Modem not up yet — connection '$CON_NAME' will autoconnect when it appears."),
  say "---Cellular Setup Complete---",
  .orElse (tool .ipAddrShow) .skip,
  .orElse (tool .ping) (say "WARNING: No internet connectivity")]

def setupTelemetry : List (Script Cmd) := [
  say "---Installing Telemetry Sender---",
  .ifThenElse (tool .commandUv) .skip
    (.block [.pipeline (.tool .curlUv) [.tool .shUv], tool .mvUv]),
  .cmd (.mkdirP [.optSpecterSrc]),
  .cmd (.cp .pyproject .pyproject),
  .cmd (.cp .uvLock .uvLock),
  .cmd (.cp .telemetrySender .telemetrySender),
  -- a failing `cd` is left of `&&` and does not end the script
  .andThen (.cmd .cdOptSpecter) (.cmd .uvSync),
  .cmd (.mkdirP [.etcSpecter]),
  .cmd (.cp .telemetrySenderEnv .telemetrySenderEnv),
  .cmd (.chown .telemetrySenderEnv),
  .cmd (.chmod .telemetrySenderEnv),
  .cmd (.cp (.unit .telemetrySender) (.unit .telemetrySender)),
  .cmd .daemonReload,
  .cmd (.enable .telemetrySender),
  .ifThenElse (.cmd .grepKeyUnset)
    (.block [
      say "",
      say "DRONE_API_KEY is empty in /etc/specter/telemetry-sender.env",
      say "Mint a key on the cloud (scripts/mint_key.py) and add it to the file.",
      say "Then start the service: sudo systemctl start telemetry-sender"])
    (.block [startIfPossible .telemetrySender, sayActive "telemetry-sender: " .telemetrySender])]

/-- `scripts/setup_<module>.sh`. -/
def setupScript : Module → List (Script Cmd)
  | .wifi => setupWifi
  | .mavlink => setupMavlink
  | .camera => setupCamera
  | .cellular => setupCellular
  | .telemetry => setupTelemetry

/-- A run of a setup script on a system: what it leaves, and its exit
status. -/
def runSetup (site : Site) (board : Board) (m : Module) (sys : System) : System × Nat :=
  let (p, status) := runScript (shell site board false) (.block (setupScript m)) (.start sys)
  (p.sys, status)

variable {site : Site} {board : Board} {m : Module} {sys : System}

/-! ## What a setup script does -/

theorem runSetup_evolves (site : Site) (board : Board) (m : Module) (sys : System) :
    Evolves (block (setupScript m)).commands sys (runSetup site board m sys).1 :=
  eval_evolves site board false _ true (.start sys)

theorem runSetup_completes {sys' : System} (h : runSetup site board m sys = (sys', 0)) :
    ∃ p, Completes (shell site board false) (.block (setupScript m)) (.start sys) p ∧
      p.sys = sys' :=
  ⟨_, completes_of_status (congrArg Prod.snd h), congrArg Prod.fst h⟩

theorem enable_mem_setupScript {svc : Service}
    (h : Cmd.enable svc ∈ (block (setupScript m)).commands) : m.service = some svc := by
  have hall : (block (setupScript m)).commands.all (fun c =>
      match c with
      | .enable svc => m.service = some svc
      | _ => true) = true := by
    cases m <;> rfl
  simpa using List.all_eq_true.mp hall _ h

theorem enable_mem_of_service {svc : Service} (h : m.service = some svc) :
    .cmd (.enable svc) ∈ setupScript m := by
  cases m <;> cases h <;>
    simp [setupScript, setupWifi, setupMavlink, setupCamera, setupTelemetry]

/-- A setup script enables at most its module's service, -/
theorem runSetup_enabled {svc : Service} (h : svc ∈ (runSetup site board m sys).1.enabled) :
    svc ∈ sys.enabled ∨ m.service = some svc :=
  ((runSetup_evolves site board m sys).enabledBy svc h).imp id enable_mem_setupScript

/-- and does so if it succeeds. -/
theorem runSetup_enables {svc : Service} {sys' : System} (hsvc : m.service = some svc)
    (h : runSetup site board m sys = (sys', 0)) : svc ∈ sys'.enabled := by
  obtain ⟨p, hp, rfl⟩ := runSetup_completes h
  obtain ⟨q, q', out, _, hperform, hafter⟩ := performed_of_mem (enable_mem_of_service hsvc) hp
  refine hafter.enabled ?_
  simp only [perform] at hperform
  split at hperform
  · cases hperform
  · cases hperform
    exact Finset.mem_insert_self _ _

/-- A directory made by a completed script is there at its end. -/
theorem dirs_of_mkdirP {ds : List Dir} {d : Dir} {sys' : System}
    (h : runSetup site board m sys = (sys', 0)) (hmem : .cmd (.mkdirP ds) ∈ setupScript m)
    (hd : d ∈ ds.flatMap Dir.withParents) : d ∈ sys'.dirs := by
  obtain ⟨p, hp, rfl⟩ := runSetup_completes h
  obtain ⟨q, q', out, _, hperform, hafter⟩ := performed_of_mem hmem hp
  cases hperform
  exact hafter.dirs (Finset.mem_union_right _ (List.mem_toFinset.mpr hd))

/-- A file copied by a completed script is there at its end, and so is its
directory. -/
theorem files_of_cp {src : Source} {dst : File} {sys' : System}
    (h : runSetup site board m sys = (sys', 0)) (hmem : .cmd (.cp src dst) ∈ setupScript m) :
    dst.dir ∈ sys'.dirs ∧ sys'.files dst ≠ none := by
  obtain ⟨p, hp, rfl⟩ := runSetup_completes h
  obtain ⟨q, q', out, _, hperform, hafter⟩ := performed_of_mem hmem hp
  obtain ⟨hdir, rfl⟩ := Proc.write_some hperform
  refine ⟨hafter.dirs (by simpa [Proc.apply] using hdir), hafter.files_ne_none ?_⟩
  simp [Proc.apply, System.apply]

end Specter
