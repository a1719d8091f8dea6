import Specter.SystemSteps

/-!
# `update.sh`

One script for all modules, under `set -euo pipefail`: a block of
commands for each module the recorded profile has, then the restarts.
What a block is for is `copies`: the files it brings up to date, from
the checkout and, for mavlink, from the variables on the drone. What it
takes is `Needs`: it makes no directory, and it expects the variables.

On a board where no command fails for reasons of its own, a block
completes exactly where the system has what it needs, and leaves the
system with its copies made (`refresh_completes`).
-/

namespace Specter

open Posix Shell Shell.Script

/-! ## The script -/

/-- The commands for a module under `if has_module`. -/
def refreshScript : Module → List (Script Cmd)
  | .wifi => [
    .cmd (.cp .wifiStart .wifiStart),
    .cmd (.chmod .wifiStart),
    .cmd (.cp (.unit .droneWifi) (.unit .droneWifi))]
  | .mavlink => [
    .ifThenElse (.cmd .testPrebuilt) (.cmd .installPrebuilt) .skip,
    .cmd (.cp (.unit .mavlinkRouter) (.unit .mavlinkRouter)),
    .cmd (.source .mavlinkRouterEnv),
    .cmd .export,
    .pipeline (.envsubst .mavlinkRouterConf) [.tee .mainConf]]
  | .camera => [
    .cmd (.cp .cameraRelay .cameraRelay),
    .cmd (.chmod .cameraRelay),
    .cmd (.cp (.unit .cameraRelay) (.unit .cameraRelay))]
  | .cellular => []
  | .telemetry => [
    .cmd (.cp .telemetrySender .telemetrySender),
    .cmd (.cp (.unit .telemetrySender) (.unit .telemetrySender)),
    .ifThenElse (.cmd .testWheels)
      (.block [
        .cmd (.echo "Installing vendored dependencies...".toList),
        .subshell (.andThen (.cmd .cdOptSpecter) (.cmd .uvPipInstall))])
      .skip]

/-- `if has_module <m>; then … fi`. The profile does not change during
the run, so the condition is a value. -/
def whenHas (has : Module → Bool) (m : Module) (body : Script Cmd) : Script Cmd :=
  if has m then body else .skip

/-- The modules with a block of their own, in the script's order. -/
def refreshOrder : List Module := [.wifi, .mavlink, .camera, .telemetry]

def refreshBlocks (has : Module → Bool) (ms : List Module) : List (Script Cmd) :=
  ms.map fun m => whenHas has m (.block (refreshScript m))

/-- `systemctl restart <svc> || true`. -/
def restartIfPossible (svc : Service) : Script Cmd := .orElse (.cmd (.restart svc)) .skip

/-- From the reload on. -/
def restartBlocks (has : Module → Bool) (profile : Text) : List (Script Cmd) := [
  .cmd .daemonReload,
  whenHas has .camera (restartIfPossible .cameraRelay),
  whenHas has .telemetry (restartIfPossible .telemetrySender),
  whenHas has .mavlink (restartIfPossible .mavlinkRouter),
  .cmd (.echo ("--- Update Complete (profile: ".toList ++ profile ++ ") ---".toList)),
  whenHas has .wifi (sayActive "drone-wifi:        " .droneWifi),
  whenHas has .mavlink (sayActive "mavlink-router:    " .mavlinkRouter),
  whenHas has .camera (sayActive "camera-relay:      " .cameraRelay),
  whenHas has .telemetry (sayActive "telemetry-sender:  " .telemetrySender)]

/-- Up to the reload. -/
def openingBlocks (has : Module → Bool) (profile : Text) : List (Script Cmd) :=
  .cmd (.echo ("--- Updating Specter Onboard (profile: ".toList ++ profile ++ ") ---".toList)) ::
    refreshBlocks has refreshOrder

def updateScript (has : Module → Bool) (profile : Text) : List (Script Cmd) :=
  openingBlocks has profile ++ restartBlocks has profile

/-- `PROFILE`: what is recorded, or `full`. -/
def recordedProfile (sys : System) : Text :=
  match sys.files .installedProfile with
  | some text => substitute text
  | none => "full".toList

def maintains (ws : SpaceClass) (profiles : Text → Option Text) (sys : System) (m : Module) :
    Bool :=
  hasModule ws (profiles (recordedProfile sys)) m

/-- A run of `update.sh`: what it leaves, with its own journal, and its
exit status. -/
def runUpdate (site : Site) (board : Board) (ws : SpaceClass) (profiles : Text → Option Text)
    (sys : System) : System × Nat :=
  let script := updateScript (maintains ws profiles sys) (recordedProfile sys)
  let (p, status) :=
    runScript (shell site board true) (.block script) (.start { sys with journal := [] })
  (p.sys, status)

/-! ## What the blocks are for -/

/-- The files `update.sh` brings up to date for a module. -/
def copies (site : Site) (board : Board) (sys : System) : Module → List Action
  | .wifi => [
    .wrote .wifiStart (site.checkout.file .wifiStart),
    .wrote (.unit .droneWifi) (site.checkout.file (.unit .droneWifi))]
  | .mavlink =>
    (site.checkout.prebuilt.map (Action.wrote .mavlinkRouterd)).toList ++ [
      .wrote (.unit .mavlinkRouter) (site.checkout.file (.unit .mavlinkRouter)),
      .wrote .mainConf (site.envsubst ((sys.files .mavlinkRouterEnv).getD [])
        (site.checkout.file .mavlinkRouterConf))]
  | .camera => [
    .wrote .cameraRelay (site.checkout.file .cameraRelay),
    .wrote (.unit .cameraRelay) (site.checkout.file (.unit .cameraRelay))]
  | .cellular => []
  | .telemetry => [
    .wrote .telemetrySender (site.checkout.file .telemetrySender),
    .wrote (.unit .telemetrySender) (site.checkout.file (.unit .telemetrySender))] ++
    if site.checkout.wheels then [.wrote .sitePackages (board.output .uvPipInstall)] else []

def restarts : Module → List Action
  | .camera => [.restarted .cameraRelay]
  | .telemetry => [.restarted .telemetrySender]
  | .mavlink => [.restarted .mavlinkRouter]
  | .wifi | .cellular => []

/-- What a module's block takes from the system. -/
def Needs (site : Site) (sys : System) : Module → Prop
  | .wifi | .camera => .optSpecterBin ∈ sys.dirs ∧ .systemd ∈ sys.dirs
  | .mavlink =>
    .etcMavlinkRouter ∈ sys.dirs ∧ sys.files .mavlinkRouterEnv ≠ none ∧ .systemd ∈ sys.dirs ∧
      (site.checkout.prebuilt ≠ none → .usrBin ∈ sys.dirs)
  | .cellular => True
  | .telemetry =>
    .optSpecterSrc ∈ sys.dirs ∧ .systemd ∈ sys.dirs ∧
      (site.checkout.wheels = true → .optSpecter ∈ sys.dirs ∧ .optSpecterVenv ∈ sys.dirs)

instance (site : Site) (sys : System) : (m : Module) → Decidable (Needs site sys m)
  | .wifi | .camera => inferInstanceAs (Decidable (_ ∧ _))
  | .mavlink => inferInstanceAs (Decidable (_ ∧ _ ∧ _ ∧ (_ → _)))
  | .cellular => inferInstanceAs (Decidable True)
  | .telemetry => inferInstanceAs (Decidable (_ ∧ _ ∧ (_ → _)))

variable {site : Site} {board : Board} {sys : System}

theorem applyAll_copies_env (site : Site) (board : Board) (sys sys' : System) (m : Module) :
    (sys.applyAll (copies site board sys' m)).files .mavlinkRouterEnv =
      sys.files .mavlinkRouterEnv := by
  refine System.applyAll_files_of_not_wrote fun text h => ?_
  cases m <;> simp [copies] at h

theorem copies_congr {sys' : System}
    (h : sys'.files .mavlinkRouterEnv = sys.files .mavlinkRouterEnv) (m : Module) :
    copies site board sys' m = copies site board sys m := by
  cases m <;> simp [copies, h]

theorem needs_congr {sys' : System} (hdirs : sys'.dirs = sys.dirs)
    (h : sys'.files .mavlinkRouterEnv = sys.files .mavlinkRouterEnv) (m : Module) :
    Needs site sys' m ↔ Needs site sys m := by
  cases m <;> simp only [Needs, hdirs, h]

/-! ## Commands on a sound board -/

def Proc.applyAll (p : Proc) (as : List Action) : Proc := { p with sys := p.sys.applyAll as }

section Sound

variable {p p' : Proc} {pipefail : Bool}

theorem exec_sound (hboard : board.Sound) (c : Cmd) (p : Proc) (input : Text) :
    exec site board c p input =
      match perform site board p input c with
      | some (output, p) => ⟨0, output, p⟩
      | none => ⟨1, [], p⟩ := by
  have hsound : ¬board.status c ≠ 0 := not_not.mpr (hboard c)
  exact if_neg hsound

theorem completes_sound (hboard : board.Sound) {c : Cmd} :
    Completes (shell site board pipefail) (.cmd c) p p' ↔
      ∃ out, perform site board p [] c = some (out, p') := by
  rw [completes_cmd]
  simp only [shell, exec_sound hboard]
  cases h : perform site board p default c with
  | none => simp
  | some r =>
      obtain ⟨out, q⟩ := r
      simp [eq_comm]

theorem completes_echo (hboard : board.Sound) {text : Text} :
    Completes (shell site board pipefail) (.cmd (.echo text)) p p' ↔ p' = p := by
  simp [completes_sound hboard, perform, eq_comm]

theorem completes_cp (hboard : board.Sound) {src : Source} {dst : File} :
    Completes (shell site board pipefail) (.cmd (.cp src dst)) p p' ↔
      dst.dir ∈ p.sys.dirs ∧ p' = p.apply (.wrote dst (site.checkout.file src)) := by
  rw [completes_sound hboard]
  simp only [perform, Proc.write]
  by_cases h : dst.dir ∈ p.sys.dirs <;> simp [h, eq_comm]

theorem completes_chmod (hboard : board.Sound) {f : File} :
    Completes (shell site board pipefail) (.cmd (.chmod f)) p p' ↔
      p.sys.files f ≠ none ∧ p' = p := by
  rw [completes_sound hboard]
  simp only [perform, Proc.test]
  by_cases h : p.sys.files f = none <;> simp [h, eq_comm]

theorem completes_source (hboard : board.Sound) {f : File} :
    Completes (shell site board pipefail) (.cmd (.source f)) p p' ↔
      ∃ text, p.sys.files f = some text ∧ p' = { p with vars := text } := by
  simp [completes_sound hboard, perform, eq_comm]

theorem completes_export (hboard : board.Sound) :
    Completes (shell site board pipefail) (.cmd .export) p p' ↔
      p' = { p with exported := p.vars } := by
  simp [completes_sound hboard, perform, eq_comm]

theorem completes_render (hboard : board.Sound) {template : Source} {f : File} :
    Completes (shell site board true) (.pipeline (.envsubst template) [.tee f]) p p' ↔
      f.dir ∈ p.sys.dirs ∧
        p' = p.apply (.wrote f (site.envsubst p.exported (site.checkout.file template))) := by
  rw [completes_pipe_pipefail rfl]
  simp only [shell, exec_sound hboard, perform, Proc.write]
  by_cases h : f.dir ∈ p.sys.dirs <;> simp [h]

theorem completes_stage (hboard : board.Sound) {src : Source} {f : File} {svc : Service} :
    Completes (shell site board pipefail)
        (.block [.cmd (.cp src f), .cmd (.chmod f), .cmd (.cp (.unit svc) (.unit svc))]) p p' ↔
      (f.dir ∈ p.sys.dirs ∧ .systemd ∈ p.sys.dirs) ∧
        p' = (p.apply (.wrote f (site.checkout.file src))).apply
          (.wrote (.unit svc) (site.checkout.file (.unit svc))) := by
  simp only [completes_block_cons, completes_block_nil, completes_cp hboard,
    completes_chmod hboard]
  constructor
  · rintro ⟨q, ⟨hdir, rfl⟩, q', ⟨_, rfl⟩, q'', ⟨hunit, rfl⟩, rfl⟩
    exact ⟨⟨hdir, by simpa [Proc.apply, File.dir] using hunit⟩, rfl⟩
  · rintro ⟨⟨hdir, hunit⟩, rfl⟩
    refine ⟨_, ⟨hdir, rfl⟩, _, ⟨?_, rfl⟩, _, ⟨?_, rfl⟩, rfl⟩
    · simp [Proc.apply, System.apply]
    · simpa [Proc.apply, File.dir] using hunit

theorem completes_prebuilt (hboard : board.Sound) :
    Completes (shell site board pipefail)
        (.ifThenElse (.cmd .testPrebuilt) (.cmd .installPrebuilt) .skip) p p' ↔
      (site.checkout.prebuilt ≠ none → .usrBin ∈ p.sys.dirs) ∧
        p' = p.applyAll (site.checkout.prebuilt.map (Action.wrote .mavlinkRouterd)).toList := by
  rw [completes_if, completes_sound hboard]
  simp only [shell, exec_sound hboard, perform, Proc.test]
  cases hpre : site.checkout.prebuilt with
  | none => simp [Proc.applyAll]
  | some text =>
      simp only [Proc.write, File.dir]
      by_cases hdir : Dir.usrBin ∈ p.sys.dirs <;>
        simp [hdir, Proc.applyAll, Proc.apply, eq_comm]

theorem completes_wheels (hboard : board.Sound) :
    Completes (shell site board true)
        (.ifThenElse (.cmd .testWheels)
          (.block [
            .cmd (.echo "Installing vendored dependencies...".toList),
            .subshell (.andThen (.cmd .cdOptSpecter) (.cmd .uvPipInstall))])
          .skip) p p' ↔
      (site.checkout.wheels = true →
        .optSpecter ∈ p.sys.dirs ∧ .optSpecterVenv ∈ p.sys.dirs) ∧
      p' = p.applyAll (if site.checkout.wheels then
        [.wrote .sitePackages (board.output .uvPipInstall)] else []) := by
  rw [completes_if]
  simp only [completes_block_cons, completes_block_nil, completes_echo hboard,
    completes_subshell, runScript_andThen]
  simp only [shell, exec_sound hboard, perform, Proc.test, Proc.write, File.dir]
  cases hw : site.checkout.wheels with
  | false => simp [Proc.applyAll]
  | true =>
      by_cases hopt : Dir.optSpecter ∈ p.sys.dirs <;>
        by_cases hvenv : Dir.optSpecterVenv ∈ p.sys.dirs <;>
          simp [hopt, hvenv, Proc.applyAll, Proc.apply, eq_comm]

def Proc.refreshed (site : Site) (board : Board) (p : Proc) : Module → Proc
  | .mavlink =>
    { sys := p.sys.applyAll (copies site board p.sys .mavlink)
      vars := (p.sys.files .mavlinkRouterEnv).getD []
      exported := (p.sys.files .mavlinkRouterEnv).getD [] }
  | m => p.applyAll (copies site board p.sys m)

theorem Proc.refreshed_sys (site : Site) (board : Board) (p : Proc) (m : Module) :
    (p.refreshed site board m).sys = p.sys.applyAll (copies site board p.sys m) := by
  cases m <;> rfl

theorem mavlinkEnv_after_prebuilt (p : Proc) (prebuilt : Option Text) (text : Text) :
    (((p.applyAll (prebuilt.map (Action.wrote .mavlinkRouterd)).toList).apply
      (.wrote (.unit .mavlinkRouter) text)).sys.files .mavlinkRouterEnv) =
      p.sys.files .mavlinkRouterEnv := by
  cases prebuilt <;> simp [Proc.applyAll, Proc.apply, System.apply]

/-- **Block.** A module's commands complete exactly where the system has
what they need, and then its copies are made. -/
theorem refresh_completes (hboard : board.Sound) (m : Module) :
    Completes (shell site board true) (.block (refreshScript m)) p p' ↔
      Needs site p.sys m ∧ p' = p.refreshed site board m := by
  cases m with
  | wifi => exact completes_stage hboard
  | camera => exact completes_stage hboard
  | cellular => simp [refreshScript, Needs, Proc.refreshed, Proc.applyAll, copies]
  | telemetry =>
      simp only [refreshScript, completes_block_cons, completes_block_nil, completes_cp hboard,
        completes_wheels hboard, Needs, Proc.refreshed, copies]
      constructor
      · rintro ⟨q, ⟨hsrc, rfl⟩, q', ⟨hunit, rfl⟩, q'', ⟨hwheels, rfl⟩, rfl⟩
        exact ⟨⟨hsrc, by simpa [Proc.apply, File.dir] using hunit,
          by simpa [Proc.apply] using hwheels⟩, rfl⟩
      · rintro ⟨⟨hsrc, hunit, hwheels⟩, rfl⟩
        exact ⟨_, ⟨hsrc, rfl⟩, _, ⟨by simpa [Proc.apply, File.dir] using hunit, rfl⟩, _,
          ⟨by simpa [Proc.apply] using hwheels, rfl⟩, rfl⟩
  | mavlink =>
      simp only [refreshScript, completes_block_cons, completes_block_nil, completes_cp hboard,
        completes_prebuilt hboard, completes_source hboard, completes_export hboard,
        completes_render hboard, Needs, Proc.refreshed]
      constructor
      · rintro ⟨_, ⟨hpre, rfl⟩, _, ⟨hunit, rfl⟩, _, ⟨env, henv, rfl⟩, _, rfl, _, ⟨hconf, rfl⟩, rfl⟩
        rw [mavlinkEnv_after_prebuilt] at henv
        refine ⟨⟨?_, by simp [henv], ?_, hpre⟩, ?_⟩
        · simpa [Proc.apply, Proc.applyAll, File.dir] using hconf
        · simpa [Proc.applyAll, File.dir] using hunit
        · simp [copies, henv, Proc.apply, Proc.applyAll, System.applyAll_append]
      · rintro ⟨⟨hconf, henv, hunit, hpre⟩, rfl⟩
        obtain ⟨env, henv⟩ := Option.ne_none_iff_exists'.mp henv
        refine ⟨_, ⟨hpre, rfl⟩, _, ⟨?_, rfl⟩, _, ⟨env, ?_, rfl⟩, _, rfl, _, ⟨?_, rfl⟩, ?_⟩
        · simpa [Proc.applyAll, File.dir] using hunit
        · rw [mavlinkEnv_after_prebuilt, henv]
        · simpa [Proc.apply, Proc.applyAll, File.dir] using hconf
        · simp [copies, henv, Proc.apply, Proc.applyAll, System.applyAll_append]

end Sound

end Specter
