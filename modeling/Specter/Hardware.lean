import Specter.Drone
import Specter.Lib.ShellLog

/-!
# Setup scripts on boards with hardware missing

The commands of the setup scripts install something, or activate what
has been installed and look for the hardware it serves, or test what is
there. Under `set -e` only some of a script's commands can end it
(`Script.fatal`), and in all five they are commands of the install
phase.

Nothing the activation phase does lasts in the modelled system either,
so two boards that differ in their hardware get the same run of
`install.sh`. The one question whose answer counts is put by the driver
branch of `setup_wifi.sh`.
-/

namespace Specter

open Posix Shell Shell.Script

/-! ## Phases -/

inductive Phase where
  | install     -- has to succeed
  | activation  -- depends on the hardware, or on what the system runs at the moment
  | test        -- chooses a branch
deriving Repr, DecidableEq

def Tool.phase : Tool → Phase
  | .aptHeaders | .makeClean | .make | .makeInstall | .modprobe | .aptHostapd | .aptGstreamer
  | .aptModemmanager | .nmcliAddGsm | .nmcliAutoconnect | .curlUv | .shUv | .mvUv => .install
  | .iwList | .grepAp | .disableVendorServices | .nmcliShowCamera | .nmcliAddCamera | .mmcliList
  | .grepModem | .modemFound | .mmcliPin | .nmcliUp | .ipAddrShow | .ping => .activation
  | .commandMavlinkRouterd | .simPinSet | .nmcliShowGsm | .commandUv => .test

def Cmd.phase : Cmd → Phase
  | .start _ | .restart _ | .isActive _ => .activation
  | .testPrebuilt | .grepKeyUnset | .testWheels => .test
  | .tool t => t.phase
  | _ => .install

/-- The commands a setup script executes, with the statuses they end with. -/
def setupLog (site : Site) (board : Board) (m : Module) (sys : System) : List (Cmd × Nat) :=
  executed (shell site board false) (.block (setupScript m)) (.start sys)

/-- What was executed of the install phase succeeded. -/
def InstallPhaseOk (log : List (Cmd × Nat)) : Prop :=
  ∀ x ∈ log, x.1.phase = .install → x.2 = 0

instance (log : List (Cmd × Nat)) : Decidable (InstallPhaseOk log) :=
  inferInstanceAs (Decidable (∀ x ∈ log, _))

variable {site : Site} {board board' : Board} {m : Module} {sys : System}

theorem fatal_phase (m : Module) {c : Cmd}
    (h : c ∈ (block (setupScript m)).fatal ++ (block (setupScript m)).carried) :
    c.phase = .install := by
  have hall : ((block (setupScript m)).fatal ++ (block (setupScript m)).carried).all
      (fun c => c.phase = .install) = true := by
    cases m <;> rfl
  simpa using List.all_eq_true.mp hall c h

theorem status_of_installPhaseOk (h : InstallPhaseOk (setupLog site board m sys)) :
    (runSetup site board m sys).2 = 0 := by
  by_contra hne
  obtain ⟨x, hx, hfailed, hc⟩ := fatal_of_status (m := shell site board false) rfl hne
  exact hfailed (h x hx (fatal_phase m hc))

/-! ## Boards that differ in their hardware -/

/-- The boards agree on every command outside the activation phase, and
echo what they are told to. -/
structure SameButHardware (board board' : Board) : Prop where
  status : ∀ c : Cmd, c.phase ≠ .activation → board.status c = board'.status c
  output : ∀ c : Cmd, c.phase ≠ .activation → board.output c = board'.output c
  echo : ∀ text, board.status (.echo text) = 0
  echoWith : ∀ text, board.status (.echoWith text) = 0

theorem SameButHardware.exec_eq (h : SameButHardware board board') {c : Cmd}
    (hc : c.phase ≠ .activation) (p : Proc) (input : Text) :
    exec site board c p input = exec site board' c p input := by
  have hperform : perform site board p input c = perform site board' p input c := by
    cases c with
    | isActive svc => exact absurd rfl hc
    | buildMavlinkRouter | uvSync | uvPipInstall | tool => simp only [perform, h.output _ hc]
    | _ => rfl
  simp only [exec, h.status c hc, h.output c hc, hperform]

/-- Commands that leave the modelled system as it is. -/
def Cmd.inert : Cmd → Bool
  | .echo _ | .echoWith _ | .isActive _ | .start _ | .tool _ | .grepKeyUnset => true
  | _ => false

theorem exec_inert {c : Cmd} (hc : c.inert) (p : Proc) (input : Text) :
    (exec site board c p input).state = p := by
  unfold exec
  split
  · rfl
  · cases hperform : perform site board p input c with
    | none => rfl
    | some r =>
        obtain ⟨out, q⟩ := r
        cases c with
        | echo | echoWith | isActive | tool => cases hperform; rfl
        | start | grepKeyUnset => exact (Proc.test_some hperform).2
        | _ => cases hc

def Cmd.echoes : Cmd → Bool
  | .echo _ | .echoWith _ => true
  | _ => false

theorem exec_echoes (hecho : ∀ text, board.status (.echo text) = 0)
    (hwith : ∀ text, board.status (.echoWith text) = 0) {c : Cmd} (hc : c.echoes) (p : Proc)
    (input : Text) : (exec site board c p input).status = 0 := by
  cases c with
  | echo text => simp [exec, hecho, perform]
  | echoWith text => simp [exec, hwith, perform]
  | _ => cases hc

/-- A statement that can do nothing that lasts, and that only a failing
`echo` ends. -/
def Harmless (a : Script Cmd) : Bool :=
  a.commands.all Cmd.inert && (a.fatal ++ a.carried).all Cmd.echoes

theorem eval_harmless (hecho : ∀ text, board.status (.echo text) = 0)
    (hwith : ∀ text, board.status (.echoWith text) = 0) {a : Script Cmd} (ha : Harmless a)
    (p : Proc) : eval (shell site board false) a true p = (.next 0, p) := by
  obtain ⟨hinert, hechoes⟩ := Bool.and_eq_true _ _ ▸ ha
  have hstate : (eval (shell site board false) a true p).2 = p :=
    eval_keeps (R := fun p q => q = p) (fun _ => rfl) (fun _ _ _ h h' => h'.trans h)
      (fun c hc p input => exec_inert (List.all_eq_true.mp hinert c hc) p input) true p
  obtain ⟨q, hq⟩ := eval_of_fatal (m := shell site board false) rfl
    (fun c hc t input => exec_echoes hecho hwith (List.all_eq_true.mp hechoes c hc) t input) p
  rw [hq] at hstate
  rw [hq, show q = p from hstate]

/-- A statement without commands of the activation phase. -/
def Agnostic (a : Script Cmd) : Bool := a.commands.all fun c => c.phase ≠ .activation

theorem eval_agnostic (h : SameButHardware board board') {a : Script Cmd} (ha : Agnostic a)
    (checked : Bool) (p : Proc) :
    eval (shell site board false) a checked p = eval (shell site board' false) a checked p := by
  have hpf : (shell site board false).pipefail = (shell site board' false).pipefail := rfl
  refine eval_congr hpf (fun c hc p input => ?_) checked p
  exact h.exec_eq (by simpa using List.all_eq_true.mp ha c hc) p input

theorem exec_tool (site : Site) (board : Board) (t : Tool) (p : Proc) (input : Text) :
    (exec site board (.tool t) p input).status = board.status (.tool t)
      ∧ (exec site board (.tool t) p input).state = p := by
  unfold exec
  split
  · exact ⟨rfl, rfl⟩
  · rename_i hzero
    exact ⟨(not_not.mp hzero).symm, rfl⟩

/-- The driver branch of `setup_wifi.sh`. -/
theorem eval_driverBranch (h : SameButHardware board board')
    (hgrep : board.status (.tool .grepAp) = 0 ↔ board'.status (.tool .grepAp) = 0)
    {thn els : Script Cmd} (hthn : Agnostic thn) (hels : Agnostic els) (p : Proc) :
    eval (shell site board false)
        (.ifThenElse (.pipeline (.tool .iwList) [.tool .grepAp]) thn els) true p =
      eval (shell site board' false)
        (.ifThenElse (.pipeline (.tool .iwList) [.tool .grepAp]) thn els) true p := by
  have hcond (board : Board) :
      eval (shell site board false) (.pipeline (.tool .iwList) [.tool .grepAp]) false p =
        (.next (board.status (.tool .grepAp)), p) := by
    have hlist := exec_tool site board .iwList p default
    have hfilter := exec_tool site board .grepAp p
      (exec site board (.tool .iwList) p default).output
    simp [eval, pipe, pipeStatus, shell, Flow.of, hlist.2, hfilter]
  rw [eval_ifThenElse (hcond board), eval_ifThenElse (hcond board'),
    eval_agnostic h hthn, eval_agnostic h hels]
  simp only [hgrep]

/-- A statement whose run does not depend on the hardware. -/
def Steady (a : Script Cmd) : Bool := Harmless a || Agnostic a

theorem eval_steady (h : SameButHardware board board') {a : Script Cmd} (ha : Steady a)
    (p : Proc) :
    eval (shell site board false) a true p = eval (shell site board' false) a true p := by
  rcases Bool.or_eq_true_iff.mp ha with hharmless | hagnostic
  · have hecho (text : Text) : board'.status (.echo text) = 0 :=
      (h.status _ (by simp [Cmd.phase])).symm.trans (h.echo text)
    have hwith (text : Text) : board'.status (.echoWith text) = 0 :=
      (h.status _ (by simp [Cmd.phase])).symm.trans (h.echoWith text)
    rw [eval_harmless h.echo h.echoWith hharmless, eval_harmless hecho hwith hharmless]
  · exact eval_agnostic h hagnostic true p

/-- **One run for both boards.** -/
theorem runSetup_congr (h : SameButHardware board board')
    (hgrep : m = .wifi →
      (board.status (.tool .grepAp) = 0 ↔ board'.status (.tool .grepAp) = 0)) (sys : System) :
    runSetup site board m sys = runSetup site board' m sys := by
  have heval (p : Proc) : eval (shell site board false) (.block (setupScript m)) true p =
      eval (shell site board' false) (.block (setupScript m)) true p := by
    refine eval_block_congr (fun a ha p => ?_) p
    have steady {as : List (Script Cmd)} (hall : as.all Steady = true) (ha : a ∈ as) :
        eval (shell site board false) a true p = eval (shell site board' false) a true p :=
      eval_steady h (List.all_eq_true.mp hall a ha) p
    cases m with
    | wifi =>
        rcases List.mem_cons.mp ha with rfl | ha
        · exact eval_steady h rfl p
        · rcases List.mem_cons.mp ha with rfl | ha
          · exact eval_driverBranch h (hgrep rfl) rfl rfl p
          · exact steady rfl ha
    | mavlink | camera | cellular | telemetry => exact steady rfl ha
  simp only [runSetup, runScript, heval]

/-! ## The set of failed modules -/

def failedModules (report : Report System) : List Module :=
  (report.runs.filter fun r => r.status ≠ 0).map (·.module)

/-- Only the setup scripts and the profiles decide on what is run. -/
theorem install_runs_congr {σ : Type} {env env' : InstallEnv σ}
    (hprofiles : env.profiles = env'.profiles) (hsetup : env.setup = env'.setup)
    (args : List Text) (sys : σ) :
    (install env args sys).map (·.runs) = (install env' args sys).map (·.runs) := by
  have hstep : moduleStep env = moduleStep env' := by
    funext p module
    simp only [moduleStep, hsetup]
  have hwith (o : Options) : (installWith env o sys).runs = (installWith env' o sys).runs := by
    simp only [installWith, hprofiles]
    split
    · rfl
    · split
      · rfl
      · split
        · rfl
        · split
          · rfl
          · split
            · rfl
            · simp only [installModules, moduleLoop, hstep]
  unfold install
  split
  · rfl
  · rfl
  · simp only [Option.map_some, hwith]

/-- The two runs of `install.sh` differ in nothing but the hardware
connected, and the driver branch finds the same. -/
structure InstallRun.SameButHardware (i i' : InstallRun) : Prop where
  args : i.args = i'.args
  profiles : i.profiles = i'.profiles
  site : i.site = i'.site
  board : ∀ m, Specter.SameButHardware (i.board m) (i'.board m)
  driver : (i.board .wifi).status (.tool .grepAp) = 0 ↔
    (i'.board .wifi).status (.tool .grepAp) = 0

theorem failedModules_congr {i i' : InstallRun} (h : i.SameButHardware i') (sys : System) :
    (i.run sys).map failedModules = (i'.run sys).map failedModules := by
  have hsetup : i.env.setup = i'.env.setup := by
    funext m sys
    simp only [InstallRun.env, ← h.site]
    exact runSetup_congr (h.board m) (fun hm => by rw [hm]; exact h.driver) sys
  have hruns : (install i.env i.args sys).map (·.runs) = (install i'.env i.args sys).map (·.runs) :=
    install_runs_congr h.profiles hsetup i.args sys
  have hmap := congrArg
    (Option.map fun rs : List (ModuleRun System) =>
      (rs.filter fun r => r.status ≠ 0).map (·.module)) hruns
  rw [Option.map_map, Option.map_map] at hmap
  rw [InstallRun.run, InstallRun.run, ← h.args]
  exact hmap

/-- **Absent hardware fails no module.** If what a setup script executes
of its install phase succeeds, the script reaches its last line, exits
with 0 and has enabled its service; and the set of modules that fail
does not depend on the hardware, but for the driver branch. -/
theorem hardware_fails_no_module (site : Site) :
    (∀ board m sys, InstallPhaseOk (setupLog site board m sys) →
      (∃ p, Completes (shell site board false) (.block (setupScript m)) (.start sys) p
          ∧ runSetup site board m sys = (p.sys, 0))
        ∧ ∀ svc, m.service = some svc → svc ∈ (runSetup site board m sys).1.enabled)
    ∧ ∀ i i' : InstallRun, i.site = site → i.SameButHardware i' →
        ∀ sys, (i.run sys).map failedModules = (i'.run sys).map failedModules := by
  refine ⟨fun board m sys hok => ?_, fun i i' _ h sys => failedModules_congr h sys⟩
  have hrun : runSetup site board m sys = ((runSetup site board m sys).1, 0) :=
    Prod.ext rfl (status_of_installPhaseOk hok)
  refine ⟨?_, fun svc hsvc => runSetup_enables hsvc hrun⟩
  obtain ⟨p, hp, hsys⟩ := runSetup_completes hrun
  exact ⟨p, hp, hrun.trans (by rw [hsys])⟩

/-- A board with no hardware connected but a WiFi stick, on which nothing
can be activated. -/
def bareBoard : Board :=
  { benchBoard with
    status := fun c => if c.phase = .activation ∧ c ≠ .tool .grepAp then 1 else 0 }

def bareRun : InstallRun := { benchRun "full".toList with board := fun _ => bareBoard }

/-- On it the camera module installs all the same, and the profile with
all modules has no failures that the bench does not have. -/
theorem bareBoard_fails_no_module :
    (runSetup benchSite bareBoard .camera freshImage).2 = 0 ∧
      .cameraRelay ∈ (runSetup benchSite bareBoard .camera freshImage).1.enabled ∧
      ((benchRun "full".toList).run freshImage).map failedModules =
        (bareRun.run freshImage).map failedModules := by
  have hok : InstallPhaseOk (setupLog benchSite bareBoard .camera freshImage) := by
    decide +kernel
  obtain ⟨⟨p, -, hrun⟩, henabled⟩ :=
    (hardware_fails_no_module benchSite).1 bareBoard .camera freshImage hok
  refine ⟨by rw [hrun], henabled _ rfl,
    (hardware_fails_no_module benchSite).2 (benchRun "full".toList) bareRun rfl ?_ freshImage⟩
  exact
    { args := rfl
      profiles := rfl
      site := rfl
      board := fun _ =>
        { status := fun c hc => (if_neg fun h => hc h.1).symm
          output := fun _ _ => rfl
          echo := fun _ => rfl
          echoWith := fun _ => rfl }
      driver := Iff.rfl }

end Specter
