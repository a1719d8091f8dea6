import Specter.Drone

/-!
# Does a failed module stand in the way of an update?

`install.sh` runs each setup script by itself and records the profile
whatever became of them. `update.sh` has one script for all modules, and
its blocks take directories and a file of variables that setup scripts
make. So an update isolates failures only where a failed script came far
enough (`Unobstructed`): a block that misses something ends the update,
with the blocks behind it and every restart left undone.

wifi has the first block and no restart, and cellular has neither; only
these two are out of reach of another module's failure.
-/

namespace Specter

open Posix Shell Shell.Script

variable {site : Site} {board : Board} {ws : SpaceClass} {profiles : Text → Option Text}
variable {sys : System}

/-- A module is refreshed by an update of `sys`: its files are brought up
to date and its service is restarted. -/
def Refreshed (site : Site) (board : Board) (ws : SpaceClass) (profiles : Text → Option Text)
    (sys : System) (m : Module) : Prop :=
  ∀ a ∈ copies site board sys m ++ restarts m,
    a ∈ (runUpdate site board ws profiles sys).1.journal

instance (m : Module) : Decidable (Refreshed site board ws profiles sys m) :=
  inferInstanceAs (Decidable (∀ a ∈ _, _))

def installedOk (report : Report System) : List Module :=
  (report.runs.filter fun r => r.status = 0).map (·.module)

/-- An update of what `report` left refreshes every module that installed
OK. -/
def UpdateIsolates (site : Site) (board : Board) (ws : SpaceClass)
    (profiles : Text → Option Text) (report : Report System) : Prop :=
  ∀ m ∈ installedOk report, Refreshed site board ws profiles report.sys m

instance (report : Report System) : Decidable (UpdateIsolates site board ws profiles report) :=
  inferInstanceAs (Decidable (∀ m ∈ _, _))

/-- The profile read back has the modules that installed OK, and either
what the blocks of its modules take is there, or only the two modules out
of reach installed OK. -/
def Unobstructed (site : Site) (ws : SpaceClass) (profiles : Text → Option Text)
    (report : Report System) : Prop :=
  (∀ m ∈ installedOk report, m ≠ .cellular → maintains ws profiles report.sys m) ∧
  ((∀ m, maintains ws profiles report.sys m → Needs site report.sys m) ∨
    ∀ m ∈ installedOk report, m = .wifi ∨ m = .cellular)

/-! ## Updates that end early -/

theorem no_restart_in_openingBlocks {has : Module → Bool} {profile : Text} {svc : Service} :
    Cmd.restart svc ∉ (block (openingBlocks has profile)).commands := by
  have hscripts : ∀ m, Cmd.restart svc ∉ (block (refreshScript m)).commands := by
    intro m
    cases m <;> simp [refreshScript, Script.commands]
  simp only [openingBlocks, commands_block, List.flatMap_cons, commands_cmd, List.mem_append,
    List.mem_singleton, List.mem_flatMap, refreshBlocks, List.mem_map, not_or, not_exists, not_and]
  refine ⟨by simp, ?_⟩
  rintro _ ⟨m, _, rfl⟩ hc
  exact hscripts m (mem_commands_whenHas.mp hc).2

/-- An update that misses something makes no restart. -/
theorem no_restart_of_not_needs (hboard : board.Sound)
    (h : ¬ ∀ m, maintains ws profiles sys m → Needs site sys m) (svc : Service) :
    Action.restarted svc ∉ (runUpdate site board ws profiles sys).1.journal := by
  set has := maintains ws profiles sys with hhas
  set start := Proc.start { sys with journal := [] } with hstart
  set opening := openingBlocks has (recordedProfile sys) with hopening
  rcases completes_or_exits (shell site board true) (.block opening) start with hc | hexits
  · -- the blocks complete only where nothing is missing
    refine absurd (fun m hm => ?_) h
    refine (needs_congr rfl rfl m).mp ?_
    exact ((completes_openingBlocks hboard).mp hc).1 m hm
  · have hsys : (runUpdate site board ws profiles sys).1 =
        (eval (shell site board true) (.block opening) true start).2.sys :=
      congrArg Proc.sys (hexits.block_append (restartBlocks has (recordedProfile sys))).eval_eq
    rw [hsys]
    intro hmem
    rcases (eval_evolves site board true (.block opening) true start).does hmem with
      hold | ⟨c, hc, hdoes⟩
    · cases hold
    · obtain rfl : c = .restart svc := hdoes
      exact no_restart_in_openingBlocks hc

/-- The block of wifi is the first: nothing stands in its way. -/
theorem wifi_refreshed (hboard : board.Sound) (hm : maintains ws profiles sys .wifi)
    (hneeds : Needs site sys .wifi) : Refreshed site board ws profiles sys .wifi := by
  set has := maintains ws profiles sys with hhas
  set start := Proc.start { sys with journal := [] } with hstart
  have hfirst : Completes (shell site board true)
      (.block [.cmd (.echo ("--- Updating Specter Onboard (profile: ".toList ++
        recordedProfile sys ++ ") ---".toList)), whenHas has .wifi (.block (refreshScript .wifi))])
      start (start.refreshed site board .wifi) := by
    simp only [completes_block_cons, completes_block_nil]
    refine ⟨start, (completes_echo hboard).mpr rfl, _, ?_, rfl⟩
    rw [completes_whenHas, if_pos hm]
    exact (refresh_completes hboard .wifi).mpr ⟨hneeds, rfl⟩
  intro a ha
  have hmem : a ∈ (start.refreshed site board .wifi).sys.journal := by
    rw [Proc.refreshed_sys, System.applyAll_journal]
    simpa [restarts, hstart, Proc.start, copies] using ha
  have hrest := hfirst.eval_block_append (refreshBlocks has [.mavlink, .camera, .telemetry] ++
    restartBlocks has (recordedProfile sys))
  have hsys : (runUpdate site board ws profiles sys).1 = _ := congrArg Proc.sys hrest
  rw [hsys]
  exact (eval_evolves site board true _ true _).mem_journal hmem

/-! ## What an install leaves to an update -/

variable {i : InstallRun} {report : Report System}

theorem wifi_needs (h : i.run sys = some report) (hstop : report.stop = none)
    (hok : .wifi ∈ installedOk report) : Needs site report.sys .wifi := by
  obtain ⟨r, hr, hwifi⟩ := List.mem_map.mp hok
  obtain ⟨hr, hstatus⟩ := List.mem_filter.mp hr
  have hsetup := setup_of_run h hstop hr
  have hgrows := (grows_of_run h hstop).2 r hr
  rw [hwifi, decide_eq_true_eq.mp hstatus] at hsetup
  have hmkdir : .cmd (.mkdirP [.optSpecterBin]) ∈ setupScript .wifi := by
    simp [setupScript, setupWifi]
  have hunit : .cmd (.cp (.unit .droneWifi) (.unit .droneWifi)) ∈ setupScript .wifi := by
    simp [setupScript, setupWifi]
  exact ⟨hgrows.dirs (dirs_of_mkdirP hsetup hmkdir (by decide)),
    hgrows.dirs (files_of_cp hsetup hunit).1⟩

/-- Where the modules' needs are met, an update refreshes them all. -/
theorem refreshed_of_needs (hboard : board.Sound)
    (h : ∀ m, maintains ws profiles sys m → Needs site sys m) {m : Module}
    (hm : m ≠ .cellular → maintains ws profiles sys m) :
    Refreshed site board ws profiles sys m := by
  intro a ha
  have hstatus := (runUpdate_completes_iff hboard).mpr h
  rw [mem_journal_runUpdate hboard hstatus]
  by_cases hcellular : m = .cellular
  · subst hcellular; cases ha
  · exact ⟨m, hm hcellular, ha⟩

/-- **Headline.** After an `install.sh` run that was not stopped, from any
system and with any of its commands failing, an update refreshes every
module that installed OK if and only if it is unobstructed. -/
theorem update_isolates_iff_unobstructed (i : InstallRun) (site : Site) (board : Board)
    (ws : SpaceClass) (sys : System) {report : Report System} (h : i.run sys = some report)
    (hstop : report.stop = none) (hboard : board.Sound) :
    UpdateIsolates site board ws i.profiles report ↔ Unobstructed site ws i.profiles report := by
  constructor
  · intro hisolates
    refine ⟨fun m hm hne => ?_, ?_⟩
    · -- a copy of the module is in the journal, so the module is maintained
      obtain ⟨svc, hsvc⟩ : ∃ svc, m.service = some svc := by
        cases m <;> first | exact ⟨_, rfl⟩ | exact absurd rfl hne
      obtain ⟨m', hm', howner⟩ := runUpdate_owner
        (hisolates m hm _ (List.mem_append_left _ (unit_mem_copies hsvc)))
      obtain rfl : svc.owner = m' := by simpa [Action.owner, File.owner] using howner
      rwa [service_eq_some_iff.mp hsvc] at hm'
    · by_cases hneeds : ∀ m, maintains ws i.profiles report.sys m → Needs site report.sys m
      · exact Or.inl hneeds
      · refine Or.inr fun m hm => ?_
        have hnone := no_restart_of_not_needs hboard hneeds
        cases m with
        | wifi => exact Or.inl rfl
        | cellular => exact Or.inr rfl
        | mavlink | camera | telemetry =>
            exact absurd (hisolates _ hm _ (List.mem_append_right _ List.mem_cons_self)) (hnone _)
  · rintro ⟨hmaintains, hneeds | honly⟩ m hm
    · exact refreshed_of_needs hboard hneeds (hmaintains m hm)
    · rcases honly m hm with rfl | rfl
      · exact wifi_refreshed hboard (hmaintains _ hm (by decide)) (wifi_needs h hstop hm)
      · intro a ha; cases ha

/-- A run with the scout profile in which a module's command fails. -/
def scoutFailing (module : Module) (command : Cmd) : InstallRun :=
  { benchRun "scout".toList with
    board := fun m =>
      { status := fun c => if m = module ∧ c = command then 100 else 0, output := fun _ => [] } }

/-- telemetry fails, but after its directory is made: wifi and mavlink are refreshed. -/
theorem bench_isolates :
    installedOk ((scoutFailing .telemetry .uvSync).leaves freshImage) = [.wifi, .mavlink] ∧
    UpdateIsolates benchSite benchBoard .posix repositoryProfiles
      ((scoutFailing .telemetry .uvSync).leaves freshImage) := by
  have hrun := (scoutFailing .telemetry .uvSync).run_eq freshImage (by decide +kernel)
  refine ⟨by decide +kernel, ?_⟩
  refine (update_isolates_iff_unobstructed (scoutFailing .telemetry .uvSync) benchSite benchBoard
    .posix freshImage hrun (by decide +kernel) fun _ => rfl).mpr ⟨by decide +kernel, Or.inl ?_⟩
  intro m
  cases m <;> decide +kernel

/-- wifi fails at the install of its packages, before `/opt/specter/bin` is made: mavlink and
telemetry installed OK, and the update refreshes neither. -/
theorem wifi_failure_obstructs :
    installedOk ((scoutFailing .wifi (.tool .aptHostapd)).leaves freshImage) =
      [.mavlink, .telemetry] ∧
    (∀ m ∈ [Module.mavlink, .telemetry],
      ¬ Refreshed benchSite benchBoard .posix repositoryProfiles
        ((scoutFailing .wifi (.tool .aptHostapd)).leaves freshImage).sys m) ∧
    ¬ UpdateIsolates benchSite benchBoard .posix repositoryProfiles
      ((scoutFailing .wifi (.tool .aptHostapd)).leaves freshImage) := by
  refine ⟨?_, ?_, ?_⟩ <;> decide +kernel

end Specter
