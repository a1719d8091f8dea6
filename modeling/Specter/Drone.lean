import Specter.InstallContract
import Specter.Setup
import Specter.UpdateRuns

/-!
# `install.sh` on a drone

The installer with the setup scripts there are, on the systems they work
on. A run is given by everything it depends on; nothing it does takes
anything away (`Grows`), and what it records is what `update.sh` reads
back (`maintains_after_install`).
-/

namespace Specter

open Posix

/-- A run of `install.sh`: its arguments, the profiles directory, the
checkout, and what the commands of each setup script do for reasons of
their own. -/
structure InstallRun where
  args : List Text
  profiles : Text → Option Text
  site : Site
  board : Module → Board
  isActive : Service → System → Text

/-- `mkdir -p /etc/specter` and `tee` of the profile's name. -/
def recordProfile (profile : Text) (sys : System) : System :=
  System.apply { sys with dirs := insert .etcSpecter sys.dirs }
    (.wrote .installedProfile (profile ++ ['\n']))

def InstallRun.env (i : InstallRun) : InstallEnv System where
  profiles := i.profiles
  setup := fun m sys => runSetup i.site (i.board m) m sys
  record := recordProfile
  isActive := i.isActive

def InstallRun.run (i : InstallRun) (sys : System) : Option (Report System) :=
  install i.env i.args sys

/-- Nothing is taken away. -/
structure Grows (sys sys' : System) : Prop where
  dirs : sys.dirs ⊆ sys'.dirs
  files : ∀ f, sys.files f ≠ none → sys'.files f ≠ none
  enabled : sys.enabled ⊆ sys'.enabled

theorem Grows.refl (sys : System) : Grows sys sys :=
  ⟨Finset.Subset.refl _, fun _ h => h, Finset.Subset.refl _⟩

theorem Grows.trans {sys₁ sys₂ sys₃ : System} (h : Grows sys₁ sys₂) (h' : Grows sys₂ sys₃) :
    Grows sys₁ sys₃ :=
  ⟨h.dirs.trans h'.dirs, fun f hf => h'.files f (h.files f hf), h.enabled.trans h'.enabled⟩

theorem runSetup_grows (site : Site) (board : Board) (m : Module) (sys : System) :
    Grows sys (runSetup site board m sys).1 :=
  have h := runSetup_evolves site board m sys
  ⟨h.dirs, fun _ => h.files_ne_none, h.enabled⟩

theorem recordProfile_grows (profile : Text) (sys : System) :
    Grows sys (recordProfile profile sys) where
  dirs := Finset.subset_insert _ _
  files := by
    intro f hf
    by_cases h : f = .installedProfile
    · subst h; simp [recordProfile, System.apply]
    · simpa [recordProfile, System.apply, Function.update_of_ne h] using hf
  enabled := Finset.Subset.refl _

theorem recordProfile_file (profile : Text) (sys : System) :
    (recordProfile profile sys).files .installedProfile = some (profile ++ ['\n']) := by
  simp [recordProfile, System.apply]

variable {i : InstallRun} {sys : System} {report : Report System}
variable {ws : SpaceClass}

theorem grows_of_run (h : i.run sys = some report) (hstop : report.stop = none) :
    Grows sys report.sys ∧ ∀ r ∈ report.runs, Grows r.after report.sys := by
  obtain ⟨_, _, _, hinstalled⟩ := installed_of_install h hstop
  obtain ⟨after, hhanded, hsys⟩ := hinstalled.handedOn
  obtain ⟨hall, hruns⟩ := hhanded.keeps Grows.refl (fun _ _ _ => Grows.trans)
    fun m s => runSetup_grows i.site (i.board m) m s
  have hrecord := recordProfile_grows (profileOf i.args) after
  rw [hsys]
  exact ⟨hall.trans hrecord, fun r hr => (hruns r hr).trans hrecord⟩

theorem setup_of_run (h : i.run sys = some report) (hstop : report.stop = none)
    {r : ModuleRun System} (hr : r ∈ report.runs) :
    runSetup i.site (i.board r.module) r.module r.before = (r.after, r.status) := by
  obtain ⟨_, _, _, hinstalled⟩ := installed_of_install h hstop
  obtain ⟨after, hhanded, _⟩ := hinstalled.handedOn
  exact hhanded.setup_eq hr

theorem record_of_run (h : i.run sys = some report) (hstop : report.stop = none) :
    report.sys.files .installedProfile = some (profileOf i.args ++ ['\n']) := by
  obtain ⟨_, _, _, hinstalled⟩ := installed_of_install h hstop
  obtain ⟨after, _, hsys⟩ := hinstalled.handedOn
  rw [hsys]
  exact recordProfile_file _ after

/-- With a profile's ordinary name and text, `update.sh` reads back what
`install.sh` selected. -/
theorem maintains_after_install (h : i.run sys = some report) (hstop : report.stop = none)
    (hname : (profileOf i.args).getLast? ≠ some '\n')
    (hnul : ∀ text, i.profiles (profileOf i.args) = some text → '\x00' ∉ text) (m : Module) :
    maintains ws i.profiles report.sys m ↔ m ∈ modulesOf i.env i.args := by
  obtain ⟨text, htext, hsel, _⟩ := installed_of_install h hstop
  have hback : recordedProfile report.sys = profileOf i.args := by
    rw [recordedProfile, record_of_run h hstop]
    exact substitute_line hname
  rw [maintains, hback, show i.profiles (profileOf i.args) = some text from htext]
  exact hasModule_iff_selected ws (hnul text htext) hsel m

/-! ## On the bench -/

def freshImage : System where
  dirs := {.systemd, .usrBin, .etcDefault}
  files := fun _ => none
  enabled := ∅
  journal := []

/-- The profiles in the repository, with shorter comments. -/
def repositoryProfiles (name : Text) : Option Text :=
  if name = "full".toList then
    some ("# full\n".toList ++ "wifi\nmavlink\n".toList ++ "camera\ncellular\ntelemetry\n".toList)
  else if name = "scout".toList then
    some ("# scout\n".toList ++ "wifi\nmavlink\ntelemetry\n".toList)
  else if name = "bench".toList then some "# bench\nwifi\nmavlink\n".toList
  else none

/-- A run on the bench, where no command fails for reasons of its own. -/
def benchRun (profile : Text) : InstallRun where
  args := ["--profile".toList, profile]
  profiles := repositoryProfiles
  site := benchSite
  board := fun _ => benchBoard
  isActive := fun _ _ => "inactive\n".toList

/-- The bench with this template for the telemetry sender's settings. -/
def siteWith (template : Text) : Site :=
  { benchSite with
    checkout :=
      { benchSite.checkout with
        file := fun src => if src = .telemetrySenderEnv then template else [] } }

def InstallRun.leaves (i : InstallRun) (sys : System) : Report System :=
  (i.run sys).getD (stopped sys .help)

theorem InstallRun.run_eq (i : InstallRun) (sys : System) (h : (i.run sys).isSome) :
    i.run sys = some (i.leaves sys) := by
  obtain ⟨report, hreport⟩ := Option.isSome_iff_exists.mp h
  rw [InstallRun.leaves, hreport, Option.getD_some]

end Specter
