import Specter.Lib.Run
import Specter.Drone

/-!
# Installing again, with another profile

A drone's history is a run over `install.sh` runs in which every module
installs OK. Each run overwrites the record, and each setup script only
enables (`runSetup_enabled`): so after any history the record names the
last profile, while the services enabled are those of every profile there
ever was (`enabled_of_history`). The two agree exactly if no service
enabled before the last run is missing from its profile.
-/

namespace Specter

open Posix

inductive NotInstalled where
  | argumentsNeverEnd
  | stopped (why : Stop)
  | failed
deriving Repr, DecidableEq

/-- A run in which every module installs OK, with exit status 0. -/
def reinstall (sys : System) (i : InstallRun) : Except NotInstalled System :=
  match i.run sys with
  | none => .error .argumentsNeverEnd
  | some report =>
    match report.stop with
    | some why => .error (.stopped why)
    | none => if report.status = 0 then .ok report.sys else .error .failed

def InstallRun.services (i : InstallRun) : List Service :=
  (modulesOf i.env i.args).filterMap Module.service

/-- The record names the profile of `i`, and the enabled services are
those of its modules. -/
def RecordIsTruth (i : InstallRun) (sys : System) : Prop :=
  sys.files .installedProfile = some (profileOf i.args ++ ['\n']) ∧
  ∀ svc, svc ∈ sys.enabled ↔ svc ∈ i.services

variable {i : InstallRun} {sys sys' : System}

theorem reinstall_ok (h : reinstall sys i = .ok sys') :
    ∃ report, i.run sys = some report ∧ report.stop = none ∧ report.status = 0 ∧
      report.sys = sys' := by
  unfold reinstall at h
  split at h
  · cases h
  · rename_i report hrun
    split at h
    · cases h
    · rename_i hstop
      split at h
      · rename_i hstatus
        cases h; exact ⟨report, hrun, hstop, hstatus, rfl⟩
      · cases h

theorem HandedOn.enabled {rs : List (ModuleRun System)} (h : HandedOn i.env sys rs sys')
    {svc : Service} (hsvc : svc ∈ sys'.enabled) :
    svc ∈ sys.enabled ∨ ∃ r ∈ rs, r.module.service = some svc := by
  induction rs generalizing sys with
  | nil => cases h; exact Or.inl hsvc
  | cons r rs ih =>
      obtain ⟨rfl, hrun, hrest⟩ := h
      rcases ih hrest with hafter | ⟨r', hr', hservice⟩
      · have hsetup : runSetup i.site (i.board r.module) r.module r.before =
            (r.after, r.status) := hrun
        have hafter : svc ∈ (runSetup i.site (i.board r.module) r.module r.before).1.enabled := by
          rwa [hsetup]
        exact (runSetup_enabled hafter).imp id fun hm => ⟨r, List.mem_cons_self, hm⟩
      · exact Or.inr ⟨r', List.mem_cons_of_mem _ hr', hservice⟩

/-- **Step.** A run adds the services of its profile to those enabled, and
takes none away. -/
theorem enabled_of_reinstall (h : reinstall sys i = .ok sys') (svc : Service) :
    svc ∈ sys'.enabled ↔ svc ∈ sys.enabled ∨ svc ∈ i.services := by
  obtain ⟨report, hrun, hstop, hstatus, rfl⟩ := reinstall_ok h
  obtain ⟨_, _, _, hinstalled⟩ := installed_of_install hrun hstop
  have hservices : svc ∈ i.services ↔ ∃ r ∈ report.runs, r.module.service = some svc := by
    rw [InstallRun.services, ← hinstalled.runs]
    simp
  rw [hservices]
  obtain ⟨after, hhanded, hsys⟩ := hinstalled.handedOn
  constructor
  · intro hsvc
    rw [hsys] at hsvc
    exact hhanded.enabled hsvc
  · obtain ⟨hgrows, hafter⟩ := grows_of_run hrun hstop
    rintro (hold | ⟨r, hr, hservice⟩)
    · exact hgrows.enabled hold
    · have hsetup := setup_of_run hrun hstop hr
      have hzero : r.status = 0 := by
        by_contra hne
        exact hinstalled.status.mpr ⟨r, hr, hne⟩ hstatus
      rw [hzero] at hsetup
      exact (hafter r hr).enabled (runSetup_enables hservice hsetup)

/-- **Run.** After a history, the enabled services are those enabled at its
start and those of every profile in it. -/
theorem enabled_of_history {is : List InstallRun} (h : Run.run reinstall sys is = .ok sys')
    (svc : Service) :
    svc ∈ sys'.enabled ↔ svc ∈ sys.enabled ∨ ∃ j ∈ is, svc ∈ j.services := by
  refine Run.run_induction
    (P := fun is sys' => svc ∈ sys'.enabled ↔ svc ∈ sys.enabled ∨ ∃ j ∈ is, svc ∈ j.services)
    (by simp) ?_ h
  intro is t i t' _ ih hstep
  rw [enabled_of_reinstall hstep, ih]
  simp only [List.mem_append, List.mem_singleton, or_and_right, exists_or, exists_eq_left,
    or_assoc]

theorem record_of_reinstall (h : reinstall sys i = .ok sys') :
    sys'.files .installedProfile = some (profileOf i.args ++ ['\n']) := by
  obtain ⟨report, hrun, hstop, _, rfl⟩ := reinstall_ok h
  exact record_of_run hrun hstop

/-- Then the modules with an enabled service are those `update.sh`
maintains. -/
theorem enabled_iff_maintained {ws : SpaceClass} (h : reinstall sys i = .ok sys')
    (hname : (profileOf i.args).getLast? ≠ some '\n')
    (hnul : ∀ text, i.profiles (profileOf i.args) = some text → '\x00' ∉ text)
    (htruth : RecordIsTruth i sys') (svc : Service) :
    svc ∈ sys'.enabled ↔ maintains ws i.profiles sys' svc.owner := by
  obtain ⟨report, hrun, hstop, _, rfl⟩ := reinstall_ok h
  rw [htruth.2, maintains_after_install hrun hstop hname hnul, InstallRun.services,
    List.mem_filterMap]
  simp only [service_eq_some_iff]
  exact ⟨fun ⟨_, hm, heq⟩ => heq ▸ hm, fun hm => ⟨_, hm, rfl⟩⟩

end Specter
