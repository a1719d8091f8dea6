import Specter.InstallContract

/-!
# The dry run against the real one

With `--dry-run` the script resolves the profile, prints the modules and
leaves; the check that there is a module at all stands behind that. So
the dry run predicts the real one for every profile but those that name
no module (`dryRun_predicts_iff`): for such a profile it prints an empty
list and succeeds, and the real run dies.
-/

namespace Specter

open Posix

variable {σ : Type}

/-! ## What is printed -/

/-- The two `echo` lines of a dry run. -/
def dryRunOutput (profile : Text) (modules : List Module) : Text :=
  "profile: ".toList ++ profile ++ "\n".toList ++ "modules (canonical order): ".toList ++
    [' '].intercalate (modules.map Module.name) ++ "\n".toList

/-- What is on standard output when the script ends before its first
module; usage and errors go to the other stream. -/
def Stop.output : Stop → Text
  | .dryRun profile modules => dryRunOutput profile modules
  | _ => []

theorem name_injective : Function.Injective Module.name := by
  intro m m' h
  cases m <;> cases m' <;> first | rfl | exact absurd h (by decide)

/-- The list of modules can be read off the line. -/
theorem intercalate_name_injective :
    Function.Injective
      fun modules : List Module => [' '].intercalate (modules.map Module.name) := by
  have hspace (modules : List Module) : ∀ n ∈ modules.map Module.name, ' ' ∉ n := by
    intro n hn
    obtain ⟨m, -, rfl⟩ := List.mem_map.mp hn
    cases m <;> decide
  have hread (modules : List Module) (hne : modules ≠ []) :
      ([' '].intercalate (modules.map Module.name)).splitOn ' ' = modules.map Module.name :=
    List.splitOn_intercalate ' ' (hspace modules) (by simpa using hne)
  have hblank (modules : List Module)
      (h : [' '].intercalate (modules.map Module.name) = []) : modules = [] := by
    by_contra hne
    have hnames := hread modules hne
    rw [h, List.splitOn_nil] at hnames
    have hempty : [] ∈ modules.map Module.name := by
      rw [← hnames]
      exact List.mem_singleton_self []
    obtain ⟨m, -, hm⟩ := List.mem_map.mp hempty
    exact m.name_ne_nil hm
  intro modules modules' h
  by_cases hne : modules = []
  · subst hne
    exact (hblank modules' h.symm).symm
  · have hne' : modules' ≠ [] := by
      rintro rfl
      exact hne (hblank modules h)
    have hnames := congrArg (List.splitOn ' ') h
    rw [hread modules hne, hread modules' hne'] at hnames
    exact name_injective.list_map hnames

theorem dryRunOutput_inj {profile : Text} {modules modules' : List Module} :
    dryRunOutput profile modules = dryRunOutput profile modules' ↔ modules = modules' := by
  refine ⟨fun h => intercalate_name_injective ?_, fun h => by rw [h]⟩
  exact List.append_cancel_left (List.append_cancel_right h)

/-! ## The two runs -/

def dryArgs (profile : Text) : List Text :=
  ["--profile".toList, profile, "--dry-run".toList]

def realArgs (profile : Text) : List Text := ["--profile".toList, profile]

theorem install_dryArgs (env : InstallEnv σ) (profile : Text) (sys : σ) :
    install env (dryArgs profile) sys = some (installWith env ⟨profile, true⟩ sys) := rfl

theorem install_realArgs (env : InstallEnv σ) (profile : Text) (sys : σ) :
    install env (realArgs profile) sys = some (installWith env ⟨profile, false⟩ sys) := rfl

/-- A dry run has exited with 0 and printed the modules. -/
def Shows (report : Report σ) (profile : Text) (modules : List Module) : Prop :=
  report.status = 0 ∧ report.stop.map Stop.output = some (dryRunOutput profile modules)

/-- A run has got past validation and run the modules. -/
def Runs (report : Report σ) (modules : List Module) : Prop :=
  report.stop = none ∧ report.runs.map (·.module) = modules

/-- A run has died before any module. -/
def DiesEarly (report : Report σ) : Prop :=
  report.stop.isSome ∧ report.status ≠ 0 ∧ report.runs = []

/-- The dry run shows what the real run runs, and fails just if it dies
early. -/
structure Predicts (dry real : Report σ) (profile : Text) : Prop where
  modules : ∀ modules, Shows dry profile modules ↔ Runs real modules
  fails : dry.status ≠ 0 ↔ DiesEarly real

/-! ## Where the prediction is right -/

/-- The profile's file is there and has nothing but comments and blanks. -/
def NamesNoModule (env : InstallEnv σ) (profile : Text) : Prop :=
  ∃ text, env.profiles profile = some text ∧ ∀ line ∈ readLoop text, normalise line = []

/-- How the two runs end: alike, as they should, or with no module. -/
theorem runs_cases (env : InstallEnv σ) (profile : Text) (sys : σ) :
    ((profile = [] ∨ ¬ NamesNoModule env profile) ∧ ∃ why, why.error ≠ none ∧
        ∀ dryRun, installWith env ⟨profile, dryRun⟩ sys = stopped sys why) ∨
    (¬ NamesNoModule env profile ∧ ∃ modules, modules.Nodup ∧
        installWith env ⟨profile, true⟩ sys = stopped sys (.dryRun profile modules) ∧
        installWith env ⟨profile, false⟩ sys = installModules env profile modules sys) ∨
    (profile ≠ [] ∧ NamesNoModule env profile ∧
        installWith env ⟨profile, true⟩ sys = stopped sys (.dryRun profile []) ∧
        installWith env ⟨profile, false⟩ sys = stopped sys (.noModules profile)) := by
  unfold installWith
  by_cases hprofile : profile = []
  · exact Or.inl ⟨Or.inl hprofile, .profileRequired, Option.some_ne_none _,
      fun _ => if_pos hprofile⟩
  · simp only [if_neg hprofile]
    cases htext : env.profiles profile with
    | none =>
        refine Or.inl ⟨Or.inr ?_, .unknownProfile profile, Option.some_ne_none _, fun _ => rfl⟩
        rintro ⟨text, h, -⟩
        rw [htext] at h
        cases h
    | some text =>
        have hnothing : NamesNoModule env profile ↔ selected text = .ok [] := by
          rw [selected_eq_nil_iff]
          simp [NamesNoModule, htext]
        cases hsel : selected text with
        | error name =>
            refine Or.inl ⟨Or.inr ?_, .unknownModule profile name, Option.some_ne_none _,
              fun _ => by simp only [hsel]⟩
            rw [hnothing, hsel]
            nofun
        | ok modules =>
            by_cases hempty : modules = []
            · subst hempty
              exact Or.inr (Or.inr ⟨hprofile, hnothing.mpr hsel, by simp [hsel], by simp [hsel]⟩)
            · obtain ⟨names, -, rfl⟩ := selected_ok hsel
              refine Or.inr (Or.inl ⟨?_, select names, select_nodup names, by simp [hsel],
                by simp [hsel, hempty]⟩)
              rw [hnothing, hsel, Except.ok.injEq]
              exact hempty

/-- A stop that is no dry run is one for both. -/
theorem predicts_of_stopped {why : Stop} (hdies : why.error ≠ none) (profile : Text) (sys : σ) :
    Predicts (stopped sys why) (stopped sys why) profile := by
  have hstatus : (stopped sys why).status ≠ 0 := by
    simp [Report.status, stopped, hdies]
  refine ⟨fun modules => iff_of_false (fun h => hstatus h.1) fun h => ?_,
    iff_of_true hstatus ⟨rfl, hstatus, rfl⟩⟩
  cases h.1

theorem shows_iff {profile : Text} {modules modules' : List Module} {sys : σ} :
    Shows (stopped sys (.dryRun profile modules)) profile modules' ↔ modules = modules' := by
  rw [Shows, stopped, Option.map_some, Option.some.injEq, Stop.output, dryRunOutput_inj]
  exact and_iff_right rfl

theorem predicts_of_installed (env : InstallEnv σ) {profile : Text} {modules : List Module}
    (hnodup : modules.Nodup) (sys : σ) :
    Predicts (stopped sys (.dryRun profile modules)) (installModules env profile modules sys)
      profile := by
  have hinstalled := installModules_installed env profile hnodup sys
  refine ⟨fun modules' => ?_, iff_of_false (fun h => h rfl) fun h => ?_⟩
  · rw [shows_iff, Runs, hinstalled.runs]
    exact (and_iff_right hinstalled.stop).symm
  · have hearly := h.1
    rw [hinstalled.stop] at hearly
    cases hearly

/-- **Prediction, exactly.** The dry run of a profile predicts the real
one if and only if the profile's file does not exist or has more in it
than comments and blanks, or the name is empty. -/
theorem dryRun_predicts_iff (env : InstallEnv σ) (profile : Text) (sys : σ) :
    (∃ dry real, install env (dryArgs profile) sys = some dry ∧
        install env (realArgs profile) sys = some real ∧ Predicts dry real profile)
      ↔ profile = [] ∨ ¬ NamesNoModule env profile := by
  rw [install_dryArgs, install_realArgs]
  simp only [Option.some.injEq, exists_and_left, exists_eq_left']
  rcases runs_cases env profile sys with
    ⟨hcond, why, hdies, hrun⟩ | ⟨hcond, modules, hnodup, hdry, hreal⟩ | ⟨hname, hnone, hdry, hreal⟩
  · rw [hrun, hrun]
    exact iff_of_true (predicts_of_stopped hdies profile sys) hcond
  · rw [hdry, hreal]
    exact iff_of_true (predicts_of_installed env hnodup sys) (Or.inr hcond)
  · rw [hdry, hreal]
    refine iff_of_false (fun h => ?_) (not_or.mpr ⟨hname, not_not.mpr hnone⟩)
    -- the dry run shows an empty list, which the real run does not get to
    cases ((h.modules []).mp (shows_iff.mpr rfl)).1

/-- A profile with a comment and nothing else: the dry run succeeds with
an empty list, and the real run dies. -/
theorem empty_profile_unpredicted :
    let env := { benchInstall with profiles := fun _ => some "# nothing yet
".toList }
    let dry := stopped [] (.dryRun "new".toList [])
    let real := stopped [] (.noModules "new".toList)
    install env (dryArgs "new".toList) [] = some dry ∧ dry.status = 0 ∧
      install env (realArgs "new".toList) [] = some real ∧ real.status = 1 ∧
      ¬ Predicts dry real "new".toList := by
  intro env dry real
  refine ⟨by decide, rfl, by decide, rfl, fun h => ?_⟩
  cases ((h.modules []).mp (shows_iff.mpr rfl)).1

end Specter
