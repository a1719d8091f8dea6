import Specter.Install

/-!
# What a run of `install.sh` does

Either the script stops before its first module, for a reason that the
arguments or the profile bear out (`Stop.Because`), and has then changed
nothing; or it runs the selected modules one after the other, each on
what the one before it left, failed or not, records the profile's name
and reports what each of them returned (`Installed`).

The module loop is a fold; `Progressed` is what holds of it after the
modules `done`.
-/

namespace Specter

open Posix

variable {σ : Type} {env : InstallEnv σ}

/-! ## The argument loop -/

def KnownArgument (arg : Text) : Prop :=
  arg = "--profile".toList ∨ isAssignment arg ∨ arg = "--dry-run".toList ∨ isHelp arg

theorem argPass_subset {arg : Text} {rest args : List Text} {o o' : Options}
    (h : argPass arg rest o = .ok (args, o')) :
    args ⊆ arg :: rest ∧ (o'.dryRun → o.dryRun ∨ arg = "--dry-run".toList) := by
  unfold argPass at h
  split at h
  · cases rest with
    | nil => cases h; exact ⟨List.Subset.refl _, Or.inl⟩
    | cons value rest =>
        cases h
        exact ⟨fun a ha => List.mem_cons_of_mem _ (List.mem_cons_of_mem _ ha), Or.inl⟩
  · split at h
    · cases h; exact ⟨List.subset_cons_self _ _, Or.inl⟩
    · split at h
      · rename_i hdry
        cases h
        exact ⟨List.subset_cons_self _ _, fun _ => Or.inr hdry⟩
      · split at h <;> cases h

theorem argPass_error {arg : Text} {rest : List Text} {o : Options} {why : Stop}
    (h : argPass arg rest o = .error why) :
    why = .help ∧ isHelp arg ∨ why = .unknownArgument arg ∧ ¬ KnownArgument arg := by
  unfold argPass at h
  split at h
  · cases rest <;> cases h
  · rename_i hprofile
    split at h
    · cases h
    · rename_i hassign
      split at h
      · cases h
      · rename_i hdry
        split at h
        · rename_i hhelp
          cases h; exact Or.inl ⟨rfl, hhelp⟩
        · rename_i hhelp
          cases h
          refine Or.inr ⟨rfl, ?_⟩
          rintro (h | h | h | h)
          exacts [hprofile h, hassign h, hdry h, hhelp h]

theorem argLoop_error {fuel : Nat} {args : List Text} {o : Options} {why : Stop}
    (h : argLoop fuel args o = some (.error why)) :
    ∃ arg ∈ args, why = .help ∧ isHelp arg ∨
      why = .unknownArgument arg ∧ ¬ KnownArgument arg := by
  induction fuel generalizing args o with
  | zero => cases args <;> cases h
  | succ fuel ih =>
      cases args with
      | nil => cases h
      | cons arg rest =>
          simp only [argLoop] at h
          cases hpass : argPass arg rest o with
          | error why' =>
              rw [hpass] at h
              cases h
              exact ⟨arg, List.mem_cons_self, argPass_error hpass⟩
          | ok p =>
              obtain ⟨args, o'⟩ := p
              simp only [hpass] at h
              obtain ⟨a, ha, hwhy⟩ := ih h
              exact ⟨a, (argPass_subset hpass).1 ha, hwhy⟩

theorem argLoop_dryRun {fuel : Nat} {args : List Text} {o o' : Options}
    (h : argLoop fuel args o = some (.ok o')) (hdry : o'.dryRun) :
    o.dryRun ∨ "--dry-run".toList ∈ args := by
  induction fuel generalizing args o with
  | zero =>
      cases args with
      | nil => cases h; exact Or.inl hdry
      | cons arg rest => cases h
  | succ fuel ih =>
      cases args with
      | nil => cases h; exact Or.inl hdry
      | cons arg rest =>
          simp only [argLoop] at h
          cases hpass : argPass arg rest o with
          | error why => rw [hpass] at h; cases h
          | ok p =>
              obtain ⟨args, o'⟩ := p
              simp only [hpass] at h
              obtain ⟨hsub, hpassDry⟩ := argPass_subset hpass
              rcases ih h with hd | hmem
              · rcases hpassDry hd with hd | harg
                · exact Or.inl hd
                · exact Or.inr (by rw [← harg]; exact List.mem_cons_self)
              · exact Or.inr (hsub hmem)

/-! ## Reasons to stop -/

/-- What each reason to stop says of the arguments and the profile. -/
def Stop.Because (env : InstallEnv σ) (args : List Text) : Stop → Prop
  | .help => ∃ arg ∈ args, isHelp arg
  | .unknownArgument arg => arg ∈ args ∧ ¬ KnownArgument arg
  | .profileRequired => ∃ o, ParsedAs args o ∧ o.profile = []
  | .unknownProfile profile =>
    ∃ o, ParsedAs args o ∧ o.profile = profile ∧ env.profiles profile = none
  | .unknownModule profile name =>
    ∃ o text, ParsedAs args o ∧ o.profile = profile ∧ env.profiles profile = some text ∧
      name ≠ [] ∧ (¬ ∃ m : Module, m.name = name) ∧ ∃ line ∈ readLoop text, normalise line = name
  | .dryRun profile modules =>
    "--dry-run".toList ∈ args ∧ ∃ o text, ParsedAs args o ∧ o.profile = profile ∧
      env.profiles profile = some text ∧ selected text = .ok modules
  | .noModules profile =>
    ∃ o text, ParsedAs args o ∧ o.profile = profile ∧ env.profiles profile = some text ∧
      ∀ line ∈ readLoop text, normalise line = []

/-! ## The module loop -/

/-- Each run is of the setup script on what the run before it left, from
`sys` to `sys'`. -/
def HandedOn (env : InstallEnv σ) : σ → List (ModuleRun σ) → σ → Prop
  | sys, [], sys' => sys' = sys
  | sys, r :: rs, sys' =>
    r.before = sys ∧ env.setup r.module r.before = (r.after, r.status) ∧
      HandedOn env r.after rs sys'

theorem HandedOn.snoc {sys sys' : σ} {rs : List (ModuleRun σ)} {r : ModuleRun σ}
    (h : HandedOn env sys rs sys') (hr : r.before = sys')
    (hsetup : env.setup r.module r.before = (r.after, r.status)) :
    HandedOn env sys (rs ++ [r]) r.after := by
  induction rs generalizing sys with
  | nil => exact ⟨hr.trans h, hsetup, rfl⟩
  | cons r' rs ih =>
      obtain ⟨hbefore, hrun, hrest⟩ := h
      exact ⟨hbefore, hrun, ih hrest⟩

/-- The module loop started on `sys` has done the modules `done`. -/
structure Progressed (env : InstallEnv σ) (sys : σ) (done : List Module) (p : Progress σ) :
    Prop where
  modules : p.runs.map (·.module) = done
  handedOn : HandedOn env sys p.runs p.sys
  result : ∀ r ∈ p.runs, p.result r.module = some (Result.of r.status)

theorem Progressed.step {sys : σ} {done : List Module} {p : Progress σ} {m : Module}
    (h : Progressed env sys done p) (hm : m ∉ done) :
    Progressed env sys (done ++ [m]) (moduleStep env p m) where
  modules := by simp [moduleStep, h.modules]
  handedOn := h.handedOn.snoc rfl rfl
  result := by
    intro r hr
    simp only [moduleStep, List.mem_append, List.mem_singleton] at hr ⊢
    rcases hr with hr | rfl
    · have hne : r.module ≠ m := fun heq =>
        hm (h.modules ▸ heq ▸ List.mem_map_of_mem hr)
      rw [Function.update_of_ne hne, h.result r hr]
    · rw [Function.update_self]

theorem Progressed.foldl {sys : σ} {done modules : List Module} {p : Progress σ}
    (h : Progressed env sys done p) (hnodup : (done ++ modules).Nodup) :
    Progressed env sys (done ++ modules) (modules.foldl (moduleStep env) p) := by
  induction modules generalizing done p with
  | nil => simpa using h
  | cons m ms ih =>
      have hm : m ∉ done := fun hd =>
        (List.nodup_append.mp hnodup).2.2 m hd m List.mem_cons_self rfl
      have hstep := h.step hm
      have hsplit : done ++ m :: ms = (done ++ [m]) ++ ms := by simp
      rw [hsplit] at hnodup ⊢
      exact ih hstep hnodup

theorem moduleLoop_progressed (env : InstallEnv σ) {modules : List Module}
    (hnodup : modules.Nodup) (sys : σ) :
    Progressed env sys modules (moduleLoop env modules sys) := by
  have hstart : Progressed env sys [] ⟨sys, fun _ => none, []⟩ :=
    { modules := rfl, handedOn := rfl, result := by simp }
  exact hstart.foldl hnodup

/-! ## The contract -/

/-- The modules `modules` of the profile were installed on `sys`. -/
structure Installed (env : InstallEnv σ) (sys : σ) (profile : Text) (modules : List Module)
    (report : Report σ) : Prop where
  stop : report.stop = none
  runs : report.runs.map (·.module) = modules
  handedOn : ∃ after, HandedOn env sys report.runs after ∧ report.sys = env.record profile after
  -- The summary has the modules in the order they were run in, OK where 0 was returned.
  summary : report.summary.map (fun row => (row.module, row.install)) =
    report.runs.map fun r => (r.module, some (Result.of r.status))
  status : report.status ≠ 0 ↔ ∃ r ∈ report.runs, r.status ≠ 0

theorem installModules_installed (env : InstallEnv σ) (profile : Text) {modules : List Module}
    (hnodup : modules.Nodup) (sys : σ) :
    Installed env sys profile modules (installModules env profile modules sys) := by
  have h := moduleLoop_progressed env hnodup sys
  set p := moduleLoop env modules sys with hp
  have hsummary : (modules.map (summaryRow env p.result (env.record profile p.sys))).map
      (fun row => (row.module, row.install)) =
      p.runs.map fun r => (r.module, some (Result.of r.status)) := by
    rw [← h.modules, List.map_map, List.map_map]
    refine List.map_congr_left fun r hr => ?_
    simp [summaryRow, h.result r hr]
  refine ⟨rfl, h.modules, ⟨p.sys, h.handedOn, rfl⟩, hsummary, ?_⟩
  have hany : ((modules.map (summaryRow env p.result (env.record profile p.sys))).any
      fun row => row.install = some .failed) = true ↔ ∃ r ∈ p.runs, r.status ≠ 0 := by
    simp only [List.any_eq_true, decide_eq_true_eq, List.mem_map, ← h.modules]
    constructor
    · rintro ⟨_, ⟨_, ⟨r, hr, rfl⟩, rfl⟩, hfailed⟩
      rw [summaryRow, h.result r hr, Option.some.injEq, Result.of_eq_failed] at hfailed
      exact ⟨r, hr, hfailed⟩
    · rintro ⟨r, hr, hstatus⟩
      refine ⟨_, ⟨_, ⟨r, hr, rfl⟩, rfl⟩, ?_⟩
      rw [summaryRow, h.result r hr, Result.of_eq_failed.mpr hstatus]
  change _ ↔ ∃ r ∈ p.runs, r.status ≠ 0
  rw [← hany]
  simp only [Report.status, installModules, ← hp]
  split <;> simp_all

theorem installWith_contract (env : InstallEnv σ) {args : List Text} {o : Options}
    (ho : ParsedAs args o) (hdry : o.dryRun → "--dry-run".toList ∈ args) (sys : σ) :
    (∃ why, installWith env o sys = stopped sys why ∧ why.Because env args) ∨
    ∃ text modules, o.dryRun = false ∧ env.profiles o.profile = some text ∧
      selected text = .ok modules ∧ modules ≠ [] ∧
      Installed env sys o.profile modules (installWith env o sys) := by
  unfold installWith
  split
  · rename_i hprofile
    exact Or.inl ⟨_, rfl, o, ho, hprofile⟩
  · split
    · rename_i hnone
      exact Or.inl ⟨_, rfl, o, ho, rfl, hnone⟩
    · rename_i text htext
      split
      · rename_i name hname
        have herror : requested (readLoop text) = .error name := by
          cases hr : requested (readLoop text) with
          | error e => rw [selected, hr] at hname; cases hname; rfl
          | ok names => rw [selected, hr] at hname; cases hname
        exact Or.inl ⟨_, rfl, o, text, ho, rfl, htext, requested_error herror⟩
      · rename_i modules hsel
        split
        · rename_i hd
          exact Or.inl ⟨_, rfl, hdry hd, o, text, ho, rfl, htext, hsel⟩
        · rename_i hd
          split
          · rename_i hempty
            subst hempty
            exact Or.inl ⟨_, rfl, o, text, ho, rfl, htext, (selected_eq_nil_iff text).mp hsel⟩
          · rename_i hne
            obtain ⟨names, -, rfl⟩ := selected_ok hsel
            exact Or.inr ⟨text, _, by simpa using hd, htext, hsel, hne,
              installModules_installed env o.profile (select_nodup names) sys⟩

/-- Both ends of the script. -/
def Contract (env : InstallEnv σ) (args : List Text) (sys : σ) (report : Report σ) : Prop :=
  (∃ why : Stop, report = stopped sys why ∧ why.Because env args) ∨
  ∃ o text modules, ParsedAs args o ∧ o.dryRun = false ∧
    env.profiles o.profile = some text ∧ selected text = .ok modules ∧ modules ≠ [] ∧
    modules.Sublist canonicalModules ∧
    (∀ m : Module, m ∈ modules ↔ ∃ line ∈ readLoop text, normalise line = m.name) ∧
    Installed env sys o.profile modules report

theorem contract_of_install {args : List Text} {sys : σ} {report : Report σ}
    (h : install env args sys = some report) : Contract env args sys report := by
  unfold install at h
  split at h
  · cases h
  · rename_i why hloop
    cases h
    refine Or.inl ⟨why, rfl, ?_⟩
    obtain ⟨arg, harg, ⟨rfl, hhelp⟩ | ⟨rfl, hunknown⟩⟩ := argLoop_error hloop
    · exact ⟨arg, harg, hhelp⟩
    · exact ⟨harg, hunknown⟩
  · rename_i o hloop
    cases h
    have hdry : o.dryRun → "--dry-run".toList ∈ args := fun hd =>
      (argLoop_dryRun hloop hd).resolve_left (by simp [Options.init])
    rcases installWith_contract env ⟨_, hloop⟩ hdry sys with
      ⟨why, hstop, hbecause⟩ | ⟨text, modules, hd, htext, hsel, hne, hinstalled⟩
    · exact Or.inl ⟨why, hstop, hbecause⟩
    · obtain ⟨names, hnames, rfl⟩ := selected_ok hsel
      refine Or.inr ⟨o, text, _, ⟨_, hloop⟩, hd, htext, hsel, hne, select_sublist names, ?_,
        hinstalled⟩
      intro m
      rw [mem_select, (requested_ok hnames).1]

/-- **Headline.** Whenever its argument loop ends, `install.sh` either
stops before its first module, for a reason, with no setup script run
and the system as it was; or it installs exactly the modules named by
the profile's lines, in canonical order, as `Installed` says. -/
theorem install_contract (env : InstallEnv σ) (args : List Text) (sys : σ)
    (hargs : ArgsEnd args) :
    ∃ report, install env args sys = some report ∧ Contract env args sys report := by
  obtain ⟨fuel, hsome⟩ := hargs
  obtain ⟨r, hr⟩ := Option.isSome_iff_exists.mp hsome
  have hloop := argLoop_enough hr le_rfl
  obtain ⟨report, hreport⟩ : ∃ report, install env args sys = some report := by
    cases r <;> exact ⟨_, by rw [install, hloop]⟩
  exact ⟨report, hreport, contract_of_install hreport⟩

/-- On the bench the system is the list of what was done to it, every
profile is the scout profile, and the mavlink script fails. -/
def benchInstall : InstallEnv (List Text) where
  profiles := fun _ => some "# scout\nwifi\nmavlink\ntelemetry".toList
  setup := fun m sys => (sys ++ [m.name], if m = .mavlink then 1 else 0)
  record := fun profile sys => sys ++ [profile]
  isActive := fun _ _ => "active\n".toList

theorem bench_install_contract :
    ArgsEnd ["--profile".toList, "scout".toList] ∧
    ∃ report, install benchInstall ["--profile".toList, "scout".toList] [] = some report ∧
      report.runs.map (·.status) = [0, 1, 0] ∧ report.status = 1 ∧
      Contract benchInstall ["--profile".toList, "scout".toList] [] report := by
  have hends : ArgsEnd ["--profile".toList, "scout".toList] := ⟨2, by decide⟩
  obtain ⟨report, hreport, hcontract⟩ := install_contract benchInstall _ [] hends
  have heval : (install benchInstall ["--profile".toList, "scout".toList] []).map
      (fun r => (r.runs.map (·.status), r.status)) = some ([0, 1, 0], 1) := by decide
  rw [hreport, Option.map_some, Option.some.injEq, Prod.mk.injEq] at heval
  exact ⟨hends, report, hreport, heval.1, heval.2, hcontract⟩

/-! ## Runs that were not stopped -/

def profileOf (args : List Text) : Text :=
  match argLoop args.length args Options.init with
  | some (.ok o) => o.profile
  | _ => []

def modulesOf (env : InstallEnv σ) (args : List Text) : List Module :=
  match (env.profiles (profileOf args)).map selected with
  | some (.ok modules) => modules
  | _ => []

theorem profileOf_eq {args : List Text} {o : Options} (h : ParsedAs args o) :
    profileOf args = o.profile := by
  obtain ⟨fuel, hloop⟩ := h
  rw [profileOf, argLoop_enough hloop le_rfl]

/-- A run that was not stopped installed the modules of the profile its
arguments name. -/
theorem installed_of_install {args : List Text} {sys : σ} {report : Report σ}
    (h : install env args sys = some report) (hstop : report.stop = none) :
    ∃ text, env.profiles (profileOf args) = some text ∧
      selected text = .ok (modulesOf env args) ∧
      Installed env sys (profileOf args) (modulesOf env args) report := by
  rcases contract_of_install h with
    ⟨why, rfl, _⟩ | ⟨o, text, modules, ho, _, htext, hsel, _, _, _, hinstalled⟩
  · cases hstop
  · have hprofile := profileOf_eq ho
    have hmodules : modulesOf env args = modules := by
      rw [modulesOf, hprofile, htext, Option.map_some, hsel]
    rw [hprofile, hmodules]
    exact ⟨text, htext, hsel, hinstalled⟩

/-- What every setup script keeps, a sequence of them keeps; and it holds
between what each of them left and the end. -/
theorem HandedOn.keeps {R : σ → σ → Prop} (hrefl : ∀ s, R s s)
    (htrans : ∀ s t u, R s t → R t u → R s u) (hsetup : ∀ m s, R s (env.setup m s).1)
    {sys sys' : σ} {rs : List (ModuleRun σ)} (h : HandedOn env sys rs sys') :
    R sys sys' ∧ ∀ r ∈ rs, R r.after sys' := by
  induction rs generalizing sys with
  | nil => cases h; exact ⟨hrefl _, by simp⟩
  | cons r rs ih =>
      obtain ⟨rfl, hrun, hrest⟩ := h
      obtain ⟨hkeeps, hlater⟩ := ih hrest
      have hstep : R r.before r.after := by
        have := hsetup r.module r.before
        rwa [hrun] at this
      refine ⟨htrans _ _ _ hstep hkeeps, fun r' hr' => ?_⟩
      rcases List.mem_cons.mp hr' with rfl | hr'
      · exact hkeeps
      · exact hlater r' hr'

theorem HandedOn.setup_eq {sys sys' : σ} {rs : List (ModuleRun σ)}
    (h : HandedOn env sys rs sys') {r : ModuleRun σ} (hr : r ∈ rs) :
    env.setup r.module r.before = (r.after, r.status) := by
  induction rs generalizing sys with
  | nil => cases hr
  | cons r' rs ih =>
      obtain ⟨_, hrun, hrest⟩ := h
      rcases List.mem_cons.mp hr with rfl | hr
      · exact hrun
      · exact ih hrest hr

end Specter
