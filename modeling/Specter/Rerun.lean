import Specter.Provision
import Specter.Reprofile

/-!
# Installing again, after the operator has edited the settings

A setup script copies its environment template over the file the
operator was told to edit. So a second run of `install.sh` keeps an
edited environment file only if the edit has changed nothing, or if the
profile does not select its module (`rerun_safe_iff`). What a run
leaves in the configuration files does not depend on what it found there
(`config_of_reinstall`), and a third run changes nothing further, as
long as `envsubst` and `echo` print the same.
-/

namespace Specter

open Posix

/-- The operator has given some files under `/etc/specter` a new text. -/
def System.edited (sys : System) (edits : File → Option Text) : System :=
  { sys with
    files := fun f => if f.dir = .etcSpecter then (edits f).or (sys.files f) else sys.files f }

/-- The same command on the same repository. -/
structure InstallRun.SameInstall (i j : InstallRun) : Prop where
  args : j.args = i.args
  profiles : j.profiles = i.profiles
  site : j.site = i.site

def InstallRun.modules (i : InstallRun) : List Module := modulesOf i.env i.args

theorem InstallRun.SameInstall.modules {i j : InstallRun} (h : i.SameInstall j) :
    j.modules = i.modules := by
  simp only [InstallRun.modules, modulesOf, InstallRun.env, h.args, h.profiles]

/-! ## What a run leaves in the configuration files -/

/-- What each of the runs keeps, all of them keep. -/
theorem HandedOn.chain {σ : Type} {env : InstallEnv σ} {R : σ → σ → Prop} (hrefl : ∀ s, R s s)
    (htrans : ∀ s t u, R s t → R t u → R s u) {sys sys' : σ} {rs : List (ModuleRun σ)}
    (h : HandedOn env sys rs sys') (hrs : ∀ r ∈ rs, R r.before r.after) : R sys sys' := by
  induction rs generalizing sys with
  | nil => cases h; exact hrefl _
  | cons r rs ih =>
      obtain ⟨rfl, -, hrest⟩ := h
      exact htrans _ _ _ (hrs r List.mem_cons_self)
        (ih hrest fun r' hr' => hrs r' (List.mem_cons_of_mem _ hr'))

theorem HandedOn.split {σ : Type} {env : InstallEnv σ} {sys sys' : σ} {rs rs' : List (ModuleRun σ)}
    {r : ModuleRun σ} (h : HandedOn env sys (rs ++ r :: rs') sys') :
    HandedOn env r.after rs' sys' := by
  induction rs generalizing sys with
  | nil => exact h.2.2
  | cons r' rs ih => exact ih h.2.2

/-- A configuration file belongs to one module. -/
theorem configText_unique {site site' : Site} {board board' : Board} {m m' : Module} {f : File}
    {text text' : Text} (h : configText site board m f = some text)
    (h' : configText site' board' m' f = some text') : m = m' := by
  have howner {site : Site} {board : Board} {m : Module} {text : Text}
      (h : configText site board m f = some text) : f.owner = some m := by
    unfold configText at h
    split at h <;> first | rfl | cases h
  exact Option.some.inj ((howner h).symm.trans (howner h'))

theorem configText_of_ne {site site' : Site} {board board' : Board} {m m' : Module} {f : File}
    {text : Text} (h : configText site board m f = some text) (hne : m' ≠ m) :
    configText site' board' m' f = none := by
  by_contra hsome
  obtain ⟨_, h'⟩ := Option.ne_none_iff_exists'.mp hsome
  exact hne (configText_unique h' h)

variable {i j k : InstallRun} {sys sys₁ sys₂ sys₃ sys' : System}

theorem runs_of_reinstall (h : reinstall sys i = .ok sys') :
    ∃ runs after, runs.map (·.module) = i.modules ∧ i.modules.Nodup ∧
      HandedOn i.env sys runs after ∧ sys' = recordProfile (profileOf i.args) after ∧
      ∀ r ∈ runs, runSetup i.site (i.board r.module) r.module r.before = (r.after, 0) := by
  obtain ⟨report, hrun, hstop, hstatus, rfl⟩ := reinstall_ok h
  obtain ⟨_, _, hsel, hinstalled⟩ := installed_of_install hrun hstop
  obtain ⟨after, hhanded, hsys⟩ := hinstalled.handedOn
  obtain ⟨names, -, hmodules⟩ := selected_ok hsel
  refine ⟨report.runs, after, hinstalled.runs, ?_, hhanded, hsys, fun r hr => ?_⟩
  · rw [InstallRun.modules, hmodules]
    exact select_nodup names
  · have hzero : r.status = 0 := by
      by_contra hne
      exact hinstalled.status.mpr ⟨r, hr, hne⟩ hstatus
    rw [← hzero]
    exact setup_of_run hrun hstop hr

theorem recordProfile_files {profile : Text} {f : File} (hf : f ≠ .installedProfile) :
    (recordProfile profile sys).files f = sys.files f := by
  simp [recordProfile, System.apply, Function.update_of_ne hf]

/-- A file of a selected module has the text its script leaves in it. -/
theorem config_of_reinstall (h : reinstall sys i = .ok sys') {m : Module} (hm : m ∈ i.modules)
    {f : File} {text : Text} (hf : configText i.site (i.board m) m f = some text)
    (hconfig : f.isConfig) : sys'.files f = some text := by
  obtain ⟨runs, after, hmodules, hnodup, hhanded, rfl, hok⟩ := runs_of_reinstall h
  rw [← hmodules] at hm hnodup
  obtain ⟨r, hr, rfl⟩ := List.mem_map.mp hm
  obtain ⟨before, later, rfl⟩ := List.append_of_mem hr
  have hrecord : f ≠ .installedProfile := by
    rintro rfl
    cases hmod : r.module <;> rw [hmod] at hf <;> cases hf
  rw [recordProfile_files hrecord]
  have hafter := runSetup_configText hf (hok r hr)
  refine hhanded.split.chain
    (R := fun s s' : System => s.files f = some text → s'.files f = some text)
    (fun _ h => h) (fun _ _ _ h h' hs => h' (h hs)) (fun r' hr' hs => ?_) hafter
  -- a later script is another module's
  have hne : r'.module ≠ r.module := by
    rw [List.map_append, List.map_cons] at hnodup
    have htail := (List.nodup_append.mp hnodup).2.1
    exact fun heq => (List.nodup_cons.mp htail).1 (heq ▸ List.mem_map_of_mem hr')
  have hother : configText i.site (i.board r'.module) r'.module f = none := configText_of_ne hf hne
  have hsame := runSetup_files_of_configText r'.before hconfig hother
  rw [hok r' (List.mem_append_right _ (List.mem_cons_of_mem _ hr'))] at hsame
  rw [hsame]
  exact hs

/-- Whether a run is stopped, and why, is up to the arguments and the profiles. -/
theorem install_stop_congr {σ : Type} {env env' : InstallEnv σ}
    (hprofiles : env'.profiles = env.profiles) {args : List Text} {s s' : σ}
    {report report' : Report σ} (h : install env args s = some report)
    (h' : install env' args s' = some report') : report'.stop = report.stop := by
  unfold install at h h'
  split at h
  · cases h
  · rename_i heq
    rw [heq] at h'
    cases h; cases h'; rfl
  · rename_i o heq
    rw [heq] at h'
    cases h; cases h'
    unfold installWith
    rw [hprofiles]
    repeat' split
    all_goals rfl

/-- Whatever becomes of a run, a configuration file has the text it had
or the one its script writes. -/
theorem config_of_run {report : Report System} (h : i.run sys = some report)
    (hstop : report.stop = none) {f : File} (hconfig : f.isConfig)
    (hrecord : f ≠ .installedProfile) :
    report.sys.files f = sys.files f ∨
      ∃ m ∈ i.modules, ∃ text, configText i.site (i.board m) m f = some text ∧
        report.sys.files f = some text := by
  obtain ⟨_, -, -, hinstalled⟩ := installed_of_install h hstop
  obtain ⟨after, hhanded, hsys⟩ := hinstalled.handedOn
  change report.sys = recordProfile _ _ at hsys
  rw [hsys, recordProfile_files hrecord]
  refine hhanded.chain (R := fun s s' : System => s'.files f = s.files f ∨
    ∃ m ∈ i.modules, ∃ text, configText i.site (i.board m) m f = some text ∧
      s'.files f = some text) (fun _ => Or.inl rfl) (fun s t u hst htu => ?_) (fun r hr => ?_)
  · rcases htu with hsame | hwritten
    · rwa [hsame]
    · exact Or.inr hwritten
  · have hsetup := setup_of_run h hstop hr
    have hmem : r.module ∈ i.modules := by
      rw [InstallRun.modules, ← hinstalled.runs]
      exact List.mem_map_of_mem hr
    cases hf : configText i.site (i.board r.module) r.module f with
    | none =>
        have hsame := runSetup_files_of_configText r.before hconfig hf
        rw [hsetup] at hsame
        exact Or.inl hsame
    | some text =>
        have hor := runSetup_configText_or hf r.before
        rw [hsetup] at hor
        exact hor.imp id fun hwritten => ⟨r.module, hmem, text, hf, hwritten⟩

/-! ## What becomes of the settings -/

/-- What is read off the files the operator has edited is as it was after
the second run, and the third changes no configuration file further. -/
def RerunSafe {ν : Type} (value : Text → ν) (edits : File → Option Text)
    (sys₂ sys₃ : System) : Prop :=
  (∀ m text, edits (envFile m) = some text →
    (sys₂.files (envFile m)).map value = some (value text)) ∧
  ∀ f, f.isConfig → sys₃.files f = sys₂.files f

/-- In the environment files of the selected modules the operator has
changed nothing that is read off them. -/
def EditsVoid {ν : Type} (value : Text → ν) (i : InstallRun) (edits : File → Option Text) : Prop :=
  ∀ m ∈ i.modules, ∀ text, edits (envFile m) = some text →
    value text = value (i.site.checkout.file (envTemplate m))

/-- `envsubst` and `echo` print the same in both runs. -/
def SameTexts (j k : InstallRun) : Prop :=
  ∀ m ∈ j.modules, ∀ f, configText j.site (j.board m) m f = configText j.site (k.board m) m f

theorem edited_files {edits : File → Option Text} {m : Module} {text : Text}
    (h : edits (envFile m) = some text) : (sys.edited edits).files (envFile m) = some text := by
  have hdir : (envFile m).dir = .etcSpecter := by cases m <;> rfl
  simp [System.edited, hdir, h]

/-- A file that no selected module writes is left alone, -/
theorem config_unwritten {report : Report System} (hij : i.SameInstall j)
    (h : j.run sys = some report) (hstop : report.stop = none) {f : File} (hconfig : f.isConfig)
    (hrecord : f ≠ .installedProfile)
    (hf : ∀ m ∈ i.modules, configText i.site (i.board m) m f = none) :
    report.sys.files f = sys.files f := by
  rcases config_of_run h hstop hconfig hrecord with hsame | ⟨m, hm, text, htext, -⟩
  · exact hsame
  · rw [hij.modules] at hm
    rw [hij.site, configText_eq_none (hf m hm)] at htext
    cases htext

/-- and one whose script writes what is there already is left alone. -/
theorem config_stays_of_run {report : Report System} (h : i.run sys = some report)
    (hstop : report.stop = none) {m : Module} {f : File} {text : Text}
    (hf : configText i.site (i.board m) m f = some text) (hrecord : f ≠ .installedProfile)
    (hthere : sys.files f = some text) : report.sys.files f = some text := by
  rcases config_of_run h hstop (configText_isConfig hf) hrecord with
    hsame | ⟨m', -, text', htext', hwritten⟩
  · rw [hsame, hthere]
  · obtain rfl := configText_unique hf htext'
    rw [hf] at htext'
    rwa [Option.some.inj htext']

theorem envFile_unselected {report : Report System} (hij : i.SameInstall j)
    (h : j.run sys = some report) (hstop : report.stop = none) {m : Module} (hm : m ∉ i.modules) :
    report.sys.files (envFile m) = sys.files (envFile m) := by
  have hf := configText_envFile i.site (i.board m) m
  refine config_unwritten hij h hstop (configText_isConfig hf) (by cases m <;> nofun) ?_
  intro m' hm'
  exact configText_of_ne hf fun heq => hm (heq ▸ hm')

/-- The files under `/etc/specter` are the environment files and the record. -/
theorem etcSpecter_cases {f : File} (h : f.dir = .etcSpecter) (hrecord : f ≠ .installedProfile) :
    ∃ m, f = envFile m := by
  cases f with
  | wifiEnv => exact ⟨.wifi, rfl⟩
  | mavlinkRouterEnv => exact ⟨.mavlink, rfl⟩
  | cameraRelayEnv => exact ⟨.camera, rfl⟩
  | cellularEnv => exact ⟨.cellular, rfl⟩
  | telemetrySenderEnv => exact ⟨.telemetry, rfl⟩
  | installedProfile => exact absurd rfl hrecord
  | _ => cases h

/-- After an installation and edits that change no text, the files the
scripts write have the texts they write. -/
theorem config_of_edited {edits : File → Option Text} (h : reinstall sys i = .ok sys₁)
    (hvoid : EditsVoid id i edits) {m : Module} (hm : m ∈ i.modules) {f : File} {text : Text}
    (hf : configText i.site (i.board m) m f = some text) (hrecord : f ≠ .installedProfile) :
    (sys₁.edited edits).files f = some text := by
  have hthere := config_of_reinstall h hm hf (configText_isConfig hf)
  by_cases hdir : f.dir = .etcSpecter
  · obtain ⟨m', rfl⟩ := etcSpecter_cases hdir hrecord
    obtain rfl := configText_unique hf (configText_envFile i.site (i.board m') m')
    cases hedit : edits (envFile m) with
    | none => simp [System.edited, hedit, hthere]
    | some text' =>
        rw [edited_files hedit, show text' = _ from hvoid m hm text' hedit]
        rw [configText_envFile] at hf
        exact hf
  · simp [System.edited, hdir, hthere]

/-- With the texts there already, runs change nothing, whatever becomes of
them. -/
theorem rerunSafe_of_void {ν : Type} (value : Text → ν) {edits : File → Option Text}
    (hij : i.SameInstall j) (hik : i.SameInstall k) (h : reinstall sys i = .ok sys₁)
    (hvoid : EditsVoid id i edits) (htexts : SameTexts i j) (htexts' : SameTexts i k)
    {r₂ r₃ : Report System} (h₂ : j.run (sys₁.edited edits) = some r₂)
    (h₃ : k.run r₂.sys = some r₃) : RerunSafe value edits r₂.sys r₃.sys := by
  have hstops : r₂.stop = none ∧ r₃.stop = none := by
    obtain ⟨report, hrun, hstop, -, -⟩ := reinstall_ok h
    unfold InstallRun.run at hrun h₂ h₃
    rw [hij.args] at h₂
    rw [hik.args] at h₃
    exact ⟨(install_stop_congr hij.profiles hrun h₂).trans hstop,
      (install_stop_congr hik.profiles hrun h₃).trans hstop⟩
  have hwritten {m : Module} (hm : m ∈ i.modules) {f : File} {text : Text}
      (hf : configText i.site (i.board m) m f = some text) (hrecord : f ≠ .installedProfile) :
      r₂.sys.files f = some text ∧ r₃.sys.files f = some text := by
    have hthere := config_of_edited h hvoid hm hf hrecord
    have hj := htexts m hm f ▸ hf
    have hk := htexts' m hm f ▸ hf
    rw [← hij.site] at hj
    rw [← hik.site] at hk
    have hafter := config_stays_of_run h₂ hstops.1 hj hrecord hthere
    exact ⟨hafter, config_stays_of_run h₃ hstops.2 hk hrecord hafter⟩
  refine ⟨fun m text hedit => ?_, fun f hconfig => ?_⟩
  · by_cases hm : m ∈ i.modules
    · have hrecord : envFile m ≠ .installedProfile := by cases m <;> nofun
      rw [(hwritten hm (configText_envFile _ _ m) hrecord).1]
      exact congrArg some (congrArg value (hvoid m hm text hedit).symm)
    · rw [envFile_unselected hij h₂ hstops.1 hm, edited_files hedit]
      rfl
  · by_cases hrecord : f = .installedProfile
    · rw [hrecord, record_of_run h₂ hstops.1, record_of_run h₃ hstops.2, hij.args, hik.args]
    · by_cases hf : ∀ m ∈ i.modules, configText i.site (i.board m) m f = none
      · exact config_unwritten hik h₃ hstops.2 hconfig hrecord hf
      · push Not at hf
        obtain ⟨m, hm, hsome⟩ := hf
        obtain ⟨text, htext⟩ := Option.ne_none_iff_exists'.mp hsome
        obtain ⟨h₂, h₃⟩ := hwritten hm htext hrecord
        rw [h₂, h₃]

theorem rerunSafe_iff_of_runs {ν : Type} (value : Text → ν) {edits : File → Option Text}
    (hjk : j.SameInstall k)
    (h₂ : reinstall (sys₁.edited edits) j = .ok sys₂) (h₃ : reinstall sys₂ k = .ok sys₃) :
    RerunSafe value edits sys₂ sys₃ ↔ EditsVoid value j edits ∧ SameTexts j k := by
  have hfile {m : Module} (hm : m ∈ j.modules) {f : File} {text : Text}
      (hf : configText j.site (k.board m) m f = some text) : sys₃.files f = some text := by
    rw [← hjk.site] at hf
    exact config_of_reinstall h₃ (hjk.modules.symm ▸ hm) hf (configText_isConfig hf)
  have htemplate {m : Module} (hm : m ∈ j.modules) :
      sys₂.files (envFile m) = some (j.site.checkout.file (envTemplate m)) :=
    have hf := configText_envFile j.site (j.board m) m
    config_of_reinstall h₂ hm hf (configText_isConfig hf)
  constructor
  · rintro ⟨hkept, hsame⟩
    refine ⟨fun m hm text hedit => ?_, fun m hm f => ?_⟩
    · have hvalue := hkept m text hedit
      rw [htemplate hm] at hvalue
      exact (Option.some.inj hvalue).symm
    · cases hf : configText j.site (j.board m) m f with
      | none => exact (configText_eq_none hf).symm
      | some text =>
          cases hf' : configText j.site (k.board m) m f with
          | none => rw [configText_eq_none hf'] at hf; cases hf
          | some text' =>
              have hconfig := configText_isConfig hf
              rw [← config_of_reinstall h₂ hm hf hconfig, ← hfile hm hf', hsame f hconfig]
  · rintro ⟨hvoid, htexts⟩
    refine ⟨fun m text hedit => ?_, fun f hconfig => ?_⟩
    · by_cases hm : m ∈ j.modules
      · rw [htemplate hm, hvoid m hm text hedit]
        rfl
      · obtain ⟨report, hrun, hstop, -, rfl⟩ := reinstall_ok h₂
        rw [envFile_unselected ⟨rfl, rfl, rfl⟩ hrun hstop hm, edited_files hedit]
        rfl
    · by_cases hrecord : f = .installedProfile
      · rw [hrecord, record_of_reinstall h₂, record_of_reinstall h₃, hjk.args]
      · by_cases hf : ∀ m ∈ j.modules, configText j.site (j.board m) m f = none
        · obtain ⟨report, hrun, hstop, -, rfl⟩ := reinstall_ok h₃
          exact config_unwritten hjk hrun hstop hconfig hrecord hf
        · push Not at hf
          obtain ⟨m, hm, hsome⟩ := hf
          obtain ⟨text, htext⟩ := Option.ne_none_iff_exists'.mp hsome
          rw [config_of_reinstall h₂ hm htext hconfig, hfile hm (htexts m hm f ▸ htext)]

/-- **Headline.** Take any installation, any edits under `/etc/specter`
after it, and two more runs of the same command. If the edits change no
text and `envsubst` and `echo` print the same every time, the runs are
safe, even if modules fail. Runs in which every module installs are safe
if and only if nothing that is read off the environment files of the
selected modules was edited and the last two print the same. -/
theorem rerun_safe_iff {ν : Type} (value : Text → ν) (edits : File → Option Text)
    {i j k : InstallRun} (hij : i.SameInstall j) (hik : i.SameInstall k) {sys sys₁ : System}
    (h₁ : reinstall sys i = .ok sys₁) :
    (EditsVoid id i edits → SameTexts i j → SameTexts i k →
      ∀ r₂ r₃, j.run (sys₁.edited edits) = some r₂ → k.run r₂.sys = some r₃ →
        RerunSafe value edits r₂.sys r₃.sys) ∧
    ∀ sys₂ sys₃, reinstall (sys₁.edited edits) j = .ok sys₂ → reinstall sys₂ k = .ok sys₃ →
      (RerunSafe value edits sys₂ sys₃ ↔ EditsVoid value i edits ∧ SameTexts j k) := by
  refine ⟨fun hvoid htexts htexts' r₂ r₃ h₂ h₃ =>
    rerunSafe_of_void value hij hik h₁ hvoid htexts htexts' h₂ h₃, fun sys₂ sys₃ h₂ h₃ => ?_⟩
  have hjk : j.SameInstall k :=
    ⟨hik.args.trans hij.args.symm, hik.profiles.trans hij.profiles.symm,
      hik.site.trans hij.site.symm⟩
  rw [rerunSafe_iff_of_runs value hjk h₂ h₃, EditsVoid, EditsVoid, hij.modules, hij.site]

/-! ## On the bench -/

/-- A scout with the repository's settings for the telemetry sender. -/
def scoutRun : InstallRun :=
  { benchRun "scout".toList with site := siteWith telemetrySenderTemplate }

/-- What its environment file has after three runs, with these edits
after the first. -/
def apiKeySettings (edits : File → Option Text) : Except NotInstalled (List (Option Text)) := do
  let sys₁ ← reinstall freshImage scoutRun
  let sys₂ ← reinstall (sys₁.edited edits) scoutRun
  let sys₃ ← reinstall sys₂ scoutRun
  return [sys₁, sys₂, sys₃].map fun sys => sys.files .telemetrySenderEnv

theorem runs_of_settings {edits : File → Option Text} {texts : List (Option Text)}
    (h : apiKeySettings edits = .ok texts) :
    ∃ sys₁ sys₂ sys₃, reinstall freshImage scoutRun = .ok sys₁ ∧
      reinstall (sys₁.edited edits) scoutRun = .ok sys₂ ∧ reinstall sys₂ scoutRun = .ok sys₃ ∧
      texts = [sys₁, sys₂, sys₃].map fun sys => sys.files .telemetrySenderEnv := by
  unfold apiKeySettings at h
  cases h₁ : reinstall freshImage scoutRun with
  | error e => rw [h₁] at h; cases h
  | ok sys₁ =>
      simp only [h₁, bind, Except.bind] at h
      cases h₂ : reinstall (sys₁.edited edits) scoutRun with
      | error e => rw [h₂] at h; cases h
      | ok sys₂ =>
          simp only [h₂] at h
          cases h₃ : reinstall sys₂ scoutRun with
          | error e => rw [h₃] at h; cases h
          | ok sys₃ =>
              rw [h₃] at h
              cases h
              exact ⟨sys₁, sys₂, sys₃, rfl, h₂, h₃, rfl⟩

theorem scout_rerun_safe :
    ∃ sys₁ sys₂ sys₃, reinstall freshImage scoutRun = .ok sys₁ ∧
      reinstall (sys₁.edited fun _ => none) scoutRun = .ok sys₂ ∧
      reinstall sys₂ scoutRun = .ok sys₃ ∧ RerunSafe id (fun _ => none) sys₂ sys₃ := by
  have heval : apiKeySettings (fun _ => none) =
      .ok (List.replicate 3 (some telemetrySenderTemplate)) := by decide +kernel
  obtain ⟨sys₁, sys₂, sys₃, h₁, h₂, h₃, -⟩ := runs_of_settings heval
  refine ⟨sys₁, sys₂, sys₃, h₁, h₂, h₃, ?_⟩
  refine ((rerun_safe_iff id (fun _ => none) ⟨rfl, rfl, rfl⟩ ⟨rfl, rfl, rfl⟩ h₁).2
    sys₂ sys₃ h₂ h₃).mpr ⟨?_, fun _ _ _ => rfl⟩
  intro m _ text hedit
  cases hedit

/-- The operator pastes a key after the first run. -/
def pastedKey (f : File) : Option Text :=
  if f = .telemetrySenderEnv then
    some "DRONE_ID=drone-1\nDRONE_API_KEY=sk-7\nSEND_INTERVAL=1\n".toList
  else none

/-- The second puts the template back. -/
theorem pasted_key_lost :
    ∃ sys₁ sys₂ sys₃, reinstall freshImage scoutRun = .ok sys₁ ∧
      reinstall (sys₁.edited pastedKey) scoutRun = .ok sys₂ ∧
      reinstall sys₂ scoutRun = .ok sys₃ ∧
      sys₂.files .telemetrySenderEnv = some telemetrySenderTemplate ∧
      ¬ RerunSafe id pastedKey sys₂ sys₃ := by
  have heval : apiKeySettings pastedKey =
      .ok (List.replicate 3 (some telemetrySenderTemplate)) := by decide +kernel
  obtain ⟨sys₁, sys₂, sys₃, h₁, h₂, h₃, htexts⟩ := runs_of_settings heval
  have hlost : sys₂.files .telemetrySenderEnv = some telemetrySenderTemplate := by
    simp only [List.replicate, List.map, List.cons.injEq] at htexts
    exact htexts.2.1.symm
  refine ⟨sys₁, sys₂, sys₃, h₁, h₂, h₃, hlost, fun hsafe => ?_⟩
  have hkept := hsafe.1 .telemetry _ rfl
  rw [envFile, hlost] at hkept
  revert hkept
  decide +kernel

end Specter
