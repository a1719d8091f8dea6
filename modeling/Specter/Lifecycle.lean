import Specter.Rerun

/-!
# A drone's life

Everything the repository does to a drone after it was flashed: runs of
`install.sh` and of `update.sh`, each with whatever failures, and between
them edits of the files under `/etc/specter`. What holds in the middle of
all that is what systemd relies on at the next boot: an enabled service
has the files it is started from (`enabled_startable`), because each
setup script enables last and under `set -e`.

The two exceptions are read off the scripts. `mavlink-routerd` need not
be in `/usr/bin` if there was no prebuilt binary and `command -v` found
one elsewhere; and `uv sync` stands right of `&&`, behind a `cd`.
-/

namespace Specter

open Posix Shell Shell.Script

/-- A run of `update.sh`: the checkout, what its commands do for reasons
of their own, the locale and the profiles directory. -/
structure UpdateRun where
  site : Site
  board : Board
  ws : SpaceClass
  profiles : Text → Option Text

def UpdateRun.run (u : UpdateRun) (sys : System) : System × Nat :=
  runUpdate u.site u.board u.ws u.profiles sys

inductive Occasion where
  | install (i : InstallRun)
  | update (u : UpdateRun)
  | edit (edits : File → Option Text)

/-- A run of `install.sh` whose argument loop does not end does nothing. -/
def live (sys : System) : Occasion → System
  | .install i => ((i.run sys).map Report.sys).getD sys
  | .update u => (u.run sys).1
  | .edit edits => sys.edited edits

def life (sys : System) (occasions : List Occasion) : System := occasions.foldl live sys

@[simp] theorem life_nil (sys : System) : life sys [] = sys := rfl

theorem life_append_singleton (sys : System) (occasions : List Occasion) (o : Occasion) :
    life sys (occasions ++ [o]) = live (life sys occasions) o := by
  simp [life, List.foldl_append]

/-! ## What a service is started from -/

/-- The unit, what `ExecStart` and `EnvironmentFile` name, and what the
program started cannot do without. -/
def Service.startFiles : Service → List File
  | .droneWifi => [.unit .droneWifi, .wifiStart, .wifiEnv, .hostapdConf]
  | .mavlinkRouter => [.unit .mavlinkRouter, .mavlinkRouterd, .mainConf]
  | .cameraRelay => [.unit .cameraRelay, .cameraRelay, .cameraRelayEnv]
  | .telemetrySender =>
    [.unit .telemetrySender, .sitePackages, .telemetrySender, .telemetrySenderEnv]

/-- A file that a completed setup script need not have made: the binary,
if there was none to install and one was found already, and the packages,
if `cd` failed. -/
def InstallRun.Skips (i : InstallRun) : File → Prop
  | .mavlinkRouterd =>
    (i.site.checkout.prebuilt = none ∨ (i.board .mavlink).status .testPrebuilt ≠ 0) ∧
      (i.board .mavlink).status (.tool .commandMavlinkRouterd) = 0
  | .sitePackages => (i.board .telemetry).status .cdOptSpecter ≠ 0
  | _ => False

/-! ## What stands before `systemctl enable` -/

section Statements

variable {site : Site} {board : Board} {as : List (Script Cmd)} {p q : Proc}

/-- A statement that has made a file by the time it completes. -/
def Leaves (site : Site) (board : Board) (a : Script Cmd) (f : File) : Prop :=
  ∀ p p', Completes (shell site board false) a p p' → p'.sys.files f ≠ none

theorem files_of_leaves {a : Script Cmd} {f : File} (ha : a ∈ as) (hf : Leaves site board a f)
    (h : Completes (shell site board false) (.block as) p q) : q.sys.files f ≠ none := by
  obtain ⟨t, t', -, hcompl, hafter⟩ := completed_of_mem ha h
  exact hafter.files_ne_none (hf t t' hcompl)

theorem leaves_cp (src : Source) (f : File) : Leaves site board (.cmd (.cp src f)) f := by
  intro p p' h
  rw [file_of_cp h]
  exact Option.some_ne_none _

theorem leaves_render (template : Source) (f : File) :
    Leaves site board (.pipeline (.envsubst template) [.tee f]) f := by
  intro p p' h
  rw [file_of_pipe_tee (exec_envsubst p template) h]
  exact Option.some_ne_none _

theorem files_of_write {p p' : Proc} {f : File} {text out : Text}
    (h : p.write f text = some (out, p')) : p'.sys.files f ≠ none := by
  obtain ⟨-, rfl⟩ := Proc.write_some h
  simp [Proc.apply, System.apply]

theorem leaves_installPrebuilt : Leaves site board (.cmd .installPrebuilt) .mavlinkRouterd := by
  intro p p' h
  obtain ⟨out, hperform⟩ := completes_performed h
  obtain ⟨text, -, hwrite⟩ := Option.bind_eq_some_iff.mp hperform
  exact files_of_write hwrite

theorem leaves_buildMavlinkRouter :
    Leaves site board (.cmd .buildMavlinkRouter) .mavlinkRouterd := by
  intro p p' h
  obtain ⟨out, hperform⟩ := completes_performed h
  exact files_of_write hperform

theorem Leaves.block {a : Script Cmd} {f : File} (ha : a ∈ as) (hf : Leaves site board a f) :
    Leaves site board (.block as) f :=
  fun _ _ h => files_of_leaves ha hf h

/-- The binary is installed or built, unless one is found. -/
theorem leaves_mavlinkRouterd {thn els : Script Cmd} (hthn : Leaves site board thn .mavlinkRouterd)
    (hels : Leaves site board els .mavlinkRouterd)
    (h : ¬ ((site.checkout.prebuilt = none ∨ board.status .testPrebuilt ≠ 0) ∧
      board.status (.tool .commandMavlinkRouterd) = 0)) :
    Leaves site board (.ifThenElse (.cmd .testPrebuilt) thn
      (.ifThenElse (tool .commandMavlinkRouterd) .skip els)) .mavlinkRouterd := by
  intro p p' hc
  rw [completes_if] at hc
  split at hc
  · exact hthn _ _ hc
  · rename_i htest
    rw [tool, completes_if] at hc
    split at hc
    · rename_i hfound
      refine absurd ⟨?_, ?_⟩ h
      · by_contra hboth
        obtain ⟨hpre, hstatus⟩ := not_or.mp hboth
        exact htest (by simp [shell, exec, perform, Proc.test, hpre, not_not.mp hstatus])
      · by_contra hne
        simp [shell, exec, hne] at hfound
    · exact hels _ _ hc

/-- The packages are synced, unless `cd` fails. -/
theorem leaves_sitePackages (hcd : board.status .cdOptSpecter = 0)
    (h : Completes (shell site board false) (.andThen (.cmd .cdOptSpecter) (.cmd .uvSync)) p q)
    (hdir : .optSpecter ∈ p.sys.dirs) : q.sys.files .sitePackages ≠ none := by
  have hcdOk : exec site board .cdOptSpecter p default = ⟨0, [], p⟩ := by
    simp [exec, perform, Proc.test, hcd, hdir]
  obtain ⟨n, hn⟩ := h
  have hsync : Completes (shell site board false) (.cmd .uvSync) p q := by
    refine ⟨n, ?_⟩
    simpa [eval, eval_cmd_unchecked, shell, hcdOk] using hn
  obtain ⟨out, hperform⟩ := completes_performed hsync
  simp only [perform] at hperform
  split at hperform
  · cases hperform
  · exact files_of_write hperform

theorem dirs_of_completed {ds : List Dir} {d : Dir} (hmem : .cmd (.mkdirP ds) ∈ as)
    (hd : d ∈ ds.flatMap Dir.withParents)
    (h : Completes (shell site board false) (.block as) p q) : d ∈ q.sys.dirs := by
  obtain ⟨t, t', out, -, hperform, hafter⟩ := performed_of_mem hmem h
  cases hperform
  exact hafter.dirs (Finset.mem_union_right _ (List.mem_toFinset.mpr hd))

end Statements

/-! ## One script -/

variable {site : Site} {board : Board} {sys : System}

/-- What is enabled by a script was enabled before, or behind a part of
the script that has completed. -/
theorem completed_of_enabled {pre post : List (Script Cmd)} {svc : Service} {p : Proc}
    (hpre : Cmd.enable svc ∉ (block pre).commands)
    (h : svc ∈ (eval (shell site board false) (.block (pre ++ post)) true p).2.sys.enabled) :
    svc ∈ p.sys.enabled ∨ ∃ q, Completes (shell site board false) (.block pre) p q ∧
      Evolves (block post).commands q.sys
        (eval (shell site board false) (.block (pre ++ post)) true p).2.sys := by
  rcases completes_or_exits (shell site board false) (.block pre) p with hc | hx
  · refine Or.inr ⟨_, hc, ?_⟩
    rw [hc.eval_block_append]
    exact eval_evolves site board false _ true _
  · rw [(hx.block_append post).eval_eq] at h
    exact Or.inl
      (((eval_evolves site board false (.block pre) true p).enabledBy svc h).resolve_right hpre)

/-- Up to `systemctl enable`. -/
def beforeEnable : Module → List (Script Cmd)
  | .wifi => setupWifi.take 15
  | .mavlink => setupMavlink.take 10
  | .camera => setupCamera.take 10
  | .cellular => setupCellular
  | .telemetry => setupTelemetry.take 13

/-- By then a script has made what its service is started from. -/
theorem startFiles_of_completed (i : InstallRun) {m : Module} {svc : Service}
    (hsvc : m.service = some svc) {p q : Proc}
    (h : Completes (shell i.site (i.board m) false) (.block (beforeEnable m)) p q) :
    ∀ f ∈ svc.startFiles, q.sys.files f ≠ none ∨ i.Skips f := by
  have hmade {f : File} (k : Nat) {a : Script Cmd} (ha : (beforeEnable m)[k]? = some a)
      (hf : Leaves i.site (i.board m) a f) : q.sys.files f ≠ none ∨ i.Skips f :=
    Or.inl (files_of_leaves (List.mem_of_getElem? ha) hf h)
  cases m with
  | wifi =>
      cases hsvc
      simp only [Service.startFiles, List.forall_mem_cons]
      exact ⟨hmade 13 rfl (leaves_cp _ _), hmade 5 rfl (leaves_cp _ _),
        hmade 8 rfl (leaves_cp _ _), hmade 11 rfl (leaves_render _ _), nofun⟩
  | mavlink =>
      cases hsvc
      simp only [Service.startFiles, List.forall_mem_cons]
      refine ⟨hmade 8 rfl (leaves_cp _ _), ?_, hmade 7 rfl (leaves_render _ _), nofun⟩
      by_cases hskips : i.Skips .mavlinkRouterd
      · exact Or.inr hskips
      · exact hmade 1 rfl (leaves_mavlinkRouterd
          (leaves_installPrebuilt.block (by simp))
          (leaves_buildMavlinkRouter.block (by simp)) hskips)
  | camera =>
      cases hsvc
      simp only [Service.startFiles, List.forall_mem_cons]
      exact ⟨hmade 8 rfl (leaves_cp _ _), hmade 3 rfl (leaves_cp _ _),
        hmade 6 rfl (leaves_cp _ _), nofun⟩
  | cellular => cases hsvc
  | telemetry =>
      cases hsvc
      simp only [Service.startFiles, List.forall_mem_cons]
      refine ⟨hmade 11 rfl (leaves_cp _ _), ?_, hmade 5 rfl (leaves_cp _ _),
        hmade 8 rfl (leaves_cp _ _), nofun⟩
      by_cases hskips : i.Skips .sitePackages
      · exact Or.inr hskips
      · left
        have hsplit : beforeEnable .telemetry = setupTelemetry.take 6 ++
            .andThen (.cmd .cdOptSpecter) (.cmd .uvSync) :: (setupTelemetry.drop 7).take 6 := rfl
        rw [hsplit] at h
        obtain ⟨t, t', hfirst, hsync, hrest⟩ := completes_block_split.mp h
        have hdir : Dir.optSpecter ∈ t.sys.dirs :=
          dirs_of_completed (List.mem_of_getElem? (i := 2) rfl) (by decide) hfirst
        exact (evolves_of_completes hrest).files_ne_none
          (leaves_sitePackages (not_not.mp hskips) hsync hdir)

/-- Every enabled service has the files it is started from, but for some
that are excused. -/
def Startable (excused : File → Prop) (sys : System) : Prop :=
  ∀ svc ∈ sys.enabled, ∀ f ∈ svc.startFiles, sys.files f ≠ none ∨ excused f

theorem Startable.mono {excused excused' : File → Prop} (h : Startable excused sys)
    (himp : ∀ f, excused f → excused' f) : Startable excused' sys :=
  fun svc hsvc f hf => (h svc hsvc f hf).imp id (himp f)

/-- Where nothing is enabled and nothing is removed, nothing changes. -/
theorem Startable.of_files {excused : File → Prop} {sys' : System} (h : Startable excused sys)
    (henabled : sys'.enabled ⊆ sys.enabled)
    (hfiles : ∀ f, sys.files f ≠ none → sys'.files f ≠ none) : Startable excused sys' :=
  fun svc hsvc f hf => (h svc (henabled hsvc) f hf).imp (hfiles f) id

theorem setupScript_eq (m : Module) :
    ∃ post, setupScript m = beforeEnable m ++ post := by
  cases m with
  | cellular => exact ⟨[], (List.append_nil _).symm⟩
  | _ => exact ⟨_, (List.take_append_drop _ _).symm⟩

/-- **Script.** Whatever fails in a setup script, what it enables can be
started. -/
theorem runSetup_startable (i : InstallRun) (m : Module) {excused : File → Prop}
    (hskips : ∀ f, i.Skips f → excused f) {sys : System} (h : Startable excused sys) :
    Startable excused (runSetup i.site (i.board m) m sys).1 := by
  have hevolves := runSetup_evolves i.site (i.board m) m sys
  intro svc hsvc f hf
  by_cases hold : svc ∈ sys.enabled
  · exact (h svc hold f hf).imp hevolves.files_ne_none id
  · have hservice : m.service = some svc := (runSetup_enabled hsvc).resolve_left hold
    obtain ⟨post, hscript⟩ := setupScript_eq m
    have hrun : (runSetup i.site (i.board m) m sys).1 =
        (eval (shell i.site (i.board m) false) (.block (beforeEnable m ++ post)) true
          (.start sys)).2.sys := by
      rw [← hscript]
      rfl
    have hpre : ∀ svc, Cmd.enable svc ∉ (block (beforeEnable m)).commands := by
      intro svc hmem
      have hall : (block (beforeEnable m)).commands.all
          (fun c => match c with | .enable _ => false | _ => true) = true := by
        cases m <;> rfl
      have henable := List.all_eq_true.mp hall _ hmem
      cases henable
    rw [hrun] at hsvc ⊢
    obtain hbefore | ⟨q, hq, hafter⟩ := completed_of_enabled (hpre svc) hsvc
    · exact absurd hbefore hold
    · exact (startFiles_of_completed i hservice hq f hf).imp hafter.files_ne_none (hskips f)

/-! ## One occasion -/

/-- A run of `install.sh` did nothing, or it ran setup scripts and
recorded the profile. -/
theorem live_install (sys : System) (i : InstallRun) :
    live sys (.install i) = sys ∨ ∃ runs after, HandedOn i.env sys runs after ∧
      live sys (.install i) = recordProfile (profileOf i.args) after := by
  rw [live]
  cases hrun : i.run sys with
  | none => exact Or.inl rfl
  | some report =>
      rcases contract_of_install hrun with
        ⟨why, rfl, -⟩ | ⟨o, text, modules, ho, -, -, -, -, -, -, hinstalled⟩
      · exact Or.inl rfl
      · obtain ⟨after, hhanded, hsys⟩ := hinstalled.handedOn
        rw [profileOf_eq ho]
        exact Or.inr ⟨report.runs, after, hhanded, hsys⟩

theorem install_startable (i : InstallRun) {excused : File → Prop}
    (hskips : ∀ f, i.Skips f → excused f) (h : Startable excused sys) :
    Startable excused (live sys (.install i)) := by
  rcases live_install sys i with heq | ⟨runs, after, hhanded, heq⟩
  · rwa [heq]
  · rw [heq]
    have hafter : Startable excused after :=
      (hhanded.keeps (R := fun s s' => Startable excused s → Startable excused s')
        (fun _ => id) (fun _ _ _ hst htu hs => htu (hst hs))
        fun m _ => runSetup_startable i m hskips).1 h
    exact hafter.of_files (Finset.Subset.refl _) (recordProfile_grows _ _).files

theorem enable_not_mem_updateScript {has : Module → Bool} {profile : Text} (svc : Service) :
    Cmd.enable svc ∉ (block (updateScript has profile)).commands := by
  have hscripts (m : Module) : Cmd.enable svc ∉ (block (refreshScript m)).commands := by
    cases m <;> simp [refreshScript, Script.commands]
  simp only [updateScript, openingBlocks, refreshBlocks, restartBlocks, commands_block,
    List.flatMap_cons, List.flatMap_append, List.flatMap_nil, List.mem_append, List.mem_flatMap,
    List.mem_map, commands_cmd, List.mem_singleton, restartIfPossible, mem_commands_whenHas,
    sayActive, Script.commands]
  rintro ((heq | ⟨_, ⟨m, -, rfl⟩, hc⟩) | hc)
  · cases heq
  · exact hscripts m (mem_commands_whenHas.mp hc).2
  · simp at hc

theorem update_enabled (u : UpdateRun) (sys : System) : (u.run sys).1.enabled = sys.enabled := by
  have hevolves := runUpdate_evolves u.site u.board u.ws u.profiles sys
  refine Finset.Subset.antisymm (fun svc hsvc => ?_) hevolves.enabled
  exact (hevolves.enabledBy svc hsvc).resolve_right (enable_not_mem_updateScript svc)

theorem update_startable (u : UpdateRun) {excused : File → Prop} (h : Startable excused sys) :
    Startable excused (live sys (.update u)) :=
  h.of_files (update_enabled u sys).subset
    fun _ => (runUpdate_evolves u.site u.board u.ws u.profiles sys).files_ne_none

theorem edited_files_ne_none {edits : File → Option Text} {f : File} (h : sys.files f ≠ none) :
    (sys.edited edits).files f ≠ none := by
  by_cases hdir : f.dir = .etcSpecter
  · cases hedit : edits f <;> simp [System.edited, hdir, hedit, h]
  · simpa [System.edited, hdir] using h

theorem edit_startable (edits : File → Option Text) {excused : File → Prop}
    (h : Startable excused sys) : Startable excused (live sys (.edit edits)) :=
  h.of_files (Finset.Subset.refl _) fun _ => edited_files_ne_none

/-! ## A life -/

/-- **Enabled means startable.** Whatever failed in whichever run of a
drone's life, every service that is enabled has the files it is started
from, but for those that a setup script of that life skipped. -/
theorem enabled_startable (sys : System) (occasions : List Occasion)
    (h : ∀ svc ∈ sys.enabled, ∀ f ∈ svc.startFiles, sys.files f ≠ none) :
    ∀ svc ∈ (life sys occasions).enabled, ∀ f ∈ svc.startFiles,
      (life sys occasions).files f ≠ none ∨ ∃ i, .install i ∈ occasions ∧ i.Skips f := by
  suffices hlife : Startable (fun f => ∃ i, .install i ∈ occasions ∧ i.Skips f)
      (life sys occasions) from hlife
  induction occasions using List.reverseRecOn with
  | nil => exact fun svc hsvc f hf => Or.inl (h svc hsvc f hf)
  | append_singleton occasions o ih =>
      have hbefore : Startable (fun f => ∃ i, .install i ∈ occasions ++ [o] ∧ i.Skips f)
          (life sys occasions) :=
        ih.mono fun f ⟨i, hi, hskips⟩ => ⟨i, List.mem_append_left _ hi, hskips⟩
      rw [life_append_singleton]
      cases o with
      | install i =>
          refine install_startable i (fun f hskips => ⟨i, ?_, hskips⟩) hbefore
          exact List.mem_append_right _ (List.mem_singleton_self _)
      | update u => exact update_startable u hbefore
      | edit edits => exact edit_startable edits hbefore

/-- A run on the bench, with the binary in the checkout. -/
def equippedRun (profile : Text) : InstallRun :=
  { benchRun profile with
    site := { benchSite with checkout := { benchSite.checkout with prebuilt := some [] } } }

/-- A scout whose settings are edited between two installs: the telemetry
sender is enabled, and nothing that it or another service is started
from is missing. -/
theorem scout_startable :
    let sys := life freshImage [.install (equippedRun "scout".toList),
      .edit fun f => if f = .wifiEnv then some "WIFI_INTERFACE=wlan0\n".toList else none,
      .install (equippedRun "bench".toList)]
    .telemetrySender ∈ sys.enabled ∧
      ∀ svc ∈ sys.enabled, ∀ f ∈ svc.startFiles, sys.files f ≠ none := by
  intro sys
  refine ⟨by decide +kernel, fun svc hsvc f hf => ?_⟩
  have h := enabled_startable freshImage _ (fun svc hsvc => absurd hsvc (Finset.notMem_empty svc))
    svc hsvc f hf
  refine h.resolve_right ?_
  rintro ⟨i, hi, hskips⟩
  have hrun : ∃ profile, i = equippedRun profile := by
    simp only [List.mem_cons, Occasion.install.injEq, reduceCtorEq, List.not_mem_nil, or_false,
      false_or] at hi
    rcases hi with rfl | rfl <;> exact ⟨_, rfl⟩
  obtain ⟨profile, rfl⟩ := hrun
  cases f with
  | mavlinkRouterd =>
      rcases hskips.1 with hpre | hstatus
      · cases hpre
      · exact hstatus rfl
  | sitePackages => exact hskips rfl
  | _ => exact hskips

/-! ## Units that a unit requires -/

/-- `Requires=`. -/
def Service.requires : Service → List Service
  | .telemetrySender => [.mavlinkRouter]
  | .droneWifi | .mavlinkRouter | .cameraRelay => []

/-- Where a required unit is missing, the service is not started. -/
def RequirementsMet (sys : System) : Prop :=
  ∀ svc ∈ sys.enabled, ∀ r ∈ svc.requires, sys.files (.unit r) ≠ none

theorem mem_services_iff {i : InstallRun} {svc : Service} :
    svc ∈ i.services ↔ svc.owner ∈ i.modules := by
  simp only [InstallRun.services, InstallRun.modules, List.mem_filterMap, service_eq_some_iff]
  constructor
  · rintro ⟨m, hm, rfl⟩
    exact hm
  · exact fun hm => ⟨_, hm, rfl⟩

theorem configText_unit (site : Site) (board : Board) (svc : Service) :
    configText site board svc.owner (.unit svc) = some (site.checkout.file (.unit svc)) := by
  cases svc <;> rfl

/-- **Step.** A run brings the units of its modules, and no others. -/
theorem unit_of_reinstall {sys' : System} {i : InstallRun} (h : reinstall sys i = .ok sys')
    (svc : Service) :
    sys'.files (.unit svc) ≠ none ↔ sys.files (.unit svc) ≠ none ∨ svc.owner ∈ i.modules := by
  obtain ⟨runs, after, hmodules, -, hhanded, rfl, hok⟩ := runs_of_reinstall h
  have hrecord : File.unit svc ≠ .installedProfile := by simp
  rw [recordProfile_files hrecord]
  constructor
  · intro hunit
    by_cases howner : svc.owner ∈ i.modules
    · exact Or.inr howner
    · left
      have hsame : sys.files (.unit svc) = after.files (.unit svc) := by
        refine hhanded.chain (R := fun s s' : System => s.files (.unit svc) = s'.files (.unit svc))
          (fun _ => rfl) (fun _ _ _ => Eq.trans) fun r hr => ?_
        have hne : r.module ≠ svc.owner := by
          rintro heq
          exact howner (hmodules ▸ heq ▸ List.mem_map_of_mem hr)
        have hnone : configText i.site (i.board r.module) r.module (.unit svc) = none :=
          configText_of_ne (configText_unit i.site (i.board r.module) svc) hne
        have hother := runSetup_files_of_configText r.before rfl hnone
        rw [hok r hr] at hother
        exact hother.symm
      rwa [hsame]
  · have hgrows := (hhanded.keeps Grows.refl (fun _ _ _ => Grows.trans)
      fun m s => runSetup_grows i.site (i.board m) m s).1
    rintro (hold | howner)
    · exact hgrows.files _ hold
    · have htext := configText_unit i.site (i.board svc.owner) svc
      have hfile := config_of_reinstall h howner htext rfl
      rw [recordProfile_files hrecord] at hfile
      rw [hfile]
      exact Option.some_ne_none _

/-- **Run.** -/
theorem unit_of_history {sys' : System} {is : List InstallRun}
    (h : Run.run reinstall sys is = .ok sys') (svc : Service) :
    sys'.files (.unit svc) ≠ none ↔
      sys.files (.unit svc) ≠ none ∨ ∃ j ∈ is, svc.owner ∈ j.modules := by
  refine Run.run_induction (P := fun is sys' => sys'.files (.unit svc) ≠ none ↔
    sys.files (.unit svc) ≠ none ∨ ∃ j ∈ is, svc.owner ∈ j.modules) (by simp) ?_ h
  intro is t i t' _ ih hstep
  rw [unit_of_reinstall hstep, ih]
  simp only [List.mem_append, List.mem_singleton, or_and_right, exists_or, exists_eq_left, or_assoc]

/-- **Requirements.** After a history of installs in which every module
was set up OK, systemd finds every unit that an enabled service requires
if and only if no profile had telemetry, unless one had mavlink: nothing
keeps a profile from naming telemetry alone. -/
theorem requirementsMet_iff (sys : System) (is : List InstallRun) {sys' : System}
    (h : Run.run reinstall sys is = .ok sys') :
    RequirementsMet sys' ↔
      (.telemetrySender ∈ sys.enabled ∨ ∃ j ∈ is, .telemetry ∈ j.modules) →
        (sys.files (.unit .mavlinkRouter) ≠ none ∨ ∃ j ∈ is, .mavlink ∈ j.modules) := by
  have htelemetry := enabled_of_history h .telemetrySender
  have hunit := unit_of_history h .mavlinkRouter
  simp only [mem_services_iff, Service.owner] at htelemetry hunit
  rw [← htelemetry, ← hunit]
  constructor
  · intro hmet htele
    exact hmet _ htele _ (List.mem_singleton_self _)
  · intro himp svc hsvc r hr
    cases svc with
    | telemetrySender =>
        obtain rfl := List.mem_singleton.mp hr
        exact himp hsvc
    | _ => cases hr

/-- A profile of telemetry alone is installed without a complaint. -/
def cloudOnlyRun : InstallRun :=
  { benchRun "cloud".toList with profiles := fun _ => some "telemetry\n".toList }

theorem cloudOnly_unmet :
    ∃ sys', Run.run reinstall freshImage [cloudOnlyRun] = .ok sys' ∧
      .telemetrySender ∈ sys'.enabled ∧ ¬ RequirementsMet sys' := by
  have hok : (Run.run reinstall freshImage [cloudOnlyRun]).toOption.isSome := by decide +kernel
  cases h : Run.run reinstall freshImage [cloudOnlyRun] with
  | error e => rw [h] at hok; cases hok
  | ok sys' =>
      have htelemetry : Module.telemetry ∈ cloudOnlyRun.modules := by decide
      have hmavlink : Module.mavlink ∉ cloudOnlyRun.modules := by decide
      have henabled := (enabled_of_history h .telemetrySender).mpr
        (Or.inr ⟨_, List.mem_singleton_self _, mem_services_iff.mpr htelemetry⟩)
      refine ⟨sys', rfl, henabled, fun hmet => ?_⟩
      rcases (requirementsMet_iff freshImage [cloudOnlyRun] h).mp hmet
          (Or.inr ⟨_, List.mem_singleton_self _, htelemetry⟩) with hfile | ⟨j, hj, hmod⟩
      · exact hfile rfl
      · rw [List.mem_singleton.mp hj] at hmod
        exact hmavlink hmod

end Specter
