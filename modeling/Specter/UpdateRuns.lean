import Specter.Update

/-!
# What a run of `update.sh` does

A run touches the modules the recorded profile has and no others, on any
board (`runUpdate_owner`). On a sound board it gets to its end exactly
where the system has what those modules' blocks need
(`runUpdate_completes_iff`), and has then made all their copies and all
their restarts (`mem_journal_runUpdate`).

Together with the agreement of the two profile readers this is what a
recorded profile means to `update.sh`.
-/

namespace Specter

open Posix Shell Shell.Script

variable {site : Site} {board : Board} {sys : System} {has : Module → Bool}

/-! ## Owners -/

def Service.owner : Service → Module
  | .droneWifi => .wifi
  | .mavlinkRouter => .mavlink
  | .cameraRelay => .camera
  | .telemetrySender => .telemetry

/-- The module a file belongs to; the record belongs to none. -/
def File.owner : File → Option Module
  | .unit svc => some svc.owner
  | .wifiStart | .wifiEnv | .hostapdConf | .defaultHostapd => some .wifi
  | .mavlinkRouterd | .mavlinkRouterEnv | .mainConf => some .mavlink
  | .cameraRelay | .cameraRelayEnv => some .camera
  | .cellularEnv => some .cellular
  | .pyproject | .uvLock | .telemetrySender | .sitePackages | .telemetrySenderEnv =>
    some .telemetry
  | .installedProfile => none

def Action.owner : Action → Option Module
  | .wrote f _ => f.owner
  | .restarted svc => some svc.owner

theorem service_eq_some_iff {m : Module} {svc : Service} :
    m.service = some svc ↔ svc.owner = m := by
  cases m <;> cases svc <;> decide

/-- All a command can do belongs to `m`. -/
def Cmd.ownedBy (m : Module) (c : Cmd) : Bool :=
  c.target.all (·.owner = some m) &&
    match c with
    | .restart svc => svc.owner = m
    | _ => true

theorem Cmd.Does.owner {m : Module} {c : Cmd} {a : Action} (hc : c.ownedBy m) (h : c.Does a) :
    a.owner = some m := by
  cases a with
  | wrote f text =>
      have htarget : c.target = some f := h
      simp only [Cmd.ownedBy, htarget, Option.all_some, Bool.and_eq_true,
        decide_eq_true_eq] at hc
      exact hc.1
  | restarted svc =>
      obtain rfl : c = .restart svc := h
      simpa [Cmd.ownedBy, Cmd.target, Action.owner] using hc

theorem refreshScript_ownedBy (m : Module) :
    ∀ c ∈ (block (refreshScript m)).commands, c.ownedBy m := by
  cases m <;> exact List.all_eq_true.mp (by rfl)

theorem mem_commands_whenHas {m : Module} {body : Script Cmd} {c : Cmd} :
    c ∈ (whenHas has m body).commands ↔ has m ∧ c ∈ body.commands := by
  unfold whenHas
  split <;> simp [*, Script.commands]

/-- Every command of the script either does nothing that lasts, or stands
under the `has_module` of the module it belongs to. -/
theorem updateScript_ownedBy {profile : Text} {c : Cmd} {a : Action}
    (hc : c ∈ (block (updateScript has profile)).commands) (ha : c.Does a) :
    ∃ m, has m ∧ a.owner = some m := by
  have silent : ∀ {c : Cmd}, c.target = none → (∀ svc, c ≠ .restart svc) → ¬ c.Does a := by
    intro c htarget hrestart hdoes
    cases a with
    | wrote f text => rw [show c.target = some f from hdoes] at htarget; cases htarget
    | restarted svc => exact hrestart svc hdoes
  simp only [updateScript, openingBlocks, refreshBlocks, restartBlocks, commands_block,
    List.flatMap_cons,
    List.flatMap_append, List.flatMap_nil, List.mem_append, List.mem_flatMap, List.mem_map,
    commands_cmd, List.mem_singleton, restartIfPossible] at hc
  rcases hc with (rfl | ⟨_, ⟨m, _, rfl⟩, hc⟩) | hc
  · exact absurd ha (silent rfl (by simp))
  · obtain ⟨hm, hc⟩ := mem_commands_whenHas.mp hc
    exact ⟨m, hm, ha.owner (refreshScript_ownedBy m c hc)⟩
  · simp only [mem_commands_whenHas, sayActive, Script.commands, commands_cmd, List.append_nil,
      List.mem_cons, List.not_mem_nil, or_false] at hc
    rcases hc with rfl | ⟨hm, rfl⟩ | ⟨hm, rfl⟩ | ⟨hm, rfl⟩ | rfl | ⟨_, rfl | rfl⟩ |
      ⟨_, rfl | rfl⟩ | ⟨_, rfl | rfl⟩ | ⟨_, rfl | rfl⟩
    · exact absurd ha (silent rfl (by simp))
    · exact ⟨_, hm, ha.owner (by rfl)⟩
    · exact ⟨_, hm, ha.owner (by rfl)⟩
    · exact ⟨_, hm, ha.owner (by rfl)⟩
    all_goals exact absurd ha (silent rfl (by simp))

variable {ws : SpaceClass} {profiles : Text → Option Text}

theorem runUpdate_evolves (site : Site) (board : Board) (ws : SpaceClass)
    (profiles : Text → Option Text) (sys : System) :
    Evolves (block (updateScript (maintains ws profiles sys) (recordedProfile sys))).commands
      { sys with journal := [] } (runUpdate site board ws profiles sys).1 :=
  eval_evolves site board true _ true (.start { sys with journal := [] })

/-- **Scope.** On any board, all a run does belongs to modules the
recorded profile has. -/
theorem runUpdate_owner {a : Action} (ha : a ∈ (runUpdate site board ws profiles sys).1.journal) :
    ∃ m, maintains ws profiles sys m ∧ a.owner = some m := by
  rcases (runUpdate_evolves site board ws profiles sys).does ha with h | ⟨c, hc, hdoes⟩
  · cases h
  · exact updateScript_ownedBy hc hdoes

/-- The files of other modules are as they were. -/
theorem runUpdate_files_of_owner {f : File}
    (hf : ∀ m, maintains ws profiles sys m → f.owner ≠ some m) :
    (runUpdate site board ws profiles sys).1.files f = sys.files f := by
  obtain ⟨as, hjournal, hfiles, _⟩ := (runUpdate_evolves site board ws profiles sys).journal
  rw [hfiles]
  refine System.applyAll_files_of_not_wrote fun text htext => ?_
  have hmem : Action.wrote f text ∈ (runUpdate site board ws profiles sys).1.journal := by
    rw [hjournal]; exact htext
  obtain ⟨m, hm, howner⟩ := runUpdate_owner hmem
  exact hf m hm howner

/-! ## Runs on a sound board -/

theorem System.applyAll_files_of_mem {f : File} {text : Text} {as : List Action}
    (h : Action.wrote f text ∈ as) (sys : System) : (sys.applyAll as).files f ≠ none := by
  obtain ⟨before, after, rfl⟩ := List.append_of_mem h
  rw [System.applyAll_append, System.applyAll_cons]
  exact System.applyAll_files_ne_none (by simp [System.apply]) after

theorem completes_whenHas {m : Module} {body : Script Cmd} {p p' : Proc} {pipefail : Bool} :
    Completes (shell site board pipefail) (whenHas has m body) p p' ↔
      if has m then Completes (shell site board pipefail) body p p' else p' = p := by
  unfold whenHas
  split
  · rfl
  · exact completes_skip

def Proc.refreshedAll (site : Site) (board : Board) (has : Module → Bool) (p : Proc)
    (ms : List Module) : Proc :=
  (ms.filter has).foldl (Proc.refreshed site board) p

theorem refreshed_env (site : Site) (board : Board) (p : Proc) (m : Module) :
    (p.refreshed site board m).sys.files .mavlinkRouterEnv = p.sys.files .mavlinkRouterEnv := by
  rw [Proc.refreshed_sys, applyAll_copies_env]

theorem refreshed_needs (site : Site) (board : Board) (p : Proc) (m m' : Module) :
    Needs site (p.refreshed site board m).sys m' ↔ Needs site p.sys m' :=
  needs_congr (by rw [Proc.refreshed_sys, System.applyAll_dirs]) (refreshed_env site board p m) m'

theorem refreshedAll_sys (has : Module → Bool) (p : Proc) (ms : List Module) :
    (p.refreshedAll site board has ms).sys =
      p.sys.applyAll ((ms.filter has).flatMap (copies site board p.sys)) := by
  unfold Proc.refreshedAll
  induction ms.filter has generalizing p with
  | nil => rfl
  | cons m ms ih =>
      rw [List.foldl_cons, ih, List.flatMap_cons, System.applyAll_append, Proc.refreshed_sys]
      congr 2
      funext m'
      exact copies_congr (applyAll_copies_env site board p.sys p.sys m) m'

/-- **Blocks.** They complete exactly where the system has what all of
them need. -/
theorem completes_refreshBlocks (hboard : board.Sound) {ms : List Module} {p p' : Proc} :
    Completes (shell site board true) (.block (refreshBlocks has ms)) p p' ↔
      (∀ m ∈ ms, has m → Needs site p.sys m) ∧ p' = p.refreshedAll site board has ms := by
  induction ms generalizing p with
  | nil => simp [refreshBlocks, Proc.refreshedAll]
  | cons m ms ih =>
      have hsplit : refreshBlocks has (m :: ms) =
          whenHas has m (.block (refreshScript m)) :: refreshBlocks has ms := rfl
      rw [hsplit, completes_block_cons]
      simp only [completes_whenHas, refresh_completes hboard, ih]
      cases hm : has m with
      | false => simp [hm, Proc.refreshedAll]
      | true => simp [hm, Proc.refreshedAll, refreshed_needs, and_assoc]

def restartOrder : List Module := [.camera, .telemetry, .mavlink]

def restartsOf (has : Module → Bool) : List Action :=
  restartOrder.flatMap fun m => if has m then restarts m else []

/-- A restart comes after any other restarts `done`, where its unit is there. -/
theorem completes_restart (hboard : board.Sound) {m : Module} {svc : Service} {p : Proc}
    {done : List Action} (hm : restarts m = [.restarted svc])
    (hdone : ∀ f text, Action.wrote f text ∉ done)
    (hunit : has m → p.sys.files (.unit svc) ≠ none) :
    Completes (shell site board true) (whenHas has m (restartIfPossible svc))
      (p.applyAll done) (p.applyAll (done ++ if has m then restarts m else [])) := by
  rw [completes_whenHas]
  split
  · rename_i hhas
    have hunit : (p.applyAll done).sys.files (.unit svc) ≠ none := by
      rw [Proc.applyAll, System.applyAll_files_of_not_wrote (hdone _)]
      exact hunit hhas
    rw [restartIfPossible, completes_orElse_skip]
    simp only [shell, exec_sound hboard, perform, if_neg hunit, hm]
    simp [Proc.applyAll, Proc.apply, System.applyAll_append]
  · rw [List.append_nil]

theorem completes_sayActive (hboard : board.Sound) (m : Module) (label : String)
    (svc : Service) (p : Proc) :
    Completes (shell site board true) (whenHas has m (sayActive label svc)) p p := by
  rw [completes_whenHas]
  split
  · rw [sayActive, completes_withOutput]
    simp [shell, exec_sound hboard, perform]
  · rfl

theorem restartBlocks_complete (hboard : board.Sound) {profile : Text} {p : Proc}
    (hunits : ∀ m svc, has m → m.service = some svc → p.sys.files (.unit svc) ≠ none) :
    Completes (shell site board true) (.block (restartBlocks has profile)) p
      (p.applyAll (restartsOf has)) := by
  have hall : restartsOf has = (([] ++ if has .camera then restarts .camera else []) ++
      if has .telemetry then restarts .telemetry else []) ++
      if has .mavlink then restarts .mavlink else [] := by
    simp [restartsOf, restartOrder]
  rw [hall]
  have hcamera : Completes (shell site board true)
      (whenHas has .camera (restartIfPossible .cameraRelay)) (p.applyAll []) _ :=
    completes_restart hboard rfl (by simp) fun h => hunits _ _ h rfl
  simp only [restartBlocks, completes_block_cons, completes_block_nil]
  refine ⟨p, (completes_sound hboard).mpr ⟨_, rfl⟩, _, hcamera,
    _, completes_restart hboard rfl ?_ fun h => hunits _ _ h rfl,
    _, completes_restart hboard rfl ?_ fun h => hunits _ _ h rfl,
    _, (completes_sound hboard).mpr ⟨_, rfl⟩, _, completes_sayActive hboard _ _ _ _,
    _, completes_sayActive hboard _ _ _ _, _, completes_sayActive hboard _ _ _ _,
    _, completes_sayActive hboard _ _ _ _, rfl⟩
  · intro f text
    split <;> simp [restarts]
  · intro f text
    split <;> split <;> simp [restarts]

def copiesOf (site : Site) (board : Board) (sys : System) (has : Module → Bool) : List Action :=
  (refreshOrder.filter has).flatMap (copies site board sys)

theorem unit_mem_copies {m : Module} {svc : Service} (h : m.service = some svc) :
    Action.wrote (.unit svc) (site.checkout.file (.unit svc)) ∈ copies site board sys m := by
  cases m <;> cases h <;> simp [copies]

theorem mem_copiesOf {a : Action} :
    a ∈ copiesOf site board sys has ↔ ∃ m, has m ∧ a ∈ copies site board sys m := by
  simp only [copiesOf, List.mem_flatMap, List.mem_filter]
  constructor
  · rintro ⟨m, ⟨_, hm⟩, ha⟩
    exact ⟨m, hm, ha⟩
  · rintro ⟨m, hm, ha⟩
    refine ⟨m, ⟨?_, hm⟩, ha⟩
    cases m <;> first | decide | cases ha

theorem mem_restartsOf {a : Action} : a ∈ restartsOf has ↔ ∃ m, has m ∧ a ∈ restarts m := by
  simp only [restartsOf, List.mem_flatMap]
  constructor
  · rintro ⟨m, _, ha⟩
    split at ha
    · exact ⟨m, ‹_›, ha⟩
    · cases ha
  · rintro ⟨m, hm, ha⟩
    refine ⟨m, ?_, by rwa [if_pos hm]⟩
    cases m <;> first | decide | cases ha

theorem updateScript_plain (has : Module → Bool) (profile : Text) :
    (block (updateScript has profile)).Plain := by
  refine plain_block fun a ha => ?_
  have hlast : (updateScript has profile).getLast? =
      some (whenHas has .telemetry (sayActive "telemetry-sender:  " .telemetrySender)) := by
    simp [updateScript, openingBlocks, restartBlocks, List.getLast?_cons]
  rw [hlast] at ha
  cases ha
  unfold whenHas
  split <;> trivial

theorem completes_openingBlocks (hboard : board.Sound) {profile : Text} {p p' : Proc} :
    Completes (shell site board true) (.block (openingBlocks has profile)) p p' ↔
      (∀ m, has m → Needs site p.sys m) ∧ p' = p.refreshedAll site board has refreshOrder := by
  have hneeds : (∀ m ∈ refreshOrder, has m → Needs site p.sys m) ↔
      ∀ m, has m → Needs site p.sys m := by
    refine ⟨fun h m hm => ?_, fun h m _ hm => h m hm⟩
    cases m with
    | cellular => trivial
    | wifi | mavlink | camera | telemetry => exact h _ (by decide) hm
  rw [openingBlocks, completes_block_cons, ← hneeds]
  simp only [completes_echo hboard, completes_refreshBlocks hboard]
  constructor
  · rintro ⟨_, rfl, h⟩
    exact h
  · intro h
    exact ⟨p, rfl, h⟩

theorem completes_updateScript (hboard : board.Sound) {profile : Text} {p p' : Proc} :
    Completes (shell site board true) (.block (updateScript has profile)) p p' ↔
      (∀ m, has m → Needs site p.sys m) ∧
        p' = (p.refreshedAll site board has refreshOrder).applyAll (restartsOf has) := by
  have hrestarts : Completes (shell site board true) (.block (restartBlocks has profile))
      (p.refreshedAll site board has refreshOrder)
      ((p.refreshedAll site board has refreshOrder).applyAll (restartsOf has)) := by
    refine restartBlocks_complete hboard fun m svc hm hsvc => ?_
    rw [refreshedAll_sys]
    exact System.applyAll_files_of_mem (mem_copiesOf.mpr ⟨m, hm, unit_mem_copies hsvc⟩) _
  rw [updateScript, completes_block_append]
  simp only [completes_openingBlocks hboard]
  constructor
  · rintro ⟨_, ⟨hall, rfl⟩, hrest⟩
    exact ⟨hall, by rw [← hrest.eval_eq, hrestarts.eval_eq]⟩
  · rintro ⟨hall, rfl⟩
    exact ⟨_, ⟨hall, rfl⟩, hrestarts⟩

/-- **Completion.** On a sound board a run ends with 0 exactly where the
system has what the maintained modules need. -/
theorem runUpdate_completes_iff (hboard : board.Sound) :
    (runUpdate site board ws profiles sys).2 = 0 ↔
      ∀ m, maintains ws profiles sys m → Needs site sys m := by
  set start := Proc.start { sys with journal := [] } with hstart
  have hneeds : ∀ m, Needs site start.sys m ↔ Needs site sys m := needs_congr rfl rfl
  constructor
  · intro hstatus m hm
    have hcompl : Completes (shell site board true) _ start _ := completes_of_status hstatus
    exact (hneeds m).mp (((completes_updateScript hboard).mp hcompl).1 m hm)
  · intro hall
    have hcompl : Completes (shell site board true)
        (.block (updateScript (maintains ws profiles sys) (recordedProfile sys))) start _ :=
      (completes_updateScript hboard).mpr ⟨fun m hm => (hneeds m).mpr (hall m hm), rfl⟩
    rw [← runScript_eq_iff (updateScript_plain _ _)] at hcompl
    exact congrArg Prod.snd hcompl

/-- **Effect.** It has then made their copies and their restarts. -/
theorem runUpdate_sys (hboard : board.Sound)
    (h : (runUpdate site board ws profiles sys).2 = 0) :
    (runUpdate site board ws profiles sys).1 = System.applyAll { sys with journal := [] }
      (copiesOf site board sys (maintains ws profiles sys) ++
        restartsOf (maintains ws profiles sys)) := by
  have hcompl := completes_of_status h
  obtain ⟨_, heq⟩ := (completes_updateScript hboard).mp hcompl
  have hcopies : copies site board { sys with journal := [] } = copies site board sys :=
    funext (copies_congr rfl)
  have hsys : (runUpdate site board ws profiles sys).1 = _ := congrArg Proc.sys heq
  rw [hsys, Proc.applyAll, refreshedAll_sys, ← System.applyAll_append, Proc.start, hcopies]
  rfl

theorem mem_journal_runUpdate (hboard : board.Sound)
    (h : (runUpdate site board ws profiles sys).2 = 0) {a : Action} :
    a ∈ (runUpdate site board ws profiles sys).1.journal ↔
      ∃ m, maintains ws profiles sys m ∧ a ∈ copies site board sys m ++ restarts m := by
  rw [runUpdate_sys hboard h, System.applyAll_journal, List.nil_append, List.mem_append,
    mem_copiesOf, mem_restartsOf]
  simp only [List.mem_append, and_or_left, exists_or]

/-! ## What a recorded profile means -/

theorem System.applyAll_files_eq {f : File} {text : Text} {as : List Action}
    (h : Action.wrote f text ∈ as) (hunique : ∀ t, Action.wrote f t ∈ as → t = text)
    (sys : System) : (sys.applyAll as).files f = some text := by
  induction as generalizing sys with
  | nil => cases h
  | cons a as ih =>
      rw [System.applyAll_cons]
      by_cases hlater : ∃ t, Action.wrote f t ∈ as
      · obtain ⟨t, ht⟩ := hlater
        obtain rfl := hunique t (List.mem_cons_of_mem _ ht)
        exact ih ht (fun t' ht' => hunique t' (List.mem_cons_of_mem _ ht')) _
      · have ha : a = .wrote f text := by
          rcases List.mem_cons.mp h with rfl | htail
          · rfl
          · exact absurd ⟨text, htail⟩ hlater
        rw [System.applyAll_files_of_not_wrote fun t ht => hlater ⟨t, ht⟩, ha]
        simp [System.apply]

/-- The text `update.sh` gives a file. -/
def currentText (site : Site) (board : Board) (sys : System) : File → Text
  | .unit svc => site.checkout.file (.unit svc)
  | .wifiStart => site.checkout.file .wifiStart
  | .cameraRelay => site.checkout.file .cameraRelay
  | .telemetrySender => site.checkout.file .telemetrySender
  | .mavlinkRouterd => site.checkout.prebuilt.getD []
  | .mainConf =>
    site.envsubst ((sys.files .mavlinkRouterEnv).getD []) (site.checkout.file .mavlinkRouterConf)
  | .sitePackages => board.output .uvPipInstall
  | _ => []

theorem copies_spec {a : Action} {m : Module} (h : a ∈ copies site board sys m) :
    ∃ f, f.owner = some m ∧ a = .wrote f (currentText site board sys f) := by
  cases m with
  | wifi | camera =>
      simp only [copies, List.mem_cons, List.not_mem_nil, or_false] at h
      rcases h with rfl | rfl <;> exact ⟨_, rfl, rfl⟩
  | mavlink =>
      simp only [copies, List.mem_append, Option.mem_toList, Option.map_eq_some_iff,
        List.mem_cons, List.not_mem_nil, or_false] at h
      rcases h with ⟨text, htext, rfl⟩ | rfl | rfl
      · exact ⟨.mavlinkRouterd, rfl, by simp [currentText, htext]⟩
      · exact ⟨_, rfl, rfl⟩
      · exact ⟨_, rfl, rfl⟩
  | cellular => cases h
  | telemetry =>
      simp only [copies, List.mem_append, List.mem_cons, List.not_mem_nil, or_false] at h
      rcases h with (rfl | rfl) | h
      · exact ⟨_, rfl, rfl⟩
      · exact ⟨_, rfl, rfl⟩
      · split at h
        · rw [List.mem_singleton.mp h]
          exact ⟨.sitePackages, rfl, rfl⟩
        · cases h

/-- A maintained module's files have their current text after a completed
run. -/
theorem runUpdate_files (hboard : board.Sound)
    (h : (runUpdate site board ws profiles sys).2 = 0) {m : Module}
    (hm : maintains ws profiles sys m) {f : File} {text : Text}
    (hf : Action.wrote f text ∈ copies site board sys m) :
    (runUpdate site board ws profiles sys).1.files f = some text := by
  have current : ∀ {m t}, Action.wrote f t ∈ copies site board sys m →
      t = currentText site board sys f := by
    intro m t ht
    obtain ⟨f', _, heq⟩ := copies_spec ht
    cases heq; rfl
  rw [runUpdate_sys hboard h]
  refine System.applyAll_files_eq ?_ ?_ _
  · exact List.mem_append_left _ (mem_copiesOf.mpr ⟨m, hm, hf⟩)
  · intro t ht
    rcases List.mem_append.mp ht with ht | ht
    · obtain ⟨m', _, ht⟩ := mem_copiesOf.mp ht
      rw [current ht, current hf]
    · obtain ⟨m', _, ht⟩ := mem_restartsOf.mp ht
      cases m' <;> simp [restarts] at ht

/-- **Headline.** Let the recorded profile be a text that `install.sh`
accepts, selecting `sel`. Then `has_module` holds of the modules in `sel`
and of no others. On any board `update.sh` does nothing to files and
services of other modules, and when all its commands succeed, it has
made exactly the copies and restarts of the modules in `sel`. -/
theorem update_maintains_selected (site : Site) (board : Board) (ws : SpaceClass)
    (profiles : Text → Option Text) (sys : System) {profile : Text} {sel : List Module}
    (hnul : '\x00' ∉ profile) (haccept : selected profile = .ok sel)
    (hrecord : profiles (recordedProfile sys) = some profile) :
    (∀ m : Module, hasModule ws (some profile) m ↔ m ∈ sel) ∧
    (∀ a ∈ (runUpdate site board ws profiles sys).1.journal, ∃ m ∈ sel, a.owner = some m) ∧
    (∀ f : File, (∀ m ∈ sel, f.owner ≠ some m) →
      (runUpdate site board ws profiles sys).1.files f = sys.files f) ∧
    (board.Sound → (runUpdate site board ws profiles sys).2 = 0 →
      (∀ a, a ∈ (runUpdate site board ws profiles sys).1.journal ↔
        ∃ m ∈ sel, a ∈ copies site board sys m ++ restarts m) ∧
      ∀ m ∈ sel, ∀ f text, Action.wrote f text ∈ copies site board sys m →
        (runUpdate site board ws profiles sys).1.files f = some text) := by
  have hreaders : ∀ m : Module, hasModule ws (some profile) m ↔ m ∈ sel :=
    hasModule_iff_selected ws hnul haccept
  have hmaintains : ∀ m, maintains ws profiles sys m ↔ m ∈ sel := by
    intro m
    rw [maintains, hrecord]; exact hreaders m
  refine ⟨hreaders, ?_, ?_, ?_⟩
  · intro a ha
    obtain ⟨m, hm, howner⟩ := runUpdate_owner ha
    exact ⟨m, (hmaintains m).mp hm, howner⟩
  · intro f hf
    exact runUpdate_files_of_owner fun m hm => hf m ((hmaintains m).mp hm)
  · intro hboard hstatus
    refine ⟨fun a => ?_, fun m hm f text hf => ?_⟩
    · rw [mem_journal_runUpdate hboard hstatus]
      simp only [hmaintains]
    · exact runUpdate_files hboard hstatus ((hmaintains m).mpr hm) hf

/-! ## On the bench -/

/-- A checkout of empty files, with no binary and no wheels. -/
def benchSite : Site where
  checkout := { file := fun _ => [], prebuilt := none, wheels := false }
  envsubst := fun _ template => template

def benchBoard : Board where
  status := fun _ => 0
  output := fun _ => []

def scoutProfile : Text := "# scout\nwifi\nmavlink\ntelemetry".toList

/-- A scout that is fully set up. -/
def benchScout : System where
  dirs := {.systemd, .usrBin, .etcMavlinkRouter, .optSpecter, .optSpecterBin, .optSpecterSrc}
  files := fun f =>
    match f with
    | .installedProfile => some "scout\n".toList
    | .mavlinkRouterEnv => some []
    | _ => none
  enabled := {.droneWifi, .mavlinkRouter, .telemetrySender}
  journal := []

theorem bench_update_maintains :
    (runUpdate benchSite benchBoard .posix (fun _ => some scoutProfile) benchScout).2 = 0 ∧
    ∀ a, a ∈ (runUpdate benchSite benchBoard .posix (fun _ => some scoutProfile)
        benchScout).1.journal ↔
      ∃ m ∈ [Module.wifi, .mavlink, .telemetry],
        a ∈ copies benchSite benchBoard benchScout m ++ restarts m := by
  have haccept : selected scoutProfile = .ok [.wifi, .mavlink, .telemetry] := rfl
  have h := update_maintains_selected benchSite benchBoard .posix (fun _ => some scoutProfile)
    benchScout (by decide) haccept rfl
  have hstatus :
      (runUpdate benchSite benchBoard .posix (fun _ => some scoutProfile) benchScout).2 = 0 := by
    decide +kernel
  exact ⟨hstatus, (h.2.2.2 (fun _ => rfl) hstatus).1⟩

end Specter
