import Specter.Hardware
import Specter.Lib.EnvFile
import Specter.Provision
import Specter.Update

/-!
# Who thinks there is an API key

Three readers of `telemetry-sender.env` decide whether the telemetry
sender can run. `setup_telemetry.sh` looks for one exact line and starts
the service where it is not there; `update.sh` restarts without looking;
the process, in the environment systemd makes of the file, refuses to
start without a key. The first agrees with the last exactly on the files
of `GrepRight`, the second exactly on those with a key
(`started_iff_keyed_iff`).
-/

namespace Specter

open Posix Shell Shell.Script

def apiKeyName : Text := "DRONE_API_KEY".toList

/-- What `os.environ.get("DRONE_API_KEY")` gives the process. -/
def apiKey (envText : Text) : Option Text := EnvFile.lookup envText apiKeyName

/-- `if not DRONE_API_KEY`: the process exits with 1. -/
def refusesToStart (key : Option Text) : Bool := key.all (·.isEmpty)

def Keyed (envText : Text) : Prop := refusesToStart (apiKey envText) = false

instance : DecidablePred Keyed := fun _ => inferInstanceAs (Decidable (_ = _))

/-- The line `grep` looks for. -/
def unsetLine : Text := "DRONE_API_KEY=".toList

/-- The file has a last assignment to the key, and it is to the empty
value just if the exact line is there: as this assignment or before it. -/
def GrepRight (envText : Text) : Prop :=
  ∃ before line after value, lines envText = before ++ line :: after ∧
    EnvFile.assigned apiKeyName line = some value ∧
    (∀ l ∈ after, EnvFile.assigned apiKeyName l = none) ∧
    (value = [] ↔ unsetLine ∈ before ++ [line])

theorem grepRight_iff (envText : Text) :
    (Keyed envText ↔ unsetLine ∉ lines envText) ↔ GrepRight envText := by
  have hunset : EnvFile.assigned apiKeyName unsetLine = some [] := by decide
  have hmem {before after : List Text} {line : Text}
      (heq : lines envText = before ++ line :: after)
      (hafter : ∀ l ∈ after, EnvFile.assigned apiKeyName l = none) :
      unsetLine ∈ lines envText ↔ unsetLine ∈ before ++ [line] := by
    have hlater : unsetLine ∉ after := fun h => by
      rw [hafter _ h] at hunset
      cases hunset
    simp [heq, hlater]
  have hkeyed {value : Text} (hlookup : apiKey envText = some value) :
      Keyed envText ↔ value ≠ [] := by
    simp [Keyed, refusesToStart, hlookup]
  constructor
  · intro hagree
    rcases EnvFile.lookup_cases envText apiKeyName with
      ⟨hnone, hlookup⟩ | ⟨before, line, after, value, heq, hline, hafter, hlookup⟩
    · -- no assignment: not keyed, and the exact line would be one
      have hunkeyed : ¬ Keyed envText := by
        simp [Keyed, refusesToStart, apiKey, hlookup]
      have hin := not_not.mp (mt hagree.mpr hunkeyed)
      rw [hnone _ hin] at hunset
      cases hunset
    · refine ⟨before, line, after, value, heq, hline, hafter, ?_⟩
      rw [← hmem heq hafter, ← not_iff_not, ← hagree]
      exact (hkeyed hlookup).symm
  · rintro ⟨before, line, after, value, heq, hline, hafter, hvalue⟩
    rw [hmem heq hafter, ← not_iff_not.mpr hvalue]
    exact hkeyed (EnvFile.lookup_of_last heq hline hafter)

/-! ## `setup_telemetry.sh` -/

variable {site : Site} {board : Board} {sys : System}

/-- The script up to its last block. -/
def beforeStart : List (Script Cmd) := setupTelemetry.dropLast

/-- The last block. -/
def startBlock : Script Cmd :=
  .ifThenElse (.cmd .grepKeyUnset)
    (.block [
      say "",
      say "DRONE_API_KEY is empty in /etc/specter/telemetry-sender.env",
      say "Mint a key on the cloud (scripts/mint_key.py) and add it to the file.",
      say "Then start the service: sudo systemctl start telemetry-sender"])
    (.block [startIfPossible .telemetrySender, sayActive "telemetry-sender: " .telemetrySender])

theorem setupTelemetry_eq : setupTelemetry = beforeStart ++ [startBlock] := rfl

/-- Where the last block is reached, the file is the template. -/
theorem envFile_of_beforeStart {p : Proc}
    (h : Completes (shell site board false) (.block beforeStart) (.start sys) p) :
    p.sys.files .telemetrySenderEnv = some (site.checkout.file .telemetrySenderEnv) := by
  have hsplit : beforeStart = beforeStart.take 8 ++
      .cmd (.cp .telemetrySenderEnv .telemetrySenderEnv) :: beforeStart.drop 9 := rfl
  rw [hsplit] at h
  obtain ⟨q, q', -, hcp, hrest⟩ := completes_block_split.mp h
  rw [(evolves_of_completes hrest).files_eq (untouched_of_all rfl)]
  exact file_of_cp hcp

theorem exec_test_status {c : Cmd} {p : Proc} {input : Text} {passed : Prop} [Decidable passed]
    (h : perform site board p input c = p.test passed) :
    (exec site board c p input).status = 0 ↔ board.status c = 0 ∧ passed := by
  unfold exec
  rw [h, Proc.test]
  by_cases hboard : board.status c = 0 <;> by_cases hpassed : passed <;> simp [hboard, hpassed]

/-- `grep` finds the line. It can also fail for reasons of its own, and
then the script takes it that the line is not there. -/
theorem grep_status {p : Proc} {envText : Text}
    (hfile : p.sys.files .telemetrySenderEnv = some envText) :
    (exec site board .grepKeyUnset p []).status = 0 ↔
      board.status .grepKeyUnset = 0 ∧ unsetLine ∈ lines envText := by
  have hperform : perform site board p [] .grepKeyUnset = p.test (unsetLine ∈ lines envText) := by
    rw [perform, hfile, Option.any_some]
    exact Proc.test_congr List.contains_iff_mem
  exact exec_test_status hperform

/-- The last block starts the service unless `grep` finds the line. -/
theorem started_iff {p : Proc}
    (h : Completes (shell site board false) (.block beforeStart) (.start sys) p) :
    (∃ k, (.start .telemetrySender, k) ∈ setupLog site board .telemetry sys) ↔
      (exec site board .grepKeyUnset p []).status ≠ 0 := by
  have hlog : setupLog site board .telemetry sys =
      (eval (shell site board false).logged startBlock true
        (p, executed (shell site board false) (.block beforeStart) (.start sys))).2.2 := by
    rw [setupLog, setupScript, setupTelemetry_eq]
    exact executed_append h [startBlock]
  have hbefore (k : Nat) : (.start .telemetrySender, k) ∉
      executed (shell site board false) (.block beforeStart) (.start sys) := fun hmem => by
    cases mem_log_before (completes_logged h) hmem (by decide)
  set log := executed (shell site board false) (.block beforeStart) (.start sys)
  have hgrep := eval_cmd_unchecked (shell site board false).logged .grepKeyUnset (p, log)
  have hstatus : ((shell site board false).logged.exec .grepKeyUnset (p, log) default).status =
      (exec site board .grepKeyUnset p []).status := rfl
  rw [hlog, startBlock, eval_ifThenElse hgrep, hstatus]
  split
  · rename_i hfound
    refine iff_of_false ?_ (not_not.mpr hfound)
    rintro ⟨k, hk⟩
    rcases (eval_log _ _ _ _).2 _ hk with hmem | hmem
    · rcases List.mem_append.mp hmem with hmem | hmem
      · exact hbefore k hmem
      · cases List.mem_singleton.mp hmem
    · simp [say] at hmem
  · rename_i hmissing
    exact iff_of_true ⟨_, first_mem_log rfl _ _⟩ hmissing

/-! ## `update.sh` -/

/-- `update.sh` up to its restarts. -/
def beforeRestarts (has : Module → Bool) (profile : Text) : List (Script Cmd) :=
  openingBlocks has profile ++ [.cmd .daemonReload]

/-- The commands `update.sh` executes, with the statuses they end with. -/
def updateLog (site : Site) (board : Board) (ws : SpaceClass) (profiles : Text → Option Text)
    (sys : System) : List (Cmd × Nat) :=
  executed (shell site board true)
    (.block (updateScript (maintains ws profiles sys) (recordedProfile sys)))
    (.start { sys with journal := [] })

variable {ws : SpaceClass} {profiles : Text → Option Text}

theorem restartIfPossible_completes (svc : Service) (p : Proc) :
    ∃ p', Completes (shell site board true) (restartIfPossible svc) p p' :=
  ⟨_, completes_orElse_skip.mpr rfl⟩

/-- A drone that has the module restarts its service, whatever the file says. -/
theorem restarted_of_reached {p : Proc} (hhas : maintains ws profiles sys .telemetry)
    (h : Completes (shell site board true)
      (.block (beforeRestarts (maintains ws profiles sys) (recordedProfile sys)))
      (.start { sys with journal := [] }) p) :
    ∃ k, (.restart .telemetrySender, k) ∈ updateLog site board ws profiles sys := by
  set has := maintains ws profiles sys
  -- the camera's restart stands before it and cannot end the script
  obtain ⟨p', hcamera⟩ : ∃ p', Completes (shell site board true)
      (whenHas has .camera (restartIfPossible .cameraRelay)) p p' := by
    unfold whenHas
    split
    · exact restartIfPossible_completes .cameraRelay p
    · exact ⟨p, completes_skip.mpr rfl⟩
  have hreached := completes_block_append.mpr
    ⟨p, h, completes_block_cons.mpr ⟨p', hcamera, completes_block_nil.mpr rfl⟩⟩
  have hfirst : (whenHas has .telemetry (restartIfPossible .telemetrySender)).first? =
      some (.restart .telemetrySender) := by
    rw [whenHas, if_pos hhas]
    rfl
  have hscript : updateScript has (recordedProfile sys) =
      (beforeRestarts has (recordedProfile sys) ++
        [whenHas has .camera (restartIfPossible .cameraRelay)]) ++
      whenHas has .telemetry (restartIfPossible .telemetrySender) ::
        (restartBlocks has (recordedProfile sys)).drop 3 := by
    simp [updateScript, beforeRestarts, restartBlocks]
  rw [updateLog, hscript]
  exact ⟨_, first_executed_append hreached hfirst⟩

/-! ## Where they agree -/

/-- **Agreement, exactly.** Where its last block is reached,
`setup_telemetry.sh` starts the service just if the process will find a
key, if and only if the template is one of those that `grep` judges
right; with a `grep` that does not work, only if the template has a key.
`update.sh` restarts just if the process will find a key, if and only if
there is one. -/
theorem started_iff_keyed_iff (site : Site) (board : Board) (sys : System) :
    (∀ p, Completes (shell site board false) (.block beforeStart) (.start sys) p →
      (((∃ k, (.start .telemetrySender, k) ∈ setupLog site board .telemetry sys) ↔
          Keyed (site.checkout.file .telemetrySenderEnv)) ↔
        if board.status .grepKeyUnset = 0 then GrepRight (site.checkout.file .telemetrySenderEnv)
        else Keyed (site.checkout.file .telemetrySenderEnv)))
    ∧ ∀ ws profiles p envText, sys.files .telemetrySenderEnv = some envText →
      maintains ws profiles sys .telemetry →
      Completes (shell site board true)
        (.block (beforeRestarts (maintains ws profiles sys) (recordedProfile sys)))
        (.start { sys with journal := [] }) p →
      (((∃ k, (.restart .telemetrySender, k) ∈ updateLog site board ws profiles sys) ↔
          Keyed envText) ↔ Keyed envText) := by
  refine ⟨fun p h => ?_, fun ws profiles p envText _ hhas h => ?_⟩
  · rw [started_iff h, ne_eq, grep_status (envFile_of_beforeStart h)]
    split
    · rename_i hworks
      rw [← grepRight_iff, iff_comm (a := Keyed _)]
      simp [hworks]
    · rename_i hbroken
      simp [hbroken]
  · simp [restarted_of_reached hhas h]

/-! ## On the bench -/

/-- A scout with these settings for the telemetry sender. -/
def scoutWith (envText : Text) : System :=
  { benchScout with files := Function.update benchScout.files .telemetrySenderEnv (some envText) }

/-- A template with a key agrees. -/
theorem keyed_template_agrees :
    ∃ p, Completes (shell (siteWith "DRONE_API_KEY=sk-7\n".toList) benchBoard false)
        (.block beforeStart) (.start freshImage) p ∧
      ((∃ k, (.start .telemetrySender, k) ∈
          setupLog (siteWith "DRONE_API_KEY=sk-7\n".toList) benchBoard .telemetry freshImage) ↔
        Keyed "DRONE_API_KEY=sk-7\n".toList) := by
  have hreached := completes_of_status
    (m := shell (siteWith "DRONE_API_KEY=sk-7\n".toList) benchBoard false)
    (a := .block beforeStart) (s := .start freshImage) (by decide +kernel)
  refine ⟨_, hreached, ((started_iff_keyed_iff _ benchBoard freshImage).1 _ hreached).mpr ?_⟩
  refine (if_pos (show benchBoard.status .grepKeyUnset = 0 from rfl)).mpr ?_
  exact ⟨[], "DRONE_API_KEY=sk-7".toList, [], "sk-7".toList, rfl, by decide, nofun, by decide⟩

/-- A template with an empty key in quotes: `setup_telemetry.sh` starts a
service that will flap. With the template of the repository it does not,
but then the next `update.sh` does. -/
theorem unkeyed_service_started :
    (∃ k, (.start .telemetrySender, k) ∈
        setupLog (siteWith "DRONE_API_KEY=\"\"\n".toList) benchBoard .telemetry freshImage) ∧
      ¬ Keyed "DRONE_API_KEY=\"\"\n".toList ∧
      (∃ k, (.restart .telemetrySender, k) ∈ updateLog benchSite benchBoard .posix
        (fun _ => some scoutProfile) (scoutWith telemetrySenderTemplate)) ∧
      ¬ Keyed telemetrySenderTemplate := by
  refine ⟨⟨0, ?_⟩, ?_, ⟨0, ?_⟩, ?_⟩ <;> decide +kernel

end Specter
