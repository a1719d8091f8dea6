import Specter.Hardware
import Specter.Provision

/-!
# Failures behind an exit status of 0

A setup script that exits with 0 can have failed on the way. Under
`set -e` without `pipefail` the status of a pipeline is that of its last
member, and what stands left of `&&` may fail: so the renderings of
`envsubst`, one `echo`, the download of `uv` and a `cd` go unnoticed.
Everything else of the install phase ends the script
(`mem_unnoticed`).
-/

namespace Specter

open Posix Shell Shell.Script

variable {site : Site} {board : Board} {m : Module} {sys : System}

/-- A script that exits with 0 has hidden no failure: its install phase
went well, and it has rendered its template in full. -/
def NothingMasked (site : Site) (board : Board) (m : Module) (sys : System) : Prop :=
  InstallPhaseOk (setupLog site board m sys) ∧
    ∀ template conf, renders m = some (template, conf) →
      (runSetup site board m sys).1.files conf =
        some (site.envsubst (site.checkout.file (envTemplate m)) (site.checkout.file template))

/-- The commands of the install phase whose failure goes unnoticed. -/
def unnoticed : Module → List Cmd
  | .wifi => [.envsubst .hostapdConf, .echo daemonConf]
  | .mavlink => [.envsubst .mavlinkRouterConf]
  | .telemetry => [.tool .curlUv, .cdOptSpecter]
  | .camera | .cellular => []

/-- They succeed; `uv` is downloaded only where it is missing. -/
def MaskFree (board : Board) : Module → Prop
  | .wifi => board.status (.envsubst .hostapdConf) = 0 ∧ board.status (.echo daemonConf) = 0
  | .mavlink => board.status (.envsubst .mavlinkRouterConf) = 0
  | .telemetry =>
    (board.status (.tool .commandUv) = 0 ∨ board.status (.tool .curlUv) = 0) ∧
      board.status .cdOptSpecter = 0
  | .camera | .cellular => True

theorem mem_unnoticed {c : Cmd} (hc : c ∈ (block (setupScript m)).masked)
    (hphase : c.phase = .install) : c ∈ unnoticed m := by
  have hall : ((block (setupScript m)).masked).all
      (fun c => c.phase ≠ .install || (unnoticed m).contains c) = true := by
    cases m <;> decide
  have h := List.all_eq_true.mp hall c hc
  simpa [hphase] using h

theorem setup_completes (hstatus : (runSetup site board m sys).2 = 0) :
    ∃ p, Completes (shell site board false) (.block (setupScript m)) (.start sys) p := by
  have hrun : runSetup site board m sys = ((runSetup site board m sys).1, 0) :=
    Prod.ext rfl hstatus
  obtain ⟨p, hp, -⟩ := runSetup_completes hrun
  exact ⟨p, hp⟩

/-! ## Statuses that are the board's -/

theorem exec_envsubst_status (site : Site) (board : Board) (template : Source) (p : Proc)
    (input : Text) :
    (exec site board (.envsubst template) p input).status = board.status (.envsubst template) := by
  unfold exec
  split
  · rfl
  · rename_i hzero
    exact (not_not.mp hzero).symm

theorem exec_echo_status (site : Site) (board : Board) (text : Text) (p : Proc)
    (input : Text) :
    (exec site board (.echo text) p input).status = board.status (.echo text) := by
  unfold exec
  split
  · rfl
  · rename_i hzero
    exact (not_not.mp hzero).symm

theorem exec_cd_status {p : Proc} (hdir : .optSpecter ∈ p.sys.dirs) (input : Text) :
    (exec site board .cdOptSpecter p input).status = board.status .cdOptSpecter := by
  unfold exec
  split
  · rfl
  · rename_i hzero
    simpa [perform, Proc.test, hdir] using (not_not.mp hzero).symm

theorem status_eq_of_first {a : Script Cmd} {c : Cmd} (ha : a ∈ setupScript m)
    (hc : a.first? = some c) (hphase : c.phase = .install)
    (hcompl : ∃ p, Completes (shell site board false) (.block (setupScript m)) (.start sys) p)
    (hok : InstallPhaseOk (setupLog site board m sys)) :
    ∃ p, (exec site board c p []).status = 0 := by
  obtain ⟨p, hp⟩ := hcompl
  obtain ⟨u, hu⟩ := first_executed ha hc hp
  exact ⟨u, hok _ hu hphase⟩

/-! ## `setup_telemetry.sh` -/

/-- `cd` finds its directory. -/
theorem cd_status {p : Proc} (hp : Completes (shell site board false) (.block setupTelemetry)
      (.start sys) p) {k : Nat}
    (hk : (.cdOptSpecter, k) ∈ executed (shell site board false) (.block setupTelemetry)
      (.start sys)) :
    k = board.status .cdOptSpecter := by
  obtain ⟨t, t', hpre, hmkdir, hpost⟩ := completes_block_split.mp
    (show Completes _ (.block (setupTelemetry.take 2 ++ .cmd (.mkdirP [.optSpecterSrc]) ::
      setupTelemetry.drop 3)) _ _ from completes_logged hp)
  obtain ⟨hstatus, rfl⟩ := completes_cmd.mp hmkdir
  -- the directory is there from here on
  have hdir : .optSpecter ∈ (exec site board (.mkdirP [.optSpecterSrc]) t.1 []).state.sys.dirs := by
    obtain ⟨out, hperform⟩ := exec_ok (show (exec site board _ t.1 []).status = 0 from hstatus)
    cases hq : (exec site board (.mkdirP [.optSpecterSrc]) t.1 []).state
    rw [hq] at hperform
    cases hperform
    simp [Dir.withParents]
  have hlater := eval_log_status (m := shell site board false)
    (a := .block (setupTelemetry.drop 3)) (R := fun p q => p.sys.dirs ⊆ q.sys.dirs)
    (fun _ => Finset.Subset.refl _)
    (fun _ _ _ => Finset.Subset.trans)
    (fun c _ p input => (exec_evolves site board c p input).dirs) true
    ((shell site board false).logged.exec (.mkdirP [.optSpecterSrc]) t default).state
  rw [hpost.eval_eq] at hlater
  rcases hlater _ hk with hearlier | ⟨q, input, hdirs, hq⟩
  · -- nothing before it is a `cd`
    have hnone := mem_log_before hpre (mem_log_before hmkdir hearlier (by decide)) (by decide)
    cases hnone
  · exact hq.symm.trans (exec_cd_status (hdirs hdir) input)

/-- The statement that provides `uv`, with what is logged around it. -/
theorem uvBranch_completes {p : Proc}
    (hp : Completes (shell site board false) (.block setupTelemetry) (.start sys) p) :
    ∃ t t', Completes (shell site board false).logged (.block (setupTelemetry.take 1))
        (.start sys, []) t ∧
      Completes (shell site board false).logged (.ifThenElse (tool .commandUv) .skip
        (.block [.pipeline (.tool .curlUv) [.tool .shUv], tool .mvUv])) t t' ∧
      Completes (shell site board false).logged (.block (setupTelemetry.drop 2)) t'
        (p, executed (shell site board false) (.block setupTelemetry) (.start sys)) := by
  have hsplit : setupTelemetry = setupTelemetry.take 1 ++
      .ifThenElse (tool .commandUv) .skip
        (.block [.pipeline (.tool .curlUv) [.tool .shUv], tool .mvUv]) ::
      setupTelemetry.drop 2 := rfl
  have hlogged := completes_logged hp
  rw [hsplit] at hlogged
  exact completes_block_split.mp hlogged

/-- Where `uv` is there it is not downloaded. -/
theorem curl_not_executed (hcommand : board.status (.tool .commandUv) = 0) {p : Proc}
    (hp : Completes (shell site board false) (.block setupTelemetry) (.start sys) p) (k : Nat) :
    (.tool .curlUv, k) ∉ executed (shell site board false) (.block setupTelemetry)
      (.start sys) := by
  intro hk
  obtain ⟨t, t', hpre, hif, hpost⟩ := uvBranch_completes hp
  have htest : ((shell site board false).logged.exec (.tool .commandUv) t default).status = 0 :=
    (exec_tool site board .commandUv t.1 []).1.trans hcommand
  rw [tool, completes_if, if_pos htest, completes_skip] at hif
  subst hif
  rcases List.mem_append.mp (mem_log_before hpost hk (by decide)) with hearlier | htested
  · cases mem_log_before hpre hearlier (by decide)
  · cases List.mem_singleton.mp htested

/-- Where it is missing it is. -/
theorem curl_executed (hcommand : board.status (.tool .commandUv) ≠ 0) {p : Proc}
    (hp : Completes (shell site board false) (.block setupTelemetry) (.start sys) p) :
    (.tool .curlUv, board.status (.tool .curlUv)) ∈
      executed (shell site board false) (.block setupTelemetry) (.start sys) := by
  obtain ⟨t, t', hpre, hif, hpost⟩ := uvBranch_completes hp
  have htest : ((shell site board false).logged.exec (.tool .commandUv) t default).status ≠ 0 :=
    fun h => hcommand ((exec_tool site board .commandUv t.1 []).1.symm.trans h)
  rw [tool, completes_if, if_neg htest] at hif
  have hmem := first_mem_log (m := shell site board false) (c := .tool .curlUv)
    (a := .block [.pipeline (.tool .curlUv) [.tool .shUv], tool .mvUv]) rfl true
    ((shell site board false).logged.exec (.tool .commandUv) t default).state
  rw [hif.eval_eq] at hmem
  have hlater := (eval_log (shell site board false) (.block (setupTelemetry.drop 2)) true t').1
  rw [hpost.eval_eq] at hlater
  have hstatus := (exec_tool site board .curlUv
    ((shell site board false).logged.exec (.tool .commandUv) t default).state.1 []).1
  rw [← hstatus]
  exact hlater hmem

/-! ## Which runs mask nothing -/

theorem echo_mem_setupWifi :
    .pipeline (.echo daemonConf) [.tee .defaultHostapd] ∈ setupScript .wifi :=
  List.mem_of_getElem? (show (setupScript .wifi)[12]? = _ from rfl)

theorem installPhaseOk_iff (hstatus : (runSetup site board m sys).2 = 0) :
    InstallPhaseOk (setupLog site board m sys) ↔ MaskFree board m := by
  obtain ⟨p, hp⟩ := setup_completes hstatus
  constructor
  · intro hok
    cases m with
    | wifi =>
        obtain ⟨q, hq⟩ := status_eq_of_first (c := .envsubst .hostapdConf)
          (a := .pipeline (.envsubst .hostapdConf) [.tee .hostapdConf])
          (by simp [setupScript, setupWifi]) rfl rfl ⟨p, hp⟩ hok
        obtain ⟨r, hr⟩ := status_eq_of_first (c := .echo daemonConf)
          (a := .pipeline (.echo daemonConf) [.tee .defaultHostapd])
          echo_mem_setupWifi rfl rfl ⟨p, hp⟩ hok
        exact ⟨(exec_envsubst_status site board _ q []).symm.trans hq,
          (exec_echo_status site board _ r []).symm.trans hr⟩
    | mavlink =>
        obtain ⟨q, hq⟩ := status_eq_of_first (c := .envsubst .mavlinkRouterConf)
          (a := .pipeline (.envsubst .mavlinkRouterConf) [.tee .mainConf])
          (by simp [setupScript, setupMavlink]) rfl rfl ⟨p, hp⟩ hok
        exact (exec_envsubst_status site board _ q []).symm.trans hq
    | telemetry =>
        constructor
        · by_contra hne
          obtain ⟨hcommand, hcurl⟩ := not_or.mp hne
          exact hcurl (hok _ (curl_executed hcommand hp) rfl)
        · obtain ⟨u, hu⟩ := first_executed (c := .cdOptSpecter)
            (a := .andThen (.cmd .cdOptSpecter) (.cmd .uvSync))
            (by simp [setupScript, setupTelemetry]) rfl hp
          rw [← cd_status hp hu]
          exact hok _ hu rfl
    | camera | cellular => trivial
  · intro hfree x hx hphase
    by_contra hfailed
    have hmem := mem_unnoticed (masked_of_completes rfl hp hx hfailed) hphase
    obtain ⟨q, input, hq⟩ := executed_status hx
    obtain ⟨c, k⟩ := x
    cases m with
    | wifi =>
        rcases List.mem_pair.mp hmem with rfl | rfl
        · exact hfailed (hq.symm.trans ((exec_envsubst_status site board _ q input).trans hfree.1))
        · exact hfailed (hq.symm.trans ((exec_echo_status site board _ q input).trans hfree.2))
    | mavlink =>
        obtain rfl := List.mem_singleton.mp hmem
        exact hfailed (hq.symm.trans ((exec_envsubst_status site board _ q input).trans hfree))
    | telemetry =>
        rcases List.mem_pair.mp hmem with rfl | rfl
        · rcases hfree.1 with hcommand | hcurl
          · exact curl_not_executed hcommand hp k hx
          · exact hfailed (hq.symm.trans ((exec_tool site board .curlUv q input).1.trans hcurl))
        · exact hfailed ((cd_status hp hx).trans hfree.2)
    | camera | cellular => cases hmem

/-- A script that masks nothing has rendered its template. -/
theorem rendered_of_maskFree (hstatus : (runSetup site board m sys).2 = 0)
    (hfree : MaskFree board m) {template : Source} {conf : File}
    (hr : renders m = some (template, conf)) :
    (runSetup site board m sys).1.files conf =
      some (site.envsubst (site.checkout.file (envTemplate m)) (site.checkout.file template)) := by
  rw [runSetup_renders hr (Prod.ext rfl hstatus), rendering, if_pos]
  cases m with
  | wifi => cases hr; exact hfree.1
  | mavlink => cases hr; exact hfree
  | camera | cellular | telemetry => cases hr

/-- **Masking, exactly.** A setup script that exits with 0 has hidden no
failure if and only if the commands that go unnoticed succeed. -/
theorem nothingMasked_iff (site : Site) (board : Board) (m : Module) (sys : System)
    (hstatus : (runSetup site board m sys).2 = 0) :
    NothingMasked site board m sys ↔ MaskFree board m :=
  ⟨fun h => (installPhaseOk_iff hstatus).mp h.1,
    fun h => ⟨(installPhaseOk_iff hstatus).mpr h, fun _ _ hr => rendered_of_maskFree hstatus h hr⟩⟩

/-- The bench masks nothing. -/
theorem bench_nothingMasked : NothingMasked benchSite benchBoard .mavlink freshImage :=
  (nothingMasked_iff benchSite benchBoard .mavlink freshImage (by decide +kernel)).mpr rfl

/-- A board where mavlink-router's template cannot be rendered: it is
reported as installed, with an empty configuration. -/
theorem empty_mainConf_installs :
    let site : Site := { benchSite with
      checkout := { file := fun _ => "[General]\n".toList, prebuilt := none, wheels := false } }
    let board : Board := { benchBoard with
      status := fun c => if c = .envsubst .mavlinkRouterConf then 127 else 0 }
    (runSetup site board .mavlink freshImage).2 = 0
      ∧ (runSetup site board .mavlink freshImage).1.files .mainConf = some []
      ∧ ¬ NothingMasked site board .mavlink freshImage := by
  intro site board
  have hempty : (runSetup site board .mavlink freshImage).1.files .mainConf = some [] := by
    decide +kernel
  refine ⟨by decide +kernel, hempty, fun h => ?_⟩
  have hfull := h.2 .mavlinkRouterConf .mainConf rfl
  rw [hempty] at hfull
  cases hfull

end Specter
