import Specter.ReorderWindow

/-!
# Frames and the timer, in any order

What holds of a control whatever happens to it: block ack requests and
agreements come and go, the receive path and the handler of the timer
take turns. Every frame that came in is accounted for (`accounted`), and
none is left in the queue without a timer to get it out (`guarded`).
-/

namespace Specter

variable {α : Type}

/-! ## What one call does -/

theorem checkIndicateSeq_frame (ctrl : ReorderCtrl α) (seqNum : UInt16) :
    (checkIndicateSeq ctrl seqNum).1.pending = ctrl.pending
      ∧ (checkIndicateSeq ctrl seqNum).1.bReorderWaiting = ctrl.bReorderWaiting := by
  unfold checkIndicateSeq
  dsimp only
  split_ifs <;> exact ⟨rfl, rfl⟩

theorem enqueue_perm {frame : RecvFrame α} {q q' : List (RecvFrame α)}
    (h : enqueueReorderRecvframe frame q = some q') : q'.Perm (frame :: q) := by
  induction q generalizing q' with
  | nil =>
      obtain rfl := Option.some.inj h
      exact List.Perm.refl _
  | cons next rest ih =>
      unfold enqueueReorderRecvframe at h
      split_ifs at h
      · obtain ⟨rest', hrest, rfl⟩ := Option.map_eq_some_iff.mp h
        exact ((ih hrest).cons next).trans (List.Perm.swap ..)
      · obtain rfl := Option.some.inj h
        exact List.Perm.refl _

theorem indicateLoop_append (indicateSeq : UInt16) (q : List (RecvFrame α)) :
    (indicateLoop indicateSeq q).2.2 ++ (indicateLoop indicateSeq q).2.1 = q := by
  induction q generalizing indicateSeq with
  | nil => rfl
  | cons frame rest ih =>
      unfold indicateLoop
      split
      · exact congrArg (frame :: ·) (ih _)
      · rfl

/-- The queue is cut in two, and said to be empty only if it is. -/
theorem recvIndicatepktsInOrder_spec (ctrl : ReorderCtrl α) (rxDrop : UInt64) (bforced : Bool) :
    let ind := recvIndicatepktsInOrder ctrl rxDrop bforced
    ind.mpdus ++ ind.ctrl.pending = ctrl.pending
      ∧ ind.ctrl.bReorderWaiting = ctrl.bReorderWaiting
      ∧ (ind.bPktInBuf = false → ind.ctrl.pending = []) := by
  have hpending (ctrl : ReorderCtrl α) (rxDrop : UInt64) :
      (indicatePending ctrl rxDrop).mpdus ++ (indicatePending ctrl rxDrop).ctrl.pending
        = ctrl.pending
      ∧ (indicatePending ctrl rxDrop).ctrl.bReorderWaiting = ctrl.bReorderWaiting
      ∧ ((indicatePending ctrl rxDrop).bPktInBuf = false →
          (indicatePending ctrl rxDrop).ctrl.pending = []) :=
    ⟨indicateLoop_append _ _, rfl, by simp [indicatePending]⟩
  cases bforced with
  | false => exact hpending ctrl rxDrop
  | true =>
      cases hq : ctrl.pending with
      | nil =>
          rw [forced_nil _ hq]
          exact ⟨hq, rfl, fun h => by cases h⟩
      | cons frame rest =>
          rw [forced_cons _ hq, ← hq]
          exact hpending _ _

/-- The frame was dropped. -/
structure Drops (s : Reordering α) (frame : RecvFrame α) (s' : Reordering α) : Prop where
  dropped : s'.dropped = s.dropped ++ [frame]
  mpdus : s'.mpdus = s.mpdus
  pending : s'.ctrl.pending = s.ctrl.pending
  waiting : s'.ctrl.bReorderWaiting = s.ctrl.bReorderWaiting
  timer : s'.armed = s.armed ∧ s'.fired = s.fired ∧ s'.cancelling = s.cancelling

/-- It was kept; then either frames are still waiting, or none is. -/
structure Keeps (s : Reordering α) (frame : RecvFrame α) (s' : Reordering α) : Prop where
  dropped : s'.dropped = s.dropped
  perm : (s'.mpdus ++ s'.ctrl.pending).Perm (s.mpdus ++ frame :: s.ctrl.pending)
  fired : s'.fired = s.fired
  timer : (s'.armed = (s.armed || !s.ctrl.bReorderWaiting) ∧ s'.cancelling = s.cancelling) ∨
    (s'.ctrl.pending = [] ∧ s'.ctrl.bReorderWaiting = false ∧ s'.armed = s.armed)

theorem recvIndicatepktReorder_cases (s : Reordering α) (frame : RecvFrame α) :
    Drops s frame (recvIndicatepktReorder s frame) ∨
      Keeps s frame (recvIndicatepktReorder s frame) := by
  obtain ⟨hpending, hwaiting⟩ := checkIndicateSeq_frame (takeResets s.ctrl) frame.seqNum
  unfold recvIndicatepktReorder
  generalize checkIndicateSeq (takeResets s.ctrl) frame.seqNum = r at hpending hwaiting
  obtain ⟨ctrl, keep⟩ := r
  cases keep with
  | false => exact Or.inl ⟨rfl, rfl, hpending, hwaiting, rfl, rfl, rfl⟩
  | true =>
      simp only [not_true_eq_false, if_false]
      cases henqueue : enqueueReorderRecvframe frame ctrl.pending with
      | none => exact Or.inl ⟨rfl, rfl, hpending, hwaiting, rfl, rfl, rfl⟩
      | some q =>
          obtain ⟨happend, hkept, hempty⟩ :=
            recvIndicatepktsInOrder_spec { ctrl with pending := q } s.rxDrop false
          have hperm : (s.mpdus ++ q).Perm (s.mpdus ++ frame :: s.ctrl.pending) := by
            rw [show s.ctrl.pending = ctrl.pending from hpending.symm]
            exact (enqueue_perm henqueue).append_left _
          simp only at happend hkept hempty ⊢
          generalize recvIndicatepktsInOrder { ctrl with pending := q } s.rxDrop false = ind
            at happend hkept hempty
          have hperm' : (s.mpdus ++ ind.mpdus ++ ind.ctrl.pending).Perm
              (s.mpdus ++ frame :: s.ctrl.pending) := by
            rwa [List.append_assoc, happend]
          have hsame : ind.ctrl.bReorderWaiting = s.ctrl.bReorderWaiting := hkept.trans hwaiting
          cases hbuf : ind.bPktInBuf with
          | true => exact Or.inr ⟨rfl, hperm', rfl, Or.inl ⟨by simp [hsame], rfl⟩⟩
          | false => exact Or.inr ⟨rfl, hperm', rfl, Or.inr ⟨hempty hbuf, rfl, rfl⟩⟩

/-- What an event can do. -/
inductive RxEffect (s s' : Reordering α) : RxEvent α → Prop
  | drops {frame : RecvFrame α} (h : Drops s frame s') : RxEffect s s' (.recv frame)
  | keeps {frame : RecvFrame α} (hcancelling : s.cancelling = false) (h : Keeps s frame s') :
      RxEffect s s' (.recv frame)
  -- with the control disabled
  | passes {frame : RecvFrame α} (w : UInt16)
      (h : s' = { s with
        ctrl := { s.ctrl with indicateSeq := w }
        mpdus := s.mpdus ++ [frame] }) : RxEffect s s' (.recv frame)
  | cancels (hcancelling : s.cancelling = true)
      (h : s' = { s with armed := false, cancelling := false }) : RxEffect s s' .cancelTimer
  | expires (h : s' = { s with armed := false, fired := true }) : RxEffect s s' .expire
  | stopped (h : s' = { s with fired := false }) : RxEffect s s' (.timeout true)
  | gives (mpdus : List (RecvFrame α)) (hdropped : s'.dropped = s.dropped)
      (hmpdus : s'.mpdus = s.mpdus ++ mpdus) (happend : mpdus ++ s'.ctrl.pending = s.ctrl.pending)
      (hwaiting : s'.ctrl.bReorderWaiting = false) (hcancelling : s'.cancelling = s.cancelling)
      (htimer : s'.armed = true ∨ s'.ctrl.pending = []) : RxEffect s s' (.timeout false)
  | adjusts {e : RxEvent α} (ctrl : ReorderCtrl α) (h : s' = { s with ctrl := ctrl })
      (hnone : e.arrival? = none) (hpending : ctrl.pending = s.ctrl.pending)
      (hwaiting : ctrl.bReorderWaiting = s.ctrl.bReorderWaiting) : RxEffect s s' e

theorem rxStep_effect {s s' : Reordering α} {e : RxEvent α} (h : rxStep s e = .ok s') :
    RxEffect s s' e := by
  cases e with
  | recv frame =>
      simp only [rxStep, recvPosthandle] at h
      split_ifs at h with hcancelling henable <;> obtain rfl := Except.ok.inj h
      · rcases recvIndicatepktReorder_cases s frame with h | h
        · exact .drops h
        · exact .keeps (Bool.eq_false_iff.mpr hcancelling) h
      · exact .passes _ rfl
  | cancelTimer =>
      simp only [rxStep] at h
      split_ifs at h with hcancelling
      exact .cancels hcancelling.1 (Except.ok.inj h).symm
  | expire =>
      simp only [rxStep] at h
      split_ifs at h
      exact .expires (Except.ok.inj h).symm
  | timeout cannotRun =>
      simp only [rxStep] at h
      split_ifs at h
      cases cannotRun with
      | true => exact .stopped (Except.ok.inj h).symm
      | false =>
          obtain ⟨happend, hwaiting, hempty⟩ :=
            recvIndicatepktsInOrder_spec { s.ctrl with bReorderWaiting := false } s.rxDrop true
          obtain rfl := Except.ok.inj h
          simp only [reorderingCtrlTimeoutHandler, Bool.false_eq_true, if_false]
          refine .gives _ rfl rfl happend hwaiting rfl ?_
          simp only [Bool.or_eq_true]
          by_cases hbuf : (recvIndicatepktsInOrder { s.ctrl with bReorderWaiting := false }
            s.rxDrop true).bPktInBuf = true
          · exact Or.inl (Or.inr hbuf)
          · exact Or.inr (hempty (Bool.eq_false_iff.mpr hbuf))
  | bar startSeq =>
      simp only [rxStep] at h
      split_ifs at h
      exact .adjusts _ (Except.ok.inj h).symm rfl rfl rfl
  | addBaRsp _ | delba | reorderWow | joinbss =>
      exact .adjusts _ (Except.ok.inj h).symm rfl rfl rfl

/-! ## Every frame is somewhere -/

/-- What has come in is what has gone out, what waits and what was
dropped. -/
def Accounted (s : Reordering α) (arrivals : List (RecvFrame α)) : Prop :=
  (s.mpdus ++ s.ctrl.pending ++ s.dropped).Perm arrivals

theorem accounted_step {s s' : Reordering α} {arrivals : List (RecvFrame α)} {e : RxEvent α}
    (h : Accounted s arrivals) (hstep : rxStep s e = .ok s') :
    Accounted s' (arrivals ++ e.arrival?.toList) := by
  unfold Accounted at h ⊢
  cases rxStep_effect hstep with
  | @drops frame hd =>
      rw [hd.mpdus, hd.pending, hd.dropped, ← List.append_assoc]
      exact h.append_right _
  | @keeps frame _ hk =>
      rw [hk.dropped]
      have hmiddle : (s.mpdus ++ frame :: s.ctrl.pending ++ s.dropped).Perm (frame :: arrivals) :=
        (List.perm_middle.append_right _).trans (h.cons frame)
      exact (hk.perm.append_right _).trans
        (hmiddle.trans (List.perm_append_singleton frame arrivals).symm)
  | @passes frame w hs =>
      subst hs
      rw [List.append_assoc s.mpdus, List.singleton_append]
      have hmiddle : (s.mpdus ++ frame :: s.ctrl.pending ++ s.dropped).Perm (frame :: arrivals) :=
        (List.perm_middle.append_right _).trans (h.cons frame)
      exact hmiddle.trans (List.perm_append_singleton frame arrivals).symm
  | gives mpdus hdropped hmpdus happend _ _ _ =>
      have hnone : (RxEvent.timeout false : RxEvent α).arrival?.toList = [] := rfl
      rw [hdropped, hmpdus, List.append_assoc s.mpdus, happend, hnone, List.append_nil]
      exact h
  | adjusts ctrl hs hnone hpending _ =>
      subst hs
      rw [hnone, hpending, Option.toList_none, List.append_nil]
      exact h
  | cancels _ hs | expires hs | stopped hs =>
      subst hs
      simpa [RxEvent.arrival?] using h

/-- Whatever happens, each frame that came in has been handed on once, or
dropped once, or is in the queue. -/
theorem accounted {s : Reordering α} (es : List (RxEvent α))
    (h : runRx Reordering.init es = .ok s) :
    Accounted s (es.filterMap RxEvent.arrival?) := by
  refine Run.run_induction (P := fun es s => Accounted s (es.filterMap RxEvent.arrival?))
    (by exact List.Perm.refl _) (fun es t e t' _ ih hstep => ?_) h
  have hnext := accounted_step ih hstep
  rw [List.filterMap_append]
  cases e <;> exact hnext

/-- The agreement is torn down while a frame waits. -/
def benchTorn : List (RxEvent ℕ) :=
  .addBaRsp 0 :: benchTraffic ++ [.bar 5, .delba, .recv (benchMpdu 7), .expire]

theorem bench_accounted :
    ∃ s, runRx Reordering.init benchTorn = .ok s ∧ s.ctrl.pending = [benchMpdu 4]
      ∧ (s.mpdus ++ s.ctrl.pending ++ s.dropped).Perm (benchTorn.filterMap RxEvent.arrival?) :=
  ⟨_, rfl, by decide +kernel, accounted benchTorn rfl⟩

/-! ## No frame without a timer -/

/-- The timer is running, or its handler waits for the lock. -/
def Reordering.timed (s : Reordering α) : Prop := s.armed = true ∨ s.fired = true

structure Guarded (s : Reordering α) : Prop where
  pending : s.ctrl.pending ≠ [] → s.timed
  waiting : s.ctrl.bReorderWaiting = true → s.timed
  cancelling : s.cancelling = true → s.ctrl.pending = [] ∧ s.ctrl.bReorderWaiting = false

theorem guarded_step {s s' : Reordering α} {e : RxEvent α} (h : Guarded s)
    (hup : e ≠ .timeout true) (hstep : rxStep s e = .ok s') : Guarded s' := by
  cases rxStep_effect hstep with
  | drops hd =>
      obtain ⟨harmed, hfired, hcancelling⟩ := hd.timer
      have htimed : s.timed → s'.timed := by
        rw [Reordering.timed, Reordering.timed, harmed, hfired]
        exact id
      exact ⟨fun hp => htimed (h.pending (hd.pending ▸ hp)),
        fun hw => htimed (h.waiting (hd.waiting ▸ hw)), fun hc =>
          have hsame := h.cancelling (hcancelling ▸ hc)
          ⟨hd.pending.trans hsame.1, hd.waiting.trans hsame.2⟩⟩
  | keeps hcancelling hk =>
      rcases hk.timer with ⟨harmed, hsame⟩ | ⟨hempty, hwaiting, -⟩
      · have htimed : s'.timed := by
          rw [Reordering.timed, harmed, hk.fired]
          cases hw : s.ctrl.bReorderWaiting with
          | true => simpa [hw, Reordering.timed] using h.waiting hw
          | false => simp
        refine ⟨fun _ => htimed, fun _ => htimed, fun hc => ?_⟩
        rw [hsame, hcancelling] at hc
        cases hc
      · refine ⟨fun hp => absurd hempty hp, fun hw => ?_, fun _ => ⟨hempty, hwaiting⟩⟩
        rw [hwaiting] at hw
        cases hw
  | passes w hs =>
      subst hs
      exact ⟨h.pending, h.waiting, h.cancelling⟩
  | cancels hcancelling hs =>
      subst hs
      obtain ⟨hempty, hwaiting⟩ := h.cancelling hcancelling
      refine ⟨fun hp => absurd hempty hp, fun hw => ?_, fun hc => nomatch hc⟩
      rw [hwaiting] at hw
      cases hw
  | expires hs =>
      subst hs
      exact ⟨fun _ => Or.inr rfl, fun _ => Or.inr rfl, h.cancelling⟩
  | stopped _ => exact absurd rfl hup
  | gives mpdus hdropped hmpdus happend hwaiting hcancelling htimer =>
      refine ⟨fun hp => Or.inl (htimer.resolve_right hp), fun hw => ?_, fun hc => ⟨?_, hwaiting⟩⟩
      · rw [hwaiting] at hw
        cases hw
      · rw [(h.cancelling (hcancelling ▸ hc)).1] at happend
        exact (List.append_eq_nil_iff.mp happend).2
  | adjusts ctrl hs hnone hpending hwaiting =>
      subst hs
      exact ⟨fun hp => h.pending (hpending ▸ hp), fun hw => h.waiting (hwaiting ▸ hw),
        fun hc => ⟨hpending.trans (h.cancelling hc).1, hwaiting.trans (h.cancelling hc).2⟩⟩

end Specter
