import Specter.AmsduFrames
import Specter.DefragQueues
import Specter.ReorderWindow
import Specter.Retries

/-!
# The receive path of the Wi-Fi driver

What `recv_func` of `rtw_recv.c` does with a data frame, one step after
another: duplicates are dropped, fragments joined, and the frames of a
traffic class with a block ack agreement put in order; then
`recv_process_mpdu` makes packets of them. The frames are decrypted by
the hardware, and the port of their station is open.

A stream under an agreement comes out as it was sent, whatever else is
received (`packets_restored`).
-/

namespace Specter

open Sealing (Bytes)

variable {α : Type}

/-! ## The functions together -/

/-- A frame on its way. Its slot tells what it was when it came in. -/
abbrev PathFrame (α : Type) := RecvFrameHdr (DataFrame α)

def DataFrame.hdr (frame : DataFrame α) : PathFrame α where
  slot := frame
  attrib := frame.attrib
  data := frame.data
  room := frame.room
  keytrack := frame.keytrack

/-- What reordering reads of a frame that has come through. -/
def toReorder (prframe : PathFrame α) : RecvFrame (PathFrame α) where
  seqNum := prframe.slot.seqNum
  body := prframe
  seqNum_lt := prframe.slot.seqNum_lt

/-- As a station's going leaves a control, which gives back what waits, and
its coming sets it up. Nothing happens to it in between. -/
def Reordering.freed (s : Reordering α) : Reordering α :=
  { Reordering.init with
    rxDrop := s.rxDrop
    mpdus := s.mpdus
    dropped := s.dropped ++ s.ctrl.pending }

structure RecvPath (α : Type) where
  decache : Decache
  adapter : Adapter (DataFrame α)
  ctrls : Bytes → UInt8 → Reordering (PathFrame α)  -- `recvreorder_ctrl`
  mpdus : List (PathFrame α)  -- handed on without one

namespace RecvPath

def setCtrl (self : RecvPath α) (hwaddr : Bytes) (tid : UInt8)
    (ctrl : Reordering (PathFrame α)) : RecvPath α :=
  { self with
    ctrls := Function.update self.ctrls hwaddr (Function.update (self.ctrls hwaddr) tid ctrl) }

/-- The controls of a station. -/
def freeCtrls (self : RecvPath α) (hwaddr : Bytes) : RecvPath α :=
  { self with
    ctrls := Function.update self.ctrls hwaddr fun tid => (self.ctrls hwaddr tid).freed }

end RecvPath

/-- What can happen. -/
inductive PathEvent (α : Type) where
  | recv (frame : DataFrame α)
  | control (hwaddr : Bytes) (tid : UInt8) (e : RxEvent (PathFrame α))  -- but for frames
  | allocStainfo (hwaddr : Bytes)
  | freeStainfo (hwaddr : Bytes)
  | setStakey (hwaddr : Bytes)
  | setGroupKey (keyId : UInt8) (seq : UInt64)

section Steps

variable (michael : Adapter (DataFrame α) → PathFrame α → Bool)

/-- From the end of `recvframe_chk_defrag` on: only unicast QoS frames have
their `preorder_ctrl`. -/
def recvDefragged (self : RecvPath α) (prframe : PathFrame α) :
    Except (RxEvent (PathFrame α)) (RecvPath α) :=
  let frame := prframe.slot
  if frame.qos && !isMcast frame.attrib.ra then do
    let ctrl ← rxStep (self.ctrls frame.attrib.ta frame.priority) (.recv (toReorder prframe))
    return self.setCtrl frame.attrib.ta frame.priority ctrl
  else return { self with mpdus := self.mpdus ++ [prframe] }

/-- `recv_func`. -/
def recvFunc (self : RecvPath α) (frame : DataFrame α) :
    Except (RxEvent (PathFrame α)) (RecvPath α) :=
  match self.decache.validate frame with
  | (decache, false) =>
    return { self with decache := decache, adapter := self.adapter.free [frame] }
  | (decache, true) =>
    let adapter := recvframeChkDefrag (michael self.adapter frame.hdr) self.adapter frame.hdr
    (adapter.returned.drop self.adapter.returned.length).foldlM recvDefragged
      { self with decache := decache, adapter := adapter }

/-- One event, unless it cannot happen now. -/
def pathStep (self : RecvPath α) : PathEvent α → Except (PathEvent α) (RecvPath α)
  | .recv frame => (recvFunc michael self frame).mapError fun _ => .recv frame
  | .control hwaddr tid e =>
    match e with
    | .recv _ => .error (.control hwaddr tid e)
    | _ => ((rxStep (self.ctrls hwaddr tid) e).map (self.setCtrl hwaddr tid)).mapError
        (.control hwaddr tid)
  | .allocStainfo hwaddr =>
    ((defragStep michael self.adapter (.allocStainfo hwaddr)).map fun adapter =>
      { self.freeCtrls hwaddr with
        decache := self.decache.setSta hwaddr .init
        adapter := adapter }).mapError fun _ => .allocStainfo hwaddr
  | .freeStainfo hwaddr =>
    ((defragStep michael self.adapter (.freeStainfo hwaddr)).map fun adapter =>
      { self.freeCtrls (hashAddr hwaddr) with adapter := adapter }).mapError
      fun _ => .freeStainfo hwaddr
  | .setStakey hwaddr =>
    ((defragStep michael self.adapter (.setStakey hwaddr)).map fun adapter =>
      { self with adapter := adapter }).mapError fun _ => .setStakey hwaddr
  | .setGroupKey keyId seq =>
    .ok { self with decache := (@decacheStep α self.decache (.setGroupKey keyId seq)).1 }

def runPath (self : RecvPath α) (es : List (PathEvent α)) : Except (PathEvent α) (RecvPath α) :=
  Run.run (pathStep michael) self es

end Steps

/-! ## Fragments -/

variable {micOk : Bool} {self t : Adapter (DataFrame α)}

/-- No frame of this kind waits in a queue. -/
def NoneWaits (P : DataFrame α → Bool) (self : Adapter (DataFrame α)) : Prop :=
  ∀ sta ∈ self.stas, ∀ prframe ∈ sta.defragQ, ¬ P prframe.slot

theorem NoneWaits.setSta {P : DataFrame α → Bool} (h : NoneWaits P self)
    {sta : StaInfo (DataFrame α)} (hsta : ∀ prframe ∈ sta.defragQ, ¬ P prframe.slot) :
    NoneWaits P (self.setSta sta) := by
  intro s hs
  obtain ⟨old, hold, rfl⟩ := List.mem_map.mp hs
  split
  · exact hsta
  · exact h old hold

theorem NoneWaits.of_defragSta {P : DataFrame α → Bool} (h : NoneWaits P self)
    {prframe : PathFrame α} {sta : StaInfo (DataFrame α)}
    (hsta : self.defragSta prframe = some sta) : ∀ q ∈ sta.defragQ, ¬ P q.slot := by
  rcases Adapter.getStainfo_of_defragSta hsta with hget | ⟨-, hget, -⟩
  · exact h sta (List.mem_of_find?_eq_some hget)
  · exact h sta (List.mem_of_find?_eq_some hget)

theorem hand_returned (micOk : Bool) (self : Adapter α) (prframe : RecvFrameHdr α) :
    ∃ out, (self.hand micOk prframe).returned = self.returned ++ out
      ∧ (out = [] ∨ ∃ whole, out = [whole] ∧ whole.slot = prframe.slot) := by
  unfold Adapter.hand
  split
  · exact ⟨[], (List.append_nil _).symm, Or.inl rfl⟩
  · next whole hwhole =>
    refine ⟨[whole], rfl, Or.inr ⟨whole, rfl, ?_⟩⟩
    unfold recvframeChkmic RecvFrameHdr.pullTail at hwhole
    split_ifs at hwhole <;> cases hwhole <;> rfl

/-- At most one frame comes out, and it is of this kind only if it is the one
that came in. -/
theorem noneWaits_received {P : DataFrame α → Bool} {frame : DataFrame α} (h : NoneWaits P self)
    (hframe : P frame → ¬ frame.hdr.IsFragment) (ht : Received micOk self frame.hdr t) :
    NoneWaits P t ∧ ∃ out, t.returned = self.returned ++ out
      ∧ (out = [] ∨ ∃ whole, out = [whole] ∧ (P whole.slot → whole.slot = frame)) := by
  cases ht with
  | passes hplain =>
      obtain ⟨out, hout, hcases⟩ := hand_returned micOk self frame.hdr
      refine ⟨fun sta hsta => h sta (self.hand_stas micOk frame.hdr ▸ hsta), out, hout, ?_⟩
      exact hcases.imp_right fun ⟨whole, heq, hslot⟩ => ⟨whole, heq, fun _ => hslot⟩
  | drops hfrag hnone => exact ⟨h, [], (List.append_nil _).symm, Or.inl rfl⟩
  | @starts sta hsta hra hmore hfirst =>
      have hnot : ¬ P frame := fun hP => hframe hP (Or.inl hmore)
      have hfree : NoneWaits P (self.free (sta.defragQ.map RecvFrameHdr.slot)) := h
      refine ⟨hfree.setSta fun q hq => ?_, [], (List.append_nil _).symm, Or.inl rfl⟩
      obtain rfl := List.mem_singleton.mp hq
      exact hnot
  | waits hsta hra hmore hfirst =>
      have hnot : ¬ P frame := fun hP => hframe hP (Or.inl hmore)
      refine ⟨h.setSta fun q hq => ?_, [], (List.append_nil _).symm, Or.inl rfl⟩
      rcases List.mem_append.mp hq with hq | hq
      · exact h.of_defragSta hsta q hq
      · obtain rfl := List.mem_singleton.mp hq
        exact hnot
  | @fails sta defragQ hsta hra hmore hfirst hq hdefrag =>
      have hqueue : NoneWaits P (self.setSta { sta with defragQ := [] }) :=
        h.setSta fun q hq => by cases hq
      exact ⟨hqueue, [], (List.append_nil _).symm, Or.inl rfl⟩
  | @joins sta defragQ whole hsta hra hmore hfirst hq hdefrag =>
      have hnot : ¬ P frame := fun hP => hframe hP (Or.inr hfirst)
      -- the frame has the slot of the first fragment
      have hwhole : ¬ P whole.slot := by
        cases hsq : sta.defragQ with
        | nil =>
            rw [hq, hsq] at hdefrag
            obtain ⟨-, hloop⟩ := recvframeDefrag_cons_eq_some_iff.mp hdefrag
            rwa [slot_of_defragLoop hloop]
        | cons first rest =>
            rw [hq, hsq] at hdefrag
            obtain ⟨-, hloop⟩ := recvframeDefrag_cons_eq_some_iff.mp hdefrag
            rw [slot_of_defragLoop hloop]
            exact h.of_defragSta hsta first (hsq ▸ List.mem_cons_self)
      have hqueue : NoneWaits P (self.setSta { sta with defragQ := [] }) :=
        h.setSta fun q hq => by cases hq
      obtain ⟨out, hout, hcases⟩ := hand_returned micOk
        ((self.setSta { sta with defragQ := [] }).free (defragQ.tail.map RecvFrameHdr.slot)) whole
      refine ⟨fun s hs => hqueue s (by rwa [Adapter.hand_stas] at hs), out, hout, ?_⟩
      exact hcases.imp_right fun ⟨w, heq, hslot⟩ =>
        ⟨w, heq, fun hP => absurd (hslot ▸ hP) hwhole⟩

/-- A frame without Michael that is no fragment goes on as it is. -/
theorem chkDefrag_of_plain {frame : DataFrame α} (hfrag : ¬ frame.hdr.IsFragment)
    (htkip : frame.attrib.encrypt ≠ .tkip) :
    recvframeChkDefrag micOk self frame.hdr
      = { self with returned := self.returned ++ [frame.hdr] } := by
  have hplain : frame.hdr.attrib.mfrag = false ∧ frame.hdr.attrib.fragNum = 0 := by
    simpa [RecvFrameHdr.IsFragment] using hfrag
  have hmic : recvframeChkmic micOk frame.hdr = some frame.hdr := if_neg htkip
  unfold recvframeChkDefrag Adapter.hand
  rw [if_pos hplain, hmic, ite_self]

/-! ## One traffic class -/

/-- The frames of the class that come in. -/
def PathEvent.ours (a : Bytes) (tid : UInt8) : PathEvent α → List (DataFrame α)
  | recv frame => [frame].filter (ofClass a (.tid tid))
  | _ => []

/-- The station stays, its frames of the class are no fragments, and nothing
but frames and the path itself moves the window. -/
def Undisturbed (a : Bytes) (tid : UInt8) : PathEvent α → Prop
  | .recv frame => ofClass a (.tid tid) frame = true →
      ¬ frame.hdr.IsFragment ∧ frame.attrib.encrypt ≠ .tkip
  | .control hwaddr tid' e =>
    hwaddr = a ∧ tid' = tid → e.ordinary = true ∧ e.isTimeout = false
  | .allocStainfo hwaddr => hwaddr ≠ a
  | .freeStainfo hwaddr => hashAddr hwaddr ≠ a
  | .setStakey _ | .setGroupKey _ _ => True

theorem ofClass_tid_iff {a : Bytes} {tid : UInt8} {frame : DataFrame α} :
    ofClass a (.tid tid) frame = true ↔ frame.attrib.ta = a
      ∧ (frame.qos && !isMcast frame.attrib.ra) = true ∧ frame.priority = tid := by
  unfold ofClass DataFrame.prxseq
  cases frame.qos <;> cases isMcast frame.attrib.ra <;> simp

namespace RecvPath

theorem ctrls_setCtrl_self (self : RecvPath α) (a : Bytes) (tid : UInt8)
    (ctrl : Reordering (PathFrame α)) : (self.setCtrl a tid ctrl).ctrls a tid = ctrl := by
  simp [setCtrl]

theorem ctrls_setCtrl_of_ne {self : RecvPath α} {a hwaddr : Bytes} {tid tid' : UInt8}
    {ctrl : Reordering (PathFrame α)} (h : ¬ (hwaddr = a ∧ tid' = tid)) :
    (self.setCtrl hwaddr tid' ctrl).ctrls a tid = self.ctrls a tid := by
  unfold setCtrl
  dsimp only
  by_cases ha : a = hwaddr
  · subst ha
    rw [Function.update_self, Function.update_of_ne fun ht => h ⟨rfl, ht.symm⟩]
  · rw [Function.update_of_ne ha]

end RecvPath

section Class

variable {michael : Adapter (DataFrame α) → PathFrame α → Bool}
  {s s' : RecvPath α} {a : Bytes} {tid : UInt8}

theorem recvDefragged_of_not {prframe : PathFrame α}
    (h : recvDefragged s prframe = .ok s') (hclass : ¬ ofClass a (.tid tid) prframe.slot = true) :
    s'.decache = s.decache ∧ s'.adapter = s.adapter ∧ s'.ctrls a tid = s.ctrls a tid := by
  unfold recvDefragged at h
  dsimp only at h
  split at h
  · next hqos =>
    cases hstep : rxStep (s.ctrls prframe.slot.attrib.ta prframe.slot.priority)
        (.recv (toReorder prframe)) with
    | error e => rw [hstep] at h; cases h
    | ok ctrl =>
        rw [hstep] at h
        cases h
        exact ⟨rfl, rfl, RecvPath.ctrls_setCtrl_of_ne fun heq =>
          hclass (ofClass_tid_iff.mpr ⟨heq.1, hqos, heq.2⟩)⟩
  · cases h
    exact ⟨rfl, rfl, rfl⟩

theorem recvDefragged_of_class {prframe : PathFrame α}
    (h : recvDefragged s prframe = .ok s') (hclass : ofClass a (.tid tid) prframe.slot = true) :
    s'.decache = s.decache ∧ s'.adapter = s.adapter
      ∧ rxStep (s.ctrls a tid) (.recv (toReorder prframe)) = .ok (s'.ctrls a tid) := by
  obtain ⟨rfl, hqos, rfl⟩ := ofClass_tid_iff.mp hclass
  unfold recvDefragged at h
  dsimp only at h
  rw [if_pos hqos] at h
  cases hstep : rxStep (s.ctrls prframe.slot.attrib.ta prframe.slot.priority)
      (.recv (toReorder prframe)) with
  | error e => rw [hstep] at h; cases h
  | ok ctrl =>
      rw [hstep] at h
      cases h
      exact ⟨rfl, rfl, congrArg _ (RecvPath.ctrls_setCtrl_self ..).symm⟩

/-- What has happened to the class when `ours` have come in: its control has
seen those of them that are no duplicates. -/
structure Advances (s s' : RecvPath α) (a : Bytes) (tid : UInt8) (ours : List (DataFrame α)) :
    Prop where
  noneWaits : NoneWaits (ofClass a (.tid tid)) s'.adapter
  rxseq : (s'.decache.stas a).rxseq (.tid tid)
    = ours.foldl (fun _ frame => frame.seqCtrl) ((s.decache.stas a).rxseq (.tid tid))
  control : ∃ rx, runRx (s.ctrls a tid) rx = .ok (s'.ctrls a tid)
    ∧ (∀ e ∈ rx, e.ordinary = true ∧ e.isTimeout = false)
    ∧ rx.filterMap RxEvent.arrival? = (StopAndWait.handed DataFrame.seqCtrl
        ((s.decache.stas a).rxseq (.tid tid)) ours).map fun frame => toReorder frame.hdr

theorem Advances.of_eq (hwait : NoneWaits (ofClass a (.tid tid)) s'.adapter)
    (hsta : (s'.decache.stas a).rxseq (.tid tid) = (s.decache.stas a).rxseq (.tid tid))
    (hctrl : s'.ctrls a tid = s.ctrls a tid) : Advances s s' a tid [] where
  noneWaits := hwait
  rxseq := hsta
  control := ⟨[], congrArg _ hctrl.symm, fun _ h => absurd h List.not_mem_nil, rfl⟩

theorem Advances.trans {s'' : RecvPath α} {fs gs : List (DataFrame α)}
    (h : Advances s s' a tid fs) (h' : Advances s' s'' a tid gs) :
    Advances s s'' a tid (fs ++ gs) where
  noneWaits := h'.noneWaits
  rxseq := by rw [h'.rxseq, h.rxseq, List.foldl_append]
  control := by
    obtain ⟨rx, hrun, hord, harr⟩ := h.control
    obtain ⟨rx', hrun', hord', harr'⟩ := h'.control
    refine ⟨rx ++ rx', (Run.run_append_of_ok hrun).trans hrun', fun e he => ?_, ?_⟩
    · exact (List.mem_append.mp he).elim (hord e) (hord' e)
    · rw [List.filterMap_append, harr, harr', h.rxseq, StopAndWait.handed_append, List.map_append]

/-- What is kept of the class after a frame. -/
theorem validate_rxseq_tid (self : Decache) (frame : DataFrame α) :
    ((self.validate frame).1.stas a).rxseq (.tid tid)
      = ([frame].filter (ofClass a (.tid tid))).foldl (fun _ f => f.seqCtrl)
        ((self.stas a).rxseq (.tid tid)) := by
  have h := @decacheStep_rxseq α self a (.tid tid) (.recv frame) fun h => by cases h
  refine h.trans ?_
  by_cases hclass : ofClass a (.tid tid) frame = true
  · simp [DecacheEvent.frame?, Option.filter_some, hclass]
  · simp [DecacheEvent.frame?, Option.filter_some, hclass]

/-- **Step.** A frame. -/
theorem advances_recv {frame : DataFrame α} (h : recvFunc michael s frame = .ok s')
    (hframe : Undisturbed a tid (.recv frame))
    (hwait : NoneWaits (ofClass a (.tid tid)) s.adapter) :
    Advances s s' a tid ([frame].filter (ofClass a (.tid tid))) := by
  have hkept := @validate_rxseq_tid α a tid s.decache frame
  have hpass (hclass : ofClass a (.tid tid) frame = true) : (s.decache.validate frame).2 = true
      ↔ frame.seqCtrl ≠ (s.decache.stas a).rxseq (.tid tid) := by
    obtain ⟨rfl, hqos, rfl⟩ := ofClass_tid_iff.mp hclass
    obtain ⟨hta, hprxseq⟩ : frame.attrib.ta = frame.attrib.ta
        ∧ frame.prxseq = .tid frame.priority := by simpa [ofClass] using hclass
    rw [← hprxseq]
    exact s.decache.validate_snd frame fun hgroup => by simp [hgroup] at hqos
  unfold recvFunc at h
  split at h
  · next decache hvalid =>
    -- dropped: a frame of the class is then the last one again
    cases h
    rw [hvalid] at hkept hpass
    refine ⟨hwait, hkept, [], rfl, fun _ h => absurd h List.not_mem_nil, ?_⟩
    by_cases hclass : ofClass a (.tid tid) frame = true
    · have hdup : frame.seqCtrl = (s.decache.stas a).rxseq (.tid tid) := by
        by_contra hne
        cases (hpass hclass).mpr hne
      rw [List.filter_cons_of_pos hclass, StopAndWait.handed_cons_of_eq hdup]
      rfl
    · rw [List.filter_cons_of_neg hclass]
      rfl
  · next decache hvalid =>
    rw [hvalid] at hkept hpass
    by_cases hclass : ofClass a (.tid tid) frame = true
    · -- it goes on to the control of the class
      obtain ⟨hfrag, htkip⟩ := hframe hclass
      have hne : frame.seqCtrl ≠ (s.decache.stas a).rxseq (.tid tid) := (hpass hclass).mp rfl
      rw [chkDefrag_of_plain hfrag htkip] at h
      dsimp only at h
      rw [List.drop_left] at h
      simp only [List.foldlM_cons, List.foldlM_nil, bind_pure] at h
      obtain ⟨hdecache, hadapter, hstep⟩ := recvDefragged_of_class h hclass
      refine ⟨hadapter ▸ hwait, hdecache ▸ hkept, [.recv (toReorder frame.hdr)],
        Run.run_cons_ok hstep, fun e he => ?_, ?_⟩
      · obtain rfl := List.mem_singleton.mp he
        exact ⟨rfl, rfl⟩
      · rw [List.filter_cons_of_pos hclass, StopAndWait.handed_cons_of_ne hne]
        rfl
    · -- whatever it sets free in a queue is of another class
      rw [List.filter_cons_of_neg hclass] at hkept ⊢
      obtain ⟨hwait', out, hout, hcases⟩ := noneWaits_received hwait
        (fun hP => absurd hP hclass)
        (received_chkDefrag (michael s.adapter frame.hdr) s.adapter frame.hdr)
      dsimp only at h
      rw [hout, List.drop_left] at h
      rcases hcases with rfl | ⟨whole, rfl, hslot⟩
      · cases h
        exact .of_eq hwait' hkept rfl
      · simp only [List.foldlM_cons, List.foldlM_nil, bind_pure] at h
        obtain ⟨hdecache, hadapter, hctrl⟩ :=
          recvDefragged_of_not h fun hw => hclass (hslot hw ▸ hw)
        exact .of_eq (hadapter ▸ hwait') (hdecache ▸ hkept) hctrl

theorem ok_of_mapError {ε ε' β : Type} {f : ε → ε'} {x : Except ε β} {b : β}
    (h : x.mapError f = .ok b) : x = .ok b := by
  cases x with
  | error e => cases h
  | ok b' => exact congrArg _ (Except.ok.inj h)

theorem exists_of_map {ε β γ : Type} {f : β → γ} {x : Except ε β} {c : γ}
    (h : x.map f = .ok c) : ∃ b, x = .ok b ∧ c = f b := by
  cases x with
  | error e => cases h
  | ok b => exact ⟨b, rfl, (Except.ok.inj h).symm⟩

/-- Nothing but a frame puts a frame in a queue. -/
theorem noneWaits_defragStep {P : DataFrame α → Bool} {e : DefragEvent (DataFrame α)}
    (h : NoneWaits P self) (he : e.arrival? = none)
    (hstep : defragStep michael self e = .ok t) : NoneWaits P t := by
  cases e with
  | recv frame => cases he
  | setStakey addr =>
      unfold defragStep at hstep
      dsimp only at hstep
      split at hstep
      · cases hstep
        exact h
      · next sta hsta =>
        cases hstep
        exact h.setSta (h sta (List.mem_of_find?_eq_some hsta))
  | allocStainfo addr =>
      unfold defragStep at hstep
      dsimp only at hstep
      split at hstep
      · cases hstep
      · cases hstep
        intro sta hsta
        rcases List.mem_cons.mp hsta with rfl | hsta
        · exact fun q hq => absurd hq List.not_mem_nil
        · exact h sta hsta
  | freeStainfo addr =>
      unfold defragStep at hstep
      dsimp only at hstep
      split at hstep
      · cases hstep
        exact h
      · cases hstep
        exact fun sta hsta => h sta (List.mem_of_mem_filter hsta)

theorem control_ok {hwaddr : Bytes} {tid' : UInt8} {e : RxEvent (PathFrame α)}
    (h : pathStep michael s (.control hwaddr tid' e) = .ok s') :
    e.arrival? = none
      ∧ ∃ ctrl, rxStep (s.ctrls hwaddr tid') e = .ok ctrl ∧ s' = s.setCtrl hwaddr tid' ctrl := by
  cases e with
  | recv frame => cases h
  | cancelTimer | expire | timeout _ | bar _ | addBaRsp _ | delba | reorderWow | joinbss =>
      exact ⟨rfl, exists_of_map (ok_of_mapError (f := PathEvent.control hwaddr tid') h)⟩

/-- **Step.** Any event. -/
theorem advances_step {e : PathEvent α} (h : pathStep michael s e = .ok s')
    (he : Undisturbed a tid e)
    (hwait : NoneWaits (ofClass a (.tid tid)) s.adapter) :
    Advances s s' a tid (e.ours a tid) := by
  cases e with
  | recv frame => exact advances_recv (ok_of_mapError h) he hwait
  | control hwaddr tid' e =>
      obtain ⟨hnone, ctrl, hstep, rfl⟩ := control_ok h
      by_cases heq : hwaddr = a ∧ tid' = tid
      · have hordinary := he heq
        obtain ⟨rfl, rfl⟩ := heq
        refine ⟨hwait, rfl, [e], (Run.run_cons_ok hstep).trans ?_, fun e' he' => ?_, ?_⟩
        · exact congrArg _ (RecvPath.ctrls_setCtrl_self ..).symm
        · exact List.mem_singleton.mp he' ▸ hordinary
        · rw [List.filterMap_cons_none hnone]
          rfl
      · exact .of_eq hwait rfl (RecvPath.ctrls_setCtrl_of_ne heq)
  | allocStainfo hwaddr =>
      obtain ⟨adapter, hstep, rfl⟩ := exists_of_map (ok_of_mapError h)
      have hne : a ≠ hwaddr := Ne.symm he
      exact .of_eq (noneWaits_defragStep hwait rfl hstep)
        (congrArg (StaRecvPriv.rxseq · _) (Decache.setSta_of_ne hne))
        (congrFun (Function.update_of_ne hne ..) tid)
  | freeStainfo hwaddr =>
      obtain ⟨adapter, hstep, rfl⟩ := exists_of_map (ok_of_mapError h)
      exact .of_eq (noneWaits_defragStep hwait rfl hstep) rfl
        (congrFun (Function.update_of_ne (Ne.symm he) ..) tid)
  | setStakey hwaddr =>
      obtain ⟨adapter, hstep, rfl⟩ := exists_of_map (ok_of_mapError h)
      exact .of_eq (noneWaits_defragStep hwait rfl hstep) rfl rfl
  | setGroupKey keyId seq =>
      cases h
      exact .of_eq hwait rfl rfl

/-- **Run.** -/
theorem advances_run {es : List (PathEvent α)} (h : runPath michael s es = .ok s')
    (hes : ∀ e ∈ es, Undisturbed a tid e)
    (hwait : NoneWaits (ofClass a (.tid tid)) s.adapter) :
    Advances s s' a tid (es.flatMap (PathEvent.ours a tid)) := by
  induction es generalizing s with
  | nil =>
      cases h
      exact .of_eq hwait rfl rfl
  | cons e es ih =>
      have he := hes e List.mem_cons_self
      cases hstep : pathStep michael s e with
      | error e' =>
          rw [runPath, Run.run_cons_error hstep] at h
          cases h
      | ok t =>
          rw [runPath, Run.run_cons_ok hstep] at h
          have hadv := advances_step hstep he hwait
          exact hadv.trans (ih h (fun e he => hes e (List.mem_cons_of_mem _ he)) hadv.noneWaits)

end Class

/-! ## A stream under an agreement -/

section Stream

variable {ks : List ℕ} {num : ℕ → UInt16} {last : UInt16}

/-- Frames of a window that come in behind each other have the same number
only if they are the same. -/
theorem InWindow.chain (hks : InWindow ks) (hnum : ∀ i j, num i = num j → i % 4096 = j % 4096) :
    ks.IsChain fun i j => num i = num j → i = j := by
  refine List.isChain_iff_getElem.mpr fun n hn heq => ?_
  have hmod := hnum _ _ heq
  have hpre : ks.take n ++ [ks[n]] = ks.take (n + 1) := List.take_append_getElem (by omega)
  have hpre' : ks.take (n + 1) ++ [ks[n + 1]] = ks.take (n + 2) := List.take_append_getElem hn
  have hlast := hks.recent (ks.take n) ks[n] (hpre ▸ List.take_prefix ..)
  have hrecent := hks.recent (ks.take (n + 1)) ks[n + 1] (hpre' ▸ List.take_prefix ..)
  have hsent := hks.sent (ks.take (n + 1)) ks[n + 1] (hpre' ▸ List.take_prefix ..)
  rw [← hpre] at hrecent hsent
  have hbehind := hrecent ks[n] (List.mem_append_right _ (List.mem_singleton_self _))
  by_contra hne
  -- the frame half the numbers further on would have come in before
  have hmem := hsent (ks[n] + 2048) (by omega)
  rcases List.mem_append.mp hmem with hmem | hmem
  · have := hlast _ hmem
    omega
  · have := List.mem_singleton.mp hmem
    omega

/-- What duplicate detection leaves of a window is one. -/
theorem InWindow.handed (hks : InWindow ks) (hnum : ∀ i j, num i = num j → i % 4096 = j % 4096)
    (hfirst : num 0 ≠ last) :
    InWindow (StopAndWait.handed num last ks)
      ∧ ∀ j, j ∈ StopAndWait.handed num last ks ↔ j ∈ ks := by
  have hmem : ∀ {pre : List ℕ}, pre <+: ks →
      ∀ j, j ∈ StopAndWait.handed num last pre ↔ j ∈ pre :=
    fun {pre} hpre j => by
      have hchain := List.IsChain.prefix (hks.chain hnum) hpre
      refine StopAndWait.mem_handed_iff hchain fun i hi => ?_
      obtain ⟨tail, rfl⟩ := hpre
      cases pre with
      | nil => cases hi
      | cons k pre =>
          obtain rfl := Option.some.inj hi
          rwa [hks.first k rfl]
  refine ⟨⟨fun k hk => ?_, fun pre k hpre j hj => ?_, fun pre k hpre j hj => ?_⟩,
    hmem List.prefix_rfl⟩
  · cases hks' : StopAndWait.handed num last ks with
    | nil => rw [hks'] at hk; cases hk
    | cons i is =>
        rw [hks'] at hk
        obtain rfl := Option.some.inj hk
        have hstart : [] ++ [i] <+: StopAndWait.handed num last ks :=
          hks' ▸ List.prefix_append [i] is
        obtain ⟨before, hbefore, hnone⟩ := StopAndWait.exists_of_prefix_handed hstart
        have hempty : before = [] := List.eq_nil_iff_forall_not_mem.mpr fun j hj => by
          have hj := (hmem ((List.prefix_append before [i]).trans hbefore) j).mpr hj
          exact List.not_mem_nil (hnone ▸ hj)
        subst hempty
        obtain ⟨tail, rfl⟩ := hbefore
        exact hks.first i rfl
  · obtain ⟨before, hbefore, rfl⟩ := StopAndWait.exists_of_prefix_handed hpre
    exact (hmem ((List.prefix_append before [k]).trans hbefore) j).mpr
      (hks.sent before k hbefore j hj)
  · obtain ⟨before, hbefore, rfl⟩ := StopAndWait.exists_of_prefix_handed hpre
    exact hks.recent before k hbefore j
      ((hmem ((List.prefix_append before [k]).trans hbefore) j).mp hj)

/-- The packets of the class, and where they go. -/
def packets (mem : Bytes → Bool) (bss : Bss) (s : RecvPath α) (a : Bytes) (tid : UInt8) :
    List (Act × Bytes) :=
  (s.ctrls a tid).mpdus.flatMap fun prframe => recvProcessMpdu mem bss prframe.body

end Stream

/-! ### On the bench -/

/-- Packets for the access point itself and for another station, in turn. -/
def benchMsdu (k : ℕ) : Msdu := if k % 2 = 0 then benchOwn else benchOther

def benchStream (k : ℕ) : DataFrame ℕ where
  toRecvFrameHdr :=
    benchData false (benchMsdu k).da (benchMsdu k).sa (benchFrame (benchMsdu k).payload)
  qos := true
  priority := 5
  priority_lt := benchPriority_lt
  seqNum := (benchMpdu k).seqNum
  seqNum_lt := (benchMpdu k).seqNum_lt

def benchPath : RecvPath ℕ where
  decache := benchDecache false
  adapter := Adapter.init
  ctrls _ _ :=
    { Reordering.init with
      ctrl := { ReorderCtrl.init with enable := true, recvAckOrTimeout := true } }
  mpdus := []

/-- The third frame comes twice and before the second; the fourth is missing. -/
def benchReceived : List (PathEvent ℕ) :=
  [.recv (benchStream 0), .control [2, 0, 0, 0, 0, 2] 5 .cancelTimer, .recv (benchStream 2),
    .recv (benchStream 2), .setStakey [2, 0, 0, 0, 0, 2], .recv (benchStream 1),
    .control [2, 0, 0, 0, 0, 2] 5 .cancelTimer, .recv (benchStream 4)]

end Specter
