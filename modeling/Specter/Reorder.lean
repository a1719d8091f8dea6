import Specter.Lib.Run

/-!
# Receive reordering in the Wi-Fi driver

`recv_reorder_ctrl` and the functions of `rtw_recv.c` that keep it: one
for each traffic class of a station. Frames of an aggregate come in as
they got through; they are handed to `recv_process_mpdu` in the order of
their sequence numbers, which are of 12 bits.

A frame here is one that has its `preorder_ctrl`, a unicast QoS data
frame. Of the driver's counters only `rx_drop` is kept.
-/

namespace Specter

variable {α : Type}

/-- What reordering reads of a frame, and the rest. -/
structure RecvFrame (α : Type) where
  seqNum : UInt16
  body : α
  seqNum_lt : seqNum < 0x1000  -- `GetSequence`
deriving DecidableEq

/-- `SN_LESS`. -/
def snLess (a b : UInt16) : Bool := (a - b) &&& 0x800 != 0

structure ReorderCtrl (α : Type) where
  enable : Bool
  indicateSeq : UInt16  -- the start of the window, `0xFFFF` before the first frame
  wsizeB : UInt8
  pending : List (RecvFrame α)  -- `pending_recvframe_queue`
  bReorderWaiting : Bool
  recvAckOrTimeout : Bool  -- a bit of `rec_abba_rsp_ack`
  recvReorderWow : Bool  -- the other one
deriving DecidableEq

/-- As `_rtw_init_stainfo` leaves it. -/
def ReorderCtrl.init : ReorderCtrl α where
  enable := false
  indicateSeq := 0xFFFF
  wsizeB := 64
  pending := []
  bReorderWaiting := false
  recvAckOrTimeout := false
  recvReorderWow := false

/-! ## The window -/

/-- `check_indicate_seq`: whether the frame is to be kept. -/
def checkIndicateSeq (ctrl : ReorderCtrl α) (seqNum : UInt16) : ReorderCtrl α × Bool :=
  let ctrl := if ctrl.indicateSeq = 0xFFFF then { ctrl with indicateSeq := seqNum } else ctrl
  let wsize := ctrl.wsizeB.toUInt16
  let wend := (ctrl.indicateSeq + wsize - 1) &&& 0xFFF
  if snLess seqNum ctrl.indicateSeq then (ctrl, false)
  else if seqNum = ctrl.indicateSeq then
    ({ ctrl with indicateSeq := (ctrl.indicateSeq + 1) &&& 0xFFF }, true)
  else if snLess wend seqNum then
    -- the second case is that of a window across 0xFFF
    if ctrl.wsizeB.toNat - 1 ≤ seqNum.toNat then
      ({ ctrl with indicateSeq := seqNum + 1 - wsize }, true)
    else ({ ctrl with indicateSeq := 0xFFF - (wsize - (seqNum + 1)) + 1 }, true)
  else (ctrl, true)

/-- `enqueue_reorder_recvframe`, on the queue. -/
def enqueueReorderRecvframe (frame : RecvFrame α) : List (RecvFrame α) → Option (List (RecvFrame α))
  | [] => some [frame]
  | next :: rest =>
    if snLess next.seqNum frame.seqNum then (enqueueReorderRecvframe frame rest).map (next :: ·)
    else if next.seqNum = frame.seqNum then none  -- a duplicate
    else some (frame :: next :: rest)

/-! ## Indication -/

/-- `recv_indicatepkts_pkt_loss_cnt`. -/
def recvIndicatepktsPktLossCnt (rxDrop prevSeq currentSeq : UInt64) : UInt64 :=
  if currentSeq < prevSeq then rxDrop + (4096 + currentSeq - prevSeq)
  else rxDrop + (currentSeq - prevSeq)

/-- The loop of `recv_indicatepkts_in_order`: the window, what stays in
the queue and what is handed on. -/
def indicateLoop (indicateSeq : UInt16) :
    List (RecvFrame α) → UInt16 × List (RecvFrame α) × List (RecvFrame α)
  | [] => (indicateSeq, [], [])
  | frame :: rest =>
    if ¬ snLess indicateSeq frame.seqNum then
      let indicateSeq :=
        if indicateSeq = frame.seqNum then (indicateSeq + 1) &&& 0xFFF else indicateSeq
      let (indicateSeq, kept, mpdus) := indicateLoop indicateSeq rest
      (indicateSeq, kept, frame :: mpdus)
    else (indicateSeq, frame :: rest, [])

/-- What a call of `recv_indicatepkts_in_order` does. -/
structure Indication (α : Type) where
  ctrl : ReorderCtrl α
  mpdus : List (RecvFrame α)  -- to `recv_process_mpdu`
  rxDrop : UInt64
  bPktInBuf : Bool  -- the value returned

def indicatePending (ctrl : ReorderCtrl α) (rxDrop : UInt64) : Indication α :=
  let (indicateSeq, kept, mpdus) := indicateLoop ctrl.indicateSeq ctrl.pending
  { ctrl := { ctrl with indicateSeq := indicateSeq, pending := kept }
    mpdus := mpdus
    rxDrop := rxDrop
    bPktInBuf := !kept.isEmpty }

def recvIndicatepktsInOrder (ctrl : ReorderCtrl α) (rxDrop : UInt64) (bforced : Bool) :
    Indication α :=
  if bforced then
    match ctrl.pending with
    | [] => ⟨ctrl, [], rxDrop, true⟩
    | frame :: _ =>
      indicatePending { ctrl with indicateSeq := frame.seqNum }
        (recvIndicatepktsPktLossCnt rxDrop ctrl.indicateSeq.toUInt64 frame.seqNum.toUInt64)
  else indicatePending ctrl rxDrop

/-! ## The receive path and the timer

`recv_indicatepkt_reorder` works under the lock of the queue, and so does
the handler of the timer. The path stops the timer only once it has let
the lock go, and `del_timer_sync` waits for a handler that has started.
-/

structure Reordering (α : Type) where
  ctrl : ReorderCtrl α
  armed : Bool  -- `reordering_ctrl_timer` is running
  fired : Bool  -- its handler has started and not got the lock
  cancelling : Bool  -- the receive path is about to stop the timer
  rxDrop : UInt64
  mpdus : List (RecvFrame α)  -- handed to `recv_process_mpdu` so far
  dropped : List (RecvFrame α)
deriving DecidableEq

def Reordering.init : Reordering α where
  ctrl := .init
  armed := false
  fired := false
  cancelling := false
  rxDrop := 0
  mpdus := []
  dropped := []

/-- The two bits that are tested and cleared first. -/
def takeResets (ctrl : ReorderCtrl α) : ReorderCtrl α :=
  { ctrl with
    indicateSeq := if ctrl.recvAckOrTimeout ∨ ctrl.recvReorderWow then 0xFFFF else ctrl.indicateSeq
    recvAckOrTimeout := false
    recvReorderWow := false }

/-- `recv_indicatepkt_reorder` with the control enabled. -/
def recvIndicatepktReorder (s : Reordering α) (frame : RecvFrame α) : Reordering α :=
  let (ctrl, keep) := checkIndicateSeq (takeResets s.ctrl) frame.seqNum
  if ¬ keep then { s with ctrl := ctrl, dropped := s.dropped ++ [frame] }
  else
    match enqueueReorderRecvframe frame ctrl.pending with
    | none => { s with ctrl := ctrl, dropped := s.dropped ++ [frame] }
    | some pending =>
      let ind := recvIndicatepktsInOrder { ctrl with pending := pending } s.rxDrop false
      let s := { s with rxDrop := ind.rxDrop, mpdus := s.mpdus ++ ind.mpdus }
      if ind.bPktInBuf then
        { s with
          ctrl := { ind.ctrl with bReorderWaiting := true }
          armed := s.armed || !ind.ctrl.bReorderWaiting }
      else { s with ctrl := { ind.ctrl with bReorderWaiting := false }, cancelling := true }

/-- The rest of `recv_func_posthandle`: with the control disabled the
frame is handed on at once, between the two updates of the window. -/
def recvPosthandle (s : Reordering α) (frame : RecvFrame α) : Reordering α :=
  if s.ctrl.enable then recvIndicatepktReorder s frame
  else
    -- `recv_set_iseq_before_mpdu_process`, `recv_set_iseq_after_mpdu_process`
    { s with
      ctrl := { s.ctrl with indicateSeq := (frame.seqNum + 1) % 4096 }
      mpdus := s.mpdus ++ [frame] }

/-- `rtw_reordering_ctrl_timeout_handler`. -/
def reorderingCtrlTimeoutHandler (cannotRun : Bool) (s : Reordering α) : Reordering α :=
  if cannotRun then s
  else
    let ind := recvIndicatepktsInOrder { s.ctrl with bReorderWaiting := false } s.rxDrop true
    { s with
      ctrl := ind.ctrl
      rxDrop := ind.rxDrop
      mpdus := s.mpdus ++ ind.mpdus
      armed := s.armed || ind.bPktInBuf }

/-- What can happen to a control. -/
inductive RxEvent (α : Type) where
  | recv (frame : RecvFrame α)  -- `recv_func_posthandle`
  | cancelTimer  -- `_cancel_timer_ex`
  | expire  -- the time is up
  | timeout (cannotRun : Bool)  -- the handler gets the lock
  | bar (startSeq : UInt16)  -- `rtw_process_bar_frame`
  | addBaRsp (status : Nat)  -- `add_ba_rsp_hdl`
  | delba  -- `OnAction_back`, sent by the originator
  | reorderWow  -- waking up from sleep
  | joinbss  -- `rtw_joinbss_update_stainfo`
deriving DecidableEq

/-- One event, unless it cannot happen now. -/
def rxStep (s : Reordering α) : RxEvent α → Except (RxEvent α) (Reordering α)
  | .recv frame =>
    if s.cancelling then .error (.recv frame) else .ok (recvPosthandle s frame)
  | .cancelTimer =>
    if s.cancelling ∧ ¬ s.fired then .ok { s with armed := false, cancelling := false }
    else .error .cancelTimer
  | .expire =>
    if s.armed ∧ ¬ s.fired then .ok { s with armed := false, fired := true } else .error .expire
  | .timeout cannotRun =>
    if s.fired then .ok (reorderingCtrlTimeoutHandler cannotRun { s with fired := false })
    else .error (.timeout cannotRun)
  | .bar startSeq =>
    if s.cancelling then .error (.bar startSeq)
    else .ok { s with ctrl := { s.ctrl with indicateSeq := startSeq } }
  | .addBaRsp status =>
    .ok { s with ctrl := { s.ctrl with
      recvAckOrTimeout := true
      enable := if status = 0 then true else if status = 37 then false else s.ctrl.enable } }
  | .delba => .ok { s with ctrl := { s.ctrl with enable := false } }
  | .reorderWow => .ok { s with ctrl := { s.ctrl with recvReorderWow := true } }
  | .joinbss =>
    .ok { s with ctrl := { s.ctrl with
      enable := false
      indicateSeq := 0xFFFF
      recvAckOrTimeout := false
      wsizeB := 64 } }

def runRx (s : Reordering α) (es : List (RxEvent α)) : Except (RxEvent α) (Reordering α) :=
  Run.run rxStep s es

/-! ## A bench stream

An agreement has just been made, and the numbers are about to wrap.
-/

def benchMpdu (k : ℕ) : RecvFrame ℕ where
  seqNum := UInt16.ofNat ((4094 + k) % 4096)
  body := k
  seqNum_lt := by
    rw [UInt16.lt_iff_toNat_lt, UInt16.toNat_ofNat']
    simp only [UInt16.reduceToNat]
    omega

def benchAgreed : Reordering ℕ :=
  { Reordering.init with
    ctrl := { ReorderCtrl.init with enable := true, recvAckOrTimeout := true } }

/-- The third frame comes before the second, which comes twice; the fourth
is missing. -/
def benchTraffic : List (RxEvent ℕ) :=
  [.recv (benchMpdu 0), .cancelTimer, .recv (benchMpdu 2), .recv (benchMpdu 1), .cancelTimer,
    .recv (benchMpdu 1), .recv (benchMpdu 4)]

end Specter
