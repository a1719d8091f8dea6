import Mathlib.Data.Nat.Bitwise
import Mathlib.Logic.Function.Basic
import Specter.Defrag
import Specter.Lib.StopAndWait

/-!
# Duplicate detection in the Wi-Fi driver

What `validate_recv_data_frame` of `rtw_recv.c` does under "drop duplicate
recv packets": `recv_decache` compares the sequence control of a data
frame with the last one of its class from the same station, and
`recv_ucast_pn_decache` or `recv_bcast_pn_decache` then looks at its
packet number.

`encrypt` is still what the receive descriptor says at that point. A
station that is not there has the record here that it will get; its
frames are dropped before.
-/

namespace Specter

open Sealing (Bytes)

variable {α : Type}

/-- What duplicate detection reads of a data frame beside `recv_frame_hdr`. -/
structure DataFrame (α : Type) extends RecvFrameHdr α where
  qos : Bool
  priority : UInt8
  priority_lt : priority < 16  -- `GetPriority`, or 0
  seqNum : UInt16
  seqNum_lt : seqNum < 4096  -- `GetSequence`

/-- The places `prxseq` may point to. -/
inductive Rxseq where
  | tid (tid : UInt8)
  | bmcTid (tid : UInt8)
  | nonqos
  | nonqosBmc
deriving DecidableEq

/-- `sta_recv_priv`, with the counter of `sta_stats`. -/
structure StaRecvPriv where
  rxseq : Rxseq → UInt16
  iv : UInt8 → Bytes
  lastTid : UInt8
  duplicateCnt : UInt32

/-- As `rtw_alloc_stainfo` leaves it. -/
def StaRecvPriv.init : StaRecvPriv where
  rxseq _ := 0xffff
  iv _ := List.replicate 8 0
  lastTid := 0
  duplicateCnt := 0

namespace DataFrame

/-- `prxseq`. -/
def prxseq (frame : DataFrame α) : Rxseq :=
  if frame.qos then
    if isMcast frame.attrib.ra then .bmcTid frame.priority else .tid frame.priority
  else if isMcast frame.attrib.ra then .nonqosBmc else .nonqos

/-- `seq_ctrl`. -/
def seqCtrl (frame : DataFrame α) : UInt16 :=
  (frame.seqNum &&& 0xffff) <<< 4 ||| (frame.attrib.fragNum.toUInt16 &&& 0xf)

/-- The ciphers whose packet numbers are looked at. -/
def pnChecked (frame : DataFrame α) : Bool := frame.attrib.encrypt = .tkip || frame.hasPn

/-- The eight bytes after the header. -/
def ivBytes (frame : DataFrame α) : Bytes := (frame.data.drop frame.attrib.hdrlen.toNat).take 8

end DataFrame

/-! ## The functions -/

/-- `recv_decache`, and whether it is `_SUCCESS`. -/
def recvDecache (psta : StaRecvPriv) (frame : DataFrame α) : StaRecvPriv × Bool :=
  if frame.priority > 15 then (psta, false)
  else if frame.seqCtrl = psta.rxseq frame.prxseq then
    ({ psta with duplicateCnt := psta.duplicateCnt + 1 }, false)
  else ({ psta with rxseq := Function.update psta.rxseq frame.prxseq frame.seqCtrl }, true)

/-- `rtw_iv_to_pn`: the packet number and the key's index. -/
def rtwIvToPn (iv : Bytes) (encAlgo : SecurityType) : Option (Bytes × UInt8) :=
  let rest := [iv.getD 4 0, iv.getD 5 0, iv.getD 6 0, iv.getD 7 0, 0, 0]
  match encAlgo with
  | .tkip => some (iv.getD 2 0 :: iv.getD 0 0 :: rest, iv.getD 3 0 >>> 6)
  | .aes | .gcmp | .ccmp256 | .gcmp256 =>
      some (iv.getD 0 0 :: iv.getD 1 0 :: rest, iv.getD 3 0 >>> 6)
  | _ => none

/-- The packet number as `RTW_GET_LE64` reads it, and the key's index. -/
def ivPn (iv : Bytes) (encAlgo : SecurityType) : UInt64 × UInt8 :=
  ((rtwIvToPn iv encAlgo).map fun (pn, keyId) => (getLe64 pn 0, keyId)).getD (0, 0)

/-- `PN_LESS_CHK`. -/
def pnLessChk (a b : UInt64) : Bool := (a - b) &&& 0x800000000000 != 0

/-- `VALID_PN_CHK`. -/
def validPnChk (new old : UInt64) : Bool := old == 0 || pnLessChk old new

/-- `recv_ucast_pn_decache`, which does not fail for a packet number. -/
def recvUcastPnDecache (psta : StaRecvPriv) (frame : DataFrame α) : StaRecvPriv × Bool :=
  if frame.priority > 15 then (psta, false)
  else if frame.pnChecked then
    let pktPn := (ivPn frame.ivBytes frame.attrib.encrypt).1
    let currPn := (ivPn (psta.iv frame.priority) frame.attrib.encrypt).1
    if validPnChk pktPn currPn then
      ({ psta with
          lastTid := frame.priority
          iv := Function.update psta.iv frame.priority frame.ivBytes }, true)
    else (psta, true)
  else (psta, true)

/-- `recv_bcast_pn_decache`: `ivSeq` is `iv_seq`. -/
def recvBcastPnDecache (isSta : Bool) (ivSeq : UInt8 → UInt64) (frame : DataFrame α) :
    (UInt8 → UInt64) × Bool :=
  if frame.pnChecked && isSta then
    let (pktPn, keyId) := ivPn frame.ivBytes frame.attrib.encrypt
    if validPnChk pktPn (ivSeq keyId) then (Function.update ivSeq keyId pktPn, true)
    else (ivSeq, false)
  else (ivSeq, true)

/-! ## Runs -/

/-- The records of the stations, and what the adapter has. -/
structure Decache where
  isSta : Bool  -- `MLME_IS_STA`
  stas : Bytes → StaRecvPriv
  ivSeq : UInt8 → UInt64

namespace Decache

def setSta (self : Decache) (ta : Bytes) (psta : StaRecvPriv) : Decache :=
  { self with stas := Function.update self.stas ta psta }

/-- The part of `validate_recv_data_frame`: whether the frame gets through. -/
def validate (self : Decache) (frame : DataFrame α) : Decache × Bool :=
  let ta := frame.attrib.ta
  match recvDecache (self.stas ta) frame with
  | (psta, false) => (self.setSta ta psta, false)
  | (psta, true) =>
    if !isMcast frame.attrib.ra then
      let (psta, ok) := recvUcastPnDecache psta frame
      (self.setSta ta psta, ok)
    else
      let (ivSeq, ok) := recvBcastPnDecache self.isSta self.ivSeq frame
      ({ self.setSta ta psta with ivSeq := ivSeq }, ok)

end Decache

/-- What can happen. -/
inductive DecacheEvent (α : Type) where
  | recv (frame : DataFrame α)
  | allocStainfo (hwaddr : Bytes)
  | setGroupKey (keyId : UInt8) (seq : UInt64)

namespace DecacheEvent

/-- The frame that comes in. -/
def frame? : DecacheEvent α → Option (DataFrame α)
  | recv frame => some frame
  | _ => none

end DecacheEvent

/-- One event: what is left, and whether a frame has got through. -/
def decacheStep (self : Decache) : DecacheEvent α → Decache × Bool
  | .recv frame => self.validate frame
  | .allocStainfo hwaddr => (self.setSta hwaddr .init, false)
  | .setGroupKey keyId seq => ({ self with ivSeq := Function.update self.ivSeq keyId seq }, false)

/-- The frames that get through. -/
def passed (self : Decache) : List (DecacheEvent α) → List (DataFrame α)
  | [] => []
  | e :: es =>
    match decacheStep self e with
    | (next, true) => e.frame?.toList ++ passed next es
    | (next, false) => passed next es

/-! ## A bench stream -/

theorem benchPriority_lt : (5 : UInt8) < 16 := by decide

/-- A frame of the access point to `ra`, with `pn` for its packet number. -/
def benchQos (ra : Bytes) (seqNum : UInt16) (h : seqNum < 4096) (pn : UInt8) : DataFrame ℕ where
  toRecvFrameHdr :=
    { benchFirst with
      attrib := { benchFirst.attrib with ra := ra, mfrag := false }
      data := benchFirst.data.take 24 ++ [pn, 0, 0, 0x20, 0, 0, 0, 0] }
  qos := true
  priority := 5
  priority_lt := benchPriority_lt
  seqNum := seqNum
  seqNum_lt := h

/-- With no frames yet. -/
def benchDecache (isSta : Bool) : Decache := ⟨isSta, fun _ => .init, fun _ => 0⟩

end Specter
