import Specter.Lib.Run
import Specter.Lib.Sealing

/-!
# Defragmentation in the Wi-Fi driver

`recvframe_chk_defrag` and `recvframe_defrag` of `rtw_recv.c`: each
station has a queue in which the fragments of a packet wait for the last
one. What happens to the queues besides is a station's coming and going
(`rtw_sta_mgt.c`) and its getting another key (`set_stakey_hdl`).

The hash lists of the stations are one list here. A frame has its place
in the pool of the driver's frames, its *slot*; where its contents no
longer matter it is the slot that is kept.
-/

namespace Specter

open Sealing (Bytes)

variable {α : Type}

/-- The values of `security_type` that a frame's `encrypt` has. -/
inductive SecurityType where
  | noPrivacy | wep40 | tkip | tkipWtmic | aes | wep104 | sms4 | gcmp | ccmp256 | gcmp256
deriving DecidableEq

/-- What defragmentation and what comes after it read of `rx_pkt_attrib`.
The sequence number is not read. -/
structure RxPktAttrib where
  toFrDs : UInt8
  dst : Bytes
  src : Bytes
  ra : Bytes
  ta : Bytes
  hdrlen : UInt8
  ivLen : UInt8
  icvLen : UInt8
  encrypt : SecurityType
  privacy : Bool  -- `GetPrivacy`
  amsdu : Bool  -- `GetAMsdu`
  mfrag : Bool  -- `GetMFrag`
  fragNum : UInt8
  fragNum_lt : fragNum < 16  -- `GetFragNum`
deriving DecidableEq

/-- `recv_frame_hdr`. -/
structure RecvFrameHdr (α : Type) where
  slot : α
  attrib : RxPktAttrib
  data : Bytes  -- from `rx_data` to `rx_tail`
  room : ℕ  -- from `rx_tail` to `rx_end`
  keytrack : UInt32
deriving DecidableEq

/-- `IS_MCAST`. -/
def isMcast (da : Bytes) : Bool := da.getD 0 0 &&& 1 != 0

def bcAddr : Bytes := List.replicate 6 0xff

/-- The address that a station is looked up by. -/
def hashAddr (hwaddr : Bytes) : Bytes := if isMcast hwaddr then bcAddr else hwaddr

namespace RecvFrameHdr

/-- `GetFrameType`, which is 8 for a data frame. -/
def frameType (frame : RecvFrameHdr α) : UInt8 := frame.data.getD 0 0 &&& 0xc

/-- `recvframe_pull`. -/
def pull (frame : RecvFrameHdr α) (sz : ℕ) : RecvFrameHdr α :=
  if frame.data.length < sz then frame else { frame with data := frame.data.drop sz }

/-- `recvframe_pull_tail`. -/
def pullTail (frame : RecvFrameHdr α) (sz : ℕ) : RecvFrameHdr α :=
  if frame.data.length < sz then frame
  else { frame with data := frame.data.take (frame.data.length - sz), room := frame.room + sz }

/-- `recvframe_put`, once `bytes` have been copied to `rx_tail`. -/
def put (frame : RecvFrameHdr α) (bytes : Bytes) : RecvFrameHdr α :=
  if frame.room < bytes.length then frame
  else { frame with data := frame.data ++ bytes, room := frame.room - bytes.length }

/-- Whether the packet numbers of fragments are looked at. -/
def hasPn (frame : RecvFrameHdr α) : Bool :=
  frame.attrib.encrypt = .aes || frame.attrib.encrypt = .ccmp256 || frame.attrib.encrypt = .gcmp
    || frame.attrib.encrypt = .gcmp256

end RecvFrameHdr

/-- The eight bytes from `i` on, least significant first. -/
def getLe64 (buf : Bytes) (i : ℕ) : UInt64 :=
  (List.range 8).foldr (fun k val => (val <<< 8) ||| (buf.getD (i + k) 0).toUInt64) 0

/-- `CCMPH_2_PN`. -/
def ccmph2Pn (ch : UInt64) : UInt64 :=
  let low : UInt64 := ch &&& 0x000000000000ffff
  let high : UInt64 := ch &&& 0xffffffff00000000
  low ||| high >>> 16

def RecvFrameHdr.pn (frame : RecvFrameHdr α) : UInt64 :=
  ccmph2Pn (getLe64 frame.data frame.attrib.hdrlen.toNat)

/-! ## Joining the fragments -/

def RecvFrameHdr.setIcvLen (frame : RecvFrameHdr α) (icvLen : UInt8) : RecvFrameHdr α :=
  { frame with attrib := { frame.attrib with icvLen := icvLen } }

/-- The payload of the next fragment takes the place of the ICV. -/
def RecvFrameHdr.append (prframe payload : RecvFrameHdr α) : RecvFrameHdr α :=
  ((prframe.pullTail prframe.attrib.icvLen.toNat).put payload.data).setIcvLen payload.attrib.icvLen

/-- The loop of `recvframe_defrag`. -/
def defragLoop (prframe : RecvFrameHdr α) (curPn : UInt64) (curfragnum : UInt8) :
    List (RecvFrameHdr α) → Option (RecvFrameHdr α)
  | [] => some prframe
  | next :: rest =>
    if next.hasPn ∧ next.pn ≠ curPn + 1 then none
    else if prframe.keytrack ≠ next.keytrack then none
    else if curfragnum ≠ next.attrib.fragNum then none
    else
      let wlanhdrOffset := next.attrib.hdrlen + next.attrib.ivLen
      let payload := next.pull wlanhdrOffset.toNat
      if prframe.room < payload.data.length then none
      else
        defragLoop (prframe.append payload) (if next.hasPn then next.pn else curPn)
          (curfragnum + 1) rest

/-- `recvframe_defrag`. -/
def recvframeDefrag : List (RecvFrameHdr α) → Option (RecvFrameHdr α)
  | [] => none  -- not called so
  | prframe :: rest =>
    if prframe.attrib.fragNum ≠ 0 then none
    else defragLoop prframe (if prframe.hasPn then prframe.pn else 0) 1 rest

/-! ## Stations -/

/-- What defragmentation uses of `sta_info`. -/
structure StaInfo (α : Type) where
  macAddr : Bytes
  keytrack : UInt32
  defragQ : List (RecvFrameHdr α)
deriving DecidableEq

structure Adapter (α : Type) where
  stas : List (StaInfo α)
  freed : List α  -- given back to `free_recv_queue`
  returned : List (RecvFrameHdr α)  -- by `recvframe_chk_defrag`
  nodup : (stas.map StaInfo.macAddr).Nodup

namespace Adapter

def init : Adapter α := ⟨[], [], [], List.nodup_nil⟩

/-- `rtw_get_stainfo`. -/
def getStainfo (self : Adapter α) (hwaddr : Bytes) : Option (StaInfo α) :=
  self.stas.find? fun sta => sta.macAddr = hashAddr hwaddr

/-- Another record for the station. -/
def setSta (self : Adapter α) (sta : StaInfo α) : Adapter α :=
  { self with
    stas := self.stas.map fun s => if s.macAddr = sta.macAddr then sta else s
    nodup := by
      have hmap : (self.stas.map fun s => if s.macAddr = sta.macAddr then sta else s).map
          StaInfo.macAddr = self.stas.map StaInfo.macAddr := by
        rw [List.map_map]
        refine List.map_congr_left fun s _ => ?_
        by_cases h : s.macAddr = sta.macAddr
        · simp [h]
        · simp [h]
      rw [hmap]
      exact self.nodup }

/-- `rtw_free_recvframe`, `rtw_free_recvframe_queue`. -/
def free (self : Adapter α) (slots : List α) : Adapter α :=
  { self with freed := self.freed ++ slots }

/-- The station in whose queue a frame waits: a management frame of an
unknown one waits in that of the broadcast address. -/
def defragSta (self : Adapter α) (frame : RecvFrameHdr α) : Option (StaInfo α) :=
  match self.getStainfo frame.attrib.ta with
  | some sta => some sta
  | none => if frame.frameType ≠ 8 then self.getStainfo bcAddr else none

end Adapter

/-! ## The receive path -/

section Receive

-- whether the Michael code of the frame is the one for its station's keys
variable (micOk : Bool)

/-- `recvframe_chkmic`. -/
def recvframeChkmic (frame : RecvFrameHdr α) : Option (RecvFrameHdr α) :=
  if frame.attrib.encrypt = .tkip then
    if micOk then some (frame.pullTail 8) else none
  else some frame

/-- The end of `recvframe_chk_defrag`: the frame that it returns. -/
def Adapter.hand (self : Adapter α) (frame : RecvFrameHdr α) : Adapter α :=
  match if frame.attrib.privacy then recvframeChkmic micOk frame else some frame with
  | none => self.free [frame.slot]
  | some frame => { self with returned := self.returned ++ [frame] }

/-- `recvframe_chk_defrag`. -/
def recvframeChkDefrag (self : Adapter α) (frame : RecvFrameHdr α) : Adapter α :=
  if frame.attrib.mfrag = false ∧ frame.attrib.fragNum = 0 then self.hand micOk frame
  else if isMcast frame.attrib.ra then self.free [frame.slot]
  else
    match self.defragSta frame with
    | none => self.free [frame.slot]
    | some sta =>
      let frame := { frame with keytrack := sta.keytrack }
      if frame.attrib.mfrag then
        if frame.attrib.fragNum = 0 then
          (self.free (sta.defragQ.map RecvFrameHdr.slot)).setSta { sta with defragQ := [frame] }
        else self.setSta { sta with defragQ := sta.defragQ ++ [frame] }
      else
        let defragQ := sta.defragQ ++ [frame]
        let self := self.setSta { sta with defragQ := [] }
        match recvframeDefrag defragQ with
        | none => self.free (defragQ.map RecvFrameHdr.slot)
        | some whole => (self.free (defragQ.tail.map RecvFrameHdr.slot)).hand micOk whole

end Receive

/-- What can happen to the queues. -/
inductive DefragEvent (α : Type) where
  | recv (frame : RecvFrameHdr α)
  | setStakey (addr : Bytes)  -- a pairwise key
  | allocStainfo (addr : Bytes)
  | freeStainfo (addr : Bytes)

section Steps

-- the codes of Michael, which depend on keys and payloads
variable (michael : Adapter α → RecvFrameHdr α → Bool)

/-- One event. A station that is there is not allocated again. -/
def defragStep (self : Adapter α) : DefragEvent α → Except (DefragEvent α) (Adapter α)
  | .recv frame => .ok (recvframeChkDefrag (michael self frame) self frame)
  | .setStakey addr =>
    match self.getStainfo addr with
    | none => .ok self
    | some sta => .ok (self.setSta { sta with keytrack := sta.keytrack + 1 })
  | .allocStainfo addr =>
    if h : addr ∈ self.stas.map StaInfo.macAddr then .error (.allocStainfo addr)
    else
      .ok { self with
        stas := ⟨addr, 0, []⟩ :: self.stas
        nodup := List.nodup_cons.mpr ⟨h, self.nodup⟩ }
  | .freeStainfo addr =>
    match self.getStainfo addr with
    | none => .ok self
    | some sta =>
      .ok { self.free (sta.defragQ.map RecvFrameHdr.slot) with
        stas := self.stas.filter fun s => s.macAddr ≠ sta.macAddr
        nodup := self.nodup.sublist (List.filter_sublist.map _) }

def runDefrag (self : Adapter α) (es : List (DefragEvent α)) :
    Except (DefragEvent α) (Adapter α) :=
  Run.run (defragStep michael) self es

end Steps

/-! ## A bench access point -/

def benchAp : Bytes := [2, 0, 0, 0, 0, 1]

/-- A fragment to the drone, with its number for a payload. -/
def benchFragment (ta : Bytes) (fragNum : UInt8) (h : fragNum < 16) (mfrag : Bool) :
    RecvFrameHdr ℕ where
  slot := fragNum.toNat
  attrib :=
    { toFrDs := 2
      dst := [2, 0, 0, 0, 0, 2]
      src := ta
      ra := [2, 0, 0, 0, 0, 2]
      ta := ta
      hdrlen := 24
      ivLen := 8
      icvLen := 8
      encrypt := .aes
      privacy := true
      amsdu := false
      mfrag := mfrag
      fragNum := fragNum
      fragNum_lt := h }
  data := 0x08 :: List.replicate 23 0 ++ [5 + fragNum, 0, 0, 0x20, 0, 0, 0, 0] ++ [fragNum]
    ++ List.replicate 8 0xee
  room := 64
  keytrack := 0

def benchFirst : RecvFrameHdr ℕ := benchFragment benchAp 0 (by decide) true

def benchSecond : RecvFrameHdr ℕ := benchFragment benchAp 1 (by decide) true

def benchLast : RecvFrameHdr ℕ := benchFragment benchAp 2 (by decide) false

/-- The fragments before the last, and one of an unknown station. -/
def benchAir : List (DefragEvent ℕ) :=
  [.allocStainfo benchAp, .setStakey benchAp, .recv benchFirst,
    .recv (benchFragment [2, 0, 0, 0, 0, 3] 0 (by decide) true), .recv benchSecond]

end Specter
