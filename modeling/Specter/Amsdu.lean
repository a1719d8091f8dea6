import Specter.Ccmp
import Specter.Defrag

/-!
# From data frames to packets in the Wi-Fi driver

`recv_process_mpdu` of `rtw_recv.c`, the last step of the receive path:
the packets of a frame get Ethernet headers and go up, or on to another
station, or nowhere. A frame carries one packet (`wlanhdr_to_ethhdr`), or
many, each with addresses and a length before it and padded to a multiple
of four bytes (`amsdu_to_msdu`).

What an access point does with a packet is decided by
`rtw_ap_rx_msdu_act_check` of `rtw_ap.c`. What becomes of a packet that
goes on to another station is no part of this.
-/

namespace Specter

open Sealing (Bytes)

variable {α : Type}

/-! ## Ethernet headers -/

/-- `RTW_GET_BE16`. -/
def getBe16 (buf : Bytes) (i : ℕ) : UInt16 :=
  ((buf.getD i 0).toUInt16 <<< 8) ||| (buf.getD (i + 1) 0).toUInt16

/-- The bytes of `htons(val)`. -/
def htons (val : UInt16) : Bytes := [(val >>> 8).toUInt8, val.toUInt8]

def ethHlen : ℕ := 14

def ethAlen : ℕ := 6

def snapSize : ℕ := 6

def rtwRfc1042Header : Bytes := [0xaa, 0xaa, 0x03, 0x00, 0x00, 0x00]

def rtwBridgeTunnelHeader : Bytes := [0xaa, 0xaa, 0x03, 0x00, 0x00, 0xf8]

def ethPAarp : UInt16 := 0x80f3

def ethPIpx : UInt16 := 0x8137

/-- `rtw_rx_llc_hdl`: whether a packet keeps its LLC header. -/
inductive LlcHdl where
  | keep | remove
deriving DecidableEq

/-- `rtw_recv_llc_parse`. -/
def rtwRecvLlcParse (msdu : Bytes) (msduLen : UInt16) : LlcHdl :=
  if msduLen < 8 then .keep
  else
    let ethType := getBe16 msdu snapSize
    if (msdu.take snapSize = rtwRfc1042Header ∧ ethType ≠ ethPAarp ∧ ethType ≠ ethPIpx)
        ∨ msdu.take snapSize = rtwBridgeTunnelHeader then .remove
    else .keep

/-- The packet number is cut off, where there is one. -/
def RecvFrameHdr.pullIv (frame : RecvFrameHdr α) : RecvFrameHdr α :=
  if 0 < frame.attrib.ivLen then frame.pull frame.attrib.ivLen.toNat else frame

/-- The ICV of an encrypted frame is cut off. -/
def RecvFrameHdr.pullIcv (frame : RecvFrameHdr α) : RecvFrameHdr α :=
  if frame.attrib.encrypt ≠ .noPrivacy then frame.pullTail frame.attrib.icvLen.toNat else frame

/-- `wlanhdr_to_ethhdr`: the header takes the place of the last bytes
before the packet. -/
def wlanhdrToEthhdr (frame : RecvFrameHdr α) (llcHdl : LlcHdl) : Option (RecvFrameHdr α) :=
  let frame := frame.pullIcv
  let rmvLen := frame.attrib.hdrlen.toNat + frame.attrib.ivLen.toNat
    + if llcHdl = .keep then 0 else snapSize
  let len := UInt16.ofNat frame.data.length - UInt16.ofNat rmvLen
  let sz := rmvLen - ethHlen + if llcHdl = .keep then 0 else 2
  if frame.data.length < sz then none
  else
    let frame := frame.pull sz
    let ehdr := frame.attrib.dst ++ frame.attrib.src ++ if llcHdl = .keep then htons len else []
    some { frame with
      data := (ehdr ++ frame.data.drop ehdr.length).take frame.data.length }

/-- `rtw_os_alloc_msdu_pkt`, when there is memory for the packet. -/
def rtwOsAllocMsduPkt (da sa msdu : Bytes) (msduLen : UInt16) (llcHdl : LlcHdl) : Bytes :=
  let data := msdu.take msduLen.toNat
  if llcHdl = .keep then da ++ sa ++ htons msduLen ++ data
  else da ++ sa ++ data.drop snapSize

/-! ## Where a packet goes -/

/-- `RTW_RX_MSDU_ACT_INDICATE` and `RTW_RX_MSDU_ACT_FORWARD`. -/
structure Act where
  indicate : Bool
  forward : Bool
deriving DecidableEq

def Act.none : Act := ⟨false, false⟩

/-- What the adapter knows of its network. -/
structure Bss where
  isAp : Bool  -- `MLME_IS_AP`
  mac : Bytes
  amsduMode : AmsduMode
  privacy : Bool  -- whether `dot11PrivacyAlgrthm` is not `_NO_PRIVACY_`
  apIsolate : Bool
  stas : List Bytes
  asocListCnt : ℕ
  xmit : Bytes → Bytes → Bool  -- whether there are frames to send a packet on in

/-- `rtw_ap_rx_msdu_act_check`. -/
def rtwApRxMsduActCheck (bss : Bss) (da sa : Bytes) : Act :=
  if sa = bss.mac then .none
  else
    let fwdChk := !bss.apIsolate && 1 < bss.asocListCnt && bss.xmit da sa
    if isMcast da then ⟨true, fwdChk⟩
    else if da = bss.mac then ⟨true, false⟩
    else if bss.stas.contains da then ⟨false, fwdChk⟩
    else ⟨true, fwdChk⟩

/-- What both kinds of frames go by. A station has everything indicated. -/
def rxMsduAct (bss : Bss) (da sa : Bytes) : Act :=
  if bss.isAp then rtwApRxMsduActCheck bss da sa else ⟨true, false⟩

/-! ## Aggregates -/

/-- `validate_amsdu_content`. -/
def validateAmsduContent (bss : Bss) (attrib : RxPktAttrib) (da sa : Bytes) : Bool :=
  if bss.amsduMode = .nonSpp ∧ bss.privacy then
    !(attrib.toFrDs = 2 ∧ da ≠ attrib.ra) && !(attrib.toFrDs = 1 ∧ sa ≠ attrib.ta)
      && !(da = rtwRfc1042Header)
  else true

def maxSubframeCount : ℕ := 64

section Receive

-- whether there is memory for the packet of the subframe that begins so
variable (mem : Bytes → Bool) (bss : Bss) (attrib : RxPktAttrib)

/-- What is made of one subframe: `none` where the loop ends for lack of
memory. -/
def subframe (pdata da sa msdu : Bytes) (nSubframeLength : UInt16) : Option (List (Act × Bytes)) :=
  let act := rxMsduAct bss da sa
  if act = .none then some []
  else if mem pdata then
    some [(act, rtwOsAllocMsduPkt da sa msdu nSubframeLength
      (rtwRecvLlcParse msdu nSubframeLength))]
  else none

/-- Packets that go up. -/
def indicated (packets : List (Act × Bytes)) : List Bytes :=
  (packets.filter fun packet => packet.1.indicate).map Prod.snd

/-- The loop of `amsdu_to_msdu`: `nrSubframes` packets are to go up
already. -/
def amsduLoop (nrSubframes : ℕ) (pdata : Bytes) : List (Act × Bytes) :=
  if pdata.length ≤ ethHlen then []
  else
    let nSubframeLength := getBe16 pdata (2 * ethAlen)
    if pdata.length < ethHlen + nSubframeLength.toNat then []
    else
      let da := pdata.take ethAlen
      let sa := (pdata.drop ethAlen).take ethAlen
      if validateAmsduContent bss attrib da sa = false then []
      else
        match subframe mem bss pdata da sa (pdata.drop ethHlen) nSubframeLength with
        | none => []
        | some packets =>
          let nrSubframes := nrSubframes + (indicated packets).length
          if maxSubframeCount ≤ nrSubframes then packets
          else
            let rest := pdata.drop (ethHlen + nSubframeLength.toNat)
            let paddingLen := (4 - (nSubframeLength.toNat + ethHlen) % 4) % 4
            if rest ≠ [] ∧ rest.length < paddingLen then packets
            else packets ++ amsduLoop nrSubframes (rest.drop paddingLen)
termination_by pdata.length
decreasing_by
  have : 0 < ethHlen := by decide
  simp only [List.length_drop]
  omega

/-- `amsdu_to_msdu`. -/
def amsduToMsdu (frame : RecvFrameHdr α) : List (Act × Bytes) :=
  let frame := (frame.pull frame.attrib.hdrlen.toNat).pullIv.pullIcv
  amsduLoop mem bss frame.attrib 0 frame.data

/-- `recv_process_mpdu`: the packets of a frame, and where they go. -/
def recvProcessMpdu (frame : RecvFrameHdr α) : List (Act × Bytes) :=
  if frame.attrib.amsdu then amsduToMsdu mem bss frame
  else
    let offset := frame.attrib.hdrlen.toNat + frame.attrib.ivLen.toNat
    let icvLen := if frame.attrib.encrypt ≠ .noPrivacy then frame.attrib.icvLen.toNat else 0
    let msduLen := UInt16.ofNat frame.data.length - UInt16.ofNat offset - UInt16.ofNat icvLen
    let llcHdl := rtwRecvLlcParse (frame.data.drop offset) msduLen
    let act := rxMsduAct bss frame.attrib.dst frame.attrib.src
    if act = .none then []
    else
      match wlanhdrToEthhdr frame llcHdl with
      | none => []
      | some frame => [(act, frame.data)]

end Receive

/-! ## A bench access point -/

def benchBss : Bss where
  isAp := true
  mac := benchAp
  amsduMode := .nonSpp
  privacy := true
  apIsolate := false
  stas := [[2, 0, 0, 0, 0, 2], [2, 0, 0, 0, 0, 3]]
  asocListCnt := 2
  xmit _ _ := true

/-- A frame from a station to the access point. -/
def benchData (amsdu : Bool) (dst src data : Bytes) : RecvFrameHdr ℕ :=
  { benchFirst with
    attrib :=
      { benchFirst.attrib with
        toFrDs := 1
        dst := dst
        src := src
        ra := benchAp
        ta := [2, 0, 0, 0, 0, 2]
        hdrlen := 26
        amsdu := amsdu
        mfrag := false }
    data := data }

end Specter
