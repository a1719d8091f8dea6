import Specter.Ccm

/-!
# CCMP in the Wi-Fi driver

`ccmp.c`, the wrappers of `rtw_swcrypto.c` that work on the frame in its
buffer, and the packet number each packet takes (`AES_IV`). The two
ciphers differ in the length of the key and of the MIC.

The nonce and what is authenticated beside the payload
(`ccmp_aad_nonce`) come from the header, less the bits that may change
between two transmissions of a frame.
-/

namespace Specter

open Sealing

/-! ## Headers -/

/-- `amsdu_mode` of `registry_priv`. -/
inductive AmsduMode where
  | nonSpp | spp | allDrop
deriving DecidableEq

def getLe16 (buf : Bytes) (i : ℕ) : UInt16 :=
  (buf.getD i 0).toUInt16 ||| ((buf.getD (i + 1) 0).toUInt16 <<< 8)

/-- What `WPA_PUT_LE16` writes. -/
def putLe16 (val : UInt16) : Bytes := [val.toUInt8, (val >>> 8).toUInt8]

/-- The bytes `memcpy` takes from `buf + i`. -/
def bytesAt (buf : Bytes) (i n : ℕ) : Bytes := (List.range n).map fun k => buf.getD (i + k) 0

def wlanFcToFromDs : UInt16 := 0x0300

def wlanFcIsWep : UInt16 := 0x4000

def wlanFcOrder : UInt16 := 0x8000

/-- Retry, power management and more data. -/
def wlanFcMutable : UInt16 := 0x3800

/-- `fc & RTW_IEEE80211_FCTL_FTYPE`. -/
def wlanFcGetType (fc : UInt16) : UInt16 := fc &&& 0x000c

def wlanFcTypeMgmt : UInt16 := 0x0000

def wlanFcTypeData : UInt16 := 0x0008

/-- All four addresses are there. -/
def hasAddr4 (fc : UInt16) : Bool := fc &&& wlanFcToFromDs = wlanFcToFromDs

def isQosData (fc : UInt16) : Bool := wlanFcGetType fc = wlanFcTypeData ∧ fc &&& 0x0080 ≠ 0

/-- The frame control field as it is authenticated. -/
def aadFc (fc : UInt16) : UInt16 :=
  let masked :=
    if wlanFcGetType fc = wlanFcTypeData then
      let data := fc &&& ~~~0x0070  -- the subtype, up to its QoS bit
      if isQosData fc then data &&& ~~~wlanFcOrder else data
    else fc
  masked &&& ~~~wlanFcMutable ||| wlanFcIsWep

/-- Where the QoS control field is. -/
def qosOffset (fc : UInt16) : ℕ := if hasAddr4 fc then 30 else 24

def aadQos (mode : AmsduMode) (qc : UInt8) : UInt8 :=
  let qc := qc &&& ~~~0x70
  if mode ≠ .spp then qc &&& ~~~0x80 else qc

def nonceFlags (fc : UInt16) (qc : UInt8) : UInt8 :=
  if isQosData fc then qc &&& 0x0f
  else if wlanFcGetType fc = wlanFcTypeMgmt then 0x10
  else 0

/-- `ccmp_aad_nonce`: `aad` as long as `aad_len`, and `nonce`. `hdr` is
the buffer from the header on, `data` from the packet number on. -/
def ccmpAadNonce (mode : AmsduMode) (hdr data : Bytes) : Bytes × Bytes :=
  let fc := getLe16 hdr 0
  let qc := hdr.getD (qosOffset fc) 0
  let aad := putLe16 (aadFc fc) ++ bytesAt hdr 4 18 ++ putLe16 (getLe16 hdr 22 &&& ~~~0xfff0)
    ++ (if hasAddr4 fc then bytesAt hdr 24 6 else [])
    ++ (if isQosData fc then [aadQos mode qc, 0] else [])
  let nonce := nonceFlags fc qc :: bytesAt hdr 10 6
    ++ [data.getD 7 0, data.getD 6 0, data.getD 5 0, data.getD 4 0, data.getD 1 0, data.getD 0 0]
  (aad, nonce)

/-! ## Frames -/

/-- `hdr->frame_control |= WLAN_FC_ISWEP`. -/
def setProtected (hdr : Bytes) : Bytes := putLe16 (getLe16 hdr 0 ||| wlanFcIsWep) ++ hdr.drop 2

/-- `ccmp_decrypt` and `ccmp_256_decrypt`: `data` is the packet number, the
payload and the MIC of `M` bytes. -/
def ccmpOpen (keyLen M : ℕ) (mode : AmsduMode) (tk hdr data : Bytes) : Option Bytes :=
  if data.length < 8 + M then none
  else
    let mlen := data.length - 8 - M
    let (aad, nonce) := ccmpAadNonce mode hdr data
    aesCcmAd tk keyLen nonce M ((data.drop 8).take mlen) aad (data.drop (8 + mlen))

def ccmpDecrypt : AmsduMode → Bytes → Bytes → Bytes → Option Bytes := ccmpOpen 16 8

def ccmp256Decrypt : AmsduMode → Bytes → Bytes → Bytes → Option Bytes := ccmpOpen 32 16

def ccmpGetPn (data : Bytes) : Bytes :=
  [data.getD 7 0, data.getD 6 0, data.getD 5 0, data.getD 4 0, data.getD 1 0, data.getD 0 0]

/-- The eight bytes `ccmp_encrypt` writes for the packet number `pn`. -/
def ccmpHdr (pn : Bytes) (keyid : ℕ) : Bytes :=
  let keyByte := (0x20 : UInt8) ||| (UInt8.ofNat keyid <<< 6)
  [pn.getD 5 0, pn.getD 4 0, 0x00, keyByte, pn.getD 3 0, pn.getD 2 0, pn.getD 1 0, pn.getD 0 0]

/-- `ccmp_encrypt` and `ccmp_256_encrypt`: without `pn` the packet number
is in the frame already, and `len` leaves it out. -/
def ccmpSeal (keyLen M : ℕ) (mode : AmsduMode) (tk frame : Bytes) (len hdrlen : ℕ)
    (pn : Option Bytes) (keyid : ℕ) : Option Bytes :=
  if len < hdrlen ∨ hdrlen < 24 then none
  else do
    let plen := len - hdrlen
    let (crypt, pdata) := match pn with
      | none => (setProtected (frame.take (hdrlen + 8)), (frame.drop (hdrlen + 8)).take plen)
      | some pn =>
          (setProtected (frame.take hdrlen) ++ ccmpHdr pn keyid, (frame.drop hdrlen).take plen)
    let (aad, nonce) := ccmpAadNonce mode crypt (crypt.drop hdrlen)
    let (body, mic) ← aesCcmAe tk keyLen nonce M pdata aad
    some (crypt ++ body ++ mic)

def ccmpEncrypt : AmsduMode → Bytes → Bytes → ℕ → ℕ → Option Bytes → ℕ → Option Bytes :=
  ccmpSeal 16 8

def ccmp256Encrypt : AmsduMode → Bytes → Bytes → ℕ → ℕ → Option Bytes → ℕ → Option Bytes :=
  ccmpSeal 32 16

/-- `_rtw_ccmp_encrypt`: the buffer `frame` afterwards, `none` for
`_FAIL`. -/
def rtwCcmpEncrypt (mode : AmsduMode) (key : Bytes) (keyLen hdrlen : ℕ) (frame : Bytes)
    (plen : ℕ) : Option Bytes :=
  let enc :=
    if keyLen = 16 then ccmpEncrypt mode key frame (hdrlen + plen) hdrlen none 0
    else if keyLen = 32 then ccmp256Encrypt mode key frame (hdrlen + plen) hdrlen none 0
    else none
  enc.map fun enc => enc ++ frame.drop enc.length

/-- `_rtw_ccmp_decrypt`: `plen` is the length of the frame here. -/
def rtwCcmpDecrypt (mode : AmsduMode) (key : Bytes) (keyLen hdrlen : ℕ) (frame : Bytes)
    (plen : ℕ) : Option Bytes :=
  let data := (frame.take plen).drop hdrlen
  let plain :=
    if keyLen = 16 then ccmpDecrypt mode key frame data
    else if keyLen = 32 then ccmp256Decrypt mode key frame data
    else none
  plain.map fun plain => frame.take (hdrlen + 8) ++ plain ++ frame.drop (hdrlen + 8 + plain.length)

/-! ## Packet numbers -/

/-- `AES_IV`, for the counter `dot11txpn` of a station: the counter
afterwards, and the eight bytes that go into the frame. -/
def aesIv (dot11txpn : UInt64) (keyidx : UInt8) : UInt64 × Bytes :=
  let pn := if dot11txpn = 0xffffffffffff then 0 else dot11txpn + 1
  let keyByte := (0x20 : UInt8) ||| ((keyidx &&& 0x3) <<< 6)
  (pn, [pn.toUInt8, (pn >>> 8).toUInt8, 0, keyByte, (pn >>> 16).toUInt8, (pn >>> 24).toUInt8,
    (pn >>> 32).toUInt8, (pn >>> 40).toUInt8])

/-- The nonces of packets to one station, each with its header and key
index, in the order in which they get their packet numbers. -/
def nonces (mode : AmsduMode) : UInt64 → List (Bytes × UInt8) → List Bytes
  | _, [] => []
  | dot11txpn, (hdr, keyidx) :: packets =>
      let (dot11txpn, iv) := aesIv dot11txpn keyidx
      (ccmpAadNonce mode hdr iv).2 :: nonces mode dot11txpn packets

end Specter
