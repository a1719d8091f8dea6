import Specter.Lib.Sealing

/-!
# The block cipher of the Wi-Fi driver

AES encryption as `aes-internal.c` and `aes-internal-enc.c` compute it,
with the small tables (`AES_SMALL_TABLES`): one table of words, rotated.
`os_malloc` is taken to succeed.
-/

namespace Specter

open Sealing (Bytes)

/-- `Te0`, sixteen entries to a row. -/
def te0Table : List (List UInt32) := [
  [0xc66363a5, 0xf87c7c84, 0xee777799, 0xf67b7b8d, 0xfff2f20d, 0xd66b6bbd, 0xde6f6fb1, 0x91c5c554,
    0x60303050, 0x02010103, 0xce6767a9, 0x562b2b7d, 0xe7fefe19, 0xb5d7d762, 0x4dababe6, 0xec76769a],
  [0x8fcaca45, 0x1f82829d, 0x89c9c940, 0xfa7d7d87, 0xeffafa15, 0xb25959eb, 0x8e4747c9, 0xfbf0f00b,
    0x41adadec, 0xb3d4d467, 0x5fa2a2fd, 0x45afafea, 0x239c9cbf, 0x53a4a4f7, 0xe4727296, 0x9bc0c05b],
  [0x75b7b7c2, 0xe1fdfd1c, 0x3d9393ae, 0x4c26266a, 0x6c36365a, 0x7e3f3f41, 0xf5f7f702, 0x83cccc4f,
    0x6834345c, 0x51a5a5f4, 0xd1e5e534, 0xf9f1f108, 0xe2717193, 0xabd8d873, 0x62313153, 0x2a15153f],
  [0x0804040c, 0x95c7c752, 0x46232365, 0x9dc3c35e, 0x30181828, 0x379696a1, 0x0a05050f, 0x2f9a9ab5,
    0x0e070709, 0x24121236, 0x1b80809b, 0xdfe2e23d, 0xcdebeb26, 0x4e272769, 0x7fb2b2cd, 0xea75759f],
  [0x1209091b, 0x1d83839e, 0x582c2c74, 0x341a1a2e, 0x361b1b2d, 0xdc6e6eb2, 0xb45a5aee, 0x5ba0a0fb,
    0xa45252f6, 0x763b3b4d, 0xb7d6d661, 0x7db3b3ce, 0x5229297b, 0xdde3e33e, 0x5e2f2f71, 0x13848497],
  [0xa65353f5, 0xb9d1d168, 0x00000000, 0xc1eded2c, 0x40202060, 0xe3fcfc1f, 0x79b1b1c8, 0xb65b5bed,
    0xd46a6abe, 0x8dcbcb46, 0x67bebed9, 0x7239394b, 0x944a4ade, 0x984c4cd4, 0xb05858e8, 0x85cfcf4a],
  [0xbbd0d06b, 0xc5efef2a, 0x4faaaae5, 0xedfbfb16, 0x864343c5, 0x9a4d4dd7, 0x66333355, 0x11858594,
    0x8a4545cf, 0xe9f9f910, 0x04020206, 0xfe7f7f81, 0xa05050f0, 0x783c3c44, 0x259f9fba, 0x4ba8a8e3],
  [0xa25151f3, 0x5da3a3fe, 0x804040c0, 0x058f8f8a, 0x3f9292ad, 0x219d9dbc, 0x70383848, 0xf1f5f504,
    0x63bcbcdf, 0x77b6b6c1, 0xafdada75, 0x42212163, 0x20101030, 0xe5ffff1a, 0xfdf3f30e, 0xbfd2d26d],
  [0x81cdcd4c, 0x180c0c14, 0x26131335, 0xc3ecec2f, 0xbe5f5fe1, 0x359797a2, 0x884444cc, 0x2e171739,
    0x93c4c457, 0x55a7a7f2, 0xfc7e7e82, 0x7a3d3d47, 0xc86464ac, 0xba5d5de7, 0x3219192b, 0xe6737395],
  [0xc06060a0, 0x19818198, 0x9e4f4fd1, 0xa3dcdc7f, 0x44222266, 0x542a2a7e, 0x3b9090ab, 0x0b888883,
    0x8c4646ca, 0xc7eeee29, 0x6bb8b8d3, 0x2814143c, 0xa7dede79, 0xbc5e5ee2, 0x160b0b1d, 0xaddbdb76],
  [0xdbe0e03b, 0x64323256, 0x743a3a4e, 0x140a0a1e, 0x924949db, 0x0c06060a, 0x4824246c, 0xb85c5ce4,
    0x9fc2c25d, 0xbdd3d36e, 0x43acacef, 0xc46262a6, 0x399191a8, 0x319595a4, 0xd3e4e437, 0xf279798b],
  [0xd5e7e732, 0x8bc8c843, 0x6e373759, 0xda6d6db7, 0x018d8d8c, 0xb1d5d564, 0x9c4e4ed2, 0x49a9a9e0,
    0xd86c6cb4, 0xac5656fa, 0xf3f4f407, 0xcfeaea25, 0xca6565af, 0xf47a7a8e, 0x47aeaee9, 0x10080818],
  [0x6fbabad5, 0xf0787888, 0x4a25256f, 0x5c2e2e72, 0x381c1c24, 0x57a6a6f1, 0x73b4b4c7, 0x97c6c651,
    0xcbe8e823, 0xa1dddd7c, 0xe874749c, 0x3e1f1f21, 0x964b4bdd, 0x61bdbddc, 0x0d8b8b86, 0x0f8a8a85],
  [0xe0707090, 0x7c3e3e42, 0x71b5b5c4, 0xcc6666aa, 0x904848d8, 0x06030305, 0xf7f6f601, 0x1c0e0e12,
    0xc26161a3, 0x6a35355f, 0xae5757f9, 0x69b9b9d0, 0x17868691, 0x99c1c158, 0x3a1d1d27, 0x279e9eb9],
  [0xd9e1e138, 0xebf8f813, 0x2b9898b3, 0x22111133, 0xd26969bb, 0xa9d9d970, 0x078e8e89, 0x339494a7,
    0x2d9b9bb6, 0x3c1e1e22, 0x15878792, 0xc9e9e920, 0x87cece49, 0xaa5555ff, 0x50282878, 0xa5dfdf7a],
  [0x038c8c8f, 0x59a1a1f8, 0x09898980, 0x1a0d0d17, 0x65bfbfda, 0xd7e6e631, 0x844242c6, 0xd06868b8,
    0x824141c3, 0x299999b0, 0x5a2d2d77, 0x1e0f0f11, 0x7bb0b0cb, 0xa85454fc, 0x6dbbbbd6, 0x2c16163a]]

/-! ## Words -/

/-- `GETU32(pt + i)`. -/
def getU32 (pt : Bytes) (i : ℕ) : UInt32 :=
  ((pt.getD i 0).toUInt32 <<< 24) ^^^ ((pt.getD (i + 1) 0).toUInt32 <<< 16)
    ^^^ ((pt.getD (i + 2) 0).toUInt32 <<< 8) ^^^ (pt.getD (i + 3) 0).toUInt32

/-- What `PUTU32` writes. -/
def putU32 (st : UInt32) : Bytes :=
  [(st >>> 24).toUInt8, (st >>> 16).toUInt8, (st >>> 8).toUInt8, st.toUInt8]

def rotr (val bits : UInt32) : UInt32 := (val >>> bits) ||| (val <<< (32 - bits))

/-- The entry of `Te0` for the byte of `i` at bit `shift`. -/
def te0At (i shift : UInt32) : UInt32 :=
  let byte := ((i >>> shift) &&& 0xff).toNat
  (te0Table.getD (byte / 16) []).getD (byte % 16) 0

def te0 (i : UInt32) : UInt32 := te0At i 24

def te1 (i : UInt32) : UInt32 := rotr (te0At i 16) 8

def te2 (i : UInt32) : UInt32 := rotr (te0At i 8) 16

def te3 (i : UInt32) : UInt32 := rotr (te0At i 0) 24

def te41 (i : UInt32) : UInt32 := (te0At i 24 <<< 8) &&& 0xff000000

def te42 (i : UInt32) : UInt32 := te0At i 16 &&& 0x00ff0000

def te43 (i : UInt32) : UInt32 := te0At i 8 &&& 0x0000ff00

def te44 (i : UInt32) : UInt32 := (te0At i 0 >>> 8) &&& 0x000000ff

def te421 (i : UInt32) : UInt32 := (te0At i 16 <<< 8) &&& 0xff000000

def te432 (i : UInt32) : UInt32 := te0At i 8 &&& 0x00ff0000

def te443 (i : UInt32) : UInt32 := te0At i 0 &&& 0x0000ff00

def te414 (i : UInt32) : UInt32 := (te0At i 24 >>> 8) &&& 0x000000ff

def te411 (i : UInt32) : UInt32 := (te0At i 24 <<< 8) &&& 0xff000000

def te422 (i : UInt32) : UInt32 := te0At i 16 &&& 0x00ff0000

def te433 (i : UInt32) : UInt32 := te0At i 8 &&& 0x0000ff00

def te444 (i : UInt32) : UInt32 := (te0At i 0 >>> 8) &&& 0x000000ff

def rcons : List UInt32 := [0x01, 0x02, 0x04, 0x08, 0x10, 0x20, 0x40, 0x80, 0x1b, 0x36]

/-- `RCON(i)`. -/
def rcon (i : ℕ) : UInt32 := rcons.getD i 0 <<< 24

/-! ## The key schedule

The words of `rk` so far are a list; the source's `rk` points into it. -/

/-- The step all three schedules share. -/
def scheduleCore (temp : UInt32) (i : ℕ) : UInt32 :=
  te421 temp ^^^ te432 temp ^^^ te443 temp ^^^ te414 temp ^^^ rcon i

/-- One turn of the loop for 128 bits. -/
def keySetup128 (rk : List UInt32) (i : ℕ) : List UInt32 :=
  let at_ := fun k => rk.getD (4 * i + k) 0
  let r4 := at_ 0 ^^^ scheduleCore (at_ 3) i
  let r5 := at_ 1 ^^^ r4
  let r6 := at_ 2 ^^^ r5
  let r7 := at_ 3 ^^^ r6
  rk ++ [r4, r5, r6, r7]

/-- One turn of the loop for 192 bits; the last one returns half way. -/
def keySetup192 (rk : List UInt32) (i : ℕ) : List UInt32 :=
  let at_ := fun k => rk.getD (6 * i + k) 0
  let r6 := at_ 0 ^^^ scheduleCore (at_ 5) i
  let r7 := at_ 1 ^^^ r6
  let r8 := at_ 2 ^^^ r7
  let r9 := at_ 3 ^^^ r8
  if i = 7 then rk ++ [r6, r7, r8, r9]
  else
    let r10 := at_ 4 ^^^ r9
    let r11 := at_ 5 ^^^ r10
    rk ++ [r6, r7, r8, r9, r10, r11]

/-- One turn of the loop for 256 bits; the last one returns half way. -/
def keySetup256 (rk : List UInt32) (i : ℕ) : List UInt32 :=
  let at_ := fun k => rk.getD (8 * i + k) 0
  let r8 := at_ 0 ^^^ scheduleCore (at_ 7) i
  let r9 := at_ 1 ^^^ r8
  let r10 := at_ 2 ^^^ r9
  let r11 := at_ 3 ^^^ r10
  if i = 6 then rk ++ [r8, r9, r10, r11]
  else
    let r12 := at_ 4 ^^^ te411 r11 ^^^ te422 r11 ^^^ te433 r11 ^^^ te444 r11
    let r13 := at_ 5 ^^^ r12
    let r14 := at_ 6 ^^^ r13
    let r15 := at_ 7 ^^^ r14
    rk ++ [r8, r9, r10, r11, r12, r13, r14, r15]

/-- The context of `aes_encrypt_init`: `rk`, and at its end the rounds. -/
structure AesContext where
  rk : List UInt32
  nr : ℕ
deriving DecidableEq

/-- The words of the key itself. -/
def keyWords (cipherKey : Bytes) (n : ℕ) : List UInt32 :=
  (List.range n).map fun k => getU32 cipherKey (4 * k)

def rijndaelKeySetupEnc (cipherKey : Bytes) (keyBits : ℕ) : Option AesContext :=
  match keyBits with
  | 128 => some ⟨(List.range 10).foldl keySetup128 (keyWords cipherKey 4), 10⟩
  | 192 => some ⟨(List.range 8).foldl keySetup192 (keyWords cipherKey 6), 12⟩
  | 256 => some ⟨(List.range 7).foldl keySetup256 (keyWords cipherKey 8), 14⟩
  | _ => none

def aesEncryptInit (key : Bytes) (len : ℕ) : Option AesContext :=
  rijndaelKeySetupEnc key (len * 8)

/-! ## A block -/

/-- `s0` to `s3`, or `t0` to `t3`. -/
structure CipherState where
  w0 : UInt32
  w1 : UInt32
  w2 : UInt32
  w3 : UInt32

/-- `ROUND(i, d, s)`. -/
def cipherRound (rk : List UInt32) (i : ℕ) (s : CipherState) : CipherState where
  w0 := te0 s.w0 ^^^ te1 s.w1 ^^^ te2 s.w2 ^^^ te3 s.w3 ^^^ rk.getD (4 * i) 0
  w1 := te0 s.w1 ^^^ te1 s.w2 ^^^ te2 s.w3 ^^^ te3 s.w0 ^^^ rk.getD (4 * i + 1) 0
  w2 := te0 s.w2 ^^^ te1 s.w3 ^^^ te2 s.w0 ^^^ te3 s.w1 ^^^ rk.getD (4 * i + 2) 0
  w3 := te0 s.w3 ^^^ te1 s.w0 ^^^ te2 s.w1 ^^^ te3 s.w2 ^^^ rk.getD (4 * i + 3) 0

/-- The loop of full rounds, `r` times round: the state `t` and `rk` where
it breaks. -/
def fullRounds : ℕ → List UInt32 → CipherState → CipherState × List UInt32
  | 0, rk, s => (s, rk)
  | 1, rk, s => (cipherRound rk 1 s, rk.drop 8)
  | r + 2, rk, s => fullRounds (r + 1) (rk.drop 8) (cipherRound (rk.drop 8) 0 (cipherRound rk 1 s))

/-- `rijndaelEncrypt`. -/
def rijndaelEncrypt (rk : List UInt32) (nr : ℕ) (pt : Bytes) : Bytes :=
  let s : CipherState :=
    ⟨getU32 pt 0 ^^^ rk.getD 0 0, getU32 pt 4 ^^^ rk.getD 1 0,
      getU32 pt 8 ^^^ rk.getD 2 0, getU32 pt 12 ^^^ rk.getD 3 0⟩
  let (t, rk) := fullRounds (nr / 2) rk s
  putU32 (te41 t.w0 ^^^ te42 t.w1 ^^^ te43 t.w2 ^^^ te44 t.w3 ^^^ rk.getD 0 0)
    ++ putU32 (te41 t.w1 ^^^ te42 t.w2 ^^^ te43 t.w3 ^^^ te44 t.w0 ^^^ rk.getD 1 0)
    ++ putU32 (te41 t.w2 ^^^ te42 t.w3 ^^^ te43 t.w0 ^^^ te44 t.w1 ^^^ rk.getD 2 0)
    ++ putU32 (te41 t.w3 ^^^ te42 t.w0 ^^^ te43 t.w1 ^^^ te44 t.w2 ^^^ rk.getD 3 0)

def wpaAesEncrypt (ctx : AesContext) (plain : Bytes) : Bytes :=
  rijndaelEncrypt ctx.rk ctx.nr plain

@[simp] theorem length_wpaAesEncrypt (ctx : AesContext) (plain : Bytes) :
    (wpaAesEncrypt ctx plain).length = 16 := rfl

/-- A key of 128 bits, the bytes counted up from 0. -/
example : (aesEncryptInit ((List.range 16).map UInt8.ofNat) 16).map
    (wpaAesEncrypt · ((List.range 16).map fun i => UInt8.ofNat (i * 0x11)))
      = some [0x69, 0xc4, 0xe0, 0xd8, 0x6a, 0x7b, 0x04, 0x30, 0xd8, 0xcd, 0xb7, 0x80, 0x70, 0xb4,
        0xc5, 0x5a] := by decide +kernel

end Specter
