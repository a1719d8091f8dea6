import Mathlib.Data.List.GetD
import Specter.Aes

/-!
# AES-CCM in the Wi-Fi driver

`aes-ccm.c`: a message is combined with the blocks `S_1`, `S_2`, … of
the counter, and its CBC-MAC with `S_0`. Both loops go over whole blocks
and then over what is left of the last one.

What `aes_ccm_ad` opens is exactly what `aes_ccm_ae` makes
(`aesCcmAd_eq_some_iff`): the loop of `aes_ccm_encr` combines the data
with one stream of bytes (`aesCcmEncr_eq`), and the rest is that of any
such sealing.
-/

namespace Specter

open Sealing

/-! ## The functions -/

/-- `AES_BLOCK_SIZE`. -/
def aesBlockSize : ℕ := 16

/-- `L` is 2 throughout. -/
def ccmL : ℕ := 2

/-- What `WPA_PUT_BE16` writes. -/
def putBe16 (val : ℕ) : Bytes := [UInt8.ofNat (val / 256), UInt8.ofNat val]

/-- `dst ^= src`, over the first bytes of `dst`, as many as `src` has. -/
def xorInto (dst src : Bytes) : Bytes := List.zipWith (· ^^^ ·) dst src ++ dst.drop src.length

/-- `xor_aes_block`. -/
def xorAesBlock (dst src : Bytes) : Bytes := xorInto dst (src.take aesBlockSize)

/-- `B_0`. -/
def ccmB0 (M : ℕ) (nonce : Bytes) (aadLen plainLen : ℕ) : Bytes :=
  let adata : UInt8 := if aadLen = 0 then 0 else 0x40
  let flags := adata ||| (UInt8.ofNat ((M - 2) / 2) <<< 3) ||| UInt8.ofNat (ccmL - 1)
  flags :: nonce.take (15 - ccmL) ++ putBe16 plainLen

def aesCcmAuthStart (aes : AesContext) (M : ℕ) (nonce aad : Bytes) (plainLen : ℕ) : Bytes :=
  let x := wpaAesEncrypt aes (ccmB0 M nonce aad.length plainLen)
  if aad.length = 0 then x
  else
    let aadBuf := putBe16 aad.length ++ aad
      ++ List.replicate (2 * aesBlockSize - 2 - aad.length) 0
    let x := wpaAesEncrypt aes (xorAesBlock (aadBuf.take aesBlockSize) x)
    if aad.length > aesBlockSize - 2 then
      wpaAesEncrypt aes (xorAesBlock (aadBuf.drop aesBlockSize) x)
    else x

/-- The loop of `aes_ccm_auth` over `n` blocks: `x`, and where `data` is
then. -/
def ccmAuthBlocks (aes : AesContext) : ℕ → Bytes → Bytes → Bytes × Bytes
  | 0, data, x => (x, data)
  | n + 1, data, x =>
      ccmAuthBlocks aes n (data.drop aesBlockSize) (wpaAesEncrypt aes (xorAesBlock x data))

def aesCcmAuth (aes : AesContext) (data x : Bytes) : Bytes :=
  let last := data.length % aesBlockSize
  let (x, data) := ccmAuthBlocks aes (data.length / aesBlockSize) data x
  if last ≠ 0 then wpaAesEncrypt aes (xorInto x data) else x

/-- `A_i` up to the counter. -/
def aesCcmEncrStart (nonce : Bytes) : Bytes := UInt8.ofNat (ccmL - 1) :: nonce.take (15 - ccmL)

/-- `S_i`. -/
def ccmS (aes : AesContext) (a : Bytes) (i : ℕ) : Bytes := wpaAesEncrypt aes (a ++ putBe16 i)

/-- The loop of `aes_ccm_encr` over `n` blocks from block `i` on, and what
is left of the last one. -/
def ccmEncrBlocks (aes : AesContext) (a : Bytes) : ℕ → ℕ → Bytes → Bytes
  | 0, i, data => if data.length ≠ 0 then List.zipWith (· ^^^ ·) (ccmS aes a i) data else []
  | n + 1, i, data =>
      xorAesBlock (ccmS aes a i) data ++ ccmEncrBlocks aes a n (i + 1) (data.drop aesBlockSize)

def aesCcmEncr (aes : AesContext) (data a : Bytes) : Bytes :=
  ccmEncrBlocks aes a (data.length / aesBlockSize) 1 data

def aesCcmEncrAuth (aes : AesContext) (M : ℕ) (x a : Bytes) : Bytes :=
  List.zipWith (· ^^^ ·) (x.take M) (ccmS aes a 0)

def aesCcmDecrAuth (aes : AesContext) (M : ℕ) (a auth : Bytes) : Bytes :=
  List.zipWith (· ^^^ ·) (auth.take M) (ccmS aes a 0)

/-- `os_memcmp_const`. -/
def osMemcmpConst (a b : Bytes) (len : ℕ) : UInt8 :=
  (List.range len).foldl (fun res i => res ||| (a.getD i 0 ^^^ b.getD i 0)) 0

/-- `aes_ccm_ae`: `crypt` and `auth`. -/
def aesCcmAe (key : Bytes) (keyLen : ℕ) (nonce : Bytes) (M : ℕ) (plain aad : Bytes) :
    Option (Bytes × Bytes) :=
  if aad.length > 30 ∨ M > aesBlockSize then none
  else do
    let aes ← aesEncryptInit key keyLen
    let x := aesCcmAuth aes plain (aesCcmAuthStart aes M nonce aad plain.length)
    let a := aesCcmEncrStart nonce
    some (aesCcmEncr aes plain a, aesCcmEncrAuth aes M x a)

/-- `aes_ccm_ad`: `plain`. -/
def aesCcmAd (key : Bytes) (keyLen : ℕ) (nonce : Bytes) (M : ℕ) (crypt aad auth : Bytes) :
    Option Bytes :=
  if aad.length > 30 ∨ M > aesBlockSize then none
  else do
    let aes ← aesEncryptInit key keyLen
    let a := aesCcmEncrStart nonce
    let t := aesCcmDecrAuth aes M a auth
    let plain := aesCcmEncr aes crypt a
    let x := aesCcmAuth aes plain (aesCcmAuthStart aes M nonce aad crypt.length)
    if osMemcmpConst x t M ≠ 0 then none else some plain

/-! ## One stream of bytes -/

/-- The bytes of the blocks `S_i`, `S_(i+1)`, …, one after the other. -/
def ccmStream (aes : AesContext) (a : Bytes) (i k : ℕ) : UInt8 :=
  (ccmS aes a (i + k / aesBlockSize)).getD (k % aesBlockSize) 0

theorem length_ccmS (aes : AesContext) (a : Bytes) (i : ℕ) : (ccmS aes a i).length = aesBlockSize :=
  length_wpaAesEncrypt aes _

theorem ccmStream_add_block (aes : AesContext) (a : Bytes) (i k : ℕ) :
    ccmStream aes a i (k + aesBlockSize) = ccmStream aes a (i + 1) k := by
  unfold ccmStream
  rw [Nat.add_div_right k (by decide), Nat.add_mod_right, Nat.add_right_comm i 1, Nat.add_assoc]

/-- Less than a block, or all of it, meets `S_i` alone. -/
theorem zipWith_ccmS {aes : AesContext} {a : Bytes} {i : ℕ} {data : Bytes}
    (h : data.length ≤ aesBlockSize) :
    List.zipWith (· ^^^ ·) data (ccmS aes a i) = xorWith (ccmStream aes a i) data := by
  rw [zipWith_xor data _ (by rwa [length_ccmS])]
  refine xorWith_congr fun k hk => ?_
  have hlt : k < aesBlockSize := Nat.lt_of_lt_of_le hk h
  rw [ccmStream, Nat.div_eq_of_lt hlt, Nat.mod_eq_of_lt hlt, Nat.add_zero]

theorem ccmS_zipWith {aes : AesContext} {a : Bytes} {i : ℕ} {data : Bytes}
    (h : data.length ≤ aesBlockSize) :
    List.zipWith (· ^^^ ·) (ccmS aes a i) data = xorWith (ccmStream aes a i) data := by
  rw [List.zipWith_comm_of_comm UInt8.xor_comm, zipWith_ccmS h]

theorem ccmEncrBlocks_eq (aes : AesContext) (a : Bytes) (n i : ℕ) (data : Bytes)
    (h : data.length / aesBlockSize = n) :
    ccmEncrBlocks aes a n i data = xorWith (ccmStream aes a i) data := by
  induction n generalizing i data with
  | zero =>
      have hlt : data.length < aesBlockSize := (Nat.div_eq_zero_iff_lt (by decide)).1 h
      rw [ccmEncrBlocks]
      split
      · exact ccmS_zipWith (Nat.le_of_lt hlt)
      · next hnil => rw [List.eq_nil_of_length_eq_zero (not_not.1 hnil), xorWith_nil]
  | succ n ih =>
      have hle : aesBlockSize ≤ data.length := by
        refine Nat.le_of_not_lt fun hlt => ?_
        rw [Nat.div_eq_of_lt hlt] at h
        exact absurd h n.succ_ne_zero.symm
      have htake : (data.take aesBlockSize).length = aesBlockSize := List.length_take_of_le hle
      have hrest : (data.drop aesBlockSize).length / aesBlockSize = n := by
        rw [List.length_drop]
        unfold aesBlockSize at h hle ⊢
        omega
      rw [ccmEncrBlocks, ih _ _ hrest, xorAesBlock, xorInto, htake,
        List.drop_eq_nil_of_le (Nat.le_of_eq (length_ccmS aes a i)), List.append_nil,
        ccmS_zipWith (Nat.le_of_eq htake)]
      conv_rhs => rw [← List.take_append_drop aesBlockSize data, xorWith_append, htake]
      simp only [ccmStream_add_block]

theorem aesCcmEncr_eq (aes : AesContext) (data a : Bytes) :
    aesCcmEncr aes data a = xorWith (ccmStream aes a 1) data :=
  ccmEncrBlocks_eq aes a _ 1 data rfl

@[simp] theorem length_aesCcmEncr (aes : AesContext) (data a : Bytes) :
    (aesCcmEncr aes data a).length = data.length := by
  rw [aesCcmEncr_eq, length_xorWith]

/-! ## The tag -/

theorem length_ccmAuthBlocks {aes : AesContext} {n : ℕ} {data x : Bytes}
    (h : x.length = aesBlockSize) : (ccmAuthBlocks aes n data x).1.length = aesBlockSize := by
  induction n generalizing data x with
  | zero => exact h
  | succ n ih => exact ih (length_wpaAesEncrypt aes _)

theorem length_aesCcmAuth {aes : AesContext} {data x : Bytes} (h : x.length = aesBlockSize) :
    (aesCcmAuth aes data x).length = aesBlockSize := by
  unfold aesCcmAuth
  dsimp only
  split
  · exact length_wpaAesEncrypt aes _
  · exact length_ccmAuthBlocks h

theorem length_aesCcmAuthStart (aes : AesContext) (M : ℕ) (nonce aad : Bytes) (plainLen : ℕ) :
    (aesCcmAuthStart aes M nonce aad plainLen).length = aesBlockSize := by
  unfold aesCcmAuthStart
  split
  · exact length_wpaAesEncrypt aes _
  · dsimp only
    split <;> exact length_wpaAesEncrypt aes _

/-- The first `M` bytes of the CBC-MAC. -/
def ccmTag (aes : AesContext) (M : ℕ) (nonce aad plain : Bytes) : Bytes :=
  (aesCcmAuth aes plain (aesCcmAuthStart aes M nonce aad plain.length)).take M

theorem osMemcmpConst_eq_zero {a b : Bytes} {len : ℕ} :
    osMemcmpConst a b len = 0 ↔ ∀ i < len, a.getD i 0 = b.getD i 0 := by
  unfold osMemcmpConst
  induction len with
  | zero => simp
  | succ len ih =>
      rw [List.range_succ, List.foldl_append, List.foldl_cons, List.foldl_nil, UInt8.or_eq_zero_iff,
        ih, UInt8.xor_eq_zero_iff]
      exact Nat.forall_lt_succ_right.symm

theorem osMemcmpConst_eq_zero_iff_take {a b : Bytes} {len : ℕ} (ha : len ≤ a.length)
    (hb : b.length = len) : osMemcmpConst a b len = 0 ↔ a.take len = b := by
  rw [osMemcmpConst_eq_zero]
  constructor
  · intro h
    refine List.ext_getElem (by rw [List.length_take_of_le ha, hb]) fun i hi hi' => ?_
    have hlt : i < len := hb ▸ hi'
    have hbyte := h i hlt
    rw [List.getD_eq_getElem _ _ (Nat.lt_of_lt_of_le hlt ha), List.getD_eq_getElem _ _ hi'] at hbyte
    rw [List.getElem_take, hbyte]
  · rintro rfl i hi
    simp only [List.getD_eq_getElem?_getD, List.getElem?_take_of_lt hi]

theorem aesCcmEncrAuth_eq {aes : AesContext} {M : ℕ} (hM : M ≤ aesBlockSize) (x a : Bytes) :
    aesCcmEncrAuth aes M x a = xorWith (ccmStream aes a 0) (x.take M) :=
  zipWith_ccmS (Nat.le_trans (List.length_take_le M x) hM)

theorem aesCcmDecrAuth_eq {aes : AesContext} {M : ℕ} (hM : M ≤ aesBlockSize) {a auth : Bytes}
    (hauth : auth.length = M) : aesCcmDecrAuth aes M a auth = xorWith (ccmStream aes a 0) auth := by
  rw [aesCcmDecrAuth, List.take_of_length_le (Nat.le_of_eq hauth),
    zipWith_ccmS (Nat.le_trans (Nat.le_of_eq hauth) hM)]

/-! ## Sealing and opening -/

section

variable {key nonce crypt aad auth plain : Bytes} {keyLen M : ℕ}

theorem aesCcmAe_eq : aesCcmAe key keyLen nonce M plain aad
    = if aad.length > 30 ∨ M > aesBlockSize then none
      else (aesEncryptInit key keyLen).bind fun aes =>
        let a := aesCcmEncrStart nonce
        some (sealText (ccmStream aes a 1) (ccmStream aes a 0) (ccmTag aes M nonce aad) plain) := by
  unfold aesCcmAe
  split
  · rfl
  next hlim =>
    have hM : M ≤ aesBlockSize := Nat.le_of_not_gt (not_or.1 hlim).2
    simp only [aesCcmEncr_eq, aesCcmEncrAuth_eq hM]
    rfl

theorem aesCcmAd_eq (hauth : auth.length = M) : aesCcmAd key keyLen nonce M crypt aad auth
    = if aad.length > 30 ∨ M > aesBlockSize then none
      else (aesEncryptInit key keyLen).bind fun aes =>
        let a := aesCcmEncrStart nonce
        openText (ccmStream aes a 1) (ccmStream aes a 0) (ccmTag aes M nonce aad)
          (crypt, auth) := by
  unfold aesCcmAd
  split
  · rfl
  next hlim =>
    have hM : M ≤ aesBlockSize := Nat.le_of_not_gt (not_or.1 hlim).2
    refine congrArg (Option.bind _) (funext fun aes => ?_)
    have hx : M ≤ (aesCcmAuth aes (aesCcmEncr aes crypt (aesCcmEncrStart nonce))
        (aesCcmAuthStart aes M nonce aad crypt.length)).length := by
      rwa [length_aesCcmAuth (length_aesCcmAuthStart aes M nonce aad _)]
    have ht := (length_xorWith (ccmStream aes (aesCcmEncrStart nonce) 0) auth).trans hauth
    simp only [aesCcmDecrAuth_eq hM hauth, ite_not, osMemcmpConst_eq_zero_iff_take hx ht]
    simp only [openText, ccmTag, length_xorWith, aesCcmEncr_eq]

theorem length_of_aesCcmAe (h : aesCcmAe key keyLen nonce M plain aad = some (crypt, auth)) :
    crypt.length = plain.length ∧ auth.length = M := by
  unfold aesCcmAe at h
  split at h
  · cases h
  next hlim =>
    obtain ⟨aes, -, hae⟩ := Option.bind_eq_some_iff.1 h
    cases hae
    have hM : M ≤ aesBlockSize := Nat.le_of_not_gt (not_or.1 hlim).2
    have hx : aesBlockSize = (aesCcmAuth aes plain
        (aesCcmAuthStart aes M nonce aad plain.length)).length :=
      (length_aesCcmAuth (length_aesCcmAuthStart aes M nonce aad _)).symm
    exact ⟨length_aesCcmEncr aes _ _,
      by rw [aesCcmEncrAuth_eq hM, length_xorWith, List.length_take_of_le (hx ▸ hM)]⟩

theorem exists_aesCcmAe (key nonce plain : Bytes) (hkey : keyLen = 16 ∨ keyLen = 32)
    (hM : M ≤ aesBlockSize) (haad : aad.length ≤ 30) :
    ∃ sealed, aesCcmAe key keyLen nonce M plain aad = some sealed := by
  have hinit : ∃ aes, aesEncryptInit key keyLen = some aes := by
    obtain rfl | rfl := hkey <;> exact ⟨_, rfl⟩
  obtain ⟨aes, haes⟩ := hinit
  have hlim : ¬(aad.length > 30 ∨ M > aesBlockSize) :=
    not_or.2 ⟨Nat.not_lt.2 haad, Nat.not_lt.2 hM⟩
  rw [aesCcmAe_eq, if_neg hlim, haes]
  exact ⟨_, rfl⟩

/-- `aes_ccm_ad` opens exactly what `aes_ccm_ae` makes. -/
theorem aesCcmAd_eq_some_iff (hauth : auth.length = M) :
    aesCcmAd key keyLen nonce M crypt aad auth = some plain
      ↔ aesCcmAe key keyLen nonce M plain aad = some (crypt, auth) := by
  rw [aesCcmAd_eq hauth, aesCcmAe_eq]
  split
  · exact iff_of_false nofun nofun
  · simp only [Option.bind_eq_some_iff, openText_eq_some_iff, Option.some.injEq]

end

end Specter
