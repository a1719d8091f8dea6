import Mathlib.Algebra.Group.Nat.Defs
import Mathlib.Data.List.Nodup
import Specter.Ccmp

/-!
# CCMP frames

Sealing and opening of frames are inverse to each other in the buffer
(`sealed_opens`, `opened_was_sealed`), and opening does not look at what
may change between two transmissions of a frame (`opens_alike`). The
nonces of a station do not come again before its packet number has gone
round (`nonces_nodup`).
-/

namespace Specter

open Sealing

/-! ## Bits -/

theorem getLe16_putLe16 (val : UInt16) (rest : Bytes) : getLe16 (putLe16 val ++ rest) 0 = val := by
  change val.toUInt8.toUInt16 ||| ((val >>> 8).toUInt8.toUInt16 <<< 8) = val
  refine UInt16.toBitVec_inj.1 ?_
  simp only [UInt16.toBitVec_or, UInt16.toBitVec_shiftLeft, UInt8.toBitVec_toUInt16,
    UInt16.toBitVec_toUInt8, UInt16.toBitVec_shiftRight]
  ext i hi
  rcases Nat.lt_or_ge i 8 with hlow | hhigh
  · simp [BitVec.getElem_setWidth, hlow, BitVec.getLsbD_eq_getElem hi]
  · have hsub : i - 8 < 8 := by omega
    simp [BitVec.getElem_setWidth, Nat.not_lt.2 hhigh, hsub, Nat.add_sub_cancel' hhigh,
      BitVec.getLsbD_eq_getElem hi]

/-- What agrees on the bits of `m` agrees on some of them. -/
theorem and_eq_of_and_eq {a b m k : UInt16} (h : a &&& m = b &&& m) (hk : m &&& k = k) :
    a &&& k = b &&& k := by
  rw [← hk, ← UInt16.and_assoc, ← UInt16.and_assoc, h]

theorem and_or_absorb (x k m : UInt16) : x &&& (k ||| m) ||| m = x &&& k ||| m := by
  refine UInt16.toBitVec_inj.1 ?_
  ext i hi
  simp only [UInt16.toBitVec_or, UInt16.toBitVec_and, BitVec.getElem_or, BitVec.getElem_and]
  cases x.toBitVec[i] <;> cases k.toBitVec[i] <;> cases m.toBitVec[i] <;> rfl

theorem or_and_eq_of_disjoint {x m k : UInt16} (h : m &&& k = 0) : (x ||| m) &&& k = x &&& k := by
  have hdist : (x ||| m) &&& k = x &&& k ||| m &&& k :=
    UInt16.toBitVec_inj.1 BitVec.and_or_distrib_right
  rw [hdist, h, UInt16.or_zero]

/-- Writing other bits does not change those of `k`. -/
theorem merge_and {x f m k : UInt16} (hm : m &&& k = 0) (hk : ~~~m &&& k = k) :
    (x &&& ~~~m ||| (f &&& m)) &&& k = x &&& k := by
  have hf : f &&& m &&& k = 0 := by rw [UInt16.and_assoc, hm, UInt16.and_zero]
  rw [or_and_eq_of_disjoint hf, UInt16.and_assoc, hk]

section

/-! `0x87ff` is what the mutable bits and the protected bit leave. -/

variable {fc fc' : UInt16} (h : fc &&& 0x87ff = fc' &&& 0x87ff)

include h

theorem wlanFcGetType_congr : wlanFcGetType fc = wlanFcGetType fc' := and_eq_of_and_eq h (by decide)

theorem isQosData_congr : isQosData fc = isQosData fc' := by
  unfold isQosData
  rw [wlanFcGetType_congr h, and_eq_of_and_eq (k := 0x0080) h (by decide)]

theorem hasAddr4_congr : hasAddr4 fc = hasAddr4 fc' := by
  unfold hasAddr4
  rw [and_eq_of_and_eq (k := wlanFcToFromDs) h (by decide)]

/-- None of those bits is authenticated. -/
theorem aadFc_congr : aadFc fc = aadFc fc' := by
  have hmasked : ∀ k : UInt16, (fc &&& k) &&& ~~~wlanFcMutable ||| wlanFcIsWep
      = (fc' &&& k) &&& ~~~wlanFcMutable ||| wlanFcIsWep := by
    intro k
    have hmask : ~~~wlanFcMutable = 0x87ff ||| wlanFcIsWep := by decide
    rw [hmask, and_or_absorb, and_or_absorb, UInt16.and_assoc, UInt16.and_comm k,
      ← UInt16.and_assoc, h, UInt16.and_assoc, UInt16.and_comm _ k, ← UInt16.and_assoc]
  have hall : ∀ x : UInt16, x = x &&& 0xffff := fun x => (UInt16.and_neg_one (a := x)).symm
  unfold aadFc
  rw [wlanFcGetType_congr h, isQosData_congr h]
  dsimp only
  split
  · split
    · rw [UInt16.and_assoc fc, UInt16.and_assoc fc']
      exact hmasked _
    · exact hmasked _
  · rw [hall fc, hall fc']
    exact hmasked _

end

/-! ## What the nonce and the additional data read -/

theorem bytesAt_congr {buf buf' : Bytes} {i n : ℕ}
    (h : ∀ k, i ≤ k → k < i + n → buf.getD k 0 = buf'.getD k 0) :
    bytesAt buf i n = bytesAt buf' i n :=
  List.map_congr_left fun k hk =>
    h (i + k) (Nat.le_add_right i k) (Nat.add_lt_add_left (List.mem_range.1 hk) i)

/-- Two headers that agree but for the bits that may change. -/
structure SameHeader (hdr hdr' : Bytes) : Prop where
  control : getLe16 hdr 0 &&& 0x87ff = getLe16 hdr' 0 &&& 0x87ff
  addresses : bytesAt hdr 4 18 = bytesAt hdr' 4 18
  fragment : getLe16 hdr 22 &&& 0xf = getLe16 hdr' 22 &&& 0xf
  rest : ∀ i, 24 ≤ i → i < 32 → hdr.getD i 0 = hdr'.getD i 0

theorem ccmpAadNonce_congr {mode : AmsduMode} {hdr hdr' data data' : Bytes}
    (h : SameHeader hdr hdr') (hdata : ∀ i < 8, data.getD i 0 = data'.getD i 0) :
    ccmpAadNonce mode hdr data = ccmpAadNonce mode hdr' data' := by
  have hqc : hdr.getD (qosOffset (getLe16 hdr 0)) 0 = hdr'.getD (qosOffset (getLe16 hdr' 0)) 0 := by
    unfold qosOffset
    rw [hasAddr4_congr h.control]
    split
    · exact h.rest 30 (by decide) (by decide)
    · exact h.rest 24 (by decide) (by decide)
  have haddr4 : bytesAt hdr 24 6 = bytesAt hdr' 24 6 :=
    bytesAt_congr fun k hk hk' => h.rest k hk (Nat.lt_trans hk' (by decide))
  have haddr2 : bytesAt hdr 10 6 = bytesAt hdr' 10 6 :=
    congrArg (fun bytes => (bytes.drop 6).take 6) h.addresses
  have hseq : getLe16 hdr 22 &&& ~~~0xfff0 = getLe16 hdr' 22 &&& ~~~0xfff0 := h.fragment
  unfold ccmpAadNonce nonceFlags
  dsimp only
  rw [aadFc_congr h.control, wlanFcGetType_congr h.control, isQosData_congr h.control,
    hasAddr4_congr h.control, hqc, haddr4, haddr2, h.addresses, hseq, hdata 7 (by decide),
    hdata 6 (by decide), hdata 5 (by decide), hdata 4 (by decide), hdata 1 (by decide),
    hdata 0 (by decide)]

theorem SameHeader.trans {hdr hdr' hdr'' : Bytes} (h : SameHeader hdr hdr')
    (h' : SameHeader hdr' hdr'') : SameHeader hdr hdr'' :=
  ⟨h.control.trans h'.control, h.addresses.trans h'.addresses, h.fragment.trans h'.fragment,
    fun i hi hi' => (h.rest i hi hi').trans (h'.rest i hi hi')⟩

theorem sameHeader_append {head : Bytes} (hhead : 32 ≤ head.length) (rest : Bytes) :
    SameHeader head (head ++ rest) := by
  have hread : ∀ i < 32, head.getD i 0 = (head ++ rest).getD i 0 := fun i hi =>
    (List.getD_append _ _ _ _ (Nat.lt_of_lt_of_le hi hhead)).symm
  constructor
  · rw [getLe16, getLe16, hread 0 (by decide), hread 1 (by decide)]
  · exact bytesAt_congr fun k _ hk => hread k (Nat.lt_trans hk (by decide))
  · rw [getLe16, getLe16, hread 22 (by decide), hread 23 (by decide)]
  · exact fun i _ hi => hread i hi

theorem drop_setProtected (hdr : Bytes) {n : ℕ} (hn : 2 ≤ n) :
    (setProtected hdr).drop n = hdr.drop n := by
  rw [setProtected, List.drop_append, List.drop_eq_nil_of_le (show (putLe16 _).length ≤ n from hn),
    List.nil_append, List.drop_drop]
  exact congrArg hdr.drop (Nat.add_sub_cancel' hn)

theorem getD_setProtected {hdr : Bytes} {i : ℕ} (hi : 2 ≤ i) :
    (setProtected hdr).getD i 0 = hdr.getD i 0 := by
  have hdrop := congrArg (·.head?) (drop_setProtected hdr hi)
  simpa [List.getD_eq_getElem?_getD] using congrArg (·.getD 0) hdrop

theorem length_setProtected {hdr : Bytes} (h : 2 ≤ hdr.length) :
    (setProtected hdr).length = hdr.length := by
  rw [setProtected, List.length_append, List.length_drop]
  exact Nat.add_sub_cancel' h

theorem sameHeader_setProtected (hdr : Bytes) : SameHeader (setProtected hdr) hdr := by
  constructor
  · rw [setProtected, getLe16_putLe16, or_and_eq_of_disjoint (by decide)]
  · exact bytesAt_congr fun k hk _ => getD_setProtected (Nat.le_trans (by decide) hk)
  · rw [getLe16, getLe16, getD_setProtected (by decide), getD_setProtected (by decide)]
  · exact fun i hi _ => getD_setProtected (Nat.le_trans (by decide) hi)

/-- The nonce and the additional data read only the header and the packet
number, which sealing leaves in place. -/
theorem ccmpAadNonce_setProtected {mode : AmsduMode} {head : Bytes} {hdrlen : ℕ}
    (hhdr : 24 ≤ hdrlen) (hhead : head.length = hdrlen + 8) (rest data : Bytes) :
    ccmpAadNonce mode (setProtected head) ((setProtected head).drop hdrlen)
      = ccmpAadNonce mode (head ++ rest) (head.drop hdrlen ++ data) := by
  refine ccmpAadNonce_congr
    ((sameHeader_setProtected head).trans (sameHeader_append (by omega) rest)) fun i hi => ?_
  rw [drop_setProtected _ (by omega), List.getD_append]
  rwa [List.length_drop, hhead, Nat.add_sub_cancel_left]

/-! ## Sealing and opening -/

theorem ccmpOpen_congr {keyLen M : ℕ} {mode : AmsduMode} {tk hdr hdr' data : Bytes}
    (h : SameHeader hdr hdr') :
    ccmpOpen keyLen M mode tk hdr data = ccmpOpen keyLen M mode tk hdr' data := by
  unfold ccmpOpen
  rw [ccmpAadNonce_congr h fun _ _ => rfl]

section

variable {mode : AmsduMode} {tk head body mic text rest rest' : Bytes} {keyLen M hdrlen : ℕ}

theorem ccmpOpen_eq (hhead : head.length = hdrlen + 8) (hmic : mic.length = M) :
    ccmpOpen keyLen M mode tk (head ++ rest) (head.drop hdrlen ++ (body ++ mic))
      = let (aad, nonce) := ccmpAadNonce mode (head ++ rest) (head.drop hdrlen ++ (body ++ mic))
        aesCcmAd tk keyLen nonce M body aad mic := by
  have hpn : (head.drop hdrlen).length = 8 := by
    rw [List.length_drop, hhead, Nat.add_sub_cancel_left]
  have hlen : (head.drop hdrlen ++ (body ++ mic)).length = 8 + body.length + M := by
    rw [List.length_append, List.length_append, hpn, hmic, Nat.add_assoc]
  have hmlen : 8 + body.length + M - 8 - M = body.length := by omega
  have hlt : ¬8 + body.length + M < 8 + M := by omega
  unfold ccmpOpen
  rw [hlen, if_neg hlt]
  dsimp only
  rw [hmlen, ← List.drop_drop, List.drop_left' hpn, List.take_left, List.drop_left]

theorem ccmpSeal_eq (hhdr : 24 ≤ hdrlen) (hhead : head.length = hdrlen + 8) :
    ccmpSeal keyLen M mode tk (head ++ (text ++ rest)) (hdrlen + text.length) hdrlen none 0
      = let (aad, nonce) := ccmpAadNonce mode (setProtected head) ((setProtected head).drop hdrlen)
        (aesCcmAe tk keyLen nonce M text aad).bind fun (body, mic) =>
          some (setProtected head ++ body ++ mic) := by
  have hlt : ¬(hdrlen + text.length < hdrlen ∨ hdrlen < 24) := by omega
  unfold ccmpSeal
  rw [if_neg hlt]
  dsimp only
  rw [List.take_left' hhead, List.drop_left' hhead, Nat.add_sub_cancel_left, List.take_left]
  rfl

theorem length_of_ccmpOpen (hhead : head.length = hdrlen + 8) (hmic : mic.length = M)
    (h : ccmpOpen keyLen M mode tk (head ++ rest) (head.drop hdrlen ++ (body ++ mic)) = some text) :
    text.length = body.length := by
  rw [ccmpOpen_eq hhead hmic] at h
  exact (length_of_aesCcmAe ((aesCcmAd_eq_some_iff hmic).1 h)).1.symm

theorem length_of_ccmpSeal {enc : Bytes} (hhdr : 24 ≤ hdrlen) (hhead : head.length = hdrlen + 8)
    (h : ccmpSeal keyLen M mode tk (head ++ (text ++ rest)) (hdrlen + text.length) hdrlen none 0
      = some enc) : enc.length = hdrlen + 8 + text.length + M := by
  rw [ccmpSeal_eq hhdr hhead] at h
  obtain ⟨⟨body, mic⟩, hae, henc⟩ := Option.bind_eq_some_iff.1 h
  obtain ⟨hbody, hmic⟩ := length_of_aesCcmAe hae
  rw [← Option.some.inj henc, List.length_append, List.length_append,
    length_setProtected (by omega), hhead, hbody, hmic]

/-- A frame of the header and packet number `head` opens exactly to what
has been sealed there. -/
theorem ccmpOpen_eq_some_iff (rest : Bytes) (hhdr : 24 ≤ hdrlen)
    (hhead : head.length = hdrlen + 8) (hmic : mic.length = M) :
    ccmpOpen keyLen M mode tk (head ++ rest) (head.drop hdrlen ++ (body ++ mic)) = some text
      ↔ ccmpSeal keyLen M mode tk (head ++ (text ++ rest')) (hdrlen + text.length) hdrlen none 0
        = some (setProtected head ++ body ++ mic) := by
  rw [ccmpOpen_eq hhead hmic, ccmpSeal_eq hhdr hhead,
    ccmpAadNonce_setProtected hhdr hhead rest (body ++ mic)]
  dsimp only
  rw [aesCcmAd_eq_some_iff hmic, Option.bind_eq_some_iff]
  constructor
  · exact fun h => ⟨(body, mic), h, rfl⟩
  · rintro ⟨⟨body', mic'⟩, hae, heq⟩
    have hmic' : mic'.length = mic.length := (length_of_aesCcmAe hae).2.trans hmic.symm
    obtain ⟨hbody, hmic_eq⟩ := List.append_inj' (Option.some.inj heq) hmic'
    obtain rfl : body' = body := List.append_cancel_left hbody
    obtain rfl : mic' = mic := hmic_eq
    exact hae

/-- The length of the MIC that goes with a key of `keyLen` bytes. -/
def ccmpMicLen (keyLen : ℕ) : ℕ := if keyLen = 16 then 8 else 16

theorem rtwCcmpEncrypt_eq (hkey : keyLen = 16 ∨ keyLen = 32) (frame : Bytes) (plen : ℕ) :
    rtwCcmpEncrypt mode tk keyLen hdrlen frame plen
      = (ccmpSeal keyLen (ccmpMicLen keyLen) mode tk frame (hdrlen + plen) hdrlen none 0).map
          fun enc => enc ++ frame.drop enc.length := by
  obtain rfl | rfl := hkey <;> rfl

theorem rtwCcmpDecrypt_eq (hkey : keyLen = 16 ∨ keyLen = 32) (frame : Bytes) (plen : ℕ) :
    rtwCcmpDecrypt mode tk keyLen hdrlen frame plen
      = (ccmpOpen keyLen (ccmpMicLen keyLen) mode tk frame ((frame.take plen).drop hdrlen)).map
          fun plain => frame.take (hdrlen + 8) ++ plain
            ++ frame.drop (hdrlen + 8 + plain.length) := by
  obtain rfl | rfl := hkey <;> rfl

/-- Opening in the buffer leaves the MIC there. -/
theorem rtwCcmpDecrypt_append (hkey : keyLen = 16 ∨ keyLen = 32)
    (hhead : head.length = hdrlen + 8) (hmic : mic.length = ccmpMicLen keyLen) :
    rtwCcmpDecrypt mode tk keyLen hdrlen (head ++ (body ++ (mic ++ rest)))
        (hdrlen + 8 + body.length + mic.length)
      = (ccmpOpen keyLen (ccmpMicLen keyLen) mode tk (head ++ (body ++ (mic ++ rest)))
          (head.drop hdrlen ++ (body ++ mic))).map
        fun plain => head ++ (plain ++ (mic ++ rest)) := by
  have hframe : (head ++ (body ++ (mic ++ rest))).take (hdrlen + 8 + body.length + mic.length)
      = head ++ (body ++ mic) := by
    rw [← hhead, Nat.add_assoc, ← List.append_assoc body, ← List.append_assoc head,
      ← List.length_append, ← List.length_append, List.take_left]
  rw [rtwCcmpDecrypt_eq hkey, hframe, List.drop_append_of_le_length (by omega)]
  refine Option.map_congr fun plain hopen => ?_
  rw [List.take_left' hhead, length_of_ccmpOpen hhead hmic hopen, ← hhead, ← List.drop_drop,
    List.drop_left, List.drop_left, List.append_assoc]

section

variable {room : Bytes} (hkey : keyLen = 16 ∨ keyLen = 32) (hhdr : 24 ≤ hdrlen)
  (hhead : head.length = hdrlen + 8) (hmic : mic.length = ccmpMicLen keyLen)
  (hroom : room.length = mic.length)

include hkey hhdr hhead hmic hroom

/-- Sealing in the buffer writes the MIC over `room`. -/
theorem rtwCcmpEncrypt_eq_some_iff :
    rtwCcmpEncrypt mode tk keyLen hdrlen (head ++ (text ++ (room ++ rest))) text.length
        = some (setProtected head ++ (body ++ (mic ++ rest)))
      ↔ ccmpSeal keyLen (ccmpMicLen keyLen) mode tk (head ++ (text ++ (room ++ rest)))
          (hdrlen + text.length) hdrlen none 0 = some (setProtected head ++ body ++ mic) := by
  have hpast : (head ++ (text ++ (room ++ rest))).drop (hdrlen + 8 + text.length + mic.length)
      = rest := by
    rw [← hhead, ← hroom, ← List.drop_drop, ← List.drop_drop, List.drop_left, List.drop_left,
      List.drop_left]
  rw [rtwCcmpEncrypt_eq hkey, Option.map_eq_some_iff]
  constructor
  · rintro ⟨enc, hseal, heq⟩
    rw [length_of_ccmpSeal hhdr hhead hseal, ← hmic, hpast] at heq
    rw [hseal, List.append_cancel_right (heq.trans _)]
    rw [List.append_assoc, List.append_assoc]
  · intro hseal
    refine ⟨_, hseal, ?_⟩
    rw [length_of_ccmpSeal hhdr hhead hseal, ← hmic, hpast, List.append_assoc, List.append_assoc]

/-- A frame in the buffer opens exactly to what has been sealed there. -/
theorem rtwCcmpDecrypt_eq_some_iff :
    rtwCcmpDecrypt mode tk keyLen hdrlen (head ++ (body ++ (mic ++ rest)))
        (hdrlen + 8 + body.length + mic.length) = some (head ++ (text ++ (mic ++ rest)))
      ↔ rtwCcmpEncrypt mode tk keyLen hdrlen (head ++ (text ++ (room ++ rest))) text.length
        = some (setProtected head ++ (body ++ (mic ++ rest))) := by
  rw [rtwCcmpDecrypt_append hkey hhead hmic, Option.map_eq_some_iff,
    rtwCcmpEncrypt_eq_some_iff hkey hhdr hhead hmic hroom,
    ← ccmpOpen_eq_some_iff (body ++ (mic ++ rest)) hhdr hhead hmic]
  constructor
  · rintro ⟨plain, hopen, heq⟩
    rwa [← List.append_cancel_right (List.append_cancel_left heq)]
  · exact fun hopen => ⟨text, hopen, rfl⟩

end

end

theorem setProtected_setProtected (hdr : Bytes) :
    setProtected (setProtected hdr) = setProtected hdr := by
  have hfc : getLe16 (setProtected hdr) 0 ||| wlanFcIsWep = getLe16 hdr 0 ||| wlanFcIsWep := by
    rw [setProtected, getLe16_putLe16, UInt16.or_assoc, UInt16.or_self]
  rw [setProtected, hfc, drop_setProtected _ (Nat.le_refl 2)]
  rfl

theorem setProtected_append {hdr rest : Bytes} (h : 2 ≤ hdr.length) :
    setProtected (hdr ++ rest) = setProtected hdr ++ rest := by
  rw [setProtected, List.drop_append_of_le_length h, getLe16, List.getD_append _ _ _ _ (by omega),
    List.getD_append _ _ _ _ (by omega), ← List.append_assoc]
  rfl

theorem length_aad_le (mode : AmsduMode) (hdr data : Bytes) :
    (ccmpAadNonce mode hdr data).1.length ≤ 30 := by
  unfold ccmpAadNonce
  dsimp only
  split <;> split <;> simp [putLe16, bytesAt]

theorem ccmpMicLen_le (keyLen : ℕ) : ccmpMicLen keyLen ≤ aesBlockSize := by
  unfold ccmpMicLen
  split <;> decide

section

variable {mode : AmsduMode} {key head text room rest frame opened : Bytes} {keyLen hdrlen plen : ℕ}

/-- A key, the header and packet number of a retried data frame, and its
payload. -/
def benchKey : Bytes :=
  [0xc9, 0x7c, 0x1f, 0x67, 0xce, 0x37, 0x11, 0x85, 0x51, 0x4a, 0x8a, 0x19, 0xf2, 0xbd, 0xd5, 0x2f]

def benchHead : Bytes :=
  [0x08, 0x08, 0xc3, 0x2c, 0x0f, 0xd2, 0xe1, 0x28, 0xa5, 0x7c, 0x50, 0x30, 0xf1, 0x84, 0x44, 0x08,
    0xab, 0xae, 0xa5, 0xb8, 0xfc, 0xba, 0x80, 0x33, 0x0c, 0xe7, 0x00, 0x20, 0x76, 0x97, 0x03, 0xb5]

def benchText : Bytes :=
  [0xf8, 0xba, 0x1a, 0x55, 0xd0, 0x2f, 0x85, 0xae, 0x96, 0x7b, 0xb6, 0x2f, 0xb6, 0xcd, 0xa8, 0xeb,
    0x7e, 0x78, 0xa0, 0x50]

/-- What is sealed in the buffer opens again, for any header, payload and
key. -/
theorem sealed_opens (hkey : keyLen = 16 ∨ keyLen = 32) (hhdr : 24 ≤ hdrlen)
    (hhead : head.length = hdrlen + 8) (hroom : room.length = ccmpMicLen keyLen) :
    ∃ body mic, body.length = text.length ∧ mic.length = ccmpMicLen keyLen
      ∧ rtwCcmpEncrypt mode key keyLen hdrlen (head ++ (text ++ (room ++ rest))) text.length
        = some (setProtected head ++ (body ++ (mic ++ rest)))
      ∧ rtwCcmpDecrypt mode key keyLen hdrlen (setProtected head ++ (body ++ (mic ++ rest)))
          (hdrlen + 8 + body.length + mic.length)
        = some (setProtected head ++ (text ++ (mic ++ rest))) := by
  obtain ⟨⟨body, mic⟩, hae⟩ := exists_aesCcmAe key
    (ccmpAadNonce mode (setProtected head) ((setProtected head).drop hdrlen)).2 text hkey
    (ccmpMicLen_le keyLen)
    (length_aad_le mode (setProtected head) ((setProtected head).drop hdrlen))
  obtain ⟨hbody, hmic⟩ := length_of_aesCcmAe hae
  have hprot : (setProtected head).length = hdrlen + 8 := by
    rw [length_setProtected (by omega), hhead]
  have hroom' : room.length = mic.length := hroom.trans hmic.symm
  refine ⟨body, mic, hbody, hmic, ?_, ?_⟩
  · rw [rtwCcmpEncrypt_eq_some_iff hkey hhdr hhead hmic hroom', ccmpSeal_eq hhdr hhead]
    dsimp only
    rw [hae]
    rfl
  · -- sealing the sealed header gives the same frame
    rw [rtwCcmpDecrypt_eq_some_iff hkey hhdr hprot hmic hroom',
      rtwCcmpEncrypt_eq_some_iff hkey hhdr hprot hmic hroom', ccmpSeal_eq hhdr hprot,
      setProtected_setProtected]
    dsimp only
    rw [hae]
    rfl

theorem bench_sealed_opens :
    ∃ body mic, body.length = benchText.length ∧ mic.length = ccmpMicLen 16
      ∧ rtwCcmpEncrypt .nonSpp benchKey 16 24
          (benchHead ++ (benchText ++ (List.replicate 8 0 ++ [0xff]))) benchText.length
        = some (setProtected benchHead ++ (body ++ (mic ++ [0xff])))
      ∧ rtwCcmpDecrypt .nonSpp benchKey 16 24
          (setProtected benchHead ++ (body ++ (mic ++ [0xff]))) (24 + 8 + body.length + mic.length)
        = some (setProtected benchHead ++ (benchText ++ (mic ++ [0xff]))) :=
  sealed_opens (Or.inl rfl) (by decide) rfl rfl

theorem rtwCcmpDecrypt_eq_none (hkey : ¬(keyLen = 16 ∨ keyLen = 32)) :
    rtwCcmpDecrypt mode key keyLen hdrlen frame plen = none := by
  obtain ⟨h16, h32⟩ := not_or.1 hkey
  unfold rtwCcmpDecrypt
  dsimp only
  rw [if_neg h16, if_neg h32]
  rfl

theorem le_length_of_ccmpOpen {hdr data plain : Bytes} {M : ℕ}
    (h : ccmpOpen keyLen M mode key hdr data = some plain) : 8 + M ≤ data.length := by
  unfold ccmpOpen at h
  split at h
  · cases h
  next hlt => exact Nat.le_of_not_lt hlt

/-- A buffer in the pieces that opening looks at. -/
theorem exists_pieces {M : ℕ} (hroom : hdrlen + 8 + M ≤ plen) (hlen : plen ≤ frame.length) :
    ∃ head body mic rest, frame = head ++ (body ++ (mic ++ rest)) ∧ head.length = hdrlen + 8
      ∧ mic.length = M ∧ plen = hdrlen + 8 + body.length + mic.length := by
  refine ⟨frame.take (hdrlen + 8), (frame.drop (hdrlen + 8)).take (plen - (hdrlen + 8 + M)),
    (frame.drop (plen - M)).take M, frame.drop plen, ?_, ?_, ?_, ?_⟩
  · have hmic : (frame.drop (plen - M)).drop M = frame.drop plen := by
      rw [List.drop_drop, Nat.sub_add_cancel (by omega)]
    have hbody : (frame.drop (hdrlen + 8)).drop (plen - (hdrlen + 8 + M))
        = frame.drop (plen - M) := by
      rw [List.drop_drop]
      exact congrArg frame.drop (by omega)
    rw [← hmic, List.take_append_drop, ← hbody, List.take_append_drop, List.take_append_drop]
  all_goals
    simp only [List.length_take, List.length_drop]
    omega

/-- A frame that opens, in its pieces. -/
structure Opened (mode : AmsduMode) (key : Bytes) (keyLen hdrlen : ℕ) (frame : Bytes) (plen : ℕ)
    (opened head body mic rest text : Bytes) : Prop where
  key_cases : keyLen = 16 ∨ keyLen = 32
  frame_eq : frame = head ++ (body ++ (mic ++ rest))
  length_head : head.length = hdrlen + 8
  length_mic : mic.length = ccmpMicLen keyLen
  plen_eq : plen = hdrlen + 8 + body.length + mic.length
  length_text : text.length = body.length
  opens : ccmpOpen keyLen (ccmpMicLen keyLen) mode key (head ++ (body ++ (mic ++ rest)))
    (head.drop hdrlen ++ (body ++ mic)) = some text
  opened_eq : opened = head ++ (text ++ (mic ++ rest))

theorem exists_opened (hlen : plen ≤ frame.length)
    (h : rtwCcmpDecrypt mode key keyLen hdrlen frame plen = some opened) :
    ∃ head body mic rest text,
      Opened mode key keyLen hdrlen frame plen opened head body mic rest text := by
  have hkey : keyLen = 16 ∨ keyLen = 32 := by
    by_contra hkey
    rw [rtwCcmpDecrypt_eq_none hkey] at h
    cases h
  have hroom : hdrlen + 8 + ccmpMicLen keyLen ≤ plen := by
    rw [rtwCcmpDecrypt_eq hkey] at h
    obtain ⟨plain, hopen, -⟩ := Option.map_eq_some_iff.1 h
    have hdata := le_length_of_ccmpOpen hopen
    rw [List.length_drop, List.length_take_of_le hlen] at hdata
    omega
  obtain ⟨head, body, mic, rest, rfl, hhead, hmic, rfl⟩ := exists_pieces hroom hlen
  rw [rtwCcmpDecrypt_append hkey hhead hmic, Option.map_eq_some_iff] at h
  obtain ⟨text, hopen, rfl⟩ := h
  exact ⟨head, body, mic, rest, text, hkey, rfl, hhead, hmic, rfl,
    length_of_ccmpOpen hhead hmic hopen, hopen, rfl⟩

/-- A frame that opens is one that sealing what it opens to gives, bit for
bit but for the protected bit. -/
theorem opened_was_sealed (frame : Bytes) (plen : ℕ) (hhdr : 24 ≤ hdrlen)
    (hlen : plen ≤ frame.length)
    (h : rtwCcmpDecrypt mode key keyLen hdrlen frame plen = some opened) :
    rtwCcmpEncrypt mode key keyLen hdrlen opened (plen - (hdrlen + 8 + ccmpMicLen keyLen))
      = some (setProtected frame) := by
  obtain ⟨head, body, mic, rest, text, hkey, rfl, hhead, hmic, rfl, htext, hopen, rfl⟩ :=
    exists_opened hlen h
  have hplen : hdrlen + 8 + body.length + mic.length - (hdrlen + 8 + ccmpMicLen keyLen)
      = text.length := by omega
  rw [hplen, setProtected_append (by omega),
    ← rtwCcmpDecrypt_eq_some_iff hkey hhdr hhead hmic rfl, rtwCcmpDecrypt_append hkey hhead hmic,
    hopen]
  rfl

/-- The frame that `benchText` is sealed in. -/
def benchSealed : Bytes :=
  setProtected benchHead ++ [0xf3, 0xd0, 0xa2, 0xfe, 0x9a, 0x3d, 0xbf, 0x23, 0x42, 0xa6, 0x43, 0xe4,
    0x32, 0x46, 0xe8, 0x0c, 0x3c, 0x04, 0xd0, 0x19, 0x78, 0x45, 0xce, 0x0b, 0x16, 0xf9, 0x76, 0x23]

theorem bench_opened_was_sealed :
    rtwCcmpEncrypt .nonSpp benchKey 16 24
        (setProtected benchHead ++ benchText ++ [0x78, 0x45, 0xce, 0x0b, 0x16, 0xf9, 0x76, 0x23])
        (60 - (24 + 8 + ccmpMicLen 16)) = some (setProtected benchSealed) :=
  opened_was_sealed benchSealed 60 (by decide) (by decide) (by decide +kernel)

end

/-! ## What may change between two transmissions -/

structure Retransmission where
  flags : UInt16  -- retry, power management and more data
  duration : UInt16
  seq : UInt16  -- the sequence number, where `seq_ctrl` has it

namespace Retransmission

variable (r : Retransmission)

/-- The first 24 bytes of the header. -/
def start (hdr : Bytes) : Bytes :=
  putLe16 (getLe16 hdr 0 &&& ~~~wlanFcMutable ||| (r.flags &&& wlanFcMutable))
    ++ putLe16 r.duration ++ bytesAt hdr 4 18
    ++ putLe16 (getLe16 hdr 22 &&& ~~~0xfff0 ||| (r.seq &&& 0xfff0))

def apply (hdr : Bytes) : Bytes := r.start hdr ++ hdr.drop 24

theorem drop_apply (hdr : Bytes) {n : ℕ} (hn : 24 ≤ n) : (r.apply hdr).drop n = hdr.drop n := by
  have hstart : (r.start hdr).length ≤ n := hn
  rw [apply, List.drop_append,
    List.drop_eq_nil_of_le hstart, List.nil_append, List.drop_drop]
  exact congrArg hdr.drop (Nat.add_sub_cancel' hn)

theorem sameHeader_apply (hdr : Bytes) : SameHeader (r.apply hdr) hdr := by
  constructor
  · have hfc : getLe16 (r.apply hdr) 0 = _ := getLe16_putLe16 _ []
    rw [hfc, merge_and (by decide) (by decide)]
  · rfl
  · have hseq : getLe16 (r.apply hdr) 22 = _ := getLe16_putLe16 _ []
    rw [hseq, merge_and (by decide) (by decide)]
  · intro i hi _
    have hdrop := congrArg (·.head?) (r.drop_apply hdr hi)
    simpa [List.getD_eq_getElem?_getD] using congrArg (·.getD 0) hdrop

theorem length_apply {hdr : Bytes} (h : 24 ≤ hdr.length) : (r.apply hdr).length = hdr.length := by
  rw [apply, List.length_append, List.length_drop]
  exact Nat.add_sub_cancel' h

theorem apply_append {hdr rest : Bytes} (h : 24 ≤ hdr.length) :
    r.apply (hdr ++ rest) = r.apply hdr ++ rest := by
  have hread : ∀ i < 24, (hdr ++ rest).getD i 0 = hdr.getD i 0 := fun i hi =>
    List.getD_append _ _ _ _ (Nat.lt_of_lt_of_le hi h)
  have haddr : bytesAt (hdr ++ rest) 4 18 = bytesAt hdr 4 18 :=
    bytesAt_congr fun k _ hk => hread k (Nat.lt_trans hk (by decide))
  have hword : ∀ i < 23, getLe16 (hdr ++ rest) i = getLe16 hdr i := fun i hi => by
    rw [getLe16, getLe16, hread i (Nat.lt_succ_of_lt hi), hread (i + 1) (Nat.succ_lt_succ hi)]
  unfold apply start
  rw [hword 0 (by decide), hword 22 (by decide), haddr, List.drop_append_of_le_length h,
    ← List.append_assoc]

end Retransmission

/-- The packet number in a nonce. -/
def noncePn (nonce : Bytes) : ℕ := (nonce.drop 7).foldl (fun n b => 256 * n + b.toNat) 0

theorem aesIv_toNat (dot11txpn : UInt64) (keyidx : UInt8) :
    (aesIv dot11txpn keyidx).1.toNat % 2 ^ 48 = (dot11txpn.toNat + 1) % 2 ^ 48 := by
  unfold aesIv
  dsimp only
  split
  · next hmax => rw [hmax]; rfl
  · rw [UInt64.toNat_add]
    exact Nat.mod_mod_of_dvd _ (by decide)

theorem noncePn_aesIv (mode : AmsduMode) (hdr : Bytes) (dot11txpn : UInt64) (keyidx : UInt8) :
    noncePn (ccmpAadNonce mode hdr (aesIv dot11txpn keyidx).2).2
      = (dot11txpn.toNat + 1) % 2 ^ 48 := by
  rw [← aesIv_toNat dot11txpn keyidx]
  generalize hpn : (aesIv dot11txpn keyidx).1 = pn
  have hbytes : noncePn (ccmpAadNonce mode hdr (aesIv dot11txpn keyidx).2).2
      = [(pn >>> 40).toUInt8, (pn >>> 32).toUInt8, (pn >>> 24).toUInt8, (pn >>> 16).toUInt8,
          (pn >>> 8).toUInt8, pn.toUInt8].foldl (fun n b => 256 * n + b.toNat) 0 := by
    rw [← hpn]
    rfl
  rw [hbytes]
  simp only [List.foldl_cons, List.foldl_nil, UInt64.toNat_toUInt8, UInt64.toNat_shiftRight,
    Nat.shiftRight_eq_div_pow, UInt64.toNat_ofNat, Nat.reduceMod, Nat.reducePow]
  omega

theorem map_noncePn_nonces (mode : AmsduMode) (dot11txpn : UInt64)
    (packets : List (Bytes × UInt8)) :
    (nonces mode dot11txpn packets).map noncePn
      = (List.range packets.length).map fun i => (dot11txpn.toNat + 1 + i) % 2 ^ 48 := by
  induction packets generalizing dot11txpn with
  | nil => rfl
  | cons packet packets ih =>
      obtain ⟨hdr, keyidx⟩ := packet
      rw [nonces, List.map_cons, noncePn_aesIv, ih, List.length_cons, List.range_succ_eq_map,
        List.map_cons, List.map_map]
      refine congrArg _ (List.map_congr_left fun i _ => ?_)
      have hstep := aesIv_toNat dot11txpn keyidx
      simp only [Function.comp_apply]
      omega

/-- No nonce comes twice among the packets to a station, until its packet
number has gone round. -/
theorem nonces_nodup (mode : AmsduMode) (dot11txpn : UInt64) (packets : List (Bytes × UInt8))
    (h : packets.length ≤ 2 ^ 48) : (nonces mode dot11txpn packets).Nodup := by
  refine List.Nodup.of_map noncePn ?_
  rw [map_noncePn_nonces]
  refine List.nodup_range.map_on fun i hi j hj heq => ?_
  rw [List.mem_range] at hi hj
  omega

theorem bench_nonces_nodup :
    (nonces .nonSpp 0xfffffffffffe [(benchHead, 0), (benchHead, 0), (benchHead, 1)]).Nodup :=
  nonces_nodup _ _ _ (by decide)

end Specter
