import Mathlib.Algebra.GroupWithZero.Nat
import Specter.Amsdu
import Specter.CcmpFrames

/-!
# Aggregates and single packets

An aggregate is worth its packets, each sent in a frame of its own
(`one_by_one`). Whatever the bytes of a frame are, what comes out of it
are packets that lie in it one after another (`parsed`). And an ordinary
frame whose A-MSDU bit was set on the way, which its integrity check does
not see, gives nothing (`spoofed`).
-/

namespace Specter

open Sealing (Bytes)

variable {α : Type}

/-! ## A packet and its subframe -/

theorem getBe16_htons {pre : Bytes} (val : UInt16) (rest : Bytes) {i : ℕ} (hi : pre.length = i) :
    getBe16 (pre ++ htons val ++ rest) i = val := by
  subst hi
  have hhigh : (pre ++ htons val ++ rest).getD pre.length 0 = (val >>> 8).toUInt8 := by
    simp [htons, List.getD_eq_getElem?_getD]
  have hlow : (pre ++ htons val ++ rest).getD (pre.length + 1) 0 = val.toUInt8 := by
    simp [htons, List.getD_eq_getElem?_getD]
  rw [getBe16, hhigh, hlow, UInt16.or_comm]
  exact getLe16_putLe16 val []

theorem htons_getBe16 {pdata : Bytes} {i : ℕ} (h : i + 2 ≤ pdata.length) :
    htons (getBe16 pdata i) = (pdata.drop i).take 2 := by
  have hbytes (a b : UInt8) : htons ((a.toUInt16 <<< 8) ||| b.toUInt16) = [a, b] := by
    have hhigh : (((a.toUInt16 <<< 8) ||| b.toUInt16) >>> 8).toUInt8 = a := by
      refine UInt8.toBitVec_inj.1 ?_
      ext j hj
      have hlt : 8 + j < 16 := by omega
      have hge : ¬ 8 + j < 8 := by omega
      have hlt' : j < 16 := by omega
      simp [BitVec.getLsbD_eq_getElem hj, hlt, hge, hlt']
    have hlow : ((a.toUInt16 <<< 8) ||| b.toUInt16).toUInt8 = b := by
      refine UInt8.toBitVec_inj.1 ?_
      ext j hj
      simp
    rw [htons, hhigh, hlow]
  have hread {k : ℕ} (hk : k < pdata.length) : pdata.getD k 0 = pdata[k] :=
    (List.getD_eq_getElem pdata 0 hk)
  rw [getBe16, hread (by omega), hread (by omega), hbytes, List.drop_eq_getElem_cons (by omega),
    List.drop_eq_getElem_cons (by omega)]
  rfl

structure Msdu where
  da : Bytes
  sa : Bytes
  payload : Bytes
  length_da : da.length = ethAlen
  length_sa : sa.length = ethAlen
  length_payload : payload.length < 65536

namespace Msdu

variable (m : Msdu) (rest : Bytes)

def len : UInt16 := UInt16.ofNat m.payload.length

/-- The subframe of the packet. -/
def bytes : Bytes := m.da ++ m.sa ++ htons m.len ++ m.payload

/-- How many bytes are between the subframe and the next one. -/
def padding : ℕ := (4 - (m.payload.length + ethHlen) % 4) % 4

/-- The packet with its Ethernet header. -/
def packet : Bytes :=
  rtwOsAllocMsduPkt m.da m.sa m.payload m.len (rtwRecvLlcParse m.payload m.len)

@[simp] theorem toNat_len : m.len.toNat = m.payload.length :=
  UInt16.toNat_ofNat_of_lt' m.length_payload

@[simp] theorem length_bytes : m.bytes.length = ethHlen + m.payload.length := by
  simp [bytes, m.length_da, m.length_sa, htons, ethHlen, ethAlen]
  omega

theorem take_bytes : (m.bytes ++ rest).take ethAlen = m.da := by
  rw [bytes, List.append_assoc, List.append_assoc, List.append_assoc]
  exact List.take_left' m.length_da

theorem drop_bytes : ((m.bytes ++ rest).drop ethAlen).take ethAlen = m.sa := by
  rw [bytes, List.append_assoc, List.append_assoc, List.append_assoc, List.drop_left' m.length_da]
  exact List.take_left' m.length_sa

theorem getBe16_bytes : getBe16 (m.bytes ++ rest) (2 * ethAlen) = m.len := by
  rw [bytes, List.append_assoc _ m.payload]
  exact getBe16_htons m.len _ (by rw [List.length_append, m.length_da, m.length_sa]; rfl)

theorem payload_bytes : (m.bytes ++ rest).drop ethHlen = m.payload ++ rest := by
  rw [bytes, List.append_assoc]
  refine List.drop_left' ?_
  simp [m.length_da, m.length_sa, htons, ethHlen, ethAlen]

end Msdu

/-- Only the packet itself decides what is made of its LLC header. -/
theorem rtwRecvLlcParse_append (m : Msdu) (rest : Bytes) :
    rtwRecvLlcParse (m.payload ++ rest) m.len = rtwRecvLlcParse m.payload m.len := by
  unfold rtwRecvLlcParse
  split_ifs with hshort
  · rfl
  · have hlen : 8 ≤ m.payload.length := by
      rw [← m.toNat_len]
      exact UInt16.le_iff_toNat_le.mp (UInt16.not_lt.mp hshort)
    have htake : (m.payload ++ rest).take snapSize = m.payload.take snapSize :=
      List.take_append_of_le_length (Nat.le_trans (by decide) hlen)
    have htype : getBe16 (m.payload ++ rest) snapSize = getBe16 m.payload snapSize := by
      unfold getBe16
      rw [List.getD_append _ _ _ _ (Nat.lt_of_lt_of_le (by decide) hlen),
        List.getD_append _ _ _ _ (Nat.lt_of_lt_of_le (by decide) hlen)]
    rw [htake, htype]

theorem le_length_of_remove {m : Msdu} (h : rtwRecvLlcParse m.payload m.len = .remove) :
    8 ≤ m.payload.length := by
  unfold rtwRecvLlcParse at h
  split_ifs at h with hshort
  all_goals
    rw [← m.toNat_len]
    exact UInt16.le_iff_toNat_le.mp (UInt16.not_lt.mp hshort)

theorem rtwOsAllocMsduPkt_append (m : Msdu) (rest : Bytes) (llcHdl : LlcHdl) :
    rtwOsAllocMsduPkt m.da m.sa (m.payload ++ rest) m.len llcHdl
      = rtwOsAllocMsduPkt m.da m.sa m.payload m.len llcHdl := by
  have htake : (m.payload ++ rest).take m.len.toNat = m.payload.take m.len.toNat :=
    List.take_append_of_le_length (Nat.le_of_eq m.toNat_len)
  unfold rtwOsAllocMsduPkt
  rw [htake]

/-- The packet, where it goes anywhere. -/
def handed (bss : Bss) (m : Msdu) : List (Act × Bytes) :=
  let act := rxMsduAct bss m.da m.sa
  if act = .none then [] else [(act, m.packet)]

/-! ## The loop -/

/-- `ms`, one subframe after another, each padded but for the last. What is
behind that has the property `Tail`. -/
inductive Aggregate (Tail : Bytes → Prop) : List Msdu → Bytes → Prop where
  | nil {tail : Bytes} (htail : Tail tail) : Aggregate Tail [] tail
  | last {m : Msdu} {tail : Bytes} (htail : Tail tail) : Aggregate Tail [m] (m.bytes ++ tail)
  | cons {m : Msdu} {pad : Bytes} {ms : List Msdu} {data : Bytes}
      (hpad : pad.length = m.padding) (h : Aggregate Tail ms data) :
      Aggregate Tail (m :: ms) (m.bytes ++ (pad ++ data))

section Loop

variable {mem : Bytes → Bool} {bss : Bss} {attrib : RxPktAttrib} {nrSubframes : ℕ}

theorem length_indicated_handed_le (bss : Bss) (m : Msdu) :
    (indicated (handed bss m)).length ≤ 1 := by
  unfold handed indicated
  rw [List.length_map]
  refine Nat.le_trans (List.length_filter_le _ _) ?_
  dsimp only
  split
  · exact Nat.zero_le 1
  · exact Nat.le_refl 1

theorem amsduLoop_of_short {pdata : Bytes} (h : pdata.length ≤ ethHlen) :
    amsduLoop mem bss attrib nrSubframes pdata = [] := by
  rw [amsduLoop, if_pos h]

/-- No packet could be had for the subframe. -/
def OutOfMemory (mem : Bytes → Bool) (bss : Bss) (m : Msdu) (rest : Bytes) : Prop :=
  rxMsduAct bss m.da m.sa ≠ .none ∧ mem (m.bytes ++ rest) = false

instance (m : Msdu) (rest : Bytes) : Decidable (OutOfMemory mem bss m rest) :=
  inferInstanceAs (Decidable (_ ∧ _))

theorem subframe_bytes (m : Msdu) (rest : Bytes) :
    subframe mem bss (m.bytes ++ rest) m.da m.sa (m.payload ++ rest) m.len
      = if OutOfMemory mem bss m rest then none else some (handed bss m) := by
  unfold subframe handed
  dsimp only
  rw [rtwRecvLlcParse_append, rtwOsAllocMsduPkt_append]
  by_cases hnone : rxMsduAct bss m.da m.sa = .none
  · have hout : ¬ OutOfMemory mem bss m rest := fun h => h.1 hnone
    rw [if_pos hnone, if_pos hnone, if_neg hout]
  · rw [if_neg hnone, if_neg hnone]
    by_cases hmem : mem (m.bytes ++ rest) = true
    · have hout : ¬ OutOfMemory mem bss m rest := fun h => Bool.false_ne_true (h.2.symm.trans hmem)
      rw [if_pos hmem, if_neg hout]
      rfl
    · have hout : OutOfMemory mem bss m rest := ⟨hnone, Bool.eq_false_iff.mpr hmem⟩
      rw [if_neg hmem, if_pos hout]

/-- **Step.** What the loop makes of a subframe and what is behind it. -/
theorem amsduLoop_bytes (m : Msdu) (rest : Bytes) :
    amsduLoop mem bss attrib nrSubframes (m.bytes ++ rest)
      = if m.payload = [] ∧ rest = [] then []
        else if validateAmsduContent bss attrib m.da m.sa = false then []
        else if OutOfMemory mem bss m rest then []
        else if maxSubframeCount ≤ nrSubframes + (indicated (handed bss m)).length then handed bss m
        else if rest ≠ [] ∧ rest.length < m.padding then handed bss m
        else
          handed bss m ++ amsduLoop mem bss attrib
            (nrSubframes + (indicated (handed bss m)).length) (rest.drop m.padding) := by
  have hlen : (m.bytes ++ rest).length = ethHlen + m.payload.length + rest.length := by
    rw [List.length_append, m.length_bytes]
  have hshort : (m.bytes ++ rest).length ≤ ethHlen ↔ m.payload = [] ∧ rest = [] := by
    rw [hlen, ← List.length_eq_zero_iff, ← List.length_eq_zero_iff]
    omega
  have hfits : ¬ (m.bytes ++ rest).length < ethHlen + m.payload.length := by omega
  have hrest : (m.bytes ++ rest).drop (ethHlen + m.payload.length) = rest :=
    List.drop_left' m.length_bytes
  rw [amsduLoop]
  simp only [hshort, m.getBe16_bytes, m.toNat_len, if_neg hfits, m.take_bytes, m.drop_bytes,
    m.payload_bytes, hrest, subframe_bytes]
  refine if_congr Iff.rfl rfl (if_congr Iff.rfl rfl ?_)
  by_cases hout : OutOfMemory mem bss m rest
  · rw [if_pos hout, if_pos hout]
  · rw [if_neg hout, if_neg hout]
    rfl

/-- **Aggregates.** The loop hands on all of an aggregate. -/
theorem amsduLoop_of_aggregate {ms : List Msdu} {data : Bytes} (hmem : ∀ pdata, mem pdata = true)
    (h : Aggregate (fun tail => tail.length ≤ ethHlen) ms data)
    (hvalid : ∀ m ∈ ms, validateAmsduContent bss attrib m.da m.sa = true)
    (hpayload : ∀ m ∈ ms, m.payload ≠ []) (hcount : nrSubframes + ms.length ≤ maxSubframeCount) :
    amsduLoop mem bss attrib nrSubframes data = ms.flatMap (handed bss) := by
  have hstep {m : Msdu} (hm : validateAmsduContent bss attrib m.da m.sa = true)
      (hne : m.payload ≠ []) (nr : ℕ) (rest : Bytes) :
      amsduLoop mem bss attrib nr (m.bytes ++ rest)
        = if maxSubframeCount ≤ nr + (indicated (handed bss m)).length then handed bss m
          else if rest ≠ [] ∧ rest.length < m.padding then handed bss m
          else handed bss m ++ amsduLoop mem bss attrib (nr + (indicated (handed bss m)).length)
            (rest.drop m.padding) := by
    have hout : ¬ OutOfMemory mem bss m rest := fun h =>
      Bool.false_ne_true (h.2.symm.trans (hmem _))
    rw [amsduLoop_bytes, if_neg fun h => hne h.1, hm, if_neg Bool.false_ne_true.symm, if_neg hout]
  induction h generalizing nrSubframes with
  | nil htail => exact amsduLoop_of_short htail
  | @last m tail htail =>
      rw [hstep (hvalid m List.mem_cons_self) (hpayload m List.mem_cons_self),
        List.flatMap_singleton]
      split_ifs
      · rfl
      · rfl
      · rw [amsduLoop_of_short, List.append_nil]
        rw [List.length_drop]
        omega
  | @cons m pad ms data hpad h ih =>
      have hle := length_indicated_handed_le bss m
      rw [List.length_cons] at hcount
      have hrest : amsduLoop mem bss attrib (nrSubframes + (indicated (handed bss m)).length) data
          = ms.flatMap (handed bss) := ih
        (fun m' hm' => hvalid m' (List.mem_cons_of_mem _ hm'))
        (fun m' hm' => hpayload m' (List.mem_cons_of_mem _ hm')) (by omega)
      rw [hstep (hvalid m List.mem_cons_self) (hpayload m List.mem_cons_self), List.flatMap_cons]
      split_ifs with hmax hpadding
      · have hnil : ms = [] := List.eq_nil_of_length_eq_zero (by omega)
        rw [hnil, List.flatMap_nil, List.append_nil]
      · rw [List.length_append] at hpadding
        omega
      · rw [List.drop_left' hpad, hrest]

/-- Bytes that are long enough for it begin with a subframe. -/
theorem exists_bytes {pdata : Bytes}
    (h : ethHlen + (getBe16 pdata (2 * ethAlen)).toNat ≤ pdata.length) :
    ∃ (m : Msdu) (rest : Bytes), pdata = m.bytes ++ rest := by
  have hlt := (getBe16 pdata (2 * ethAlen)).toNat_lt
  have heth : ethHlen = ethAlen + ethAlen + 2 := rfl
  have hpayload : ((pdata.drop ethHlen).take (getBe16 pdata (2 * ethAlen)).toNat).length
      = (getBe16 pdata (2 * ethAlen)).toNat := by
    rw [List.length_take, List.length_drop]
    omega
  refine ⟨⟨pdata.take ethAlen, (pdata.drop ethAlen).take ethAlen,
    (pdata.drop ethHlen).take (getBe16 pdata (2 * ethAlen)).toNat, ?_, ?_, ?_⟩,
    pdata.drop (ethHlen + (getBe16 pdata (2 * ethAlen)).toNat), ?_⟩
  · rw [List.length_take]
    omega
  · rw [List.length_take, List.length_drop]
    omega
  · rw [hpayload]
    exact hlt
  · have hlen : htons (UInt16.ofNat (getBe16 pdata (2 * ethAlen)).toNat)
        = (pdata.drop (2 * ethAlen)).take 2 := by
      rw [UInt16.ofNat_toNat]
      exact htons_getBe16 (by omega)
    unfold Msdu.bytes Msdu.len
    dsimp only
    rw [hpayload, hlen]
    have hcut (k n : ℕ) : (pdata.drop k).take n ++ pdata.drop (k + n) = pdata.drop k := by
      rw [← List.drop_drop]
      exact List.take_append_drop _ _
    have hlen' : (pdata.drop (2 * ethAlen)).take 2 ++ pdata.drop ethHlen
        = pdata.drop (ethAlen + ethAlen) := hcut (2 * ethAlen) 2
    rw [List.append_assoc, hcut ethHlen, List.append_assoc, List.append_assoc, hlen',
      hcut ethAlen, List.take_append_drop]

/-- `packets` are those of `ms`, which lie in `pdata` one after another. -/
structure Reads (bss : Bss) (attrib : RxPktAttrib) (nrSubframes : ℕ) (pdata : Bytes)
    (packets : List (Act × Bytes)) (ms : List Msdu) : Prop where
  aggregate : Aggregate (fun _ => True) ms pdata
  valid : ∀ m ∈ ms, validateAmsduContent bss attrib m.da m.sa = true
  eq : packets = ms.flatMap (handed bss)
  count : nrSubframes < maxSubframeCount →
    nrSubframes + (indicated packets).length ≤ maxSubframeCount

variable {m : Msdu} {rest : Bytes}

theorem Reads.nil (pdata : Bytes) : Reads bss attrib nrSubframes pdata [] [] :=
  ⟨.nil trivial, fun _ hm => absurd hm List.not_mem_nil, rfl, Nat.le_of_lt⟩

theorem Reads.last (hvalid : validateAmsduContent bss attrib m.da m.sa = true) :
    Reads bss attrib nrSubframes (m.bytes ++ rest) (handed bss m) [m] := by
  have hle := length_indicated_handed_le bss m
  refine ⟨.last trivial, fun m' hm' => List.mem_singleton.mp hm' ▸ hvalid,
    (List.flatMap_singleton _ _).symm, fun hlt => ?_⟩
  omega

theorem Reads.cons (hvalid : validateAmsduContent bss attrib m.da m.sa = true)
    {packets : List (Act × Bytes)} {ms : List Msdu} (hpadding : m.padding ≤ rest.length)
    (hcount : nrSubframes + (indicated (handed bss m)).length < maxSubframeCount)
    (h : Reads bss attrib (nrSubframes + (indicated (handed bss m)).length) (rest.drop m.padding)
      packets ms) :
    Reads bss attrib nrSubframes (m.bytes ++ rest) (handed bss m ++ packets) (m :: ms) where
  aggregate := by
    rw [← List.take_append_drop m.padding rest]
    exact .cons (List.length_take_of_le hpadding) h.aggregate
  valid := List.forall_mem_cons.mpr ⟨hvalid, h.valid⟩
  eq := by rw [h.eq, List.flatMap_cons]
  count := by
    intro _
    have happend : indicated (handed bss m ++ packets)
        = indicated (handed bss m) ++ indicated packets := by
      unfold indicated
      rw [List.filter_append, List.map_append]
    rw [happend, List.length_append, ← Nat.add_assoc]
    exact h.count hcount

/-- **Any bytes.** Whatever the loop is given, it hands on packets that lie
there one after another. -/
theorem exists_reads (mem : Bytes → Bool) (bss : Bss) (attrib : RxPktAttrib)
    (nrSubframes : ℕ) (pdata : Bytes) :
    ∃ ms, Reads bss attrib nrSubframes pdata (amsduLoop mem bss attrib nrSubframes pdata) ms := by
  induction hlen : pdata.length using Nat.strongRecOn generalizing nrSubframes pdata with
  | ind n ih =>
    subst hlen
    by_cases hshort : pdata.length ≤ ethHlen
    · rw [amsduLoop_of_short hshort]
      exact ⟨[], .nil pdata⟩
    by_cases hfits : pdata.length < ethHlen + (getBe16 pdata (2 * ethAlen)).toNat
    · rw [amsduLoop, if_neg hshort, if_pos hfits]
      exact ⟨[], .nil pdata⟩
    obtain ⟨m, rest, rfl⟩ := exists_bytes (Nat.not_lt.mp hfits)
    rw [amsduLoop_bytes]
    split_ifs with hempty hinvalid hout hmax hpadding
    · exact ⟨[], .nil _⟩
    · exact ⟨[], .nil _⟩
    · exact ⟨[], .nil _⟩
    · exact ⟨[m], .last (Bool.not_eq_false _ ▸ hinvalid)⟩
    · exact ⟨[m], .last (Bool.not_eq_false _ ▸ hinvalid)⟩
    · have hvalid : validateAmsduContent bss attrib m.da m.sa = true :=
        Bool.not_eq_false _ ▸ hinvalid
      by_cases hrest : rest = []
      · have hshort : (rest.drop m.padding).length ≤ ethHlen := by
          rw [hrest, List.drop_nil]
          exact Nat.zero_le _
        rw [amsduLoop_of_short hshort, List.append_nil]
        exact ⟨[m], .last hvalid⟩
      · have hle : m.padding ≤ rest.length := Nat.not_lt.mp fun h => hpadding ⟨hrest, h⟩
        obtain ⟨ms, h⟩ := ih (rest.drop m.padding).length (by
          rw [List.length_drop, List.length_append, m.length_bytes, ethHlen]
          omega) _ _ rfl
        exact ⟨m :: ms, h.cons hvalid hle (Nat.not_le.mp hmax)⟩

end Loop

/-! ## Frames -/

/-- How many bytes at the end are cut off. -/
def RxPktAttrib.tail (attrib : RxPktAttrib) : ℕ :=
  if attrib.encrypt ≠ .noPrivacy then attrib.icvLen.toNat else 0

/-- `body` is what the frame has between its header and its ICV. -/
def Carries (frame : RecvFrameHdr α) (body : Bytes) : Prop :=
  ∃ header icv, frame.data = header ++ body ++ icv
    ∧ header.length = frame.attrib.hdrlen.toNat + frame.attrib.ivLen.toNat
    ∧ icv.length = frame.attrib.tail

namespace RecvFrameHdr

def withData (frame : RecvFrameHdr α) (data : Bytes) : RecvFrameHdr α := { frame with data := data }

@[simp] theorem data_withData (frame : RecvFrameHdr α) (data : Bytes) :
    (frame.withData data).data = data := rfl

@[simp] theorem attrib_withData (frame : RecvFrameHdr α) (data : Bytes) :
    (frame.withData data).attrib = frame.attrib := rfl

theorem pull_append (frame : RecvFrameHdr α) {pre rest : Bytes} {sz : ℕ}
    (hdata : frame.data = pre ++ rest) (hsz : pre.length = sz) :
    frame.pull sz = frame.withData rest := by
  subst hsz
  rw [pull, hdata, if_neg (by rw [List.length_append]; omega), List.drop_left]
  rfl

theorem pullIv_append (frame : RecvFrameHdr α) {pre rest : Bytes}
    (hdata : frame.data = pre ++ rest) (hpre : pre.length = frame.attrib.ivLen.toNat) :
    frame.pullIv = frame.withData rest := by
  unfold pullIv
  split_ifs with hpos
  · exact frame.pull_append hdata hpre
  · have hzero : frame.attrib.ivLen.toNat = 0 := Nat.eq_zero_of_not_pos hpos
    have hnil : pre = [] := List.eq_nil_of_length_eq_zero (hpre.trans hzero)
    rw [hnil, List.nil_append] at hdata
    rw [← hdata]
    rfl

theorem data_pullIcv (frame : RecvFrameHdr α) {rest icv : Bytes}
    (hdata : frame.data = rest ++ icv) (hicv : icv.length = frame.attrib.tail) :
    frame.pullIcv.data = rest := by
  unfold RxPktAttrib.tail at hicv
  unfold pullIcv
  split_ifs at hicv ⊢ with hencrypt
  · rw [pullTail, hdata, if_neg (by rw [List.length_append]; omega), List.length_append, hicv,
      Nat.add_sub_cancel, List.take_left]
  · rw [hdata, List.eq_nil_of_length_eq_zero hicv, List.append_nil]

@[simp] theorem attrib_pullIcv (frame : RecvFrameHdr α) : frame.pullIcv.attrib = frame.attrib := by
  unfold pullIcv pullTail
  split_ifs <;> rfl

end RecvFrameHdr

theorem amsduToMsdu_of_carries {mem : Bytes → Bool} {bss : Bss} {frame : RecvFrameHdr α}
    {body : Bytes} (h : Carries frame body) :
    amsduToMsdu mem bss frame = amsduLoop mem bss frame.attrib 0 body := by
  obtain ⟨header, icv, hdata, hheader, hicv⟩ := h
  have hhdr : (header.take frame.attrib.hdrlen.toNat).length = frame.attrib.hdrlen.toNat :=
    List.length_take_of_le (by omega)
  have hiv : (header.drop frame.attrib.hdrlen.toNat).length = frame.attrib.ivLen.toNat := by
    rw [List.length_drop]
    omega
  have hpull : frame.pull frame.attrib.hdrlen.toNat
      = frame.withData (header.drop frame.attrib.hdrlen.toNat ++ (body ++ icv)) := by
    refine frame.pull_append ?_ hhdr
    rw [← List.append_assoc, List.take_append_drop, hdata, List.append_assoc]
  unfold amsduToMsdu
  rw [hpull, RecvFrameHdr.pullIv_append _ (RecvFrameHdr.data_withData _ _) hiv]
  dsimp only
  rw [RecvFrameHdr.attrib_pullIcv]
  exact congrArg (amsduLoop mem bss frame.attrib 0) (RecvFrameHdr.data_pullIcv _ rfl hicv)

/-- A frame with one packet. -/
structure Single (m : Msdu) (frame : RecvFrameHdr α) : Prop where
  amsdu : frame.attrib.amsdu = false
  dst : frame.attrib.dst = m.da
  src : frame.attrib.src = m.sa
  hdrlen : 24 ≤ frame.attrib.hdrlen.toNat
  carries : Carries frame m.payload

/-- The Ethernet header takes the place of the last `k` bytes of the header
and the first `c` of the packet. -/
theorem take_ehdr {header payload ehdr : Bytes} (k c : ℕ) (hk : k ≤ header.length)
    (hehdr : ehdr.length = k + c) (hc : c ≤ payload.length) :
    (ehdr ++ (header.drop (header.length - k) ++ payload).drop ehdr.length).take
      (header.drop (header.length - k) ++ payload).length = ehdr ++ payload.drop c := by
  have hlen : (header.drop (header.length - k)).length = k := by
    rw [List.length_drop]
    omega
  have hdrop : (header.drop (header.length - k) ++ payload).drop ehdr.length = payload.drop c := by
    rw [hehdr, ← List.drop_drop, List.drop_left' hlen]
  rw [hdrop]
  refine List.take_of_length_le ?_
  rw [List.length_append, List.length_append, List.length_drop, hlen]
  omega

theorem wlanhdrToEthhdr_of_single {m : Msdu} {frame : RecvFrameHdr α} (h : Single m frame) :
    (wlanhdrToEthhdr frame (rtwRecvLlcParse m.payload m.len)).map RecvFrameHdr.data
      = some m.packet := by
  obtain ⟨header, icv, hdata, hheader, hicv⟩ := h.carries
  have hlong := h.hdrlen
  have hda := m.length_da
  have hsa := m.length_sa
  have hcut : frame.pullIcv.data = header ++ m.payload := frame.data_pullIcv hdata hicv
  have hpull (k : ℕ) : frame.pullIcv.pull (header.length - k)
      = frame.pullIcv.withData (header.drop (header.length - k) ++ m.payload) := by
    have hsplit : frame.pullIcv.data
        = header.take (header.length - k) ++ (header.drop (header.length - k) ++ m.payload) := by
      rw [← List.append_assoc, List.take_append_drop, hcut]
    exact frame.pullIcv.pull_append hsplit (List.length_take_of_le (Nat.sub_le _ _))
  have hroom (k : ℕ) : ¬ (header ++ m.payload).length < header.length - k := by
    rw [List.length_append]
    omega
  have hlen : UInt16.ofNat (header ++ m.payload).length - UInt16.ofNat header.length = m.len := by
    rw [List.length_append, UInt16.ofNat_add, UInt16.add_comm, UInt16.add_sub_cancel]
    rfl
  unfold wlanhdrToEthhdr Msdu.packet rtwOsAllocMsduPkt
  dsimp only
  rw [RecvFrameHdr.attrib_pullIcv, ← hheader, hcut, m.toNat_len, List.take_length]
  cases hllc : rtwRecvLlcParse m.payload m.len with
  | keep =>
      simp only [if_true, Nat.add_zero]
      rw [if_neg (hroom ethHlen), hpull ethHlen, hlen, Option.map_some]
      have hheader' : ethHlen ≤ header.length := by
        rw [ethHlen]
        omega
      refine congrArg some ((take_ehdr ethHlen 0 hheader' ?_ (Nat.zero_le _)).trans ?_)
      · simp [h.dst, h.src, hda, hsa, htons, ethHlen, ethAlen]
      · simp [h.dst, h.src]
  | remove =>
      have hpayload : snapSize ≤ m.payload.length := by
        have := le_length_of_remove hllc
        rw [snapSize]
        omega
      have hsz : header.length + snapSize - ethHlen + 2 = header.length - snapSize := by
        rw [snapSize, ethHlen]
        omega
      simp only [reduceCtorEq, if_false]
      rw [hsz, if_neg (hroom snapSize), hpull snapSize, Option.map_some]
      have hheader' : snapSize ≤ header.length := by
        rw [snapSize]
        omega
      refine congrArg some ((take_ehdr snapSize snapSize hheader' ?_ hpayload).trans ?_)
      · simp [h.dst, h.src, hda, hsa, snapSize, ethAlen]
      · simp [h.dst, h.src]

theorem recvProcessMpdu_of_single {mem : Bytes → Bool} {bss : Bss} {m : Msdu}
    {frame : RecvFrameHdr α} (h : Single m frame) :
    recvProcessMpdu mem bss frame = handed bss m := by
  obtain ⟨header, icv, hdata, hheader, hicv⟩ := h.carries
  have hmsdu : frame.data.drop (frame.attrib.hdrlen.toNat + frame.attrib.ivLen.toNat)
      = m.payload ++ icv := by
    rw [hdata, List.append_assoc]
    exact List.drop_left' hheader
  have hlen : UInt16.ofNat frame.data.length
        - UInt16.ofNat (frame.attrib.hdrlen.toNat + frame.attrib.ivLen.toNat)
        - UInt16.ofNat frame.attrib.tail = m.len := by
    have hcancel (a b c : UInt16) : a + b + c - a - c = b := by grind
    rw [hdata, ← hheader, ← hicv, List.length_append, List.length_append, UInt16.ofNat_add,
      UInt16.ofNat_add]
    exact hcancel _ _ _
  unfold RxPktAttrib.tail at hlen
  unfold recvProcessMpdu handed
  rw [if_neg (by rw [h.amsdu]; exact Bool.false_ne_true)]
  dsimp only
  rw [hmsdu, hlen, rtwRecvLlcParse_append, h.dst, h.src]
  refine if_congr Iff.rfl rfl ?_
  obtain ⟨frame', hframe', hpacket⟩ := Option.map_eq_some_iff.mp (wlanhdrToEthhdr_of_single h)
  rw [hframe', ← hpacket]

/-- A packet for the bench's access point. -/
def benchOwn : Msdu where
  da := benchAp
  sa := [2, 0, 0, 0, 0, 2]
  payload := rtwRfc1042Header ++ [0x08, 0x00, 0x45]
  length_da := rfl
  length_sa := rfl
  length_payload := by decide

/-- One for another station. -/
def benchOther : Msdu where
  da := [2, 0, 0, 0, 0, 3]
  sa := [2, 0, 0, 0, 0, 2]
  payload := [0x01]
  length_da := rfl
  length_sa := rfl
  length_payload := by decide

/-- Header and packet number, `body`, MIC. -/
def benchFrame (body : Bytes) : Bytes := List.replicate 34 0 ++ body ++ List.replicate 8 0

def benchBody : Bytes :=
  [2, 0, 0, 0, 0, 1, 2, 0, 0, 0, 0, 2, 0, 9, 0xaa, 0xaa, 0x03, 0, 0, 0, 0x08, 0, 0x45, 0xff, 2, 0,
    0, 0, 0, 3, 2, 0, 0, 0, 0, 2, 0, 1, 0x01]

theorem carries_benchData (amsdu : Bool) (dst src body : Bytes) :
    Carries (benchData amsdu dst src (benchFrame body)) body :=
  ⟨List.replicate 34 0, List.replicate 8 0, rfl, rfl, rfl⟩

theorem of_validateAmsduContent {bss : Bss} {attrib : RxPktAttrib} {da sa : Bytes}
    (hmode : bss.amsduMode = .nonSpp) (hprivacy : bss.privacy = true)
    (h : validateAmsduContent bss attrib da sa = true) :
    (attrib.toFrDs = 1 → sa = attrib.ta) ∧ (attrib.toFrDs = 2 → da = attrib.ra)
      ∧ da ≠ rtwRfc1042Header := by
  rw [validateAmsduContent, if_pos ⟨hmode, hprivacy⟩] at h
  simp only [Bool.and_eq_true, Bool.not_eq_true', decide_eq_false_iff_not, not_and, not_not] at h
  exact ⟨h.1.2, h.1.1, h.2⟩

/-- Whatever the bytes of an aggregate are, and however little memory there
is, what comes out of it are packets that lie in it one after another, at
most 64 of them go up, and in a protected network each is from the station
that sent the frame, or to the one it was sent to. -/
theorem packets_lie_in_frame (mem : Bytes → Bool) (bss : Bss) {frame : RecvFrameHdr α}
    {body : Bytes} (hamsdu : frame.attrib.amsdu = true) (hcarries : Carries frame body) :
    ∃ ms, Aggregate (fun _ => True) ms body
      ∧ recvProcessMpdu mem bss frame = ms.flatMap (handed bss)
      ∧ (indicated (recvProcessMpdu mem bss frame)).length ≤ maxSubframeCount
      ∧ (bss.amsduMode = .nonSpp → bss.privacy = true → ∀ m ∈ ms,
        (frame.attrib.toFrDs = 1 → m.sa = frame.attrib.ta)
          ∧ (frame.attrib.toFrDs = 2 → m.da = frame.attrib.ra) ∧ m.da ≠ rtwRfc1042Header) := by
  obtain ⟨ms, h⟩ := exists_reads mem bss frame.attrib 0 body
  have hloop : recvProcessMpdu mem bss frame = amsduLoop mem bss frame.attrib 0 body := by
    rw [recvProcessMpdu, if_pos hamsdu, amsduToMsdu_of_carries hcarries]
  refine ⟨ms, h.aggregate, hloop.trans h.eq, ?_, fun hmode hprivacy m hm =>
    of_validateAmsduContent hmode hprivacy (h.valid m hm)⟩
  rw [hloop, ← Nat.zero_add (indicated _).length]
  exact h.count (by decide)

theorem bench_packets_lie_in_frame :
    ∃ ms, Aggregate (fun _ => True) ms (benchBody.take 30)
      ∧ recvProcessMpdu (fun pdata => pdata.length < 30) benchBss
          (benchData true [] [] (benchFrame (benchBody.take 30))) = ms.flatMap (handed benchBss)
      ∧ (indicated (recvProcessMpdu (fun pdata => pdata.length < 30) benchBss
          (benchData true [] [] (benchFrame (benchBody.take 30))))).length ≤ maxSubframeCount
      ∧ (benchBss.amsduMode = .nonSpp → benchBss.privacy = true → ∀ m ∈ ms,
        ((1 : UInt8) = 1 → m.sa = [2, 0, 0, 0, 0, 2]) ∧ ((1 : UInt8) = 2 → m.da = benchAp)
          ∧ m.da ≠ rtwRfc1042Header) :=
  packets_lie_in_frame _ _ rfl (carries_benchData ..)

/-! ## A bit that is set on the way -/

/-- The A-MSDU bit of the QoS control field is set. -/
def setAmsdu (hdr : Bytes) : Bytes := hdr.modify (qosOffset (getLe16 hdr 0)) (· ||| 0x80)

theorem le_qosOffset (fc : UInt16) : 24 ≤ qosOffset fc := by
  unfold qosOffset
  split <;> decide

theorem getD_setAmsdu (hdr : Bytes) {i : ℕ} (hi : i ≠ qosOffset (getLe16 hdr 0)) :
    (setAmsdu hdr).getD i 0 = hdr.getD i 0 := by
  rw [setAmsdu, List.getD_eq_getElem?_getD, List.getElem?_modify_ne _ _ hi.symm,
    List.getD_eq_getElem?_getD]

theorem or_and_of_disjoint (qc : UInt8) {k m : UInt8} (h : k &&& m = 0) :
    (qc ||| k) &&& m = qc &&& m := by
  have hdist : (qc ||| k) &&& m = qc &&& m ||| k &&& m :=
    UInt8.toBitVec_inj.1 BitVec.and_or_distrib_right
  rw [hdist, h, UInt8.or_zero]

theorem qosBits_setAmsdu {mode : AmsduMode} (hmode : mode ≠ .spp) (hdr : Bytes) :
    aadQos mode ((setAmsdu hdr).getD (qosOffset (getLe16 hdr 0)) 0)
        = aadQos mode (hdr.getD (qosOffset (getLe16 hdr 0)) 0)
      ∧ (setAmsdu hdr).getD (qosOffset (getLe16 hdr 0)) 0 &&& 0x0f
        = hdr.getD (qosOffset (getLe16 hdr 0)) 0 &&& 0x0f := by
  generalize hi : qosOffset (getLe16 hdr 0) = i
  rcases Nat.lt_or_ge i hdr.length with hlt | hge
  · have hset : (setAmsdu hdr).getD i 0 = hdr.getD i 0 ||| 0x80 := by
      rw [setAmsdu, hi, List.getD_eq_getElem?_getD, List.getElem?_modify_eq,
        List.getElem?_eq_getElem hlt, List.getD_eq_getElem _ _ hlt]
      rfl
    rw [hset, aadQos, aadQos, if_pos hmode, if_pos hmode, UInt8.and_assoc, UInt8.and_assoc]
    exact ⟨or_and_of_disjoint _ (by decide), or_and_of_disjoint _ (by decide)⟩
  · have hset : setAmsdu hdr = hdr := by
      rw [setAmsdu, hi, List.modify_eq_self hge]
    rw [hset]
    exact ⟨rfl, rfl⟩

/-- The integrity check does not see the bit. -/
theorem ccmpAadNonce_setAmsdu {mode : AmsduMode} (hmode : mode ≠ .spp) (hdr data : Bytes) :
    ccmpAadNonce mode (setAmsdu hdr) data = ccmpAadNonce mode hdr data := by
  have hoffset := le_qosOffset (getLe16 hdr 0)
  have hread {i : ℕ} (hi : i < 24) : (setAmsdu hdr).getD i 0 = hdr.getD i 0 :=
    getD_setAmsdu hdr (by omega)
  have hfc : getLe16 (setAmsdu hdr) 0 = getLe16 hdr 0 := by
    rw [getLe16, getLe16, hread (by decide), hread (by decide)]
  have hseq : getLe16 (setAmsdu hdr) 22 = getLe16 hdr 22 := by
    rw [getLe16, getLe16, hread (by decide), hread (by decide)]
  have haddr : bytesAt (setAmsdu hdr) 4 18 = bytesAt hdr 4 18 :=
    bytesAt_congr fun k _ hk => hread (Nat.lt_trans hk (by decide))
  have haddr2 : bytesAt (setAmsdu hdr) 10 6 = bytesAt hdr 10 6 :=
    bytesAt_congr fun k _ hk => hread (Nat.lt_trans hk (by decide))
  -- where there is a fourth address the field comes after it
  have haddr4 : (if hasAddr4 (getLe16 hdr 0) then bytesAt (setAmsdu hdr) 24 6 else [])
      = if hasAddr4 (getLe16 hdr 0) then bytesAt hdr 24 6 else [] := by
    split_ifs with h4
    · refine bytesAt_congr fun k _ hk => getD_setAmsdu hdr ?_
      rw [qosOffset, if_pos h4]
      omega
    · rfl
  obtain ⟨haad, hflags⟩ := qosBits_setAmsdu hmode hdr
  unfold ccmpAadNonce nonceFlags
  dsimp only
  rw [hfc, hseq, haddr, haddr2, haddr4, haad, hflags]

theorem modify_append_of_lt {β : Type} (f : β → β) {l : List β} (rest : List β) {i : ℕ}
    (h : i < l.length) : (l ++ rest).modify i f = l.modify i f ++ rest := by
  induction l generalizing i with
  | nil => exact absurd h (Nat.not_lt_zero i)
  | cons x l ih =>
      cases i with
      | zero => rfl
      | succ i => exact congrArg (x :: ·) (ih (Nat.lt_of_succ_lt_succ h))

theorem getLe16_append {hdr : Bytes} (rest : Bytes) (h : 2 ≤ hdr.length) :
    getLe16 (hdr ++ rest) 0 = getLe16 hdr 0 := by
  rw [getLe16, getLe16, List.getD_append _ _ _ _ (by omega), List.getD_append _ _ _ _ (by omega)]

theorem setAmsdu_append {hdr : Bytes} (rest : Bytes) (h : qosOffset (getLe16 hdr 0) < hdr.length) :
    setAmsdu (hdr ++ rest) = setAmsdu hdr ++ rest := by
  have hoffset := le_qosOffset (getLe16 hdr 0)
  rw [setAmsdu, setAmsdu, getLe16_append rest (by omega), modify_append_of_lt _ _ h]

theorem length_setAmsdu (hdr : Bytes) : (setAmsdu hdr).length = hdr.length :=
  List.length_modify _ _ _

theorem drop_setAmsdu (hdr : Bytes) {n : ℕ} (h : qosOffset (getLe16 hdr 0) < n) :
    (setAmsdu hdr).drop n = hdr.drop n := by
  rw [setAmsdu, List.drop_modify_of_lt _ _ _ _ h]

theorem ccmpOpen_setAmsdu {keyLen M : ℕ} {mode : AmsduMode} {tk hdr data : Bytes}
    (hmode : mode ≠ .spp) :
    ccmpOpen keyLen M mode tk (setAmsdu hdr) data = ccmpOpen keyLen M mode tk hdr data := by
  unfold ccmpOpen
  rw [ccmpAadNonce_setAmsdu hmode]

/-- A packet whose LLC header is read as the address of a subframe. -/
theorem amsduLoop_of_llc {mem : Bytes → Bool} {bss : Bss} {attrib : RxPktAttrib} {nr : ℕ}
    {text : Bytes} (hmode : bss.amsduMode = .nonSpp) (hprivacy : bss.privacy = true)
    (h : text.length < snapSize ∨ text.take snapSize = rtwRfc1042Header) :
    amsduLoop mem bss attrib nr text = [] := by
  obtain ⟨ms, hreads⟩ := exists_reads mem bss attrib nr text
  have hfirst {m : Msdu} {ms : List Msdu} {rest : Bytes} (htext : text = m.bytes ++ rest)
      (hvalid : ∀ m' ∈ m :: ms, validateAmsduContent bss attrib m'.da m'.sa = true) : False := by
    have hda : text.take snapSize = m.da := htext ▸ m.take_bytes rest
    have hlong : snapSize ≤ text.length := by
      rw [htext, List.length_append, m.length_bytes, snapSize, ethHlen]
      omega
    have hllc := h.resolve_left (Nat.not_lt.mpr hlong)
    exact (of_validateAmsduContent hmode hprivacy (hvalid m List.mem_cons_self)).2.2
      (hda.symm.trans hllc)
  rw [hreads.eq]
  cases hms : hreads.aggregate with
  | nil _ => rfl
  | last _ => exact (hfirst rfl hreads.valid).elim
  | cons _ _ => exact (hfirst rfl hreads.valid).elim

/-- Somebody sets the A-MSDU bit of an ordinary frame: it opens as it did,
to the same packet, but nothing comes out of it. -/
theorem spoofed_amsdu (mem : Bytes → Bool) (bss : Bss) (hmode : bss.amsduMode = .nonSpp)
    (hprivacy : bss.privacy = true) {key frame opened : Bytes} {keyLen hdrlen plen : ℕ}
    (hlen : plen ≤ frame.length)
    (h : rtwCcmpDecrypt bss.amsduMode key keyLen hdrlen frame plen = some opened)
    (hqos : qosOffset (getLe16 frame 0) < hdrlen)
    (hllc : (opened.drop (hdrlen + 8)).take snapSize = rtwRfc1042Header) :
    rtwCcmpDecrypt bss.amsduMode key keyLen hdrlen (setAmsdu frame) plen = some (setAmsdu opened)
      ∧ ∀ rx : RecvFrameHdr α, rx.data = (setAmsdu opened).take plen → rx.attrib.amsdu = true →
        rx.attrib.encrypt ≠ .noPrivacy → rx.attrib.hdrlen.toNat = hdrlen →
        rx.attrib.ivLen = 8 → rx.attrib.icvLen.toNat = ccmpMicLen keyLen →
        recvProcessMpdu mem bss rx = [] := by
  obtain ⟨head, body, mic, rest, text, hkey, rfl, hhead, hmic, rfl, htext, hopen, rfl⟩ :=
    exists_opened hlen h
  rw [getLe16_append _ (by omega)] at hqos
  have hspp : bss.amsduMode ≠ .spp := by
    rw [hmode]
    decide
  have hset (data : Bytes) : setAmsdu (head ++ data) = setAmsdu head ++ data :=
    setAmsdu_append data (by omega)
  have hhead' : (setAmsdu head).length = hdrlen + 8 := (length_setAmsdu head).trans hhead
  refine ⟨?_, fun rx hdata hamsdu hencrypt hhdrlen hivLen hicvLen => ?_⟩
  · rw [hset, hset, rtwCcmpDecrypt_append hkey hhead' hmic, ← hset, ccmpOpen_setAmsdu hspp,
      drop_setAmsdu head hqos, hopen]
    rfl
  · have hcarries : Carries rx text := by
      refine ⟨setAmsdu head, mic, ?_, ?_, ?_⟩
      · rw [hdata, hset, ← List.append_assoc, ← List.append_assoc, ← htext, ← hhead',
          ← List.length_append, ← List.length_append, List.take_left]
      · rw [hhead', hhdrlen, hivLen]
        rfl
      · rw [RxPktAttrib.tail, if_pos hencrypt, hicvLen, hmic]
    rw [recvProcessMpdu, if_pos hamsdu, amsduToMsdu_of_carries hcarries]
    refine amsduLoop_of_llc hmode hprivacy ?_
    rw [List.drop_left' hhead] at hllc
    rcases Nat.lt_or_ge text.length snapSize with hshort | hlong
    · exact Or.inl hshort
    · rw [List.take_append_of_le_length hlong] at hllc
      exact Or.inr hllc

def benchQosHead : Bytes :=
  [0x88, 0x41] ++ (benchHead.take 24).drop 2 ++ [0x00, 0x00] ++ benchHead.drop 24

def benchMic : Bytes := [0xdb, 0x7b, 0x3d, 0xcd, 0x05, 0x99, 0x3c, 0x98]

/-- A sealed frame with the beginning of an IP packet. -/
def benchQosSealed : Bytes :=
  benchQosHead ++ [0xa1, 0xc0, 0xbb, 0xab, 0x4a, 0x12, 0x32, 0x8d, 0x91, 0xdd] ++ benchMic

def benchQosOpened : Bytes :=
  benchQosHead ++ (rtwRfc1042Header ++ [0x08, 0x00, 0x45, 0x00]) ++ benchMic

theorem bench_spoofed_amsdu :
    rtwCcmpDecrypt .nonSpp benchKey 16 26 (setAmsdu benchQosSealed) 52
        = some (setAmsdu benchQosOpened)
      ∧ recvProcessMpdu (fun _ => true) benchBss
        (benchData true [] [] ((setAmsdu benchQosOpened).take 52)) = [] := by
  obtain ⟨hopens, hnothing⟩ := spoofed_amsdu (fun _ => true) benchBss rfl rfl
    (show 52 ≤ benchQosSealed.length by decide)
    (show rtwCcmpDecrypt .nonSpp benchKey 16 26 benchQosSealed 52 = some benchQosOpened
      by decide +kernel) (by decide) (by decide)
  exact ⟨hopens, hnothing _ rfl rfl (by decide) rfl rfl rfl⟩

end Specter
