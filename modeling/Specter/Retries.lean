import Specter.Decache

/-!
# Retries

What gets past duplicate detection over any run. Of the unicast frames of
a class it is those whose sequence control is not that of the one before,
whatever their packet numbers are (`passed_filter`), so that a sender who
repeats each packet until it is answered is heard once (`each_once`). The
packet numbers of group frames go up (`group_pns_increase`).
-/

namespace Specter

open Sealing (Bytes)

variable {α : Type}

/-! ## Sequence control -/

theorem DataFrame.seqCtrl_toNat (frame : DataFrame α) :
    frame.seqCtrl.toNat = 16 * frame.seqNum.toNat + frame.attrib.fragNum.toNat := by
  have hseq : frame.seqNum.toNat < 4096 := UInt16.lt_iff_toNat_lt.mp frame.seqNum_lt
  have hfrag : frame.attrib.fragNum.toNat < 16 := UInt8.lt_iff_toNat_lt.mp frame.attrib.fragNum_lt
  have hand : (frame.seqNum &&& 0xffff).toNat = frame.seqNum.toNat := by
    have h := Nat.and_two_pow_sub_one_eq_mod frame.seqNum.toNat 16
    simp only [Nat.reducePow, Nat.reduceSub] at h
    simp only [UInt16.toNat_and, UInt16.reduceToNat, h]
    omega
  have hlow : (frame.attrib.fragNum.toUInt16 &&& 0xf).toNat = frame.attrib.fragNum.toNat := by
    have h := Nat.and_two_pow_sub_one_eq_mod frame.attrib.fragNum.toNat 4
    simp only [Nat.reducePow, Nat.reduceSub] at h
    simp only [UInt16.toNat_and, UInt16.reduceToNat, UInt8.toNat_toUInt16, h]
    omega
  have hshift : ((frame.seqNum &&& 0xffff) <<< 4).toNat = frame.seqNum.toNat <<< 4 := by
    simp only [UInt16.toNat_shiftLeft, hand, UInt16.reduceToNat, Nat.shiftLeft_eq, Nat.reduceMod,
      Nat.reducePow]
    omega
  rw [DataFrame.seqCtrl, UInt16.toNat_or, hshift, hlow,
    ← Nat.shiftLeft_add_eq_or_of_lt (by omega), Nat.shiftLeft_eq]
  omega

/-- Where only group frames go. -/
def Rxseq.isGroup : Rxseq → Bool
  | bmcTid _ | nonqosBmc => true
  | tid _ | nonqos => false

theorem DataFrame.isGroup_prxseq (frame : DataFrame α) :
    frame.prxseq.isGroup = isMcast frame.attrib.ra := by
  unfold DataFrame.prxseq
  cases frame.qos <;> cases isMcast frame.attrib.ra <;> rfl

/-! ## What one frame does -/

theorem DataFrame.priority_le (frame : DataFrame α) : ¬ frame.priority > 15 := by
  have h := UInt8.lt_iff_toNat_lt.mp frame.priority_lt
  intro h'
  have h' := UInt8.lt_iff_toNat_lt.mp h'
  simp only [UInt8.reduceToNat] at h h'
  omega

theorem recvDecache_rxseq (psta : StaRecvPriv) (frame : DataFrame α) :
    (recvDecache psta frame).1.rxseq
      = Function.update psta.rxseq frame.prxseq frame.seqCtrl := by
  unfold recvDecache
  rw [if_neg frame.priority_le]
  split_ifs with h
  · rw [h, Function.update_eq_self]
  · rfl

theorem recvDecache_snd (psta : StaRecvPriv) (frame : DataFrame α) :
    (recvDecache psta frame).2 = true ↔ frame.seqCtrl ≠ psta.rxseq frame.prxseq := by
  unfold recvDecache
  rw [if_neg frame.priority_le]
  split_ifs with h
  · exact iff_of_false (fun hf => by cases hf) (not_not.mpr h)
  · exact iff_of_true rfl h

theorem recvUcastPnDecache_rxseq (psta : StaRecvPriv) (frame : DataFrame α) :
    (recvUcastPnDecache psta frame).1.rxseq = psta.rxseq := by
  unfold recvUcastPnDecache
  rw [if_neg frame.priority_le]
  dsimp only
  split_ifs <;> rfl

theorem recvUcastPnDecache_snd (psta : StaRecvPriv) (frame : DataFrame α) :
    (recvUcastPnDecache psta frame).2 = true := by
  unfold recvUcastPnDecache
  rw [if_neg frame.priority_le]
  dsimp only
  split_ifs <;> rfl

/-! ## Runs -/

namespace Decache

@[simp] theorem setSta_self (self : Decache) (ta : Bytes) (psta : StaRecvPriv) :
    (self.setSta ta psta).stas ta = psta := Function.update_self ..

@[simp] theorem setSta_of_ne {self : Decache} {ta a : Bytes} {psta : StaRecvPriv} (h : a ≠ ta) :
    (self.setSta ta psta).stas a = self.stas a := Function.update_of_ne h ..

theorem validate_isSta (self : Decache) (frame : DataFrame α) :
    (self.validate frame).1.isSta = self.isSta := by
  unfold validate
  dsimp only
  split
  · rfl
  · split <;> rfl

theorem validate_rxseq_self (self : Decache) (frame : DataFrame α) :
    ((self.validate frame).1.stas frame.attrib.ta).rxseq
      = Function.update (self.stas frame.attrib.ta).rxseq frame.prxseq frame.seqCtrl := by
  rw [← recvDecache_rxseq]
  unfold validate
  dsimp only
  split
  · next heq => rw [setSta_self, heq]
  · next heq =>
    split
    · rw [setSta_self, recvUcastPnDecache_rxseq, heq]
    · exact congrArg StaRecvPriv.rxseq (setSta_self ..) |>.trans (by rw [heq])

theorem validate_of_ne {self : Decache} {frame : DataFrame α} {a : Bytes}
    (h : a ≠ frame.attrib.ta) : (self.validate frame).1.stas a = self.stas a := by
  unfold validate
  dsimp only
  split
  · exact setSta_of_ne h
  · split
    · exact setSta_of_ne h
    · exact setSta_of_ne h

/-- A frame gets through if it is not the last one again. A group frame may
fail for its packet number. -/
theorem validate_snd (self : Decache) (frame : DataFrame α)
    (hkind : isMcast frame.attrib.ra = true → self.isSta = false) :
    (self.validate frame).2 = true
      ↔ frame.seqCtrl ≠ (self.stas frame.attrib.ta).rxseq frame.prxseq := by
  rw [← recvDecache_snd]
  unfold validate
  dsimp only
  split
  · next heq => rw [heq]
  · next heq =>
    rw [heq]
    refine iff_of_true ?_ rfl
    split
    · exact recvUcastPnDecache_snd ..
    · next hgroup =>
      have hap : self.isSta = false := hkind (by simpa using hgroup)
      simp [recvBcastPnDecache, hap]

end Decache

/-- A frame of this class from this station. -/
def ofClass (a : Bytes) (c : Rxseq) (frame : DataFrame α) : Bool :=
  frame.attrib.ta = a ∧ frame.prxseq = c

/-- The frames that come in. -/
def arrivals (es : List (DecacheEvent α)) : List (DataFrame α) := es.filterMap DecacheEvent.frame?

section Class

variable {self : Decache} {a : Bytes} {c : Rxseq} {es : List (DecacheEvent α)}

/-- What is kept for a class after an event. -/
theorem decacheStep_rxseq (e : DecacheEvent α) (he : e ≠ .allocStainfo a) :
    ((decacheStep self e).1.stas a).rxseq c
      = match e.frame?.filter (ofClass a c) with
        | some frame => frame.seqCtrl
        | none => (self.stas a).rxseq c := by
  cases e with
  | recv frame =>
      simp only [decacheStep, DecacheEvent.frame?, Option.filter_some]
      by_cases hta : frame.attrib.ta = a
      · subst hta
        rw [Decache.validate_rxseq_self]
        by_cases hc : frame.prxseq = c
        · rw [if_pos (by simp [ofClass, hc]), ← hc, Function.update_self]
        · rw [if_neg (by simp [ofClass, hc]), Function.update_of_ne (Ne.symm hc)]
      · rw [if_neg (by simp [ofClass, hta]), Decache.validate_of_ne (Ne.symm hta)]
  | allocStainfo hwaddr =>
      have hne : a ≠ hwaddr := fun h => he (h ▸ rfl)
      simp [decacheStep, DecacheEvent.frame?, hne]
  | setGroupKey keyId seq => rfl

theorem decacheStep_isSta (e : DecacheEvent α) : (decacheStep self e).1.isSta = self.isSta := by
  cases e with
  | recv frame => exact self.validate_isSta frame
  | allocStainfo hwaddr => rfl
  | setGroupKey keyId seq => rfl

theorem passed_cons (self : Decache) (e : DecacheEvent α) (es : List (DecacheEvent α)) :
    passed self (e :: es)
      = (if (decacheStep self e).2 then e.frame?.toList else [])
        ++ passed (decacheStep self e).1 es := by
  rw [passed]
  split <;> simp [*]

theorem arrivals_cons (e : DecacheEvent α) (es : List (DecacheEvent α)) :
    arrivals (e :: es) = e.frame?.toList ++ arrivals es := by
  cases e <;> rfl

/-- **Run.** Of the frames of a class, in one association, those get through
that are not the last one again. -/
theorem passed_filter (hsess : .allocStainfo a ∉ es)
    (hkind : c.isGroup = true → self.isSta = false) :
    (passed self es).filter (ofClass a c)
      = StopAndWait.handed DataFrame.seqCtrl ((self.stas a).rxseq c)
          ((arrivals es).filter (ofClass a c)) := by
  induction es generalizing self with
  | nil => rfl
  | cons e es ih =>
      have ih := @ih (decacheStep self e).1 (fun h => hsess (List.mem_cons_of_mem e h))
        fun hc => (decacheStep_isSta e).trans (hkind hc)
      rw [decacheStep_rxseq e fun h => hsess (h ▸ List.mem_cons_self)] at ih
      rw [passed_cons, arrivals_cons, List.filter_append, List.filter_append, ih]
      cases hf : e.frame?.filter (ofClass a c) with
      | none =>
          -- another class, or no frame
          have hout : e.frame?.toList.filter (ofClass a c) = [] := by
            rw [← Option.toList_filter, hf]; rfl
          have hpass : (if (decacheStep self e).2 then e.frame?.toList else []).filter
              (ofClass a c) = [] := by
            split
            · exact hout
            · rfl
          rw [hout, hpass]
          rfl
      | some frame =>
          obtain ⟨hframe, hclass⟩ := Option.filter_eq_some_iff.mp hf
          obtain rfl : e = .recv frame := by
            cases e <;> simp_all [DecacheEvent.frame?]
          obtain ⟨rfl, rfl⟩ : frame.attrib.ta = a ∧ frame.prxseq = c := by
            simpa [ofClass] using hclass
          have hok : (decacheStep self (.recv frame)).2 = true
              ↔ frame.seqCtrl ≠ (self.stas frame.attrib.ta).rxseq frame.prxseq :=
            self.validate_snd frame fun h => hkind (frame.isGroup_prxseq.trans h)
          have hin : (DecacheEvent.recv frame).frame?.toList.filter
              (ofClass frame.attrib.ta frame.prxseq) = [frame] := List.filter_cons_of_pos hclass
          rw [hin, List.singleton_append]
          dsimp only
          by_cases hdup : frame.seqCtrl = (self.stas frame.attrib.ta).rxseq frame.prxseq
          · rw [if_neg fun h => hok.mp h hdup, StopAndWait.handed_cons_of_eq hdup, ← hdup,
              List.filter_nil, List.nil_append]
          · rw [if_pos (hok.mpr hdup), StopAndWait.handed_cons_of_ne hdup, hin,
              List.singleton_append]

/-- How a station sends the frames of a class: packet by packet, and each
fragment until it gives up on it; `pos` counts 16 to a packet. The next to
come in is less than 4096 packets further on. -/
structure Repeats (pos : DataFrame α → ℕ) (frames : List (DataFrame α)) : Prop where
  numbered : ∀ frame ∈ frames, frame.seqNum.toNat = pos frame / 16 % 4096
    ∧ frame.attrib.fragNum.toNat = pos frame % 16
  inTurn : frames.IsChain fun frame next => pos frame ≤ pos next ∧ pos next < pos frame + 65536

theorem Repeats.chain {pos : DataFrame α → ℕ} {frames : List (DataFrame α)}
    (h : Repeats pos frames) :
    frames.IsChain (StopAndWait.InTurn DataFrame.seqCtrl pos) := by
  refine h.inTurn.imp_of_mem_imp fun frame next hframe hnext hturn => ⟨hturn.1, ?_⟩
  obtain ⟨hseq, hfrag⟩ := h.numbered frame hframe
  obtain ⟨hseq', hfrag'⟩ := h.numbered next hnext
  have hctrl := frame.seqCtrl_toNat
  have hctrl' := next.seqCtrl_toNat
  rw [← UInt16.toNat_inj]
  omega

/-- Whatever the other stations and the other classes do: of the frames of a
class that come in after the station has associated, however often, each gets
through once, and in order. -/
theorem each_once {pos : DataFrame α → ℕ} (hsess : .allocStainfo a ∉ es)
    (hkind : c.isGroup = true → self.isSta = false)
    (hsent : Repeats pos ((arrivals es).filter (ofClass a c)))
    (hfirst : ∀ frame ∈ ((arrivals es).filter (ofClass a c)).head?, frame.seqCtrl ≠ 0xffff) :
    ((passed self (.allocStainfo a :: es)).filter (ofClass a c)).map pos
      = (((arrivals es).filter (ofClass a c)).map pos).dedup := by
  have hrun := @passed_filter α (self.setSta a .init) a c es hsess hkind
  rw [Decache.setSta_self] at hrun
  exact (congrArg (List.map pos) hrun).trans (StopAndWait.map_handed hsent.chain hfirst)

/-- Of the packets before and after the numbers wrap. -/
def benchPos (frame : DataFrame ℕ) : ℕ := if frame.seqNum = 0 then 65536 else 65520

/-- The number wraps, and a packet comes in with a packet number of before. -/
theorem bench_each_once :
    ((passed (benchDecache false) (.allocStainfo benchAp ::
        [.recv (benchQos [2, 0, 0, 0, 0, 2] 4095 (by decide) 8),
          .recv (benchQos [2, 0, 0, 0, 0, 2] 4095 (by decide) 8),
          .recv (benchQos bcAddr 0 (by decide) 1),
          .recv (benchQos [2, 0, 0, 0, 0, 2] 0 (by decide) 7),
          .recv (benchQos [2, 0, 0, 0, 0, 2] 0 (by decide) 7)])).filter
        (ofClass benchAp (.tid 5))).map benchPos
      = [65520, 65536] :=
  (each_once (by simp) (by decide) ⟨by decide, by decide⟩ (by decide)).trans (by decide)

end Class

/-! ## Packet numbers of group frames -/

theorem and_bit47 (n : ℕ) : n &&& 0x800000000000 = n / 0x800000000000 % 2 * 0x800000000000 := by
  have h := Nat.and_two_pow n 47
  rw [Nat.testBit_eq_decide_div_mod_eq] at h
  simp only [Nat.reducePow] at h
  rw [h]
  rcases Nat.mod_two_eq_zero_or_one (n / 0x800000000000) with h | h <;> simp [h]

/-- Numbers below `2 ^ 47` are compared as they are. -/
theorem validPnChk_iff {new old : UInt64} (hnew : new < 0x800000000000)
    (hold : old < 0x800000000000) : validPnChk new old = true ↔ old = 0 ∨ old < new := by
  have hbit : pnLessChk old new = true ↔ (old - new).toNat / 0x800000000000 % 2 = 1 := by
    unfold pnLessChk
    rw [bne_iff_ne, Ne, ← UInt64.toNat_inj, UInt64.toNat_and]
    have h := and_bit47 (old - new).toNat
    simp only [UInt64.reduceToNat, UInt64.toNat_zero] at h ⊢
    omega
  have hnew := UInt64.lt_iff_toNat_lt.mp hnew
  have hold := UInt64.lt_iff_toNat_lt.mp hold
  simp only [UInt64.reduceToNat] at hnew hold
  rw [validPnChk, Bool.or_eq_true, beq_iff_eq, hbit, UInt64.toNat_sub, UInt64.lt_iff_toNat_lt]
  refine or_congr_right ?_
  omega

/-- `pkt_pn`. -/
def DataFrame.pktPn (frame : DataFrame α) : UInt64 := (ivPn frame.ivBytes frame.attrib.encrypt).1

/-- `key_id`. -/
def DataFrame.keyId (frame : DataFrame α) : UInt8 := (ivPn frame.ivBytes frame.attrib.encrypt).2

/-- A group frame under this key. -/
def ofGroupKey (keyId : UInt8) (frame : DataFrame α) : Bool :=
  isMcast frame.attrib.ra ∧ frame.pnChecked ∧ frame.keyId = keyId

section GroupKey

variable {self : Decache} {keyId : UInt8} {frame : DataFrame α} {es : List (DecacheEvent α)}

theorem recvBcastPnDecache_cases (isSta : Bool) (ivSeq : UInt8 → UInt64) (frame : DataFrame α) :
    (recvBcastPnDecache isSta ivSeq frame).1 = ivSeq
        ∧ ((recvBcastPnDecache isSta ivSeq frame).2 = true →
          ¬ (frame.pnChecked = true ∧ isSta = true))
      ∨ (recvBcastPnDecache isSta ivSeq frame).1 = Function.update ivSeq frame.keyId frame.pktPn
        ∧ (recvBcastPnDecache isSta ivSeq frame).2 = true
        ∧ frame.pnChecked = true ∧ validPnChk frame.pktPn (ivSeq frame.keyId) = true := by
  by_cases hcheck : (frame.pnChecked && isSta) = true
  · by_cases hvalid : validPnChk frame.pktPn (ivSeq frame.keyId) = true
    · have heq : recvBcastPnDecache isSta ivSeq frame
          = (Function.update ivSeq frame.keyId frame.pktPn, true) :=
        (if_pos hcheck).trans (if_pos hvalid)
      rw [heq]
      exact Or.inr ⟨rfl, rfl, (Bool.and_eq_true_iff.mp hcheck).1, hvalid⟩
    · have heq : recvBcastPnDecache isSta ivSeq frame = (ivSeq, false) :=
        (if_pos hcheck).trans (if_neg hvalid)
      rw [heq]
      exact Or.inl ⟨rfl, fun h => by cases h⟩
  · have heq : recvBcastPnDecache isSta ivSeq frame = (ivSeq, true) := if_neg hcheck
    rw [heq]
    exact Or.inl ⟨rfl, fun _ h => hcheck (by rw [h.1, h.2]; rfl)⟩

/-- The last packet number of a key stays, unless a group frame gets through
that is valid behind it, and then it is that frame's. -/
theorem validate_ivSeq_cases (self : Decache) (frame : DataFrame α) :
    (self.validate frame).1.ivSeq = self.ivSeq
        ∧ ((self.validate frame).2 = true →
          ¬ (isMcast frame.attrib.ra = true ∧ frame.pnChecked = true ∧ self.isSta = true))
      ∨ (self.validate frame).1.ivSeq = Function.update self.ivSeq frame.keyId frame.pktPn
        ∧ (self.validate frame).2 = true
        ∧ (isMcast frame.attrib.ra = true ∧ frame.pnChecked = true)
        ∧ validPnChk frame.pktPn (self.ivSeq frame.keyId) = true := by
  unfold Decache.validate
  dsimp only
  split
  · exact Or.inl ⟨rfl, fun h => by cases h⟩
  · split
    · next hucast => exact Or.inl ⟨rfl, fun _ h => by simp [h.1] at hucast⟩
    · next hgroup =>
      have hgroup : isMcast frame.attrib.ra = true := by simpa using hgroup
      rcases recvBcastPnDecache_cases self.isSta self.ivSeq frame with
        ⟨hsame, hfail⟩ | ⟨hnext, hok, hpn, hvalid⟩
      · exact Or.inl ⟨hsame, fun h hc => hfail h hc.2⟩
      · exact Or.inr ⟨hnext, hok, ⟨hgroup, hpn⟩, hvalid⟩

theorem ofGroupKey_iff : ofGroupKey keyId frame = true
    ↔ isMcast frame.attrib.ra = true ∧ frame.pnChecked = true ∧ frame.keyId = keyId := by
  simp [ofGroupKey]

/-- What an event does to the last packet number of a key. -/
theorem decacheStep_ivSeq (hsta : self.isSta = true) (e : DecacheEvent α)
    (hkey : ∀ seq, e ≠ .setGroupKey keyId seq) :
    (∃ frame, e = .recv frame ∧ ofGroupKey keyId frame = true ∧ (decacheStep self e).2 = true
        ∧ validPnChk frame.pktPn (self.ivSeq keyId) = true
        ∧ (decacheStep self e).1.ivSeq keyId = frame.pktPn)
      ∨ (decacheStep self e).1.ivSeq keyId = self.ivSeq keyId
        ∧ (if (decacheStep self e).2 then e.frame?.toList else []).filter (ofGroupKey keyId)
          = [] := by
  cases e with
  | recv frame =>
      rcases validate_ivSeq_cases self frame with ⟨hsame, hfail⟩ | ⟨hnext, hok, hgroup, hvalid⟩
      · refine Or.inr ⟨congrFun hsame keyId, ?_⟩
        split
        · next h =>
          refine List.filter_cons_of_neg fun hf => ?_
          obtain ⟨hmcast, hpn, -⟩ := ofGroupKey_iff.mp hf
          exact hfail h ⟨hmcast, hpn, hsta⟩
        · rfl
      · by_cases hk : frame.keyId = keyId
        · subst hk
          exact Or.inl ⟨frame, rfl, ofGroupKey_iff.mpr ⟨hgroup.1, hgroup.2, rfl⟩, hok, hvalid,
            (congrFun hnext _).trans (Function.update_self ..)⟩
        · refine Or.inr ⟨(congrFun hnext _).trans (Function.update_of_ne (Ne.symm hk) ..), ?_⟩
          split
          · exact List.filter_cons_of_neg fun hf => hk (ofGroupKey_iff.mp hf).2.2
          · rfl
  | allocStainfo hwaddr => exact Or.inr ⟨rfl, rfl⟩
  | setGroupKey k seq =>
      have hne : keyId ≠ k := fun h => hkey seq (h ▸ rfl)
      exact Or.inr ⟨Function.update_of_ne hne .., rfl⟩

/-- **Run.** The packet numbers of the group frames that a station accepts
under one key go up. -/
theorem pns_passed (hsta : self.isSta = true) (hkey : ∀ seq, .setGroupKey keyId seq ∉ es)
    (hpn : ∀ frame ∈ (arrivals es).filter (ofGroupKey keyId),
      0 < frame.pktPn ∧ frame.pktPn < 0x800000000000)
    (hstart : self.ivSeq keyId < 0x800000000000) :
    (self.ivSeq keyId :: ((passed self es).filter (ofGroupKey keyId)).map DataFrame.pktPn).Pairwise
      (· < ·) := by
  induction es generalizing self with
  | nil => exact List.pairwise_singleton ..
  | cons e es ih =>
      rw [arrivals_cons, List.filter_append] at hpn
      have ih := @ih (decacheStep self e).1 ((decacheStep_isSta e).trans hsta)
        (fun seq h => hkey seq (List.mem_cons_of_mem e h))
        fun frame h => hpn frame (List.mem_append_right _ h)
      rw [passed_cons, List.filter_append]
      rcases decacheStep_ivSeq hsta e fun seq h => hkey seq (h ▸ List.mem_cons_self) with
        ⟨frame, rfl, hframe, hok, hvalid, hnext⟩ | ⟨hsame, hnone⟩
      · have hout : (DecacheEvent.recv frame).frame?.toList.filter (ofGroupKey keyId) = [frame] :=
          List.filter_cons_of_pos hframe
        obtain ⟨hpos, hlt⟩ := hpn frame (List.mem_append_left _ (hout ▸ List.mem_singleton_self _))
        rw [hnext] at ih
        have hup : self.ivSeq keyId < frame.pktPn :=
          ((validPnChk_iff hlt hstart).mp hvalid).elim (fun h => h ▸ hpos) id
        rw [if_pos hok, hout, List.singleton_append, List.map_cons]
        exact List.Pairwise.cons_cons_of_trans hup (ih hlt)
      · rw [hnone, List.nil_append, ← hsame]
        exact ih (hsame ▸ hstart)

end GroupKey

end Specter
