import Specter.DefragJoin

/-!
# Whole packets

What comes out of a station's queue over any run, with other stations'
frames, key changes and new associations in between. A frame that is
handed on was joined from fragments of one station, of one association
and under one key (`one_session`); if the fragments a station's key
vouches for are pieces of packets sent under it, only whole packets come
out (`whole_packets`); and one whose fragments all come in does come out
(`reassembled`).
-/

namespace Specter

open Sealing (Bytes)
open Fragmentation (Piece Packet Numbered Sent)

variable {α : Type} {michael : Adapter α → RecvFrameHdr α → Bool} {micOk : Bool}
  {self t : Adapter α} {a : Bytes}

/-! ## The record of a station -/

def RecvFrameHdr.stamped (frame : RecvFrameHdr α) (keytrack : UInt32) : RecvFrameHdr α :=
  { frame with keytrack := keytrack }

theorem RecvFrameHdr.stripped_stamped (frame : RecvFrameHdr α) (keytrack : UInt32) :
    (frame.stamped keytrack).stripped.data = frame.stripped.data := by
  unfold stripped pull stamped
  dsimp only
  split_ifs <;> rfl

instance (frame : RecvFrameHdr α) : Decidable frame.IsFragment :=
  inferInstanceAs (Decidable (_ ∨ _))

/-- The fragments of a station that reach its queue. -/
def Concerns (a : Bytes) (frame : RecvFrameHdr α) : Prop :=
  frame.attrib.ta = a ∧ frame.IsFragment ∧ isMcast frame.attrib.ra = false

instance (frame : RecvFrameHdr α) : Decidable (Concerns a frame) :=
  inferInstanceAs (Decidable (_ ∧ _ ∧ _))

/-- The queue after a fragment. -/
def StaInfo.next (sta : StaInfo α) (frame : RecvFrameHdr α) : StaInfo α :=
  { sta with
    defragQ :=
      if frame.attrib.mfrag then
        if frame.attrib.fragNum = 0 then [frame.stamped sta.keytrack]
        else sta.defragQ ++ [frame.stamped sta.keytrack]
      else [] }

theorem hashAddr_of_unicast (ha : isMcast a = false) : hashAddr a = a := by
  rw [hashAddr, ha, if_neg Bool.false_ne_true]

theorem bcAddr_ne (ha : isMcast a = false) : bcAddr ≠ a := by
  rintro rfl
  exact absurd ha (by decide)

theorem hashAddr_ne (ha : isMcast a = false) {addr : Bytes} (h : addr ≠ a) : hashAddr addr ≠ a := by
  unfold hashAddr
  split
  · exact bcAddr_ne ha
  · exact h

namespace Adapter

theorem getStainfo_congr (h : t.stas = self.stas) (hwaddr : Bytes) :
    t.getStainfo hwaddr = self.getStainfo hwaddr := by
  rw [getStainfo, getStainfo, h]

/-- Another record in the place of that of a frame's station. -/
theorem getStainfo_setSta_of_defragSta (ha : isMcast a = false) {frame : RecvFrameHdr α}
    {sta : StaInfo α} (hsta : self.defragSta frame = some sta) (sta' : StaInfo α)
    (hmac : sta'.macAddr = sta.macAddr) :
    (self.getStainfo a = some sta ∧ frame.attrib.ta = a
        ∧ (self.setSta sta').getStainfo a = some sta')
      ∨ ((frame.attrib.ta = a → self.getStainfo a = none)
        ∧ (self.setSta sta').getStainfo a = self.getStainfo a) := by
  have ha' := hashAddr_of_unicast ha
  rcases getStainfo_of_defragSta hsta with hknown | ⟨hnone, hbc, -⟩
  · by_cases hta : frame.attrib.ta = a
    · rw [hta] at hknown
      exact Or.inl ⟨hknown, hta, getStainfo_setSta_self hknown hmac⟩
    · refine Or.inr ⟨fun h => absurd h hta, getStainfo_setSta_ne ?_⟩
      rw [hmac, macAddr_of_getStainfo hknown, ha']
      exact hashAddr_ne ha hta
  · refine Or.inr ⟨fun hta => hta ▸ hnone, getStainfo_setSta_ne ?_⟩
    rw [hmac, macAddr_of_getStainfo hbc, ha']
    exact bcAddr_ne ha

end Adapter

/-- **Record.** Only a fragment of its own changes the record of a station. -/
theorem getStainfo_received (ha : isMcast a = false) {frame : RecvFrameHdr α}
    (h : Received micOk self frame t) :
    t.getStainfo a = if Concerns a frame then (self.getStainfo a).map (StaInfo.next · frame)
      else self.getStainfo a := by
  have hrecord {sta : StaInfo α} (hsta : self.defragSta frame = some sta)
      (hfrag : frame.IsFragment) (hra : isMcast frame.attrib.ra = false)
      (hstas : t.stas = (self.setSta (sta.next frame)).stas) :
      t.getStainfo a = if Concerns a frame then (self.getStainfo a).map (StaInfo.next · frame)
        else self.getStainfo a := by
    rw [Adapter.getStainfo_congr hstas]
    rcases Adapter.getStainfo_setSta_of_defragSta ha hsta (sta.next frame) rfl with
      ⟨hknown, hta, hset⟩ | ⟨hnone, hset⟩
    · rw [if_pos ⟨hta, hfrag, hra⟩, hknown, hset, Option.map_some]
    · split
      · next hc => rw [hset, hnone hc.1, Option.map_none]
      · exact hset
  cases h with
  | passes hwhole =>
      rw [if_neg fun hc => hwhole hc.2.1]
      exact Adapter.getStainfo_congr (Adapter.hand_stas micOk frame) a
  | drops _ hdrop =>
      split
      · next hc =>
          have hsta := hdrop.resolve_left (by rw [hc.2.2]; exact Bool.false_ne_true)
          have hnone : self.getStainfo a = none := by
            rw [Adapter.defragSta, hc.1] at hsta
            split at hsta
            · cases hsta
            · assumption
          rw [hnone, Option.map_none]
          exact hnone
      · rfl
  | starts hsta hra hmore hfirst =>
      refine hrecord hsta (Or.inl hmore) hra ?_
      rw [StaInfo.next, if_pos hmore, if_pos hfirst]
      rfl
  | waits hsta hra hmore hfirst =>
      refine hrecord hsta (Or.inl hmore) hra ?_
      rw [StaInfo.next, if_pos hmore, if_neg hfirst]
      rfl
  | fails hsta hra hmore hfirst hq hdefrag =>
      refine hrecord hsta (Or.inr hfirst) hra ?_
      rw [StaInfo.next, hmore, if_neg Bool.false_ne_true]
      rfl
  | joins hsta hra hmore hfirst hq hdefrag =>
      refine hrecord hsta (Or.inr hfirst) hra ((Adapter.hand_stas micOk _).trans ?_)
      rw [StaInfo.next, hmore, if_neg Bool.false_ne_true]
      rfl

/-- What an event does to the record of the station `a`, if it has one. -/
def recordStep (a : Bytes) (record : Option (StaInfo α)) : DefragEvent α → Option (StaInfo α)
  | .recv frame => if Concerns a frame then record.map (StaInfo.next · frame) else record
  | .setStakey addr =>
    if addr = a then record.map fun sta => { sta with keytrack := sta.keytrack + 1 } else record
  | .allocStainfo addr => if addr = a then some ⟨a, 0, []⟩ else record
  | .freeStainfo addr => if addr = a then none else record

/-- **Step.** The record of a station goes its own way, whatever happens to
the others. -/
theorem getStainfo_step (ha : isMcast a = false) {e : DefragEvent α}
    (h : defragStep michael self e = .ok t) :
    t.getStainfo a = recordStep a (self.getStainfo a) e := by
  have ha' := hashAddr_of_unicast ha
  cases e with
  | recv frame =>
      obtain rfl := Except.ok.inj h
      exact getStainfo_received ha (received_chkDefrag (michael self frame) self frame)
  | setStakey addr =>
      simp only [defragStep] at h
      simp only [recordStep]
      split at h <;> obtain rfl := Except.ok.inj h
      · next hnone =>
          split_ifs with haddr
          · subst haddr
            rw [hnone, Option.map_none]
          · rfl
      · next sta hsta =>
          split_ifs with haddr
          · subst haddr
            rw [hsta, Option.map_some]
            exact Adapter.getStainfo_setSta_self hsta rfl
          · refine Adapter.getStainfo_setSta_ne ?_
            rw [Adapter.macAddr_of_getStainfo hsta, ha']
            exact hashAddr_ne ha haddr
  | allocStainfo addr =>
      simp only [defragStep] at h
      split_ifs at h
      obtain rfl := Except.ok.inj h
      simp only [recordStep]
      unfold Adapter.getStainfo
      rw [List.find?_cons, ha']
      split_ifs with haddr
      · rw [decide_eq_true haddr, haddr]
      · rw [decide_eq_false haddr]
  | freeStainfo addr =>
      simp only [defragStep] at h
      simp only [recordStep]
      split at h <;> obtain rfl := Except.ok.inj h
      · next hnone =>
          split_ifs with haddr
          · exact haddr ▸ hnone
          · rfl
      · next sta hsta =>
          have hmac := Adapter.macAddr_of_getStainfo hsta
          unfold Adapter.getStainfo
          dsimp only
          rw [List.find?_filter]
          split_ifs with haddr
          · subst haddr
            refine List.find?_eq_none.mpr fun s _ => ?_
            simp [hmac]
          · refine congrArg (List.find? · self.stas) (funext fun s => ?_)
            have hne := hashAddr_ne ha haddr
            by_cases hs : s.macAddr = hashAddr a
            · simp [hs, hmac, ha', Ne.symm hne]
            · simp [hs]

/-! ## Sessions -/

/-- The associations of a station so far, and its keys in the present one. -/
def sessionStep (a : Bytes) : ℕ × ℕ → DefragEvent α → ℕ × ℕ
  | (assoc, key), .allocStainfo addr => if addr = a then (assoc + 1, 0) else (assoc, key)
  | (assoc, key), .setStakey addr => if addr = a then (assoc, key + 1) else (assoc, key)
  | session, _ => session

def session (a : Bytes) (es : List (DefragEvent α)) : ℕ × ℕ := es.foldl (sessionStep a) (0, 0)

theorem session_append_singleton (es : List (DefragEvent α)) (e : DefragEvent α) :
    session a (es ++ [e]) = sessionStep a (session a es) e := by
  rw [session, List.foldl_append]
  rfl

/-- A property that the fragments of a station have when they come in, in
the session they come in. -/
def OnArrival (a : Bytes) (Q : ℕ × ℕ → RecvFrameHdr α → Prop) (es : List (DefragEvent α)) : Prop :=
  ∀ pre frame, pre ++ [.recv frame] <+: es → Concerns a frame → Q (session a pre) frame

/-- What is kept of a station: its key by number, and in its queue
fragments of the present association, each with the number of the key it
came in under. -/
structure Queued (Q : ℕ × ℕ → RecvFrameHdr α → Prop) (session : ℕ × ℕ) (sta : StaInfo α) :
    Prop where
  keytrack : sta.keytrack = UInt32.ofNat session.2
  queue : ∀ f ∈ sta.defragQ, f.attrib.mfrag = true ∧ ∃ frame, ∃ key ≤ session.2,
    f = frame.stamped (UInt32.ofNat key) ∧ Q (session.1, key) frame

variable {Q : ℕ × ℕ → RecvFrameHdr α → Prop}

theorem Queued.next {session : ℕ × ℕ} {sta : StaInfo α} (h : Queued Q session sta)
    {frame : RecvFrameHdr α} (hframe : Q session frame) : Queued Q session (sta.next frame) where
  keytrack := h.keytrack
  queue := by
    have hnew : frame.attrib.mfrag = true → ∀ f ∈ [frame.stamped sta.keytrack],
        f.attrib.mfrag = true ∧ ∃ frame, ∃ key ≤ session.2,
          f = frame.stamped (UInt32.ofNat key) ∧ Q (session.1, key) frame := by
      intro hmore f hf
      obtain rfl := List.mem_singleton.mp hf
      exact ⟨hmore, frame, session.2, le_rfl, by rw [h.keytrack], hframe⟩
    intro f hf
    unfold StaInfo.next at hf
    dsimp only at hf
    split_ifs at hf with hmore hfirst
    · exact hnew hmore f hf
    · rcases List.mem_append.mp hf with hf | hf
      · exact h.queue f hf
      · exact hnew hmore f hf
    · cases hf

theorem Queued.rekeyed {session : ℕ × ℕ} {sta : StaInfo α} (h : Queued Q session sta) :
    Queued Q (session.1, session.2 + 1) { sta with keytrack := sta.keytrack + 1 } where
  keytrack := by
    rw [UInt32.ofNat_add, ← h.keytrack]
    rfl
  queue := fun f hf => by
    obtain ⟨hmore, frame, key, hkey, hf⟩ := h.queue f hf
    exact ⟨hmore, frame, key, Nat.le_succ_of_le hkey, hf⟩

/-- **Run.** The record of a station is right after any run. -/
theorem queued_of_run (ha : isMcast a = false) {es : List (DefragEvent α)} {s : Adapter α}
    (h : runDefrag michael Adapter.init es = .ok s) (hQ : OnArrival a Q es) {sta : StaInfo α}
    (hsta : s.getStainfo a = some sta) : Queued Q (session a es) sta := by
  suffices hrun : OnArrival a Q es → ∀ sta, s.getStainfo a = some sta → Queued Q (session a es) sta
    from hrun hQ sta hsta
  refine Run.run_induction (P := fun es s => OnArrival a Q es →
      ∀ sta, s.getStainfo a = some sta → Queued Q (session a es) sta)
    (fun _ sta hsta => by cases hsta) (fun es s e t hs ih hstep hQ sta' hsta' => ?_) h
  have hbefore := ih fun pre frame hpre => hQ pre frame (hpre.trans (List.prefix_append _ _))
  rw [session_append_singleton]
  rw [getStainfo_step ha hstep] at hsta'
  cases e with
  | recv frame =>
      simp only [recordStep] at hsta'
      split_ifs at hsta' with hc
      · obtain ⟨sta, hsta, rfl⟩ := Option.map_eq_some_iff.mp hsta'
        exact (hbefore sta hsta).next (hQ es frame (List.prefix_refl _) hc)
      · exact hbefore sta' hsta'
  | setStakey addr =>
      simp only [recordStep] at hsta'
      rw [sessionStep]
      split_ifs at hsta' ⊢ with haddr
      · obtain ⟨sta, hsta, rfl⟩ := Option.map_eq_some_iff.mp hsta'
        exact (hbefore sta hsta).rekeyed
      · exact hbefore sta' hsta'
  | allocStainfo addr =>
      simp only [recordStep] at hsta'
      rw [sessionStep]
      split_ifs at hsta' ⊢ with haddr
      · obtain rfl := Option.some.inj hsta'
        exact ⟨rfl, fun f hf => by cases hf⟩
      · exact hbefore sta' hsta'
  | freeStainfo addr =>
      simp only [recordStep] at hsta'
      split_ifs at hsta' with haddr
      exact hbefore sta' hsta'

theorem exists_map_eq {β γ : Type} {f : β → γ} {P : β → Prop} {ys : List γ}
    (h : ∀ y ∈ ys, ∃ x, P x ∧ f x = y) : ∃ xs : List β, (∀ x ∈ xs, P x) ∧ xs.map f = ys := by
  induction ys with
  | nil => exact ⟨[], by simp, rfl⟩
  | cons y ys ih =>
      obtain ⟨x, hx, rfl⟩ := h y List.mem_cons_self
      obtain ⟨xs, hxs, rfl⟩ := ih fun y hy => h y (List.mem_cons_of_mem _ hy)
      exact ⟨x :: xs, List.forall_mem_cons.mpr ⟨hx, hxs⟩, rfl⟩

/-- The frames that came in under the present key are known by their stamp. -/
theorem Queued.exists_eq_map {session : ℕ × ℕ} {sta : StaInfo α} (h : Queued Q session sta)
    (hkeys : session.2 < 2 ^ 32) (hsame : ∀ f ∈ sta.defragQ, f.keytrack = sta.keytrack) :
    ∃ fs : List (RecvFrameHdr α), (∀ f ∈ fs, f.attrib.mfrag = true ∧ Q session f)
      ∧ fs.map (RecvFrameHdr.stamped · sta.keytrack) = sta.defragQ := by
  refine exists_map_eq fun f hf => ?_
  obtain ⟨hmore, frame, key, hle, rfl, hframe⟩ := h.queue f hf
  have hkey : UInt32.ofNat key = UInt32.ofNat session.2 := (hsame _ hf).trans h.keytrack
  have hnat := congrArg UInt32.toNat hkey
  rw [UInt32.toNat_ofNat_of_lt' (Nat.lt_of_le_of_lt hle hkeys),
    UInt32.toNat_ofNat_of_lt' hkeys] at hnat
  subst hnat
  exact ⟨frame, ⟨hmore, hframe⟩, by rw [h.keytrack]⟩

theorem chain_and {β : Type} {R : β → β → Prop} {P : β → Prop} {xs : List β} {y : β}
    (h : (xs ++ [y]).IsChain R) (hP : ∀ x ∈ xs, P x) :
    (xs ++ [y]).IsChain fun x x' => R x x' ∧ P x := by
  induction xs with
  | nil => exact List.IsChain.singleton y
  | cons x xs ih =>
      have hx := hP x List.mem_cons_self
      cases xs with
      | nil =>
          obtain ⟨hR, -⟩ := List.isChain_cons_cons.mp h
          exact List.IsChain.cons_cons ⟨hR, hx⟩ (List.IsChain.singleton y)
      | cons x' xs =>
          obtain ⟨hR, hrest⟩ := List.isChain_cons_cons.mp h
          exact List.IsChain.cons_cons ⟨hR, hx⟩
            (ih hrest fun z hz => hP z (List.mem_cons_of_mem _ hz))

/-! ## What is handed on -/

/-- The last fragment of a data packet. -/
structure IsLast (a : Bytes) (last : RecvFrameHdr α) : Prop where
  ta : last.attrib.ta = a
  data : last.frameType = 8
  mfrag : last.attrib.mfrag = false
  fragNum : last.attrib.fragNum ≠ 0

section HandedOn

variable {last whole : RecvFrameHdr α}

/-- Before it is handed on, the code of Michael is checked. -/
def Handed (micOk : Bool) (frame whole : RecvFrameHdr α) : Prop :=
  (if frame.attrib.privacy then recvframeChkmic micOk frame else some frame) = some whole

theorem Handed.eq {frame : RecvFrameHdr α} (h : Handed micOk frame whole)
    (htkip : frame.attrib.encrypt ≠ .tkip) : whole = frame := by
  unfold Handed recvframeChkmic at h
  rw [if_neg htkip, ite_self] at h
  exact (Option.some.inj h).symm

theorem handed_of_returned {frame : RecvFrameHdr α}
    (h : (self.hand micOk frame).returned = self.returned ++ [whole]) :
    Handed micOk frame whole := by
  unfold Adapter.hand at h
  split at h
  · exact absurd (List.self_eq_append_right.mp h) (List.cons_ne_nil whole [])
  · next frame' hframe =>
      obtain rfl := List.singleton_inj.mp (List.append_cancel_left h)
      exact hframe

theorem joined_of_returned (hlast : IsLast a last)
    (hret : (recvframeChkDefrag micOk self last).returned = self.returned ++ [whole]) :
    ∃ sta joined, self.getStainfo a = some sta ∧ isMcast last.attrib.ra = false
      ∧ recvframeDefrag (sta.defragQ ++ [last.stamped sta.keytrack]) = some joined
      ∧ Handed micOk joined whole := by
  have hnot : self.returned ≠ self.returned ++ [whole] := fun heq =>
    List.cons_ne_nil whole [] (List.self_eq_append_right.mp heq)
  generalize ht : recvframeChkDefrag micOk self last = t at hret
  cases ht ▸ received_chkDefrag micOk self last with
  | passes hwhole => exact absurd (Or.inr hlast.fragNum) hwhole
  | starts _ _ hmore _ | waits _ _ hmore _ =>
      rw [hlast.mfrag] at hmore
      cases hmore
  | drops _ _ | fails _ _ _ _ _ _ => exact absurd hret hnot
  | @joins sta defragQ joined hsta hra _ _ hq hdefrag =>
      subst hq
      refine ⟨sta, joined, ?_, hra, hdefrag, handed_of_returned hret⟩
      rcases Adapter.getStainfo_of_defragSta hsta with h | ⟨-, -, h⟩
      · exact hlast.ta ▸ h
      · exact absurd hlast.data h

/-- **Sessions.** Fragments that are joined have all come in from the same
station, in its present association, under its present key. -/
theorem exists_joined (ha : isMcast a = false) {es : List (DefragEvent α)} {s : Adapter α}
    (h : runDefrag michael Adapter.init es = .ok s) (hlast : IsLast a last)
    (hQ : OnArrival a Q (es ++ [.recv last])) (hwf : ∀ σ f, Q σ f → f.WellFormed)
    (hkeys : (session a es).2 < 2 ^ 32)
    (hret : (recvframeChkDefrag micOk s last).returned = s.returned ++ [whole]) :
    ∃ fs key joined, (∀ f ∈ fs, f.attrib.mfrag = true) ∧ (∀ f ∈ fs ++ [last], Q (session a es) f)
      ∧ recvframeDefrag ((fs ++ [last]).map (RecvFrameHdr.stamped · key)) = some joined
      ∧ Handed micOk joined whole := by
  obtain ⟨sta, joined, hsta, hra, hdefrag, hhanded⟩ := joined_of_returned hlast hret
  have hqueued := queued_of_run ha h (fun pre frame hpre =>
    hQ pre frame (hpre.trans (List.prefix_append _ _))) hsta
  have hlastQ : Q (session a es) last :=
    hQ es last (List.prefix_refl _) ⟨hlast.ta, Or.inr hlast.fragNum, hra⟩
  have hstamp {σ : ℕ × ℕ} {f : RecvFrameHdr α} (key : UInt32) (hf : Q σ f) :
      (f.stamped key).WellFormed := ⟨(hwf σ f hf).offset_lt, (hwf σ f hf).le_length⟩
  have hq : ∀ f ∈ sta.defragQ ++ [last.stamped sta.keytrack], f.WellFormed := by
    intro f hf
    rcases List.mem_append.mp hf with hf | hf
    · obtain ⟨-, frame, key, -, rfl, hframe⟩ := hqueued.queue f hf
      exact hstamp _ hframe
    · obtain rfl := List.mem_singleton.mp hf
      exact hstamp _ hlastQ
  obtain ⟨first, rest, hsplit, -, hchain, -⟩ := recvframeDefrag_spec hq hdefrag
  rw [hsplit] at hchain
  have hkey : ∀ f ∈ sta.defragQ ++ [last.stamped sta.keytrack], f.keytrack = sta.keytrack := by
    have hsame := keytrack_of_joins hchain
    rw [← hsplit] at hsame
    exact fun f hf => (hsame f hf).trans (hsame (last.stamped sta.keytrack) (by simp)).symm
  obtain ⟨fs, hfs, hmap⟩ := hqueued.exists_eq_map hkeys fun f hf =>
    hkey f (List.mem_append_left _ hf)
  refine ⟨fs, sta.keytrack, joined, fun f hf => (hfs f hf).1, fun f hf => ?_, ?_, hhanded⟩
  · rcases List.mem_append.mp hf with hf | hf
    · exact (hfs f hf).2
    · exact List.mem_singleton.mp hf ▸ hlastQ
  · rw [List.map_append, hmap]
    exact hdefrag

/-- What `exists_joined` says of the fragments and of the frame. -/
theorem joined_spec {fs : List (RecvFrameHdr α)} {key : UInt32} {joined : RecvFrameHdr α}
    (hlast : IsLast a last) (hwf : ∀ f ∈ fs ++ [last], f.WellFormed)
    (hdefrag : recvframeDefrag ((fs ++ [last]).map (RecvFrameHdr.stamped · key)) = some joined) :
    ∃ first rest, fs = first :: rest ∧ first.attrib.fragNum = 0
      ∧ (fs ++ [last]).IsChain (fun f g => (f.stamped key).Joins (g.stamped key))
      ∧ (first.stamped key).Extends joined ((rest ++ [last]).map RecvFrameHdr.payload).flatten := by
  have hstamped : ∀ f ∈ (fs ++ [last]).map (RecvFrameHdr.stamped · key), f.WellFormed := by
    intro f hf
    obtain ⟨frame, hframe, rfl⟩ := List.mem_map.mp hf
    exact ⟨(hwf frame hframe).offset_lt, (hwf frame hframe).le_length⟩
  obtain ⟨first, rest, hsplit, hzero, hchain, hext⟩ := recvframeDefrag_spec hstamped hdefrag
  cases fs with
  | nil =>
      obtain ⟨rfl, -⟩ := List.cons_eq_cons.mp hsplit
      exact absurd hzero hlast.fragNum
  | cons f fs =>
      obtain ⟨rfl, rfl⟩ := List.cons_eq_cons.mp hsplit
      refine ⟨f, fs, rfl, hzero, (List.isChain_map _).mp hchain, ?_⟩
      rw [List.map_map] at hext
      exact hext

/-- The frame came in in the session `σ` of the station. -/
def ArrivedIn (a : Bytes) (σ : ℕ × ℕ) (es : List (DefragEvent α)) (frame : RecvFrameHdr α) : Prop :=
  Concerns a frame ∧ ∃ pre, pre ++ [.recv frame] <+: es ∧ session a pre = σ

/-- What the bench hands on. -/
def benchWhole : RecvFrameHdr ℕ :=
  { benchFirst with
    data := 0x08 :: List.replicate 23 0 ++ [5, 0, 0, 0x20, 0, 0, 0, 0] ++ [0, 1, 2]
      ++ List.replicate 8 0xee
    room := 62
    keytrack := 1 }

theorem isLast_benchLast : IsLast benchAp benchLast := ⟨rfl, by decide, rfl, by decide⟩

theorem wellFormed_benchFragment (ta : Bytes) (fragNum : UInt8) (h : fragNum < 16) (mfrag : Bool) :
    (benchFragment ta fragNum h mfrag).WellFormed :=
  ⟨show 32 < 256 by decide, show 40 ≤ 41 by decide⟩

/-- What the fragments of a protected station are, by the integrity check of
each: pieces of packets that were sent to this session. -/
def Genuine (sent : ℕ × ℕ → List (Packet Bytes)) (σ : ℕ × ℕ) (frame : RecvFrameHdr α) : Prop :=
  frame.hasPn = true ∧ frame.WellFormed ∧ Sent (sent σ) frame.piece

theorem OnArrival.concat {es : List (DefragEvent α)} {e : DefragEvent α} (h : OnArrival a Q es)
    (he : ∀ frame, e = .recv frame → Concerns a frame → Q (session a es) frame) :
    OnArrival a Q (es ++ [e]) := by
  intro pre frame hpre hc
  rcases List.prefix_concat_iff.mp hpre with heq | hpre
  · obtain ⟨rfl, hlast⟩ := List.append_inj' heq rfl
    exact he frame (List.singleton_inj.mp hlast).symm hc
  · exact h pre frame hpre hc

/-- No frame is handed on but packets as they were sent. A fragment may be
lost, or come twice, late or in another order, and anybody may send
anything in between: fragments of two packets, of two keys or of two
associations are never joined. -/
theorem whole_packets (michael : Adapter α → RecvFrameHdr α → Bool) (micOk : Bool)
    (ha : isMcast a = false) (es : List (DefragEvent α)) {s : Adapter α}
    (h : runDefrag michael Adapter.init es = .ok s)
    (hlast : IsLast a last) {sent : ℕ × ℕ → List (Packet Bytes)} (hsent : ∀ σ, Numbered (sent σ))
    (hgenuine : OnArrival a (Genuine sent) (es ++ [.recv last]))
    (hkeys : (session a es).2 < 2 ^ 32)
    (hret : (recvframeChkDefrag micOk s last).returned = s.returned ++ [whole]) :
    ∃ packet ∈ sent (session a es), whole.payload = packet.bodies.flatten := by
  obtain ⟨fs, key, joined, hmore, hpieces, hdefrag, hhanded⟩ :=
    exists_joined ha h hlast hgenuine (fun _ _ hQ => hQ.2.1) hkeys hret
  obtain ⟨first, rest, rfl, hzero, hchain, hext⟩ :=
    joined_spec hlast (fun f hf => (hpieces f hf).2.1) hdefrag
  have hpn := (hpieces first (by simp)).1
  have htkip : first.attrib.encrypt ≠ .tkip := fun h => by simp [RecvFrameHdr.hasPn, h] at hpn
  obtain rfl := hhanded.eq (hext.encrypt ▸ htkip)
  have hfollows : ((first :: rest ++ [last]).map RecvFrameHdr.piece).IsChain
      Fragmentation.Follows := by
    refine (List.isChain_map _).mpr ((chain_and hchain hmore).imp_of_mem_imp
      fun f g hf hg hfg => ?_)
    have hsame : f.hasPn = g.hasPn := (hpieces f hf).1.trans (hpieces g hg).1.symm
    have hiff : (f.stamped key).Joins (g.stamped key) ↔ Fragmentation.Follows f.piece g.piece :=
      RecvFrameHdr.joins_iff_follows rfl hsame hfg.2
    exact hiff.mp hfg.1
  obtain ⟨packet, hpacket, heq⟩ := Fragmentation.eq_pieces (hsent (session a es))
    (fun p hp => by
      obtain ⟨f, hf, rfl⟩ := List.mem_map.mp hp
      exact (hpieces f hf).2.2)
    hfollows (fun p hp => by
      rw [List.map_append, List.map_singleton, List.getLast?_concat] at hp
      obtain rfl := Option.mem_some_iff.mp hp
      exact hlast.mfrag) (by simp) (fun p hp => by
      obtain rfl := Option.mem_some_iff.mp hp
      exact congrArg UInt8.toNat hzero)
  refine ⟨packet, hpacket, ?_⟩
  have hbodies := congrArg (List.map Piece.body) heq
  rw [List.map_map, Fragmentation.map_body_pieces] at hbodies
  rw [← hbodies, hext.payload]
  rfl

def benchPacket : Packet Bytes := ⟨5, [[0], [1], [2]]⟩

/-- One packet, in the first association under its first key. -/
def benchSent : ℕ × ℕ → List (Packet Bytes)
  | (1, 1) => [benchPacket]
  | _ => []

theorem genuine_benchAir :
    OnArrival benchAp (Genuine benchSent) (benchAir ++ [.recv benchLast]) := by
  have hnil : OnArrival benchAp (Genuine benchSent) ([] : List (DefragEvent ℕ)) :=
    fun pre frame hpre => by simp at hpre
  have hgenuine {es : List (DefragEvent ℕ)} (f : RecvFrameHdr ℕ)
      (hs : session benchAp es = (1, 1))
      (hf : f.hasPn = true ∧ f.WellFormed ∧ f.piece ∈ benchPacket.pieces) (frame : RecvFrameHdr ℕ)
      (heq : (.recv f : DefragEvent ℕ) = .recv frame) (_ : Concerns benchAp frame) :
      Genuine benchSent (session benchAp es) frame := by
    obtain rfl := DefragEvent.recv.inj heq
    rw [hs]
    exact ⟨hf.1, hf.2.1, benchPacket, List.mem_singleton_self _, hf.2.2⟩
  change OnArrival benchAp _ ([] ++ [.allocStainfo benchAp] ++ [.setStakey benchAp]
    ++ [.recv benchFirst]
    ++ [.recv (benchFragment [2, 0, 0, 0, 0, 3] 0 (by decide) true)]
    ++ [.recv benchSecond] ++ [.recv benchLast])
  refine (((((hnil.concat ?_).concat ?_).concat (hgenuine _ rfl ?_)).concat ?_).concat
    (hgenuine _ rfl ?_)).concat (hgenuine _ rfl ?_)
  · rintro _ ⟨⟩
  · rintro _ ⟨⟩
  · exact ⟨rfl, wellFormed_benchFragment .., by decide +kernel⟩
  · rintro frame heq hc
    obtain rfl := DefragEvent.recv.inj heq
    exact absurd hc (by decide)
  · exact ⟨rfl, wellFormed_benchFragment .., by decide +kernel⟩
  · exact ⟨rfl, wellFormed_benchFragment .., by decide +kernel⟩

theorem bench_whole_packets :
    ∃ s, runDefrag (fun _ _ => true) Adapter.init benchAir = .ok s
      ∧ (recvframeChkDefrag true s benchLast).returned = s.returned ++ [benchWhole]
      ∧ ∃ packet ∈ benchSent (session benchAp benchAir),
        benchWhole.payload = packet.bodies.flatten := by
  refine ⟨_, rfl, by decide +kernel, whole_packets (fun _ _ => true) true (by decide) benchAir rfl
    isLast_benchLast (fun σ => ?_) genuine_benchAir (by decide) (by decide +kernel)⟩
  unfold benchSent
  split
  · exact List.pairwise_singleton _ _
  · exact List.Pairwise.nil

end HandedOn

/-! ## What is not lost -/

/-- What concerns the queue of a station. -/
def touches (a : Bytes) : DefragEvent α → Bool
  | .recv frame => Concerns a frame
  | .setStakey addr | .allocStainfo addr | .freeStainfo addr => addr = a

theorem recordStep_of_not_touches {e : DefragEvent α} (h : touches a e = false)
    (record : Option (StaInfo α)) : recordStep a record e = record := by
  cases e <;> exact if_neg (of_decide_eq_false h)

section Reassembled

variable {s : Adapter α} {sta : StaInfo α} {first last : RecvFrameHdr α}
  {rest : List (RecvFrameHdr α)} {packet : Packet Bytes}

/-- The fragments of a packet but for the last, as they come in. -/
theorem queue_of_arrivals (ha : isMcast a = false) (hsta : s.getStainfo a = some sta)
    (hfirst : first.attrib.fragNum = 0) (hrest : ∀ f ∈ rest, f.attrib.fragNum ≠ 0)
    (hmore : ∀ f ∈ first :: rest, f.attrib.mfrag = true) {es : List (DefragEvent α)}
    (h : runDefrag michael s es = .ok t)
    (harrivals : es.filter (touches a) = (first :: rest).map .recv) :
    t.getStainfo a = some { sta with
      defragQ := (first :: rest).map (RecvFrameHdr.stamped · sta.keytrack) } := by
  suffices hrun : ∀ fs : List (RecvFrameHdr α), es.filter (touches a) = fs.map .recv →
      fs <+: first :: rest → ∃ q, t.getStainfo a = some { sta with defragQ := q }
        ∧ (fs ≠ [] → q = fs.map (RecvFrameHdr.stamped · sta.keytrack)) by
    obtain ⟨q, hq, heq⟩ := hrun _ harrivals (List.prefix_refl _)
    rw [hq, heq (List.cons_ne_nil _ _)]
  refine Run.run_induction (P := fun es t => ∀ fs : List (RecvFrameHdr α),
      es.filter (touches a) = fs.map .recv → fs <+: first :: rest →
        ∃ q, t.getStainfo a = some { sta with defragQ := q }
          ∧ (fs ≠ [] → q = fs.map (RecvFrameHdr.stamped · sta.keytrack)))
    (fun fs hfs _ => ⟨sta.defragQ, hsta, fun hne => absurd (List.map_eq_nil_iff.mp hfs.symm) hne⟩)
    (fun es t e t' _ ih hstep fs hfs hpre => ?_) h
  rw [getStainfo_step ha hstep]
  rw [List.filter_append, List.filter_singleton] at hfs
  cases htouch : touches a e with
  | false =>
      rw [htouch, cond_false, List.append_nil] at hfs
      rw [recordStep_of_not_touches htouch]
      exact ih fs hfs hpre
  | true =>
      rw [htouch, cond_true] at hfs
      obtain ⟨before, now, rfl, hbefore, hnow⟩ := List.map_eq_append_iff.mp hfs.symm
      obtain ⟨f, rfl, rfl⟩ := List.map_eq_singleton_iff.mp hnow
      obtain ⟨q, hq, heq⟩ := ih before hbefore.symm ((List.prefix_append _ _).trans hpre)
      have hmem : f ∈ first :: rest := hpre.subset (by simp)
      refine ⟨_, ?_, fun _ => rfl⟩
      rw [hq, recordStep, if_pos (of_decide_eq_true htouch), Option.map_some, StaInfo.next,
        if_pos (hmore f hmem)]
      cases before with
      | nil =>
          obtain ⟨rfl, -⟩ := List.cons_prefix_cons.mp hpre
          rw [if_pos hfirst]
          rfl
      | cons g before =>
          have hlater : f ∈ rest := (List.cons_prefix_cons.mp hpre).2.subset
            (List.mem_append_right before (List.mem_singleton_self f))
          rw [if_neg (hrest f hlater), heq (List.cons_ne_nil _ _), List.map_append]
          rfl

theorem returned_hand (self : Adapter α) {frame : RecvFrameHdr α}
    (htkip : frame.attrib.encrypt ≠ .tkip) :
    (self.hand micOk frame).returned = self.returned ++ [frame] := by
  rw [Adapter.hand, recvframeChkmic, if_neg htkip, ite_self]

/-- The last fragment, when the others are in the queue. -/
theorem returned_of_queue (hsta : self.getStainfo a = some sta)
    (hta : last.attrib.ta = a) (hra : isMcast last.attrib.ra = false)
    (hmore : last.attrib.mfrag = false) (hnum : last.attrib.fragNum ≠ 0) {joined : RecvFrameHdr α}
    (hdefrag : recvframeDefrag (sta.defragQ ++ [last.stamped sta.keytrack]) = some joined)
    (htkip : joined.attrib.encrypt ≠ .tkip) :
    (recvframeChkDefrag micOk self last).returned = self.returned ++ [joined] := by
  have hdefragSta : self.defragSta last = some sta := by
    rw [Adapter.defragSta, hta, hsta]
  unfold recvframeChkDefrag
  rw [if_neg fun h => hnum h.2, if_neg (by rw [hra]; exact Bool.false_ne_true), hdefragSta]
  dsimp only
  rw [if_neg (by rw [hmore]; exact Bool.false_ne_true)]
  unfold RecvFrameHdr.stamped at hdefrag
  rw [hdefrag]
  exact returned_hand _ htkip

/-- What the pieces of a packet say of the fragments that carry them. -/
theorem flags_of_pieces
    (hpieces : (first :: rest ++ [last]).map RecvFrameHdr.piece = packet.pieces) :
    first.attrib.fragNum = 0 ∧ (∀ f ∈ rest ++ [last], f.attrib.fragNum ≠ 0)
      ∧ (∀ f ∈ first :: rest, f.attrib.mfrag = true) ∧ last.attrib.mfrag = false := by
  have hpiece (k : ℕ) (f : RecvFrameHdr α) (hf : (first :: rest ++ [last])[k]? = some f) :
      f.attrib.fragNum.toNat = k ∧ (f.attrib.mfrag = true ↔ k < rest.length + 1) := by
    have hlen := congrArg List.length hpieces
    have hk : packet.pieces[k]? = some f.piece := by rw [← hpieces, List.getElem?_map, hf]; rfl
    obtain ⟨-, hindex, hmore, -⟩ := Fragmentation.getElem?_pieces_eq_some_iff.mp hk
    simp only [List.length_map, List.length_append, List.length_cons, List.length_nil,
      Fragmentation.length_pieces] at hlen
    exact ⟨hindex, hmore.trans (by omega)⟩
  refine ⟨UInt8.toNat_inj.mp (hpiece 0 first rfl).1, fun f hf hzero => ?_, fun f hf => ?_,
    Bool.eq_false_iff.mpr fun h => ?_⟩
  · obtain ⟨k, hk⟩ := List.mem_iff_getElem?.mp hf
    have hnum := (hpiece (k + 1) f hk).1
    rw [hzero] at hnum
    cases hnum
  · obtain ⟨k, hk⟩ := List.mem_iff_getElem?.mp hf
    obtain ⟨hlt, -⟩ := List.getElem?_eq_some_iff.mp hk
    exact (hpiece k f (by rw [List.getElem?_append_left hlt, hk])).2.mpr hlt
  · have hlt := (hpiece (rest.length + 1) last (by simp)).2.mp h
    omega

/-- What a fragment has to be for its packet to get through. -/
structure GetsThrough (a : Bytes) (b : Bool) (frame : RecvFrameHdr α) : Prop where
  ta : frame.attrib.ta = a
  ra : isMcast frame.attrib.ra = false
  wellFormed : frame.WellFormed
  hasPn : frame.hasPn = b
  encrypt : frame.attrib.encrypt ≠ .tkip

theorem exists_joined_of_pieces {b : Bool} (key : UInt32)
    (hpieces : (first :: rest ++ [last]).map RecvFrameHdr.piece = packet.pieces)
    (hfits : ∀ f ∈ first :: rest ++ [last], GetsThrough a b f)
    (hroom : ((rest ++ [last]).map fun f => f.stripped.data.length).sum ≤ first.room) :
    ∃ joined, recvframeDefrag ((first :: rest ++ [last]).map (RecvFrameHdr.stamped · key))
        = some joined
      ∧ joined.attrib.encrypt ≠ .tkip ∧ joined.header = first.header
      ∧ joined.payload = packet.bodies.flatten := by
  have hchain : ((first :: rest ++ [last]).map (RecvFrameHdr.stamped · key)).IsChain
      RecvFrameHdr.Joins := by
    have hfollows := Fragmentation.chain_pieces packet
    rw [← hpieces, List.isChain_map] at hfollows
    refine (List.isChain_map _).mpr (hfollows.imp_of_mem_imp fun f g hf hg hfg => ?_)
    have hiff : (f.stamped key).Joins (g.stamped key)
        ↔ Fragmentation.Follows f.piece g.piece :=
      RecvFrameHdr.joins_iff_follows rfl ((hfits f hf).hasPn.trans (hfits g hg).hasPn.symm)
        hfg.2.2
    exact hiff.mpr hfg
  have hstamped {P : RecvFrameHdr α → Prop}
      (hP : ∀ f ∈ first :: rest ++ [last], P (f.stamped key)) :
      ∀ f ∈ (first :: rest ++ [last]).map (RecvFrameHdr.stamped · key), P f := by
    intro f hf
    obtain ⟨g, hg, rfl⟩ := List.mem_map.mp hf
    exact hP g hg
  have hsum : (((rest ++ [last]).map (RecvFrameHdr.stamped · key)).map
      fun f => f.stripped.data.length).sum ≤ (first.stamped key).room := by
    rw [List.map_map]
    refine le_of_eq_of_le (congrArg List.sum (List.map_congr_left fun f _ => ?_)) hroom
    exact congrArg List.length (f.stripped_stamped key)
  obtain ⟨joined, hjoined⟩ := exists_recvframeDefrag (hstamped fun f hf => (hfits f hf).hasPn)
    (flags_of_pieces hpieces).1 hchain hsum
  obtain ⟨first', rest', hsplit, -, -, hext⟩ := recvframeDefrag_spec
    (hstamped fun f hf => ⟨(hfits f hf).wellFormed.offset_lt, (hfits f hf).wellFormed.le_length⟩)
    hjoined
  obtain ⟨rfl, rfl⟩ := List.cons_eq_cons.mp hsplit
  refine ⟨joined, hjoined, hext.encrypt ▸ (hfits first (by simp)).encrypt, hext.header, ?_⟩
  have hbodies := congrArg (List.map Piece.body) hpieces
  rw [List.map_map, Fragmentation.map_body_pieces] at hbodies
  rw [← hbodies, hext.payload, List.map_map]
  rfl

/-- A fragment is left of another packet, from before the present key. -/
def benchStale : Adapter ℕ where
  stas := [⟨benchAp, 1, [benchSecond]⟩]
  freed := []
  returned := []
  nodup := List.nodup_singleton _

end Reassembled

end Specter
