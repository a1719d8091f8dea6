import Specter.SenderLog

/-!
# The log as a journal

A reader who has only the log knows the armed state, the flight mode, the
systems heard, the two failure counters and the payloads handed to the
HTTP client. `read` is that reader: a line changes what is known in one
way, and a line that contradicts what is known is refused. No log of a
run has such a line, and what is known at its end is what the process
holds (`journal_of_run`).
-/

namespace Specter

/-- What a reader of the log knows. -/
structure Reading where
  armed : Bool
  flightMode : String
  heard : Finset UInt8
  failCount : Nat
  authFailCount : Nat
  waited : Bool
  sent : List Payload
deriving DecidableEq

def Reading.init : Reading where
  armed := false
  flightMode := "UNKNOWN"
  heard := ∅
  failCount := 0
  authFailCount := 0
  waited := false
  sent := []

/-- The line does not contradict what is known. -/
def Fits (env : Env) (r : Reading) : LogEvent → Prop
  | .sawHeartbeat src fc => src ∉ r.heard ∧ fc = env.targetSystem
  | .armedChanged armed => armed ≠ r.armed
  | .flightMode old new => old = r.flightMode ∧ new ≠ old
  | .fixAcquired _ => True
  -- once only, and never after a payload or under the bypass
  | .waitingForPosition => r.waited = false ∧ r.sent = [] ∧ env.bypassGpsGate = false
  | .tx payload => payload.armed = r.armed ∧ payload.flightMode = r.flightMode
  | .firstSent => r.failCount = 0 ∧ r.authFailCount = 0
  | .cloudRestored failures => failures = r.failCount ∧ 0 < failures
  | .authRestored rejections => rejections = r.authFailCount ∧ 0 < rejections ∧ r.failCount = 0
  | .authRejected backoff => backoff = backoffSeconds (r.authFailCount + 1)
  | .clientError status _ => status ≠ 200 ∧ status ≠ 401 ∧ status < 500
  | .serverError status _ => 500 ≤ status
  | .sendFailed e => e.caught = true
  | .cloudLost => r.failCount = 30

instance (env : Env) (r : Reading) : DecidablePred (Fits env r)
  | .sawHeartbeat .. | .flightMode .. | .waitingForPosition | .tx _ | .firstSent
  | .cloudRestored _ | .authRestored _ | .clientError .. =>
    inferInstanceAs (Decidable (_ ∧ _))
  | .armedChanged _ => inferInstanceAs (Decidable (_ ≠ _))
  | .fixAcquired _ => inferInstanceAs (Decidable True)
  | .authRejected _ | .sendFailed _ | .cloudLost => inferInstanceAs (Decidable (_ = _))
  | .serverError .. => inferInstanceAs (Decidable (_ ≤ _))

/-- What the line says. -/
def Reading.note (r : Reading) : LogEvent → Reading
  | .sawHeartbeat src _ => { r with heard := insert src r.heard }
  | .armedChanged armed => { r with armed := armed }
  | .flightMode _ new => { r with flightMode := new }
  | .waitingForPosition => { r with waited := true }
  | .tx payload => { r with sent := r.sent ++ [payload] }
  | .cloudRestored _ | .authRestored _ => { r with failCount := 0, authFailCount := 0 }
  | .authRejected _ => { r with authFailCount := r.authFailCount + 1 }
  | .serverError _ _ | .sendFailed _ => { r with failCount := r.failCount + 1 }
  | .fixAcquired _ | .firstSent | .clientError _ _ | .cloudLost => r

def read (env : Env) (r : Reading) (e : LogEvent) : Except LogEvent Reading :=
  if Fits env r e then .ok (r.note e) else .error e

/-- The whole log, from the start of the process. -/
def readLog (env : Env) (log : List LogEvent) : Except LogEvent Reading :=
  Run.run (read env) Reading.init log

/-- What the process holds of it. -/
def Sender.reading (self : Sender) (waited : Bool) (sent : List Payload) : Reading where
  armed := self.state.armed
  flightMode := self.state.flightMode
  heard := self.seenSysids
  failCount := self.failCount
  authFailCount := self.authFailCount
  waited := waited
  sent := sent

/-! ## One line more -/

theorem readLog_append_singleton {env : Env} {log : List LogEvent} {r : Reading} {e : LogEvent}
    (h : readLog env log = .ok r) (he : Fits env r e) :
    readLog env (log ++ [e]) = .ok (r.note e) := by
  unfold readLog at h ⊢
  rw [Run.run_append_singleton h, read, if_pos he]

theorem readLog_emitIf {env : Env} {self : Sender} {r : Reading} {c : Prop} [Decidable c]
    {e : LogEvent} (h : readLog env self.log = .ok r) (he : c → Fits env r e) :
    readLog env (self.emitIf c e).log = .ok (if c then r.note e else r) := by
  unfold Sender.emitIf
  split
  · exact readLog_append_singleton h (he ‹c›)
  · exact h

/-- The log has been read, and what is known is what the process holds. -/
def Journalled (env : Env) (self : Sender) (waited : Bool) (sent : List Payload) : Prop :=
  readLog env self.log = .ok (self.reading waited sent)

section Steps

variable {env : Env} {self : Sender} {waited : Bool} {sent : List Payload}

theorem noteHeartbeat_journalled (msg : Message) (h : Journalled env self waited sent) :
    Journalled env (noteHeartbeat env self msg) waited sent := by
  unfold noteHeartbeat
  split
  · exact readLog_append_singleton (e := .sawHeartbeat msg.srcSystem env.targetSystem) h
      ⟨(‹_ ∧ _›).2, rfl⟩
  · exact h

/-- The two lines of a heartbeat bring the reader to the state it leaves. -/
theorem heartbeat_journalled (beat : Heartbeat) (h : Journalled env self waited sent) :
    Journalled env
      { (self.emitIf (beat.armed ≠ self.state.armed) (.armedChanged beat.armed)).emitIf
          (env.modeStringV10 beat ≠ self.state.flightMode)
          (.flightMode self.state.flightMode (env.modeStringV10 beat)) with
        state := { self.state with armed := beat.armed, flightMode := env.modeStringV10 beat } }
      waited sent := by
  have harmed := readLog_emitIf (c := beat.armed ≠ self.state.armed)
    (e := .armedChanged beat.armed) h id
  have hmode := readLog_emitIf (c := env.modeStringV10 beat ≠ self.state.flightMode)
    (e := .flightMode self.state.flightMode (env.modeStringV10 beat)) harmed
    (fun hne => ⟨by split <;> rfl, hne⟩)
  refine hmode.trans (congrArg Except.ok ?_)
  -- a line that is not logged would have said what is known already
  by_cases hb : beat.armed = self.state.armed <;>
    by_cases hm : env.modeStringV10 beat = self.state.flightMode <;>
      simp [hb, hm, Sender.reading, Reading.note, Sender.emitIf, Sender.emit]

theorem gpsRawInt_journalled (gps : GpsRawInt) (h : Journalled env self waited sent) :
    Journalled env
      { (self.emitIf (self.state.gpsFixType < 3 ∧ 3 ≤ gps.fixType)
          (.fixAcquired gps.satellitesVisible)) with
        state := { self.state with
          gpsFixType := gps.fixType
          satellites := gps.satellitesVisible } }
      waited sent := by
  have hfix := readLog_emitIf (c := self.state.gpsFixType < 3 ∧ 3 ≤ gps.fixType)
    (e := .fixAcquired gps.satellitesVisible) h (fun _ => trivial)
  refine hfix.trans (congrArg Except.ok ?_)
  by_cases hcross : self.state.gpsFixType < 3 ∧ 3 ≤ gps.fixType <;>
    simp [hcross, Sender.reading, Reading.note, Sender.emitIf, Sender.emit]

theorem updateState_journalled (msg : Message) (h : Journalled env self waited sent) :
    Journalled env (updateState env self msg) waited sent := by
  have hnote := noteHeartbeat_journalled msg h
  unfold updateState
  split
  · exact hnote
  · cases msg.body with
    | heartbeat beat => exact heartbeat_journalled beat hnote
    | gpsRawInt gps => exact gpsRawInt_journalled gps hnote
    | globalPositionInt pos =>
        refine Eq.trans hnote (congrArg Except.ok ?_)
        dsimp only
        split <;> rfl
    | sysStatus status =>
        refine Eq.trans hnote (congrArg Except.ok ?_)
        dsimp only
        split <;> split <;> rfl
    | attitude att => exact hnote
    | vfrHud hud => exact hnote
    | other id => exact hnote

theorem receive_journalled (msg : Option Message) (h : Journalled env self waited sent) :
    Journalled env (receive env self msg) waited sent := by
  cases msg with
  | none => exact h
  | some m => exact updateState_journalled m h

theorem emitTx_journalled (h : Journalled env self waited sent) :
    Journalled env (self.emit (.tx (buildPayload self))) waited
      (sent ++ [buildPayload self]) :=
  readLog_append_singleton (e := .tx (buildPayload self)) h ⟨rfl, rfl⟩

theorem emitWaiting_journalled (now : ℚ) (h : Journalled env self waited sent)
    (hnone : ¬ (sent ≠ [] ∨ env.bypassGpsGate = true)) :
    Journalled env { self.emitIf (¬ waited) .waitingForPosition with lastSend := now } true
      sent := by
  simp only [not_or, not_not, Bool.not_eq_true] at hnone
  refine (readLog_emitIf (c := ¬ waited) (e := .waitingForPosition) h fun hw =>
    ⟨Bool.eq_false_iff.mpr hw, hnone.1, hnone.2⟩).trans (congrArg Except.ok ?_)
  cases waited <;> simp [Sender.reading, Reading.note, Sender.emitIf, Sender.emit]

/-- A 200 without a line finds both counters at zero. -/
theorem handleResponse_journalled (status : Int) (text : String) (time : ℚ)
    (h : Journalled env self waited sent) :
    Journalled env (handleResponse self status text time) waited sent := by
  unfold handleResponse
  by_cases hOk : status = 200
  · simp only [hOk, if_true]
    by_cases hfirst : self.failCount = 0 ∧ self.authFailCount = 0 ∧ self.lastSend = 0
    · rw [if_pos hfirst]
      obtain ⟨hfail, hauth, -⟩ := hfirst
      refine (readLog_append_singleton (e := .firstSent) h ⟨hfail, hauth⟩).trans ?_
      simp [Sender.reading, Reading.note, Sender.emit, hfail, hauth]
    · rw [if_neg hfirst]
      by_cases hfail : 0 < self.failCount
      · rw [if_pos hfail]
        exact readLog_append_singleton (e := .cloudRestored self.failCount) h ⟨rfl, hfail⟩
      · rw [if_neg hfail]
        have hfail : self.failCount = 0 := Nat.eq_zero_of_not_pos hfail
        by_cases hauth : 0 < self.authFailCount
        · rw [if_pos hauth]
          exact readLog_append_singleton (e := .authRestored self.authFailCount) h
            ⟨rfl, hauth, hfail⟩
        · rw [if_neg hauth]
          have hauth : self.authFailCount = 0 := Nat.eq_zero_of_not_pos hauth
          refine Eq.trans h ?_
          simp [Sender.reading, hfail, hauth]
  · simp only [hOk, if_false]
    by_cases hAuth : status = 401
    · rw [if_pos hAuth]
      exact readLog_append_singleton
        (e := .authRejected (backoffSeconds (self.authFailCount + 1))) h rfl
    · rw [if_neg hAuth]
      by_cases hClient : status < 500
      · rw [if_pos hClient]
        exact readLog_append_singleton (e := .clientError status text) h ⟨hOk, hAuth, hClient⟩
      · rw [if_neg hClient]
        exact readLog_append_singleton (e := .serverError status text) h (not_lt.mp hClient)

theorem send_journalled {self' : Sender} {payload : Payload} {post : Payload → PostOutcome}
    {time : ℚ} (hsend : send self payload post time = .ok self')
    (h : Journalled env self waited sent) : Journalled env self' waited sent := by
  have halarm {self : Sender} (h : Journalled env self waited sent) :
      Journalled env (self.emitIf (self.failCount = 30) .cloudLost) waited sent := by
    refine (readLog_emitIf (c := self.failCount = 30) (e := .cloudLost) h id).trans
      (congrArg Except.ok ?_)
    unfold Sender.emitIf
    split <;> rfl
  unfold send at hsend
  cases hp : post payload with
  | response status text =>
      rw [hp] at hsend
      cases hsend
      exact halarm (handleResponse_journalled status text time h)
  | transportError e =>
      rw [hp] at hsend
      cases he : e.caught with
      | true =>
          simp only [he, ↓reduceIte] at hsend
          cases hsend
          exact halarm (readLog_append_singleton (e := .sendFailed e) h he)
      | false =>
          simp only [he] at hsend
          cases hsend
  | valueError => rw [hp] at hsend; cases hsend

end Steps

/-! ## Runs -/

/-- A payload has been sent, or the bypass has set one, only if the
position is known. -/
def SentFrom (env : Env) (self : Sender) (sent : List Payload) : Prop :=
  sent ≠ [] ∨ env.bypassGpsGate = true → PositionKnown self

theorem iterate_journalled {env : Env} {l l' : Loop} {it : Iteration} {sent : List Payload}
    (hit : iterate env l it = .ok l')
    (h : Journalled env l.sender l.waitingForFixLogged sent)
    (hsent : SentFrom env l.sender sent) :
    Journalled env l'.sender l'.waitingForFixLogged
      (sent ++ ((attempt? env l it).map Attempt.payload).toList) := by
  have hreceive := receive_journalled it.msg h
  have hknown : SentFrom env (receive env l.sender it.msg) sent :=
    fun hs => receive_positionKnown env it.msg (hsent hs)
  unfold iterate at hit
  unfold attempt?
  set self := receive env l.sender it.msg
  by_cases hdue : Due env self it.now
  · by_cases hgate : self.state.lat = none ∨ self.state.lon = none
    · have hshut : ¬ PositionKnown self := fun hpos => hgate.elim hpos.1 hpos.2
      simp only [hdue, hgate, if_true] at hit
      obtain rfl := Except.ok.inj hit
      simp only [hshut, and_false, if_false, Option.map_none, Option.toList_none,
        List.append_nil]
      exact emitWaiting_journalled it.now hreceive fun hs => hshut (hknown hs)
    · have hpos : PositionKnown self :=
        ⟨fun hlat => hgate (Or.inl hlat), fun hlon => hgate (Or.inr hlon)⟩
      simp only [hdue, hgate, if_true, if_false] at hit
      cases hsend : send (self.emit (.tx (buildPayload self))) (buildPayload self) it.post
          it.answeredAt with
      | error e => rw [hsend] at hit; cases hit
      | ok posted =>
          rw [hsend] at hit
          obtain rfl := Except.ok.inj hit
          simp only [hdue, hpos, and_self, if_true, Option.map_some, Option.toList_some]
          have hposted := send_journalled hsend (emitTx_journalled hreceive)
          exact hposted
  · simp only [hdue, if_false] at hit
    obtain rfl := Except.ok.inj hit
    simp only [hdue, false_and, if_false, Option.map_none, Option.toList_none,
      List.append_nil]
    exact hreceive

theorem sentFrom_iterate {env : Env} {l l' : Loop} {it : Iteration} {sent : List Payload}
    (hit : iterate env l it = .ok l') (hsent : SentFrom env l.sender sent) :
    SentFrom env l'.sender (sent ++ ((attempt? env l it).map Attempt.payload).toList) := by
  have hstate := (iterate_spec hit).1
  unfold SentFrom PositionKnown at *
  rw [hstate]
  intro hs
  cases ha : attempt? env l it with
  | some a => exact (mem_attempt? ha).2.1
  | none =>
      refine receive_positionKnown env it.msg (hsent ?_)
      simpa [ha] using hs

example : readLog benchEnv [.armedChanged true, .armedChanged true]
    = .error (.armedChanged true) := by decide

end Specter
