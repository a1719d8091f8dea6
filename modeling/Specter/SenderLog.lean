import Specter.Schedule

/-!
# What the sender logs about sending

The log only grows. Of what one iteration appends, the part about
sending is that of the POST it attempts, and it is a function of the
outcome, the ledger and `last_send` (`iterate_logged`); what a stretch of
a run logs about sending is put together from these by `Logged.trans`.
-/

namespace Specter

/-! ## One POST -/

/-- The events of `send`. -/
def LogEvent.ofSend : LogEvent → Bool
  | .firstSent | .cloudRestored _ | .authRestored _ | .authRejected _ | .clientError _ _
  | .serverError _ _ | .sendFailed _ | .cloudLost => true
  | .sawHeartbeat _ _ | .armedChanged _ | .flightMode _ _ | .fixAcquired _
  | .waitingForPosition | .tx _ => false

/-- What `send` logs of an outcome. -/
def Ledger.outcomeNotes (ledger : Ledger) (lastSend : ℚ) : PostOutcome → List LogEvent
  | .response status text =>
    if status = 200 then
      if ledger.failCount = 0 ∧ ledger.authFailCount = 0 ∧ lastSend = 0 then [.firstSent]
      else if 0 < ledger.failCount then [.cloudRestored ledger.failCount]
      else if 0 < ledger.authFailCount then [.authRestored ledger.authFailCount]
      else []
    else if status = 401 then [.authRejected (backoffSeconds (ledger.authFailCount + 1))]
    else if status < 500 then [.clientError status text]
    else [.serverError status text]
  | .transportError e => [.sendFailed e]
  | .valueError => []

/-- And the alarm, which looks at the counter that the outcome leaves. -/
def Ledger.notes (ledger : Ledger) (lastSend : ℚ) (a : Attempt) : List LogEvent :=
  ledger.outcomeNotes lastSend a.outcome ++
    if (ledger.after a.answeredAt a.outcome).failCount = 30 then [.cloudLost] else []

/-- The events of a 200. -/
theorem mem_notes_accepted {ledger : Ledger} {lastSend : ℚ} {a : Attempt} {e : LogEvent}
    (h : a.outcome.heading = .accepted) :
    e ∈ ledger.notes lastSend a ↔
      if ledger.failCount = 0 ∧ ledger.authFailCount = 0 ∧ lastSend = 0 then e = .firstSent
      else if 0 < ledger.failCount then e = .cloudRestored ledger.failCount
      else if 0 < ledger.authFailCount then e = .authRestored ledger.authFailCount
      else False := by
  obtain ⟨text, htext⟩ := heading_accepted_iff.mp h
  simp only [Ledger.notes, htext, Ledger.outcomeNotes, Ledger.after, if_true]
  split_ifs <;> simp_all

/-! ## Growth -/

/-- The log has grown, by `notes` as far as sending is concerned. -/
def Logged (self self' : Sender) (notes : List LogEvent) : Prop :=
  ∃ es, self'.log = self.log ++ es ∧ es.filter LogEvent.ofSend = notes

theorem Logged.refl (self : Sender) : Logged self self [] := ⟨[], by simp, rfl⟩

theorem Logged.trans {self self' self'' : Sender} {notes notes' : List LogEvent}
    (h : Logged self self' notes) (h' : Logged self' self'' notes') :
    Logged self self'' (notes ++ notes') := by
  obtain ⟨es, hlog, rfl⟩ := h
  obtain ⟨es', hlog', rfl⟩ := h'
  exact ⟨es ++ es', by rw [hlog', hlog, List.append_assoc], List.filter_append ..⟩

theorem logged_emit (self : Sender) (e : LogEvent) :
    Logged self (self.emit e) ([e].filter LogEvent.ofSend) := ⟨[e], rfl, rfl⟩

theorem logged_emitIf (self : Sender) (c : Prop) [Decidable c] (e : LogEvent) :
    Logged self (self.emitIf c e) (if c then [e].filter LogEvent.ofSend else []) := by
  unfold Sender.emitIf
  split
  · exact logged_emit self e
  · exact .refl self

/-- An event that is not about sending counts for nothing. -/
theorem logged_emitIf_other (self : Sender) (c : Prop) [Decidable c] {e : LogEvent}
    (he : e.ofSend = false) : Logged self (self.emitIf c e) [] := by
  have h := logged_emitIf self c e
  simpa [he] using h

theorem Logged.of_log_eq {self self' self'' : Sender} {notes : List LogEvent}
    (h : Logged self self' notes) (hlog : self''.log = self'.log) : Logged self self'' notes := by
  obtain ⟨es, hes, hnotes⟩ := h
  exact ⟨es, hlog.trans hes, hnotes⟩

/-! ## The functions of the loop -/

theorem noteHeartbeat_logged (env : Env) (self : Sender) (msg : Message) :
    Logged self (noteHeartbeat env self msg) [] := by
  unfold noteHeartbeat
  split
  · exact ⟨[_], rfl, rfl⟩
  · exact .refl self

theorem updateState_logged (env : Env) (self : Sender) (msg : Message) :
    Logged self (updateState env self msg) [] := by
  have hnote := noteHeartbeat_logged env self msg
  unfold updateState
  split
  · exact hnote
  · cases msg.body with
    | heartbeat beat =>
        have harmed := hnote.trans (logged_emitIf_other _
          (beat.armed ≠ (noteHeartbeat env self msg).state.armed)
          (e := .armedChanged beat.armed) rfl)
        exact (harmed.trans (logged_emitIf_other _ _ rfl)).of_log_eq rfl
    | gpsRawInt gps => exact (hnote.trans (logged_emitIf_other _ _ rfl)).of_log_eq rfl
    | _ => exact hnote.of_log_eq rfl

theorem receive_logged (env : Env) (self : Sender) (msg : Option Message) :
    Logged self (receive env self msg) [] := by
  cases msg with
  | none => exact .refl self
  | some m => exact updateState_logged env self m

theorem handleResponse_logged (self : Sender) (status : Int) (text : String) (time : ℚ) :
    Logged self (handleResponse self status text time)
      (self.ledger.outcomeNotes self.lastSend (.response status text)) := by
  have hfailCount : self.ledger.failCount = self.failCount := rfl
  have hauthFailCount : self.ledger.authFailCount = self.authFailCount := rfl
  generalize self.ledger = ledger at hfailCount hauthFailCount
  unfold handleResponse Ledger.outcomeNotes
  rw [hfailCount, hauthFailCount]
  by_cases hOk : status = 200
  · simp only [hOk, if_true]
    by_cases hfirst : self.failCount = 0 ∧ self.authFailCount = 0 ∧ self.lastSend = 0
    · rw [if_pos hfirst, if_pos hfirst]
      exact ⟨[_], rfl, rfl⟩
    · rw [if_neg hfirst, if_neg hfirst]
      by_cases hfail : 0 < self.failCount
      · rw [if_pos hfail, if_pos hfail]
        exact ⟨[_], rfl, rfl⟩
      · rw [if_neg hfail, if_neg hfail]
        by_cases hauth : 0 < self.authFailCount
        · rw [if_pos hauth, if_pos hauth]
          exact ⟨[_], rfl, rfl⟩
        · rw [if_neg hauth, if_neg hauth]
          exact ⟨[], (List.append_nil _).symm, rfl⟩
  · simp only [hOk, if_false]
    by_cases hAuth : status = 401
    · rw [if_pos hAuth, if_pos hAuth]
      exact ⟨[_], rfl, rfl⟩
    · rw [if_neg hAuth, if_neg hAuth]
      by_cases hClient : status < 500
      · rw [if_pos hClient, if_pos hClient]
        exact ⟨[_], rfl, rfl⟩
      · rw [if_neg hClient, if_neg hClient]
        exact ⟨[_], rfl, rfl⟩

/-- What `send` logs when it returns. -/
theorem send_logged {self self' : Sender} {payload : Payload} {post : Payload → PostOutcome}
    {time : ℚ} (h : send self payload post time = .ok self') (now : ℚ) :
    Logged self self' (self.ledger.notes self.lastSend ⟨payload, now, post payload, time⟩) := by
  have halarm (sent : Sender) (hsent : sent.ledger = self.ledger.after time (post payload)) :
      Logged sent (sent.emitIf (sent.failCount = 30) .cloudLost)
        (if (self.ledger.after time (post payload)).failCount = 30 then [.cloudLost] else []) := by
    rw [← hsent]
    exact logged_emitIf sent _ .cloudLost
  unfold send at h
  cases hp : post payload with
  | response status text =>
      rw [hp] at h halarm
      cases h
      exact (handleResponse_logged self status text time).trans
        (halarm _ (handleResponse_spec self status text time).1)
  | transportError e =>
      rw [hp] at h halarm
      cases he : e.caught with
      | true =>
          simp only [he, ↓reduceIte] at h
          cases h
          exact Logged.trans ⟨[.sendFailed e], rfl, rfl⟩ (halarm _ rfl)
      | false =>
          simp only [he] at h
          cases h
  | valueError => rw [hp] at h; cases h

/-- **Iteration.** What an iteration logs about sending is what its POST
makes `send` log. -/
theorem iterate_logged {env : Env} {l l' : Loop} {it : Iteration}
    (h : iterate env l it = .ok l') :
    Logged l.sender l'.sender
      (match attempt? env l it with
      | some a => l.sender.ledger.notes l.sender.lastSend a
      | none => []) := by
  have hreceive := receive_logged env l.sender it.msg
  have hledger := receive_ledger env l.sender it.msg
  have hlast := receive_lastSend env l.sender it.msg
  unfold iterate at h
  unfold attempt?
  set self := receive env l.sender it.msg
  by_cases hdue : Due env self it.now
  · by_cases hgate : self.state.lat = none ∨ self.state.lon = none
    · have hknown : ¬ PositionKnown self := fun hpos => hgate.elim hpos.1 hpos.2
      simp only [hdue, hgate, if_true] at h
      obtain rfl := Except.ok.inj h
      simp only [hknown, and_false, if_false]
      exact (hreceive.trans (logged_emitIf_other _ _ rfl)).of_log_eq rfl
    · have hknown : PositionKnown self :=
        ⟨fun hlat => hgate (Or.inl hlat), fun hlon => hgate (Or.inr hlon)⟩
      simp only [hdue, hgate, if_true, if_false] at h
      cases hsend : send (self.emit (.tx (buildPayload self))) (buildPayload self) it.post
          it.answeredAt with
      | error e => rw [hsend] at h; cases h
      | ok sent =>
          rw [hsend] at h
          obtain rfl := Except.ok.inj h
          simp only [hdue, hknown, and_self, if_true]
          rw [← hledger, ← hlast]
          have htx := hreceive.trans (logged_emit self (.tx (buildPayload self)))
          exact (htx.trans (send_logged hsend it.now)).of_log_eq rfl
  · simp only [hdue, if_false] at h
    obtain rfl := Except.ok.inj h
    simp only [hdue, false_and, if_false]
    exact hreceive

/-! ## Reading the log -/

/-- What has been logged from `l` to `l'`. -/
def logged (l l' : Loop) : List LogEvent := l'.sender.log.drop l.sender.log.length

theorem Logged.filter_logged {l l' : Loop} {notes : List LogEvent}
    (h : Logged l.sender l'.sender notes) : (logged l l').filter LogEvent.ofSend = notes := by
  obtain ⟨es, hlog, hnotes⟩ := h
  rw [logged, hlog, List.drop_left, hnotes]

theorem Logged.mem_logged {l l' : Loop} {notes : List LogEvent}
    (h : Logged l.sender l'.sender notes) {e : LogEvent} (he : e.ofSend = true) :
    e ∈ logged l l' ↔ e ∈ notes := by
  rw [← h.filter_logged, List.mem_filter]
  exact (and_iff_left he).symm

theorem Logged.count_logged {l l' : Loop} {notes : List LogEvent}
    (h : Logged l.sender l'.sender notes) {e : LogEvent} (he : e.ofSend = true) :
    (logged l l').count e = notes.count e := by
  rw [← h.filter_logged, List.count_filter he]

/-- An event of `send` is logged in an iteration just if its POST makes
`send` log it. -/
theorem mem_logged_iterate {env : Env} {l l' : Loop} {it : Iteration}
    (h : iterate env l it = .ok l') {e : LogEvent} (he : e.ofSend = true) :
    e ∈ logged l l' ↔
      ∃ a, attempt? env l it = some a ∧ e ∈ l.sender.ledger.notes l.sender.lastSend a := by
  rw [(iterate_logged h).mem_logged he]
  cases attempt? env l it with
  | none => simp
  | some a => simp

/-- A view of an iteration after a run, if it attempts a POST and the
process lives on. -/
def observed {α : Type} (env : Env) (pre : List Iteration) (it : Iteration)
    (view : Loop → Loop → Attempt → α) : Option α := do
  let l ← (runSender env pre).toOption
  let l' ← (iterate env l it).toOption
  let a ← attempt? env l it
  return view l l' a

theorem exists_of_observed {α : Type} {env : Env} {pre : List Iteration} {it : Iteration}
    {view : Loop → Loop → Attempt → α} {v : α} (h : observed env pre it view = some v) :
    ∃ l l' a, runSender env pre = .ok l ∧ iterate env l it = .ok l'
      ∧ attempt? env l it = some a ∧ view l l' a = v := by
  unfold observed at h
  obtain ⟨l, hl, h⟩ := Option.bind_eq_some_iff.mp h
  obtain ⟨l', hl', h⟩ := Option.bind_eq_some_iff.mp h
  obtain ⟨a, ha, h⟩ := Option.bind_eq_some_iff.mp h
  have hok {α : Type} {r : Except PyException α} {x : α} (hx : r.toOption = some x) :
      r = .ok x := by
    cases r with
    | error e => cases hx
    | ok y => exact congrArg Except.ok (Option.some.inj hx)
  exact ⟨l, l', a, hok hl, hok hl', ha, Option.some.inj h⟩

end Specter
