import Specter.Sender

/-!
# What one step of the sender can do

One lemma for each function of the loop, from which the invariants of
whole runs follow: `update_state` touches the dictionary and the log,
`send` the counters and the backoff deadline (the *ledger*), and the
loop itself `last_send`. Nothing after this module unfolds `send` or
`iterate` again.
-/

namespace Specter

/-! ## The ledger -/

/-- The bookkeeping of failures. -/
structure Ledger where
  failCount : Nat
  authFailCount : Nat
  nextSendAfter : ℚ
deriving DecidableEq

def Sender.ledger (self : Sender) : Ledger :=
  ⟨self.failCount, self.authFailCount, self.nextSendAfter⟩

/-- The ledger once a POST has ended in `outcome`. -/
def Ledger.after (ledger : Ledger) (time : ℚ) : PostOutcome → Ledger
  | .response status _ =>
    if status = 200 then ⟨0, 0, 0⟩
    else if status = 401 then
      { ledger with
        authFailCount := ledger.authFailCount + 1
        nextSendAfter := time + backoffSeconds (ledger.authFailCount + 1) }
    else if status < 500 then ledger
    else { ledger with failCount := ledger.failCount + 1 }
  | .transportError _ => { ledger with failCount := ledger.failCount + 1 }
  | .valueError => ledger

def PostOutcome.Handled : PostOutcome → Prop
  | .response .. => True
  | .transportError e => e.caught = true
  | .valueError => False

instance : DecidablePred PostOutcome.Handled
  | .response .. => inferInstanceAs (Decidable True)
  | .transportError _ => inferInstanceAs (Decidable (_ = true))
  | .valueError => inferInstanceAs (Decidable False)

/-- The exception that leaves `send`, if the outcome is one it does not
handle. -/
def PostOutcome.exception? : PostOutcome → Option PyException
  | .response .. => none
  | .transportError e => if e.caught then none else some (.transportError e)
  | .valueError => some .valueError

theorem exception?_eq_valueError {o : PostOutcome} (h : o.exception? = some .valueError) :
    o = .valueError := by
  cases o with
  | response status text => cases h
  | transportError e =>
      simp only [PostOutcome.exception?] at h
      split_ifs at h
      cases h
  | valueError => rfl

@[simp] theorem emit_ledger (self : Sender) (e : LogEvent) :
    (self.emit e).ledger = self.ledger := rfl

@[simp] theorem emit_lastSend (self : Sender) (e : LogEvent) :
    (self.emit e).lastSend = self.lastSend := rfl

@[simp] theorem emitIf_ledger (self : Sender) (c : Prop) [Decidable c] (e : LogEvent) :
    (self.emitIf c e).ledger = self.ledger := by
  unfold Sender.emitIf; split <;> rfl

@[simp] theorem emitIf_lastSend (self : Sender) (c : Prop) [Decidable c] (e : LogEvent) :
    (self.emitIf c e).lastSend = self.lastSend := by
  unfold Sender.emitIf; split <;> rfl

/-! ## `update_state` -/

@[simp] theorem noteHeartbeat_ledger (env : Env) (self : Sender) (msg : Message) :
    (noteHeartbeat env self msg).ledger = self.ledger := by
  unfold noteHeartbeat; split <;> rfl

@[simp] theorem noteHeartbeat_lastSend (env : Env) (self : Sender) (msg : Message) :
    (noteHeartbeat env self msg).lastSend = self.lastSend := by
  unfold noteHeartbeat; split <;> rfl

theorem updateState_ledger (env : Env) (self : Sender) (msg : Message) :
    (updateState env self msg).ledger = self.ledger := by
  have hnote := noteHeartbeat_ledger env self msg
  unfold updateState
  split
  · exact hnote
  · cases msg.body with
    | heartbeat beat =>
        rw [← hnote]
        exact (emitIf_ledger _ _ _).trans (emitIf_ledger _ _ _)
    | gpsRawInt gps =>
        rw [← hnote]
        exact emitIf_ledger _ _ _
    | _ => exact hnote

theorem updateState_lastSend (env : Env) (self : Sender) (msg : Message) :
    (updateState env self msg).lastSend = self.lastSend := by
  have hnote := noteHeartbeat_lastSend env self msg
  unfold updateState
  split
  · exact hnote
  · cases msg.body with
    | heartbeat beat =>
        rw [← hnote]
        exact (emitIf_lastSend _ _ _).trans (emitIf_lastSend _ _ _)
    | gpsRawInt gps =>
        rw [← hnote]
        exact emitIf_lastSend _ _ _
    | _ => exact hnote

@[simp] theorem receive_ledger (env : Env) (self : Sender) (msg : Option Message) :
    (receive env self msg).ledger = self.ledger := by
  cases msg with
  | none => rfl
  | some m => exact updateState_ledger env self m

@[simp] theorem receive_lastSend (env : Env) (self : Sender) (msg : Option Message) :
    (receive env self msg).lastSend = self.lastSend := by
  cases msg with
  | none => rfl
  | some m => exact updateState_lastSend env self m

@[simp] theorem receive_nextSendAfter (env : Env) (self : Sender) (msg : Option Message) :
    (receive env self msg).nextSendAfter = self.nextSendAfter :=
  congrArg Ledger.nextSendAfter (receive_ledger env self msg)

/-! ## `send` -/

theorem handleResponse_spec (self : Sender) (status : Int) (text : String) (time : ℚ) :
    (handleResponse self status text time).ledger
        = self.ledger.after time (.response status text)
      ∧ (handleResponse self status text time).state = self.state
      ∧ (handleResponse self status text time).lastSend = self.lastSend := by
  by_cases hOk : status = 200
  · simp only [handleResponse, Ledger.after, hOk, if_true]
    refine ⟨rfl, ?_, ?_⟩ <;> split_ifs <;> rfl
  · by_cases hAuth : status = 401
    · subst hAuth
      exact ⟨rfl, rfl, rfl⟩
    · by_cases hClient : status < 500 <;>
        simp only [handleResponse, Ledger.after, hOk, hAuth, hClient, if_false, if_true] <;>
        exact ⟨rfl, rfl, rfl⟩

theorem send_ok_iff (self : Sender) (payload : Payload) (post : Payload → PostOutcome)
    (time : ℚ) :
    (∃ self', send self payload post time = .ok self') ↔ (post payload).Handled := by
  unfold send
  cases post payload with
  | response status text => exact ⟨fun _ => trivial, fun _ => ⟨_, rfl⟩⟩
  | transportError e =>
      cases he : e.caught with
      | true => exact ⟨fun _ => he, fun _ => ⟨_, by simp [he]; rfl⟩⟩
      | false =>
          constructor
          · rintro ⟨self', h⟩
            simp [he] at h
            cases h
          · intro h
            rw [PostOutcome.Handled, he] at h
            cases h
  | valueError =>
      constructor
      · rintro ⟨self', h⟩
        cases h
      · exact False.elim

theorem send_error {self : Sender} {payload : Payload} {post : Payload → PostOutcome}
    {time : ℚ} {e : PyException} (h : send self payload post time = .error e) :
    (post payload).exception? = some e := by
  unfold send at h
  cases hp : post payload with
  | response status text => rw [hp] at h; cases h
  | transportError te =>
      rw [hp] at h
      cases hc : te.caught with
      | true => simp only [hc, ↓reduceIte] at h; cases h
      | false =>
          simp only [hc, Bool.false_eq_true, ↓reduceIte] at h
          cases h
          simp [PostOutcome.exception?, hc]
  | valueError => rw [hp] at h; cases h; rfl

/-- What `send` does to the object when it returns. -/
theorem send_spec {self self' : Sender} {payload : Payload} {post : Payload → PostOutcome}
    {time : ℚ} (h : send self payload post time = .ok self') :
    self'.ledger = self.ledger.after time (post payload)
      ∧ self'.state = self.state ∧ self'.lastSend = self.lastSend := by
  unfold send at h
  cases hp : post payload with
  | response status text =>
      rw [hp] at h
      cases h
      simpa using handleResponse_spec self status text time
  | transportError e =>
      rw [hp] at h
      cases he : e.caught with
      | true =>
          simp only [he, ↓reduceIte] at h
          cases h
          exact ⟨emitIf_ledger _ _ _, emitIf_state _ _ _, emitIf_lastSend _ _ _⟩
      | false =>
          simp only [he] at h
          cases h
  | valueError => rw [hp] at h; cases h

/-! ## One iteration -/

theorem mem_attempt? {env : Env} {l : Loop} {it : Iteration} {a : Attempt}
    (h : attempt? env l it = some a) :
    Due env (receive env l.sender it.msg) it.now
      ∧ PositionKnown (receive env l.sender it.msg)
      ∧ a = ⟨buildPayload (receive env l.sender it.msg), it.now,
          it.post (buildPayload (receive env l.sender it.msg)), it.answeredAt⟩ := by
  unfold attempt? at h
  by_cases hcond : Due env (receive env l.sender it.msg) it.now
      ∧ PositionKnown (receive env l.sender it.msg)
  · rw [if_pos hcond] at h
    exact ⟨hcond.1, hcond.2, (Option.some.inj h).symm⟩
  · rw [if_neg hcond] at h
    cases h

/-- What an iteration does to the dictionary, to `last_send` and to the
ledger, whether it reaches a POST or not. -/
theorem iterate_spec {env : Env} {l l' : Loop} {it : Iteration}
    (h : iterate env l it = .ok l') :
    l'.sender.state = (receive env l.sender it.msg).state
      ∧ l'.sender.lastSend =
          (if Due env (receive env l.sender it.msg) it.now then it.now else l.sender.lastSend)
      ∧ match attempt? env l it with
        | some a => a.outcome.Handled
            ∧ l'.sender.ledger = l.sender.ledger.after a.answeredAt a.outcome
        | none => l'.sender.ledger = l.sender.ledger := by
  unfold iterate at h
  unfold attempt?
  set self := receive env l.sender it.msg with hself
  have hledger : self.ledger = l.sender.ledger := receive_ledger env l.sender it.msg
  have hlast : self.lastSend = l.sender.lastSend := receive_lastSend env l.sender it.msg
  by_cases hdue : Due env self it.now
  · by_cases hpos : PositionKnown self
    · -- the POST: `send` decides, and `last_send` follows it
      have hgate : ¬ (self.state.lat = none ∨ self.state.lon = none) := by
        rintro (h | h)
        · exact hpos.1 h
        · exact hpos.2 h
      simp only [hdue, hgate, if_true, if_false] at h
      cases hsend : send (self.emit (.tx (buildPayload self))) (buildPayload self) it.post
          it.answeredAt with
      | error e => rw [hsend] at h; cases h
      | ok sent =>
          rw [hsend] at h
          obtain rfl := Except.ok.inj h
          obtain ⟨hafter, hstate, -⟩ := send_spec hsend
          simp only [hdue, hpos, and_self, if_true]
          refine ⟨hstate, trivial, (send_ok_iff _ _ _ _).mp ⟨sent, hsend⟩, ?_⟩
          rw [← hledger]
          exact hafter
    · -- the position gate: only `last_send` moves
      have hgate : self.state.lat = none ∨ self.state.lon = none := by
        by_contra hne
        exact hpos ⟨fun hl => hne (Or.inl hl), fun hl => hne (Or.inr hl)⟩
      simp only [hdue, hgate, if_true] at h
      obtain rfl := Except.ok.inj h
      simp only [hdue, hpos, and_false, if_false, if_true]
      refine ⟨emitIf_state _ _ _, trivial, ?_⟩
      rw [← hledger]
      exact emitIf_ledger _ _ _
  · simp only [hdue, if_false] at h
    obtain rfl := Except.ok.inj h
    simp only [hdue, false_and, if_false]
    exact ⟨trivial, hlast, hledger⟩

theorem iterate_posted {env : Env} {l l' : Loop} {it : Iteration} {a : Attempt}
    (h : iterate env l it = .ok l') (ha : attempt? env l it = some a) :
    a.outcome.Handled ∧ l'.sender.ledger = l.sender.ledger.after a.answeredAt a.outcome := by
  have hspec := (iterate_spec h).2.2
  rwa [ha] at hspec

theorem iterate_silent {env : Env} {l l' : Loop} {it : Iteration}
    (h : iterate env l it = .ok l') (ha : attempt? env l it = none) :
    l'.sender.ledger = l.sender.ledger := by
  have hspec := (iterate_spec h).2.2
  rwa [ha] at hspec

/-- An iteration ends the process exactly when it attempts a POST whose
outcome `send` does not handle. -/
theorem iterate_ok_iff {env : Env} {l : Loop} {it : Iteration} :
    (∃ l', iterate env l it = .ok l')
      ↔ ∀ a, attempt? env l it = some a → a.outcome.Handled := by
  constructor
  · rintro ⟨l', h⟩ a ha
    exact (iterate_posted h ha).1
  · intro h
    unfold attempt? at h
    unfold iterate
    set self := receive env l.sender it.msg
    by_cases hdue : Due env self it.now
    · by_cases hpos : PositionKnown self
      · have hgate : ¬ (self.state.lat = none ∨ self.state.lon = none) := by
          rintro (h | h)
          · exact hpos.1 h
          · exact hpos.2 h
        simp only [hdue, hpos, and_self, if_true] at h
        obtain ⟨sent, hsent⟩ := (send_ok_iff (self.emit (.tx (buildPayload self)))
          (buildPayload self) it.post it.answeredAt).mpr (h _ rfl)
        simp only [hdue, hgate, if_true, if_false, hsent]
        exact ⟨_, rfl⟩
      · have hgate : self.state.lat = none ∨ self.state.lon = none := by
          by_contra hne
          exact hpos ⟨fun hl => hne (Or.inl hl), fun hl => hne (Or.inr hl)⟩
        simp only [hdue, hgate, if_true]
        exact ⟨_, rfl⟩
    · simp only [hdue, if_false]
      exact ⟨_, rfl⟩

/-- A response leaves the process running. -/
theorem iterate_ok_of_response {env : Env} {l : Loop} {it : Iteration} {a : Attempt}
    {status : Int} {text : String} (ha : attempt? env l it = some a)
    (htext : a.outcome = .response status text) : ∃ l', iterate env l it = .ok l' := by
  refine iterate_ok_iff.mpr fun b hb => ?_
  obtain rfl := Option.some.inj (ha.symm.trans hb)
  rw [htext]
  trivial

/-- An exception that ends an iteration is that of the POST it attempted. -/
theorem iterate_error {env : Env} {l : Loop} {it : Iteration} {e : PyException}
    (h : iterate env l it = .error e) :
    ∃ a, attempt? env l it = some a ∧ a.outcome.exception? = some e := by
  unfold iterate at h
  unfold attempt?
  set self := receive env l.sender it.msg
  by_cases hdue : Due env self it.now
  · by_cases hgate : self.state.lat = none ∨ self.state.lon = none
    · simp only [hdue, hgate, if_true] at h
      cases h
    · have hpos : PositionKnown self :=
        ⟨fun hl => hgate (Or.inl hl), fun hl => hgate (Or.inr hl)⟩
      simp only [hdue, hgate, if_true, if_false] at h
      cases hsend : send (self.emit (.tx (buildPayload self))) (buildPayload self) it.post
          it.answeredAt with
      | ok sent => rw [hsend] at h; cases h
      | error e' =>
          rw [hsend] at h
          obtain rfl := Except.error.inj h
          exact ⟨_, if_pos ⟨hdue, hpos⟩, send_error hsend⟩
  · simp only [hdue, if_false] at h
    cases h

/-! ## The dictionary along a run -/

theorem updateState_state_congr (env : Env) {s t : Sender} (h : s.state = t.state)
    (msg : Message) : (updateState env s msg).state = (updateState env t msg).state := by
  unfold updateState
  split
  · simpa using h
  · cases msg.body <;> simp [h]

theorem received_append_singleton (its : List Iteration) (it : Iteration) :
    received (its ++ [it]) = received its ++ it.msg.toList := by
  cases h : it.msg <;> simp [received, h]

theorem received_subset {pre its : List Iteration} (h : pre <+: its) :
    received pre ⊆ received its :=
  (h.filterMap _).subset

def accumulated (env : Env) (msgs : List Message) : State :=
  (msgs.foldl (updateState env) (Sender.init env)).state

theorem receive_accumulated {env : Env} {self : Sender} {its : List Iteration}
    (h : self.state = accumulated env (received its)) (it : Iteration) :
    (receive env self it.msg).state = accumulated env (received (its ++ [it])) := by
  rw [received_append_singleton]
  cases it.msg with
  | none => simpa [receive] using h
  | some msg =>
      simp only [accumulated, Option.toList_some, List.foldl_append, List.foldl_cons,
        List.foldl_nil]
      exact updateState_state_congr env h msg

/-- Whatever happens to the POSTs, the dictionary is the one the received
messages build. -/
theorem runSender_state {env : Env} {its : List Iteration} {l : Loop}
    (h : runSender env its = .ok l) : l.sender.state = accumulated env (received its) := by
  refine Run.run_induction (P := fun its l => l.sender.state = accumulated env (received its))
    rfl (fun its l it l' _ ih hit => ?_) h
  rw [(iterate_spec hit).1]
  exact receive_accumulated ih it

/-! ## Attempts along a run -/

theorem attemptsFrom_append {env : Env} {l l' : Loop} {its : List Iteration}
    (js : List Iteration) (h : Run.run (iterate env) l its = .ok l') :
    attemptsFrom env l (its ++ js) = attemptsFrom env l its ++ attemptsFrom env l' js := by
  induction its generalizing l with
  | nil => cases h; rfl
  | cons it its ih =>
      cases hit : iterate env l it with
      | error e => rw [Run.run_cons_error hit] at h; cases h
      | ok m =>
          rw [Run.run_cons_ok hit] at h
          simp only [List.cons_append, attemptsFrom, hit, ih h, List.append_assoc]

theorem attempts_append_singleton {env : Env} {l : Loop} {its : List Iteration}
    (it : Iteration) (h : runSender env its = .ok l) :
    attempts env (its ++ [it]) = attempts env its ++ (attempt? env l it).toList := by
  rw [attempts, attemptsFrom_append [it] h]
  cases hit : iterate env l it <;> simp [attempts, attemptsFrom, hit]

@[simp] theorem attempts_nil (env : Env) : attempts env [] = [] := rfl

/-- Every POST of a run is attempted by the iteration after one of its
prefixes, and comes after the POSTs of that prefix. -/
theorem attemptsFrom_split {env : Env} {l : Loop} {its : List Iteration}
    {before : List Attempt} {a : Attempt} :
    (∃ after, attemptsFrom env l its = before ++ a :: after) ↔
      ∃ pre it l', pre ++ [it] <+: its ∧ Run.run (iterate env) l pre = .ok l'
        ∧ attemptsFrom env l pre = before ∧ attempt? env l' it = some a := by
  constructor
  · rintro ⟨after, heq⟩
    induction its generalizing l before with
    | nil => simp [attemptsFrom] at heq
    | cons it its ih =>
        -- the POST is that of `it`, or of a later iteration
        have hlater {b : List Attempt} {m : Loop} (hit : iterate env l it = .ok m)
            (hrest : attemptsFrom env m its = b ++ a :: after) :
            ∃ pre jt l', pre ++ [jt] <+: it :: its ∧ Run.run (iterate env) l pre = .ok l'
              ∧ attemptsFrom env l pre = (attempt? env l it).toList ++ b
              ∧ attempt? env l' jt = some a := by
          obtain ⟨pre, jt, l', hpre, hrun, hbefore, ha⟩ := ih hrest
          refine ⟨it :: pre, jt, l', List.cons_prefix_cons.mpr ⟨rfl, hpre⟩,
            (Run.run_cons_ok hit).trans hrun, ?_, ha⟩
          simp only [attemptsFrom, hit, hbefore]
        cases hb : attempt? env l it with
        | none =>
            obtain ⟨m, hit⟩ := iterate_ok_iff.mpr fun c hc => by rw [hb] at hc; cases hc
            simp only [attemptsFrom, hb, hit, Option.toList_none, List.nil_append] at heq
            simpa [hb] using hlater hit heq
        | some b =>
            rw [attemptsFrom, hb, Option.toList_some, List.singleton_append] at heq
            cases before with
            | nil =>
                obtain ⟨rfl, -⟩ := List.cons.inj heq
                exact ⟨[], it, l, ⟨its, rfl⟩, rfl, rfl, hb⟩
            | cons c before =>
                obtain ⟨rfl, hrest⟩ := List.cons.inj heq
                cases hit : iterate env l it with
                | error e => rw [hit] at hrest; simp at hrest
                | ok m =>
                    rw [hit] at hrest
                    simpa [hb] using hlater hit hrest
  · rintro ⟨pre, it, l', ⟨rest, rfl⟩, hrun, rfl, ha⟩
    rw [List.append_assoc, attemptsFrom_append _ hrun, List.singleton_append, attemptsFrom, ha]
    exact ⟨_, rfl⟩

theorem mem_attemptsFrom {env : Env} {l : Loop} {its : List Iteration} {a : Attempt} :
    a ∈ attemptsFrom env l its ↔
      ∃ pre it l', pre ++ [it] <+: its ∧ Run.run (iterate env) l pre = .ok l'
        ∧ attempt? env l' it = some a := by
  rw [List.mem_iff_append]
  constructor
  · rintro ⟨before, after, heq⟩
    obtain ⟨pre, it, l', hpre, hrun, -, ha⟩ := attemptsFrom_split.mp ⟨after, heq⟩
    exact ⟨pre, it, l', hpre, hrun, ha⟩
  · rintro ⟨pre, it, l', hpre, hrun, ha⟩
    obtain ⟨after, heq⟩ := attemptsFrom_split.mpr ⟨pre, it, l', hpre, hrun, rfl, ha⟩
    exact ⟨_, after, heq⟩

theorem attempts_split_iff {env : Env} {its : List Iteration} {before : List Attempt}
    {a : Attempt} :
    (∃ after, attempts env its = before ++ a :: after) ↔
      ∃ pre it l, pre ++ [it] <+: its ∧ runSender env pre = .ok l
        ∧ attempts env pre = before ∧ attempt? env l it = some a :=
  attemptsFrom_split

/-- The POSTs of a run are those its prefixes lead to. -/
theorem mem_attempts {env : Env} {its : List Iteration} {a : Attempt} :
    a ∈ attempts env its ↔
      ∃ pre it l, pre ++ [it] <+: its ∧ runSender env pre = .ok l ∧ attempt? env l it = some a :=
  mem_attemptsFrom

end Specter
