import Mathlib.Algebra.Order.Ring.Rat
import Mathlib.Data.Rat.Cast.Order
import Specter.Lib.Run
import Specter.Telemetry

/-!
# Sending: `send` and the loop of `run`

One iteration of the loop takes a received message (or none), the
reading of `time.time()` that follows it, and what the POST and the
second reading would give if the iteration gets that far. A run of the
process is the fold of `iterate` over such inputs; an exception that
`send` does not catch ends it, since the loop has no handler.

Clock readings are exact rationals, and so are their sums and
differences.
-/

namespace Specter

def authBackoffCapSeconds : Nat := 60

/-! ## Exceptions -/

def TransportError.base : TransportError → Option TransportError
  | .transportError => none
  | .timeoutException | .networkError | .protocolError
  | .proxyError | .unsupportedProtocol => some .transportError
  | .connectTimeout | .readTimeout | .writeTimeout | .poolTimeout => some .timeoutException
  | .connectError | .readError | .writeError | .closeError => some .networkError
  | .localProtocolError | .remoteProtocolError => some .protocolError

/-- The class itself and its bases; the family is three levels deep. -/
def TransportError.mro (e : TransportError) : List TransportError :=
  e :: e.base.toList ++ (e.base.bind TransportError.base).toList

/-- The classes listed in the `except` clause of `send`. -/
def exceptClause : List TransportError :=
  [.connectError, .timeoutException, .remoteProtocolError]

def TransportError.caught (e : TransportError) : Bool :=
  e.mro.any (· ∈ exceptClause)

/-- How `client.post` ends. `valueError` is the encoder of the body
giving up on a number it cannot write. -/
inductive PostOutcome where
  | response (statusCode : Int) (text : String)
  | transportError (e : TransportError)
  | valueError
deriving Repr, DecidableEq

/-- An exception that leaves `send`. -/
inductive PyException where
  | transportError (e : TransportError)
  | valueError
deriving Repr, DecidableEq

/-! ## `send` -/

/-- The backoff after the `k`-th rejection in a row. -/
def backoffSeconds (k : Nat) : Nat := min authBackoffCapSeconds (2 ^ (k - 1))

/-- The branches on `response.status_code`; `time` is the reading taken
in the 401 branch. -/
def handleResponse (self : Sender) (status : Int) (text : String) (time : ℚ) : Sender :=
  if status = 200 then
    let self :=
      if self.failCount = 0 ∧ self.authFailCount = 0 ∧ self.lastSend = 0 then
        self.emit .firstSent
      else if 0 < self.failCount then self.emit (.cloudRestored self.failCount)
      else if 0 < self.authFailCount then self.emit (.authRestored self.authFailCount)
      else self
    { self with failCount := 0, authFailCount := 0, nextSendAfter := 0 }
  else if status = 401 then
    let authFailCount := self.authFailCount + 1
    let backoff := backoffSeconds authFailCount
    { self with authFailCount := authFailCount, nextSendAfter := time + backoff }.emit
      (.authRejected backoff)
  else if status < 500 then self.emit (.clientError status text)
  else { self with failCount := self.failCount + 1 }.emit (.serverError status text)

def send (self : Sender) (payload : Payload) (post : Payload → PostOutcome) (time : ℚ) :
    Except PyException Sender := do
  let self ←
    match post payload with
    | .response status text => pure (handleResponse self status text time)
    | .transportError e =>
      if e.caught then
        pure ({ self with failCount := self.failCount + 1 }.emit (.sendFailed e))
      else throw (.transportError e)
    | .valueError => throw .valueError
  return self.emitIf (self.failCount = 30) .cloudLost

/-! ## `run` -/

structure Loop where
  sender : Sender
  waitingForFixLogged : Bool
deriving DecidableEq

/-- What one iteration meets. -/
structure Iteration where
  msg : Option Message  -- `recv_match`
  now : ℚ  -- the reading the send condition is tested with
  post : Payload → PostOutcome  -- how a POST would end
  answeredAt : ℚ  -- the reading taken if it ends in a 401

/-- `if msg: self.update_state(msg)`. -/
def receive (env : Env) (self : Sender) : Option Message → Sender
  | some msg => updateState env self msg
  | none => self

/-- The send condition. -/
def Due (env : Env) (self : Sender) (now : ℚ) : Prop :=
  env.sendInterval ≤ now - self.lastSend ∧ self.nextSendAfter ≤ now

instance (env : Env) (self : Sender) (now : ℚ) : Decidable (Due env self now) :=
  inferInstanceAs (Decidable (_ ∧ _))

def iterate (env : Env) (l : Loop) (it : Iteration) : Except PyException Loop :=
  let self := receive env l.sender it.msg
  if Due env self it.now then
    if self.state.lat = none ∨ self.state.lon = none then
      let self := self.emitIf (¬ l.waitingForFixLogged) .waitingForPosition
      .ok { sender := { self with lastSend := it.now }, waitingForFixLogged := true }
    else do
      let payload := buildPayload self
      let self := self.emit (.tx payload)
      let self ← send self payload it.post it.answeredAt
      .ok { l with sender := { self with lastSend := it.now } }
  else .ok { l with sender := self }

def Loop.init (env : Env) : Loop where
  sender := Sender.init env
  waitingForFixLogged := false

/-- The process after the iterations `its`, or the exception that ended it. -/
def runSender (env : Env) (its : List Iteration) : Except PyException Loop :=
  Run.run (iterate env) (Loop.init env) its

/-! ## POST attempts -/

/-- A POST that `run` hands to the HTTP client. -/
structure Attempt where
  payload : Payload
  now : ℚ
  outcome : PostOutcome
  answeredAt : ℚ
deriving DecidableEq

/-- The position gate is open. -/
def PositionKnown (self : Sender) : Prop :=
  self.state.lat ≠ none ∧ self.state.lon ≠ none

instance (self : Sender) : Decidable (PositionKnown self) :=
  inferInstanceAs (Decidable (_ ∧ _))

/-- The POST attempted by an iteration, if it gets to one. -/
def attempt? (env : Env) (l : Loop) (it : Iteration) : Option Attempt :=
  let self := receive env l.sender it.msg
  if Due env self it.now ∧ PositionKnown self then
    let payload := buildPayload self
    some ⟨payload, it.now, it.post payload, it.answeredAt⟩
  else none

/-- The POSTs attempted from `l` on, in order, the one that ends the
process included. -/
def attemptsFrom (env : Env) : Loop → List Iteration → List Attempt
  | _, [] => []
  | l, it :: its =>
    (attempt? env l it).toList ++
      match iterate env l it with
      | .ok l' => attemptsFrom env l' its
      | .error _ => []

def attempts (env : Env) (its : List Iteration) : List Attempt :=
  attemptsFrom env (Loop.init env) its

def received (its : List Iteration) : List Message := its.filterMap (·.msg)

/-- On the bench: the position arrives, the clock reads `now`, and a POST would end in
`outcome` at the reading `answeredAt`. -/
def benchIteration (now : ℚ) (outcome : PostOutcome) (answeredAt : ℚ) : Iteration where
  msg := some benchFix
  now := now
  post := fun _ => outcome
  answeredAt := answeredAt

end Specter
