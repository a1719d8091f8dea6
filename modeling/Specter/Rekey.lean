import Specter.ApiKey
import Specter.SenderSteps

/-!
# A new key in the file

The API key goes from the file into the environment when systemd starts
the process, from there into a module constant, and from there into the
headers of the client, once each. So a process keeps the key it was
started with (`run_header`), through every backoff, and what the operator
writes into the file meanwhile reaches no request. Re-keying works
without a restart exactly where nothing had to be re-keyed
(`rekeyed_iff`).
-/

namespace Specter

open Posix

/-! ## The file, the process and the cloud -/

/-- What an iteration meets, for every key its request could carry. The
cloud answers 401 to exactly the keys it does not accept. -/
structure Exchange where
  msg : Option Message
  now : ℚ
  post : Text → Payload → PostOutcome
  answeredAt : ℚ
  accepts : Text → Bool
  rejects : ∀ key payload status text, post key payload = .response status text →
    (status = 401 ↔ accepts key = false)

def Exchange.iteration (x : Exchange) (key : Text) : Iteration where
  msg := x.msg
  now := x.now
  post := x.post key
  answeredAt := x.answeredAt

structure Host where
  envText : Text  -- `/etc/specter/telemetry-sender.env`
  header : Text  -- `X-API-Key` of the process's client
  loop : Loop

/-- systemd starts the process. -/
def Host.start (env : Env) (envText : Text) : Option Host :=
  (apiKey envText).bind fun key =>
    if refusesToStart (some key) then none else some ⟨envText, key, Loop.init env⟩

inductive HostEvent where
  | edited (envText : Text)
  | iterated (x : Exchange)

def Host.step (env : Env) (host : Host) : HostEvent → Except PyException Host
  | .edited envText => .ok { host with envText := envText }
  | .iterated x => do
    let loop ← iterate env host.loop (x.iteration host.header)
    return { host with loop := loop }

/-! ## Requests and answers -/

structure Request where
  key : Text
  attempt : Attempt

def Host.request? (env : Env) (host : Host) (x : Exchange) : Option Request :=
  (attempt? env host.loop (x.iteration host.header)).map fun a => ⟨host.header, a⟩

def PostOutcome.status? : PostOutcome → Option Int
  | .response status _ => some status
  | .transportError _ | .valueError => none

/-- The status an iteration is answered with, if it gets to a request and
the request to the cloud. -/
def Host.answer? (env : Env) (host : Host) (x : Exchange) : Option Int :=
  (host.request? env x).bind fun r => r.attempt.outcome.status?

/-- The requests of some iterations, in order. -/
def requestsFrom (env : Env) : Host → List Exchange → List Request
  | _, [] => []
  | host, x :: xs =>
    (host.request? env x).toList ++
      match host.step env (.iterated x) with
      | .ok host => requestsFrom env host xs
      | .error _ => []

/-- The first iteration that is answered, and the host that meets it. -/
def firstAnswer? (env : Env) : Host → List Exchange → Option (Host × Exchange)
  | _, [] => none
  | host, x :: xs =>
    if (host.answer? env x).isSome then some (host, x)
    else
      match host.step env (.iterated x) with
      | .ok host => firstAnswer? env host xs
      | .error _ => none

/-- The backoff is over. -/
def Ledger.Clear (ledger : Ledger) : Prop :=
  ledger.authFailCount = 0 ∧ ledger.nextSendAfter = 0

/-- What an edit is to bring about in the iterations after it: every
request carries the new key, and the first answer is no 401 and ends the
backoff. -/
structure Rekeyed (env : Env) (host : Host) (key : Text) (xs : List Exchange) : Prop where
  sent : ∀ r ∈ requestsFrom env host xs, r.key = key
  cleared : ∀ host' x, firstAnswer? env host xs = some (host', x) →
    host'.answer? env x ≠ some 401 ∧
      ∃ after, host'.step env (.iterated x) = .ok after ∧ after.loop.sender.ledger.Clear

/-! ## What a host keeps -/

variable {env : Env} {host host' : Host}

/-- Where no rejection is counted there is no deadline. -/
def Ledger.Sane (ledger : Ledger) : Prop := ledger.authFailCount = 0 → ledger.nextSendAfter = 0

theorem Ledger.Sane.after {ledger : Ledger} (h : ledger.Sane) (time : ℚ) (o : PostOutcome) :
    (ledger.after time o).Sane := by
  cases o with
  | response status text =>
      simp only [Ledger.after]
      split
      · exact fun _ => rfl
      · split
        · exact fun hzero => absurd hzero (Nat.succ_ne_zero _)
        · split <;> exact h
  | transportError e => exact h
  | valueError => exact h

theorem step_iterated {x : Exchange} (h : host.step env (.iterated x) = .ok host') :
    ∃ loop, iterate env host.loop (x.iteration host.header) = .ok loop ∧
      host' = { host with loop := loop } := by
  simp only [Host.step] at h
  cases hit : iterate env host.loop (x.iteration host.header) with
  | error e => rw [hit] at h; cases h
  | ok loop => rw [hit] at h; cases h; exact ⟨loop, rfl, rfl⟩

/-- **Step.** The header stays, and the ledger stays sane. -/
theorem step_keeps {e : HostEvent} (h : host.step env e = .ok host') :
    host'.header = host.header ∧
      (host.loop.sender.ledger.Sane → host'.loop.sender.ledger.Sane) := by
  cases e with
  | edited envText => cases h; exact ⟨rfl, id⟩
  | iterated x =>
      obtain ⟨loop, hit, rfl⟩ := step_iterated h
      refine ⟨rfl, fun hsane => ?_⟩
      change loop.sender.ledger.Sane
      cases ha : attempt? env host.loop (x.iteration host.header) with
      | none =>
          rw [iterate_silent hit ha]
          exact hsane
      | some a =>
          rw [(iterate_posted hit ha).2]
          exact hsane.after _ _

/-- **Run.** Whatever is edited, the process keeps the key it was started
with. -/
theorem run_header {envText : Text} {host₀ : Host} {events : List HostEvent}
    (hstart : Host.start env envText = some host₀)
    (hrun : Run.run (Host.step env) host₀ events = .ok host) :
    apiKey envText = some host.header ∧ host.loop.sender.ledger.Sane := by
  obtain ⟨key, hkey, hhost⟩ := Option.bind_eq_some_iff.mp hstart
  have hinit : host₀ = ⟨envText, key, Loop.init env⟩ := by
    split at hhost
    · cases hhost
    · exact (Option.some.inj hhost).symm
  refine Run.run_induction
    (P := fun _ host => apiKey envText = some host.header ∧ host.loop.sender.ledger.Sane)
    ?_ (fun _ t e t' _ ih hstep => ?_) hrun
  · rw [hinit]
    exact ⟨hkey, fun _ => rfl⟩
  · obtain ⟨hheader, hsane⟩ := step_keeps hstep
    exact ⟨hheader ▸ ih.1, hsane ih.2⟩

/-! ## What its requests carry -/

theorem requestsFrom_key (env : Env) (host : Host) (xs : List Exchange) :
    ∀ r ∈ requestsFrom env host xs, r.key = host.header := by
  induction xs generalizing host with
  | nil => simp [requestsFrom]
  | cons x xs ih =>
      intro r hr
      rw [requestsFrom, List.mem_append] at hr
      rcases hr with hnow | hlater
      · obtain ⟨a, -, rfl⟩ := Option.map_eq_some_iff.mp (Option.mem_toList.mp hnow)
        rfl
      · cases hstep : host.step env (.iterated x) with
        | error e => rw [hstep] at hlater; cases hlater
        | ok host' =>
            rw [hstep] at hlater
            rw [ih host' r hlater, (step_keeps hstep).1]

/-- The first answer is to a request, by a host with the same header. -/
theorem firstAnswer_spec {xs : List Exchange} {x : Exchange}
    (h : firstAnswer? env host xs = some (host', x)) :
    x ∈ xs ∧ host'.header = host.header ∧
      (host.loop.sender.ledger.Sane → host'.loop.sender.ledger.Sane) ∧
      (host'.answer? env x).isSome ∧ requestsFrom env host xs ≠ [] := by
  induction xs generalizing host with
  | nil => cases h
  | cons y ys ih =>
      simp only [firstAnswer?] at h
      split at h
      · rename_i hanswer
        cases h
        refine ⟨List.mem_cons_self, rfl, id, hanswer, ?_⟩
        obtain ⟨status, hstatus⟩ := Option.isSome_iff_exists.mp hanswer
        obtain ⟨r, hr, -⟩ := Option.bind_eq_some_iff.mp hstatus
        simp [requestsFrom, hr]
      · cases hstep : host.step env (.iterated y) with
        | error e => rw [hstep] at h; cases h
        | ok next =>
            rw [hstep] at h
            obtain ⟨hmem, hheader, hsane, hanswer, hrequests⟩ := ih h
            obtain ⟨hkept, hsane'⟩ := step_keeps hstep
            refine ⟨List.mem_cons_of_mem _ hmem, hheader.trans hkept,
              fun hs => hsane (hsane' hs), hanswer, ?_⟩
            simp [requestsFrom, hstep, hrequests]

/-- An answer is entered in the ledger. -/
theorem step_of_answer {x : Exchange} {status : Int} (h : host.answer? env x = some status) :
    ∃ text after, x.post host.header (buildPayload (receive env host.loop.sender x.msg)) =
        .response status text ∧
      host.step env (.iterated x) = .ok after ∧
      after.loop.sender.ledger =
        host.loop.sender.ledger.after x.answeredAt (.response status text) := by
  obtain ⟨r, hr, hstatus⟩ := Option.bind_eq_some_iff.mp h
  obtain ⟨a, ha, rfl⟩ := Option.map_eq_some_iff.mp hr
  obtain ⟨text, houtcome⟩ : ∃ text, a.outcome = .response status text := by
    cases ho : a.outcome with
    | response status' text => rw [ho] at hstatus; cases hstatus; exact ⟨text, rfl⟩
    | transportError e => rw [ho] at hstatus; cases hstatus
    | valueError => rw [ho] at hstatus; cases hstatus
  obtain ⟨loop, hit⟩ := iterate_ok_of_response ha houtcome
  have hledger := (iterate_posted hit ha).2
  have hanswered : a.answeredAt = x.answeredAt := by
    rw [(mem_attempt? ha).2.2]
    rfl
  rw [houtcome, hanswered] at hledger
  refine ⟨text, { host with loop := loop }, ?_, ?_, hledger⟩
  · rw [← houtcome, (mem_attempt? ha).2.2]
    rfl
  · simp only [Host.step, hit]
    rfl

/-- An answer other than 401 leaves the backoff over if it is a 200 or
there was none. -/
theorem clear_after_iff {ledger : Ledger} (hsane : ledger.Sane) (time : ℚ) {status : Int}
    (text : String) (hstatus : status ≠ 401) :
    (ledger.after time (.response status text)).Clear ↔
      status = 200 ∨ ledger.authFailCount = 0 := by
  have hbooks (hne : status ≠ 200) :
      (ledger.after time (.response status text)).authFailCount = ledger.authFailCount ∧
      (ledger.after time (.response status text)).nextSendAfter = ledger.nextSendAfter := by
    simp only [Ledger.after, if_neg hne, if_neg hstatus]
    split <;> exact ⟨rfl, rfl⟩
  by_cases hOk : status = 200
  · exact iff_of_true (by simp [Ledger.after, hOk, Ledger.Clear]) (Or.inl hOk)
  · obtain ⟨hcount, hdeadline⟩ := hbooks hOk
    rw [Ledger.Clear, hcount, hdeadline]
    exact ⟨fun h => Or.inr h.1, fun h => ⟨h.resolve_left hOk, hsane (h.resolve_left hOk)⟩⟩

/-- **Re-keying, exactly.** However a process came to where the file is
edited, the accepted key that is written takes effect without a restart
if and only if no POST follows, or it is the key the process was started
with and the first answer is a 200 or finds no backoff. -/
theorem rekeyed_iff (env : Env) {envText newText key : Text} {host₀ host : Host}
    (hstart : Host.start env envText = some host₀) {events : List HostEvent}
    (hrun : Run.run (Host.step env) host₀ (events ++ [.edited newText]) = .ok host)
    (hkey : apiKey newText = some key) (xs : List Exchange)
    (haccepts : ∀ x ∈ xs, x.accepts key = true) :
    Rekeyed env host key xs ↔
      requestsFrom env host xs = [] ∨
        apiKey envText = apiKey newText ∧
          ∀ host' x, firstAnswer? env host xs = some (host', x) →
            host'.answer? env x = some 200 ∨ host'.loop.sender.authFailCount = 0 := by
  obtain ⟨hheader, hsane⟩ := run_header hstart hrun
  rw [hheader, hkey]
  constructor
  · rintro ⟨hsent, hcleared⟩
    by_cases hnone : requestsFrom env host xs = []
    · exact Or.inl hnone
    · obtain ⟨r, hr⟩ := List.exists_mem_of_ne_nil _ hnone
      refine Or.inr ⟨?_, fun host' x hfirst => ?_⟩
      · rw [← requestsFrom_key env host xs r hr, hsent r hr]
      · obtain ⟨-, -, hsane', hanswer, -⟩ := firstAnswer_spec hfirst
        obtain ⟨status, hstatus⟩ := Option.isSome_iff_exists.mp hanswer
        obtain ⟨hne, after, hafter, hclear⟩ := hcleared host' x hfirst
        obtain ⟨text, after', -, hstep, hledger⟩ := step_of_answer hstatus
        obtain rfl : after = after' := Except.ok.inj (hafter.symm.trans hstep)
        rw [hstatus, ne_eq, Option.some.injEq] at hne
        rw [hledger, clear_after_iff (hsane' hsane) _ text hne] at hclear
        rw [hstatus, Option.some.injEq]
        exact hclear
  · rintro (hnone | ⟨hsame, hclear⟩)
    · refine ⟨by simp [hnone], fun host' x hfirst => ?_⟩
      exact absurd hnone (firstAnswer_spec hfirst).2.2.2.2
    · obtain rfl := Option.some.inj hsame
      refine ⟨requestsFrom_key env host xs, fun host' x hfirst => ?_⟩
      obtain ⟨hmem, hkept, hsane', hanswer, -⟩ := firstAnswer_spec hfirst
      obtain ⟨status, hstatus⟩ := Option.isSome_iff_exists.mp hanswer
      obtain ⟨text, after, hpost, hstep, hledger⟩ := step_of_answer hstatus
      have hne : status ≠ 401 := fun heq => by
        have hrejected := (x.rejects _ _ _ _ hpost).mp heq
        rw [hkept, haccepts x hmem] at hrejected
        cases hrejected
      refine ⟨by simpa [hstatus] using hne, after, hstep, ?_⟩
      rw [hledger, clear_after_iff (hsane' hsane) _ text hne]
      rw [← Option.some_inj, ← hstatus]
      exact hclear host' x hfirst

/-! ## On the bench -/

/-- The cloud accepts one key, and answers 200 to it. -/
def benchExchange (now : ℚ) (accepted : Text) : Exchange where
  msg := some benchFix
  now := now
  post := fun key _ => .response (if key = accepted then 200 else 401) ""
  answeredAt := now
  accepts := fun key => key = accepted
  rejects := by
    intro key payload status text h
    split_ifs at h with hkey <;> cases h <;> simp [hkey]

def settingsWith (key : String) : Text := ("DRONE_API_KEY=" ++ key ++ "\n").toList

/-- The process started with the key `sk-1`. -/
def benchHost : Host where
  envText := settingsWith "sk-1"
  header := "sk-1".toList
  loop := Loop.init benchEnv

theorem start_benchHost : Host.start benchEnv (settingsWith "sk-1") = some benchHost := rfl

/-- A rejection, and then an edit. -/
def benchEvents (accepted newKey : String) : List HostEvent :=
  [.iterated (benchExchange 100 accepted.toList)] ++ [.edited (settingsWith newKey)]

/-- The cloud comes to accept the key the process has. -/
theorem bench_rekeyed :
    ∃ host₀ host, Host.start benchEnv (settingsWith "sk-1") = some host₀ ∧
      Run.run (Host.step benchEnv) host₀ (benchEvents "sk-0" "sk-1") = .ok host ∧
      Rekeyed benchEnv host "sk-1".toList [benchExchange 102 "sk-1".toList] := by
  have heval : (Run.run (Host.step benchEnv) benchHost (benchEvents "sk-0" "sk-1")).map
        (fun host => (firstAnswer? benchEnv host [benchExchange 102 "sk-1".toList]).map
          fun p => p.1.answer? benchEnv p.2) = .ok (some (some 200)) := by
    decide +kernel
  cases hrun : Run.run (Host.step benchEnv) benchHost (benchEvents "sk-0" "sk-1") with
  | error e => rw [hrun] at heval; cases heval
  | ok host =>
      rw [hrun] at heval
      refine ⟨_, host, start_benchHost, hrun, ?_⟩
      refine (rekeyed_iff benchEnv start_benchHost hrun (by decide) _ ?_).mpr
        (Or.inr ⟨rfl, fun host' x hfirst => Or.inl ?_⟩)
      · intro x hx
        rw [List.mem_singleton.mp hx]
        rfl
      · simp only [Except.map, hfirst, Option.map_some, Except.ok.injEq,
          Option.some.injEq] at heval
        exact heval

/-- The old key is rejected; the operator writes the new one; the next
request carries the old one and is rejected again. -/
theorem old_key_sent_again :
    ∃ host₀ host, Host.start benchEnv (settingsWith "sk-1") = some host₀ ∧
      Run.run (Host.step benchEnv) host₀ (benchEvents "sk-2" "sk-2") = .ok host ∧
      host.answer? benchEnv (benchExchange 102 "sk-2".toList) = some 401 ∧
      ¬ Rekeyed benchEnv host "sk-2".toList [benchExchange 102 "sk-2".toList] := by
  have heval : (Run.run (Host.step benchEnv) benchHost (benchEvents "sk-2" "sk-2")).map
        (fun host => (host.answer? benchEnv (benchExchange 102 "sk-2".toList),
          (requestsFrom benchEnv host [benchExchange 102 "sk-2".toList]).map (·.key))) =
      .ok (some 401, ["sk-1".toList]) := by
    decide +kernel
  cases hrun : Run.run (Host.step benchEnv) benchHost (benchEvents "sk-2" "sk-2") with
  | error e => rw [hrun] at heval; cases heval
  | ok host =>
      rw [hrun] at heval
      simp only [Except.map, Except.ok.injEq, Prod.mk.injEq] at heval
      obtain ⟨hanswer, hkeys⟩ := heval
      refine ⟨_, host, start_benchHost, hrun, hanswer, fun hrekeyed => ?_⟩
      obtain ⟨r, hr⟩ : ∃ r, r ∈ requestsFrom benchEnv host [benchExchange 102 "sk-2".toList] ∧
          r.key = "sk-1".toList := by
        simpa using List.mem_map.mp (hkeys ▸ List.mem_singleton_self _)
      have hnew := hrekeyed.sent r hr.1
      rw [hr.2] at hnew
      revert hnew
      decide

end Specter
