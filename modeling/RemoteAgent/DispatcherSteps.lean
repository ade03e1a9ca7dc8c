import RemoteAgent.Dispatcher

/-!
# What a dispatcher step can do

`Dispatcher.Effect` says, for the parts of the state that the request invariants
speak about, everything an act can do to them: nothing, a change inside one live
call, the loss of a session, one of the three answers of `claim_request`, or the
end of a call.  `step_effect` is the one case analysis over the acts; every
invariant is a case analysis over the effects.

`Dispatcher.Told` marks the calls that `claim_request` told `new`.
-/

open Wire Storage Transition

namespace RemoteAgent

/-- The request of a call that was told `new`. -/
def Call.told? : Call → Option Request
  | .live l => some l.request
  | .settled rq _ => some rq
  | _ => none

/-- The request and the answer of a call that reached `claim_request`. -/
def Call.claimed? : Call → Option (Request × ClaimOutcome)
  | .refused _ => none
  | .answered rq o => some (rq, o)
  | .live l => some (l.request, .new)
  | .settled rq _ => some (rq, .new)

/-- The request that a frame carries. -/
def Frame.request? : Frame → Option Request
  | .request rq => some rq
  | .cancel .. => none

namespace Dispatcher

/-- The requests whose frames were sent, in order. -/
def dispatched (d : Dispatcher) : List Request := d.sent.filterMap fun f => f.2.request?

/-- Call `c` was told `new` for `rq`. -/
def Told (d : Dispatcher) (c : CallId) (rq : Request) : Prop :=
  ∃ call, d.calls.get? c = some call ∧ call.told? = some rq

/-- Call `c` is inside the `try` block. -/
def IsLive (d : Dispatcher) (c : CallId) (l : Live) : Prop := d.calls.get? c = some (.live l)

def isLive (d : Dispatcher) (c : CallId) : Bool :=
  match d.calls.get? c with
  | some (.live _) => true
  | _ => false

def isReturned (d : Dispatcher) (c : CallId) : Bool :=
  match d.calls.get? c with
  | some (.settled _ (.returned _)) => true
  | _ => false

def isReplayed (d : Dispatcher) (c : CallId) : Bool :=
  match d.calls.get? c with
  | some (.answered _ (.replay _)) => true
  | _ => false

/-- The call that an act brings to `claim_request`, with its request. -/
def incoming (env : Env) (d : Dispatcher) : Act → Option (CallId × Request)
  | .command c connectorId input row uuid now =>
      match d.calls.get? c with
      | some _ => none
      | none =>
          match d.prepare env connectorId input row uuid now with
          | .ok rq => some (c, rq)
          | .error _ => none
  | _ => none

/-- Whether `claim_request` would tell a request that it is new. -/
def ClaimsNew (env : Env) (d : Dispatcher) (rq : Request) : Prop :=
  (claimRequest d.requests (rq.claim env)).2 = .new

theorem IsLive.told {d : Dispatcher} {c : CallId} {l : Live} (live : d.IsLive c l) :
    d.Told c l.request := ⟨_, live, rfl⟩

/-! ## Dispatching a request -/

theorem pending_dispatch (d : Dispatcher) (c : CallId) (rq : Request) (k : ConnId) :
    (d.dispatch c rq).pending k =
      if k = rq.conn then (d.pending k).insert rq.requestId c else d.pending k := rfl

theorem isLive_dispatch {d : Dispatcher} {c c' : CallId} {rq : Request} {l : Live}
    (live : (d.dispatch c rq).IsLive c' l) :
    (c' = c ∧ l = ⟨rq, .sending, .pending, .none⟩) ∨ (c' ≠ c ∧ d.IsLive c' l) := by
  have live : (d.calls.insert c (.live ⟨rq, .sending, .pending, .none⟩)).get? c' =
    some (.live l) := live
  rw [Dict.get?_insert] at live
  split at live
  · rename_i same
    cases live
    exact Or.inl ⟨same, rfl⟩
  · rename_i other
    exact Or.inr ⟨other, live⟩

/-! ## Losing a session -/

theorem get?_failPending (d : Dispatcher) (k : ConnId) (c : CallId) :
    (d.failPending k).calls.get? c =
      match d.calls.get? c with
      | some (.live l) =>
          if (d.pending k).get? l.request.requestId = some c ∧ l.future.done = false then
            some (.live { l with future := .failed })
          else some (.live l)
      | call => call := rfl

theorem pending_failPending (d : Dispatcher) (k k' : ConnId) :
    (d.failPending k).pending k' = if k' = k then Dict.empty else d.pending k' := rfl

/-- A lost session ends no call and starts none. -/
theorem isLive_failPending {d : Dispatcher} {k : ConnId} {c : CallId} {l' : Live}
    (live : (d.failPending k).IsLive c l') :
    ∃ l, d.IsLive c l ∧ l'.request = l.request ∧
      (l' = l ∨ (l.future.done = false ∧ l'.future = .failed ∧
        (d.pending k).get? l.request.requestId = some c)) ∧
      ((d.pending k).get? l.request.requestId = some c → l'.future.done = true) := by
  unfold IsLive at live ⊢
  rw [get?_failPending] at live
  cases was : d.calls.get? c with
  | none => rw [was] at live; cases live
  | some call =>
      rw [was] at live
      cases call with
      | live l =>
          simp only at live
          split at live
          · rename_i waiting
            cases live
            exact ⟨l, rfl, rfl, Or.inr ⟨waiting.2, rfl, waiting.1⟩, fun _ => rfl⟩
          · rename_i notWaiting
            cases live
            refine ⟨l', rfl, rfl, Or.inl rfl, fun mine => ?_⟩
            by_contra undone
            exact notWaiting ⟨mine, by simpa using undone⟩
      | refused e => cases live
      | answered rq o => cases live
      | settled rq out => cases live

/-- A lost session leaves the record of a call that is not live alone. -/
theorem get?_of_failPending {d : Dispatcher} {k : ConnId} {c : CallId} {call : Call}
    (found : (d.failPending k).calls.get? c = some call) (ended : ∀ l, call ≠ .live l) :
    d.calls.get? c = some call := by
  rw [get?_failPending] at found
  cases was : d.calls.get? c with
  | none => rw [was] at found; cases found
  | some old =>
      rw [was] at found
      cases old with
      | live l =>
          simp only at found
          split at found
          · exact absurd (Option.some.inj found).symm (ended _)
          · exact absurd (Option.some.inj found).symm (ended _)
      | _ => exact found

theorem told_failPending {d : Dispatcher} {k : ConnId} {c : CallId} {rq : Request} :
    (d.failPending k).Told c rq ↔ d.Told c rq := by
  unfold Told
  rw [get?_failPending]
  cases was : d.calls.get? c with
  | none => exact Iff.rfl
  | some call =>
      cases call with
      | live l =>
          by_cases waiting : (d.pending k).get? l.request.requestId = some c ∧ l.future.done = false
          · simp only [if_pos waiting, Option.some.injEq, exists_eq_left', Call.told?]
          · simp only [if_neg waiting]
      | _ => exact Iff.rfl

/-! ## Accepted responses -/

/-- What holds of a response frame that settles a call. -/
structure Accepted (env : Env) (d : Dispatcher) (k : ConnId) (connectorId : String)
    (message : Json) (c : CallId) (r : Json) : Prop where
  keys : requireKeys message responseKeys [] = .ok ()
  version : Py.eqInt env.floats (field message "v") protocolVersion = true
  connector : Py.eqStr (field message "connector_id") connectorId = true
  pending : (d.pending k).get? (env.text (field message "request_id")) = some c
  undone : (d.future c).done = false
  result : ∃ ok, responseStatus (field message "status") = .ok ok ∧
    r = responseResult ok (field message "result")

/-- **`_receive_response` settles a call exactly for an accepted frame.** -/
theorem receiveResponse_ok_iff {env : Env} {d : Dispatcher} {k : ConnId} {connectorId : String}
    {message : Json} {c : CallId} {r : Json} :
    d.receiveResponse env k connectorId message = .ok (c, r) ↔
      Accepted env d k connectorId message c r := by
  unfold receiveResponse
  constructor
  · intro settled
    split at settled
    · cases settled
    · rename_i keys
      split at settled
      · cases settled
      · rename_i valid
        simp only [Bool.or_eq_true, Bool.not_eq_true', not_or, Bool.not_eq_false] at valid
        split at settled
        · cases settled
        · rename_i c' pending
          split at settled
          · cases settled
          · rename_i undone
            split at settled
            · cases settled
            · rename_i ok status
              cases settled
              exact ⟨keys, valid.1, valid.2, pending, by simpa using undone, ok, status, rfl⟩
  · rintro ⟨keys, version, connector, pending, undone, ok, status, rfl⟩
    simp only [keys, version, connector, pending, undone, status, Bool.not_true, Bool.or_self,
      Bool.false_eq_true, ↓reduceIte]

/-- A call whose future is not done is live. -/
theorem isLive_of_undone {d : Dispatcher} {c : CallId} (undone : (d.future c).done = false) :
    ∃ l, d.IsLive c l ∧ l.future.done = false := by
  unfold future at undone
  split at undone
  · rename_i l was
    exact ⟨l, was, undone⟩
  · cases undone

theorem setResult_of_live {d : Dispatcher} {c : CallId} {l : Live} (live : d.IsLive c l)
    (r : Json) : d.setResult c r = d.setCall c (.live { l with future := .result r }) := by
  unfold setResult
  rw [show d.calls.get? c = some (.live l) from live]

theorem future_of_live {d : Dispatcher} {c : CallId} {l : Live} (live : d.IsLive c l) :
    d.future c = l.future := by
  unfold future
  rw [show d.calls.get? c = some (.live l) from live]

theorem cancelFuture_of_done {fut : Fut} (done : fut.done = true) : cancelFuture fut = fut := by
  cases fut with
  | pending => cases done
  | _ => rfl

theorem result_of_cancelFuture {fut : Fut} {r : Json} {P : Prop}
    (result : cancelFuture fut = .result r) : fut = .result r ∨ P := by
  cases fut with
  | result r' => exact Or.inl result
  | _ => cases result

/-! ## Effects -/

/-- How an act changes a call that stays live: a done future stays as it is, and
only an interrupt cancels one. -/
structure Tunes (a : Act) (c : CallId) (l l' : Live) : Prop where
  request : l'.request = l.request
  future : l.future.done = true → l'.future = l.future
  cancelled : l'.future = .cancelled → l.future = .cancelled ∨ l'.interrupt ≠ .none
  interrupt : l.interrupt ≠ .none → l'.interrupt ≠ .none
  task : l'.interrupt = .cancel → l.interrupt = .cancel ∨ a = .cancelTask c
  quiet : l'.interrupt = l.interrupt ∨ a = .expire c ∨ a = .cancelTask c

theorem Tunes.of_result {a : Act} {c : CallId} {l : Live} {r : Json}
    (undone : l.future.done = false) : Tunes a c l { l with future := .result r } where
  request := rfl
  future := fun done => by rw [undone] at done; cases done
  cancelled := fun cancelled => nomatch cancelled
  interrupt := id
  task := Or.inl
  quiet := Or.inl rfl

/-- The connector of a session. -/
def connectorOf (d : Dispatcher) (k : ConnId) : Option String :=
  (d.sessions.get? k).map AgentRelaySession.connectorId

/-- The registry and the connectors of the sessions are as they were. -/
structure SameLinks (d d' : Dispatcher) : Prop where
  registry : d'.registry = d.registry
  connectors : ∀ k, d'.connectorOf k = d.connectorOf k

/-- A new session takes the registry entry of its connector. -/
structure Joins (d d' : Dispatcher) (k : ConnId) (session : AgentRelaySession) : Prop where
  free : d.sessions.get? k = none
  registry : d'.registry = d.registry.insert session.connectorId k
  sessions : d'.sessions = d.sessions.insert k session

/-- How a session can be lost: it is removed, or a newer one takes its place. -/
inductive Loses (d d' : Dispatcher) (a : Act) (k : ConnId) : Prop where
  | removed (session : AgentRelaySession) (act : a = .remove k)
      (was : d.sessions.get? k = some session)
      (registry : d'.registry = if d.removes k session then d.registry.erase session.connectorId
        else d.registry)
      (sessions : d'.sessions = d.sessions)
  | replaced (k' : ConnId) (session : AgentRelaySession) (act : a = .register k' session)
      (was : d.registry.get? session.connectorId = some k) (joins : Joins d d' k' session)

/-- Where a result comes from: an accepted response frame, or `cancel_request`. -/
inductive Supplies (env : Env) (d d' : Dispatcher) (a : Act) (c : CallId) (r : Json) : Prop where
  | response (k : ConnId) (message : Json) (session : AgentRelaySession)
      (act : a = .respond k message)
      (here : d.sessions.get? k = some session)
      (accepted : Accepted env d k session.connectorId message c r)
      (logged : d'.received = d.received ++ [(k, message)])
  | cancel (x : CancelId) (connectorId requestId : String)
      (was : d.cancels.get? x = some (.sending c connectorId requestId))
      (now : d'.cancels.get? x = some (.cancelled c connectorId requestId))
      (is : r = cancelResult)

/-- A result is returned exactly if `append_audit` has taken its code. -/
def Posted (env : Env) : Outcome → Prop
  | .returned r => auditable env r = true
  | .unaudited r => auditable env r = false
  | .raised _ | .cancelled => True

/-- What an act can do to the parts of the state that the request invariants
speak about. -/
inductive Effect (env : Env) (d d' : Dispatcher) (a : Act) : Prop where
  /-- Nothing, except that a call may have been refused before the claim, or a
  session joined. -/
  | idle (requests : d'.requests = d.requests) (inFlight : d'.inFlight = d.inFlight)
      (pending : d'.pending = d.pending) (dispatched : d'.dispatched = d.dispatched)
      (calls : ∀ c, d'.calls.get? c = d.calls.get? c ∨
        (d.calls.get? c = none ∧ ∃ e, d'.calls.get? c = some (.refused e) ∧
          (a = .refuse c e ∨ ∃ x, e = .agent x ∧ x ≠ .commandInFlight)))
      (links : SameLinks d d' ∨ ∃ k session, a = .register k session ∧
        d.registry.get? session.connectorId = none ∧ Joins d d' k session)
  /-- A live call's stage, future or interrupt. -/
  | tuned (c : CallId) (l l' : Live) (was : d.IsLive c l) (tunes : Tunes a c l l')
      (requests : d'.requests = d.requests) (inFlight : d'.inFlight = d.inFlight)
      (pending : d'.pending = d.pending) (dispatched : d'.dispatched = d.dispatched)
      (calls : d'.calls = d.calls.insert c (.live l')) (links : SameLinks d d')
      (result : ∀ r, l'.future = .result r → l.future = .result r ∨ Supplies env d d' a c r)
  /-- A session is replaced or removed. -/
  | lost (k : ConnId) (requests : d'.requests = d.requests) (inFlight : d'.inFlight = d.inFlight)
      (pending : d'.pending = (d.failPending k).pending) (dispatched : d'.dispatched = d.dispatched)
      (calls : d'.calls = (d.failPending k).calls) (loses : Loses d d' a k)
  /-- A claim that is not new. -/
  | answered (c : CallId) (rq : Request) (came : d.incoming env a = some (c, rq))
      (fresh : d.calls.get? c = none) (notNew : ¬ d.ClaimsNew env rq)
      (eq : d' = { d with requests := (claimRequest d.requests (rq.claim env)).1 }.setCall c
        (.answered rq (claimRequest d.requests (rq.claim env)).2))
  /-- A claim that is new but finds its collision key taken. -/
  | blocked (c : CallId) (rq : Request) (came : d.incoming env a = some (c, rq))
      (fresh : d.calls.get? c = none) (new : d.ClaimsNew env rq)
      (taken : ∃ key id, rq.collisionKey env = some key ∧ d.inFlight.get? key = some id)
      (eq : d' = { d with requests := (claimRequest d.requests (rq.claim env)).1 }.setCall c
        (.settled rq (.raised .commandInFlight)))
  /-- A claim that is new and is dispatched. -/
  | dispatch (c : CallId) (rq : Request) (inFlight : Dict CollisionKey String)
      (came : d.incoming env a = some (c, rq))
      (fresh : d.calls.get? c = none) (new : d.ClaimsNew env rq)
      (acquired : acquireCollisionGuard d.inFlight (rq.collisionKey env) rq.requestId =
        some inFlight)
      (eq : d' = { d with
        requests := (claimRequest d.requests (rq.claim env)).1
        inFlight := inFlight }.dispatch c rq)
  /-- A live call ends. -/
  | settled (c : CallId) (l : Live) (out : Outcome) (was : d.IsLive c l)
      (interrupted : out = .cancelled → l.interrupt = .cancel ∨
        (l.interrupt = .none ∧ l.future = .cancelled))
      (raised : ∀ e, out = .raised e → e = .deviceTimeout ∨ e = .deviceOffline ∨
        e = .resultTooLarge)
      (returned : ∀ r, out = .returned r → l.future = .result r)
      (requests : d'.requests = recordOutcome d.requests l.request.key out)
      (inFlight : d'.inFlight = releaseCollisionGuard d.inFlight (l.request.collisionKey env))
      (pending : d'.pending = fun k =>
        if k = l.request.conn then (d.pending k).erase l.request.requestId else d.pending k)
      (dispatched : d'.dispatched = d.dispatched)
      (calls : d'.calls = d.calls.insert c (.settled l.request out)) (links : SameLinks d d')
      (ending : out = audited env l.outcome ∨ ∃ timedOut, a = .sendFailed c timedOut)
      (unaudited : ∀ r, out = .unaudited r → l.future = .result r ∧ r.dumps.length ≤ resultMaxBytes)
      (posted : Posted env out)

/-! ### The case analysis -/

variable {env : Env} {d d' : Dispatcher}

theorem dispatched_append_request (sent : List (ConnId × Frame)) (k : ConnId) (rq : Request) :
    (sent ++ [(k, Frame.request rq)]).filterMap (fun f => f.2.request?) =
      sent.filterMap (fun f => f.2.request?) ++ [rq] := by
  rw [List.filterMap_append]
  rfl

theorem dispatched_append_cancel (sent : List (ConnId × Frame)) (k : ConnId)
    (connectorId requestId : String) :
    (sent ++ [(k, Frame.cancel connectorId requestId)]).filterMap (fun f => f.2.request?) =
      sent.filterMap (fun f => f.2.request?) := by
  rw [List.filterMap_append]
  exact List.append_nil _

/-- The outcome of a call that may run again. -/
theorem outcome_cancelled {l : Live} (done : l.interrupt = .none → l.future.done = true)
    (cancelled : l.outcome = .cancelled) :
    l.interrupt = .cancel ∨ (l.interrupt = .none ∧ l.future = .cancelled) := by
  unfold Live.outcome at cancelled
  split at cancelled
  · rename_i interrupt
    exact Or.inl interrupt
  · cases cancelled
  · rename_i interrupt
    refine Or.inr ⟨interrupt, ?_⟩
    have isDone := done interrupt
    split at cancelled
    · split at cancelled <;> cases cancelled
    · cases cancelled
    · rename_i pending
      rw [pending] at isDone
      cases isDone
    · rename_i wasCancelled
      exact wasCancelled

theorem outcome_raised {l : Live} {e : AgentCode} (raised : l.outcome = .raised e) :
    e = .deviceTimeout ∨ e = .deviceOffline ∨ e = .resultTooLarge := by
  unfold Live.outcome at raised
  split at raised
  · cases raised
  · cases raised
    exact Or.inl rfl
  · split at raised
    · split at raised
      · cases raised
        exact Or.inr (Or.inr rfl)
      · cases raised
    · cases raised
      exact Or.inr (Or.inl rfl)
    · cases raised
    · cases raised

theorem outcome_returned {l : Live} {r : Json} (returned : l.outcome = .returned r) :
    l.future = .result r := by
  unfold Live.outcome at returned
  split at returned
  · cases returned
  · cases returned
  · split at returned
    · rename_i r' result
      split at returned
      · cases returned
      · cases returned
        exact result
    · cases returned
    · cases returned
    · cases returned

theorem outcome_fits {l : Live} {r : Json} (returned : l.outcome = .returned r) :
    r.dumps.length ≤ resultMaxBytes := by
  unfold Live.outcome at returned
  split at returned
  · cases returned
  · cases returned
  · split at returned
    · split at returned
      · cases returned
      · rename_i fits
        cases returned
        exact Nat.not_lt.mp fits
    · cases returned
    · cases returned
    · cases returned

theorem audited_cases (env : Env) (out : Outcome) :
    audited env out = out ∨
      ∃ r, out = .returned r ∧ audited env out = .unaudited r ∧ auditable env r = false := by
  unfold audited
  split
  · rename_i r
    cases stores : auditable env r with
    | true => exact Or.inl rfl
    | false => exact Or.inr ⟨r, rfl, rfl, stores⟩
  · exact Or.inl rfl

theorem outcome_ne_unaudited {l : Live} {r : Json} : l.outcome ≠ .unaudited r := by
  unfold Live.outcome
  split
  · exact fun same => by cases same
  · exact fun same => by cases same
  · split
    · split <;> exact fun same => by cases same
    · exact fun same => by cases same
    · exact fun same => by cases same
    · exact fun same => by cases same

/-- What the audit row changes of an outcome is that a result has been returned. -/
theorem audited_eq {out out' : Outcome} (is : audited env out = out')
    (audits : ∀ r, out' ≠ .unaudited r) : out = out' := by
  rcases audited_cases env out with same | ⟨r, _, unaudited, _⟩
  · exact same.symm.trans is
  · exact absurd (is.symm.trans unaudited) (audits r)

theorem outcome_unaudited {l : Live} {r : Json} (unaudited : audited env l.outcome = .unaudited r) :
    l.future = .result r ∧ r.dumps.length ≤ resultMaxBytes := by
  rcases audited_cases env l.outcome with same | ⟨r', returned, is, _⟩
  · exact absurd (same.symm.trans unaudited) outcome_ne_unaudited
  · cases is.symm.trans unaudited
    exact ⟨outcome_returned returned, outcome_fits returned⟩

theorem posted_audited {out : Outcome} (audits : ∀ r, out ≠ .unaudited r) :
    Posted env (audited env out) := by
  cases out with
  | returned r =>
      cases stores : auditable env r with
      | true =>
          rw [show audited env (.returned r) = .returned r from if_pos stores]
          exact stores
      | false =>
          have fails : audited env (.returned r) = .unaudited r :=
            if_neg (Bool.not_eq_true _ ▸ stores)
          rw [fails]
          exact stores
  | unaudited r => exact absurd rfl (audits r)
  | raised | cancelled => trivial

/-- A result and its canonical form have the same code, or neither has a text as one. -/
theorem auditable_canon (env : Env) (r : Json) : auditable env r.canon = auditable env r := by
  unfold auditable
  rw [Json.get?_canon]
  cases r.get? "code" with
  | none => rfl
  | some code => cases code <;> rfl

theorem auditable_cancelResult (env : Env) : auditable env cancelResult = true := by
  have code : cancelResult.get? "code" = some (.str "cancelled") := rfl
  unfold auditable
  rw [code]
  exact env.encodes_ascii "cancelled" (by simp)

/-- The end of a live call as an effect. -/
theorem Effect.of_settle {a : Act} {c : CallId} {l : Live} (was : d.IsLive c l)
    (done : l.interrupt = .none → l.future.done = true)
    (requests : d'.requests = (d.settle env c l.request l.outcome).requests)
    (inFlight : d'.inFlight = (d.settle env c l.request l.outcome).inFlight)
    (pending : d'.pending = (d.settle env c l.request l.outcome).pending)
    (dispatched : d'.dispatched = d.dispatched)
    (calls : d'.calls = (d.settle env c l.request l.outcome).calls)
    (links : SameLinks d d') : Effect env d d' a :=
  .settled c l (audited env l.outcome) was
    (fun cancelled => outcome_cancelled done (audited_eq cancelled fun _ same => by cases same))
    (fun _ raised => outcome_raised (audited_eq raised fun _ same => by cases same))
    (fun _ returned => outcome_returned (audited_eq returned fun _ same => by cases same))
    requests inFlight pending dispatched calls links (Or.inl rfl) (fun _ => outcome_unaudited)
    (posted_audited fun _ => outcome_ne_unaudited)

/-- No check before the claim raises `command_in_flight`. -/
theorem prepare_error {connectorId : String} {input : CommandInput} {row : Option Routing}
    {uuid : String} {now : Int} {e : AgentCode}
    (refused : d.prepare env connectorId input row uuid now = .error e) : e ≠ .commandInFlight := by
  unfold prepare at refused
  rintro rfl
  split at refused
  · cases refused
  · split at refused
    · cases refused
    · split at refused
      · cases refused
      · split at refused
        · cases refused
        · split at refused <;> cases refused

/-- The request of a command that passes the checks, up to the connection it is for. -/
theorem prepare_ok {connectorId : String} {input : CommandInput} {row : Option Routing}
    {uuid : String} {now : Int} {rq : Request}
    (prepared : d.prepare env connectorId input row uuid now = .ok rq) :
    ∃ found k, row = some found ∧ rq =
      { key := ⟨connectorId, input.clientId, input.idempotencyKey⟩
        requestId := relayRequestId env input.appAssertion uuid
        tool := input.tool
        arguments := input.arguments
        requestedInstance := input.instanceId
        instanceId := found.instanceId
        contextEpoch := found.contextEpoch
        appId := input.appId
        appAssertion := input.appAssertion.map AppAssertion.envelope
        conn := k } := by
  unfold prepare at prepared
  split at prepared
  · cases prepared
  · rename_i found
    split at prepared
    · cases prepared
    · rename_i k session _
      split at prepared
      · cases prepared
      · split at prepared
        · cases prepared
        · split at prepared
          · cases prepared
          · exact ⟨found, k, rfl, (Except.ok.inj prepared).symm⟩

/-- **Every step has one of the effects.** -/
theorem step_effect {a : Act} (step : d.step env a = some d') : Effect env d d' a := by
  cases a with
  | refuse c e =>
      simp only [Dispatcher.step] at step
      split at step
      · cases step
      · rename_i fresh
        cases step
        refine .idle rfl rfl rfl rfl (fun c' => ?_) (Or.inl ⟨rfl, fun _ => rfl⟩)
        by_cases same : c' = c
        · subst same
          exact Or.inr ⟨fresh, e, Dict.get?_insert_self _ _ _, Or.inl rfl⟩
        · exact Or.inl (Dict.get?_insert_of_ne same)
  | command c connectorId input row uuid now =>
      simp only [Dispatcher.step] at step
      split at step
      · cases step
      · rename_i fresh
        cases step
        cases prepared : d.prepare env connectorId input row uuid now with
        | error e =>
            simp only [deviceCommand, prepared]
            refine .idle rfl rfl rfl rfl (fun c' => ?_) (Or.inl ⟨rfl, fun _ => rfl⟩)
            by_cases same : c' = c
            · subst same
              exact Or.inr ⟨fresh, .agent e, Dict.get?_insert_self _ _ _, Or.inr ⟨e, rfl, prepare_error prepared⟩⟩
            · exact Or.inl (Dict.get?_insert_of_ne same)
        | ok rq =>
            have came : d.incoming env (.command c connectorId input row uuid now) =
                some (c, rq) := by
              simp only [incoming, fresh, prepared]
            simp only [deviceCommand, prepared, claimAndSend]
            by_cases new : d.ClaimsNew env rq
            · rw [show (claimRequest d.requests (rq.claim env)).2 = .new from new]
              cases acquired : acquireCollisionGuard d.inFlight (rq.collisionKey env)
                  rq.requestId with
              | none =>
                  refine .blocked c rq came fresh new ?_ rfl
                  unfold acquireCollisionGuard at acquired
                  split at acquired
                  · cases acquired
                  · rename_i key isKey
                    split at acquired
                    · rename_i id held
                      exact ⟨key, id, isKey, held⟩
                    · cases acquired
              | some inFlight =>
                  exact .dispatch c rq inFlight came fresh new acquired rfl
            · refine .answered c rq came fresh new ?_
              split
              · rename_i isNew
                exact absurd isNew new
              · rfl
  | delivered c slow =>
      simp only [Dispatcher.step] at step
      split at step
      · rename_i l was
        split at step
        · rename_i sending
          cases step
          unfold delivered
          by_cases done : l.future.done = true
          · cases slow <;> simp only [done, ↓reduceIte, Bool.false_eq_true] <;>
              exact .of_settle was (fun _ => done) rfl rfl rfl rfl rfl ⟨rfl, fun _ => rfl⟩
          · cases slow <;> simp only [done, ↓reduceIte, Bool.false_eq_true] <;>
              exact .tuned c l { l with stage := .waiting } was
                ⟨rfl, fun _ => rfl, Or.inl, id, Or.inl, Or.inl rfl⟩ rfl rfl rfl rfl rfl ⟨rfl, fun _ => rfl⟩
                fun _ => Or.inl
        · cases step
      · cases step
  | sendFailed c timedOut =>
      simp only [Dispatcher.step] at step
      split at step
      · rename_i l was
        split at step
        · cases step
          refine .settled c l (.raised (if timedOut then .deviceTimeout else .deviceOffline)) was
            (fun out => nomatch out) ?_ (fun _ out => nomatch out) rfl rfl rfl rfl rfl
            ⟨rfl, fun _ => rfl⟩ (Or.inr ⟨timedOut, rfl⟩) (fun _ out => by cases out) trivial
          intro e raised
          cases timedOut with
          | true => cases raised; exact Or.inl rfl
          | false => cases raised; exact Or.inr (Or.inl rfl)
        · cases step
      · cases step
  | expire c =>
      simp only [Dispatcher.step] at step
      split at step
      · rename_i l was
        split at step
        · rename_i waiting
          cases step
          refine .tuned c l { l with future := cancelFuture l.future, interrupt := .timeout } was
            ⟨rfl, cancelFuture_of_done, fun _ => Or.inr ?_, fun _ => ?_, fun cancel => ?_,
              Or.inr (Or.inl rfl)⟩
            rfl rfl rfl rfl rfl ⟨rfl, fun _ => rfl⟩ fun r => result_of_cancelFuture
          · exact fun none => nomatch none
          · exact fun none => nomatch none
          · cases cancel
        · cases step
      · cases step
  | cancelTask c =>
      simp only [Dispatcher.step] at step
      split at step
      · rename_i l was
        cases step
        refine .tuned c l { l with
            future := if l.stage = .waiting then cancelFuture l.future else l.future
            interrupt := .cancel } was
          ⟨rfl, fun done => ?_, fun _ => Or.inr ?_, fun _ => ?_, fun _ => Or.inr rfl,
            Or.inr (Or.inr rfl)⟩
          rfl rfl rfl rfl rfl ⟨rfl, fun _ => rfl⟩ fun r result => ?_
        · simp only
          split
          · exact cancelFuture_of_done done
          · rfl
        · exact fun none => nomatch none
        · exact fun none => nomatch none
        · simp only at result
          split at result
          · exact result_of_cancelFuture result
          · exact Or.inl result
      · cases step
  | resume c =>
      simp only [Dispatcher.step] at step
      split at step
      · rename_i l was
        split at step
        · rename_i ready
          cases step
          refine .of_settle was (fun none => ?_) rfl rfl rfl rfl rfl ⟨rfl, fun _ => rfl⟩
          unfold Live.ready at ready
          rw [none] at ready
          cases stage : l.stage with
          | sending => rw [stage] at ready; cases ready
          | waiting => rw [stage] at ready; exact ready
        · cases step
      · cases step
  | respond k message =>
      simp only [Dispatcher.step] at step
      split at step
      · cases step
      · rename_i session here
        split at step
        · cases step
        · rename_i c r settled
          cases step
          have accepted := receiveResponse_ok_iff.mp settled
          obtain ⟨l, live, undone⟩ := isLive_of_undone accepted.undone
          rw [setResult_of_live live]
          refine .tuned c l { l with future := .result r } live (.of_result undone)
            rfl rfl rfl rfl rfl ⟨rfl, fun _ => rfl⟩ fun r' result => ?_
          cases result
          exact Or.inr (.response k message session rfl here accepted rfl)
  | register k session =>
      simp only [Dispatcher.step] at step
      split at step
      · cases step
      · rename_i free
        cases step
        unfold register
        split
        · rename_i existing was
          exact .lost existing rfl rfl rfl rfl rfl (.replaced k session rfl was ⟨free, rfl, rfl⟩)
        · rename_i absent
          exact .idle rfl rfl rfl rfl (fun _ => Or.inl rfl)
            (Or.inr ⟨k, session, rfl, absent, free, rfl, rfl⟩)
  | remove k =>
      simp only [Dispatcher.step] at step
      split at step
      · cases step
      · rename_i session was
        cases step
        exact .lost k rfl rfl rfl rfl rfl (.removed session rfl was rfl rfl)
  | beat k contextEpoch =>
      simp only [Dispatcher.step] at step
      split at step
      · cases step
      · rename_i session was
        cases step
        refine .idle rfl rfl rfl rfl (fun _ => Or.inl rfl) (Or.inl ⟨rfl, fun k' => ?_⟩)
        unfold connectorOf
        by_cases same : k' = k
        · subst same
          rw [Dict.get?_insert_self, was]
          rfl
        · rw [Dict.get?_insert_of_ne same]
  | refuseCancel x e =>
      simp only [Dispatcher.step] at step
      split at step
      · cases step
      · cases step
        exact .idle rfl rfl rfl rfl (fun _ => Or.inl rfl) (Or.inl ⟨rfl, fun _ => rfl⟩)
  | cancelRequest x connectorId requestId row =>
      simp only [Dispatcher.step] at step
      split at step
      · cases step
      · cases step
        unfold cancelRequest
        split
        · exact .idle rfl rfl rfl rfl (fun _ => Or.inl rfl) (Or.inl ⟨rfl, fun _ => rfl⟩)
        · split
          · exact .idle rfl rfl rfl rfl (fun _ => Or.inl rfl) (Or.inl ⟨rfl, fun _ => rfl⟩)
          · split
            · exact .idle rfl rfl rfl rfl (fun _ => Or.inl rfl) (Or.inl ⟨rfl, fun _ => rfl⟩)
            · exact .idle rfl rfl rfl (dispatched_append_cancel _ _ _ _) (fun _ => Or.inl rfl)
                (Or.inl ⟨rfl, fun _ => rfl⟩)
  | cancelSent x =>
      simp only [Dispatcher.step] at step
      split at step
      · rename_i c connectorId requestId was
        cases step
        unfold cancelSent
        by_cases done : (d.future c).done = true
        · rw [if_pos done]
          exact .idle rfl rfl rfl rfl (fun _ => Or.inl rfl) (Or.inl ⟨rfl, fun _ => rfl⟩)
        · rw [if_neg done]
          obtain ⟨l, live, undone⟩ := isLive_of_undone (by simpa using done)
          rw [setResult_of_live live]
          refine .tuned c l { l with future := .result cancelResult } live (.of_result undone)
            rfl rfl rfl rfl rfl ⟨rfl, fun _ => rfl⟩ fun r result => ?_
          cases result
          exact Or.inr (.cancel x connectorId requestId was (Dict.get?_insert_self _ _ _) rfl)
      · cases step
  | cancelFailed x =>
      simp only [Dispatcher.step] at step
      split at step
      · cases step
        exact .idle rfl rfl rfl rfl (fun _ => Or.inl rfl) (Or.inl ⟨rfl, fun _ => rfl⟩)
      · cases step

/-! ## Which calls are running -/

/-- Call `c` is between the dispatch of `rq` and its end. -/
def Running (d : Dispatcher) (c : CallId) (rq : Request) : Prop :=
  ∃ l, d.IsLive c l ∧ l.request = rq

theorem Running.unique {c : CallId} {rq rq' : Request} (running : d.Running c rq)
    (running' : d.Running c rq') : rq = rq' := by
  obtain ⟨l, live, rfl⟩ := running
  obtain ⟨l', live', rfl⟩ := running'
  have same : some (Call.live l) = some (Call.live l') := live.symm.trans live'
  cases same
  rfl

theorem running_failPending {k : ConnId} {c : CallId} {rq : Request} :
    (d.failPending k).Running c rq ↔ d.Running c rq := by
  constructor
  · rintro ⟨l', live, rfl⟩
    obtain ⟨l, before, same, _⟩ := isLive_failPending live
    exact ⟨l, before, same.symm⟩
  · rintro ⟨l, live, rfl⟩
    have eq := get?_failPending d k c
    rw [show d.calls.get? c = some (.live l) from live] at eq
    simp only at eq
    split at eq
    · exact ⟨_, eq, rfl⟩
    · exact ⟨_, eq, rfl⟩

/-- The running calls once the record of one call is written. -/
theorem running_insert {calls : Dict CallId Call} {c₀ : CallId} {call : Call}
    (is : d'.calls = calls.insert c₀ call) {c : CallId} {rq : Request} :
    d'.Running c rq ↔
      (c = c₀ ∧ ∃ l, call = .live l ∧ l.request = rq) ∨
        (c ≠ c₀ ∧ ∃ l, calls.get? c = some (.live l) ∧ l.request = rq) := by
  unfold Running IsLive
  rw [is, Dict.get?_insert]
  by_cases same : c = c₀
  · rw [if_pos same]
    simp only [same, true_and, ne_eq, not_true_eq_false, false_and, or_false, Option.some.injEq]
  · rw [if_neg same]
    simp only [same, false_and, ne_eq, not_false_eq_true, true_and, false_or]

/-- **How an effect changes which calls are running**: not at all, one starts, or
one ends; and `_in_flight` and the `pending` maps follow. -/
theorem Effect.running (effect : Effect env d d' a) :
    (d'.inFlight = d.inFlight ∧ d'.dispatched = d.dispatched ∧
      (∀ k id c, (d'.pending k).get? id = some c → (d.pending k).get? id = some c) ∧
      ∀ c rq, d'.Running c rq ↔ d.Running c rq) ∨
    (∃ c₀ rq₀, d.incoming env a = some (c₀, rq₀) ∧ d.calls.get? c₀ = none ∧
      d.ClaimsNew env rq₀ ∧
      acquireCollisionGuard d.inFlight (rq₀.collisionKey env) rq₀.requestId = some d'.inFlight ∧
      d'.dispatched = d.dispatched ++ [rq₀] ∧
      (d'.pending = fun k =>
        if k = rq₀.conn then (d.pending k).insert rq₀.requestId c₀ else d.pending k) ∧
      ∀ c rq, d'.Running c rq ↔ d.Running c rq ∨ (c = c₀ ∧ rq = rq₀)) ∨
    (∃ c₀ rq₀, d.Running c₀ rq₀ ∧
      d'.inFlight = releaseCollisionGuard d.inFlight (rq₀.collisionKey env) ∧
      d'.dispatched = d.dispatched ∧
      (d'.pending = fun k =>
        if k = rq₀.conn then (d.pending k).erase rq₀.requestId else d.pending k) ∧
      ∀ c rq, d'.Running c rq ↔ d.Running c rq ∧ c ≠ c₀) := by
  have absent : ∀ {c₀ c : CallId} {rq : Request}, d.calls.get? c₀ = none → d.Running c rq →
      c ≠ c₀ := by
    rintro c₀ c rq free ⟨l, live, _⟩ rfl
    rw [show d.calls.get? c = some (.live l) from live] at free
    cases free
  -- Writing the record of a call that was not there and is not live.
  have added : ∀ {c₀ : CallId} {call : Call}, d.calls.get? c₀ = none →
      (∀ l, call ≠ .live l) → d'.calls = d.calls.insert c₀ call →
      ∀ c rq, d'.Running c rq ↔ d.Running c rq := by
    intro c₀ call free ended calls c rq
    rw [running_insert calls]
    constructor
    · rintro (⟨_, l, live, _⟩ | ⟨_, running⟩)
      · exact absurd live (ended l)
      · exact running
    · exact fun running => Or.inr ⟨absent free running, running⟩
  cases effect with
  | idle requests inFlight pending dispatched calls =>
      refine Or.inl ⟨inFlight, dispatched, fun k id c found => by rwa [pending] at found, fun c rq => ?_⟩
      unfold Running IsLive
      rcases calls c with same | ⟨free, e, refused, _⟩
      · rw [same]
      · rw [free, refused]
        simp only [Option.some.injEq, reduceCtorEq, false_and, exists_false]
  | tuned c₀ l l' was tunes requests inFlight pending dispatched calls =>
      refine Or.inl ⟨inFlight, dispatched, fun k id c found => by rwa [pending] at found, fun c rq => ?_⟩
      rw [running_insert calls]
      constructor
      · rintro (⟨rfl, l₁, live, same⟩ | ⟨_, running⟩)
        · cases live
          exact ⟨l, was, tunes.request.symm.trans same⟩
        · exact running
      · rintro running
        by_cases same : c = c₀
        · subst same
          exact Or.inl ⟨rfl, l', rfl, tunes.request.trans (Running.unique ⟨l, was, rfl⟩ running)⟩
        · exact Or.inr ⟨same, running⟩
  | lost k₀ requests inFlight pending dispatched calls =>
      refine Or.inl ⟨inFlight, dispatched, fun k id c found => ?_, fun c rq => ?_⟩
      · rw [pending, pending_failPending] at found
        split at found
        · cases found
        · exact found
      · have same : d'.Running c rq ↔ (d.failPending k₀).Running c rq := by
          unfold Running IsLive
          rw [calls]
        exact same.trans running_failPending
  | answered c₀ rq₀ came free notNew eq =>
      subst eq
      refine Or.inl ⟨rfl, rfl, fun _ _ _ found => found, added free (fun l live => ?_) rfl⟩
      cases live
  | blocked c₀ rq₀ came free new taken eq =>
      subst eq
      refine Or.inl ⟨rfl, rfl, fun _ _ _ found => found, added free (fun l live => ?_) rfl⟩
      cases live
  | dispatch c₀ rq₀ inFlight came free new acquired eq =>
      subst eq
      refine Or.inr (Or.inl ⟨c₀, rq₀, came, free, new, acquired, dispatched_append_request _ _ _, rfl,
        fun c rq => ?_⟩)
      rw [running_insert rfl]
      constructor
      · rintro (⟨same, l, live, is⟩ | ⟨_, running⟩)
        · cases live
          exact Or.inr ⟨same, is.symm⟩
        · exact Or.inl running
      · rintro (running | ⟨same, rfl⟩)
        · exact Or.inr ⟨absent free running, running⟩
        · exact Or.inl ⟨same, _, rfl, rfl⟩
  | settled c₀ l out was interrupted raised returned requests inFlight pending dispatched calls =>
      refine Or.inr (Or.inr ⟨c₀, l.request, ⟨l, was, rfl⟩, inFlight, dispatched, pending,
        fun c rq => ?_⟩)
      rw [running_insert calls]
      constructor
      · rintro (⟨_, l₁, live, _⟩ | ⟨differ, running⟩)
        · cases live
        · exact ⟨running, differ⟩
      · exact fun both => Or.inr ⟨both.2, both.1⟩

end Dispatcher

end RemoteAgent
