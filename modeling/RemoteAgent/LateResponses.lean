import RemoteAgent.Handlers
import RemoteAgent.Sources

/-!
# Responses to abandoned requests

A request that was cancelled, or that timed out, may still be answered by the device.
`_receive_response` finds no entry for it, or one whose future is done, and takes the
frame for a violation of the protocol: the connection is closed and with it every other
call on it fails.  Where another call has taken over the request id, that call is given
the response instead.

`late_response_harms` says that one of the two happens in every state and for every
frame; `late_response_closes` is a run.
-/

open Wire Storage Transition

namespace RemoteAgent

open Dispatcher (field responseKeys responseStatus)

namespace Dispatcher

variable {env : Env} {d d' : Dispatcher} {a : Act}

/-! ## Abandoned futures are done -/

/-- A step writes the record of at most one cancel, and marks it done only when its frame has
been sent, with the future of its call. -/
theorem step_cancels (step : d.step env a = some d') :
    d'.cancels = d.cancels ∨ ∃ x new, d'.cancels = d.cancels.insert x new ∧
      ∀ c connectorId requestId, new = .cancelled c connectorId requestId →
        (d'.future c).done = true ∧ a = .cancelSent x ∧
          d.cancels.get? x = some (.sending c connectorId requestId) := by
  cases a with
  | refuse c e =>
      simp only [Dispatcher.step] at step
      split at step
      · cases step
      · cases step
        exact Or.inl rfl
  | command c connectorId input row uuid now =>
      simp only [Dispatcher.step] at step
      split at step
      · cases step
      · cases step
        exact Or.inl (received_deviceCommand _ _ _ _ _ _ _).2
  | delivered c slow =>
      simp only [Dispatcher.step] at step
      split at step
      · split at step
        · cases step
          exact Or.inl (received_delivered _ _ _ _).2
        · cases step
      · cases step
  | sendFailed c timedOut =>
      simp only [Dispatcher.step] at step
      split at step
      · split at step
        · cases step
          exact Or.inl rfl
        · cases step
      · cases step
  | expire c =>
      simp only [Dispatcher.step] at step
      split at step
      · split at step
        · cases step
          exact Or.inl rfl
        · cases step
      · cases step
  | cancelTask c =>
      simp only [Dispatcher.step] at step
      split at step
      · cases step
        exact Or.inl rfl
      · cases step
  | resume c =>
      simp only [Dispatcher.step] at step
      split at step
      · split at step
        · cases step
          exact Or.inl rfl
        · cases step
      · cases step
  | respond k message =>
      simp only [Dispatcher.step] at step
      split at step
      · cases step
      · split at step
        · cases step
        · cases step
          exact Or.inl (received_setResult _ _ _).2
  | register k session =>
      simp only [Dispatcher.step] at step
      split at step
      · cases step
      · cases step
        exact Or.inl (received_register _ _ _).2
  | remove k =>
      simp only [Dispatcher.step] at step
      split at step
      · cases step
      · cases step
        exact Or.inl rfl
  | beat k contextEpoch =>
      simp only [Dispatcher.step] at step
      split at step
      · cases step
      · cases step
        exact Or.inl rfl
  | refuseCancel x e =>
      simp only [Dispatcher.step] at step
      split at step
      · cases step
      · cases step
        exact Or.inr ⟨x, _, rfl, fun _ _ _ eq => by cases eq⟩
  | cancelRequest x connectorId requestId row =>
      simp only [Dispatcher.step] at step
      split at step
      · cases step
      · cases step
        have written : ∃ new, (d.cancelRequest x connectorId requestId row).cancels =
            d.cancels.insert x new ∧
            ∀ c connectorId requestId, new ≠ .cancelled c connectorId requestId := by
          unfold cancelRequest
          split
          · exact ⟨_, rfl, fun _ _ _ eq => by cases eq⟩
          · split
            · exact ⟨_, rfl, fun _ _ _ eq => by cases eq⟩
            · split <;> exact ⟨_, rfl, fun _ _ _ eq => by cases eq⟩
        obtain ⟨new, is, other⟩ := written
        exact Or.inr ⟨x, new, is, fun c i r eq => absurd eq (other c i r)⟩
  | cancelSent x =>
      simp only [Dispatcher.step] at step
      split at step
      · rename_i c connectorId requestId was
        cases step
        refine Or.inr ⟨x, .cancelled c connectorId requestId, ?_, fun c' i r eq => ?_⟩
        · unfold cancelSent
          split
          · rfl
          · show (d.setResult c cancelResult).cancels.insert x _ = _
            rw [(received_setResult d c cancelResult).2]
        · cases eq
          refine ⟨?_, rfl, was⟩
          by_cases done : (d.future c).done = true
          · simp only [cancelSent, if_pos done]
            exact done
          · obtain ⟨l, live, _⟩ := isLive_of_undone (by simpa using done)
            have set : (d.setResult c cancelResult).IsLive c { l with future := .result cancelResult } := by
              rw [setResult_of_live live]
              exact Dict.get?_insert_self _ _ _
            simp only [cancelSent, if_neg done]
            exact congrArg Fut.done (future_of_live set)
      · cases step
  | cancelFailed x =>
      simp only [Dispatcher.step] at step
      split at step
      · cases step
        exact Or.inr ⟨x, _, rfl, fun _ _ _ eq => by cases eq⟩
      · cases step

/-- **The future of a call that was told `new` stays done.** -/
theorem Effect.done_mono (effect : Effect env d d' a) {c : CallId} {rq : Request}
    (told : d.Told c rq) (done : (d.future c).done = true) : (d'.future c).done = true := by
  obtain ⟨call, found, is⟩ := told
  have same : d'.calls.get? c = d.calls.get? c → (d'.future c).done = true := by
    intro kept
    unfold future at done ⊢
    rwa [kept]
  have fresh : ∀ {c₀ : CallId} {call₀ : Call}, d.calls.get? c₀ = none →
      d'.calls = d.calls.insert c₀ call₀ → (d'.future c).done = true := by
    intro c₀ call₀ free calls
    refine same ?_
    rw [calls, Dict.get?_insert_of_ne]
    rintro rfl
    rw [free] at found
    cases found
  cases effect with
  | idle requests inFlight pending dispatched calls links =>
      rcases calls c with kept | ⟨free, _⟩
      · exact same kept
      · rw [free] at found
        cases found
  | tuned c₀ l l' was tunes requests inFlight pending dispatched calls links =>
      by_cases here : c = c₀
      · subst here
        have now : d'.IsLive c l' := by
          rw [IsLive, calls, Dict.get?_insert_self]
        rw [future_of_live was] at done
        rw [future_of_live now, tunes.future done]
        exact done
      · exact same (by rw [calls, Dict.get?_insert_of_ne here])
  | lost k requests inFlight pending dispatched calls loses =>
      by_contra undone
      obtain ⟨l', live, isUndone⟩ := isLive_of_undone (by simpa using undone)
      rw [IsLive, calls] at live
      obtain ⟨l, before, _, either, _⟩ := isLive_failPending live
      rcases either with rfl | ⟨_, failed, _⟩
      · rw [future_of_live before, isUndone] at done
        cases done
      · rw [failed] at isUndone
        cases isUndone
  | answered c₀ rq₀ came free notNew eq => exact fresh free (congrArg Dispatcher.calls eq)
  | blocked c₀ rq₀ came free new taken eq => exact fresh free (congrArg Dispatcher.calls eq)
  | dispatch c₀ rq₀ inFlight came free new acquired eq =>
      exact fresh free (congrArg Dispatcher.calls eq)
  | settled c₀ l out was interrupted raised returned requests inFlight pending dispatched calls
      links =>
      by_cases here : c = c₀
      · unfold future
        rw [calls, here, Dict.get?_insert_self]
        rfl
      · exact same (by rw [calls, Dict.get?_insert_of_ne here])

/-- A cancel is done only with the future of its call. -/
def Dropped (d : Dispatcher) : Prop :=
  ∀ x c connectorId requestId, d.cancels.get? x = some (.cancelled c connectorId requestId) →
    (d.future c).done = true

theorem dropped_of_reach {allow : Dispatcher → Act → Prop}
    (reached : (dispatcher env).Reach allow d) : Dropped d := by
  refine reached.invariant (fun _ _ _ _ found => nomatch found)
    fun {s t e} before dropped _ step x c connectorId requestId found => ?_
  have old : s.cancels.get? x = some (.cancelled c connectorId requestId) →
      (t.future c).done = true := by
    intro was
    obtain ⟨rq, told, _⟩ := (traced_of_reach before).aimed x _ c connectorId requestId was rfl
    exact (step_effect step).done_mono told (dropped x c connectorId requestId was)
  rcases step_cancels step with same | ⟨x₀, new, is, done⟩
  · exact old (same ▸ found)
  · rw [is, Dict.get?_insert] at found
    split at found
    · exact (done c connectorId requestId (Option.some.inj found)).1
    · exact old found

end Dispatcher

namespace System

variable {env : Env} {sys sys' : System}

/-! ## What becomes of the frame -/

/-- Call `c`, dispatched on connection `k`, has been cancelled by `cancel_request`, or
has ended with `device_timeout`. -/
def Abandoned (sys : System) (k : ConnId) (c : CallId) (rq : Request) : Prop :=
  sys.dispatcher.Told c rq ∧ rq.conn = k ∧
    ((∃ x, sys.dispatcher.cancels.get? x =
        some (.cancelled c rq.key.connectorId rq.requestId)) ∨
      sys.dispatcher.calls.get? c = some (.settled rq (.raised .deviceTimeout)))

/-- A well-formed response frame for a request. -/
structure Response (env : Env) (connectorId : String) (rq : Request) (message : Json) : Prop where
  type : hasType message "response" = true
  keys : requireKeys message responseKeys [] = .ok ()
  version : Py.eqInt env.floats (field message "v") protocolVersion = true
  connector : Py.eqStr (field message "connector_id") connectorId = true
  requestId : env.text (field message "request_id") = rq.requestId
  status : ∃ ok, responseStatus (field message "status") = .ok ok

/-- The handler of `k` has dealt with a frame: it waits for the next one or has ended
at once, or it has closed the connection, whatever happened in between. -/
inductive DealsWith (env : Env) (sys : System) (k : ConnId) (message : Json) (now : Int) :
    System → Prop
  | taken {sys' : System} (step : sys.step env (.receive k (.ok message) now) = some sys')
      (open_ : ∀ diagnostic, sys'.phases.get? k ≠ some (.closing diagnostic)) :
      DealsWith env sys k message now sys'
  | closed {sys₁ sys₂ sys' : System} {diagnostic : Json} {later : Int}
      (step : sys.step env (.receive k (.ok message) now) = some sys₁)
      (closing : sys₁.phases.get? k = some (.closing diagnostic))
      (between : (system env).Steps sys₁ sys₂)
      (finish : sys₂.step env (.finish k later) = some sys') :
      DealsWith env sys k message now sys'

/-- The session of `k` is registered and its row online, and every other call that
waited on it still waits and owns its entry. -/
structure Unharmed (sys sys' : System) (k : ConnId) (session : AgentRelaySession) (c : CallId) :
    Prop where
  registered : sys'.dispatcher.registry.get? session.connectorId = some k
  online : ∃ r ∈ sys'.store.instances, r.instanceId = session.instanceId ∧
    r.connectionGeneration = k ∧ r.state = .online
  waiting : ∀ c' l, c' ≠ c → sys.dispatcher.IsLive c' l → l.request.conn = k →
    l.future.done = false →
      ∃ l', sys'.dispatcher.IsLive c' l' ∧ l'.request = l.request ∧ l'.future.done = false ∧
        (sys'.dispatcher.pending k).get? l.request.requestId = some c'

/-- Removing a session takes it out of the registry. -/
theorem removed_gone {d d' : Dispatcher} {k : ConnId} {connectorId : String}
    (has : d.connectorOf k = some connectorId) (removed : d.step env (.remove k) = some d') :
    d'.registry.get? connectorId ≠ some k := by
  simp only [Dispatcher.step] at removed
  split at removed
  · cases removed
  · rename_i session here
    cases removed
    have own : session.connectorId = connectorId := by
      unfold Dispatcher.connectorOf at has
      rw [here] at has
      exact Option.some.inj has
    unfold Dispatcher.remove Dispatcher.failPending
    simp only
    split
    · rw [own, Dict.get?_erase_self]
      exact fun eq => by cases eq
    · rename_i kept
      simpa only [Dispatcher.removes, own, decide_eq_true_eq] using kept

/-- A handler that ends takes its session out of the registry. -/
theorem finish_gone {k : ConnId} {connectorId : String} {now : Int}
    (has : sys.dispatcher.connectorOf k = some connectorId)
    (finish : sys.step env (.finish k now) = some sys') :
    sys'.dispatcher.registry.get? connectorId ≠ some k := by
  obtain ⟨plan, planned, _, _, next⟩ := step_plan finish
  have planned : sys.ends env k true now = some plan := planned
  rw [ends_teardown planned] at next
  unfold Dispatcher.connectorOf at has
  obtain ⟨session, here, own⟩ := Option.map_eq_some_iff.mp has
  unfold teardown at next
  rw [here] at next
  refine removed_gone ?_ next
  unfold Dispatcher.connectorOf
  rw [here]
  exact congrArg some own

/-- A well-formed response is refused, or settles the call that owns the entry. -/
theorem Response.receive {d : Dispatcher} {k : ConnId} {connectorId : String} {rq : Request}
    {message : Json} (response : Response env connectorId rq message) :
    d.receiveResponse env k connectorId message = .error .protocol ∨
      ∃ c r, d.receiveResponse env k connectorId message = .ok (c, r) := by
  obtain ⟨ok, status⟩ := response.status
  unfold Dispatcher.receiveResponse
  simp only [response.keys, response.version, response.connector, status, Bool.not_true,
    Bool.or_self, Bool.false_eq_true, ↓reduceIte]
  split
  · exact Or.inl rfl
  · split
    · exact Or.inl rfl
    · exact Or.inr ⟨_, _, rfl⟩

/-- How the handler of a session that serves takes a well-formed response: it closes
the connection, or a call is settled. -/
theorem Response.plan {k : ConnId} {session : AgentRelaySession} {rq : Request} {message : Json}
    (now : Int) (serving : sys.phases.get? k = some .serving)
    (here : sys.dispatcher.sessions.get? k = some session)
    (response : Response env session.connectorId rq message) :
    (∃ diagnostic, sys.plan env (.receive k (.ok message) now) =
      some ⟨sys.store, sys.phases.insert k (.closing diagnostic), none⟩) ∨
    ∃ c r, sys.dispatcher.receiveResponse env k session.connectorId message = .ok (c, r) ∧
      sys.plan env (.receive k (.ok message) now) =
        some ⟨sys.store, sys.phases, some (.respond k message)⟩ := by
  have isResponse : field message "type" = .str "response" := by
    have type := response.type
    unfold hasType at type
    cases is : field message "type" with
    | str s => rw [is] at type; exact congrArg Json.str (of_decide_eq_true type)
    | _ => rw [is] at type; cases type
  have notBeat : hasType message "heartbeat" = false := by
    unfold hasType
    rw [isResponse]
    decide
  have served : sys.plan env (.receive k (.ok message) now) =
      some (sys.serves env k session message now) := by
    show sys.receives env k (.ok message) now = _
    unfold receives
    rw [serving, here]
  rw [served]
  unfold serves
  simp only [notBeat, response.type, Bool.false_eq_true, ↓reduceIte]
  rcases response.receive (d := sys.dispatcher) (k := k) with refused | ⟨c, r, settled⟩
  · exact Or.inl ⟨_, by rw [refused]; rfl⟩
  · exact Or.inr ⟨c, r, settled, by rw [settled]⟩

/-- A session keeps its connector along any further steps. -/
theorem connectorOf_steps {k : ConnId} {connectorId : String}
    (run : (system env).Steps sys sys') (has : sys.dispatcher.connectorOf k = some connectorId) :
    sys'.dispatcher.connectorOf k = some connectorId :=
  Machine.Steps.invariant (I := fun sys => sys.dispatcher.connectorOf k = some connectorId)
    (fun has stepped => connectorOf_mono stepped has) run has

end System

open RemoteAgent.System

/-- **A response to an abandoned request always harms.**  In every state in which `k`
serves, registered or not, and for every well-formed response to a request dispatched on it
that was cancelled or has timed out: the handler deals with the frame, and when it has,
the session is out of the registry, or another call that waited no longer does. -/
theorem late_response_harms (env : Env) {sys : System}
    (reached : (system env).Reach Machine.anyStep sys) {k : ConnId} {session : AgentRelaySession}
    {c : CallId} {rq : Request} {message : Json} (now : Int)
    (serving : sys.phases.get? k = some .serving)
    (here : sys.dispatcher.sessions.get? k = some session)
    (abandoned : Abandoned sys k c rq) (response : Response env session.connectorId rq message) :
    (∃ sys', DealsWith env sys k message now sys') ∧
      ∀ sys', DealsWith env sys k message now sys' → ¬ Unharmed sys sys' k session c := by
  have runs := (system_simulates env).reach_any reached
  have linked := linked_of_reach reached
  have has : sys.dispatcher.connectorOf k = some session.connectorId := by
    unfold Dispatcher.connectorOf
    rw [here]
    rfl
  rcases response.plan now serving here with ⟨diagnostic, planned⟩ | ⟨c', r, settled, planned⟩
  · -- The frame closes the connection, and the handler ends.
    obtain ⟨sys₁, stepped⟩ := Option.isSome_iff_exists.mp (receive_answered linked
      (show sys.receives env k (.ok message) now = some _ from planned))
    have closing : sys₁.phases.get? k = some (.closing diagnostic) := by
      obtain ⟨plan, isPlan, _, phases, _⟩ := step_plan stepped
      rw [planned] at isPlan
      cases isPlan
      rw [phases, Dict.get?_insert_self]
    constructor
    · have ends : sys₁.plan env (.finish k now) = some (sys₁.teardown env sys₁.store k now) := by
        show sys₁.ends env k true now = _
        unfold ends
        rw [closing]
      obtain ⟨sys', finish⟩ := Option.isSome_iff_exists.mp ((close_answered ends).step ends)
      exact ⟨sys', .closed stepped closing .refl finish⟩
    · intro sys' deals unharmed
      cases deals with
      | taken step open_ =>
          rw [stepped] at step
          cases step
          exact open_ diagnostic closing
      | closed step _ between finish =>
          have has₁ := connectorOf_steps between (connectorOf_mono step has)
          exact finish_gone has₁ finish unharmed.registered
  · -- The entry is another call's, which is given the response.
    have accepted := Dispatcher.receiveResponse_ok_iff.mp settled
    obtain ⟨l, live, undone⟩ := Dispatcher.isLive_of_undone accepted.undone
    obtain ⟨rq', running, onSession, _⟩ :=
      (Dispatcher.wired_of_reach runs).entry _ _ _ accepted.pending
    obtain rfl := running.unique ⟨l, live, rfl⟩
    have other : c' ≠ c := by
      rintro rfl
      rcases abandoned.2.2 with ⟨x, cancelled⟩ | timedOut
      · have done := Dispatcher.dropped_of_reach runs x _ _ _ cancelled
        rw [accepted.undone] at done
        cases done
      · rw [show sys.dispatcher.calls.get? c' = some (.live l) from live] at timedOut
        cases timedOut
    have moves : ∀ {sys'}, sys.step env (.receive k (.ok message) now) = some sys' →
        sys'.phases = sys.phases ∧
          sys'.dispatcher.IsLive c' { l with future := .result r } := by
      intro sys' stepped
      obtain ⟨plan, isPlan, _, phases, next⟩ := step_plan stepped
      rw [planned] at isPlan
      cases isPlan
      refine ⟨phases, ?_⟩
      simp only [Dispatcher.step, here, settled] at next
      rw [← Option.some.inj next]
      show (sys.dispatcher.setResult c' r).IsLive c' _
      rw [Dispatcher.setResult_of_live live]
      exact Dict.get?_insert_self _ _ _
    constructor
    · obtain ⟨sys', stepped⟩ := Option.isSome_iff_exists.mp (receive_answered linked
        (show sys.receives env k (.ok message) now = some _ from planned))
      refine ⟨sys', .taken stepped fun diagnostic closing => ?_⟩
      rw [(moves stepped).1, serving] at closing
      cases closing
    · intro sys' deals unharmed
      cases deals with
      | taken step open_ =>
          obtain ⟨l', live', _, waits, _⟩ := unharmed.waiting c' l other live onSession undone
          have same : some (Call.live l') = some (Call.live { l with future := .result r }) :=
            live'.symm.trans (moves step).2
          cases same
          cases waits
      | closed step closing between finish =>
          rw [(moves step).1, serving] at closing
          cases closing

def timesOutServed (sys : System) : Bool :=
  match sys.phases.get? 0, sys.dispatcher.sessions.get? 0, sys.dispatcher.calls.get? 0 with
  | some .serving, some session, some (.settled rq (.raised .deviceTimeout)) =>
      decide (session.connectorId = "pc-1" ∧ rq.requestId = Sample.uuid 0 ∧ rq.conn = 0)
  | _, _, _ => false

/-- The device answers the command that has timed out. -/
theorem late_response_harms_timedOut :
    ∃ (sys sys' : System) (session : AgentRelaySession),
      DealsWith Sample.env sys 0 (Sample.responseFrame (Sample.uuid 0)) (Sample.second 71) sys' ∧
      ¬ Unharmed sys sys' 0 session 0 := by
  have reached : (system Sample.env).Reach Machine.anyStep System.init := .init
  obtain ⟨sys, reached, holds⟩ := reached.exists_of_exec
    (Sample.serving ++ Sample.sent 0 "k-1" false 10 ++ [.expire 0, .resume 0])
    timesOutServed (by decide +kernel)
  unfold timesOutServed at holds
  split at holds
  · rename_i session rq serving here timedOut
    obtain ⟨connector, requestId, conn⟩ := of_decide_eq_true holds
    have response : Response Sample.env session.connectorId rq
        (Sample.responseFrame (Sample.uuid 0)) := by
      refine ⟨by decide, by decide, by decide, ?_, ?_, true, by decide⟩
      · rw [connector]
        decide
      · rw [requestId]
        rfl
    obtain ⟨⟨sys', deals⟩, harms⟩ := late_response_harms Sample.env reached (Sample.second 71)
      serving here ⟨⟨_, timedOut, rfl⟩, conn, Or.inr timedOut⟩ response
    exact ⟨sys, sys', session, deals, harms sys' deals⟩
  · cases holds

def closesOnAnswer (sys : System) : Bool :=
  match sys.phases.get? 0, sys.dispatcher.sessions.get? 0, sys.dispatcher.calls.get? 0,
      sys.dispatcher.cancels.get? 0 with
  | some .serving, some session, some (.live l), some (.cancelled 0 connectorId requestId) =>
      decide (session.connectorId = "pc-1" ∧ sys.dispatcher.registry.get? "pc-1" = some 0 ∧
        l.request.requestId = Sample.uuid 0 ∧ l.request.conn = 0 ∧
        connectorId = l.request.key.connectorId ∧ requestId = l.request.requestId) &&
      (sys.step Sample.env (.receive 0 (.ok (Sample.responseFrame (Sample.uuid 0)))
        (Sample.second 13))).any fun sys₁ => match sys₁.phases.get? 0 with
          | some (.closing _) =>
              (sys₁.step Sample.env (.finish 0 (Sample.second 14))).any fun sys' =>
                decide (sys'.dispatcher.registry.get? "pc-1" ≠ some 0)
          | _ => false
  | _, _, _, _ => false

/-- **The response to a cancelled command closes the connection.** -/
theorem late_response_closes :
    ¬ ∀ sys : System, (system Sample.env).Reach Machine.anyStep sys →
      ∀ k session c rq message now sys', sys.phases.get? k = some .serving →
        sys.dispatcher.sessions.get? k = some session →
        sys.dispatcher.registry.get? session.connectorId = some k → Abandoned sys k c rq →
        Response Sample.env session.connectorId rq message →
        DealsWith Sample.env sys k message now sys' → Unharmed sys sys' k session c := by
  intro unharmed
  have reached : (system Sample.env).Reach Machine.anyStep System.init := .init
  obtain ⟨sys, reached, holds⟩ := reached.exists_of_exec
    (Sample.serving ++ Sample.sent 0 "k-1" false 10 ++
      [.cancel 0 "pc-1" (Sample.uuid 0) (Sample.second 12), .cancelSent 0])
    closesOnAnswer (by decide +kernel)
  unfold closesOnAnswer at holds
  split at holds
  · rename_i session l connectorId requestId serving here live cancelled
    obtain ⟨facts, closes⟩ := Bool.and_eq_true_iff.mp holds
    obtain ⟨connector, registered, isId, conn, rfl, rfl⟩ := of_decide_eq_true facts
    obtain ⟨sys₁, stepped, closes⟩ := (Option.any_eq_true _ _).mp closes
    split at closes
    · rename_i diagnostic closing
      obtain ⟨sys', finish, gone⟩ := (Option.any_eq_true _ _).mp closes
      have response : Response Sample.env session.connectorId l.request
          (Sample.responseFrame (Sample.uuid 0)) := by
        refine ⟨by decide, by decide, by decide, ?_, ?_, true, by decide⟩
        · rw [connector]
          decide
        · rw [isId]
          rfl
      have kept := unharmed sys reached 0 session 0 l.request _ _ sys' serving here
        (connector ▸ registered) ⟨⟨_, live, rfl⟩, conn, Or.inl ⟨0, cancelled⟩⟩ response
        (.closed stepped closing .refl finish)
      exact of_decide_eq_true gone (connector ▸ kept.registered)
    · cases closes
  · cases holds

end RemoteAgent
