import RemoteAgent.Authority
import RemoteAgent.AuditTrail

/-!
# Which requests a device is told to drop

A cancel frame names a single request id.  Every one that was sent is traced back to the
operator's request, and to a request frame with that id, which had been sent before on the
same connection.

* `Transmits` is what one step does to the frames, to the cancels under way and to the
  `relay.cancel` rows of the log.
* `Server.cancels_authorised`: cancel frames and `relay.cancel` rows of every run of the
  server.
-/

open Wire Storage Transition

namespace RemoteAgent

/-- A row of the log for a cancel. -/
def AuditEvent.isCancel (event : AuditEvent) : Bool :=
  decide (event.action = "relay.cancel" ∧ event.resultCode = "cancelled")

namespace Dispatcher

variable {env : Env} {d d' : Dispatcher} {a : Act}

/-! ## One step -/

/-- The row that `cancel_request` appends. -/
def cancelAudit (connectorId requestId : String) : AuditEvent :=
  ⟨"relay.cancel", "cancelled", "operator", connectorId, requestId⟩

/-- What a step does to the frames, to the cancels that wait for their frame, and to the
cancels in the log. -/
inductive Transmits (env : Env) (d d' : Dispatcher) (a : Act) : Prop where
  | quiet (notes : List AuditEvent) (sent : d'.sent = d.sent)
      (cancels : ∀ x c connectorId requestId,
        d'.cancels.get? x = some (.sending c connectorId requestId) →
          d.cancels.get? x = some (.sending c connectorId requestId))
      (audit : d'.audit = d.audit ++ notes) (others : ∀ event ∈ notes, event.isCancel = false)
  | request (c : CallId) (rq : Request) (came : d.incoming env a = some (c, rq))
      (sent : d'.sent = d.sent ++ [(rq.conn, .request rq)]) (cancels : d'.cancels = d.cancels)
      (audit : d'.audit = d.audit)
  | cancel (x : CancelId) (connectorId requestId : String) (row : Option Routing) (k : ConnId)
      (c : CallId) (act : a = .cancelRequest x connectorId requestId row)
      (registered : d.registry.get? connectorId = some k)
      (entry : (d.pending k).get? requestId = some c)
      (sent : d'.sent = d.sent ++ [(k, .cancel connectorId requestId)])
      (cancels : d'.cancels = d.cancels.insert x (.sending c connectorId requestId))
      (audit : d'.audit = d.audit)
  | reported (x : CancelId) (c : CallId) (connectorId requestId : String)
      (was : d.cancels.get? x = some (.sending c connectorId requestId))
      (sent : d'.sent = d.sent)
      (cancels : d'.cancels = d.cancels.insert x (.cancelled c connectorId requestId))
      (audit : d'.audit = d.audit ++ [cancelAudit connectorId requestId])

theorem Transmits.still (sent : d'.sent = d.sent) (cancels : d'.cancels = d.cancels)
    (audit : d'.audit = d.audit) : Transmits env d d' a :=
  .quiet [] sent (fun _ _ _ _ found => cancels ▸ found) (audit.trans (List.append_nil _).symm)
    fun _ mem => nomatch mem

/-- The end of a call logs no cancel. -/
theorem isCancel_outcomeAudit {rq : Request} {out : Outcome} {event : AuditEvent}
    (mem : event ∈ outcomeAudit env rq out) : event.isCancel = false := by
  cases out with
  | returned r =>
      obtain rfl := List.mem_singleton.mp mem
      refine decide_eq_false fun both => ?_
      have starts := congrArg (fun s => s.toList.head?) both.1
      rw [String.toList_append] at starts
      exact absurd (Option.some.inj starts) (by decide)
  | unaudited | raised | cancelled => cases mem

theorem transmits_settle {d₀ : Dispatcher} {c : CallId} {rq : Request} {out : Outcome}
    (notes : List AuditEvent) (sent : d₀.sent = d.sent) (cancels : d₀.cancels = d.cancels)
    (audit : d₀.audit = d.audit ++ notes) (others : ∀ event ∈ notes, event.isCancel = false) :
    Transmits env d (d₀.settle env c rq out) a := by
  refine .quiet (notes ++ outcomeAudit env rq (audited env out)) sent (fun _ _ _ _ found => cancels ▸ found)
    ?_ fun event mem => ?_
  · rw [← List.append_assoc, ← audit]
    rfl
  · rcases List.mem_append.mp mem with note | last
    · exact others event note
    · exact isCancel_outcomeAudit last

theorem transmits_delivered {c : CallId} {l : Live} (slow : Bool) :
    Transmits env d (d.delivered env c l slow) a := by
  have slowly : ∀ event ∈ [(⟨"relay." ++ l.request.tool, "assertion_delivery_slow",
      l.request.key.clientId, l.request.key.connectorId, l.request.requestId⟩ : AuditEvent)],
      event.isCancel = false := by
    intro event mem
    rw [List.mem_singleton.mp mem]
    have other : "assertion_delivery_slow" ≠ "cancelled" := by decide
    exact decide_eq_false fun both => other both.2
  have none_ : ∀ event ∈ ([] : List AuditEvent), event.isCancel = false :=
    fun _ mem => nomatch mem
  unfold delivered
  cases slow with
  | true =>
      simp only [↓reduceIte]
      split
      · exact transmits_settle _ rfl rfl rfl slowly
      · exact .quiet _ rfl (fun _ _ _ _ found => found) rfl slowly
  | false =>
      simp only [Bool.false_eq_true, ↓reduceIte]
      split
      · exact transmits_settle [] rfl rfl (List.append_nil _).symm none_
      · exact .still rfl rfl rfl

theorem sent_setResult (d : Dispatcher) (c : CallId) (r : Json) :
    (d.setResult c r).sent = d.sent ∧ (d.setResult c r).cancels = d.cancels ∧
      (d.setResult c r).audit = d.audit := by
  unfold setResult
  split <;> exact ⟨rfl, rfl, rfl⟩

theorem transmits_command {c : CallId} {connectorId : String} {input : CommandInput}
    {row : Option Routing} {uuid : String} {now : Int} (free : d.calls.get? c = none) :
    Transmits env d (d.deviceCommand env c connectorId input row uuid now)
      (.command c connectorId input row uuid now) := by
  unfold deviceCommand
  split
  · exact .still rfl rfl rfl
  · rename_i rq prepared
    have came : d.incoming env (.command c connectorId input row uuid now) = some (c, rq) := by
      unfold incoming
      simp only [free, prepared]
    unfold claimAndSend
    dsimp only
    split
    · split
      · exact .still rfl rfl rfl
      · exact .request c rq came rfl rfl rfl
    · exact .still rfl rfl rfl

/-- A cancel that ends without a report. -/
theorem transmits_drop {x : CancelId} {ended : Cancel}
    (dropped : ∀ c connectorId requestId, ended ≠ .sending c connectorId requestId) :
    Transmits env d { d with cancels := d.cancels.insert x ended } a := by
  refine .quiet [] rfl (fun x' c connectorId requestId found => ?_) (List.append_nil _).symm
    fun _ mem => nomatch mem
  have found : (d.cancels.insert x ended).get? x' = _ := found
  rw [Dict.get?_insert] at found
  split at found
  · exact absurd (Option.some.inj found) (dropped c connectorId requestId)
  · exact found

theorem transmits_cancelRequest {x : CancelId} {connectorId requestId : String}
    {row : Option Routing} :
    Transmits env d (d.cancelRequest x connectorId requestId row)
      (.cancelRequest x connectorId requestId row) := by
  unfold cancelRequest
  split
  · exact transmits_drop fun _ _ _ eq => by cases eq
  · rename_i row
    split
    · exact transmits_drop fun _ _ _ eq => by cases eq
    · rename_i k session found
      split
      · exact transmits_drop fun _ _ _ eq => by cases eq
      · rename_i c entry
        refine .cancel x connectorId requestId _ k c rfl ?_ entry rfl rfl rfl
        unfold getExact at found
        split at found
        · cases found
        · rename_i k' registered
          split at found
          · cases found
          · split at found <;> cases found
            exact registered

/-- **What a step transmits.** -/
theorem step_transmits (step : d.step env a = some d') : Transmits env d d' a := by
  cases a with
  | refuse c e =>
      simp only [Dispatcher.step] at step
      split at step <;> cases step
      exact .still rfl rfl rfl
  | command c connectorId input row uuid now =>
      simp only [Dispatcher.step] at step
      split at step
      · cases step
      · rename_i free
        cases step
        exact transmits_command free
  | delivered c slow =>
      simp only [Dispatcher.step] at step
      split at step
      · split at step <;> cases step
        exact transmits_delivered slow
      · cases step
  | sendFailed c timedOut =>
      simp only [Dispatcher.step] at step
      split at step
      · split at step <;> cases step
        exact transmits_settle [] rfl rfl (List.append_nil _).symm fun _ mem => by cases mem
      · cases step
  | expire c =>
      simp only [Dispatcher.step] at step
      split at step
      · split at step <;> cases step
        exact .still rfl rfl rfl
      · cases step
  | cancelTask c =>
      simp only [Dispatcher.step] at step
      split at step <;> cases step
      exact .still rfl rfl rfl
  | resume c =>
      simp only [Dispatcher.step] at step
      split at step
      · split at step <;> cases step
        exact transmits_settle [] rfl rfl (List.append_nil _).symm fun _ mem => by cases mem
      · cases step
  | respond k message =>
      simp only [Dispatcher.step] at step
      split at step
      · cases step
      · split at step <;> cases step
        obtain ⟨sent, cancels, audit⟩ := sent_setResult d _ _
        exact .still sent cancels audit
  | register k session =>
      simp only [Dispatcher.step] at step
      split at step <;> cases step
      unfold register
      split <;> exact .still rfl rfl rfl
  | remove k =>
      simp only [Dispatcher.step] at step
      split at step <;> cases step
      exact .still rfl rfl rfl
  | beat k contextEpoch =>
      simp only [Dispatcher.step] at step
      split at step <;> cases step
      exact .still rfl rfl rfl
  | refuseCancel x e =>
      simp only [Dispatcher.step] at step
      split at step <;> cases step
      exact transmits_drop fun _ _ _ eq => by cases eq
  | cancelRequest x connectorId requestId row =>
      simp only [Dispatcher.step] at step
      split at step <;> cases step
      exact transmits_cancelRequest
  | cancelSent x =>
      simp only [Dispatcher.step] at step
      split at step
      · rename_i c connectorId requestId was
        cases step
        unfold cancelSent
        dsimp only
        split
        · exact .reported x c connectorId requestId was rfl rfl rfl
        · obtain ⟨sent, cancels, audit⟩ := sent_setResult d c cancelResult
          exact .reported x c connectorId requestId was sent
            (congrArg (Dict.insert · x _) cancels) (congrArg (· ++ _) audit)
      · cases step
  | cancelFailed x =>
      simp only [Dispatcher.step] at step
      split at step <;> cases step
      exact transmits_drop fun _ _ _ eq => by cases eq

/-! ## Every run -/

/-- A running call has had its frame sent, on its connection; and a cancel that is under way,
or in the log, has had its frame sent too. -/
structure Framed (d : Dispatcher) : Prop where
  running : ∀ c rq, d.Running c rq → (rq.conn, .request rq) ∈ d.sent
  sending : ∀ x c connectorId requestId,
    d.cancels.get? x = some (.sending c connectorId requestId) →
      ∃ k, (k, .cancel connectorId requestId) ∈ d.sent
  logged : ∀ event ∈ d.audit, event.isCancel = true →
    ∃ k, (k, .cancel event.connectorId event.requestId) ∈ d.sent

theorem framed_init : Framed init where
  running := fun _ _ running => nomatch running.choose_spec.1
  sending := fun _ _ _ _ found => nomatch found
  logged := fun _ mem => nomatch mem

/-- Frames are only added. -/
theorem Transmits.sent_mono (transmits : Transmits env d d' a) {frame : ConnId × Frame}
    (mem : frame ∈ d.sent) : frame ∈ d'.sent := by
  cases transmits with
  | quiet notes sent => exact sent ▸ mem
  | request c rq came sent => exact sent ▸ List.mem_append_left _ mem
  | cancel x connectorId requestId row k c act registered entry sent =>
      exact sent ▸ List.mem_append_left _ mem
  | reported x c connectorId requestId was sent => exact sent ▸ mem

/-- A call that starts to run has its frame sent. -/
theorem Transmits.running (transmits : Transmits env d d' a) (effect : Effect env d d' a)
    {c : CallId} {rq : Request} (running : d'.Running c rq) :
    d.Running c rq ∨ (rq.conn, .request rq) ∈ d'.sent := by
  rcases effect.running with ⟨-, -, -, same⟩ | ⟨c₀, rq₀, came, -, -, -, dispatched, -, runs⟩ |
    ⟨c₀, rq₀, -, -, -, -, runs⟩
  · exact Or.inl ((same c rq).mp running)
  · rcases (runs c rq).mp running with was | ⟨rfl, rfl⟩
    · exact Or.inl was
    · have grown : d'.sent ≠ d.sent := fun same => by
        unfold Dispatcher.dispatched at dispatched
        rw [same] at dispatched
        exact List.cons_ne_nil _ _ (List.append_right_eq_self.mp dispatched.symm)
      refine Or.inr ?_
      cases transmits with
      | quiet notes sent => exact absurd sent grown
      | request c' rq' came' sent =>
          cases came.symm.trans came'
          exact sent ▸ List.mem_append_right _ (List.mem_singleton_self _)
      | cancel x connectorId requestId row k c' act =>
          subst act
          cases came
      | reported x c' connectorId requestId was sent => exact absurd sent grown
  · exact Or.inl ((runs c rq).mp running).1

theorem Framed.step (framed : Framed d) (effect : Effect env d d' a)
    (transmits : Transmits env d d' a) : Framed d' where
  running := fun c rq running => (transmits.running effect running).elim
    (fun was => transmits.sent_mono (framed.running c rq was)) id
  sending := by
    intro x c connectorId requestId found
    have before : d.cancels.get? x = some (.sending c connectorId requestId) →
        ∃ k, (k, .cancel connectorId requestId) ∈ d'.sent := fun was =>
      (framed.sending x c connectorId requestId was).imp fun _ mem => transmits.sent_mono mem
    cases id transmits with
    | quiet notes sent cancels => exact before (cancels _ _ _ _ found)
    | request c' rq came sent cancels => exact before (cancels ▸ found)
    | cancel x' connectorId' requestId' row k c' act registered entry sent cancels =>
        rw [cancels, Dict.get?_insert] at found
        split at found
        · cases found
          exact ⟨k, sent ▸ List.mem_append_right _ (List.mem_singleton_self _)⟩
        · exact before found
    | reported x' c' connectorId' requestId' was sent cancels =>
        rw [cancels, Dict.get?_insert] at found
        split at found
        · cases found
        · exact before found
  logged := by
    intro event mem isCancel
    have before : event ∈ d.audit →
        ∃ k, (k, .cancel event.connectorId event.requestId) ∈ d'.sent := fun was =>
      (framed.logged event was isCancel).imp fun _ mem => transmits.sent_mono mem
    cases id transmits with
    | quiet notes sent cancels audit others =>
        rw [audit] at mem
        rcases List.mem_append.mp mem with was | note
        · exact before was
        · rw [others event note] at isCancel
          cases isCancel
    | request c rq came sent cancels audit => exact before (audit ▸ mem)
    | cancel x connectorId requestId row k c act registered entry sent cancels audit =>
        exact before (audit ▸ mem)
    | reported x c connectorId requestId was sent cancels audit =>
        rw [audit] at mem
        rcases List.mem_append.mp mem with old | isNew
        · exact before old
        · cases List.mem_singleton.mp isNew
          exact (framed.sending x c connectorId requestId was).imp fun _ mem =>
            transmits.sent_mono mem

theorem framed_of_reach {allow : Dispatcher → Act → Prop}
    (reached : (dispatcher env).Reach allow d) : Framed d :=
  reached.invariant framed_init fun _ framed _ step =>
    framed.step (step_effect step) (step_transmits step)

end Dispatcher

/-! ## The operator's requests -/

namespace System

variable {env : Env} {sys sys' : System} {e : Event}

/-- A cancel that reaches the dispatcher is that of its event. -/
theorem act_cancel_event {x : CancelId} {connectorId requestId : String} {row : Option Routing}
    (act : sys.act env e = some (.cancelRequest x connectorId requestId row)) :
    ∃ name id now, e = .cancel x name id now ∧ parseConnectorId env (.str name) = .ok connectorId ∧
      parseUuid env (.str id) = .ok requestId := by
  have free : e.conn? = none := (act_conn act).symm
  obtain ⟨plan, planned, act⟩ := Option.bind_eq_some_iff.mp act
  cases e with
  | rejectUpgrade | connect | receive | handshakeTimeout | rechallenge | ready | readyFailed | finish
  | disconnect => cases free
  | command c input uuid now =>
      obtain rfl := Option.some.inj planned
      unfold commands at act
      split at act
      · cases act
      · split at act
        · cases act
        · split at act <;> cases act
  | cancel x₀ name id now =>
      obtain rfl := Option.some.inj planned
      unfold cancels at act
      split at act
      · cases act
      · rename_i connector parsed
        split at act
        · cases act
        · rename_i request isUuid
          split at act
          · cases act
          · cases act
            exact ⟨name, id, now, rfl, parsed, isUuid⟩
  | issueToken | revoke | delete | rename | deviceStatus | operatorDevices | onlineAgents
  | delivered | sendFailed | expire | cancelTask | resume | cancelSent | cancelFailed =>
      obtain rfl := Option.some.inj planned
      cases act

end System

theorem Route.event_cancel {env : Env} {route : Route} {rawToken name id : String}
    {x x' : CancelId} {now now' : Int}
    (event : route.event env rawToken x now = some (.cancel x' name id now')) :
    route = .cancelRequest name id := by
  cases route with
  | cancelRequest connectorId requestId =>
      cases event
      rfl
  | issueEnrollment body =>
      obtain ⟨_, _, same⟩ := Option.map_eq_some_iff.mp event
      cases same
  | renameDevice connectorId body =>
      obtain ⟨_, _, same⟩ := Option.map_eq_some_iff.mp event
      cases same
  | _ => cases event

namespace Server

/-- The operator's request behind a cancel frame, and what the frame reaches. -/
structure Recalls (server : Server) (env : Env) (m : Machine.Moment System Incoming)
    (k : ConnId) (connectorId requestId : String) : Prop where
  ordered : ∃ name id, server.Ordered m (.cancelRequest name id) ∧
    parseConnectorId env (.str name) = .ok connectorId ∧
    parseUuid env (.str id) = .ok requestId
  /-- The connection is the registered one of the connector. -/
  registered : m.before.dispatcher.registry.get? connectorId = some k
  /-- A call is running under the id, and its request frame went to the same connection. -/
  asked : ∃ c rq, m.before.dispatcher.Running c rq ∧ rq.requestId = requestId ∧
    rq.key.connectorId = connectorId ∧ (k, .request rq) ∈ m.before.dispatcher.sent
  sent : m.after.dispatcher.sent =
    m.before.dispatcher.sent ++ [(k, .cancel connectorId requestId)]

/-- **A device is told to drop only what it was asked for.**  In every run of the server each
cancel frame was sent when the operator asked for it, with the token, under a spelling of its
connector and request id; a call was running under that id, and its request frame had been
sent before on the same connection, the registered one.  And every `relay.cancel` row of the
log names a cancel frame that was sent. -/
theorem cancels_authorised (server : Server) (env : Env)
    {past : List (Machine.Moment System Incoming)} {sys : System}
    (run : (server.machine env).Run past sys) :
    (∀ k connectorId requestId, (k, .cancel connectorId requestId) ∈ sys.dispatcher.sent →
      ∃ m ∈ past, server.Recalls env m k connectorId requestId) ∧
    ∀ event ∈ sys.dispatcher.audit, event.isCancel = true →
      ∃ k, (k, .cancel event.connectorId event.requestId) ∈ sys.dispatcher.sent := by
  have simulates := (server.simulates env).reach_any run.reach
  refine ⟨fun k connectorId requestId mem => ?_,
    (Dispatcher.framed_of_reach ((system_simulates env).reach_any simulates)).logged⟩
  have origin := run.origin (x := (k, connectorId, requestId))
    (P := fun s x => (x.1, Frame.cancel x.2.1 x.2.2) ∈ s.dispatcher.sent)
    (Q := fun _ m x => server.Recalls env m x.1 x.2.1 x.2.2) (fun _ mem => by cases mem) ?_ mem
  · obtain ⟨before, m, after, rfl, recalls⟩ := origin
    exact ⟨m, List.mem_append_right _ List.mem_cons_self, recalls⟩
  · rintro past s t incoming ⟨k, connectorId, requestId⟩ run stepped mem
    obtain ⟨happens, ⟨-, rfl⟩ | ⟨e, asks, stepped⟩⟩ := step_asks stepped
    · exact Or.inl mem
    · have moved := (system_simulates env).step stepped
      cases act : s.act env e with
      | none =>
          rw [act] at moved
          exact Or.inl (moved ▸ mem)
      | some a =>
          rw [act] at moved
          have reached := (system_simulates env).reach_any
            ((server.simulates env).reach_any run.reach)
          have framed := Dispatcher.framed_of_reach reached
          have wired := Dispatcher.wired_of_reach reached
          cases Dispatcher.step_transmits moved with
          | quiet notes sent => exact Or.inl (sent ▸ mem)
          | reported x c connectorId requestId was sent => exact Or.inl (sent ▸ mem)
          | request c rq came sent =>
              rw [sent] at mem
              rcases List.mem_append.mp mem with old | isNew
              · exact Or.inl old
              · cases List.mem_singleton.mp isNew
          | cancel x connectorId' requestId' row k' c isAct registered entry sent =>
              rw [sent] at mem
              rcases List.mem_append.mp mem with old | isNew
              · exact Or.inl old
              · cases List.mem_singleton.mp isNew
                subst isAct
                obtain ⟨name, id, now, rfl, isConnector, isUuid⟩ := System.act_cancel_event act
                obtain ⟨route, rawToken, x', now', ordered, event⟩ :=
                  asks_ordered (m := ⟨s, incoming, t⟩) happens asks rfl fun _ _ _ _ eq => nomatch eq
                obtain rfl := Route.event_cancel event
                obtain ⟨rq, running, rfl, isId⟩ := wired.entry _ _ _ entry
                have home := wired.homed c rq running.told
                exact Or.inr ⟨⟨name, id, ordered, isConnector, isUuid⟩, registered,
                  ⟨c, rq, running, isId, Option.some.inj
                    (home.symm.trans (wired.registered _ _ registered)),
                    framed.running c rq running⟩, sent⟩

end Server

/-- The operator has the command of the sample device dropped. -/
theorem Server.cancels_authorised_ordered : ∃ (past : List (Machine.Moment System Server.Incoming))
    (m : Machine.Moment System Server.Incoming) (k : ConnId) (connectorId requestId : String),
    m ∈ past ∧ Sample.server.Recalls Sample.delegationEnv m k connectorId requestId := by
  have sends : ((Sample.server.machine Sample.delegationEnv).exec System.init
      (Sample.orderedServing ++ [.tool 0 Sample.toolRequest (Sample.uuid 0) 1767225612
        (Sample.second 12), Sample.ordered (.cancelRequest "pc-1" (Sample.uuid 0)) 13])).any
      (fun sys => sys.dispatcher.sent.any fun frame => frame.2.request?.isNone) = true := by
    decide +kernel
  obtain ⟨sys, ended, cancels⟩ := (Option.any_eq_true _ _).mp sends
  have run := Machine.Run.of_exec (M := Sample.server.machine Sample.delegationEnv) .init ended
  obtain ⟨⟨k, frame⟩, mem, isCancel⟩ := List.any_eq_true.mp cancels
  cases frame with
  | request rq => cases isCancel
  | cancel connectorId requestId =>
      obtain ⟨m, inPast, recalls⟩ :=
        (Server.cancels_authorised Sample.server Sample.delegationEnv run).1 k connectorId requestId mem
      exact ⟨_, m, k, connectorId, requestId, inPast, recalls⟩

end RemoteAgent
