import RemoteAgent.PendingCalls

/-!
# Where the results of calls come from

`Sourced` holds in every run: the object that a call holds or has returned was
built from a response frame accepted on the session the call was dispatched on,
bearing its request id and its connector, or was set by a `cancel_request` for it.
-/

open Wire Storage Transition

namespace RemoteAgent

/-- The request of a call and the object it holds or has returned. -/
def Call.result? : Call → Option (Request × Json)
  | .live l =>
      match l.future with
      | .result r => some (l.request, r)
      | _ => none
  | .settled rq (.returned r) => some (rq, r)
  | _ => none

/-- The call that a cancel under way, or done, is for. -/
def Cancel.aim? : Cancel → Option (CallId × String × String)
  | .sending c connectorId requestId => some (c, connectorId, requestId)
  | .cancelled c connectorId requestId => some (c, connectorId, requestId)
  | _ => none

namespace Dispatcher

variable {env : Env} {d d' : Dispatcher} {a : Act}

/-- The origin of an object that call `c` holds. -/
inductive Source (env : Env) (d : Dispatcher) (c : CallId) (rq : Request) (r : Json) : Prop where
  | response (message : Json) (received : (rq.conn, message) ∈ d.received)
      (keys : requireKeys message responseKeys [] = .ok ())
      (requestId : env.text (field message "request_id") = rq.requestId)
      (connector : Py.eqStr (field message "connector_id") rq.key.connectorId = true)
      (result : ∃ ok, responseStatus (field message "status") = .ok ok ∧
        r = responseResult ok (field message "result"))
  | cancel (x : CancelId)
      (cancelled : d.cancels.get? x = some (.cancelled c rq.key.connectorId rq.requestId))
      (is : r = cancelResult)

/-! ## What a step adds to the history -/

/-- Accepted frames stay, a cancel that is done stays done, and one that is aimed
at a call was so before or has just found the call in a `pending` map. -/
structure Logged (d d' : Dispatcher) : Prop where
  received : ∀ frame ∈ d.received, frame ∈ d'.received
  cancelled : ∀ x c connectorId requestId,
    d.cancels.get? x = some (.cancelled c connectorId requestId) →
      d'.cancels.get? x = some (.cancelled c connectorId requestId)
  aimed : ∀ x cancel c connectorId requestId, d'.cancels.get? x = some cancel →
    cancel.aim? = some (c, connectorId, requestId) →
      (∃ old, d.cancels.get? x = some old ∧ old.aim? = some (c, connectorId, requestId)) ∨
        ∃ k, d.registry.get? connectorId = some k ∧ (d.pending k).get? requestId = some c

theorem Logged.of_same (received : d'.received = d.received) (cancels : d'.cancels = d.cancels) :
    Logged d d' where
  received := fun _ mem => received ▸ mem
  cancelled := fun _ _ _ _ was => cancels ▸ was
  aimed := fun _ cancel _ _ _ found is => Or.inl ⟨cancel, cancels ▸ found, is⟩

/-- A cancel that has not been done moves on. -/
theorem Logged.of_cancel {x : CancelId} {new : Cancel} (received : d'.received = d.received)
    (cancels : d'.cancels = d.cancels.insert x new)
    (undone : ∀ c connectorId requestId,
      d.cancels.get? x ≠ some (.cancelled c connectorId requestId))
    (aimed : ∀ c connectorId requestId, new.aim? = some (c, connectorId, requestId) →
      (∃ old, d.cancels.get? x = some old ∧ old.aim? = some (c, connectorId, requestId)) ∨
        ∃ k, d.registry.get? connectorId = some k ∧ (d.pending k).get? requestId = some c) :
    Logged d d' where
  received := fun _ mem => received ▸ mem
  cancelled := by
    intro x' c connectorId requestId was
    rw [cancels, Dict.get?_insert_of_ne, was]
    rintro rfl
    exact undone _ _ _ was
  aimed := by
    intro x' cancel c connectorId requestId found is
    rw [cancels, Dict.get?_insert] at found
    split at found
    · rename_i same
      cases found
      exact same ▸ aimed c connectorId requestId is
    · exact Or.inl ⟨cancel, found, is⟩

theorem received_claimAndSend (d : Dispatcher) (c : CallId) (rq : Request) :
    (d.claimAndSend env c rq).received = d.received ∧
      (d.claimAndSend env c rq).cancels = d.cancels := by
  unfold claimAndSend
  simp only
  split
  · split <;> exact ⟨rfl, rfl⟩
  · exact ⟨rfl, rfl⟩

theorem received_deviceCommand (d : Dispatcher) (c : CallId) (connectorId : String)
    (input : CommandInput) (row : Option Routing) (uuid : String) (now : Int) :
    (d.deviceCommand env c connectorId input row uuid now).received = d.received ∧
      (d.deviceCommand env c connectorId input row uuid now).cancels = d.cancels := by
  unfold deviceCommand
  split
  · exact ⟨rfl, rfl⟩
  · exact received_claimAndSend _ _ _

theorem received_delivered (d : Dispatcher) (c : CallId) (l : Live) (slow : Bool) :
    (d.delivered env c l slow).received = d.received ∧
      (d.delivered env c l slow).cancels = d.cancels := by
  unfold delivered
  cases slow <;> simp only [Bool.false_eq_true, ↓reduceIte] <;> split <;> exact ⟨rfl, rfl⟩

theorem received_setResult (d : Dispatcher) (c : CallId) (r : Json) :
    (d.setResult c r).received = d.received ∧ (d.setResult c r).cancels = d.cancels := by
  unfold setResult
  split <;> exact ⟨rfl, rfl⟩

theorem received_register (d : Dispatcher) (k : ConnId) (session : AgentRelaySession) :
    (d.register k session).received = d.received ∧
      (d.register k session).cancels = d.cancels := by
  unfold register
  simp only
  split <;> exact ⟨rfl, rfl⟩

/-- `cancel_request` aims at the call that its session's map names. -/
theorem cancelRequest_logged {x : CancelId} {connectorId requestId : String}
    {row : Option Routing} (free : d.cancels.get? x = none) :
    Logged d (d.cancelRequest x connectorId requestId row) := by
  have undone : ∀ c connectorId requestId,
      d.cancels.get? x ≠ some (.cancelled c connectorId requestId) := by
    intro c connectorId requestId was
    rw [free] at was
    cases was
  have refused : ∀ e, Logged d { d with cancels := d.cancels.insert x (.refused (.agent e)) } :=
    fun e => .of_cancel rfl rfl undone fun _ _ _ aim => nomatch aim
  unfold cancelRequest
  split
  · exact refused .deviceOffline
  · rename_i row
    split
    · exact refused .deviceOffline
    · rename_i k session found
      split
      · exact refused .requestNotInFlight
      · rename_i c entry
        refine .of_cancel rfl rfl undone fun c' connectorId' requestId' aim => ?_
        cases aim
        refine Or.inr ⟨k, ?_, entry⟩
        unfold getExact at found
        split at found
        · cases found
        · rename_i k' registered
          split at found
          · cases found
          · split at found
            · cases found
              exact registered
            · cases found

theorem step_logged (step : d.step env a = some d') : Logged d d' := by
  cases a with
  | refuse c e =>
      simp only [Dispatcher.step] at step
      split at step
      · cases step
      · cases step
        exact .of_same rfl rfl
  | command c connectorId input row uuid now =>
      simp only [Dispatcher.step] at step
      split at step
      · cases step
      · cases step
        exact .of_same (received_deviceCommand _ _ _ _ _ _ _).1 (received_deviceCommand _ _ _ _ _ _ _).2
  | delivered c slow =>
      simp only [Dispatcher.step] at step
      split at step
      · split at step
        · cases step
          exact .of_same (received_delivered _ _ _ _).1 (received_delivered _ _ _ _).2
        · cases step
      · cases step
  | sendFailed c timedOut =>
      simp only [Dispatcher.step] at step
      split at step
      · split at step
        · cases step
          exact .of_same rfl rfl
        · cases step
      · cases step
  | expire c =>
      simp only [Dispatcher.step] at step
      split at step
      · split at step
        · cases step
          exact .of_same rfl rfl
        · cases step
      · cases step
  | cancelTask c =>
      simp only [Dispatcher.step] at step
      split at step
      · cases step
        exact .of_same rfl rfl
      · cases step
  | resume c =>
      simp only [Dispatcher.step] at step
      split at step
      · split at step
        · cases step
          exact .of_same rfl rfl
        · cases step
      · cases step
  | respond k message =>
      simp only [Dispatcher.step] at step
      split at step
      · cases step
      · split at step
        · cases step
        · rename_i c r settled
          cases step
          obtain ⟨_, cancels⟩ := received_setResult d c r
          refine ⟨fun _ mem => List.mem_append_left _ mem, ?_, ?_⟩
          · exact fun _ _ _ _ was => cancels.symm ▸ was
          · exact fun _ cancel _ _ _ found is => Or.inl ⟨cancel, cancels ▸ found, is⟩
  | register k session =>
      simp only [Dispatcher.step] at step
      split at step
      · cases step
      · cases step
        exact .of_same (received_register _ _ _).1 (received_register _ _ _).2
  | remove k =>
      simp only [Dispatcher.step] at step
      split at step
      · cases step
      · cases step
        exact .of_same rfl rfl
  | beat k contextEpoch =>
      simp only [Dispatcher.step] at step
      split at step
      · cases step
      · cases step
        exact .of_same rfl rfl
  | refuseCancel x e =>
      simp only [Dispatcher.step] at step
      split at step
      · cases step
      · rename_i free
        cases step
        refine .of_cancel rfl rfl (fun c connectorId requestId was => ?_) fun _ _ _ aim => by cases aim
        rw [free] at was
        cases was
  | cancelRequest x connectorId requestId row =>
      simp only [Dispatcher.step] at step
      split at step
      · cases step
      · rename_i free
        cases step
        exact cancelRequest_logged free
  | cancelSent x =>
      simp only [Dispatcher.step] at step
      split at step
      · rename_i c connectorId requestId was
        cases step
        have unfinished : ∀ c' connectorId' requestId',
            d.cancels.get? x ≠ some (.cancelled c' connectorId' requestId') := by
          intro c' connectorId' requestId' done
          rw [was] at done
          cases done
        have aimed : ∀ c' connectorId' requestId',
            (Cancel.cancelled c connectorId requestId).aim? = some (c', connectorId', requestId') →
              (∃ old, d.cancels.get? x = some old ∧
                old.aim? = some (c', connectorId', requestId')) ∨
              ∃ k, d.registry.get? connectorId' = some k ∧ (d.pending k).get? requestId' = some c' :=
          fun _ _ _ aim => Or.inl ⟨_, was, aim⟩
        unfold cancelSent
        split
        · exact .of_cancel rfl rfl unfinished aimed
        · obtain ⟨received, cancels⟩ := received_setResult d c cancelResult
          exact .of_cancel received
            (congrArg (·.insert x (.cancelled c connectorId requestId)) cancels) unfinished aimed
      · cases step
  | cancelFailed x =>
      simp only [Dispatcher.step] at step
      split at step
      · rename_i c connectorId requestId was
        cases step
        refine .of_cancel rfl rfl (fun c' connectorId' requestId' done => ?_)
          fun _ _ _ aim => by cases aim
        rw [was] at done
        cases done
      · cases step

/-! ## Every run -/

/-- A cancel is aimed at the call that bears its connector and its request id. -/
def Aimed (d : Dispatcher) : Prop :=
  ∀ x cancel c connectorId requestId, d.cancels.get? x = some cancel →
    cancel.aim? = some (c, connectorId, requestId) →
      ∃ rq, d.Told c rq ∧ rq.key.connectorId = connectorId ∧ rq.requestId = requestId

theorem Aimed.effect (aimed : Aimed d) (wired : Wired d) (effect : Effect env d d' a)
    (logged : Logged d d') : Aimed d' := by
  intro x cancel c connectorId requestId found is
  rcases logged.aimed x cancel c connectorId requestId found is with
    ⟨old, before, was⟩ | ⟨k, registered, entry⟩
  · obtain ⟨rq, told, same⟩ := aimed x old c connectorId requestId before was
    exact ⟨rq, effect.told_mono told, same⟩
  · obtain ⟨rq, running, rfl, sameId⟩ := wired.entry k requestId c entry
    have home := wired.homed c rq running.told
    rw [wired.registered connectorId rq.conn registered] at home
    exact ⟨rq, effect.told_mono running.told, (Option.some.inj home).symm, sameId⟩

/-- Every object that a call holds or has returned has its origin in a frame of
its session or in a cancel. -/
def Sourced (env : Env) (d : Dispatcher) : Prop :=
  ∀ c call rq r, d.calls.get? c = some call → call.result? = some (rq, r) → Source env d c rq r

theorem Source.logged {c : CallId} {rq : Request} {r : Json} (source : Source env d c rq r)
    (logged : Logged d d') : Source env d' c rq r := by
  cases source with
  | response message received keys requestId connector result =>
      exact .response message (logged.received _ received) keys requestId connector result
  | cancel x cancelled is => exact .cancel x (logged.cancelled _ _ _ _ cancelled) is

/-- What supplies a live call with a result is its origin. -/
theorem Supplies.source (wired : Wired d) (aimed : Aimed d) {c : CallId} {l : Live} {r : Json}
    (live : d.IsLive c l) (supplies : Supplies env d d' a c r) : Source env d' c l.request r := by
  cases supplies with
  | response k message session act here accepted logged =>
      obtain ⟨rq, running, rfl, sameId⟩ := wired.entry _ _ _ accepted.pending
      obtain rfl := running.unique ⟨l, live, rfl⟩
      have home := wired.homed c _ running.told
      unfold connectorOf at home
      rw [here] at home
      refine .response message ?_ accepted.keys sameId.symm ?_ accepted.result
      · rw [logged]
        exact List.mem_append_right _ (List.mem_singleton_self _)
      · exact Option.some.inj home ▸ accepted.connector
  | cancel x connectorId requestId was now is =>
      obtain ⟨rq, told, rfl, rfl⟩ := aimed x _ c connectorId requestId was rfl
      obtain rfl := told.unique live.told
      exact .cancel x now is

theorem Sourced.effect (sourced : Sourced env d) (wired : Wired d) (aimed : Aimed d)
    (effect : Effect env d d' a) (logged : Logged d d') : Sourced env d' := by
  intro c call rq r found is
  have old : d.calls.get? c = some call → Source env d' c rq r := fun before =>
    (sourced c call rq r before is).logged logged
  -- A call whose record is written without a result.
  have inserted : ∀ (c₀ : CallId) (new : Call), d'.calls = d.calls.insert c₀ new →
      (c = c₀ → call = new → Source env d' c rq r) → Source env d' c rq r := by
    intro c₀ new calls written
    rw [calls, Dict.get?_insert] at found
    split at found
    · rename_i same
      exact written same (Option.some.inj found).symm
    · exact old found
  cases effect with
  | idle requests inFlight pending dispatched calls links =>
      rcases calls c with same | ⟨_, e, refused, _⟩
      · exact old (same.symm.trans found)
      · rw [refused] at found
        cases found
        cases is
  | tuned c₀ l l' was tunes requests inFlight pending dispatched calls links result =>
      refine inserted c₀ (.live l') calls fun same written => ?_
      subst same written
      simp only [Call.result?] at is
      split at is
      · rename_i r' future
        cases is
        rw [tunes.request]
        rcases result r future with before | supplies
        · refine (sourced c (.live l) l.request r was ?_).logged logged
          simp only [Call.result?, before]
        · exact supplies.source wired aimed was
      · cases is
  | lost k requests inFlight pending dispatched calls loses =>
      rw [calls] at found
      cases call with
      | live l' =>
          obtain ⟨l, before, same, either, _⟩ := isLive_failPending found
          rcases either with rfl | ⟨_, failed, _⟩
          · exact old before
          · simp only [Call.result?, failed] at is
            cases is
      | settled rq' out => exact old (get?_of_failPending found fun _ live => nomatch live)
      | refused e => cases is
      | answered rq' o => cases is
  | answered c₀ rq₀ came free notNew eq =>
      refine inserted c₀ _ (congrArg Dispatcher.calls eq) fun _ written => ?_
      subst written
      cases is
  | blocked c₀ rq₀ came free new taken eq =>
      refine inserted c₀ _ (congrArg Dispatcher.calls eq) fun _ written => ?_
      subst written
      cases is
  | dispatch c₀ rq₀ inFlight came free new acquired eq =>
      refine inserted c₀ _ (congrArg Dispatcher.calls eq) fun _ written => ?_
      subst written
      cases is
  | settled c₀ l out was interrupted raised returned requests inFlight pending dispatched calls
      links =>
      refine inserted c₀ (.settled l.request out) calls fun same written => ?_
      subst same written
      cases out with
      | returned r' =>
          cases is
          refine (sourced c (.live l) l.request r was ?_).logged logged
          simp only [Call.result?, returned r rfl]
      | unaudited | raised | cancelled => cases is

/-- What holds of the cancels and the results in every run. -/
structure Traced (env : Env) (d : Dispatcher) : Prop where
  aimed : Aimed d
  sourced : Sourced env d

theorem traced_init : Traced env init where
  aimed := fun _ _ _ _ _ found => nomatch found
  sourced := fun _ _ _ _ found => nomatch found

theorem traced_of_reach {allow : Dispatcher → Act → Prop}
    (reached : (dispatcher env).Reach allow d) : Traced env d :=
  reached.invariant traced_init fun before traced _ step =>
    have wired := wired_of_reach before
    have effect := step_effect step
    ⟨traced.aimed.effect wired effect (step_logged step),
      traced.sourced.effect wired traced.aimed effect (step_logged step)⟩

/-! ## Who is given a result by a step -/

/-- A step gives the undone future of call `c` a result. -/
def Given (d d' : Dispatcher) (c : CallId) (r : Json) : Prop :=
  (d.future c).done = false ∧ d'.future c = .result r

theorem isLive_of_result {c : CallId} {r : Json} (is : d.future c = .result r) :
    ∃ l, d.IsLive c l ∧ l.future = .result r := by
  unfold future at is
  split at is
  · rename_i l was
    exact ⟨l, was, is⟩
  · cases is

/-- A result is given by writing the record of the one call that gets it. -/
theorem Effect.given (effect : Effect env d d' a) {c : CallId} {r : Json}
    (given : Given d d' c r) : ∃ l, d'.calls = d.calls.insert c (.live l) := by
  obtain ⟨undone, is⟩ := given
  obtain ⟨l, live, result⟩ := isLive_of_result is
  -- The call had no such result before.
  have fresh : ¬ d.IsLive c l := fun before => by
    rw [future_of_live before, result] at undone
    cases undone
  have other : ∀ (c₀ : CallId) (call : Call), d'.calls = d.calls.insert c₀ call →
      call ≠ .live l → False := by
    intro c₀ call calls ended
    rw [IsLive, calls, Dict.get?_insert] at live
    split at live
    · exact ended (Option.some.inj live)
    · exact fresh live
  cases effect with
  | idle requests inFlight pending dispatched calls links =>
      rcases calls c with same | ⟨_, e, refused, _⟩
      · exact absurd (same.symm.trans live) fresh
      · rw [IsLive, refused] at live
        cases live
  | tuned c₀ l₀ l' was tunes requests inFlight pending dispatched calls links supplies =>
      by_cases same : c = c₀
      · exact ⟨l', same ▸ calls⟩
      · rw [IsLive, calls, Dict.get?_insert_of_ne same] at live
        exact absurd live fresh
  | lost k requests inFlight pending dispatched calls loses =>
      rw [IsLive, calls] at live
      obtain ⟨l₀, before, _, either, _⟩ := isLive_failPending live
      rcases either with rfl | ⟨_, failed, _⟩
      · exact absurd before fresh
      · rw [result] at failed
        cases failed
  | answered c₀ rq₀ came free notNew eq =>
      exact (other c₀ _ (congrArg Dispatcher.calls eq) fun eq => nomatch eq).elim
  | blocked c₀ rq₀ came free new taken eq =>
      exact (other c₀ _ (congrArg Dispatcher.calls eq) fun eq => nomatch eq).elim
  | dispatch c₀ rq₀ inFlight came free new acquired eq =>
      refine (other c₀ _ (congrArg Dispatcher.calls eq) fun eq => ?_).elim
      cases eq
      cases result
  | settled c₀ l₀ out was interrupted raised returned requests inFlight pending dispatched calls
      links => exact (other c₀ _ calls fun eq => nomatch eq).elim

/-- **A step gives at most one call a result.** -/
theorem Effect.given_one (effect : Effect env d d' a) {c₁ c₂ : CallId} {r₁ r₂ : Json}
    (first : Given d d' c₁ r₁) (second : Given d d' c₂ r₂) : c₁ = c₂ := by
  by_contra differ
  obtain ⟨l, calls⟩ := effect.given first
  obtain ⟨undone, is⟩ := second
  have same : d'.future c₂ = d.future c₂ := by
    unfold future
    rw [calls, Dict.get?_insert_of_ne (Ne.symm differ)]
  rw [← same, is] at undone
  cases undone

end Dispatcher

end RemoteAgent
