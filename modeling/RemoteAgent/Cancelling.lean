import RemoteAgent.LateResponses

/-!
# What a cancel reports

`cancel_request` reports a request as cancelled once its frame has been sent, whatever has
become of the request by then.  `cancel_truthful`: the call ends with the cancelled result in
the runs in which it still waits at that moment, and nothing is thrown at its task
afterwards.

* `EndsCancelled.effect`: a call that has been given the cancelled result keeps it.
* `answered_reported_cancelled`: a response that arrives while the cancel frame is being sent
  settles the call, and the cancel is reported all the same.
-/

open Wire Storage Transition

namespace RemoteAgent

namespace Dispatcher

variable {env : Env} {d d' : Dispatcher} {a : Act} {c : CallId}

/-- A call ends with the cancelled result: it has, or it has been given that result and
nothing is thrown at its task. -/
inductive EndsCancelled (d : Dispatcher) (c : CallId) : Prop
  | given (l : Live) (live : d.IsLive c l) (result : l.future = .result cancelResult)
      (undisturbed : l.interrupt = .none)
  | ended (rq : Request) (is : d.calls.get? c = some (.settled rq (.returned cancelResult)))

/-- A call still waits for a result, and nothing has been thrown at its task. -/
def Awaits (d : Dispatcher) (c : CallId) : Prop :=
  ∃ l, d.IsLive c l ∧ l.future.done = false ∧ l.interrupt = .none

/-- A cancel of the call has been reported. -/
def Reported (d : Dispatcher) (c : CallId) : Prop :=
  ∃ x connectorId requestId, d.cancels.get? x = some (.cancelled c connectorId requestId)

/-- Where a cancel frame has been sent, its call still waits, or an earlier cancel has ended
it; and after the report no failure of its send, no expiry and no cancellation of its task hits
the call. -/
def Timely (d : Dispatcher) : Act → Prop
  | .cancelSent x => ∀ c connectorId requestId,
      d.cancels.get? x = some (.sending c connectorId requestId) → d.Awaits c ∨ d.EndsCancelled c
  | .sendFailed c _ | .expire c | .cancelTask c => ¬ d.Reported c
  | _ => True

/-- What is thrown at a call. -/
def disturbs (c : CallId) : Act → Prop
  | .sendFailed c' _ | .expire c' | .cancelTask c' => c' = c
  | _ => False

/-! ## A call with the cancelled result -/

/-- The cancelled result is not too large, and its code can be audited. -/
theorem outcome_cancelResult {l : Live} (result : l.future = .result cancelResult)
    (undisturbed : l.interrupt = .none) : audited env l.outcome = .returned cancelResult := by
  have fits : ¬ cancelResult.dumps.length > resultMaxBytes := by decide +kernel
  have returns : l.outcome = .returned cancelResult := by
    unfold Live.outcome
    rw [undisturbed, result]
    simp only [if_neg fits]
  rw [returns]
  exact if_pos (auditable_cancelResult env)

/-- **A call keeps the cancelled result**, and ends with it, if nothing is thrown at it. -/
theorem EndsCancelled.effect (ends : d.EndsCancelled c) (effect : Effect env d d' a)
    (undisturbed : ¬ disturbs c a) : d'.EndsCancelled c := by
  have same : d'.calls.get? c = d.calls.get? c → d'.EndsCancelled c := by
    intro kept
    cases ends with
    | given l live result quiet => exact .given l (kept.trans live) result quiet
    | ended rq is => exact .ended rq (kept.trans is)
  have taken : ∃ call, d.calls.get? c = some call := by
    cases ends with
    | given l live => exact ⟨_, live⟩
    | ended rq is => exact ⟨_, is⟩
  have fresh : ∀ {c₀ : CallId} {call : Call}, d.calls.get? c₀ = none →
      d'.calls = d.calls.insert c₀ call → d'.EndsCancelled c := by
    intro c₀ call free calls
    refine same ?_
    rw [calls, Dict.get?_insert_of_ne]
    rintro rfl
    obtain ⟨_, found⟩ := taken
    rw [free] at found
    cases found
  cases effect with
  | idle requests inFlight pending dispatched calls links =>
      rcases calls c with kept | ⟨free, _⟩
      · exact same kept
      · obtain ⟨_, found⟩ := taken
        rw [free] at found
        cases found
  | tuned c₀ l₀ l' was tunes requests inFlight pending dispatched calls links =>
      by_cases here : c = c₀
      · subst here
        cases ends with
        | given l live result quiet =>
            obtain rfl : l = l₀ := by
              have both := live.symm.trans was
              cases both
              rfl
            refine .given l' ?_ ?_ ?_
            · rw [IsLive, calls, Dict.get?_insert_self]
            · rw [tunes.future (by rw [result]; rfl), result]
            · rcases tunes.quiet with kept | rfl | rfl
              · exact kept.trans quiet
              · exact absurd rfl undisturbed
              · exact absurd rfl undisturbed
        | ended rq is => cases is.symm.trans was
      · exact same (by rw [calls, Dict.get?_insert_of_ne here])
  | lost k requests inFlight pending dispatched calls loses =>
      refine same ?_
      rw [calls, get?_failPending]
      cases ends with
      | given l live result quiet =>
          rw [live]
          simp only [result, Fut.done, Bool.true_eq_false, and_false, ↓reduceIte]
      | ended rq is => rw [is]
  | answered c₀ rq₀ came free notNew eq => exact fresh free (congrArg Dispatcher.calls eq)
  | blocked c₀ rq₀ came free new taken eq => exact fresh free (congrArg Dispatcher.calls eq)
  | dispatch c₀ rq₀ inFlight came free new acquired eq =>
      exact fresh free (congrArg Dispatcher.calls eq)
  | settled c₀ l₀ out was interrupted raised returned requests inFlight pending dispatched calls
      links ending =>
      by_cases here : c = c₀
      · subst here
        cases ends with
        | given l live result quiet =>
            obtain rfl : l = l₀ := by
              have both := live.symm.trans was
              cases both
              rfl
            rcases ending with rfl | ⟨timedOut, rfl⟩
            · refine .ended l.request ?_
              rw [calls, Dict.get?_insert_self, outcome_cancelResult result quiet]
            · exact absurd rfl undisturbed
        | ended rq is => cases is.symm.trans was
      · exact same (by rw [calls, Dict.get?_insert_of_ne here])

/-- **A call that has been given the cancelled result can run on, and then ends with it.** -/
theorem EndsCancelled.ends (ends : d.EndsCancelled c) :
    ∃ rq, d.calls.get? c = some (.settled rq (.returned cancelResult)) ∨
      ∃ a d', d.step env a = some d' ∧
        d'.calls.get? c = some (.settled rq (.returned cancelResult)) := by
  cases ends with
  | ended rq is => exact ⟨rq, Or.inl is⟩
  | given l live result quiet =>
      have outcome : audited env l.outcome = .returned cancelResult :=
        outcome_cancelResult result quiet
      have live : d.calls.get? c = some (.live l) := live
      refine ⟨l.request, Or.inr ?_⟩
      cases stage : l.stage with
      | waiting =>
          refine ⟨.resume c, d.settle env c l.request l.outcome, ?_, ?_⟩
          · have ready : l.ready = true := by
              unfold Live.ready
              rw [stage, quiet, result]
              rfl
            simp only [Dispatcher.step, live, ready, ↓reduceIte]
          · rw [← outcome]
            exact Dict.get?_insert_self _ _ _
      | sending =>
          refine ⟨.delivered c false, d.delivered env c l false, ?_, ?_⟩
          · simp only [Dispatcher.step, live, stage, quiet, and_self, ↓reduceIte]
          · have done : l.future.done = true := by
              rw [result]
              rfl
            unfold delivered
            simp only [Bool.false_eq_true, ↓reduceIte, done]
            rw [← outcome]
            exact Dict.get?_insert_self _ _ _

/-! ## Reports -/

/-- Where a cancel frame has been sent while its call waits, the call ends with the cancelled
result. -/
theorem cancelSent_ends {x : CancelId} {connectorId requestId : String}
    (was : d.cancels.get? x = some (.sending c connectorId requestId))
    (step : d.step env (.cancelSent x) = some d') (timely : d.Awaits c ∨ d.EndsCancelled c) :
    d'.EndsCancelled c := by
  rcases timely with ⟨l, live, undone, quiet⟩ | ends
  · simp only [Dispatcher.step, was] at step
    obtain rfl := Option.some.inj step
    refine .given { l with future := .result cancelResult } ?_ rfl quiet
    have notDone : ¬ (d.future c).done = true := by
      rw [future_of_live live, undone]
      exact Bool.false_ne_true
    unfold cancelSent
    simp only [if_neg notDone]
    rw [setResult_of_live live]
    exact Dict.get?_insert_self _ _ _
  · exact ends.effect (step_effect step) id

/-- **A cancel that is reported is that of a call which ends so.** -/
def Truthful (d : Dispatcher) : Prop :=
  ∀ x c connectorId requestId, d.cancels.get? x = some (.cancelled c connectorId requestId) →
    d.EndsCancelled c

theorem Truthful.step (truthful : Truthful d) (timely : Timely d a) (step : d.step env a = some d') :
    Truthful d' := by
  intro x c connectorId requestId found
  have old : d.cancels.get? x = some (.cancelled c connectorId requestId) → d'.EndsCancelled c := by
    intro was
    refine (truthful x c connectorId requestId was).effect (step_effect step) fun disturbed => ?_
    have reported : d.Reported c := ⟨x, connectorId, requestId, was⟩
    cases a with
    | sendFailed c' timedOut => exact timely (disturbed ▸ reported)
    | expire c' => exact timely (disturbed ▸ reported)
    | cancelTask c' => exact timely (disturbed ▸ reported)
    | _ => exact disturbed
  rcases step_cancels step with same | ⟨x₀, new, is, written⟩
  · exact old (same ▸ found)
  · rw [is, Dict.get?_insert] at found
    split at found
    · obtain ⟨_, rfl, was⟩ := written c connectorId requestId (Option.some.inj found)
      exact cancelSent_ends was step (timely c connectorId requestId was)
    · exact old found

end Dispatcher

open Dispatcher (Timely)

/-- **Cancels.**  In a run in which a call still waits when its cancel frame has been sent,
and nothing is thrown at it afterwards, a request that is reported as cancelled is that of a
call which has ended with the cancelled result, or will. -/
theorem cancel_truthful (env : Env) {sys : System}
    (reached : (system env).Reach (onActs env Timely) sys) {x : CancelId} {c : CallId}
    {connectorId requestId : String}
    (cancelled : sys.dispatcher.cancels.get? x = some (.cancelled c connectorId requestId)) :
    sys.dispatcher.EndsCancelled c ∧
      (∃ rq, sys.dispatcher.Told c rq ∧ rq.key.connectorId = connectorId ∧
        rq.requestId = requestId) ∧
      ∃ rq, sys.dispatcher.calls.get? c = some (.settled rq (.returned Dispatcher.cancelResult)) ∨
        ∃ a d', sys.dispatcher.step env a = some d' ∧
          d'.calls.get? c = some (.settled rq (.returned Dispatcher.cancelResult)) := by
  have reached := dispatcher_reach reached
  have truthful : sys.dispatcher.Truthful :=
    reached.invariant (I := Dispatcher.Truthful) (by intro x c i r none_; cases none_)
      fun _ truthful timely step => truthful.step timely step
  have ends := truthful x c connectorId requestId cancelled
  exact ⟨ends, (Dispatcher.traced_of_reach reached).aimed x _ c connectorId requestId cancelled rfl,
    ends.ends⟩

/-! ## Runs -/

/-- A check that implies the condition: nothing is thrown at any call. -/
def timely (d : Dispatcher) : Act → Bool
  | .cancelSent x =>
      match d.cancels.get? x with
      | some (.sending c _ _) =>
          match d.calls.get? c with
          | some (.live l) => !l.future.done && decide (l.interrupt = .none)
          | _ => false
      | _ => true
  | .sendFailed _ _ | .expire _ | .cancelTask _ => false
  | _ => true

theorem timely_sound {d : Dispatcher} {a : Act} (checked : timely d a = true) : Timely d a := by
  cases a with
  | cancelSent x =>
      intro c connectorId requestId was
      simp only [timely, was] at checked
      split at checked
      · rename_i l live
        obtain ⟨undone, quiet⟩ := Bool.and_eq_true_iff.mp checked
        exact Or.inl ⟨l, live, by simpa using undone, of_decide_eq_true quiet⟩
      · cases checked
  | sendFailed | expire | cancelTask => cases checked
  | _ => trivial

def isCancelled (d : Dispatcher) (x : CancelId) : Bool :=
  match d.cancels.get? x with
  | some (.cancelled 0 _ _) => true
  | _ => false

/-- A command is cancelled, and its call returns the cancelled result. -/
theorem cancel_truthful_waiting : ∃ sys : System,
    (system Sample.env).Reach Machine.anyStep sys ∧
    (∃ x connectorId requestId,
      sys.dispatcher.cancels.get? x = some (.cancelled 0 connectorId requestId)) ∧
    sys.dispatcher.EndsCancelled 0 := by
  have reached : (system Sample.env).Reach (onActs Sample.env Timely) System.init := .init
  have holds : ((system Sample.env).execIf
      (fun sys e => (sys.act Sample.env e).all (timely sys.dispatcher)) System.init
      (Sample.serving ++ Sample.sent 0 "k-1" false 10 ++
        [.cancel 0 "pc-1" (Sample.uuid 0) (Sample.second 12), .cancelSent 0, .resume 0])).any
      (fun sys : System => isCancelled sys.dispatcher 0) = true := by
    decide +kernel
  obtain ⟨sys, ended, checked⟩ := (Option.any_eq_true _ _).mp holds
  have reached : (system Sample.env).Reach (onActs Sample.env Timely) sys :=
    reached.of_execIf (fun sys e checked a act => timely_sound (by rwa [act] at checked)) ended
  unfold isCancelled at checked
  split at checked
  · rename_i connectorId requestId cancelled
    exact ⟨sys, reached.forget, ⟨0, connectorId, requestId, cancelled⟩,
      (cancel_truthful Sample.env reached cancelled).1⟩
  · cases checked

def cancelledAnswered (d : Dispatcher) : Bool :=
  match d.calls.get? 0, d.cancels.get? 0 with
  | some (.settled rq (.returned r)), some (.cancelled 0 connectorId requestId) =>
      (match r.get? "code" with
        | some (.str code) => decide (code = "ok" ∧ connectorId = rq.key.connectorId ∧
            requestId = rq.requestId)
        | _ => false) &&
      d.audit.any fun event =>
        decide (event.action = "relay.cancel" ∧ event.requestId = rq.requestId)
  | _, _ => false

/-- **A request that was answered is reported as cancelled**: the device's response arrives
while the cancel frame is being sent. -/
theorem answered_reported_cancelled : ∃ (sys : System) (rq : Request) (r : Json),
    (system Sample.env).Reach Machine.anyStep sys ∧
    sys.dispatcher.calls.get? 0 = some (.settled rq (.returned r)) ∧
    r.get? "code" = some (.str "ok") ∧
    sys.dispatcher.cancels.get? 0 = some (.cancelled 0 rq.key.connectorId rq.requestId) ∧
    (∃ event ∈ sys.dispatcher.audit, event.action = "relay.cancel" ∧
      event.requestId = rq.requestId) ∧
    ¬ sys.dispatcher.EndsCancelled 0 := by
  have reached : (system Sample.env).Reach Machine.anyStep System.init := .init
  obtain ⟨sys, reached, holds⟩ := reached.exists_of_exec
    (Sample.serving ++ Sample.sent 0 "k-1" false 10 ++
      [.cancel 0 "pc-1" (Sample.uuid 0) (Sample.second 12),
        .receive 0 (.ok (Sample.responseFrame (Sample.uuid 0))) (Sample.second 12),
        .cancelSent 0, .resume 0])
    (fun sys => cancelledAnswered sys.dispatcher) (by decide +kernel)
  unfold cancelledAnswered at holds
  split at holds
  · rename_i rq r connectorId requestId settled cancelled
    obtain ⟨facts, audited⟩ := Bool.and_eq_true_iff.mp holds
    split at facts
    · rename_i code isCode
      obtain ⟨rfl, rfl, rfl⟩ := of_decide_eq_true facts
      obtain ⟨event, mem, is⟩ := List.any_eq_true.mp audited
      refine ⟨sys, rq, r, reached, settled, isCode, cancelled, ⟨event, mem, of_decide_eq_true is⟩,
        fun ends => ?_⟩
      cases ends with
      | given l live => cases settled.symm.trans live
      | ended rq' is =>
          cases settled.symm.trans is
          have cancelled : Dispatcher.cancelResult.get? "code" = some (.str "cancelled") := rfl
          have both := Json.str.inj (Option.some.inj (isCode.symm.trans cancelled))
          exact absurd both (by decide)
    · cases facts
  · cases holds

end RemoteAgent
