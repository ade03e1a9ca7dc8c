import RemoteAgent.CollisionGuard
import RemoteAgent.Handlers
import RemoteAgent.Sources
import RemoteAgent.Waiters

/-!
# Calls in flight

What holds between the dispatch of a call and its end, in every run.

* `inFlight_exclusive`: `_in_flight` is the set of the collision keys of the running
  calls, of which no two have one key.
* `request_id_on_one_frame`: where no dispatched call bears the request id of an
  earlier frame, a request id is on one frame and a running call owns its `pending`
  entry; `assertion_on_two_frames` is a run in which an assertion is presented twice.
* `response_correlated`: with distinct request ids, a result is the call's own, a frame
  settles at most one call, and a lost session leaves no waiter behind.
-/

open Wire Storage Transition

namespace RemoteAgent

/-! ## Mutual exclusion -/

/-- **No two running calls have one collision key**, and `_in_flight` holds exactly the
keys of the running calls.  A call that is refused leaves the guard as it was. -/
theorem inFlight_exclusive (env : Env) {sys : System}
    (reached : (system env).Reach Machine.anyStep sys) :
    (∀ c c' rq rq' key, sys.dispatcher.Running c rq → sys.dispatcher.Running c' rq' →
      rq.collisionKey env = some key → rq'.collisionKey env = some key → c = c') ∧
    (∀ key, (∃ id, sys.dispatcher.inFlight.get? key = some id) ↔
      ∃ c rq, sys.dispatcher.Running c rq ∧ rq.collisionKey env = some key) ∧
    ((∀ c rq, sys.dispatcher.Running c rq → rq.tool ∉ mutatingRelayTools) →
      ∀ key, sys.dispatcher.inFlight.get? key = none) ∧
    (∀ c, sys.dispatcher.calls.get? c ≠ some (.refused (.agent .commandInFlight))) ∧
    (∀ c rq, sys.dispatcher.calls.get? c = some (.settled rq (.raised .commandInFlight)) →
      rq.tool ∈ mutatingRelayTools) ∧
    ∀ e sys' c rq, sys.step env e = some sys' →
      sys.dispatcher.calls.get? c ≠ some (.settled rq (.raised .commandInFlight)) →
      sys'.dispatcher.calls.get? c = some (.settled rq (.raised .commandInFlight)) →
        sys'.dispatcher.inFlight = sys.dispatcher.inFlight ∧
        ∃ key c' rq', rq.collisionKey env = some key ∧ rq'.collisionKey env = some key ∧
          sys.dispatcher.Running c' rq' ∧
          sys'.dispatcher.inFlight.get? key = some rq'.requestId := by
  have runs := (system_simulates env).reach_any reached
  have guarded := Dispatcher.guarded_of_reach runs
  have held : ∀ key, (∃ id, sys.dispatcher.inFlight.get? key = some id) ↔
      ∃ c rq, sys.dispatcher.Running c rq ∧ rq.collisionKey env = some key := by
    intro key
    constructor
    · rintro ⟨id, found⟩
      exact guarded.holder key id found
    · rintro ⟨c, rq, running, isKey⟩
      exact ⟨rq.requestId, guarded.held c rq key running isKey⟩
  refine ⟨guarded.one, held, fun none_ key => ?_, ?_, Dispatcher.refusals_of_reach runs,
    fun e sys' c rq stepped before now => ?_⟩
  · by_contra some_
    obtain ⟨c, rq, running, isKey⟩ := (held key).mp (Option.ne_none_iff_exists'.mp some_)
    exact none_ c rq running (Dispatcher.mutating_of_collisionKey isKey)
  · have late : (dispatcher env).Reach (fun _ a => ∀ c, a ≠ .refuse c (.agent .commandInFlight))
        sys.dispatcher := dispatcher_reach (reached.mono fun _ _ a act c same => by
      subst same
      exact System.act_refuse act rfl)
    exact Dispatcher.late_of_reach late
  · have moved := (system_simulates env).step stepped
    cases act : sys.act env e with
    | none =>
        simp only [act] at moved
        exact absurd (moved ▸ now) before
    | some a =>
        simp only [act] at moved
        rcases (Dispatcher.step_effect moved).refused_cases now with same | ⟨same, key, id, isKey, found⟩
        · exact absurd same before
        · obtain ⟨c', rq', running, isKey'⟩ := guarded.holder key id found
          exact ⟨same, key, c', rq', isKey, isKey', running,
            (congrArg (·.get? key) same).trans (guarded.held c' rq' key running isKey')⟩

def isRefusedInFlight (d : Dispatcher) (c : CallId) : Bool :=
  match d.calls.get? c with
  | some (.settled _ (.raised .commandInFlight)) => true
  | _ => false

/-- While the command is in flight the same command under another key is refused. -/
theorem inFlight_exclusive_refused :
    ∃ (sys : System) (rq : Request),
      sys.dispatcher.calls.get? 1 = some (.settled rq (.raised .commandInFlight)) ∧
      rq.tool ∈ mutatingRelayTools := by
  have reached : (system Sample.env).Reach Machine.anyStep System.init := .init
  obtain ⟨sys, reached, holds⟩ := reached.exists_of_exec
    (Sample.serving ++ Sample.sent 0 "k-1" false 10 ++
      [.command 1 (Sample.command "k-2" false) (Sample.uuid 1) (Sample.second 11)])
    (fun sys => isRefusedInFlight sys.dispatcher 1) (by decide +kernel)
  unfold isRefusedInFlight at holds
  split at holds
  · rename_i rq found
    exact ⟨sys, rq, found, (inFlight_exclusive Sample.env reached).2.2.2.2.1 1 rq found⟩
  · cases holds

/-! ## One frame and one waiter -/

/-- **A request id is on one frame, and a running call owns its entry** in the
`pending` map of its session, until that session is lost; where none is lost while
calls wait on it, without exception. -/
theorem request_id_on_one_frame (env : Env) {sys : System}
    (reached : (system env).Reach (onActs env (Dispatcher.FreshDispatch env)) sys) :
    (sys.dispatcher.dispatched.map Request.requestId).Nodup ∧
    (∀ k id c, (sys.dispatcher.pending k).get? id = some c →
      ∃ rq, sys.dispatcher.Running c rq ∧ rq.conn = k ∧ rq.requestId = id) ∧
    (∀ c l, sys.dispatcher.IsLive c l →
      (sys.dispatcher.pending l.request.conn).get? l.request.requestId = some c ∨
        (l.future.done = true ∧
          sys.dispatcher.registry.get? l.request.key.connectorId ≠ some l.request.conn)) ∧
    ((system env).Reach (onActs env fun d a =>
        Dispatcher.FreshDispatch env d a ∧ Dispatcher.SparesWaiters d a) sys →
      ∀ c rq, sys.dispatcher.Running c rq →
        (sys.dispatcher.pending rq.conn).get? rq.requestId = some c) := by
  have runs := dispatcher_reach reached
  have waiters := Dispatcher.waiters_of_reach runs
  exact ⟨waiters.once, (Dispatcher.wired_of_reach runs).entry, waiters.own,
    fun spared => Dispatcher.owning_of_reach (dispatcher_reach spared)⟩

theorem Dispatcher.running_of_isLive {d : Dispatcher} {c : CallId} (live : d.isLive c = true) :
    ∃ rq, d.Running c rq := by
  unfold Dispatcher.isLive at live
  split at live
  · rename_i l isLive
    exact ⟨l.request, l, isLive, rfl⟩
  · cases live

/-- A signed command and another one are in flight, and each owns its entry. -/
theorem request_id_on_one_frame_waiting :
    ∃ (sys : System) (rq rq' : Request), sys.dispatcher.Running 0 rq ∧
      sys.dispatcher.Running 1 rq' ∧
      (sys.dispatcher.dispatched.map Request.requestId).Nodup ∧
      (sys.dispatcher.pending rq.conn).get? rq.requestId = some 0 ∧
      (sys.dispatcher.pending rq'.conn).get? rq'.requestId = some 1 := by
  have reached : (system Sample.env).Reach (onActs Sample.env fun d a =>
      Dispatcher.FreshDispatch Sample.env d a ∧ Dispatcher.JoinsFree d a) System.init := .init
  obtain ⟨sys, reached, holds⟩ := reached.exists_of_execIf
    (Sample.serving ++ Sample.sent 0 "k-1" true 10 ++
      [.command 1 (Sample.otherCommand "k-2") (Sample.uuid 1) (Sample.second 11),
        .delivered 1 false])
    (fun sys => sys.dispatcher.isLive 0 && sys.dispatcher.isLive 1) (by decide +kernel)
  obtain ⟨first, second⟩ := Bool.and_eq_true_iff.mp holds
  obtain ⟨rq, running⟩ := Dispatcher.running_of_isLive first
  obtain ⟨rq', running'⟩ := Dispatcher.running_of_isLive second
  have both := request_id_on_one_frame Sample.env
    (reached.mono fun _ allowed a act => (allowed a act).1)
  have own := both.2.2.2 (reached.mono fun _ allowed a act =>
    ⟨(allowed a act).1, (allowed a act).2.spares⟩)
  exact ⟨sys, rq, rq', running, running', both.1, own 0 rq running, own 1 rq' running'⟩

/-- **An assertion presented under another key is on a second frame.** -/
theorem assertion_on_two_frames :
    ¬ ∀ sys : System, (system Sample.env).Reach Machine.anyStep sys →
      (sys.dispatcher.dispatched.map Request.requestId).Nodup ∧
        ∀ c rq, sys.dispatcher.Running c rq →
          (sys.dispatcher.pending rq.conn).get? rq.requestId = some c := by
  intro one
  have reached : (system Sample.env).Reach Machine.anyStep System.init := .init
  obtain ⟨sys, reached, twice⟩ := reached.exists_of_exec
    (Sample.serving ++ Sample.answered 0 "k-1" true 10 ++ Sample.sent 1 "k-2" true 20)
    (fun sys => !decide (sys.dispatcher.dispatched.map Request.requestId).Nodup)
    (by decide +kernel)
  have nodup := (one sys reached).1
  simp only [nodup, decide_true, Bool.not_true, Bool.false_eq_true] at twice

/-! ## Responses and lost sessions -/

/-- **Responses are correlated, and no waiter is lost.**  Where the calls that reach
`claim_request` bear distinct request ids: a returned object is the call's own, a step
gives one call a result, and a session that leaves the registry fails the calls that
wait on it, keeps no entry and is given no call again. -/
theorem response_correlated (env : Env) {sys : System}
    (reached : (system env).Reach (onActs env (Dispatcher.DistinctIds env)) sys) :
    (∀ c rq r, sys.dispatcher.calls.get? c = some (.settled rq (.returned r)) →
      Dispatcher.Source env sys.dispatcher c rq r) ∧
    (∀ e sys' c₁ c₂ r₁ r₂, sys.step env e = some sys' →
      Dispatcher.Given sys.dispatcher sys'.dispatcher c₁ r₁ →
      Dispatcher.Given sys.dispatcher sys'.dispatcher c₂ r₂ → c₁ = c₂) ∧
    (∀ e sys' k connectorId, sys.step env e = some sys' →
      sys.dispatcher.registry.get? connectorId = some k →
      sys'.dispatcher.registry.get? connectorId ≠ some k →
        ∀ c l, sys.dispatcher.IsLive c l → l.request.conn = k → l.future.done = false →
          sys'.dispatcher.IsLive c { l with future := .failed }) ∧
    ∀ k connectorId, sys.dispatcher.connectorOf k = some connectorId →
      sys.dispatcher.registry.get? connectorId ≠ some k →
        (∀ id, (sys.dispatcher.pending k).get? id = none) ∧
        (∀ c l, sys.dispatcher.IsLive c l → l.request.conn = k → l.future.done = true) ∧
        ∀ e sys', sys.step env e = some sys' →
          sys'.dispatcher.registry.get? connectorId ≠ some k ∧
          ∀ c rq, sys'.dispatcher.Running c rq → rq.conn = k → sys.dispatcher.Running c rq := by
  have runs := dispatcher_reach reached
  have wired := Dispatcher.wired_of_reach runs
  have waiters := Dispatcher.waiters_of_reach
    (runs.mono fun before distinct => distinct.freshDispatch before)
  -- A step is an effect of the dispatcher, or leaves it alone.
  have effect : ∀ {e sys'}, sys.step env e = some sys' →
      sys'.dispatcher = sys.dispatcher ∨
        ∃ a, Dispatcher.Effect env sys.dispatcher sys'.dispatcher a := by
    intro e sys' stepped
    have moved := (system_simulates env).step stepped
    split at moved
    · exact Or.inr ⟨_, Dispatcher.step_effect moved⟩
    · exact Or.inl moved
  refine ⟨fun c rq r found => ?_, fun e sys' c₁ c₂ r₁ r₂ stepped first second => ?_,
    fun e sys' k connectorId stepped was gone c l live here undone => ?_,
    fun k connectorId has gone => ⟨wired.emptied k connectorId has gone, fun c l live here => ?_,
      fun e sys' stepped => ?_⟩⟩
  · exact (Dispatcher.traced_of_reach runs).sourced c _ rq r found rfl
  · rcases effect stepped with same | ⟨a, moved⟩
    · rw [same] at first
      rw [Dispatcher.Given, first.2] at first
      exact absurd first.1 fun done => nomatch done
    · exact moved.given_one first second
  · rcases effect stepped with same | ⟨a, moved⟩
    · exact absurd (same ▸ was) gone
    · obtain ⟨_, calls⟩ := moved.unregistered was gone
      have mine : (sys.dispatcher.pending k).get? l.request.requestId = some c := by
        rcases waiters.own c l live with mine | ⟨done, _⟩
        · exact here ▸ mine
        · rw [undone] at done
          cases done
      rw [Dispatcher.IsLive, calls, Dispatcher.get?_failPending,
        show sys.dispatcher.calls.get? c = some (.live l) from live]
      simp only [mine, undone, and_self, ↓reduceIte]
  · rcases waiters.own c l live with mine | ⟨done, _⟩
    · rw [here, wired.emptied k connectorId has gone] at mine
      cases mine
    · exact done
  · rcases effect stepped with same | ⟨a, moved⟩
    · rw [same]
      exact ⟨gone, fun c rq running _ => running⟩
    · refine ⟨moved.unregistered_mono has gone, fun c rq now here => ?_⟩
      rcases moved.running with ⟨_, _, _, running⟩ | ⟨c₀, rq₀, came, _, _, _, _, _, running⟩ |
        ⟨c₀, rq₀, _, _, _, _, running⟩
      · exact (running c rq).mp now
      · rcases (running c rq).mp now with before | ⟨_, rfl⟩
        · exact before
        · -- A call is dispatched on the session that the registry holds.
          obtain ⟨registered, _⟩ := Dispatcher.incoming_registered came
          have home := wired.registered _ _ registered
          rw [here, has] at home
          rw [here, ← Option.some.inj home] at registered
          exact absurd registered gone
      · exact ((running c rq).mp now).1

/-- A run in which no call claims under a request id of an earlier claim; `ids` are those
of the claims so far. -/
def System.execDistinct (env : Env) : List String → System → List Event → Option System
  | _, sys, [] => some sys
  | ids, sys, e :: es =>
      match (sys.act env e).bind (sys.dispatcher.incoming env) with
      | none => (sys.step env e).bind fun sys => execDistinct env ids sys es
      | some (_, rq) =>
          if rq.requestId ∈ ids then none
          else (sys.step env e).bind fun sys => execDistinct env (rq.requestId :: ids) sys es

theorem System.claimedAmong_step {env : Env} {sys sys' : System} {e : Event}
    {ids ids' : List String}
    (among : sys.dispatcher.ClaimedAmong ids) (kept : ∀ id ∈ ids, id ∈ ids')
    (inside : ∀ c rq, (sys.act env e).bind (sys.dispatcher.incoming env) = some (c, rq) →
      rq.requestId ∈ ids')
    (stepped : sys.step env e = some sys') : sys'.dispatcher.ClaimedAmong ids' := by
  have moved := (system_simulates env).step stepped
  split at moved
  · rename_i a act
    refine among.step kept (fun c rq came => inside c rq ?_) moved
    rw [act, Option.bind_some, came]
  · rw [moved]
    exact fun c call rq o found claimed => kept _ (among c call rq o found claimed)

theorem System.reach_of_execDistinct {env : Env} {ids : List String} {sys sys' : System}
    {es : List Event} (reached : (system env).Reach (onActs env (Dispatcher.DistinctIds env)) sys)
    (among : sys.dispatcher.ClaimedAmong ids) (run : sys.execDistinct env ids es = some sys') :
    (system env).Reach (onActs env (Dispatcher.DistinctIds env)) sys' := by
  induction es generalizing ids sys with
  | nil =>
      cases run
      exact reached
  | cons e es ih =>
      unfold execDistinct at run
      split at run
      · rename_i none_
        obtain ⟨t, stepped, rest⟩ := Option.bind_eq_some_iff.mp run
        refine ih (.step reached (fun a act => among.distinct fun c rq came => ?_) stepped)
          (claimedAmong_step among (fun _ mem => mem) (fun c rq came => ?_) stepped) rest
        · rw [act, Option.bind_some, came] at none_
          cases none_
        · cases none_.symm.trans came
      · rename_i c₀ rq₀ claims
        split at run
        · cases run
        · rename_i outside
          obtain ⟨t, stepped, rest⟩ := Option.bind_eq_some_iff.mp run
          refine ih (.step reached (fun a act => among.distinct fun c rq came => ?_) stepped)
            (claimedAmong_step among (fun _ mem => List.mem_cons_of_mem _ mem)
              (fun c rq came => ?_) stepped) rest
          · rw [act, Option.bind_some, came] at claims
            cases claims
            exact outside
          · cases claims.symm.trans came
            exact List.mem_cons_self

/-- The exit code of the object that a call has returned. -/
def Dispatcher.exitCode? (d : Dispatcher) (c : CallId) : Option Int :=
  match d.calls.get? c with
  | some (.settled _ (.returned r)) =>
      match r.get? "exit_code" with
      | some (.int code) => some code
      | _ => none
  | _ => none

theorem Dispatcher.returned_of_exitCode? {d : Dispatcher} {c : CallId} {code : Int}
    (exits : d.exitCode? c = some code) :
    ∃ rq r, d.calls.get? c = some (.settled rq (.returned r)) ∧
      r.get? "exit_code" = some (.int code) := by
  unfold Dispatcher.exitCode? at exits
  split at exits
  · rename_i rq r found
    split at exits
    · rename_i code' is
      cases exits
      exact ⟨rq, r, found, is⟩
    · cases exits
  · cases exits

/-- Two commands are in flight, the second is answered first, and each has returned what the
device sent for it. -/
theorem response_correlated_answered :
    ∃ (sys : System) (rq rq' : Request) (r r' : Json),
      sys.dispatcher.calls.get? 0 = some (.settled rq (.returned r)) ∧
      sys.dispatcher.calls.get? 1 = some (.settled rq' (.returned r')) ∧
      r.get? "exit_code" = some (.int 0) ∧ r'.get? "exit_code" = some (.int 1) ∧
      Dispatcher.Source Sample.env sys.dispatcher 0 rq r ∧
      Dispatcher.Source Sample.env sys.dispatcher 1 rq' r' := by
  have holds : (System.execDistinct Sample.env [] System.init (Sample.serving ++
      Sample.sent 0 "k-1" false 10 ++
      [.command 1 (Sample.otherCommand "k-2") (Sample.uuid 1) (Sample.second 11),
        .delivered 1 false,
        .receive 0 (.ok (Sample.exitFrame (Sample.uuid 1) 1)) (Sample.second 12),
        .receive 0 (.ok (Sample.exitFrame (Sample.uuid 0) 0)) (Sample.second 13),
        .resume 0, .resume 1])).any (fun sys =>
          decide (sys.dispatcher.exitCode? 0 = some 0 ∧ sys.dispatcher.exitCode? 1 = some 1)) = true := by
    decide +kernel
  obtain ⟨sys, run, holds⟩ := (Option.any_eq_true _ _).mp holds
  obtain ⟨first, second⟩ := of_decide_eq_true holds
  obtain ⟨rq, r, found, exits⟩ := Dispatcher.returned_of_exitCode? first
  obtain ⟨rq', r', found', exits'⟩ := Dispatcher.returned_of_exitCode? second
  have correlated := response_correlated Sample.env
    (System.reach_of_execDistinct .init Dispatcher.claimedAmong_init run)
  exact ⟨sys, rq, rq', r, r', found, found', exits, exits', correlated.1 0 rq r found,
    correlated.1 1 rq' r' found'⟩

end RemoteAgent
