import RemoteAgent.CollisionGuard
import RemoteAgent.Lib.Progress
import RemoteAgent.Teardown

/-!
# Winding the connector down

A connection that is open and a call that runs can always be brought to their end by
sockets that close, sends that complete and timers that fire.

* `idle_holds_nothing`: where nothing goes on, `_in_flight`, every `pending` map and the
  registry are empty.
* `winds_down`: from every reachable state such events lead to one where nothing goes on,
  without a further frame.
-/

open Wire Storage Transition

namespace RemoteAgent

/-! ## Stages and interrupts -/

namespace Dispatcher

variable {env : Env} {d d' : Dispatcher} {a : Act} {c : CallId}

/-- Where the stage and the interrupt of a call that is live after a step come from. -/
def StageFrom (d : Dispatcher) (c : CallId) (l' : Live) : Prop :=
  (∃ l, d.IsLive c l ∧ l'.interrupt = l.interrupt ∧ l'.stage = l.stage) ∨
    l'.interrupt ≠ .timeout ∨ l'.stage = .waiting

theorem StageFrom.inserted {l' : Live} (live : d'.IsLive c l') {c₀ : CallId} {call : Call}
    (calls : d'.calls = d.calls.insert c₀ call) (own : ∀ l, call = .live l → d.StageFrom c₀ l) :
    d.StageFrom c l' := by
  unfold IsLive at live
  rw [calls, Dict.get?_insert] at live
  split at live
  · rename_i same
    subst same
    exact own l' (Option.some.inj live)
  · exact Or.inl ⟨l', live, rfl, rfl⟩

/-- A call whose record is written is no longer live. -/
theorem StageFrom.ended {l' : Live} (live : d'.IsLive c l') {c₀ : CallId} {call : Call}
    (calls : d'.calls = d.calls.insert c₀ call) (ends : ∀ l, call ≠ .live l) :
    d.StageFrom c l' := .inserted live calls fun l is => absurd is (ends l)

theorem StageFrom.kept {l' : Live} (live : d'.IsLive c l') (calls : d'.calls = d.calls) :
    d.StageFrom c l' := by
  unfold IsLive at live
  rw [calls] at live
  exact Or.inl ⟨l', live, rfl, rfl⟩

theorem StageFrom.failed {l' : Live} (live : d'.IsLive c l') {k : ConnId}
    (calls : d'.calls = (d.failPending k).calls) : d.StageFrom c l' := by
  have live : (d.failPending k).IsLive c l' := by
    unfold IsLive at live ⊢
    rwa [calls] at live
  unfold IsLive at live
  rw [get?_failPending] at live
  cases was : d.calls.get? c with
  | none => rw [was] at live; cases live
  | some call =>
      rw [was] at live
      cases call with
      | live l =>
          simp only at live
          split at live <;> cases live
          · exact Or.inl ⟨l, was, rfl, rfl⟩
          · exact Or.inl ⟨_, was, rfl, rfl⟩
      | refused e => cases live
      | answered rq o => cases live
      | settled rq out => cases live

theorem StageFrom.setResult {l' : Live} (live : d'.IsLive c l') {c₀ : CallId} {r : Json}
    (calls : d'.calls = (d.setResult c₀ r).calls) : d.StageFrom c l' := by
  unfold Dispatcher.setResult at calls
  split at calls
  · rename_i l was
    exact .inserted live calls fun l₁ is => by cases is; exact Or.inl ⟨l, was, rfl, rfl⟩
  · exact .kept live calls

/-- **A step changes the stage of a call to `waiting` only, and interrupts with a timeout
only a call that waits.** -/
theorem step_stage (step : d.step env a = some d') {l' : Live} (live : d'.IsLive c l') :
    d.StageFrom c l' := by
  cases a with
  | refuse c₀ e =>
      simp only [Dispatcher.step] at step
      split at step
      · cases step
      · cases step
        exact .ended live rfl fun l is => by cases is
  | command c₀ connectorId input row uuid now =>
      simp only [Dispatcher.step] at step
      split at step
      · cases step
      · cases step
        unfold deviceCommand at live
        split at live
        · exact .ended live rfl fun l is => by cases is
        · unfold claimAndSend at live
          simp only at live
          split at live
          · split at live
            · exact .ended live rfl fun l is => by cases is
            · refine .inserted live rfl fun l is => ?_
              cases is
              exact Or.inr (Or.inl fun timeout => by cases timeout)
          · exact .ended live rfl fun l is => by cases is
  | delivered c₀ slow =>
      simp only [Dispatcher.step] at step
      split at step
      · rename_i l was
        split at step
        · cases step
          unfold delivered at live
          cases slow <;> simp only [Bool.false_eq_true, ↓reduceIte] at live <;> split at live
          · exact .ended live rfl fun l is => by cases is
          · exact .inserted live rfl fun l is => by cases is; exact Or.inr (Or.inr rfl)
          · exact .ended live rfl fun l is => by cases is
          · exact .inserted live rfl fun l is => by cases is; exact Or.inr (Or.inr rfl)
        · cases step
      · cases step
  | sendFailed c₀ timedOut =>
      simp only [Dispatcher.step] at step
      split at step
      · split at step
        · cases step
          exact .ended live rfl fun l is => by cases is
        · cases step
      · cases step
  | expire c₀ =>
      simp only [Dispatcher.step] at step
      split at step
      · split at step
        · rename_i waits
          cases step
          exact .inserted live rfl fun l is => by cases is; exact Or.inr (Or.inr waits.1)
        · cases step
      · cases step
  | cancelTask c₀ =>
      simp only [Dispatcher.step] at step
      split at step
      · cases step
        refine .inserted live rfl fun l is => ?_
        cases is
        exact Or.inr (Or.inl fun timeout => by cases timeout)
      · cases step
  | resume c₀ =>
      simp only [Dispatcher.step] at step
      split at step
      · split at step
        · cases step
          exact .ended live rfl fun l is => by cases is
        · cases step
      · cases step
  | respond k message =>
      simp only [Dispatcher.step] at step
      split at step
      · cases step
      · split at step
        · cases step
        · cases step
          exact .setResult live rfl
  | register k session =>
      simp only [Dispatcher.step] at step
      split at step
      · cases step
      · cases step
        unfold register at live
        split at live
        · exact .failed live rfl
        · exact .kept live rfl
  | remove k =>
      simp only [Dispatcher.step] at step
      split at step
      · cases step
      · cases step
        exact .failed live rfl
  | beat k contextEpoch =>
      simp only [Dispatcher.step] at step
      split at step
      · cases step
      · cases step
        exact .kept live rfl
  | refuseCancel x e =>
      simp only [Dispatcher.step] at step
      split at step
      · cases step
      · cases step
        exact .kept live rfl
  | cancelRequest x connectorId requestId row =>
      simp only [Dispatcher.step] at step
      split at step
      · cases step
      · cases step
        refine .kept live ?_
        unfold cancelRequest
        split
        · rfl
        · split
          · rfl
          · split <;> rfl
  | cancelSent x =>
      simp only [Dispatcher.step] at step
      split at step
      · cases step
        unfold cancelSent at live
        split at live
        · exact .kept live rfl
        · exact .setResult live rfl
      · cases step
  | cancelFailed x =>
      simp only [Dispatcher.step] at step
      split at step
      · cases step
        exact .kept live rfl
      · cases step

/-- The timer of `wait_for` fires for a call that waits only. -/
def Staged (d : Dispatcher) : Prop :=
  ∀ c l, d.IsLive c l → l.interrupt = .timeout → l.stage = .waiting

theorem staged_of_reach {allow : Dispatcher → Act → Prop}
    (reached : (dispatcher env).Reach allow d) : Staged d :=
  reached.invariant (fun _ _ live => nomatch live) fun _ staged _ step c l' live timeout => by
    rcases step_stage step live with ⟨l, was, interrupt, stage⟩ | other | waits
    · exact stage.trans (staged c l was (interrupt.symm.trans timeout))
    · exact absurd timeout other
    · exact waits

end Dispatcher

/-! ## What goes on -/

/-- Something that goes on: the handler of a connection, or a call. -/
inductive Activity where
  | handler (k : ConnId)
  | call (c : CallId)

/-- The events that bring what goes on to its end: a socket closes, a send completes, a
timer fires, a task runs on. -/
def Event.winds : Event → Bool
  | .finish _ _ | .disconnect _ _ | .delivered _ false | .expire _ | .resume _ => true
  | _ => false

namespace System

variable {env : Env} {sys sys' : System} {e : Event}

/-- A handler has begun and not finished; a call is inside its `try` block. -/
def Busy (sys : System) : Activity → Prop
  | .handler k => ∃ phase, sys.phases.get? k = some phase ∧ phase ≠ .finished
  | .call c => ∃ rq, sys.dispatcher.Running c rq

/-- Nothing goes on. -/
def Idle (sys : System) : Prop := ∀ x, ¬ Busy sys x

/-- The maps that hold on to calls and sessions are empty. -/
structure HoldsNothing (sys : System) : Prop where
  inFlight : ∀ key, sys.dispatcher.inFlight.get? key = none
  pending : ∀ k id, (sys.dispatcher.pending k).get? id = none
  registry : ∀ connectorId, sys.dispatcher.registry.get? connectorId = none

/-! ### The registry holds open connections -/

/-- A handler that has finished is not in the registry. -/
def Unregistered (sys : System) : Prop :=
  ∀ k, sys.phases.get? k = some .finished →
    ∀ connectorId, sys.dispatcher.registry.get? connectorId ≠ some k

/-- A connection that was not in the registry comes into it by an event of its own. -/
theorem registered_kept {k : ConnId} (stepped : sys.step env e = some sys')
    (other : e.conn? ≠ some k) {connectorId : String}
    (found : sys'.dispatcher.registry.get? connectorId = some k) :
    sys.dispatcher.registry.get? connectorId = some k := by
  obtain ⟨plan, planned, _, _, next⟩ := step_plan stepped
  cases act : plan.act with
  | none =>
      rw [act] at next
      exact next ▸ found
  | some a =>
      rw [act] at next
      rcases (Dispatcher.step_effect next).registered_cases found with old | ⟨session, joins, _⟩
      · exact old
      · have joined : sys'.dispatcher.sessions.get? k = some session := by
          rw [joins.sessions, Dict.get?_insert_self]
        rcases (Dispatcher.step_sessions next).cases joined with ⟨_, was, _⟩ | ⟨rfl, _⟩
        · rw [joins.free] at was
          cases was
        · exact absurd (act_conn (Option.bind_eq_some_iff.mpr ⟨plan, planned, act⟩)).symm other

theorem Unregistered.step (reached : (system env).Reach Machine.anyStep sys)
    (unregistered : Unregistered sys) (stepped : sys.step env e = some sys') :
    Unregistered sys' := by
  have linked := linked_of_reach reached
  have wired := Dispatcher.wired_of_reach ((system_simulates env).reach_any reached)
  intro k finished' connectorId found
  by_cases was : sys.phases.get? k = some .finished
  · refine unregistered k was connectorId (registered_kept stepped (fun own => ?_) found)
    obtain ⟨plan, planned, _⟩ := step_plan stepped
    rw [finished_over was own] at planned
    cases planned
  · have finishes : Finishes sys sys' k := ⟨fun phase here is => was (is ▸ here), finished'⟩
    obtain ⟨own, _⟩ := finishes.moves linked stepped
    obtain ⟨plan, planned, _, phases, next⟩ := step_plan stepped
    cases plan_ends planned own with
    | refused absent is =>
        rw [is] at next
        have same : sys'.dispatcher = sys.dispatcher := next
        exact (gone_of_reach (.step reached trivial stepped)
          (same ▸ linked.absent absent)).unregistered connectorId found
    | goesOn performs act phase => exact was (phase (phases ▸ finished'))
    | torn store now performs is =>
        cases here : sys.dispatcher.sessions.get? k with
        | none =>
            have act : plan.act = none := by
              rw [is]
              unfold teardown
              rw [here]
            rw [act] at next
            have same : sys'.dispatcher = sys.dispatcher := next
            exact (gone_of_reach (.step reached trivial stepped) (same ▸ here)).unregistered
              connectorId found
        | some session =>
            have act : plan.act = some (.remove k) := by
              rw [is]
              unfold teardown
              rw [here]
            rw [act] at next
            exact remove_unregistered wired next connectorId found

theorem unregistered_of_reach (reached : (system env).Reach Machine.anyStep sys) :
    Unregistered sys :=
  reached.invariant (fun _ finished => nomatch finished)
    fun before unregistered _ stepped => unregistered.step before stepped

/-- **Where nothing goes on, nothing is held.** -/
theorem idle_holds_nothing (reached : (system env).Reach Machine.anyStep sys) (idle : Idle sys) :
    HoldsNothing sys := by
  have runs := (system_simulates env).reach_any reached
  have wired := Dispatcher.wired_of_reach runs
  have isOver : ∀ c rq, ¬ sys.dispatcher.Running c rq := fun c rq running =>
    idle (.call c) ⟨rq, running⟩
  constructor
  · intro key
    by_contra held
    obtain ⟨id, found⟩ := Option.ne_none_iff_exists'.mp held
    obtain ⟨c, rq, running, _⟩ := (Dispatcher.guarded_of_reach runs).holder key id found
    exact isOver c rq running
  · intro k id
    by_contra held
    obtain ⟨c, found⟩ := Option.ne_none_iff_exists'.mp held
    obtain ⟨rq, running, _⟩ := wired.entry k id c found
    exact isOver c rq running
  · intro connectorId
    by_contra held
    obtain ⟨k, found⟩ := Option.ne_none_iff_exists'.mp held
    have connector := wired.registered connectorId k found
    have fits := linked_of_reach reached k
    cases here : sys.phases.get? k with
    | none =>
        rw [here, connector] at fits
        cases fits
    | some phase =>
        have finished : phase = .finished := by
          by_contra running
          exact idle (.handler k) ⟨phase, here, running⟩
        exact unregistered_of_reach reached k (finished ▸ here) connectorId found

/-! ### Events that wind down -/

/-- The act of an event that winds down. -/
theorem winds_act (winds : e.winds = true) {a : Act} (act : sys.act env e = some a) :
    (∃ k, a = .remove k) ∨ (∃ c, a = .delivered c false) ∨ (∃ c, a = .expire c) ∨
      ∃ c, a = .resume c := by
  obtain ⟨plan, planned, act⟩ := Option.bind_eq_some_iff.mp act
  have torn : ∀ {closing : Bool} {k : ConnId} {now : Int},
      sys.ends env k closing now = some plan → ∃ k, a = .remove k := by
    intro closing k now planned
    rw [ends_teardown planned] at act
    unfold teardown at act
    split at act
    · cases act
    · cases act
      exact ⟨k, rfl⟩
  cases e with
  | finish k now => exact Or.inl (torn planned)
  | disconnect k now => exact Or.inl (torn planned)
  | delivered c slow =>
      cases slow with
      | true => cases winds
      | false =>
          cases planned
          cases act
          exact Or.inr (Or.inl ⟨c, rfl⟩)
  | expire c =>
      cases planned
      cases act
      exact Or.inr (Or.inr (Or.inl ⟨c, rfl⟩))
  | resume c =>
      cases planned
      cases act
      exact Or.inr (Or.inr (Or.inr ⟨c, rfl⟩))
  | _ => cases winds

/-- Such an event moves no handler but to its end. -/
theorem winds_phases (winds : e.winds = true) (stepped : sys.step env e = some sys') (k : ConnId) :
    sys'.phases.get? k = sys.phases.get? k ∨ sys'.phases.get? k = some .finished := by
  obtain ⟨plan, planned, _, phases, _⟩ := step_plan stepped
  rw [phases]
  have torn : ∀ {closing : Bool} {k₀ : ConnId} {now : Int},
      sys.ends env k₀ closing now = some plan →
      plan.phases.get? k = sys.phases.get? k ∨ plan.phases.get? k = some .finished := by
    intro closing k₀ now planned
    have moved : plan.phases = sys.phases.insert k₀ .finished := by
      rw [ends_teardown planned]
      unfold teardown
      split <;> rfl
    rw [moved, Dict.get?_insert]
    split
    · exact Or.inr rfl
    · exact Or.inl rfl
  cases e with
  | finish k₀ now => exact torn planned
  | disconnect k₀ now => exact torn planned
  | delivered c slow =>
      cases planned
      exact Or.inl rfl
  | expire c =>
      cases planned
      exact Or.inl rfl
  | resume c =>
      cases planned
      exact Or.inl rfl
  | _ => cases winds

/-- Such an event starts nothing. -/
theorem winds_busy (winds : e.winds = true) (stepped : sys.step env e = some sys')
    (x : Activity) (busy : Busy sys' x) : Busy sys x := by
  cases x with
  | handler k =>
      obtain ⟨phase, here, running⟩ := busy
      rcases winds_phases winds stepped k with same | finished
      · exact ⟨phase, same ▸ here, running⟩
      · exact absurd (Option.some.inj (here.symm.trans finished)) running
  | call c =>
      obtain ⟨rq, running⟩ := busy
      obtain ⟨plan, planned, _, _, next⟩ := step_plan stepped
      cases act : plan.act with
      | none =>
          rw [act] at next
          exact ⟨rq, next ▸ running⟩
      | some a =>
          rw [act] at next
          have isAct : sys.act env e = some a := Option.bind_eq_some_iff.mpr ⟨plan, planned, act⟩
          rcases (Dispatcher.step_effect next).running with ⟨_, _, _, same⟩ |
            ⟨c₀, rq₀, came, _⟩ | ⟨c₀, rq₀, _, _, _, _, same⟩
          · exact ⟨rq, (same c rq).mp running⟩
          · rcases winds_act winds isAct with ⟨_, rfl⟩ | ⟨_, rfl⟩ | ⟨_, rfl⟩ | ⟨_, rfl⟩ <;> cases came
          · exact ⟨rq, ((same c rq).mp running).1⟩

/-- Such an event sends no frame. -/
theorem winds_sent (winds : e.winds = true) (stepped : sys.step env e = some sys') :
    sys'.dispatcher.sent = sys.dispatcher.sent := by
  obtain ⟨plan, planned, _, _, next⟩ := step_plan stepped
  cases act : plan.act with
  | none =>
      rw [act] at next
      rw [next]
  | some a =>
      rw [act] at next
      have isAct : sys.act env e = some a := Option.bind_eq_some_iff.mpr ⟨plan, planned, act⟩
      rcases winds_act winds isAct with ⟨k, rfl⟩ | ⟨c, rfl⟩ | ⟨c, rfl⟩ | ⟨c, rfl⟩
      · simp only [Dispatcher.step] at next
        split at next
        · cases next
        · rw [← Option.some.inj next]
          rfl
      · simp only [Dispatcher.step] at next
        split at next
        · split at next
          · rw [← Option.some.inj next]
            unfold Dispatcher.delivered
            simp only [Bool.false_eq_true, ↓reduceIte]
            split <;> rfl
          · cases next
        · cases next
      · simp only [Dispatcher.step] at next
        split at next
        · split at next
          · rw [← Option.some.inj next]
            rfl
          · cases next
        · cases next
      · simp only [Dispatcher.step] at next
        split at next
        · split at next
          · rw [← Option.some.inj next]
            rfl
          · cases next
        · cases next

/-! ### Each of them comes to its end -/

/-- A run of events that wind down. -/
abbrev Winds (env : Env) : System → System → Prop :=
  (system env).Quietens Busy fun e => e.winds = true

theorem winds_step (winds : e.winds = true) (stepped : sys.step env e = some sys') :
    Winds env sys sys' :=
  Machine.Quietens.step stepped winds (winds_busy winds stepped)

theorem handler_ends (env : Env) {k : ConnId} (now : Int) (busy : Busy sys (.handler k)) :
    ∃ sys', Winds env sys sys' ∧ ¬ Busy sys' (.handler k) := by
  obtain ⟨phase, here, running⟩ := busy
  have ended : ∀ {e : Event} {closing : Bool} {plan : Plan}, e.winds = true →
      sys.ends env k closing now = some plan → sys.plan env e = some plan →
      ∃ sys', Winds env sys sys' ∧ ¬ Busy sys' (.handler k) := by
    intro e closing plan winds ends planned
    obtain ⟨sys', stepped⟩ := Option.isSome_iff_exists.mp ((close_answered ends).step planned)
    refine ⟨sys', winds_step winds stepped, ?_⟩
    rintro ⟨phase', here', running'⟩
    obtain ⟨plan', planned', _, phases, _⟩ := step_plan stepped
    obtain rfl := Option.some.inj (planned.symm.trans planned')
    have finished : plan.phases.get? k = some .finished := by
      rw [ends_teardown ends]
      unfold teardown
      split <;> exact Dict.get?_insert_self _ _ _
    rw [phases, finished] at here'
    exact running' (Option.some.inj here').symm
  have torn : (∃ closing, sys.ends env k closing now = some (sys.teardown env sys.store k now)) := by
    unfold ends
    rw [here]
    cases phase with
    | finished => exact absurd rfl running
    | closing diagnostic => exact ⟨true, rfl⟩
    | challenging | enrolled | authenticating | readying | serving => exact ⟨false, rfl⟩
  obtain ⟨closing, torn⟩ := torn
  cases closing with
  | true => exact ended (e := .finish k now) rfl torn torn
  | false => exact ended (e := .disconnect k now) rfl torn torn

/-- An act of a call is a step of the connector. -/
theorem step_acts {a : Act} {d : Dispatcher} (planned : sys.plan env e = some (sys.acts a))
    (next : sys.dispatcher.step env a = some d) :
    sys.step env e = some ⟨sys.store, sys.phases, d⟩ := by
  unfold System.step
  rw [planned]
  simp only [acts, next, Option.map_some]

theorem settled_over {d : Dispatcher} {c : CallId} {calls : Dict CallId Call} {rq : Request}
    {out : Outcome} (is : d.calls = calls.insert c (.settled rq out)) (store : Store)
    (phases : Dict ConnId Phase) : ¬ Busy ⟨store, phases, d⟩ (.call c) := by
  rintro ⟨rq', l, live, _⟩
  have live : d.calls.get? c = some (.live l) := live
  rw [is, Dict.get?_insert_self] at live
  cases live

/-- A call whose task has something to run for ends when it runs. -/
theorem ready_ends (env : Env) {c : CallId} {l : Live} (live : sys.dispatcher.IsLive c l)
    (ready : l.ready = true) : ∃ sys', Winds env sys sys' ∧ ¬ Busy sys' (.call c) := by
  have next : sys.dispatcher.step env (.resume c) =
      some (sys.dispatcher.settle env c l.request l.outcome) := by
    simp only [Dispatcher.step, show sys.dispatcher.calls.get? c = some (.live l) from live, ready,
      ↓reduceIte]
  exact ⟨_, winds_step rfl (step_acts (e := .resume c) rfl next), settled_over rfl _ _⟩

/-- A call that waits ends: its answer is there, or its timer fires. -/
theorem waiting_ends (env : Env) {c : CallId} {l : Live} (live : sys.dispatcher.IsLive c l)
    (waits : l.stage = .waiting) : ∃ sys', Winds env sys sys' ∧ ¬ Busy sys' (.call c) := by
  cases ready : l.ready with
  | true => exact ready_ends env live ready
  | false =>
      have uninterrupted : l.interrupt = .none := by
        cases interrupt : l.interrupt with
        | none => rfl
        | timeout =>
            unfold Live.ready at ready
            rw [waits, interrupt] at ready
            cases ready
        | cancel =>
            unfold Live.ready at ready
            rw [waits, interrupt] at ready
            cases ready
      have next : sys.dispatcher.step env (.expire c) = some (sys.dispatcher.setCall c
          (.live { l with future := Dispatcher.cancelFuture l.future, interrupt := .timeout })) := by
        simp only [Dispatcher.step, show sys.dispatcher.calls.get? c = some (.live l) from live,
          waits, uninterrupted, and_self, ↓reduceIte]
      have stepped := step_acts (e := .expire c) rfl next
      have ready' : Live.ready ⟨l.request, l.stage, Dispatcher.cancelFuture l.future, .timeout⟩ =
          true := by
        unfold Live.ready
        simp only [waits]
      have isLive : (sys.dispatcher.setCall c (.live { l with
          future := Dispatcher.cancelFuture l.future
          interrupt := .timeout })).IsLive c
            ⟨l.request, l.stage, Dispatcher.cancelFuture l.future, .timeout⟩ :=
        Dict.get?_insert_self _ _ _
      obtain ⟨sys', later, isOver⟩ := @ready_ends ⟨sys.store, sys.phases, _⟩ env c _ isLive ready'
      exact ⟨sys', (winds_step rfl stepped).trans later, isOver⟩

theorem call_ends {env : Env} (reached : (system env).Reach Machine.anyStep sys) {c : CallId}
    (busy : Busy sys (.call c)) : ∃ sys', Winds env sys sys' ∧ ¬ Busy sys' (.call c) := by
  obtain ⟨rq, l, live, _⟩ := busy
  have staged := Dispatcher.staged_of_reach ((system_simulates env).reach_any reached)
  cases stage : l.stage with
  | waiting => exact waiting_ends env live stage
  | sending =>
      cases interrupt : l.interrupt with
      | cancel =>
          refine ready_ends env live ?_
          unfold Live.ready
          rw [interrupt]
      | timeout =>
          have waits := staged c l live interrupt
          rw [stage] at waits
          cases waits
      | none =>
          have next : sys.dispatcher.step env (.delivered c false) =
              some (sys.dispatcher.delivered env c l false) := by
            simp only [Dispatcher.step, show sys.dispatcher.calls.get? c = some (.live l) from live,
              stage, interrupt, and_self, ↓reduceIte]
          have stepped := step_acts (e := .delivered c false) rfl next
          cases done : l.future.done with
          | true =>
              refine ⟨_, winds_step rfl stepped, ?_⟩
              unfold Dispatcher.delivered
              simp only [Bool.false_eq_true, ↓reduceIte, done]
              exact settled_over rfl _ _
          | false =>
              have isLive : (sys.dispatcher.delivered env c l false).IsLive c
                  { l with stage := .waiting } := by
                unfold Dispatcher.delivered
                simp only [Bool.false_eq_true, ↓reduceIte, done]
                exact Dict.get?_insert_self _ _ _
              obtain ⟨sys', later, isOver⟩ := @waiting_ends ⟨sys.store, sys.phases, _⟩ env c _
                isLive rfl
              exact ⟨sys', (winds_step rfl stepped).trans later, isOver⟩

/-! ### All of them do -/

/-- A step makes at most one thing busy. -/
theorem step_adds (stepped : sys.step env e = some sys') :
    ∃ new : List Activity, ∀ x, Busy sys' x → Busy sys x ∨ x ∈ new := by
  obtain ⟨plan, planned, _, phases, next⟩ := step_plan stepped
  have handlers : ∃ new : List Activity, ∀ k, Busy sys' (.handler k) →
      Busy sys (.handler k) ∨ .handler k ∈ new := by
    cases own : e.conn? with
    | none =>
        refine ⟨[], fun k busy => Or.inl ?_⟩
        obtain ⟨phase, here, running⟩ := busy
        rw [phases, (plan_unconnected planned own).phases] at here
        exact ⟨phase, here, running⟩
    | some k₀ =>
        refine ⟨[.handler k₀], fun k busy => ?_⟩
        by_cases same : k = k₀
        · exact Or.inr (List.mem_singleton.mpr (congrArg Activity.handler same))
        · obtain ⟨phase, here, running⟩ := busy
          rw [phases, (plan_confined planned own).phases k same] at here
          exact Or.inl ⟨phase, here, running⟩
  have calls : ∃ new : List Activity, ∀ c, Busy sys' (.call c) →
      Busy sys (.call c) ∨ .call c ∈ new := by
    cases act : plan.act with
    | none =>
        rw [act] at next
        exact ⟨[], fun c ⟨rq, running⟩ => Or.inl ⟨rq, next ▸ running⟩⟩
    | some a =>
        rw [act] at next
        rcases (Dispatcher.step_effect next).running with ⟨_, _, _, same⟩ |
          ⟨c₀, rq₀, _, _, _, _, _, _, same⟩ | ⟨c₀, rq₀, _, _, _, _, same⟩
        · exact ⟨[], fun c ⟨rq, running⟩ => Or.inl ⟨rq, (same c rq).mp running⟩⟩
        · refine ⟨[.call c₀], fun c ⟨rq, running⟩ => ?_⟩
          rcases (same c rq).mp running with old | ⟨rfl, _⟩
          · exact Or.inl ⟨rq, old⟩
          · exact Or.inr (List.mem_singleton_self _)
        · exact ⟨[], fun c ⟨rq, running⟩ => Or.inl ⟨rq, ((same c rq).mp running).1⟩⟩
  obtain ⟨open_, opens⟩ := handlers
  obtain ⟨made, makes⟩ := calls
  refine ⟨open_ ++ made, fun x busy => ?_⟩
  cases x with
  | handler k => exact (opens k busy).imp_right (List.mem_append_left _)
  | call c => exact (makes c busy).imp_right (List.mem_append_right _)

/-- A call that was told `new` is told so in every later state of a run. -/
theorem told_mono (stepped : sys.step env e = some sys') {c : CallId} {rq : Request}
    (told : sys.dispatcher.Told c rq) : sys'.dispatcher.Told c rq := by
  obtain ⟨plan, _, _, _, next⟩ := step_plan stepped
  split at next
  · rw [next]
    exact told
  · exact (Dispatcher.step_effect next).told_mono told

/-- What is left when the connector has been wound down. -/
structure WoundDown (sys sys' : System) : Prop where
  idle : Idle sys'
  holds : HoldsNothing sys'
  sent : sys'.dispatcher.sent = sys.dispatcher.sent
  settled : ∀ c rq, sys.dispatcher.Told c rq →
    ∃ out, sys'.dispatcher.calls.get? c = some (.settled rq out)

/-- **The connector can always be wound down.**  Where nothing goes on, nothing is held; and
from every reachable state a run of sockets that close, sends that complete and timers that
fire leads to one where nothing goes on, every call has settled, and no frame has been
sent. -/
theorem winds_down (env : Env) (now : Int) {sys : System}
    (reached : (system env).Reach Machine.anyStep sys) :
    (Idle sys → HoldsNothing sys) ∧
    ∃ es sys', (system env).exec sys es = some sys' ∧ (∀ e ∈ es, e.winds = true) ∧
      WoundDown sys sys' := by
  refine ⟨idle_holds_nothing reached, ?_⟩
  have idle : ∀ x, ¬ Busy (system env).init x := by
    intro x busy
    cases x with
    | handler k => exact nomatch busy.choose_spec.1
    | call c => exact nomatch busy.choose_spec.choose_spec.1
  obtain ⟨xs, covers⟩ := reached.covered idle step_adds
  have clears : (system env).Clears (fun s => (system env).Reach Machine.anyStep s) Busy
      fun e => e.winds = true := by
    intro s x reached busy
    cases x with
    | handler k => exact handler_ends env now busy
    | call c => exact call_ends reached busy
  obtain ⟨sys', quietens, isOver⟩ := clears.all (fun before _ stepped => .step before trivial stepped)
    xs reached covers
  obtain ⟨es, ran, winds⟩ := quietens.run
  refine ⟨es, sys', ran, winds, isOver, idle_holds_nothing (reached.of_exec ran) isOver, ?_, ?_⟩
  · exact Machine.exec_invariant (I := fun s => s.dispatcher.sent = sys.dispatcher.sent)
      (fun same winds stepped => (winds_sent winds stepped).trans same) winds ran rfl
  · intro c rq told
    have told' : sys'.dispatcher.Told c rq :=
      Machine.exec_invariant (I := fun s => s.dispatcher.Told c rq)
        (fun told _ stepped => told_mono stepped told) winds ran told
    obtain ⟨call, found, is⟩ := told'
    cases call with
    | live l => exact absurd ⟨l.request, l, found, rfl⟩ (isOver (.call c))
    | settled rq' out =>
        cases is
        exact ⟨out, found⟩
    | refused | answered => cases is

/-- The sample device serves and a command is on its way to it; all of it ends. -/
theorem winds_down_sending : ∃ (sys sys' : System) (rq : Request) (es : List Event),
    sys.dispatcher.Running 0 rq ∧ Busy sys (.handler 0) ∧
      (system Sample.env).exec sys es = some sys' ∧ WoundDown sys sys' := by
  obtain ⟨sys, reached, holds⟩ := Machine.Reach.exists_of_exec (M := system Sample.env) .init
    (Sample.serving ++ [.command 0 (Sample.command "k-1" false) (Sample.uuid 0) (Sample.second 10)])
    (fun sys => sys.dispatcher.isLive 0 && (sys.phases.get? 0).isSome && !isFinished sys 0) (by decide +kernel)
  simp only [Bool.and_eq_true, Bool.not_eq_true'] at holds
  obtain ⟨⟨live, some_⟩, unfinished⟩ := holds
  unfold Dispatcher.isLive at live
  split at live
  · rename_i l found
    obtain ⟨phase, here⟩ := Option.isSome_iff_exists.mp some_
    have running : phase ≠ .finished := by
      rintro rfl
      rw [isFinished_iff.mpr here] at unfinished
      cases unfinished
    obtain ⟨es, sys', ran, _, wound⟩ := (winds_down Sample.env (Sample.second 20) reached).2
    exact ⟨sys, sys', l.request, es, ⟨l, found, rfl⟩, ⟨phase, here, running⟩, ran, wound⟩
  · cases live

end System

end RemoteAgent
