import RemoteAgent.Presence
import RemoteAgent.SettledRows

/-!
# What becomes of a request

Two properties of every run of the connector, each under the condition on the
calls that it needs, and what happens without that condition.

* `request_sent_once`: a key is on at most one request frame, and every call but
  its owner is answered by the idempotency table, where no retry bears the request
  id that is stored under its key.  `signedRetry_sent_twice`: a retry that presents
  the signed assertion of the first call again is told `new` once more.
* `settled_call_recorded`: a call that has ended has left its outcome in its row,
  where moreover no call finds its collision key held, no task is cancelled, and the
  code of every result can be audited.  `settled_cases`: the first two ends leave the
  row pending, and only they do; the third leaves it completed, and every other end is
  recorded.  `refusedCommand_left_pending` is a run to the first.
-/

open Wire Storage Transition

namespace RemoteAgent

/-! ## One frame for a key -/

/-- **At most one request frame bears a key, and only its owner's.** -/
theorem request_sent_once (env : Env) {sys : System}
    (reached : (system env).Reach (onActs env (Dispatcher.FreshClaim env)) sys) :
    (sys.dispatcher.dispatched.map Request.key).Nodup ∧
      (∀ rq ∈ sys.dispatcher.dispatched, ∃ c, sys.dispatcher.Told c rq) ∧
      ∀ c c' call rq rq' o, sys.dispatcher.Told c rq → c' ≠ c →
        sys.dispatcher.calls.get? c' = some call → call.claimed? = some (rq', o) →
          rq'.key = rq.key →
            call = .answered rq' o ∧ (o = .conflict ∨ o = .pending ∨ ∃ r, o = .replay r) := by
  have owned := Dispatcher.ownership_of_reach (dispatcher_reach reached)
  have consistent := Dispatcher.consistent_of_reach (dispatcher_reach reached)
  refine ⟨owned.once, owned.framed, fun c c' call rq rq' o told other found claimed same => ?_⟩
  -- Only the owner of a key is told `new` under it.
  have notTold : ∀ {rq₁}, call.told? = some rq₁ → rq₁.key ≠ rq.key := fun {rq₁} isTold sameKey =>
    other (owned.one c' c rq₁ rq ⟨call, found, isTold⟩ told sameKey)
  cases call with
  | refused x => cases claimed
  | live l =>
      cases claimed
      exact absurd same (notTold rfl)
  | settled rq₁ out =>
      cases claimed
      exact absurd same (notTold rfl)
  | answered rq₁ o₁ =>
      cases claimed
      obtain ⟨notNew, notBroken⟩ := consistent.answered c' _ _ found
      refine ⟨rfl, ?_⟩
      cases o with
      | new => exact absurd rfl notNew
      | broken => exact absurd rfl notBroken
      | conflict => exact Or.inl rfl
      | pending => exact Or.inr (Or.inl rfl)
      | replay r => exact Or.inr (Or.inr ⟨r, rfl⟩)

/-- A retry under a fresh uuid is served the stored result, and sends nothing. -/
theorem request_sent_once_replay :
    ∃ sys : System, (sys.dispatcher.dispatched.map Request.key).Nodup ∧
      sys.dispatcher.dispatched.length = 1 ∧
      ∃ rq r, sys.dispatcher.calls.get? 1 = some (.answered rq (.replay r)) := by
  have reached : (system Sample.env).Reach
      (onActs Sample.env (Dispatcher.FreshClaim Sample.env)) System.init := .init
  obtain ⟨sys, reached, holds⟩ := reached.exists_of_execIf
    (Sample.serving ++ Sample.answered 0 "k-1" false 10 ++
      [.command 1 (Sample.command "k-1" false) (Sample.uuid 1) (Sample.second 20)])
    (fun sys => decide (sys.dispatcher.dispatched.length = 1) &&
      sys.dispatcher.isReplayed 1) (by decide +kernel)
  simp only [Bool.and_eq_true, decide_eq_true_eq] at holds
  refine ⟨sys, (request_sent_once Sample.env reached).1, holds.1, ?_⟩
  have replayed := holds.2
  unfold Dispatcher.isReplayed at replayed
  split at replayed
  · exact ⟨_, _, ‹_›⟩
  · cases replayed

/-- **The retry of a signed command is sent a second time.** -/
theorem signedRetry_sent_twice :
    ¬ ∀ sys : System, (system Sample.env).Reach Machine.anyStep sys →
      (sys.dispatcher.dispatched.map Request.key).Nodup := by
  intro once
  have reached : (system Sample.env).Reach Machine.anyStep System.init := .init
  obtain ⟨sys, reached, twice⟩ := reached.exists_of_exec
    (Sample.serving ++ Sample.answered 0 "k-1" true 10 ++ Sample.sent 1 "k-1" true 20)
    (fun sys => !decide (sys.dispatcher.dispatched.map Request.key).Nodup) (by decide +kernel)
  have nodup := once sys reached
  simp only [nodup, decide_true, Bool.not_true, Bool.false_eq_true] at twice

/-! ## The outcome in the row -/

/-- The row tells a retry what the caller was told. -/
def Records (row : RequestRow) : Outcome → Prop
  | .returned r => row.status = .completed ∧
      ∃ text stored, row.resultJson = some text ∧ Json.loads text = some stored ∧
        Json.Same stored r
  | .raised x => row.status = .failed ∧
      ∃ text, row.resultJson = some text ∧ Json.loads text = some x.result
  | .unaudited _ | .cancelled => False

/-- The object of a code is its own canonical form. -/
theorem loads_result (x : AgentCode) : Json.loads x.result.dumps = some x.result := by
  rw [Json.loads_dumps]
  rfl

/-- **Which ends of a call leave its row pending**; every other end is recorded, but for
one whose audit row could not be stored. -/
theorem settled_cases {env : Env} {d : Dispatcher}
    (reached : (dispatcher env).Reach (Dispatcher.FreshClaim env) d) {c : CallId} {rq : Request}
    {out : Outcome} (found : d.calls.get? c = some (.settled rq out)) :
    ∃ row, d.requests.find? rq.key = some row ∧
      (row.status = .pending ↔ out = .cancelled ∨ out = .raised .commandInFlight) ∧
      (row.status ≠ .pending → (∀ r, out ≠ .unaudited r) → Records row out) := by
  obtain ⟨row, stored, tells⟩ := Dispatcher.recorded_of_reach reached c _ rq found rfl
  refine ⟨row, stored, ?_⟩
  cases out with
  | returned r =>
      obtain ⟨completed, text⟩ := tells
      refine ⟨⟨fun pending => ?_, fun ends => ?_⟩, fun _ _ => ⟨completed, _, _, text,
        Json.loads_dumps r, (Json.same_canon r).symm⟩⟩
      · rw [completed] at pending
        cases pending
      · rcases ends with other | other <;> cases other
  | unaudited r =>
      refine ⟨⟨fun pending => ?_, fun ends => ?_⟩, fun _ audits => absurd rfl (audits r)⟩
      · rw [tells.1] at pending
        cases pending
      · rcases ends with other | other <;> cases other
  | raised x =>
      have tells : if x = .commandInFlight then row.status = .pending
        else row.status = .failed ∧ row.resultJson = some x.result.dumps := tells
      by_cases held : x = .commandInFlight
      · rw [if_pos held] at tells
        exact ⟨iff_of_true tells (Or.inr (congrArg Outcome.raised held)),
          fun settled _ => absurd tells settled⟩
      · rw [if_neg held] at tells
        obtain ⟨failed, text⟩ := tells
        refine ⟨⟨fun pending => ?_, fun ends => ?_⟩,
          fun _ _ => ⟨failed, _, text, loads_result x⟩⟩
        · rw [failed] at pending
          cases pending
        · rcases ends with other | other
          · cases other
          · exact absurd (Outcome.raised.inj other) held
  | cancelled =>
      have pending : row.status = .pending := tells
      exact ⟨iff_of_true pending (Or.inl rfl), fun settled _ => absurd pending settled⟩

/-- **A call that was told `new` and has ended has left its outcome in its row**, and
a claim is told `pending` only while the call that owns its key is running. -/
theorem settled_call_recorded (env : Env) {sys : System}
    (reached : (system env).Reach
      (onActs env fun d a => Dispatcher.FreshClaim env d a ∧ Dispatcher.Undisturbed env d a) sys) :
    (∀ c rq out, sys.dispatcher.calls.get? c = some (.settled rq out) →
      ∃ row, sys.dispatcher.requests.find? rq.key = some row ∧ row.status ≠ .pending ∧
        Records row out) ∧
    ∀ rq : Request, (claimRequest sys.dispatcher.requests (rq.claim env)).2 = .pending →
      ∃ c l, sys.dispatcher.IsLive c l ∧ l.request.key = rq.key := by
  have runs := dispatcher_reach reached
  have clean := Dispatcher.clean_of_reach runs
  have outcome : ∀ c rq out, sys.dispatcher.calls.get? c = some (.settled rq out) →
      ∃ row, sys.dispatcher.requests.find? rq.key = some row ∧ row.status ≠ .pending ∧
        Records row out := by
    intro c rq out found
    obtain ⟨uncancelled, unrefused, audits⟩ := clean.settled c rq out found
    obtain ⟨row, stored, left, records⟩ := settled_cases (runs.mono fun _ both => both.1) found
    have settled : row.status ≠ .pending := fun pending =>
      (left.mp pending).elim uncancelled unrefused
    exact ⟨row, stored, settled, records settled audits⟩
  refine ⟨outcome, fun rq pending => ?_⟩
  obtain ⟨row, found, isPending⟩ := claimRequest_pending pending
  obtain ⟨c, rq₀, ⟨call, isCall, told⟩, same, _⟩ :=
    (Dispatcher.consistent_of_reach runs).stored _ row found
  cases call with
  | live l =>
      cases told
      exact ⟨c, l, isCall, same⟩
  | settled rq₁ out =>
      cases told
      obtain ⟨row', found', notPending, _⟩ := outcome c _ out isCall
      rw [same, found] at found'
      cases found'
      exact absurd isPending notPending
  | refused x => cases told
  | answered rq₁ o => cases told

/-- The command that the device answers is recorded as completed. -/
theorem settled_call_recorded_answered :
    ∃ (sys : System) (rq : Request) (r : Json) (row : RequestRow),
      sys.dispatcher.calls.get? 0 = some (.settled rq (.returned r)) ∧
      sys.dispatcher.requests.find? rq.key = some row ∧ Records row (.returned r) := by
  have reached : (system Sample.env).Reach (onActs Sample.env fun d a =>
      Dispatcher.FreshClaim Sample.env d a ∧ Dispatcher.Undisturbed Sample.env d a)
        System.init := .init
  obtain ⟨sys, reached, holds⟩ := reached.exists_of_execIf
    (Sample.serving ++ Sample.answered 0 "k-1" false 10)
    (fun sys => sys.dispatcher.isReturned 0) (by decide +kernel)
  unfold Dispatcher.isReturned at holds
  split at holds
  · rename_i rq r found
    obtain ⟨row, stored, _, records⟩ := (settled_call_recorded Sample.env reached).1 0 rq _ found
    exact ⟨sys, rq, r, row, found, stored, records⟩
  · cases holds

def isLeftPending (d : Dispatcher) (c : CallId) : Bool :=
  match d.calls.get? c with
  | some (.settled rq _) => (d.requests.find? rq.key).any fun row => decide (row.status = .pending)
  | _ => false

/-- **A command refused by the collision guard leaves its row pending.** -/
theorem refusedCommand_left_pending :
    ¬ ∀ sys : System, (system Sample.env).Reach Machine.anyStep sys → ∀ c rq out,
      sys.dispatcher.calls.get? c = some (.settled rq out) →
        ∃ row, sys.dispatcher.requests.find? rq.key = some row ∧ row.status ≠ .pending ∧
          Records row out := by
  intro recorded
  have reached : (system Sample.env).Reach Machine.anyStep System.init := .init
  obtain ⟨sys, reached, holds⟩ := reached.exists_of_exec
    (Sample.serving ++ Sample.sent 0 "k-1" false 10 ++
      [.command 1 (Sample.command "k-2" false) (Sample.uuid 1) (Sample.second 11)])
    (fun sys => isLeftPending sys.dispatcher 1) (by decide +kernel)
  unfold isLeftPending at holds
  split at holds
  · rename_i rq out found
    obtain ⟨row, stored, settled, _⟩ := recorded sys reached 1 rq out found
    rw [stored, Option.any_some, decide_eq_true_eq] at holds
    exact settled holds
  · cases holds

end RemoteAgent
