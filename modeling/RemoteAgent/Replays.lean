import RemoteAgent.Presence
import RemoteAgent.SettledRows

/-!
# What a retry is answered

A call that finds a row under its key is answered from it.  Two questions about
that answer, for every run:

* `retry_answered_by_intent`: when does it follow the intent of the call, that is,
  its tool and its arguments?  The stored digest also covers the instance the first
  call was routed to and the `context_epoch` of that instance, so the answer does
  exactly when these have not changed.  `retry_refused_after_heartbeat` is a run in
  which a heartbeat changes them.
* `replay_observes_original`: when does a replay show its caller what the original
  call showed its own?  Exactly when the original call returned;
  `failedCall_replayed_as_result` is a run in which it did not.
-/

open Wire Storage Transition

namespace RemoteAgent

/-! ## Intent and digest -/

/-- The same tool and the same arguments, as JSON values. -/
def Request.SameIntent (rq rq' : Request) : Prop :=
  rq.tool = rq'.tool ∧ Json.Same rq.arguments rq'.arguments

/-- The same instance, at the same `context_epoch`. -/
def Request.SameRouting (rq rq' : Request) : Prop :=
  rq.instanceId = rq'.instanceId ∧ Json.Same rq.contextEpoch rq'.contextEpoch

/-- A value and the members that are read from it. -/
theorem get?_digestInput (rq : Request) :
    rq.digestInput.get? "connector_id" = some (.str rq.key.connectorId) ∧
      rq.digestInput.get? "tool" = some (.str rq.tool) ∧
      rq.digestInput.get? "arguments" = some rq.arguments ∧
      rq.digestInput.get? "instance_id" = some (.str rq.instanceId) ∧
      rq.digestInput.get? "context_epoch" = some rq.contextEpoch := by
  refine ⟨?_, ?_, ?_, ?_, ?_⟩ <;> rfl

/-- **What is digested for a request**: its connector, its intent and its routing. -/
theorem digestInput_same_iff {rq rq' : Request} :
    Json.Same rq.digestInput rq'.digestInput ↔
      rq.key.connectorId = rq'.key.connectorId ∧ rq.SameIntent rq' ∧ rq.SameRouting rq' := by
  constructor
  · intro same
    obtain ⟨connector, tool, arguments, inst, epoch⟩ := get?_digestInput rq
    obtain ⟨connector', tool', arguments', inst', epoch'⟩ := get?_digestInput rq'
    have members := fun name => same.get? name
    have sameConnector := members "connector_id"
    have sameTool := members "tool"
    have sameArguments := members "arguments"
    have sameInstance := members "instance_id"
    have sameEpoch := members "context_epoch"
    rw [connector, connector'] at sameConnector
    rw [tool, tool'] at sameTool
    rw [arguments, arguments'] at sameArguments
    rw [inst, inst'] at sameInstance
    rw [epoch, epoch'] at sameEpoch
    simp only [Option.map_some, Option.some.injEq, Json.canon, Json.str.injEq]
      at sameConnector sameTool sameInstance
    exact ⟨sameConnector, ⟨sameTool, Option.some.inj sameArguments⟩, sameInstance,
      Option.some.inj sameEpoch⟩
  · rintro ⟨connector, ⟨tool, arguments⟩, inst, epoch⟩
    have arguments : rq.arguments.canon = rq'.arguments.canon := arguments
    have epoch : rq.contextEpoch.canon = rq'.contextEpoch.canon := epoch
    unfold Json.Same Request.digestInput
    simp only [Json.canon, Json.canonMembers, connector, tool, arguments, inst, epoch]

/-- The row was stored by a claim of the request. -/
structure RequestRow.StoredFor (env : Env) (row : RequestRow) (rq : Request) : Prop where
  key : rq.key = row.key
  requestId : rq.requestId = row.requestId
  digest : rq.requestDigest env = row.requestDigest

/-- The stored digest is that of a later request exactly when intent and routing are
those of the request it was stored for. -/
theorem RequestRow.StoredFor.digest_iff {env : Env}
    (collisionFree : Function.Injective env.sha256) {row : RequestRow} {rq₀ rq : Request}
    (stored : row.StoredFor env rq₀) (key : rq.key = row.key) :
    row.requestDigest = rq.requestDigest env ↔ rq₀.SameIntent rq ∧ rq₀.SameRouting rq := by
  have sameConnector : rq₀.key.connectorId = rq.key.connectorId := by rw [stored.key, key]
  rw [← stored.digest]
  unfold Request.requestDigest
  rw [canonicalJsonDigest_inj collisionFree, digestInput_same_iff]
  exact and_iff_right sameConnector

/-- How the answer to a later request should depend on the intents: the same intent
waits or is replayed, another one is refused. -/
structure AnsweredByIntent (rq rq' : Request) (o : ClaimOutcome) : Prop where
  same : rq.SameIntent rq' → o = .pending ∨ ∃ r, o = .replay r
  differs : ¬ rq.SameIntent rq' → o = .conflict

/-- The answer read off a row, by its two comparisons. -/
theorem RequestRow.answer_cases {row : RequestRow} {c : Claim} (whole : row.answer c ≠ .broken) :
    (row.requestId = c.requestId ∧ row.answer c = .new) ∨
      (row.requestId ≠ c.requestId ∧ row.requestDigest ≠ c.requestDigest ∧
        row.answer c = .conflict) ∨
      (row.requestId ≠ c.requestId ∧ row.requestDigest = c.requestDigest ∧
        (row.answer c = .pending ∨ ∃ r, row.answer c = .replay r)) := by
  unfold RequestRow.answer at whole ⊢
  split
  · rename_i own
    exact Or.inl ⟨own, rfl⟩
  · rename_i other
    rw [if_neg other] at whole
    split
    · rename_i differ
      exact Or.inr (Or.inl ⟨other, differ, rfl⟩)
    · rename_i same
      rw [if_neg same] at whole
      refine Or.inr (Or.inr ⟨other, not_not.mp same, ?_⟩)
      split
      · exact Or.inl rfl
      · rename_i settled
        rw [if_neg settled] at whole
        split
        · exact Or.inr ⟨_, rfl⟩
        · rename_i unread
          rw [unread] at whole
          exact absurd rfl whole

/-- **When the answer read off a row follows the intents of two requests.** -/
theorem RequestRow.StoredFor.answer_iff {env : Env}
    (collisionFree : Function.Injective env.sha256) {row : RequestRow} {rq₀ rq₁ rq₂ : Request}
    (stored : row.StoredFor env rq₀) (key : rq₂.key = row.key)
    (whole : row.answer (rq₂.claim env) ≠ .broken) :
    AnsweredByIntent rq₁ rq₂ (row.answer (rq₂.claim env)) ↔
      rq₂.requestId ≠ rq₀.requestId ∧
        (rq₁.SameIntent rq₂ ↔ rq₀.SameIntent rq₂ ∧ rq₀.SameRouting rq₂) := by
  have digest : row.requestDigest = (rq₂.claim env).requestDigest ↔ _ :=
    stored.digest_iff collisionFree key
  rcases answer_cases whole with ⟨own, is⟩ | ⟨other, differ, is⟩ | ⟨other, same, is⟩
  · -- The stored id is the retry's own: the answer is `new`.
    rw [is]
    refine iff_of_false (fun answered => ?_) (fun wanted => wanted.1 ?_)
    · by_cases intent : rq₁.SameIntent rq₂
      · rcases answered.same intent with pending | ⟨r, replay⟩
        · cases pending
        · cases replay
      · cases answered.differs intent
    · exact (stored.requestId.trans own).symm
  · rw [is]
    have differ : ¬ (rq₀.SameIntent rq₂ ∧ rq₀.SameRouting rq₂) := fun matched =>
      differ (digest.mpr matched)
    refine ⟨fun answered => ⟨fun ids => other (stored.requestId.symm.trans ids.symm),
      ⟨fun intent => ?_, fun matched => absurd matched differ⟩⟩,
      fun wanted => ⟨fun intent => absurd (wanted.2.mp intent) differ, fun _ => rfl⟩⟩
    rcases answered.same intent with pending | ⟨r, replay⟩
    · cases pending
    · cases replay
  · have matched := digest.mp same
    refine ⟨fun answered => ⟨fun ids => other (stored.requestId.symm.trans ids.symm),
      ⟨fun _ => matched, fun _ => ?_⟩⟩, fun wanted => ⟨fun _ => is, fun differs => ?_⟩⟩
    · by_contra intent
      rw [answered.differs intent] at is
      rcases is with pending | ⟨r, replay⟩
      · cases pending
      · cases replay
    · exact absurd (wanted.2.mpr matched) differs

/-! ## The claims of a run -/

namespace Dispatcher

variable {env : Env} {d d' : Dispatcher} {a : Act}

/-- The request a row was stored for. -/
theorem Stored.for (stored : Stored env d) {key : RequestKey} {row : RequestRow}
    (found : d.requests.find? key = some row) :
    ∃ c rq, d.Told c rq ∧ row.StoredFor env rq := by
  obtain ⟨c, rq, told, same, id, digest⟩ := stored key row found
  exact ⟨c, rq, told, same.trans (Table.key_of_find? found).symm, id, digest⟩

end Dispatcher

/-- **When a retry is answered by intent.**  Call `c₂` claims a key that `c₁` has
claimed, under another request id.  Its row was stored for some call; the answer
follows the intents exactly when the retry does not repeat that call's request id,
and has the intent of `c₁` just when it has the intent and the routing of that call.
Where the row was stored for `c₁` itself, this says that a retry with the same intent
is routed as `c₁` was. -/
theorem retry_answered_by_intent (env : Env) (collisionFree : Function.Injective env.sha256)
    {sys sys' : System} {e : Event} (reached : (system env).Reach Machine.anyStep sys)
    (stepped : sys.step env e = some sys') {c₁ c₂ : CallId} {call₁ call₂ : Call}
    {rq₁ rq₂ : Request} {o₁ o₂ : ClaimOutcome}
    (earlier : sys.dispatcher.calls.get? c₁ = some call₁)
    (claimed₁ : call₁.claimed? = some (rq₁, o₁)) (fresh : sys.dispatcher.calls.get? c₂ = none)
    (later : sys'.dispatcher.calls.get? c₂ = some call₂)
    (claimed₂ : call₂.claimed? = some (rq₂, o₂)) (sameKey : rq₁.key = rq₂.key)
    (differ : rq₁.requestId ≠ rq₂.requestId) :
    ∃ row, sys.dispatcher.requests.find? rq₂.key = some row ∧
      (∃ c₀ rq₀, sys.dispatcher.Told c₀ rq₀ ∧ row.StoredFor env rq₀) ∧
      (∀ rq₀, row.StoredFor env rq₀ →
        (AnsweredByIntent rq₁ rq₂ o₂ ↔ rq₂.requestId ≠ rq₀.requestId ∧
          (rq₁.SameIntent rq₂ ↔ rq₀.SameIntent rq₂ ∧ rq₀.SameRouting rq₂))) ∧
      (row.StoredFor env rq₁ →
        (AnsweredByIntent rq₁ rq₂ o₂ ↔ (rq₁.SameIntent rq₂ → rq₁.SameRouting rq₂))) := by
  have runs := (system_simulates env).reach_any reached
  have consistent := Dispatcher.consistent_of_reach runs
  obtain ⟨row, found⟩ := Dispatcher.rowed_of_reach runs c₁ call₁ rq₁ o₁ earlier claimed₁
  rw [sameKey] at found
  -- The step is the claim of `c₂`, answered from the row.
  have answered : o₂ = row.answer (rq₂.claim env) := by
    have moved := (system_simulates env).step stepped
    cases act : sys.act env e with
    | none =>
        simp only [act] at moved
        rw [moved, fresh] at later
        cases later
    | some a =>
        simp only [act] at moved
        rcases (Dispatcher.step_effect moved).claimed_cases later claimed₂ with
          ⟨call₀, before, _⟩ | ⟨_, _, is, _⟩
        · rw [fresh] at before
          cases before
        · exact is.trans (claimRequest_present (c := rq₂.claim env) found)
  have whole : row.answer (rq₂.claim env) ≠ .broken := by
    rw [← claimRequest_present (c := rq₂.claim env) found]
    exact consistent.sound.claim_not_broken _
  have key : rq₂.key = row.key := (Table.key_of_find? found).symm
  subst answered
  refine ⟨row, found, consistent.stored.for found,
    fun rq₀ stored => stored.answer_iff collisionFree key whole, fun stored => ?_⟩
  rw [stored.answer_iff collisionFree key whole]
  constructor
  · exact fun wanted intent => (wanted.2.mp intent).2
  · exact fun routed => ⟨differ.symm, fun intent => ⟨intent, routed intent⟩, fun both => both.1⟩

def answersRetry (before after : Dispatcher) : Bool :=
  match before.calls.get? 0, before.calls.get? 1, after.calls.get? 1 with
  | some (.settled rq₁ _), none, some (.answered rq₂ (.replay _)) =>
      decide (rq₁.key = rq₂.key ∧ rq₁.requestId ≠ rq₂.requestId)
  | _, _, _ => false

/-- The retry of the answered command is replayed. -/
theorem retry_answered_by_intent_replay :
    ∃ (sys : System) (rq₁ rq₂ : Request) (r : Json) (row : RequestRow),
      sys.dispatcher.requests.find? rq₂.key = some row ∧ rq₁.requestId ≠ rq₂.requestId ∧
      (row.StoredFor Sample.env rq₁ → (AnsweredByIntent rq₁ rq₂ (.replay r) ↔
        (rq₁.SameIntent rq₂ → rq₁.SameRouting rq₂))) := by
  have reached : (system Sample.env).Reach Machine.anyStep System.init := .init
  obtain ⟨sys, reached, holds⟩ := reached.exists_of_exec
    (Sample.serving ++ Sample.answered 0 "k-1" false 10)
    (fun sys => ((System.step Sample.env sys
      (.command 1 (Sample.command "k-1" false) (Sample.uuid 1) (Sample.second 20))).any
        fun sys' => answersRetry sys.dispatcher sys'.dispatcher)) (by decide +kernel)
  obtain ⟨sys', stepped, holds⟩ := (Option.any_eq_true _ _).mp holds
  unfold answersRetry at holds
  split at holds
  · rename_i rq₁ out rq₂ r earlier fresh later
    obtain ⟨sameKey, differ⟩ := of_decide_eq_true holds
    obtain ⟨row, found, _, _, own⟩ := retry_answered_by_intent Sample.env Sample.sha256_injective
      reached stepped earlier rfl fresh later rfl sameKey differ
    exact ⟨sys, rq₁, rq₂, r, row, found, differ, own⟩
  · cases holds

def refusesRetry (before after : Dispatcher) : Bool :=
  match before.calls.get? 0, before.calls.get? 1, after.calls.get? 1 with
  | some (.settled rq₁ _), none, some (.answered rq₂ .conflict) =>
      decide (rq₁.key = rq₂.key ∧ rq₁.requestedInstance = rq₂.requestedInstance ∧
        rq₁.requestId ≠ rq₂.requestId ∧ rq₁.tool = rq₂.tool ∧
        rq₁.arguments.dumps = rq₂.arguments.dumps)
  | _, _, _ => false

/-- **A heartbeat between a call and its retry makes the retry a conflict.** -/
theorem retry_refused_after_heartbeat :
    ¬ ∀ env : Env, Function.Injective env.sha256 → ∀ (sys sys' : System) (e : Event),
      (system env).Reach Machine.anyStep sys → sys.step env e = some sys' →
      ∀ (c₁ c₂ : CallId) (call₁ call₂ : Call) (rq₁ rq₂ : Request) (o₁ o₂ : ClaimOutcome),
        sys.dispatcher.calls.get? c₁ = some call₁ → call₁.claimed? = some (rq₁, o₁) →
        sys.dispatcher.calls.get? c₂ = none → sys'.dispatcher.calls.get? c₂ = some call₂ →
        call₂.claimed? = some (rq₂, o₂) → rq₁.key = rq₂.key →
        rq₁.requestedInstance = rq₂.requestedInstance → rq₁.requestId ≠ rq₂.requestId →
          AnsweredByIntent rq₁ rq₂ o₂ := by
  intro byIntent
  have reached : (system Sample.env).Reach Machine.anyStep System.init := .init
  obtain ⟨sys, reached, holds⟩ := reached.exists_of_exec
    (Sample.serving ++ Sample.answered 0 "k-1" false 10 ++
      [.receive 0 (.ok (Sample.heartbeatFrame 2)) (Sample.second 15)])
    (fun sys => ((System.step Sample.env sys
      (.command 1 (Sample.command "k-1" false) (Sample.uuid 1) (Sample.second 20))).any
        fun sys' => refusesRetry sys.dispatcher sys'.dispatcher)) (by decide +kernel)
  obtain ⟨sys', stepped, holds⟩ := (Option.any_eq_true _ _).mp holds
  unfold refusesRetry at holds
  split at holds
  · rename_i rq₁ out rq₂ earlier fresh later
    obtain ⟨sameKey, sameInstance, differ, tool, arguments⟩ := of_decide_eq_true holds
    have answered := byIntent Sample.env Sample.sha256_injective sys sys' _ reached stepped 0 1 _ _
      rq₁ rq₂ _ _ earlier rfl fresh later rfl sameKey sameInstance differ
    rcases answered.same ⟨tool, Json.dumps_eq_iff.mp arguments⟩ with pending | ⟨r, replay⟩
    · cases pending
    · cases replay
  · cases holds

/-! ## What a replay shows -/

/-- A claim is replayed from a settled row that can be read. -/
theorem claimRequest_replay {t : Requests} {c : Claim} {r : Json}
    (told : (claimRequest t c).2 = .replay r) :
    ∃ row, t.find? c.key = some row ∧ row.status ≠ .pending ∧ Json.loads row.resultText = some r := by
  cases found : t.find? c.key with
  | none =>
      rw [claimRequest_absent found] at told
      cases told
  | some row =>
      rw [claimRequest_present found] at told
      refine ⟨row, rfl, ?_⟩
      unfold RequestRow.answer at told
      split at told
      · cases told
      · split at told
        · cases told
        · split at told
          · cases told
          · rename_i settled
            split at told
            · rename_i read
              cases told
              exact ⟨settled, read⟩
            · cases told

namespace Dispatcher

variable {env : Env} {d d' : Dispatcher} {a : Act}

/-- **A settled row stays as it is.** -/
theorem Effect.row_settled (effect : Effect env d d' a) {key : RequestKey} {row : RequestRow}
    (found : d.requests.find? key = some row) (settled : row.status ≠ .pending) :
    d'.requests.find? key = some row := by
  have completed : ∀ key' status result,
      (completeRequest d.requests key' status result).find? key = some row := by
    intro key' status result
    by_cases same : key = key'
    · subst same
      exact find?_completeRequest_settled found settled
    · exact (find?_completeRequest_of_ne same).trans found
  cases effect with
  | idle requests => exact requests ▸ found
  | tuned c₀ l l' was tunes requests => exact requests ▸ found
  | lost k requests => exact requests ▸ found
  | answered c₀ rq₀ came fresh notNew eq => subst eq; exact find?_claimRequest_of_some found
  | blocked c₀ rq₀ came fresh new taken eq => subst eq; exact find?_claimRequest_of_some found
  | dispatch c₀ rq₀ inFlight came fresh new acquired eq =>
      subst eq
      exact find?_claimRequest_of_some found
  | settled c₀ l out was interrupted raised returned requests =>
      rw [requests]
      cases out with
      | returned r | unaudited r => exact completed _ _ _
      | raised e => exact completed _ _ _
      | cancelled => exact found

/-- What was replayed is still what the row holds. -/
def Replayed (d : Dispatcher) : Prop :=
  ∀ c rq r, d.calls.get? c = some (.answered rq (.replay r)) →
    ∃ row, d.requests.find? rq.key = some row ∧ row.status ≠ .pending ∧
      Json.loads row.resultText = some r

theorem replayed_of_reach {allow : Dispatcher → Act → Prop}
    (reached : (dispatcher env).Reach allow d) : Replayed d := by
  refine reached.invariant (fun _ _ _ found => nomatch found)
    fun _ replayed _ step c rq r found => ?_
  have effect := step_effect step
  rcases effect.answered_cases found with before | ⟨_, _, _, is⟩
  · obtain ⟨row, there, settled, read⟩ := replayed c rq r before
    exact ⟨row, effect.row_settled there settled, settled, read⟩
  · obtain ⟨row, there, settled, read⟩ := claimRequest_replay is.symm
    exact ⟨row, effect.row_settled there settled, settled, read⟩

end Dispatcher

/-- What the caller of `device_command` observes. -/
inductive Observed where
  | returned (r : Json)
  | raised (e : Exc)
  | cancelled

def Outcome.observed : Outcome → Observed
  | .returned r => .returned r
  | .unaudited _ => .raised .escape
  | .raised e => .raised (.agent e)
  | .cancelled => .cancelled

/-- What the answer of `claim_request` makes the caller observe; `new` goes on. -/
def ClaimOutcome.observed? : ClaimOutcome → Option Observed
  | .new => none
  | .conflict => some (.raised (.agent .idempotencyConflict))
  | .pending => some (.raised (.agent .requestPending))
  | .replay r => some (.returned r)
  | .broken => some (.raised .escape)

def Call.observed? : Call → Option Observed
  | .refused e => some (.raised e)
  | .answered _ o => o.observed?
  | .live _ => none
  | .settled _ out => some out.observed

/-- Two callers observe the same: equal objects, or the same exception. -/
def Observed.Same : Observed → Observed → Prop
  | .returned r, .returned r' => Json.Same r r'
  | .raised e, .raised e' => e = e'
  | .cancelled, .cancelled => True
  | _, _ => False

/-- The callers of two calls have observed the same. -/
def SameSeen (call call' : Call) : Prop :=
  ∃ seen seen', call.observed? = some seen ∧ call'.observed? = some seen' ∧ seen.Same seen'

theorem sameSeen_replay {rq rq₀ : Request} {r : Json} {out : Outcome} :
    SameSeen (.answered rq (.replay r)) (.settled rq₀ out) ↔
      (Observed.returned r).Same out.observed := by
  constructor
  · rintro ⟨seen, seen', is, is', same⟩
    cases is
    cases is'
    exact same
  · exact fun same => ⟨_, _, rfl, rfl, same⟩

/-- **When a replay shows what the original call showed.**  A replayed key has one
call that was told `new`; it has ended, and its caller observed what the retry's
caller observes exactly when the stored row is `completed` and the code of its result
can be audited. -/
theorem replay_observes_original (env : Env) {sys : System}
    (reached : (system env).Reach (onActs env (Dispatcher.FreshClaim env)) sys) {c : CallId}
    {rq : Request} {r : Json}
    (replayed : sys.dispatcher.calls.get? c = some (.answered rq (.replay r))) :
    ∃ c₀ rq₀ out row, sys.dispatcher.calls.get? c₀ = some (.settled rq₀ out) ∧
      rq₀.key = rq.key ∧
      (∀ c' rq', sys.dispatcher.Told c' rq' → rq'.key = rq.key → c' = c₀) ∧
      sys.dispatcher.requests.find? rq.key = some row ∧
      (SameSeen (.answered rq (.replay r)) (.settled rq₀ out) ↔
        row.status = .completed ∧ Dispatcher.auditable env r = true) := by
  have runs := dispatcher_reach reached
  obtain ⟨row, found, settled, read⟩ := Dispatcher.replayed_of_reach runs c rq r replayed
  obtain ⟨c₀, rq₀, told, same, _⟩ := (Dispatcher.consistent_of_reach runs).stored _ row found
  obtain ⟨call₀, isCall, isTold⟩ := id told
  obtain ⟨row', found', tells⟩ := Dispatcher.recorded_of_reach runs c₀ call₀ rq₀ isCall isTold
  rw [same, found] at found'
  cases found'
  have only : ∀ c' rq', sys.dispatcher.Told c' rq' → rq'.key = rq.key → c' = c₀ :=
    fun c' rq' told' same' => (Dispatcher.ownership_of_reach runs).one c' c₀ rq' rq₀ told' told
      (same'.trans same.symm)
  cases call₀ with
  | refused x => cases isTold
  | answered rq₁ o => cases isTold
  | live l => exact absurd tells settled
  | settled rq₁ out =>
      cases isTold
      refine ⟨c₀, rq₀, out, row, isCall, same, only, found, ?_⟩
      rw [sameSeen_replay]
      have audits := Dispatcher.allPosted_of_reach runs c₀ _ out isCall
      cases out with
      | returned r₀ =>
          obtain ⟨completed, text⟩ := tells
          rw [loads_resultText text] at read
          rw [← Option.some.inj read, Dispatcher.auditable_canon]
          exact iff_of_true (Json.same_canon r₀).symm ⟨completed, audits⟩
      | unaudited r₀ =>
          obtain ⟨completed, text⟩ := tells
          rw [loads_resultText text] at read
          rw [← Option.some.inj read, Dispatcher.auditable_canon]
          exact iff_of_false (fun same => same) fun both =>
            Bool.noConfusion (both.2.symm.trans audits)
      | raised x =>
          refine iff_of_false (fun same => same) fun ⟨completed, _⟩ => ?_
          have tells : if x = .commandInFlight then row.status = .pending
            else row.status = .failed ∧ row.resultJson = some x.result.dumps := tells
          split at tells
          · exact settled tells
          · rw [tells.1] at completed
            cases completed
      | cancelled => exact absurd tells settled

def replaysResult (d : Dispatcher) : Bool :=
  match d.calls.get? 1 with
  | some (.answered rq (.replay r)) =>
      (d.requests.find? rq.key).any (fun row => decide (row.status = .completed)) &&
        Dispatcher.auditable Sample.env r
  | _ => false

/-- The answered command is replayed to its retry, which shows what the call showed. -/
theorem replay_observes_original_answered :
    ∃ (sys : System) (c₀ : CallId) (rq rq₀ : Request) (r : Json) (out : Outcome),
      sys.dispatcher.calls.get? 1 = some (.answered rq (.replay r)) ∧
      sys.dispatcher.calls.get? c₀ = some (.settled rq₀ out) ∧ rq₀.key = rq.key ∧
      SameSeen (.answered rq (.replay r)) (.settled rq₀ out) := by
  have reached : (system Sample.env).Reach
      (onActs Sample.env (Dispatcher.FreshClaim Sample.env)) System.init := .init
  obtain ⟨sys, reached, holds⟩ := reached.exists_of_execIf
    (Sample.serving ++ Sample.answered 0 "k-1" false 10 ++
      [.command 1 (Sample.command "k-1" false) (Sample.uuid 1) (Sample.second 20)])
    (fun sys => replaysResult sys.dispatcher) (by decide +kernel)
  unfold replaysResult at holds
  split at holds
  · rename_i rq r replayed
    obtain ⟨c₀, rq₀, out, row, ended, same, _, found, shows⟩ := replay_observes_original Sample.env
      reached replayed
    obtain ⟨completed, audits⟩ := Bool.and_eq_true_iff.mp holds
    rw [found, Option.any_some] at completed
    exact ⟨sys, c₀, rq, rq₀, r, out, replayed, ended, same,
      shows.mpr ⟨of_decide_eq_true completed, audits⟩⟩
  · cases holds

def replaysFailure (d : Dispatcher) : Bool :=
  match d.calls.get? 0, d.calls.get? 1 with
  | some (.settled rq₀ (.raised _)), some (.answered rq (.replay _)) => decide (rq₀.key = rq.key)
  | _, _ => false

/-- **A call that timed out is replayed to its retry as a result.** -/
theorem failedCall_replayed_as_result :
    ¬ ∀ sys : System, (system Sample.env).Reach Machine.anyStep sys →
      ∀ c c₀ rq rq₀ r out, sys.dispatcher.calls.get? c = some (.answered rq (.replay r)) →
        sys.dispatcher.calls.get? c₀ = some (.settled rq₀ out) → rq₀.key = rq.key →
          SameSeen (.answered rq (.replay r)) (.settled rq₀ out) := by
  intro shows
  have reached : (system Sample.env).Reach Machine.anyStep System.init := .init
  obtain ⟨sys, reached, holds⟩ := reached.exists_of_exec
    (Sample.serving ++ Sample.sent 0 "k-1" false 10 ++
      [.receive 0 (.ok (Sample.heartbeatFrame 1)) (Sample.second 60), .expire 0, .resume 0,
        .command 1 (Sample.command "k-1" false) (Sample.uuid 1) (Sample.second 75)])
    (fun sys => replaysFailure sys.dispatcher) (by decide +kernel)
  unfold replaysFailure at holds
  split at holds
  · rename_i rq₀ x rq r original retry
    exact sameSeen_replay.mp
      (shows sys reached 1 0 rq rq₀ r _ retry original (of_decide_eq_true holds))
  · cases holds

end RemoteAgent
