import RemoteAgent.Authority
import RemoteAgent.Upgrade
import RemoteAgent.WriteOnce

/-!
# The requests in a migrated database

The server over the table `agent_requests` that `_migrate` leaves: the statements of
`claim_request` and `complete_request` over its rows, under whatever clock.

* `performs_refines`: over the rows with a client they do what they do over the typed table,
  give the same answers, violate no constraint and leave the other rows alone.
* `Dispatcher.Accounts`: the calls of the store behind a run, with their answers.
* `requests_persisted`: both together, over every run of the server from a start on.
-/

open Wire Storage Transition

namespace RemoteAgent

/-! ## Statements over the rows -/

namespace Migration

open Sql

/-- `existing["result_json"] or "{}"`. -/
def resultText (row : Row) : String :=
  match row "result_json" with
  | .text text => if text = "" then "{}" else text
  | _ => "{}"

/-- The answer of `claim_request`, read off the row that its `SELECT` finds. -/
def answerOf (c : Claim) : Option Row → ClaimOutcome
  | none => .broken
  | some row =>
      if row "request_id" = .text c.requestId then .new
      else if row "request_digest" ≠ .text c.requestDigest then .conflict
      else if row "status" = .text "pending" then .pending
      else
        match Json.loads (resultText row) with
        | some result => .replay result
        | none => .broken

theorem Stored.resultText {row : Row} {r : RequestRow} (stored : Stored row r) :
    Migration.resultText row = r.resultText := by
  unfold Migration.resultText RequestRow.resultText
  rw [stored.resultJson]
  cases r.resultJson <;> rfl

theorem Stored.answer {row : Row} {r : RequestRow} (stored : Stored row r) (c : Claim) :
    answerOf c (some row) = r.answer c := by
  unfold answerOf RequestRow.answer
  dsimp only
  rw [stored.requestId, stored.requestDigest, stored.status, stored.resultText]
  exact if_congr (by rw [Value.text.injEq]) rfl
    (if_congr (by rw [ne_eq, ne_eq, Value.text.injEq]) rfl
      (if_congr (by rw [Value.text.injEq, statusText_pending_iff]) rfl rfl))

/-- The claims among the calls, with the answers that the rows give them. -/
def answers : List Row → List Call → List (Claim × ClaimOutcome)
  | _, [] => []
  | rows, .claim now c :: calls =>
      (c, answerOf c (claimRows now c rows).2) :: answers (claimRows now c rows).1 calls
  | rows, .complete now key status result :: calls =>
      answers (completeRows now key status result rows) calls

/-- The call performs the operation, at some time. -/
inductive Performs : Call → TableOp → Prop where
  | claim (now : String) (c : Claim) : Performs (.claim now c) (.claim c)
  | complete (now : String) (key : RequestKey) (status : RequestStatus)
      (terminal : status ≠ .pending) (result : Json) :
      Performs (.complete now key status result) (.complete key status terminal result)

theorem Performs.key {call : Call} {op : TableOp} (performs : Performs call op) :
    call.key = op.key := by
  cases performs <;> rfl

/-- The rows with a client are the requests of the typed table, in their order. -/
def Holds (rows : List Row) (t : Requests) : Prop :=
  List.Forall₂ Stored (rows.filter live) t.rows

/-- The rows satisfy the constraints of the migrated table. -/
def Fits (rows : List Row) : Prop :=
  (∀ row ∈ rows, isolatedRequests.admits row = true) ∧
    rows.Pairwise fun row row' => isolatedRequests.collides row row' = false

theorem claimedRow_admitted (now : String) (c : Claim) :
    isolatedRequests.admits (claimedRow now c) = true := rfl

theorem collides_comm (row row' : Row) :
    isolatedRequests.collides row row' = isolatedRequests.collides row' row := by
  unfold Schema.collides
  refine congrArg _ (List.all_congr rfl fun name => decide_eq_decide.mpr ?_)
  exact ⟨fun both => ⟨both.1.symm, both.1 ▸ both.2⟩, fun both => ⟨both.1.symm, both.1 ▸ both.2⟩⟩

theorem completedRow_key {now : String} {key : RequestKey} {status : RequestStatus} {result : Json}
    {row : Row} {name : String} (inKey : name ∈ isolatedRequests.primaryKey) :
    completedRow now key status result row name = row name := by
  have apart : name ≠ "status" ∧ name ≠ "result_json" ∧ name ≠ "completed_at" := by
    revert name
    decide
  unfold completedRow
  split
  · unfold settledRow
    rw [Function.update_of_ne apart.2.2, Function.update_of_ne apart.2.1,
      Function.update_of_ne apart.1]
  · rfl

/-- The column of a name is the only one. -/
theorem column_of_name {column : Column} (mem : column ∈ isolatedRequests.columns) :
    (column.name = "status" → column = textOneOf "status" requestStatuses) ∧
      (column.name = "result_json" → column = text "result_json") ∧
      (column.name = "completed_at" → column = text "completed_at") := by
  revert column
  decide

theorem completedRow_admitted {now : String} {key : RequestKey} {status : RequestStatus}
    {result : Json} {row : Row} (admitted : isolatedRequests.admits row = true) :
    isolatedRequests.admits (completedRow now key status result row) = true := by
  unfold completedRow
  split
  · refine List.all_eq_true.mpr fun column mem => ?_
    obtain ⟨isStatus, isResult, isCompletedAt⟩ := column_of_name mem
    unfold settledRow
    by_cases completedAt : column.name = "completed_at"
    · rw [completedAt, Function.update_self, isCompletedAt completedAt]
      rfl
    · rw [Function.update_of_ne completedAt]
      by_cases resultJson : column.name = "result_json"
      · rw [resultJson, Function.update_self, isResult resultJson]
        rfl
      · rw [Function.update_of_ne resultJson]
        by_cases statusCell : column.name = "status"
        · rw [statusCell, Function.update_self, isStatus statusCell]
          cases status <;> rfl
        · rw [Function.update_of_ne statusCell]
          exact List.all_eq_true.mp admitted column mem
  · exact admitted

theorem collides_completedRow {now : String} {key : RequestKey} {status : RequestStatus}
    {result : Json} (row row' : Row) :
    isolatedRequests.collides (completedRow now key status result row)
      (completedRow now key status result row') = isolatedRequests.collides row row' := by
  unfold Schema.collides
  refine congrArg _ (Bool.eq_iff_iff.mpr ?_)
  rw [List.all_eq_true, List.all_eq_true]
  refine forall₂_congr fun name mem => ?_
  rw [completedRow_key mem, completedRow_key mem]

/-- **No call violates a constraint.** -/
theorem Fits.run {rows : List Row} (fits : Fits rows) (call : Call) : Fits (call.run rows).1 := by
  obtain ⟨admitted, distinct⟩ := fits
  cases call with
  | claim now c =>
      show Fits (claimRows now c rows).1
      unfold claimRows
      dsimp only
      split
      · exact ⟨admitted, distinct⟩
      · rename_i free
        constructor
        · intro row mem
          rcases List.mem_append.mp mem with old | isNew
          · exact admitted row old
          · rw [List.mem_singleton.mp isNew]
            exact claimedRow_admitted now c
        · refine List.pairwise_append.mpr ⟨distinct, List.pairwise_singleton _ _, ?_⟩
          intro row mem row' isNew
          rw [List.mem_singleton.mp isNew, collides_comm]
          by_contra collides
          exact free (List.any_eq_true.mpr ⟨row, mem, by simpa using collides⟩)
  | complete now key status result =>
      constructor
      · intro row mem
        obtain ⟨was, before, rfl⟩ := List.mem_map.mp mem
        exact completedRow_admitted (admitted was before)
      · refine List.pairwise_map.mpr (distinct.imp fun apart => ?_)
        rw [collides_completedRow, apart]

/-- A call with a client does over the rows with one what its operation does. -/
theorem Holds.run {rows : List Row} {t : Requests} (holds : Holds rows t) {call : Call}
    {op : TableOp} (performs : Performs call op) (client : op.key.clientId ≠ "") :
    Holds (call.run rows).1 (op.apply t) := by
  obtain ⟨-, isLive, -⟩ := run_live (performs.key ▸ client) rows
  unfold Holds
  rw [isLive]
  cases performs with
  | claim now c => exact (claimRows_stored holds now c).1
  | complete now key status terminal result =>
      exact completeRows_stored holds now key status result

theorem claimRequest_answer (t : Requests) (c : Claim) :
    (claimRequest t c).2 = ((claimRequest t c).1.find? c.key).elim .broken (·.answer c) := by
  unfold claimRequest
  dsimp only
  split
  · rename_i row found
    rw [found]
    rfl
  · rename_i absent
    rw [absent]
    rfl

/-- The row that a claim reads answers as the typed table does. -/
theorem Holds.answer {rows : List Row} {t : Requests} (holds : Holds rows t) (now : String)
    {c : Claim} (client : c.key.clientId ≠ "") :
    answerOf c (claimRows now c rows).2 = (claimRequest t c).2 := by
  have read : (claimRows now c rows).2 = (claimRows now c (rows.filter live)).2 :=
    (claimRows_live now client).2.2
  rw [read, claimRequest_answer]
  have same := (claimRows_stored holds now c).2
  revert same
  generalize (claimRows now c (rows.filter live)).2 = found
  generalize (claimRequest t c).1.find? c.key = row
  rintro (stored | _)
  · exact stored.answer c
  · rfl

/-- What calls over the rows have in common with operations on the typed table. -/
structure Refines (rows : List Row) (calls : List Call) (t : Requests) (ops : List TableOp) :
    Prop where
  requests : Holds (runCalls calls rows).1 (ops.foldl TableOp.apply t)
  tombstones : (runCalls calls rows).1.filter tombstone = rows.filter tombstone
  constraints : Fits (runCalls calls rows).1
  answers : answers rows calls = TableOp.outcomes t ops

/-- **Calls over the rows against operations on the typed table.** -/
theorem performs_refines {calls : List Call} {ops : List TableOp}
    (performs : List.Forall₂ Performs calls ops) (clients : ∀ op ∈ ops, op.key.clientId ≠ "")
    {rows : List Row} {t : Requests} (holds : Holds rows t) (fits : Fits rows) :
    Refines rows calls t ops := by
  induction performs generalizing rows t with
  | nil => exact ⟨holds, rfl, fits, rfl⟩
  | @cons call op calls ops first _ ih =>
      have client := clients op List.mem_cons_self
      have rest := ih (fun op mem => clients op (List.mem_cons_of_mem _ mem))
        (holds.run first client) (fits.run call)
      refine ⟨rest.requests, ?_, rest.constraints, ?_⟩
      · exact rest.tombstones.trans (run_live (first.key ▸ client) rows).1
      · cases first with
        | claim now c =>
            exact congrArg₂ List.cons (congrArg (Prod.mk c) (holds.answer now client)) rest.answers
        | complete now key status terminal result => exact rest.answers

end Migration

/-! ## The operations behind a run -/

theorem TableOp.outcomes_append (t : Requests) (ops : List TableOp) (op : TableOp) :
    outcomes t (ops ++ [op]) = outcomes t ops ++ outcomes (ops.foldl apply t) [op] := by
  induction ops generalizing t with
  | nil => rfl
  | cons first ops ih =>
      cases first with
      | claim c => exact congrArg (List.cons _) (ih _)
      | complete key status terminal result => exact ih _

namespace Dispatcher

variable {env : Env} {d d' : Dispatcher} {a : Act}

/-- Call `c` has been given the answer `o` to the claim of `rq`. -/
def Claimed (d : Dispatcher) (c : CallId) (rq : Request) (o : ClaimOutcome) : Prop :=
  ∃ call, d.calls.get? c = some call ∧ call.claimed? = some (rq, o)

theorem claimed_failPending {k : ConnId} {c : CallId} {rq : Request} {o : ClaimOutcome} :
    (d.failPending k).Claimed c rq o ↔ d.Claimed c rq o := by
  unfold Claimed
  rw [get?_failPending]
  cases d.calls.get? c with
  | none => rfl
  | some call =>
      cases call with
      | live l =>
          dsimp only
          split <;> simp [Call.claimed?]
      | _ => rfl

/-- What an effect does to the table and to the answers that calls have been given. -/
inductive Stores (env : Env) (d d' : Dispatcher) (a : Act) : Prop where
  | nothing (requests : d'.requests = d.requests)
      (claimed : ∀ c rq o, d'.Claimed c rq o ↔ d.Claimed c rq o)
  | claims (c : CallId) (rq : Request) (came : d.incoming env a = some (c, rq))
      (requests : d'.requests = (claimRequest d.requests (rq.claim env)).1)
      (claimed : ∀ c' rq' o, d'.Claimed c' rq' o ↔ d.Claimed c' rq' o ∨
        c' = c ∧ rq' = rq ∧ o = (claimRequest d.requests (rq.claim env)).2)
  | completes (c : CallId) (l : Live) (status : RequestStatus) (terminal : status ≠ .pending)
      (result : Json) (was : d.IsLive c l)
      (requests : d'.requests = completeRequest d.requests l.request.key status result)
      (claimed : ∀ c rq o, d'.Claimed c rq o ↔ d.Claimed c rq o)

/-- A call over one that had been given the same answer, or none. -/
theorem claimed_insert {calls : Dict CallId Call} {c : CallId} {call : Call}
    (same : (calls.get? c).bind Call.claimed? = call.claimed?) (c' : CallId) (rq : Request)
    (o : ClaimOutcome) :
    (∃ call', (calls.insert c call).get? c' = some call' ∧ call'.claimed? = some (rq, o)) ↔
      ∃ call', calls.get? c' = some call' ∧ call'.claimed? = some (rq, o) := by
  rw [Dict.get?_insert]
  split
  · rename_i here
    subst here
    rw [← Option.bind_eq_some_iff, ← Option.bind_eq_some_iff, same]
    rfl
  · rfl

theorem claimed_insert_fresh {calls : Dict CallId Call} {c : CallId} {call : Call} {rq : Request}
    {o : ClaimOutcome} (free : calls.get? c = none) (is : call.claimed? = some (rq, o))
    (c' : CallId) (rq' : Request) (o' : ClaimOutcome) :
    (∃ call', (calls.insert c call).get? c' = some call' ∧ call'.claimed? = some (rq', o')) ↔
      (∃ call', calls.get? c' = some call' ∧ call'.claimed? = some (rq', o')) ∨
        c' = c ∧ rq' = rq ∧ o' = o := by
  rw [Dict.get?_insert]
  split
  · rename_i here
    subst here
    rw [free, ← Option.bind_eq_some_iff, Option.bind_some, is]
    simp [eq_comm]
  · rename_i other
    simp [other]

theorem Effect.stores (effect : Effect env d d' a) : Stores env d d' a := by
  cases effect with
  | idle requests inFlight pending dispatched calls =>
      refine .nothing requests fun c rq o => ?_
      unfold Claimed
      rcases calls c with same | ⟨free, e, refused, _⟩
      · rw [same]
      · rw [free, refused]
        simp [Call.claimed?]
  | tuned c l l' was tunes requests inFlight pending dispatched calls =>
      refine .nothing requests fun c' rq o => ?_
      unfold Claimed
      rw [calls]
      refine claimed_insert ?_ c' rq o
      rw [show d.calls.get? c = _ from was]
      exact congrArg (fun rq => some (rq, ClaimOutcome.new)) tunes.request.symm
  | lost k requests inFlight pending dispatched calls =>
      refine .nothing requests fun c rq o => ?_
      unfold Claimed
      rw [calls]
      exact claimed_failPending
  | answered c rq came fresh notNew eq =>
      subst eq
      exact .claims c rq came rfl (claimed_insert_fresh fresh rfl)
  | blocked c rq came fresh new taken eq =>
      subst eq
      exact .claims c rq came rfl (claimed_insert_fresh fresh (congrArg (fun o => some (rq, o))
        (new : _ = _).symm))
  | dispatch c rq inFlight came fresh new acquired eq =>
      subst eq
      exact .claims c rq came rfl (claimed_insert_fresh fresh (congrArg (fun o => some (rq, o))
        (new : _ = _).symm))
  | settled c l out was interrupted raised returned requests inFlight pending dispatched calls =>
      have claimed : ∀ c' rq o, d'.Claimed c' rq o ↔ d.Claimed c' rq o := by
        intro c' rq o
        unfold Claimed
        rw [calls]
        refine claimed_insert ?_ c' rq o
        rw [show d.calls.get? c = _ from was]
        rfl
      cases out with
      | returned r | unaudited r => exact .completes c l .completed (by decide) r was requests claimed
      | raised e => exact .completes c l .failed (by decide) e.result was requests claimed
      | cancelled => exact .nothing requests claimed

/-- The operations behind a state, from the table of its start on, and the answers that its
calls have been given. -/
structure Accounts (env : Env) (t : Requests) (d : Dispatcher) (ops : List TableOp) : Prop where
  table : d.requests = ops.foldl TableOp.apply t
  clients : ∀ op ∈ ops, op.key.clientId ≠ ""
  answered : ∀ claim o, (claim, o) ∈ TableOp.outcomes t ops ↔
    ∃ c rq, d.Claimed c rq o ∧ rq.claim env = claim

theorem mem_outcomes {t : Requests} {ops : List TableOp} {claim : Claim} {o : ClaimOutcome}
    (mem : (claim, o) ∈ TableOp.outcomes t ops) : .claim claim ∈ ops := by
  induction ops generalizing t with
  | nil => cases mem
  | cons op ops ih =>
      cases op with
      | claim c =>
          rcases List.mem_cons.mp mem with first | rest
          · cases first
            exact List.mem_cons_self
          · exact List.mem_cons_of_mem _ (ih rest)
      | complete key status terminal result => exact List.mem_cons_of_mem _ (ih mem)

theorem Accounts.append {t : Requests} {ops : List TableOp} (logged : Accounts env t d ops)
    (op : TableOp) (requests : d'.requests = op.apply d.requests) (client : op.key.clientId ≠ "")
    (answered : ∀ claim o, (claim, o) ∈ TableOp.outcomes d.requests [op] ∨
      (∃ c rq, d.Claimed c rq o ∧ rq.claim env = claim) ↔
        ∃ c rq, d'.Claimed c rq o ∧ rq.claim env = claim) : Accounts env t d' (ops ++ [op]) where
  table := by rw [requests, logged.table, List.foldl_append, List.foldl_cons, List.foldl_nil]
  clients := by
    intro op' mem
    rcases List.mem_append.mp mem with old | isNew
    · exact logged.clients op' old
    · exact List.mem_singleton.mp isNew ▸ client
  answered := by
    intro claim o
    rw [TableOp.outcomes_append, List.mem_append, logged.answered, ← logged.table, or_comm]
    exact answered claim o

/-- A step adds at most one operation. -/
theorem Accounts.stores {t : Requests} {ops : List TableOp} (logged : Accounts env t d ops)
    (stores : Stores env d d' a)
    (clients : ∀ c rq, d.incoming env a = some (c, rq) → rq.key.clientId ≠ "") :
    ∃ ops', Accounts env t d' ops' := by
  cases stores with
  | nothing requests claimed =>
      refine ⟨ops, requests.trans logged.table, logged.clients, fun claim o => ?_⟩
      rw [logged.answered]
      exact exists_congr fun c => exists_congr fun rq => and_congr_left' (claimed c rq o).symm
  | claims c rq came requests claimed =>
      refine ⟨ops ++ [.claim (rq.claim env)],
        logged.append (.claim _) requests (clients c rq came) fun claim o => ?_⟩
      constructor
      · rintro (isNew | ⟨c', rq', old, is⟩)
        · cases List.mem_singleton.mp isNew
          exact ⟨c, rq, (claimed c rq _).mpr (Or.inr ⟨rfl, rfl, rfl⟩), rfl⟩
        · exact ⟨c', rq', (claimed c' rq' o).mpr (Or.inl old), is⟩
      · rintro ⟨c', rq', given, is⟩
        rcases (claimed c' rq' o).mp given with old | ⟨rfl, rfl, rfl⟩
        · exact Or.inr ⟨c', rq', old, is⟩
        · exact Or.inl (is ▸ List.mem_singleton_self _)
  | completes c l status terminal result was requests claimed =>
      have told : (l.request.claim env, ClaimOutcome.new) ∈ TableOp.outcomes t ops :=
        (logged.answered _ _).mpr ⟨c, l.request, ⟨.live l, was, rfl⟩, rfl⟩
      refine ⟨ops ++ [.complete l.request.key status terminal result],
        logged.append (.complete _ _ _ _) requests (logged.clients (.claim _) (mem_outcomes told))
          fun claim o => ?_⟩
      constructor
      · rintro (none_ | ⟨c', rq', old, is⟩)
        · cases none_
        · exact ⟨c', rq', (claimed c' rq' o).mpr old, is⟩
      · rintro ⟨c', rq', given, is⟩
        exact Or.inr ⟨c', rq', (claimed c' rq' o).mp given, is⟩

theorem incoming_client {c : CallId} {rq : Request} (came : d.incoming env a = some (c, rq)) :
    ∃ connectorId input row uuid now, a = .command c connectorId input row uuid now ∧
      rq.key.clientId = input.clientId := by
  unfold incoming at came
  split at came
  · rename_i c₀ connectorId input row uuid now
    split at came
    · cases came
    · split at came
      · rename_i rq₀ prepared
        cases came
        obtain ⟨found, k, _, rfl⟩ := prepare_ok prepared
        exact ⟨connectorId, input, row, uuid, now, rfl, rfl⟩
      · cases came
  · cases came

end Dispatcher

namespace Server

variable {server : Server} {env : Env}

/-- A delegation that verifies names its client. -/
theorem Admits.client {request : ToolRequest} {received : Int} {identity : DelegatedIdentity}
    (admits : server.Admits env request received identity) : identity.clientId ≠ "" := by
  obtain ⟨claimed, -, isClaimed, -, -, -, -, is⟩ := verifyDelegationHeaders_ok (attempt_ok admits.identity)
  obtain ⟨client, isClient, isClaimed⟩ := bind_ok isClaimed
  obtain ⟨scopes, -, isClaimed⟩ := bind_ok isClaimed
  obtain ⟨nonce, -, isClaimed⟩ := bind_ok isClaimed
  split at isClaimed
  · cases isClaimed
  · cases isClaimed
    rw [is]
    exact Migration.clientId_ne_blank isClient

/-- **Behind every state of a run there are operations with a client.** -/
theorem logged_of_reach {sys sys' : System} (fresh : ∀ c, sys.dispatcher.calls.get? c = none)
    (reached : ((server.machine env).startAt sys).Reach Machine.anyStep sys') :
    ∃ ops, Dispatcher.Accounts env sys.dispatcher.requests sys'.dispatcher ops := by
  refine reached.invariant
    (I := fun sys' => ∃ ops, Dispatcher.Accounts env sys.dispatcher.requests sys'.dispatcher ops)
    ⟨[], rfl, (fun _ mem => nomatch mem), fun claim o => ⟨(fun mem => nomatch mem), ?_⟩⟩ ?_
  · rintro ⟨c, rq, ⟨call, found, -⟩, -⟩
    exact absurd (found.symm.trans (fresh c)) (Option.some_ne_none _)
  · intro s s' incoming _ logged _ stepped
    obtain ⟨ops, logged⟩ := logged
    obtain ⟨happens, ⟨-, rfl⟩ | ⟨e, asks, stepped⟩⟩ := step_asks stepped
    · exact ⟨ops, logged⟩
    · have moved := (system_simulates env).step stepped
      cases act : s.act env e with
      | none =>
          rw [act] at moved
          exact ⟨ops, moved ▸ logged⟩
      | some a =>
          rw [act] at moved
          refine logged.stores (Dispatcher.step_effect moved).stores fun c rq came => ?_
          obtain ⟨connectorId, input, row, uuid, now, rfl, client⟩ :=
            Dispatcher.incoming_client came
          obtain ⟨rfl, -, -⟩ := System.act_command_event act
          obtain ⟨request, received, identity, -, admits, rfl⟩ := asks_command happens asks
          exact client ▸ admits.client

end Server

/-! ## The table of the server -/

/-- What calls of the store make of the rows of a table, against the connector. -/
structure Persisted (env : Env) (rows : List Sql.Row) (calls : List Migration.Call)
    (d : Dispatcher) : Prop where
  /-- The rows with a client are the requests of the connector. -/
  requests : Migration.Holds (Migration.runCalls calls rows).1 d.requests
  /-- The other rows are as they were. -/
  tombstones : (Migration.runCalls calls rows).1.filter Migration.tombstone =
    rows.filter Migration.tombstone
  constraints : Migration.Fits (Migration.runCalls calls rows).1
  /-- The rows give every command its answer, and no other answers. -/
  answers : ∀ claim o, (claim, o) ∈ Migration.answers rows calls ↔
    ∃ c rq, d.Claimed c rq o ∧ rq.claim env = claim

/-- **The server over a migrated database.**  From the table that `_migrate` leaves of any
database it is made for, a run of the server that starts with the requests of that table is a
sequence of calls of the store.  Performed over the rows, at any times, they keep the requests
of the connector, give every command the answer that it was given, violate no constraint, and
never touch a row without a client. -/
theorem requests_persisted (server : Server) (env : Env) {fails : Sql.Failures} {now : String}
    {c c' : Sql.Connection} (start : Migration.Start c.committed)
    (migrated : Migration.migrate fails now c = .ok () c') :
    ∃ t, c'.committed.table? "agent_requests" = some t ∧ ∀ {sys sys' : System},
      (∀ call, sys.dispatcher.calls.get? call = none) →
      Migration.Holds t.rows sys.dispatcher.requests →
      ((server.machine env).startAt sys).Reach Machine.anyStep sys' →
      ∃ ops, ∀ calls, List.Forall₂ Migration.Performs calls ops →
        Persisted env t.rows calls sys'.dispatcher := by
  obtain ⟨db', upgraded, isUpgraded⟩ := Migration.upgrade_start start
  obtain ⟨db'', did, same, -⟩ := Sql.transaction_ok Migration.runs_upgrade migrated
  cases upgraded.symm.trans did
  obtain ⟨t, found, isolated⟩ := isUpgraded.installed.requests
  refine ⟨t, same ▸ found, fun {sys sys'} fresh holds reached => ?_⟩
  obtain ⟨ops, logged⟩ := Server.logged_of_reach fresh reached
  refine ⟨ops, fun calls performs => ?_⟩
  have isolated : t.schema = Migration.isolatedRequests := isolated
  have fits : Migration.Fits t.rows := by
    unfold Migration.Fits
    rw [← isolated]
    exact ⟨t.admitted, t.distinct⟩
  have refines := Migration.performs_refines performs logged.clients holds fits
  exact {
    requests := logged.table ▸ refines.requests
    tombstones := refines.tombstones
    constraints := refines.constraints
    answers := fun claim o => by rw [refines.answers, logged.answered] }

namespace Sample

/-- The request of the legacy database that can be attributed to a client. -/
def storedRequest : RequestRow where
  key := ⟨"connector", "agy2api", "k-attr"⟩
  requestId := "attributable"
  toolName := "files.write"
  requestDigest := "digest"
  status := .completed
  resultJson := some "ok"

/-- The connector that starts with it. -/
def restarted : System :=
  { System.init with
    dispatcher := { System.init.dispatcher with
      requests := Storage.Table.empty.insertOrIgnore storedRequest } }

/-- What `_migrate` makes of the legacy database, read column by column. -/
theorem legacy_rows : ((Migration.upgrade "2026-02-01" Migration.Sample.legacy).bind fun p =>
    p.2.table? "agent_requests").any (fun t => decide (t.rows.length = 2) &&
      decide ((t.rows.filter Migration.live).map (Migration.isolatedRequests.names.map ·) =
        [[.text "connector", .text "agy2api", .text "k-attr", .text "attributable",
          .text "files.write", .text "digest", .text "completed", .text "ok",
          .text "2026-01-01", .text "2026-01-01"]])) = true := by decide +kernel

/-- A row that reads so holds the request. -/
theorem storedRequest_held {row : Sql.Row}
    (reads : Migration.isolatedRequests.names.map row = [.text "connector", .text "agy2api",
      .text "k-attr", .text "attributable", .text "files.write", .text "digest",
      .text "completed", .text "ok", .text "2026-01-01", .text "2026-01-01"]) :
    Migration.Stored row storedRequest := by
  have names : Migration.isolatedRequests.names = ["connector_id", "client_id",
    "idempotency_key", "request_id", "tool_name", "request_digest", "status", "result_json",
    "created_at", "completed_at"] := rfl
  rw [names] at reads
  injection reads with connectorId reads
  injection reads with clientId reads
  injection reads with idempotencyKey reads
  injection reads with requestId reads
  injection reads with toolName reads
  injection reads with requestDigest reads
  injection reads with status reads
  injection reads with resultJson reads
  exact ⟨connectorId, clientId, idempotencyKey, requestId, toolName, requestDigest, status,
    resultJson⟩

/-- A call of the store that performs an operation. -/
def performed : TableOp → Migration.Call
  | .claim c => .claim "2026-03-01" c
  | .complete key status _ result => .complete "2026-03-01" key status result

theorem performed_performs (ops : List TableOp) :
    List.Forall₂ Migration.Performs (ops.map performed) ops := by
  rw [List.forall₂_map_left_iff, List.forall₂_same]
  intro op _
  cases op with
  | claim c => exact .claim _ c
  | complete key status terminal result => exact .complete _ key status terminal result

end Sample

/-- A device is sent a request over the migrated legacy database. -/
theorem requests_persisted_legacy : ∃ (t : Sql.Table) (sys : System)
    (calls : List Migration.Call), t.rows.length = 2 ∧ sys.dispatcher.dispatched.length = 1 ∧
      Persisted Sample.delegationEnv t.rows calls sys.dispatcher := by
  have ends : ∃ c', Migration.migrate (fun _ => none) "2026-02-01"
      ⟨Migration.Sample.legacy, none, 0⟩ = .ok () c' :=
    Sql.transaction_ends Migration.runs_upgrade (fun _ => rfl) rfl
      (Migration.upgrade_start Migration.Sample.legacy_start).choose_spec.1
  obtain ⟨c', migrated⟩ := ends
  obtain ⟨t, found, persists⟩ := requests_persisted Sample.server Sample.delegationEnv
    Migration.Sample.legacy_start migrated
  have reads : decide (t.rows.length = 2) &&
      decide ((t.rows.filter Migration.live).map (Migration.isolatedRequests.names.map ·) =
        [[.text "connector", .text "agy2api", .text "k-attr", .text "attributable",
          .text "files.write", .text "digest", .text "completed", .text "ok",
          .text "2026-01-01", .text "2026-01-01"]]) := by
    obtain ⟨db, did, same, -⟩ := Sql.transaction_ok Migration.runs_upgrade migrated
    have rows := Sample.legacy_rows
    rw [did, Option.bind_some, ← same, found] at rows
    exact rows
  obtain ⟨two, one⟩ := (Bool.and_eq_true_iff.mp reads).imp of_decide_eq_true of_decide_eq_true
  obtain ⟨row, isRow, reads⟩ := List.map_eq_singleton_iff.mp one
  have holds : Migration.Holds t.rows Sample.restarted.dispatcher.requests := by
    unfold Migration.Holds
    rw [isRow]
    exact .cons (Sample.storedRequest_held reads) .nil
  obtain ⟨sys, reached, sent⟩ := Machine.Reach.exists_of_exec
    (M := (Sample.server.machine Sample.delegationEnv).startAt Sample.restarted) .init
    (Sample.orderedServing ++ [.tool 0 Sample.toolRequest (Sample.uuid 0) 1767225612
      (Sample.second 12)]) (fun sys => decide (sys.dispatcher.dispatched.length = 1))
    (by decide +kernel)
  obtain ⟨ops, persisted⟩ := persists (fun _ => rfl) holds reached
  exact ⟨t, sys, ops.map Sample.performed, two, of_decide_eq_true sent,
    persisted _ (Sample.performed_performs ops)⟩

end RemoteAgent
