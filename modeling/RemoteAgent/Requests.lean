import RemoteAgent.Lib.JsonRoundTrip
import RemoteAgent.Lib.Table
import RemoteAgent.Protocol

/-!
# The idempotency table (`agent_requests` in `store.py`)

`claimRequest` is the `INSERT OR IGNORE` and the `SELECT` after it, with the
answer read off the row that the `SELECT` found; `completeRequest` is the
`UPDATE` guarded by `status = 'pending'`.  The columns `created_at` and
`completed_at`, which nothing reads, are left out.

* `claimRequest_absent` and `claimRequest_present` say everything a claim does,
  in terms of lookups.
* `Requests.Sound` is the one invariant of the table: a settled row holds the
  text of a JSON value.
-/

open Wire Storage

namespace RemoteAgent

/-- The primary key of `agent_requests`. -/
structure RequestKey where
  connectorId : String
  clientId : String
  idempotencyKey : String
deriving DecidableEq, Repr

inductive RequestStatus where
  | pending | completed | failed
deriving DecidableEq, Repr

structure RequestRow where
  key : RequestKey
  requestId : String
  toolName : String
  requestDigest : String
  status : RequestStatus
  resultJson : Option String

abbrev Requests := Table RequestRow.key

/-- What `claim_request` answers; `broken` is an exception it lets through. -/
inductive ClaimOutcome where
  | new
  | conflict
  | pending
  | replay (result : Json)
  | broken

/-- The arguments of `claim_request`. -/
structure Claim where
  key : RequestKey
  requestId : String
  toolName : String
  requestDigest : String

/-- The row that `claim_request` inserts. -/
def Claim.row (c : Claim) : RequestRow where
  key := c.key
  requestId := c.requestId
  toolName := c.toolName
  requestDigest := c.requestDigest
  status := .pending
  resultJson := none

/-- `existing["result_json"] or "{}"`. -/
def RequestRow.resultText (row : RequestRow) : String :=
  match row.resultJson with
  | some text => if text = "" then "{}" else text
  | none => "{}"

/-- The answer read off the stored row. -/
def RequestRow.answer (row : RequestRow) (c : Claim) : ClaimOutcome :=
  if row.requestId = c.requestId then .new
  else if row.requestDigest ≠ c.requestDigest then .conflict
  else if row.status = .pending then .pending
  else
    match Json.loads row.resultText with
    | some result => .replay result
    | none => .broken

/-- `claim_request`. -/
def claimRequest (t : Requests) (c : Claim) : Requests × ClaimOutcome :=
  let t := t.insertOrIgnore c.row
  match t.find? c.key with
  | some row => (t, row.answer c)
  | none => (t, .broken)

/-- The assignment of `complete_request`. -/
def RequestRow.settle (status : RequestStatus) (result : Json) (row : RequestRow) : RequestRow :=
  { row with status := status, resultJson := some result.dumps }

theorem RequestRow.settle_key (status : RequestStatus) (result : Json) (row : RequestRow) :
    (row.settle status result).key = row.key := rfl

/-- `complete_request`. -/
def completeRequest (t : Requests) (key : RequestKey) (status : RequestStatus) (result : Json) :
    Requests :=
  t.updateWhere (fun row => decide (row.key = key ∧ row.status = .pending))
    (RequestRow.settle status result) (RequestRow.settle_key status result)

/-! ## What a claim does -/

theorem find?_claimRequest (t : Requests) (c : Claim) (k : RequestKey) :
    (claimRequest t c).1.find? k = (t.find? k).or (if c.key = k then some c.row else none) := by
  have same : (claimRequest t c).1 = t.insertOrIgnore c.row := by
    unfold claimRequest
    dsimp only
    split <;> rfl
  rw [same]
  exact Table.find?_insertOrIgnore t c.row k

/-- A claim on a key without a row is told it is new, and its row is stored. -/
theorem claimRequest_absent {t : Requests} {c : Claim} (absent : t.find? c.key = none) :
    (claimRequest t c).2 = .new := by
  have found : (t.insertOrIgnore c.row).find? c.key = some c.row := by
    rw [Table.find?_insertOrIgnore, absent, Option.none_or]
    exact if_pos rfl
  unfold claimRequest
  simp only [found]
  exact if_pos rfl

/-- A claim on a key with a row is answered from it. -/
theorem claimRequest_present {t : Requests} {c : Claim} {row : RequestRow}
    (present : t.find? c.key = some row) : (claimRequest t c).2 = row.answer c := by
  have found : (t.insertOrIgnore c.row).find? c.key = some row := by
    rw [Table.find?_insertOrIgnore, present, Option.some_or]
  unfold claimRequest
  simp only [found]

/-- A claim leaves a row that is there alone. -/
theorem find?_claimRequest_of_some {t : Requests} {c : Claim} {k : RequestKey} {row : RequestRow}
    (found : t.find? k = some row) : (claimRequest t c).1.find? k = some row := by
  rw [find?_claimRequest, found, Option.some_or]

theorem find?_claimRequest_of_ne {t : Requests} {c : Claim} {k : RequestKey} (ne : c.key ≠ k) :
    (claimRequest t c).1.find? k = t.find? k := by
  rw [find?_claimRequest, if_neg ne, Option.or_none]

theorem find?_claimRequest_self {t : Requests} {c : Claim} (absent : t.find? c.key = none) :
    (claimRequest t c).1.find? c.key = some c.row := by
  rw [find?_claimRequest, absent, Option.none_or, if_pos rfl]

/-- **When a claim is told it is new.** -/
theorem claimRequest_new_iff {t : Requests} {c : Claim} :
    (claimRequest t c).2 = .new ↔
      ∀ row, t.find? c.key = some row → row.requestId = c.requestId := by
  cases found : t.find? c.key with
  | none =>
      rw [claimRequest_absent found]
      refine ⟨fun _ row present => ?_, fun _ => rfl⟩
      cases present
  | some row =>
      rw [claimRequest_present found]
      have answer : row.answer c = .new ↔ row.requestId = c.requestId := by
        unfold RequestRow.answer
        by_cases own : row.requestId = c.requestId
        · rw [if_pos own]
          exact ⟨fun _ => own, fun _ => rfl⟩
        · rw [if_neg own]
          refine ⟨fun new => ?_, fun same => absurd same own⟩
          split at new
          · cases new
          · split at new
            · cases new
            · split at new <;> cases new
      rw [answer]
      exact ⟨fun own _ present => Option.some.inj present ▸ own, fun all => all row rfl⟩

/-- A claim is told `pending` only from a row that is. -/
theorem claimRequest_pending {t : Requests} {c : Claim} (told : (claimRequest t c).2 = .pending) :
    ∃ row, t.find? c.key = some row ∧ row.status = .pending := by
  cases found : t.find? c.key with
  | none =>
      rw [claimRequest_absent found] at told
      cases told
  | some row =>
      rw [claimRequest_present found] at told
      refine ⟨row, rfl, ?_⟩
      unfold RequestRow.answer at told
      split at told
      · cases told
      · split at told
        · cases told
        · split at told
          · assumption
          · split at told <;> cases told

/-! ## What completing does -/

theorem find?_completeRequest (t : Requests) (key : RequestKey) (status : RequestStatus)
    (result : Json) (k : RequestKey) :
    (completeRequest t key status result).find? k =
      (t.find? k).map fun row =>
        if row.key = key ∧ row.status = .pending then row.settle status result else row := by
  unfold completeRequest
  rw [Table.find?_updateWhere]
  simp only [decide_eq_true_eq]

/-- Completing touches the row of its own key only. -/
theorem find?_completeRequest_of_ne {t : Requests} {key k : RequestKey} {status : RequestStatus}
    {result : Json} (ne : k ≠ key) :
    (completeRequest t key status result).find? k = t.find? k := by
  rw [find?_completeRequest]
  cases found : t.find? k with
  | none => rfl
  | some row =>
      have other : row.key ≠ key := by rw [Table.key_of_find? found]; exact ne
      simp only [Option.map_some, if_neg fun both : row.key = key ∧ _ => other both.1]

/-- Completing a settled row does nothing. -/
theorem find?_completeRequest_settled {t : Requests} {key : RequestKey} {status : RequestStatus}
    {result : Json} {row : RequestRow} (found : t.find? key = some row)
    (settled : row.status ≠ .pending) :
    (completeRequest t key status result).find? key = some row := by
  rw [find?_completeRequest, found, Option.map_some,
    if_neg fun both : row.key = key ∧ _ => settled both.2]

/-- Completing a pending row stores the status and the text of the result. -/
theorem find?_completeRequest_pending {t : Requests} {key : RequestKey} {status : RequestStatus}
    {result : Json} {row : RequestRow} (found : t.find? key = some row)
    (pending : row.status = .pending) :
    (completeRequest t key status result).find? key = some (row.settle status result) := by
  rw [find?_completeRequest, found, Option.map_some, if_pos ⟨Table.key_of_find? found, pending⟩]

/-- Completing never adds or drops a row, nor changes who owns it. -/
theorem find?_completeRequest_owner {t : Requests} {key k : RequestKey} {status : RequestStatus}
    {result : Json} {row : RequestRow}
    (found : (completeRequest t key status result).find? k = some row) :
    ∃ old, t.find? k = some old ∧ row.requestId = old.requestId ∧
      row.requestDigest = old.requestDigest := by
  rw [find?_completeRequest] at found
  obtain ⟨old, stored, eq⟩ := Option.map_eq_some_iff.mp found
  refine ⟨old, stored, ?_⟩
  rw [← eq]
  split <;> exact ⟨rfl, rfl⟩

/-! ## Stored results -/

theorem dumps_ne_empty (j : Json) : j.dumps ≠ "" := by
  intro empty
  have read := Json.loads_dumps j
  rw [empty] at read
  have none_read : Json.loads "" = none := by decide +kernel
  rw [none_read] at read
  cases read

/-- The text stored for a result is read back as that result. -/
theorem loads_resultText {row : RequestRow} {result : Json}
    (stored : row.resultJson = some result.dumps) :
    Json.loads row.resultText = some result.canon := by
  simp only [RequestRow.resultText, stored, if_neg (dumps_ne_empty result), Json.loads_dumps]

/-- Every settled row holds the text of a JSON value. -/
def Requests.Sound (t : Requests) : Prop :=
  ∀ key row, t.find? key = some row → row.status ≠ .pending →
    ∃ result : Json, row.resultJson = some result.dumps

theorem Requests.sound_empty : Requests.Sound Table.empty := by
  intro key row found
  cases found

theorem Requests.Sound.claim {t : Requests} (sound : t.Sound) (c : Claim) :
    Requests.Sound (claimRequest t c).1 := by
  intro key row found settled
  rw [find?_claimRequest] at found
  cases stored : t.find? key with
  | some old =>
      rw [stored, Option.some_or] at found
      exact sound key row (stored.trans found) settled
  | none =>
      rw [stored, Option.none_or] at found
      split at found
      · rw [← Option.some.inj found] at settled
        exact absurd rfl settled
      · cases found

theorem Requests.Sound.complete {t : Requests} (sound : t.Sound) (k : RequestKey)
    (status : RequestStatus) (result : Json) :
    Requests.Sound (completeRequest t k status result) := by
  intro key row found settled
  rw [find?_completeRequest] at found
  obtain ⟨old, stored, eq⟩ := Option.map_eq_some_iff.mp found
  split at eq
  · rw [← eq]
    exact ⟨result, rfl⟩
  · rw [eq] at stored
    exact sound key row stored settled

/-- In a sound table no claim lets an exception through. -/
theorem Requests.Sound.claim_not_broken {t : Requests} (sound : t.Sound) (c : Claim) :
    (claimRequest t c).2 ≠ .broken := by
  cases found : t.find? c.key with
  | none =>
      rw [claimRequest_absent found]
      exact fun broken => nomatch broken
  | some row =>
      rw [claimRequest_present found]
      unfold RequestRow.answer
      split
      · exact fun broken => nomatch broken
      · split
        · exact fun broken => nomatch broken
        · split
          · exact fun broken => nomatch broken
          · rename_i settled
            obtain ⟨result, stored⟩ := sound c.key row found settled
            rw [loads_resultText stored]
            exact fun broken => nomatch broken

end RemoteAgent
