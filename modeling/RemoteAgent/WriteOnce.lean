import Mathlib.Data.List.Induction
import RemoteAgent.Requests

/-!
# The idempotency table as independent write-once registers

A `Register` is what one key of the table is for: free until the first claim,
then open under the digest of that claim, then closed with one result for ever.
`registerOf key ops` is the register of `key` after a sequence of operations; it
looks at the operations on that key only.

* `Represents.apply` is the simulation step between the rows and the registers.
* `idempotencyTable_refines_registers` is the run: every claim of a sequence with
  distinct request ids is answered as the register of its key answers, and the
  operations of other clients change nothing that a client observes.

A completion that comes before the first claim of its key finds no row to
settle.  `keptCompletion_not_refined` shows that it is indeed forgotten.
-/

open Wire Storage

namespace RemoteAgent

/-! ## Operations on the table -/

/-- One call of the store; a completion settles the request one way or the other. -/
inductive TableOp where
  | claim (c : Claim)
  | complete (key : RequestKey) (status : RequestStatus) (terminal : status ≠ .pending)
      (result : Json)

namespace TableOp

def key : TableOp → RequestKey
  | .claim c => c.key
  | .complete key _ _ _ => key

def claimId? : TableOp → Option String
  | .claim c => some c.requestId
  | .complete .. => none

def apply (t : Requests) : TableOp → Requests
  | .claim c => (claimRequest t c).1
  | .complete key status _ result => completeRequest t key status result

/-- The table after a sequence of operations. -/
def run (ops : List TableOp) : Requests := ops.foldl apply Table.empty

/-- The request ids that the claims of a sequence carry. -/
def claimIds (ops : List TableOp) : List String := ops.filterMap claimId?

/-- The claims of a sequence with their answers. -/
def outcomes (t : Requests) : List TableOp → List (Claim × ClaimOutcome)
  | [] => []
  | .claim c :: ops => (c, (claimRequest t c).2) :: outcomes (claimRequest t c).1 ops
  | .complete key status _ result :: ops => outcomes (completeRequest t key status result) ops

/-- The operations of one client. -/
def ofClient (client : String) (op : TableOp) : Bool := decide (op.key.clientId = client)

/-- The answers that one client sees. -/
def seenBy (client : String) (p : Claim × ClaimOutcome) : Bool :=
  decide (p.1.key.clientId = client)

end TableOp

/-! ## Registers -/

/-- A write-once register. -/
inductive Register where
  | free
  | opened (digest : String)
  | closed (digest : String) (result : Json)

namespace Register

/-- What a claim with this digest is told. -/
def claim : Register → String → ClaimOutcome
  | .free, _ => .new
  | .opened d, digest => if d = digest then .pending else .conflict
  | .closed d result, digest => if d = digest then .replay result.canon else .conflict

/-- The first claim opens a register, the first completion after it closes it. -/
def after : Register → TableOp → Register
  | .free, .claim c => .opened c.requestDigest
  | .opened d, .complete _ _ _ result => .closed d result
  | r, _ => r

end Register

/-- The register of a key after a sequence of operations. -/
def registerOf (key : RequestKey) (ops : List TableOp) : Register :=
  (ops.filter fun op => decide (op.key = key)).foldl Register.after .free

theorem registerOf_append_self {key : RequestKey} (ops : List TableOp) {op : TableOp}
    (same : op.key = key) : registerOf key (ops ++ [op]) = (registerOf key ops).after op := by
  unfold registerOf
  have kept : [op].filter (fun op => decide (op.key = key)) = [op] :=
    List.filter_cons_of_pos (decide_eq_true same)
  rw [List.filter_append, List.foldl_append, kept]
  rfl

theorem registerOf_append_of_ne {key : RequestKey} (ops : List TableOp) {op : TableOp}
    (other : op.key ≠ key) : registerOf key (ops ++ [op]) = registerOf key ops := by
  unfold registerOf
  have dropped : [op].filter (fun op => decide (op.key = key)) = [] :=
    List.filter_cons_of_neg (by simpa using other)
  rw [List.filter_append, dropped, List.append_nil]

/-- The operations of other clients do not reach a client's registers. -/
theorem registerOf_ofClient {key : RequestKey} (ops : List TableOp) :
    registerOf key (ops.filter (TableOp.ofClient key.clientId)) = registerOf key ops := by
  unfold registerOf
  rw [List.filter_filter]
  congr 1
  refine List.filter_congr fun op _ => ?_
  by_cases same : op.key = key
  · simp only [same, decide_true, TableOp.ofClient, Bool.and_self]
  · simp only [same, decide_false, Bool.false_and]

/-! ## The simulation -/

/-- A row, or its absence, stands for a register; a stored request id is one of
those claimed so far. -/
def Represents (ids : List String) (found : Option RequestRow) : Register → Prop
  | .free => found = none
  | .opened digest =>
      ∃ row, found = some row ∧ row.status = .pending ∧ row.requestDigest = digest ∧
        row.requestId ∈ ids
  | .closed digest result =>
      ∃ row, found = some row ∧ row.status ≠ .pending ∧ row.requestDigest = digest ∧
        row.requestId ∈ ids ∧ row.resultJson = some result.dumps

theorem Represents.mono {ids ids' : List String} {found : Option RequestRow} {r : Register}
    (more : ∀ id ∈ ids, id ∈ ids') (rep : Represents ids found r) : Represents ids' found r := by
  cases r with
  | free => exact rep
  | opened digest =>
      obtain ⟨row, eq, status, same, mem⟩ := rep
      exact ⟨row, eq, status, same, more _ mem⟩
  | closed digest result =>
      obtain ⟨row, eq, status, same, mem, text⟩ := rep
      exact ⟨row, eq, status, same, more _ mem, text⟩

/-- **One operation keeps the table and its registers together.** -/
theorem Represents.apply {t : Requests} {ops : List TableOp}
    (rep : ∀ key, Represents (TableOp.claimIds ops) (t.find? key) (registerOf key ops))
    (op : TableOp) (key : RequestKey) :
    Represents (TableOp.claimIds (ops ++ [op])) ((op.apply t).find? key)
      (registerOf key (ops ++ [op])) := by
  have here := rep key
  have more : ∀ id ∈ TableOp.claimIds ops, id ∈ TableOp.claimIds (ops ++ [op]) := by
    intro id mem
    rw [TableOp.claimIds, List.filterMap_append]
    exact List.mem_append_left _ mem
  by_cases same : op.key = key
  · rw [registerOf_append_self ops same]
    cases op with
    | claim c =>
        obtain rfl : c.key = key := same
        cases reg : registerOf c.key ops with
        | free =>
            rw [reg] at here
            refine ⟨c.row, find?_claimRequest_self here, rfl, rfl, ?_⟩
            rw [TableOp.claimIds, List.filterMap_append]
            exact List.mem_append_right _ List.mem_cons_self
        | opened digest =>
            rw [reg] at here
            obtain ⟨row, found, rest⟩ := here
            exact Represents.mono more (r := .opened digest)
              ⟨row, find?_claimRequest_of_some found, rest⟩
        | closed digest result =>
            rw [reg] at here
            obtain ⟨row, found, rest⟩ := here
            exact Represents.mono more (r := .closed digest result)
              ⟨row, find?_claimRequest_of_some found, rest⟩
    | complete k status terminal result =>
        obtain rfl : k = key := same
        cases reg : registerOf k ops with
        | free =>
            rw [reg] at here
            have absent : t.find? k = none := here
            show (completeRequest t k status result).find? k = none
            rw [find?_completeRequest, absent, Option.map_none]
        | opened digest =>
            rw [reg] at here
            obtain ⟨row, found, pending, digestEq, mem⟩ := here
            exact ⟨row.settle status result, find?_completeRequest_pending found pending, terminal,
              digestEq, more _ mem, rfl⟩
        | closed digest result' =>
            rw [reg] at here
            obtain ⟨row, found, settled, rest⟩ := here
            exact Represents.mono more (r := .closed digest result')
              ⟨row, find?_completeRequest_settled found settled, settled, rest⟩
  · rw [registerOf_append_of_ne ops same]
    cases op with
    | claim c =>
        have other : c.key ≠ key := same
        have frame : (TableOp.apply t (.claim c)).find? key = t.find? key :=
          find?_claimRequest_of_ne other
        rw [frame]
        exact here.mono more
    | complete k status terminal result =>
        have other : k ≠ key := same
        have frame : (TableOp.apply t (.complete k status terminal result)).find? key =
            t.find? key := find?_completeRequest_of_ne (Ne.symm other)
        rw [frame]
        exact here.mono more

/-- After any sequence of operations every row stands for its register. -/
theorem represents_run (ops : List TableOp) (key : RequestKey) :
    Represents (TableOp.claimIds ops) ((TableOp.run ops).find? key) (registerOf key ops) := by
  induction ops using List.reverseRecOn generalizing key with
  | nil => rfl
  | append_singleton ops op ih =>
      unfold TableOp.run at ih ⊢
      rw [List.foldl_append]
      exact Represents.apply ih op key

/-- A row answers a claim under a new request id as its register does. -/
theorem Represents.answer {ids : List String} {t : Requests} {c : Claim} {r : Register}
    (rep : Represents ids (t.find? c.key) r) (fresh : c.requestId ∉ ids) :
    (claimRequest t c).2 = r.claim c.requestDigest := by
  cases r with
  | free => exact claimRequest_absent rep
  | opened digest =>
      obtain ⟨row, found, pending, digestEq, mem⟩ := rep
      have other : row.requestId ≠ c.requestId := fun same => fresh (same ▸ mem)
      rw [claimRequest_present found, RequestRow.answer, if_neg other, digestEq, if_pos pending]
      show _ = if digest = c.requestDigest then ClaimOutcome.pending else .conflict
      by_cases same : digest = c.requestDigest
      · rw [if_neg (not_not.mpr same), if_pos same]
      · rw [if_pos same, if_neg same]
  | closed digest result =>
      obtain ⟨row, found, settled, digestEq, mem, stored⟩ := rep
      have other : row.requestId ≠ c.requestId := fun same => fresh (same ▸ mem)
      rw [claimRequest_present found, RequestRow.answer, if_neg other, digestEq, if_neg settled,
        loads_resultText stored]
      show _ = if digest = c.requestDigest then ClaimOutcome.replay result.canon else .conflict
      by_cases same : digest = c.requestDigest
      · rw [if_neg (not_not.mpr same), if_pos same]
      · rw [if_pos same, if_neg same]

/-! ## Runs -/

section Runs

variable {before : List TableOp}

theorem claimId_fresh {c : Claim} {rest : List TableOp}
    (distinct : (TableOp.claimIds (before ++ .claim c :: rest)).Nodup) :
    c.requestId ∉ TableOp.claimIds before := by
  intro mem
  rw [TableOp.claimIds, List.filterMap_append] at distinct
  exact (List.nodup_append.mp distinct).2.2 _ mem _ (List.mem_cons_self) rfl

theorem run_concat (op : TableOp) :
    TableOp.run (before ++ [op]) = op.apply (TableOp.run before) := by
  unfold TableOp.run
  rw [List.foldl_append]
  rfl

/-- The answers of a sequence are those of the registers, each read after the
operations before it. -/
theorem outcomes_ofClient (client : String) :
    ∀ (ops before kept : List TableOp),
      (TableOp.claimIds (before ++ ops)).Nodup →
      (TableOp.claimIds (kept ++ ops.filter (TableOp.ofClient client))).Nodup →
      (∀ key : RequestKey, key.clientId = client → registerOf key kept = registerOf key before) →
      TableOp.outcomes (TableOp.run kept) (ops.filter (TableOp.ofClient client)) =
        (TableOp.outcomes (TableOp.run before) ops).filter (TableOp.seenBy client)
  | [], _, _, _, _, _ => rfl
  | op :: ops, before, kept, distinct, distinctKept, agree => by
      have next : (before ++ [op]) ++ ops = before ++ op :: ops := by
        rw [List.append_assoc, List.singleton_append]
      by_cases mine : op.key.clientId = client
      · have keep : TableOp.ofClient client op = true := decide_eq_true mine
        have nextKept : (kept ++ [op]) ++ ops.filter (TableOp.ofClient client) =
            kept ++ op :: ops.filter (TableOp.ofClient client) := by
          rw [List.append_assoc, List.singleton_append]
        rw [List.filter_cons_of_pos keep] at distinctKept ⊢
        have rest := outcomes_ofClient client ops (before ++ [op]) (kept ++ [op])
          (by rwa [next]) (by rwa [nextKept]) fun key ours => by
            by_cases same : op.key = key
            · rw [registerOf_append_self _ same, registerOf_append_self _ same, agree key ours]
            · rw [registerOf_append_of_ne _ same, registerOf_append_of_ne _ same, agree key ours]
        rw [run_concat, run_concat] at rest
        cases op with
        | claim c =>
            have same : (claimRequest (TableOp.run kept) c).2 =
                (claimRequest (TableOp.run before) c).2 := by
              rw [(represents_run kept c.key).answer (claimId_fresh distinctKept),
                (represents_run before c.key).answer (claimId_fresh distinct), agree c.key mine]
            have seen : ∀ o, TableOp.seenBy client (c, o) = true := fun _ => decide_eq_true mine
            simp only [TableOp.outcomes, same]
            rw [List.filter_cons_of_pos (seen _)]
            exact congrArg _ rest
        | complete key status terminal result => exact rest
      · have drop : TableOp.ofClient client op = false := decide_eq_false mine
        rw [List.filter_cons_of_neg (by rw [drop]; decide)] at distinctKept ⊢
        have rest := outcomes_ofClient client ops (before ++ [op]) kept
          (by rwa [next]) distinctKept fun key ours => by
            have other : op.key ≠ key := fun same => mine (same ▸ ours)
            rw [registerOf_append_of_ne _ other, agree key ours]
        rw [run_concat] at rest
        cases op with
        | claim c =>
            have unseen : ∀ o, ¬ TableOp.seenBy client (c, o) = true :=
              fun _ seen => mine (of_decide_eq_true seen)
            simp only [TableOp.outcomes]
            rw [List.filter_cons_of_neg (unseen _)]
            exact rest
        | complete key status terminal result => exact rest

/-- **The table refines independent write-once registers.**  In a sequence whose
claims carry distinct request ids, every claim is answered by the register of its
key, which the operations on other keys do not touch; and deleting the operations
of every other client leaves a client's answers as they were. -/
theorem idempotencyTable_refines_registers (ops : List TableOp)
    (distinct : (TableOp.claimIds ops).Nodup) :
    (∀ before c rest, ops = before ++ .claim c :: rest →
      (claimRequest (TableOp.run before) c).2 =
        (registerOf c.key before).claim c.requestDigest) ∧
    ∀ client : String,
      TableOp.outcomes Table.empty (ops.filter (TableOp.ofClient client)) =
        (TableOp.outcomes Table.empty ops).filter (TableOp.seenBy client) := by
  constructor
  · rintro before c rest rfl
    exact (represents_run before c.key).answer (claimId_fresh distinct)
  · intro client
    refine outcomes_ofClient client ops [] [] distinct ?_ fun _ _ => rfl
    exact distinct.sublist ((List.filter_sublist).filterMap _)

end Runs

/-- A retry after a completion is served its result, whatever another client did
under the same key in between. -/
theorem idempotencyTable_refines_registers_replay :
    let mine : RequestKey := ⟨"pc-1", "hub", "k-1"⟩
    let theirs : RequestKey := ⟨"pc-1", "other", "k-1"⟩
    let before : List TableOp :=
      [.claim ⟨mine, "r-1", "files.read", "d"⟩, .claim ⟨theirs, "r-2", "files.read", "e"⟩,
        .complete mine .completed (by decide) (.obj [("code", .str "ok")])]
    let retry : Claim := ⟨mine, "r-3", "files.read", "d"⟩
    (claimRequest (TableOp.run before) retry).2 = .replay (.obj [("code", .str "ok")]) ∧
      TableOp.outcomes Table.empty ((before ++ [TableOp.claim retry]).filter (TableOp.ofClient "hub")) =
        (TableOp.outcomes Table.empty (before ++ [TableOp.claim retry])).filter (TableOp.seenBy "hub") := by
  intro mine theirs before retry
  have refined := idempotencyTable_refines_registers (before ++ [.claim retry]) (by decide)
  exact ⟨refined.1 before retry [] rfl, refined.2 "hub"⟩

/-! ## A completion without a claim -/

/-- The register that also keeps a completion which comes before the first claim. -/
structure EagerRegister where
  digest : Option String
  result : Option Json

namespace EagerRegister

def claim (r : EagerRegister) (digest : String) : ClaimOutcome :=
  match r.digest with
  | none => .new
  | some d =>
      if d = digest then
        match r.result with
        | none => .pending
        | some result => .replay result.canon
      else .conflict

def after (r : EagerRegister) : TableOp → EagerRegister
  | .claim c => { r with digest := r.digest.or (some c.requestDigest) }
  | .complete _ _ _ result => { r with result := r.result.or (some result) }

end EagerRegister

/-- The eager register of a key after a sequence of operations. -/
def eagerRegisterOf (key : RequestKey) (ops : List TableOp) : EagerRegister :=
  (ops.filter fun op => decide (op.key = key)).foldl EagerRegister.after ⟨none, none⟩

/-- **A completion before the first claim is not kept**: the retry after it is
told `pending`, not served the result of the first completion. -/
theorem keptCompletion_not_refined :
    ¬ ∀ (ops before rest : List TableOp) (c : Claim), (TableOp.claimIds ops).Nodup →
      ops = before ++ .claim c :: rest →
        (claimRequest (TableOp.run before) c).2 =
          (eagerRegisterOf c.key before).claim c.requestDigest := by
  intro refined
  let key : RequestKey := ⟨"pc-1", "hub", "k-1"⟩
  let first : Claim := ⟨key, "r-1", "files.read", "d"⟩
  let retry : Claim := ⟨key, "r-2", "files.read", "d"⟩
  let done : TableOp := .complete key .completed (by decide) (.obj [("code", .str "ok")])
  have answered := refined [done, .claim first, .claim retry] [done, .claim first] [] retry
    (by decide) rfl
  have pending : (claimRequest (TableOp.run [done, .claim first]) retry).2 = .pending :=
    (represents_run [done, .claim first] key).answer (c := retry) (by decide)
  have replayed : (eagerRegisterOf key [done, .claim first]).claim "d" =
      .replay (Json.obj [("code", .str "ok")]).canon := rfl
  rw [pending] at answered
  exact nomatch answered.trans replayed

end RemoteAgent
