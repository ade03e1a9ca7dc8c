import RemoteAgent.Assertion
import RemoteAgent.Presence

/-!
# The device-side verifier (`app_assertion.py`)

What a device does with a published keyset and with the assertion of a request: the
pinned root, the keys of a keyset, the checks of an assertion against the device's own
binding, and the table of assertion ids that were accepted.

The clock is read anew by `_reject_replay` and by `pending_root`, so that `verify` and
`pendingRoot` take two readings.  Floats occur only in the time bounds of a key; `subInt`
is the float subtraction `f - i`, `none` standing for its `OverflowError`.

* `verifyKeyset_trusted_iff`: what `verify_keyset` and `pending_root` answer is signed by
  the pinned root, and it is current exactly when it has not expired, which neither checks.
-/

open Wire

namespace RemoteAgent

open Dispatcher (field)

/-! ## Constants and errors -/

def keysetSchemaVersion : String := "business-mcp-remote-agent-app-keyset-v1"
def keysetMaxLifetimeSeconds : Int := 24 * 60 * 60
def defaultClockSkewSeconds : Int := 5

/-- `USABLE_KEY_STATUSES`. -/
def usableKeyStatuses : List String := ["active", "retiring"]

/-- What the verifier raises: an `AppAssertionError` with its code, the `ProtocolError` of a
parser, or an exception of another type. -/
inductive Refusal where
  | code (code : String)
  | protocol (message : String)
  | escape
deriving DecidableEq

/-- A parser's error where no `except` clause takes it. -/
def Rejection.passed : Rejection → Refusal
  | .protocol message => .protocol message
  | .escape => .escape

/-- A parser's error in `verify`, which makes a code of its text. -/
def Rejection.coded : Rejection → Refusal
  | .protocol message => .code message
  | .escape => .escape

/-- Raise an `AppAssertionError` unless a check holds. -/
def demand (holds : Bool) (code : String) : Except Refusal Unit :=
  if holds then .ok () else .error (.code code)

/-- A value that is there, or else an exception that is not a refusal of the verifier. -/
def present {α : Type} : Option α → Except Refusal α
  | some a => .ok a
  | none => .error .escape

theorem demand_bind {α : Type} {holds : Bool} {code : String} {next : Unit → Except Refusal α}
    {a : α} (passed : (demand holds code >>= next) = .ok a) : holds = true ∧ next () = .ok a := by
  cases holds with
  | true => exact ⟨rfl, passed⟩
  | false => cases passed

theorem present_ok_iff {α : Type} {found : Option α} {a : α} :
    present found = .ok a ↔ found = some a := by
  cases found <;> simp only [present, Except.ok.injEq, Option.some.injEq, reduceCtorEq]

theorem mapError_ok_iff {ε δ α : Type} {f : ε → δ} {r : Except ε α} {a : α} :
    r.mapError f = .ok a ↔ r = .ok a := by
  cases r <;> simp only [Except.mapError, Except.ok.injEq, reduceCtorEq]

/-! ## The verifier -/

/-- What a device pins when it is installed. -/
structure TrustAnchor (env : Env) where
  rootKeyId : String
  rootPublicKey : String
  rootKeyId_ok : Py.strip rootKeyId ≠ ""
  rootPublicKey_ok : (parsePublicKey env (.str rootPublicKey)).isOk = true

/-- An `AppAssertionVerifier`, without the ids that it has seen. -/
structure Verifier (env : Env) where
  anchor : TrustAnchor env
  connectorId : String
  clockSkewSeconds : Int
  seenLimit : Nat
  skew_ok : 0 ≤ clockSkewSeconds
  limit_ok : 1 ≤ seenLimit

/-- The constructor's bounds on its arguments. -/
def Verifier.new {env : Env} (anchor : TrustAnchor env) (connectorId : String)
    (clockSkewSeconds seenLimit : Int) : Verifier env where
  anchor := anchor
  connectorId := connectorId
  clockSkewSeconds := max 0 clockSkewSeconds
  seenLimit := (max 1 seenLimit).toNat
  skew_ok := le_max_left _ _
  limit_ok := by omega

/-- The ids that were accepted, in the order of acceptance, with their expiry. -/
abbrev Seen := List (Py.Key × Int)

/-- The keys that a device trusts, by their id; a key is a dictionary. -/
abbrev KeyMap := List (String × List (String × Json))

structure VerifiedAppAssertion where
  appId : Json
  clientId : Json
  connectorId : Json
  scopes : Json
  keyId : Json
  requestId : Json
  assertionId : Json
  expiresAt : Int

/-- The binding that a device expects of an assertion. -/
structure Expected where
  requestId : String
  clientId : String
  appId : String
  scopes : List String

namespace Verifier

variable {env : Env} (v : Verifier env)

/-! ## Keysets -/

/-- The keys of a keyset, put into the map one after another. -/
def collectKeys (env : Env) : KeyMap → List Json → Except Refusal KeyMap
  | keys, [] => .ok keys
  | keys, item :: items => do
      demand (hasFields ["key_id", "public_key", "not_before", "not_after", "status"] item)
        "app_assertion_unverified"
      let keyId := Py.str env.floats env.container (field item "key_id")
      demand (!(keys.map Prod.fst).contains keyId) "app_assertion_unverified"
      let _ ← (parsePublicKey env (field item "public_key")).mapError Rejection.passed
      match item with
      | .obj fs => collectKeys env (keys ++ [(keyId, fs)]) items
      | _ => .error .escape

/-- Whether the time bounds of a keyset are in order: `isinstance(·, int)` of both, their
distance, and the issue time. -/
def keysetTimely (keyset : Json) (current : Int) : Bool :=
  match Py.intLike (field keyset "issued_at"), Py.intLike (field keyset "expires_at") with
  | some issuedAt, some expiresAt =>
      decide (issuedAt < expiresAt ∧ expiresAt - issuedAt ≤ keysetMaxLifetimeSeconds ∧
        issuedAt - v.clockSkewSeconds ≤ current)
  | _, _ => false

/-- `verify_keyset`. -/
def verifyKeyset (keyset : Json) (current : Int) : Except Refusal KeyMap := do
  demand keyset.isObj "app_assertion_unverified"
  demand (Py.eqStr (field keyset "schema_version") keysetSchemaVersion) "app_assertion_unverified"
  demand (Py.eqStr (field keyset "root_key_id") v.anchor.rootKeyId) "app_assertion_unverified"
  demand (verifyEd25519 env (.str v.anchor.rootPublicKey)
    (canonicalJsonBytes (keyset.without "signature"))
    (.str (env.text (field keyset "signature")))) "app_assertion_unverified"
  demand (v.keysetTimely keyset current) "app_assertion_unverified"
  match field keyset "keys" with
  | .arr (item :: items) => collectKeys env [] (item :: items)
  | _ => .error (.code "app_assertion_unverified")

/-- `pending_root`; the second reading of the clock is for the candidate. -/
def pendingRoot (keyset : Json) (current later : Int) : Except Refusal (Option Json) := do
  let _ ← v.verifyKeyset keyset current
  match field keyset "next_root" with
  | .null => return none
  | candidate => do
      demand (hasFields ["key_id", "public_key", "not_before", "not_after"] candidate)
        "app_assertion_unverified"
      let _ ← (parsePublicKey env (field candidate "public_key")).mapError Rejection.passed
      demand (match Py.intLike (field candidate "not_before"),
          Py.intLike (field candidate "not_after") with
        | some notBefore, some notAfter => decide (notBefore < notAfter ∧ later < notAfter)
        | _, _ => false) "app_assertion_unverified"
      return some candidate

/-! ## Assertions -/

/-- `value - seconds`; `none` stands for an exception. -/
def minus (subInt : FloatText → Int → Option FloatText) (value : Json) (seconds : Int) :
    Option Json :=
  match value with
  | .float f => (subInt f seconds).map .float
  | value => (Py.intLike value).map fun i => .int (i - seconds)

/-- `current >= value`; `none` stands for the `TypeError`. -/
def reached (floats : Py.FloatOps) (current : Int) (value : Json) : Option Bool :=
  match value with
  | .float f => some (floats.ltInt f current || floats.eqInt f current)
  | value => (Py.intLike value).map fun i => decide (i ≤ current)

/-- `status not in USABLE_KEY_STATUSES`; `none` stands for the `TypeError` of a value that
is not hashable. -/
def unusable (floats : Py.FloatOps) (status : Json) : Option Bool :=
  (Py.key? floats status).map fun _ => !usableKeyStatuses.any (Py.eqStr status)

/-- Whether a key is revoked or outside its window: the checks in the order of the `or`,
each made only where the ones before it have not decided. -/
def keyRefused (subInt : FloatText → Int → Option FloatText) (key : Json) (current : Int) :
    Except Refusal Bool := do
  let status ← present (key.get? "status")
  if ← present (unusable env.floats status) then return true
  let notBefore ← present (key.get? "not_before")
  let earliest ← present (minus subInt notBefore v.clockSkewSeconds)
  if ← present (Py.lt env.floats (.int current) earliest) then return true
  let notAfter ← present (key.get? "not_after")
  present (reached env.floats current notAfter)

/-- `verify` up to `_reject_replay`: the parsed copy, with its expiry. -/
def check (subInt : FloatText → Int → Option FloatText) (assertion : Json) (keys : KeyMap)
    (expected : Expected) (current : Int) : Except Refusal (Json × Int) := do
  let parsed ← (parseAppAssertion env assertion).mapError Rejection.coded
  -- the parser has made sure that both are integers
  let issuedAt ← (assertionInt (field parsed "issued_at") "issued_at").mapError Rejection.coded
  let expiresAt ← (assertionInt (field parsed "expires_at") "expires_at").mapError Rejection.coded
  demand (decide (current < expiresAt)) "app_assertion_expired"
  demand (decide (issuedAt ≤ current + v.clockSkewSeconds)) "app_assertion_unverified"
  demand (decide (expiresAt - issuedAt ≤ appAssertionMaxTtlSeconds)) "app_assertion_unverified"
  match keys.lookup (Py.str env.floats env.container (field parsed "key_id")) with
  | none => .error (.code "app_assertion_unverified")
  | some fs =>
      let refused ← v.keyRefused subInt (.obj fs) current
      demand (!refused) "app_assertion_unverified"
      let publicKey ← present ((Json.obj fs).get? "public_key")
      demand (verifyEd25519 env publicKey (canonicalJsonBytes (parsed.without "signature"))
        (field parsed "signature")) "app_assertion_unverified"
      demand (Py.eqStr (field parsed "schema_version") appAssertionSchemaVersion &&
        Py.eqStr (field parsed "issuer") appAssertionIssuer &&
        Py.eqStr (field parsed "audience") appAssertionAudience) "app_assertion_unverified"
      demand (Py.eqStr (field parsed "connector_id") v.connectorId) "app_identity_mismatch"
      demand (Py.eqStr (field parsed "client_id") expected.clientId &&
        Py.eqStr (field parsed "app_id") expected.appId) "app_identity_mismatch"
      demand (Py.eqTexts (field parsed "scopes") (expected.scopes.insertionSort (· ≤ ·)))
        "app_identity_mismatch"
      demand (Py.eqStr (field parsed "request_id") expected.requestId) "app_identity_mismatch"
      return (parsed, expiresAt)

/-- The entries of the table that have not expired. -/
def live (seen : Seen) (now : Int) : Seen := seen.filter fun entry => decide (now < entry.2)

/-- `_reject_replay`, with the table that it leaves behind. -/
def rejectReplay (seen : Seen) (assertionId : Json) (expiresAt current : Int) :
    Except Refusal Unit × Seen :=
  let kept := live seen current
  match Py.key? env.floats assertionId with
  | none => (.error .escape, kept)
  | some id =>
      if id ∈ kept.map Prod.fst then (.error (.code "app_assertion_replayed"), kept)
      else
        let entered := kept ++ [(id, expiresAt)]
        (.ok (), entered.drop (entered.length - v.seenLimit))

/-- `verify`; `current` is the reading of the clock in it and `later` the one in
`_reject_replay`. -/
def verify (subInt : FloatText → Int → Option FloatText) (seen : Seen) (assertion : Json)
    (keys : KeyMap) (expected : Expected) (current later : Int) :
    Except Refusal VerifiedAppAssertion × Seen :=
  match v.check subInt assertion keys expected current with
  | .error refusal => (.error refusal, seen)
  | .ok (parsed, expiresAt) =>
      match v.rejectReplay seen (field parsed "assertion_id") expiresAt later with
      | (.error refusal, seen) => (.error refusal, seen)
      | (.ok (), seen) => (.ok {
          appId := field parsed "app_id"
          clientId := field parsed "client_id"
          connectorId := field parsed "connector_id"
          scopes := field parsed "scopes"
          keyId := field parsed "key_id"
          requestId := field parsed "request_id"
          assertionId := field parsed "assertion_id"
          expiresAt := expiresAt }, seen)

/-! ## What a keyset proves -/

/-- A keyset that the pinned root has signed and that is current, with its keys. -/
structure Trusted (keyset : Json) (keys : KeyMap) (now : Int) : Prop where
  signed : verifyEd25519 env (.str v.anchor.rootPublicKey)
    (canonicalJsonBytes (keyset.without "signature"))
    (.str (env.text (field keyset "signature"))) = true
  /-- The signed bytes are those of no keyset with other members. -/
  covered : ∀ other : Json, canonicalJsonBytes (other.without "signature") =
    canonicalJsonBytes (keyset.without "signature") →
    ∀ name, name ≠ "signature" → (other.get? name).map Json.canon = (keyset.get? name).map Json.canon
  window : ∃ issuedAt expiresAt, Py.intLike (field keyset "issued_at") = some issuedAt ∧
    Py.intLike (field keyset "expires_at") = some expiresAt ∧ issuedAt < expiresAt ∧
    expiresAt - issuedAt ≤ keysetMaxLifetimeSeconds ∧ issuedAt - v.clockSkewSeconds ≤ now ∧
    now < expiresAt
  listed : field keyset "keys" = .arr (keys.map fun key => .obj key.2)
  named : ∀ key ∈ keys, key.1 = Py.str env.floats env.container (field (.obj key.2) "key_id")
  distinct : (keys.map Prod.fst).Nodup

/-- The map is the items after what was in it, each under its own id. -/
theorem collectKeys_ok {keys result : KeyMap} {items : List Json}
    (collected : collectKeys env keys items = .ok result) :
    ∃ added : KeyMap, result = keys ++ added ∧ items = added.map (fun key => .obj key.2) ∧
      (∀ key ∈ added, key.1 = Py.str env.floats env.container (field (.obj key.2) "key_id")) ∧
      ((keys.map Prod.fst).Nodup → (result.map Prod.fst).Nodup) := by
  induction items generalizing keys with
  | nil =>
      cases collected
      exact ⟨[], (List.append_nil _).symm, rfl, fun _ mem => absurd mem List.not_mem_nil, id⟩
  | cons item items ih =>
      obtain ⟨_, collected⟩ := demand_bind collected
      obtain ⟨isNew, collected⟩ := demand_bind collected
      obtain ⟨_, _, collected⟩ := bind_ok collected
      cases item with
      | obj fs =>
          obtain ⟨added, rfl, rfl, named, distinct⟩ := ih collected
          refine ⟨(Py.str env.floats env.container (field (.obj fs) "key_id"), fs) :: added, ?_,
            rfl, ?_, ?_⟩
          · rw [List.append_assoc, List.singleton_append]
          · intro key mem
            rcases List.mem_cons.mp mem with rfl | mem
            · rfl
            · exact named key mem
          · intro nodup
            refine distinct ?_
            rw [List.map_append, List.map_singleton]
            refine List.nodup_append.mpr ⟨nodup, List.nodup_singleton _, ?_⟩
            intro id mem id' isId same
            rw [same, List.mem_singleton.mp isId] at mem
            rw [List.contains_iff_mem.mpr mem] at isNew
            cases isNew
      | _ => cases collected

/-- What `verify_keyset` has checked. -/
theorem verifyKeyset_ok {keyset : Json} {current : Int} {keys : KeyMap}
    (accepted : v.verifyKeyset keyset current = .ok keys) :
    ∃ expiresAt, Py.intLike (field keyset "expires_at") = some expiresAt ∧
      (current < expiresAt → v.Trusted keyset keys current) := by
  obtain ⟨_, accepted⟩ := demand_bind accepted
  obtain ⟨_, accepted⟩ := demand_bind accepted
  obtain ⟨_, accepted⟩ := demand_bind accepted
  obtain ⟨signed, accepted⟩ := demand_bind accepted
  obtain ⟨timely, accepted⟩ := demand_bind accepted
  unfold keysetTimely at timely
  split at timely
  · rename_i issuedAt expiresAt isIssued isExpires
    obtain ⟨lasting, brief, started⟩ := of_decide_eq_true timely
    refine ⟨expiresAt, isExpires, fun unexpired => ?_⟩
    split at accepted
    · rename_i item items isKeys
      obtain ⟨added, rfl, items, named, distinct⟩ := collectKeys_ok accepted
      refine ⟨signed, ?_, ⟨issuedAt, expiresAt, isIssued, isExpires, lasting, brief, started,
        unexpired⟩, isKeys.trans (congrArg Json.arr items), named, distinct .nil⟩
      intro other bytes name isMember
      have same := (canonicalJsonBytes_inj.mp bytes).get? name
      rwa [Json.get?_without, Json.get?_without, if_neg isMember, if_neg isMember] at same
    · cases accepted
  · cases timely

/-- What `pending_root` returns was in a keyset that `verify_keyset` accepts. -/
theorem pendingRoot_ok {keyset candidate : Json} {current later : Int}
    (answered : v.pendingRoot keyset current later = .ok (some candidate)) :
    ∃ keys, v.verifyKeyset keyset current = .ok keys ∧
      keyset.get? "next_root" = some candidate := by
  obtain ⟨keys, accepted, answered⟩ := bind_ok answered
  refine ⟨keys, accepted, ?_⟩
  split at answered
  · cases answered
  · rename_i isSome
    obtain ⟨_, answered⟩ := demand_bind answered
    obtain ⟨_, _, answered⟩ := bind_ok answered
    obtain ⟨_, answered⟩ := demand_bind answered
    exact get?_of_field (Option.some.inj (Except.ok.inj answered)) fun isNull =>
      isSome (Option.some.inj (Except.ok.inj answered) |>.trans isNull)

/-- **A keyset is current exactly when it has not expired.**  All the rest is checked by
`verify_keyset`, and so by `pending_root`. -/
theorem keyset_trusted_iff :
    (∀ keyset current keys, v.verifyKeyset keyset current = .ok keys →
      ∃ expiresAt, Py.intLike (field keyset "expires_at") = some expiresAt ∧
        (v.Trusted keyset keys current ↔ current < expiresAt)) ∧
    (∀ keyset current later candidate,
      v.pendingRoot keyset current later = .ok (some candidate) →
      ∃ keys expiresAt, v.verifyKeyset keyset current = .ok keys ∧
        keyset.get? "next_root" = some candidate ∧
        Py.intLike (field keyset "expires_at") = some expiresAt ∧
        (v.Trusted keyset keys current ↔ current < expiresAt)) := by
  have current_iff : ∀ keyset current keys, v.verifyKeyset keyset current = .ok keys →
      ∃ expiresAt, Py.intLike (field keyset "expires_at") = some expiresAt ∧
        (v.Trusted keyset keys current ↔ current < expiresAt) := by
    intro keyset current keys accepted
    obtain ⟨expiresAt, isExpires, trusted⟩ := v.verifyKeyset_ok accepted
    refine ⟨expiresAt, isExpires, fun isTrusted => ?_, trusted⟩
    obtain ⟨_, expiresAt', _, isExpires', _, _, _, unexpired⟩ := isTrusted.window
    obtain rfl := Option.some.inj (isExpires.symm.trans isExpires')
    exact unexpired
  refine ⟨current_iff, fun keyset current later candidate answered => ?_⟩
  obtain ⟨keys, accepted, isCandidate⟩ := v.pendingRoot_ok answered
  obtain ⟨expiresAt, isExpires, trusted⟩ := current_iff keyset current keys accepted
  exact ⟨keys, expiresAt, accepted, isCandidate, isExpires, trusted⟩

end Verifier

/-! ## The shared vector -/

namespace Sample

def rootPublicKey : String := "ebVWLo_mVPlAeLES6KmLp5AfhTrmlb7X4OORC60ElmQ"

def signingPublicKey : String := "5_FioQvsVZr-oZXk3OhLaVaNXSywlj60RsBoXisX8vA"

def keysetSignature : String :=
  "xGXFAhg9Xf5rr56SzaO-VRcF54vlDuneng_aZmo3jtHddQIPN6aryVCWS0YXE9RXOwNnyNWDmbXq7eeaaFl2Ag"

/-- A key of a keyset. -/
def keyItem (keyId publicKey status : String) (notBefore notAfter : Int) :
    List (String × Json) :=
  [("key_id", .str keyId), ("not_after", .int notAfter), ("not_before", .int notBefore),
    ("public_key", .str publicKey), ("status", .str status)]

def signingKeyItem : List (String × Json) :=
  keyItem "sign-vector-a" signingPublicKey "active" 1816999400 1817003600

def keyset : Json :=
  .obj [("expires_at", .int 1817003600), ("issued_at", .int 1817000000),
    ("issuer", .str "business-mcp-hub"),
    ("keys", .arr [.obj signingKeyItem,
      .obj (keyItem "sign-vector-retiring" "rcFAEfgtHFbZVqpPnXPYhYNhpgYEhSXg0Ixjjcdd2Mc"
        "retiring" 1816992800 1817001800),
      .obj (keyItem "sign-vector-revoked" "iC0Oo7KGTnpYfz5pjOpEWZmDEuZV4F-l6LURnYuqyM0"
        "revoked" 1816992800 1817001800)]),
    ("root_key_id", .str "root-vector-2026-09"),
    ("schema_version", .str "business-mcp-remote-agent-app-keyset-v1"),
    ("signature", .str keysetSignature)]

/-- An assertion for the device of the vector, by its app id, assertion id and signature. -/
def vectorMembers (appId assertionId signature : String) : List (String × Json) :=
  [("app_id", .str appId), ("assertion_id", .str assertionId),
    ("audience", .str "remote-agent-device"), ("client_id", .str "v4-shadow-codex-20260905"),
    ("connector_id", .str "agy2api-10.11.1.1"), ("expires_at", .int 1817000090),
    ("issued_at", .int 1817000000), ("issuer", .str "business-mcp-hub"),
    ("key_id", .str "sign-vector-a"), ("nonce", .str "nnnnnnnnnnnnnnnnnnnnnnnn"),
    ("request_id", .str "3f2b7c1a-9d4e-4f60-8a21-6c5e2b0d7f13"),
    ("schema_version", .str "business-mcp-remote-agent-app-assertion-v2"),
    ("scopes", .arr [.str "agent:read"]), ("signature", .str signature)]

def vectorSignature : String :=
  "cF9vM1UfMZeuemalVtq5okwWozxewgknOlrbiayIVnKNuCHPRb2A3LA8IchE2ttn3qWLsRkCRSaOp5-t0r-kDQ"

def otherSignature : String :=
  "PNfzq0Y-_ZfImdvD_TUDw8MlMwCYrXjkfawRIZVPIm5yhwqVV6Gna5Gda4KsqH4wbdGJRS9OAIDkpCznBEDOCg"

def vectorId : String := "b1e6f2a4-7c3d-4e5f-9a0b-2c4d6e8f0a1b"

def otherId : String := "c7d1e8f2-3b4a-4c6d-9e5f-a1b2c3d4e5f6"

/-- The assertion of the vector. -/
def vectorAssertion : Json := .obj (vectorMembers "codex" vectorId vectorSignature)

/-- Another assertion for the same request. -/
def otherAssertion : Json := .obj (vectorMembers "codex" otherId otherSignature)

/-- What has been signed: the key, the object and the signature. -/
def signed : List (String × Json × String) :=
  [(rootPublicKey, keyset, keysetSignature), (signingPublicKey, vectorAssertion, vectorSignature),
    (signingPublicKey, otherAssertion, otherSignature)]

/-- The sample environment, where these signatures verify and no others. -/
def deviceEnv : Env :=
  { Sample.env with
    ed25519 := fun key payload signature => signed.any fun s =>
      decide (s.1 = key ∧ s.2.2 = signature ∧
        canonicalJsonBytes (s.2.1.without "signature") = payload) }

theorem rootKeyId_named : Py.strip "root-vector-2026-09" ≠ "" := by decide +kernel

/-- The device of the vector. -/
def device (seenLimit : Int) : Verifier deviceEnv :=
  .new {
    rootKeyId := "root-vector-2026-09"
    rootPublicKey := rootPublicKey
    rootKeyId_ok := rootKeyId_named
    rootPublicKey_ok := by decide +kernel } "agy2api-10.11.1.1" defaultClockSkewSeconds seenLimit

theorem deviceEnv_verifies {publicKey signature : Json} {payload : String} :
    verifyEd25519 deviceEnv publicKey payload signature = true ↔
      ∃ s ∈ signed, s.1 = Py.strip (deviceEnv.text publicKey) ∧
        s.2.2 = Py.strip (deviceEnv.text signature) ∧
        canonicalJsonBytes (s.2.1.without "signature") = payload := by
  have checks (key payload signature : String) : deviceEnv.ed25519 key payload signature =
      signed.any fun s => decide (s.1 = key ∧ s.2.2 = signature ∧
        canonicalJsonBytes (s.2.1.without "signature") = payload) := rfl
  unfold verifyEd25519
  rw [checks, List.any_eq_true]
  simp only [decide_eq_true_eq]

/-- What has been signed verifies. -/
theorem verifies_of_signed {key signature : String} {value : Json}
    (mem : (key, value, signature) ∈ signed) (stripped : Py.strip key = key)
    (stripped' : Py.strip signature = signature) :
    verifyEd25519 deviceEnv (.str key) (canonicalJsonBytes (value.without "signature"))
      (.str signature) = true := by
  rw [deviceEnv_verifies, text_str, text_str, stripped, stripped']
  exact ⟨_, mem, rfl, rfl, rfl⟩

theorem keyset_signed :
    verifyEd25519 deviceEnv (.str rootPublicKey) (canonicalJsonBytes (keyset.without "signature"))
      (.str (deviceEnv.text (field keyset "signature"))) = true := by
  have isSignature : deviceEnv.text (field keyset "signature") = keysetSignature := by
    decide +kernel
  rw [isSignature]
  exact verifies_of_signed List.mem_cons_self (by decide +kernel)
    (by decide +kernel)

/-- The keyset of the vector is accepted at any time from its issue on. -/
theorem keyset_accepted (now : Int) (issued : 1816999995 ≤ now) :
    ∃ keys, (device 4096).verifyKeyset keyset now = .ok keys ∧
      keys.map Prod.fst = ["sign-vector-a", "sign-vector-retiring", "sign-vector-revoked"] := by
  have timely : (device 4096).keysetTimely keyset now = true :=
    decide_eq_true ⟨by decide, by decide, issued⟩
  have accepted : ((device 4096).verifyKeyset keyset now).toOption.any (fun keys =>
      decide (keys.map Prod.fst =
        ["sign-vector-a", "sign-vector-retiring", "sign-vector-revoked"])) = true := by
    unfold Verifier.verifyKeyset
    rw [show (device 4096).anchor.rootPublicKey = rootPublicKey from rfl, keyset_signed, timely]
    decide +kernel
  obtain ⟨keys, isOk, holds⟩ := exists_ok_of_any accepted
  exact ⟨keys, isOk, of_decide_eq_true holds⟩

end Sample

namespace Verifier

/-- The vector, at its own clock. -/
theorem keyset_trusted_iff_vector : ∃ keys,
    (Sample.device 4096).Trusted Sample.keyset keys 1817000001 := by
  obtain ⟨keys, accepted, _⟩ := Sample.keyset_accepted 1817000001 (by decide)
  obtain ⟨expiresAt, isExpires, trusted_iff⟩ :=
    (Sample.device 4096).keyset_trusted_iff.1 Sample.keyset 1817000001 keys accepted
  obtain rfl : 1817003600 = expiresAt := Option.some.inj isExpires
  exact ⟨keys, trusted_iff.mpr (by decide)⟩

/-- **An expired keyset is accepted**, an hour after its expiry and with its keys active. -/
theorem expiredKeyset_accepted : ∃ keys,
    (Sample.device 4096).verifyKeyset Sample.keyset 1817007200 = .ok keys ∧
    "sign-vector-a" ∈ keys.map Prod.fst ∧
    ¬(Sample.device 4096).Trusted Sample.keyset keys 1817007200 := by
  obtain ⟨keys, accepted, ids⟩ := Sample.keyset_accepted 1817007200 (by decide)
  refine ⟨keys, accepted, ids ▸ List.mem_cons_self, fun trusted => ?_⟩
  obtain ⟨_, expiresAt, _, isExpires, _, _, _, unexpired⟩ := trusted.window
  obtain rfl : 1817003600 = expiresAt := Option.some.inj isExpires
  exact absurd unexpired (by decide)

end Verifier

end RemoteAgent
