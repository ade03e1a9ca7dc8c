import RemoteAgent.Errors
import RemoteAgent.Lib.JsonRoundTrip
import RemoteAgent.Lib.PyText

/-!
# Identifiers, capabilities, frames and digests (`protocol.py`)

The parsers of untrusted identifiers, the capability profiles, the set of
mutating verbs, the handshake payloads and the frames the connector sends.

`Env` holds what the connector is given: its configuration, SHA-256, Ed25519
verification, what the interpreter and SQLite do with floats and with text stored
in an integer column, and where they give up on a text.

A `str` may hold a lone surrogate, which is no `Char`.  A text of the model for which
`Env.encodes` is false stands for such a `str`; which texts those are is left open.
-/

open Wire

namespace RemoteAgent

/-- The part of `RemoteAgentConfig` that the request and relay paths read. -/
structure Config where
  requestTimeoutSeconds : Int
  heartbeatTimeoutSeconds : Int
  trustProxyTls : Bool

structure Env where
  config : Config
  /-- `hashlib.sha256(text.encode()).hexdigest()`. -/
  sha256 : String → String
  /-- Whether a signature verifies: public key, payload, signature. -/
  ed25519 : String → String → String → Bool
  /-- `public_key_fingerprint`. -/
  publicKeyFingerprint : String → String
  floats : Py.FloatOps
  /-- `repr` of a list or a dictionary. -/
  container : Json → String
  /-- What a `TEXT` column stores for a float. -/
  textOfFloat : FloatText → String
  /-- What a column `INTEGER CHECK (… >= 0)` stores for a float; `none` if refused. -/
  integerOfFloat : FloatText → Option Json
  /-- What a column `INTEGER CHECK (… >= 0)` stores for a text; `none` if refused. -/
  integerOfText : String → Option Json
  /-- `int(text)`; `none` stands for the `ValueError`. -/
  intOfText : String → Option Int
  /-- Whether `text.encode()` succeeds, as it must for a text that SQLite stores; it fails on a
  lone surrogate. -/
  encodes : String → Bool
  encodes_ascii : ∀ text : String, (∀ c ∈ text.toList, c.toNat < 128) → encodes text = true
  /-- Whether `json.loads` exhausts the interpreter's stack on a text.  A value that was
  read is taken to fit it in every later use. -/
  tooDeep : String → Bool

/-! ## Constants -/

def protocolVersion : Int := 1
def relayMaxMessageBytes : Nat := 2 * 1024 * 1024
def resultMaxBytes : Nat := 1 * 1024 * 1024
def heartbeatIntervalSeconds : Int := 15
def instanceStaleMultiplier : Int := 5

/-- `instance_stale_seconds`. -/
def instanceStaleSeconds (heartbeatTimeoutSeconds : Int) : Int :=
  max heartbeatTimeoutSeconds (heartbeatIntervalSeconds * instanceStaleMultiplier)

/-! ## Capabilities -/

inductive CapabilityProfile where
  | readOnly | readWrite | fullAgent
deriving DecidableEq, Repr

def CapabilityProfile.name : CapabilityProfile → String
  | .readOnly => "read_only"
  | .readWrite => "read_write"
  | .fullAgent => "full_agent"

/-- The key lookup `CAPABILITIES_BY_PROFILE[profile]`; `none` is its `KeyError`. -/
def CapabilityProfile.ofName? (name : String) : Option CapabilityProfile :=
  [CapabilityProfile.readOnly, .readWrite, .fullAgent].find? fun p => decide (p.name = name)

def readOnlyCapabilities : List String :=
  ["connector_health", "files_list", "files_stat", "files_search", "files_read",
    "files_download", "skills_list", "mcp_list_servers", "mcp_health", "skills_health"]

def readWriteCapabilities : List String :=
  readOnlyCapabilities ++
    ["files_write", "files_delete", "files_move", "files_mkdir", "files_upload",
      "skills_materialize"]

def fullAgentCapabilities : List String :=
  readWriteCapabilities ++
    ["terminal_execute", "ssh_execute", "ssh_list_profiles", "skills_execute", "mcp_call"]

/-- `capabilities_for_profile`. -/
def capabilitiesForProfile : CapabilityProfile → List String
  | .readOnly => readOnlyCapabilities.insertionSort (· ≤ ·)
  | .readWrite => readWriteCapabilities.insertionSort (· ≤ ·)
  | .fullAgent => fullAgentCapabilities.insertionSort (· ≤ ·)

/-- Every profile grants what the one below it grants. -/
theorem capabilitiesForProfile_mono {c : String} :
    (c ∈ capabilitiesForProfile .readOnly → c ∈ capabilitiesForProfile .readWrite) ∧
      (c ∈ capabilitiesForProfile .readWrite → c ∈ capabilitiesForProfile .fullAgent) := by
  simp only [capabilitiesForProfile, List.mem_insertionSort, readWriteCapabilities,
    fullAgentCapabilities]
  exact ⟨fun mem => List.mem_append_left _ mem, fun mem => List.mem_append_left _ mem⟩

/-- `MUTATING_RELAY_TOOLS`. -/
def mutatingRelayTools : List String :=
  ["files.write", "files.delete", "files.move", "files.mkdir", "files.upload",
    "terminal.execute", "ssh.execute", "skills.materialize", "skills.execute", "mcp.call"]

/-- The capability a relay verb needs: `tool.replace(".", "_")`. -/
def capabilityOf (tool : String) : String := Py.replaceChar '.' '_' tool

/-! ## Identifiers -/

/-- A character of `[a-z0-9_.-]`, or of `[A-Za-z0-9_.-]` when `capitals`. -/
def isIdChar (capitals : Bool) (c : Char) : Bool :=
  c == '_' || c == '.' || c == '-' || (if capitals then Py.isAlnumAscii c else
    Py.isLowerAscii c || c.isDigit)

/-- `CONNECTOR_ID_PATTERN.fullmatch`. -/
def isConnectorId (s : String) : Bool :=
  match s.toList with
  | a :: b :: rest =>
      Py.isLowerAscii a && (Py.isLowerAscii b || b.isDigit) && decide (rest.length ≤ 62) &&
        rest.all (isIdChar false)
  | _ => false

/-- `INSTANCE_ID_PATTERN.fullmatch`. -/
def isInstanceId (s : String) : Bool :=
  match s.toList with
  | a :: rest => Py.isAlnumAscii a && decide (rest.length ≤ 127) && rest.all (isIdChar true)
  | [] => false

/-- A character of `[A-Za-z0-9 ._()#-]`, the alphabet of labels, and for
platforms also `:` and `/`. -/
def isLabelChar (platform : Bool) (c : Char) : Bool :=
  Py.isAlnumAscii c || [' ', '.', '_', '(', ')', '#', '-'].contains c ||
    (platform && (c == ':' || c == '/'))

/-- `DISPLAY_LABEL_PATTERN.fullmatch`. -/
def isDisplayLabel (s : String) : Bool :=
  decide (0 < s.length ∧ s.length ≤ 80) && s.toList.all (isLabelChar false)

/-- `PLATFORM_PATTERN.fullmatch`. -/
def isPlatform (s : String) : Bool :=
  match s.toList with
  | a :: rest => Py.isAlnumAscii a && decide (rest.length ≤ 63) && rest.all (isLabelChar true)
  | [] => false

section Parsers

variable (env : Env)

/-- `str(value or "")`. -/
def Env.text (j : Json) : String := Py.strOrEmpty env.floats env.container j

/-- `str(text or "")` is the text. -/
theorem text_str (env : Env) (s : String) : env.text (.str s) = s := by
  by_cases empty : s = ""
  · rw [empty]
    rfl
  · exact if_pos (decide_eq_true empty)

/-- The integers that SQLite can bind. -/
def isSqlInteger (i : Int) : Bool := decide (-2 ^ 63 ≤ i ∧ i < 2 ^ 63)

/-- What a column `TEXT NOT NULL` stores for a value; `none` is a database error. -/
def Env.textColumn : Json → Option String
  | .str s => some s
  | .bool b => some (if b then "1" else "0")
  | .int i => if isSqlInteger i then some (String.ofList (intText i)) else none
  | .float f => some (env.textOfFloat f)
  | .null | .arr _ | .obj _ => none

/-- What a column `INTEGER NOT NULL CHECK (… >= 0)` stores for a value; `none` is a
database error. -/
def Env.naturalColumn : Json → Option Json
  | .bool b => some (.int (if b then 1 else 0))
  | .int i => if isSqlInteger i && decide (0 ≤ i) then some (.int i) else none
  | .float f => env.integerOfFloat f
  | .str s => env.integerOfText s
  | .null | .arr _ | .obj _ => none

/-- A parser that normalises a text and then requires a pattern. -/
def parsePattern (normal : String → String) (ok : String → Bool) (j : Json) :
    Except Exc String :=
  let text := normal (env.text j)
  if ok text then .ok text else .error .protocol

def parseConnectorId : Json → Except Exc String :=
  parsePattern env (fun s => Py.lower (Py.strip s)) isConnectorId

def parseInstanceId : Json → Except Exc String := parsePattern env Py.strip isInstanceId

def validateDisplayLabel : Json → Except Exc String := parsePattern env Py.strip isDisplayLabel

def validatePlatform : Json → Except Exc String := parsePattern env Py.strip isPlatform

def parseUuid (j : Json) : Except Exc String :=
  match Py.uuid (Py.str env.floats env.container j) with
  | some id => .ok id
  | none => .error .protocol

/-! ## Handshake payloads -/

/-- `enrollment_payload`. -/
def enrollmentPayload (challengeId challenge connectorId enrollmentToken publicKey : Json) :
    Except Exc String := do
  let challengeId ← parseUuid env challengeId
  let connectorId ← parseConnectorId env connectorId
  let str := Py.str env.floats env.container
  return String.intercalate "\n"
    ["remote-agent-enrollment-v1", challengeId, str challenge, connectorId, str enrollmentToken,
      str publicKey]

/-- `relay_auth_payload`. -/
def relayAuthPayload (challengeId challenge connectorId instanceId contextEpoch : Json) :
    Except Exc String := do
  let challengeId ← parseUuid env challengeId
  let connectorId ← parseConnectorId env connectorId
  let instanceId ← parseInstanceId env instanceId
  let str := Py.str env.floats env.container
  return String.intercalate "\n"
    ["remote-agent-relay-auth-v1", challengeId, str challenge, connectorId, instanceId,
      str contextEpoch]

/-- `verify_ed25519`. -/
def verifyEd25519 (publicKey : Json) (payload : String) (signature : Json) : Bool :=
  env.ed25519 (Py.strip (env.text publicKey)) payload (Py.strip (env.text signature))

/-- `canonical_json_digest`. -/
def canonicalJsonDigest (value : Json) : String := env.sha256 value.dumps

end Parsers

theorem parsePattern_ok_iff {env : Env} {normal : String → String} {ok : String → Bool}
    {j : Json} {text : String} :
    parsePattern env normal ok j = .ok text ↔ text = normal (env.text j) ∧ ok text = true := by
  unfold parsePattern
  dsimp only
  split
  · rename_i matched
    rw [Except.ok.injEq]
    exact ⟨fun is => ⟨is.symm, is ▸ matched⟩, fun is => is.1.symm⟩
  · rename_i unmatched
    exact ⟨fun isOk => (nomatch isOk), fun is => absurd (is.1 ▸ is.2) unmatched⟩

/-- What a parser accepts matches the pattern. -/
theorem parsePattern_ok {env : Env} {normal : String → String} {ok : String → Bool} {j : Json}
    {text : String} (parsed : parsePattern env normal ok j = .ok text) : ok text = true :=
  (parsePattern_ok_iff.mp parsed).2

/-- **Equal digests mean equal values**, when SHA-256 has no collision. -/
theorem canonicalJsonDigest_inj {env : Env} (collisionFree : Function.Injective env.sha256)
    {a b : Json} : canonicalJsonDigest env a = canonicalJsonDigest env b ↔ Json.Same a b := by
  unfold canonicalJsonDigest
  rw [collisionFree.eq_iff, Json.dumps_eq_iff]

/-! ## Frames -/

/-- `_require_keys`. -/
def requireKeys (value : Json) (required optional : List String) : Except Exc Unit :=
  match value with
  | .obj fs =>
      let keys := fs.map Prod.fst
      if required.all keys.contains && keys.all (required ++ optional).contains then .ok ()
      else .error .protocol
  | _ => .error .protocol

/-- A complete frame has every key that is required. -/
theorem requireKeys_get? {value : Json} {required optional : List String}
    (complete : requireKeys value required optional = .ok ()) {key : String}
    (mem : key ∈ required) : ∃ v, value.get? key = some v := by
  have found : ∀ fs : List (String × Json), key ∈ fs.map Prod.fst →
      ∃ v, Json.lookup key fs = some v := by
    intro fs here
    induction fs with
    | nil => cases here
    | cons m fs ih =>
        unfold Json.lookup
        cases later : Json.lookup key fs with
        | some v => exact ⟨v, rfl⟩
        | none =>
            rcases List.mem_cons.mp here with rfl | rest
            · exact ⟨m.2, if_pos rfl⟩
            · obtain ⟨v, is⟩ := ih rest
              rw [later] at is
              cases is
  unfold requireKeys at complete
  split at complete
  · rename_i fs
    dsimp only at complete
    split at complete
    · rename_i both
      have all := List.all_eq_true.mp (Bool.and_eq_true_iff.mp both).1 key mem
      exact found fs (List.contains_iff_mem.mp all)
    · cases complete
  · cases complete

/-- `build_cancel_frame`.  Its own check of `request_id` cannot fail: the caller has
just parsed it. -/
def buildCancelFrame (connectorId requestId : String) : Json :=
  .obj [("v", .int protocolVersion), ("type", .str "cancel"), ("request_id", .str requestId),
    ("connector_id", .str connectorId)]

/-- The object a waiting call is given for a response with this status and result. -/
def responseResult (ok : Bool) (payload : Json) : Json :=
  if ok then
    match payload with
    | .obj fs => .obj (("code", .str "ok") :: fs)
    | payload => .obj [("code", .str "ok"), ("result", payload)]
  else .obj [("code", .str "device_error"), ("error", payload)]

end RemoteAgent
