import RemoteAgent.CanonicalJson
import RemoteAgent.Soundness

/-!
# What the strict parsers raise

`parse_app_assertion` is to raise a `ProtocolError` and the device's verifier an
`AppAssertionError`, whatever the JSON value.

* `parseAppAssertion_escapes_iff`, `keyRefused_error_iff`: where another exception comes from.
* `strictErrors_iff`: the parser and the three operations of the verifier.
-/

open Wire

namespace RemoteAgent

open Dispatcher (field)

/-! ## The errors of a computation -/

section Errors

variable {ε α β : Type} {errors : ε → Prop} {first : Except ε α} {next : α → Except ε β} {e : ε}

/-- Whatever the computation raises is one of these. -/
def RaisesOnly (errors : ε → Prop) (result : Except ε α) : Prop :=
  ∀ e, result = .error e → errors e

theorem bind_error_iff :
    (first >>= next) = .error e ↔ first = .error e ∨ ∃ a, first = .ok a ∧ next a = .error e := by
  cases first with
  | error e' =>
      constructor
      · intro same
        cases same
        exact .inl rfl
      · rintro (same | ⟨_, no, _⟩)
        · cases same
          rfl
        · cases no
  | ok a =>
      constructor
      · exact fun same => .inr ⟨a, rfl, same⟩
      · rintro (no | ⟨a', same, raised⟩)
        · cases no
        · cases same
          exact raised

theorem raisesOnly_ok {a : α} : RaisesOnly errors (.ok a : Except ε α) := fun _ no => nomatch no

theorem raisesOnly_bind (one : RaisesOnly errors first)
    (two : ∀ a, first = .ok a → RaisesOnly errors (next a)) :
    RaisesOnly errors (first >>= next) := by
  intro e raised
  rcases bind_error_iff.mp raised with raised | ⟨a, ok, raised⟩
  · exact one e raised
  · exact two a ok e raised

end Errors

/-- The contract error of the parsers. -/
def Rejection.IsProtocol : Rejection → Prop
  | .protocol _ => True
  | .escape => False

/-- The contract error of the verifier. -/
def Refusal.IsCode : Refusal → Prop
  | .code _ => True
  | .protocol _ | .escape => False

variable {env : Env}

/-! ## The parser -/

theorem require_raises (holds : Bool) (message : String) :
    RaisesOnly Rejection.IsProtocol (require holds message) := by
  intro e raised
  cases holds with
  | true => cases raised
  | false =>
      cases raised
      trivial

theorem naming_raises {α : Type} {message : String} {result : Except Exc α}
    (raises : ∀ e, result = .error e → e ≠ .escape) :
    RaisesOnly Rejection.IsProtocol (naming message result) := by
  intro e raised
  cases result with
  | ok a => cases raised
  | error exc =>
      cases exc with
      | escape => exact absurd rfl (raises _ rfl)
      | _ =>
          cases raised
          trivial

theorem parsePattern_raises {normal : String → String} {ok : String → Bool} {j : Json} :
    ∀ e, parsePattern env normal ok j = .error e → e ≠ .escape := by
  intro e raised
  unfold parsePattern at raised
  dsimp only at raised
  split at raised
  · cases raised
  · cases raised
    exact fun no => nomatch no

theorem parseUuid_raises {j : Json} : ∀ e, parseUuid env j = .error e → e ≠ .escape := by
  intro e raised
  unfold parseUuid at raised
  split at raised
  · cases raised
  · cases raised
    exact fun no => nomatch no

theorem assertionInt_raises (j : Json) (name : String) :
    RaisesOnly Rejection.IsProtocol (assertionInt j name) := by
  intro e raised
  unfold assertionInt at raised
  split at raised
  · cases raised
  · cases raised
    trivial

theorem b64decode_raises (j : Json) (name : String) (length : Nat) :
    RaisesOnly Rejection.IsProtocol (b64decode env j name length) := by
  intro e raised
  unfold b64decode at raised
  split at raised
  · cases raised
    trivial
  · split at raised
    · cases raised
    · cases raised
      trivial

theorem decodeEnvelope_raises (value : Json) :
    RaisesOnly Rejection.IsProtocol (decodeEnvelope env value) := by
  intro e raised
  unfold decodeEnvelope at raised
  split at raised
  · cases raised
  · dsimp only at raised
    split at raised
    · cases raised
      trivial
    · split at raised
      · cases raised
      · cases raised
        trivial

/-- True values over which `list(…)` cannot go. -/
def unlistable (floats : Py.FloatOps) : Json → Bool
  | .bool b => b
  | .int i => decide (i ≠ 0)
  | .float f => !floats.isZero f
  | .null | .str _ | .arr _ | .obj _ => false

theorem rawScopes_eq_none_iff {value : Json} :
    rawScopes env value = none ↔ unlistable env.floats value = true := by
  cases value with
  | null => simp [rawScopes, unlistable, Py.truthy]
  | bool b => cases b <;> simp [rawScopes, unlistable, Py.truthy]
  | int i => simp [rawScopes, unlistable, Py.truthy]
  | float f => simp [rawScopes, unlistable, Py.truthy]
  | str s => simp [rawScopes, unlistable]
  | arr xs => simp [rawScopes, unlistable]
  | obj fs => simp [rawScopes, unlistable]

/-- The scopes are refused with the contract error unless they cannot be gone over. -/
theorem validateAgentScopes_escapes_iff {value : Json} :
    validateAgentScopes env value = .error .escape ↔ unlistable env.floats value = true := by
  rw [← rawScopes_eq_none_iff]
  unfold validateAgentScopes normalizeScopes
  cases raw : rawScopes env value with
  | none => exact ⟨fun _ => rfl, fun _ => rfl⟩
  | some scopes =>
      refine ⟨fun escapes => ?_, fun no => nomatch no⟩
      rcases bind_error_iff.mp escapes with escapes | ⟨_, _, escapes⟩
      · dsimp only at escapes
        split at escapes
        · cases escapes
        · cases escapes
      · rcases bind_error_iff.mp escapes with escapes | ⟨_, _, escapes⟩
        · exact (require_raises _ _ _ escapes).elim
        · cases escapes

/-- What the parser has checked of an object when it comes to the scopes. -/
structure BeforeScopes (env : Env) (decoded : Json) : Prop where
  fields : hasFields assertionFields decoded = true
  schemaVersion : Py.eqStr (field decoded "schema_version") appAssertionSchemaVersion = true
  issuer : Py.eqStr (field decoded "issuer") appAssertionIssuer = true
  audience : Py.eqStr (field decoded "audience") appAssertionAudience = true
  keyId : isKeyId (Py.str env.floats env.container (field decoded "key_id")) = true
  clientId : isClientId (Py.strip (env.text (field decoded "client_id"))) = true
  appId : isAppId (Py.strip (env.text (field decoded "app_id"))) = true
  connectorId : isConnectorId (Py.lower (Py.strip (env.text (field decoded "connector_id")))) =
    true

/-- The envelope is in order up to its scopes, which are `true`, a number other than zero, or
the like. -/
def ScopesUnlistable (env : Env) (value : Json) : Prop :=
  ∃ decoded, decodeEnvelope env value = .ok decoded ∧ BeforeScopes env decoded ∧
    unlistable env.floats (field decoded "scopes") = true

theorem require_escapes {α : Type} {holds : Bool} {message : String}
    {next : Unit → Except Rejection α} (escapes : (require holds message >>= next) = .error .escape) :
    holds = true ∧ next () = .error .escape := by
  cases holds with
  | true => exact ⟨rfl, escapes⟩
  | false => cases escapes

theorem require_of_holds {holds : Bool} {message : String} (passes : holds = true) :
    require holds message = .ok () := if_pos passes

/-- A step that raises the contract error only is passed before an escape. -/
theorem passed_of_escape {α β : Type} {first : Except Rejection α} {next : α → Except Rejection β}
    (raises : RaisesOnly Rejection.IsProtocol first)
    (escapes : (first >>= next) = .error .escape) :
    ∃ a, first = .ok a ∧ next a = .error .escape := by
  rcases bind_error_iff.mp escapes with no | passed
  · exact (raises _ no).elim
  · exact passed

/-- **The parser escapes its contract error on the scopes alone.** -/
theorem parseAppAssertion_escapes_iff {value : Json} :
    parseAppAssertion env value = .error .escape ↔ ScopesUnlistable env value := by
  constructor
  · intro escapes
    obtain ⟨decoded, decodes, escapes⟩ := passed_of_escape (decodeEnvelope_raises value) escapes
    obtain ⟨fields, escapes⟩ := require_escapes escapes
    obtain ⟨schemaVersion, escapes⟩ := require_escapes escapes
    obtain ⟨issuer, escapes⟩ := require_escapes escapes
    obtain ⟨audience, escapes⟩ := require_escapes escapes
    obtain ⟨keyId, escapes⟩ := require_escapes escapes
    obtain ⟨_, isClient, escapes⟩ := passed_of_escape (naming_raises parsePattern_raises) escapes
    obtain ⟨appId, escapes⟩ := require_escapes escapes
    obtain ⟨_, isConnector, escapes⟩ := passed_of_escape (naming_raises parsePattern_raises) escapes
    obtain ⟨rfl, clientId⟩ := parsePattern_ok_iff.mp (naming_ok_iff.mp isClient)
    obtain ⟨rfl, connectorId⟩ := parsePattern_ok_iff.mp (naming_ok_iff.mp isConnector)
    refine ⟨decoded, decodes, ⟨fields, schemaVersion, issuer, audience, keyId, clientId, appId,
      connectorId⟩, ?_⟩
    rcases bind_error_iff.mp escapes with escapes | ⟨scopes, _, escapes⟩
    · exact validateAgentScopes_escapes_iff.mp escapes
    obtain ⟨_, _, escapes⟩ := passed_of_escape (assertionInt_raises _ _) escapes
    obtain ⟨_, _, escapes⟩ := passed_of_escape (assertionInt_raises _ _) escapes
    obtain ⟨_, escapes⟩ := require_escapes escapes
    obtain ⟨_, escapes⟩ := require_escapes escapes
    obtain ⟨_, _, escapes⟩ := passed_of_escape (naming_raises parsePattern_raises) escapes
    obtain ⟨_, _, escapes⟩ := passed_of_escape (naming_raises parseUuid_raises) escapes
    obtain ⟨_, _, escapes⟩ := passed_of_escape (naming_raises parseUuid_raises) escapes
    obtain ⟨_, _, escapes⟩ := passed_of_escape (b64decode_raises _ _ _) escapes
    cases escapes
  · rintro ⟨decoded, decodes, before, unlisted⟩
    have isClient : parseClientId env (field decoded "client_id") = .ok _ :=
      naming_ok_iff.mpr (parsePattern_ok_iff.mpr ⟨rfl, before.clientId⟩)
    have isConnector : naming "connector_id is invalid"
        (parseConnectorId env (field decoded "connector_id")) = .ok _ :=
      naming_ok_iff.mpr (parsePattern_ok_iff.mpr ⟨rfl, before.connectorId⟩)
    refine bind_error_iff.mpr (.inr ⟨decoded, decodes, ?_⟩)
    refine bind_error_iff.mpr (.inr ⟨(), require_of_holds before.fields, ?_⟩)
    refine bind_error_iff.mpr (.inr ⟨(), require_of_holds before.schemaVersion, ?_⟩)
    refine bind_error_iff.mpr (.inr ⟨(), require_of_holds before.issuer, ?_⟩)
    refine bind_error_iff.mpr (.inr ⟨(), require_of_holds before.audience, ?_⟩)
    refine bind_error_iff.mpr (.inr ⟨(), require_of_holds before.keyId, ?_⟩)
    refine bind_error_iff.mpr (.inr ⟨_, isClient, ?_⟩)
    refine bind_error_iff.mpr (.inr ⟨(), require_of_holds before.appId, ?_⟩)
    refine bind_error_iff.mpr (.inr ⟨_, isConnector, ?_⟩)
    exact bind_error_iff.mpr (.inl (validateAgentScopes_escapes_iff.mpr unlisted))

/-! ## Keysets -/

def keyFields : List String := ["key_id", "public_key", "not_before", "not_after", "status"]

/-- The id under which an entry of a keyset is kept. -/
def keyId (env : Env) (item : Json) : String :=
  Py.str env.floats env.container (field item "key_id")

def Decodable (env : Env) (item : Json) : Prop :=
  ∃ raw, parsePublicKey env (field item "public_key") = .ok raw

/-- The first entry that is not in order has all the fields and an id of its own; its public
key is not base64url of 32 bytes.  The ids in `seen` are those before the list. -/
def UndecodableEntry (env : Env) (seen : List String) (items : List Json) : Prop :=
  ∃ front item back, items = front ++ item :: back ∧
    (∀ entry ∈ front, hasFields keyFields entry = true ∧ Decodable env entry) ∧
    hasFields keyFields item = true ∧ ¬ Decodable env item ∧
    ((front ++ [item]).map (keyId env)).Nodup ∧
    ∀ entry ∈ front ++ [item], keyId env entry ∉ seen

theorem undecodableEntry_cons {seen : List String} {item : Json} {items : List Json} :
    UndecodableEntry env seen (item :: items) ↔
      hasFields keyFields item = true ∧ keyId env item ∉ seen ∧
        (¬ Decodable env item ∨
          Decodable env item ∧ UndecodableEntry env (seen ++ [keyId env item]) items) := by
  constructor
  · rintro ⟨front, entry, back, split, passed, fields, undecodable, distinct, unseen⟩
    cases front with
    | nil =>
        obtain ⟨rfl, rfl⟩ := List.cons.inj split
        exact ⟨fields, unseen item List.mem_cons_self, .inl undecodable⟩
    | cons one front =>
        obtain ⟨rfl, rfl⟩ := List.cons.inj split
        obtain ⟨hasAll, decodable⟩ := passed item List.mem_cons_self
        obtain ⟨own, distinct⟩ := List.nodup_cons.mp distinct
        refine ⟨hasAll, unseen item List.mem_cons_self, .inr ⟨decodable, front, entry, back, rfl,
          fun e mem => passed e (List.mem_cons_of_mem _ mem), fields, undecodable, distinct, ?_⟩⟩
        intro e mem
        rw [List.mem_append, List.mem_singleton]
        rintro (old | same)
        · exact unseen e (List.mem_cons_of_mem _ mem) old
        · exact own (same ▸ List.mem_map_of_mem mem)
  · rintro ⟨hasAll, isNew, undecodable | ⟨decodable, front, entry, back, rfl, passed, fields,
      undecodable, distinct, unseen⟩⟩
    · exact ⟨[], item, items, rfl, fun _ mem => absurd mem List.not_mem_nil, hasAll, undecodable,
        List.nodup_singleton _, fun e mem => List.mem_singleton.mp mem ▸ isNew⟩
    · refine ⟨item :: front, entry, back, rfl, ?_, fields, undecodable, ?_, ?_⟩
      · intro e mem
        rcases List.mem_cons.mp mem with rfl | mem
        · exact ⟨hasAll, decodable⟩
        · exact passed e mem
      · refine List.nodup_cons.mpr ⟨fun mem => ?_, distinct⟩
        obtain ⟨e, inFront, same⟩ := List.mem_map.mp mem
        exact unseen e inFront (List.mem_append_right _ (List.mem_singleton.mpr same))
      · intro e mem
        rcases List.mem_cons.mp mem with rfl | mem
        · exact isNew
        · exact fun old => unseen e mem (List.mem_append_left _ old)

theorem demand_error {α : Type} {holds : Bool} {code : String} {next : Unit → Except Refusal α}
    {e : Refusal} (raised : (demand holds code >>= next) = .error e) (other : ¬ e.IsCode) :
    holds = true ∧ next () = .error e := by
  cases holds with
  | true => exact ⟨rfl, raised⟩
  | false =>
      cases raised
      exact absurd trivial other

theorem demand_of_holds {holds : Bool} {code : String} (passes : holds = true) :
    demand holds code = .ok () := if_pos passes

/-- A step that raises the contract error only is passed before another error. -/
theorem passed_of_error {α β : Type} {first : Except Refusal α} {next : α → Except Refusal β}
    {e : Refusal} (raises : RaisesOnly Refusal.IsCode first)
    (raised : (first >>= next) = .error e) (other : ¬ e.IsCode) :
    ∃ a, first = .ok a ∧ next a = .error e := by
  rcases bind_error_iff.mp raised with no | passed
  · exact absurd (raises _ no) other
  · exact passed

/-- The error of the key parser is passed on as it is. -/
theorem parsePublicKey_passed {value : Json} {e : Refusal}
    (raised : (parsePublicKey env value).mapError Rejection.passed = .error e) : ¬ e.IsCode := by
  cases parsed : parsePublicKey env value with
  | ok raw =>
      rw [parsed] at raised
      cases raised
  | error r =>
      rw [parsed] at raised
      cases r with
      | protocol message =>
          cases raised
          exact id
      | escape =>
          cases raised
          exact id

namespace Verifier

theorem collectKeys_raises_iff (items : List Json) (keys : KeyMap) :
    RaisesOnly Refusal.IsCode (collectKeys env keys items) ↔
      ¬ UndecodableEntry env (keys.map Prod.fst) items := by
  induction items generalizing keys with
  | nil =>
      refine ⟨fun _ => ?_, fun _ => raisesOnly_ok⟩
      rintro ⟨front, item, back, split, -⟩
      exact absurd split.symm (List.append_ne_nil_of_right_ne_nil _ (List.cons_ne_nil _ _))
  | cons item items ih =>
      rw [undecodableEntry_cons]
      constructor
      · rintro raises ⟨fields, isNew, cause⟩
        obtain ⟨fs, rfl⟩ := exists_of_hasFields fields
        have unseen : (!(keys.map Prod.fst).contains (keyId env (.obj fs))) = true := by
          simpa using isNew
        rcases cause with undecodable | ⟨⟨raw, decodable⟩, later⟩
        · cases parsed : (parsePublicKey env (field (.obj fs) "public_key")).mapError
              Rejection.passed with
          | ok raw => exact undecodable ⟨raw, mapError_ok_iff.mp parsed⟩
          | error e =>
              refine parsePublicKey_passed parsed (raises e ?_)
              refine bind_error_iff.mpr (.inr ⟨(), demand_of_holds fields, ?_⟩)
              refine bind_error_iff.mpr (.inr ⟨(), demand_of_holds unseen, ?_⟩)
              exact bind_error_iff.mpr (.inl parsed)
        · have next := (ih (keys ++ [(keyId env (.obj fs), fs)])).not.mpr
          rw [List.map_append, List.map_singleton, not_not] at next
          refine next later fun e raised => raises e ?_
          refine bind_error_iff.mpr (.inr ⟨(), demand_of_holds fields, ?_⟩)
          refine bind_error_iff.mpr (.inr ⟨(), demand_of_holds unseen, ?_⟩)
          exact bind_error_iff.mpr (.inr ⟨raw, mapError_ok_iff.mpr decodable, raised⟩)
      · intro orderly e raised
        by_contra other
        obtain ⟨fields, raised⟩ := demand_error raised other
        obtain ⟨isNew, raised⟩ := demand_error raised other
        have unseen : keyId env item ∉ keys.map Prod.fst := by
          simpa [keyId] using isNew
        rcases bind_error_iff.mp raised with undecodable | ⟨raw, decodable, raised⟩
        · refine orderly ⟨fields, unseen, .inl ?_⟩
          rintro ⟨raw, parsed⟩
          cases (mapError_ok_iff (f := Rejection.passed).mpr parsed).symm.trans undecodable
        · obtain ⟨fs, rfl⟩ := exists_of_hasFields fields
          refine other ((ih (keys ++ [(keyId env (.obj fs), fs)])).mpr ?_ e raised)
          rw [List.map_append, List.map_singleton]
          exact fun later => orderly ⟨fields, unseen, .inr ⟨⟨raw, mapError_ok_iff.mp decodable⟩,
            later⟩⟩

variable (v : Verifier env)

/-- The keyset is signed by the pinned root, and in time, and these are its entries. -/
structure Opened (keyset : Json) (current : Int) (items : List Json) : Prop where
  object : keyset.isObj = true
  schemaVersion : Py.eqStr (field keyset "schema_version") keysetSchemaVersion = true
  rootKeyId : Py.eqStr (field keyset "root_key_id") v.anchor.rootKeyId = true
  signed : verifyEd25519 env (.str v.anchor.rootPublicKey)
    (canonicalJsonBytes (keyset.without "signature"))
    (.str (env.text (field keyset "signature"))) = true
  timely : v.keysetTimely keyset current = true
  listed : field keyset "keys" = .arr items

/-- A keyset that is opened and has an entry whose public key cannot be decoded, before
anything else that would be refused. -/
def KeyUndecodable (keyset : Json) (current : Int) : Prop :=
  ∃ items, v.Opened keyset current items ∧ UndecodableEntry env [] items

theorem verifyKeyset_raises_iff (keyset : Json) (current : Int) :
    RaisesOnly Refusal.IsCode (v.verifyKeyset keyset current) ↔
      ¬ v.KeyUndecodable keyset current := by
  constructor
  · rintro raises ⟨items, opened, entry⟩
    refine (collectKeys_raises_iff items []).not.mpr (not_not.mpr entry) fun e raised =>
      raises e ?_
    refine bind_error_iff.mpr (.inr ⟨(), demand_of_holds opened.object, ?_⟩)
    refine bind_error_iff.mpr (.inr ⟨(), demand_of_holds opened.schemaVersion, ?_⟩)
    refine bind_error_iff.mpr (.inr ⟨(), demand_of_holds opened.rootKeyId, ?_⟩)
    refine bind_error_iff.mpr (.inr ⟨(), demand_of_holds opened.signed, ?_⟩)
    refine bind_error_iff.mpr (.inr ⟨(), demand_of_holds opened.timely, ?_⟩)
    rw [opened.listed]
    cases items with
    | nil => cases raised
    | cons item items => exact raised
  · intro orderly e raised
    by_contra other
    obtain ⟨object, raised⟩ := demand_error raised other
    obtain ⟨schemaVersion, raised⟩ := demand_error raised other
    obtain ⟨rootKeyId, raised⟩ := demand_error raised other
    obtain ⟨signed, raised⟩ := demand_error raised other
    obtain ⟨timely, raised⟩ := demand_error raised other
    split at raised
    · rename_i item items listed
      refine other ((collectKeys_raises_iff (item :: items) []).mpr ?_ e raised)
      exact fun entry => orderly ⟨item :: items, ⟨object, schemaVersion, rootKeyId, signed,
        timely, listed⟩, entry⟩
    · cases raised
      exact other trivial

def rootFields : List String := ["key_id", "public_key", "not_before", "not_after"]

/-- The keyset is accepted, and its next root has all the fields and a public key that cannot
be decoded. -/
def RootUndecodable (keyset : Json) (current : Int) : Prop :=
  (∃ keys, v.verifyKeyset keyset current = .ok keys) ∧
    hasFields rootFields (field keyset "next_root") = true ∧
    ¬ Decodable env (field keyset "next_root")

theorem pendingRoot_raises_iff (keyset : Json) (current later : Int) :
    RaisesOnly Refusal.IsCode (v.pendingRoot keyset current later) ↔
      ¬ (v.KeyUndecodable keyset current ∨ v.RootUndecodable keyset current) := by
  constructor
  · rintro raises (undecodable | ⟨⟨keys, accepted⟩, fields, undecodable⟩)
    · refine (v.verifyKeyset_raises_iff keyset current).not.mpr (not_not.mpr undecodable)
        fun e raised => raises e ?_
      exact bind_error_iff.mpr (.inl raised)
    · cases parsed : (parsePublicKey env (field (field keyset "next_root") "public_key")).mapError
          Rejection.passed with
      | ok raw => exact undecodable ⟨raw, mapError_ok_iff.mp parsed⟩
      | error e =>
          refine parsePublicKey_passed parsed (raises e ?_)
          refine bind_error_iff.mpr (.inr ⟨keys, accepted, ?_⟩)
          split
          · rename_i isNull
            rw [isNull] at fields
            cases fields
          · refine bind_error_iff.mpr (.inr ⟨(), demand_of_holds fields, ?_⟩)
            exact bind_error_iff.mpr (.inl parsed)
  · intro orderly e raised
    by_contra other
    rcases bind_error_iff.mp raised with raised | ⟨keys, accepted, raised⟩
    · exact other ((v.verifyKeyset_raises_iff keyset current).mpr
        (fun undecodable => orderly (.inl undecodable)) e raised)
    split at raised
    · cases raised
    · obtain ⟨fields, raised⟩ := demand_error raised other
      rcases bind_error_iff.mp raised with undecodable | ⟨raw, decodable, raised⟩
      · refine orderly (.inr ⟨⟨keys, accepted⟩, fields, ?_⟩)
        rintro ⟨raw, parsed⟩
        cases (mapError_ok_iff (f := Rejection.passed).mpr parsed).symm.trans undecodable
      · obtain ⟨_, raised⟩ := demand_error raised other
        cases raised

/-! ## Assertions -/

/-- Lists and dictionaries, which are not hashable. -/
def isContainer : Json → Bool
  | .arr _ | .obj _ => true
  | .null | .bool _ | .int _ | .float _ | .str _ => false

/-- What compares with an integer. -/
def isNumber : Json → Bool
  | .bool _ | .int _ | .float _ => true
  | .null | .str _ | .arr _ | .obj _ => false

/-- The status of the key is a list or a dictionary; or the key is usable and one of its time
bounds, where it comes to it, is no number. -/
def Uncomparable (subInt : FloatText → Int → Option FloatText) (key : Json) (current : Int) :
    Prop :=
  isContainer (field key "status") = true ∨
    (usableKeyStatuses.any (Py.eqStr (field key "status")) = true ∧
      (minus subInt (field key "not_before") v.clockSkewSeconds = none ∨
        (∃ earliest, minus subInt (field key "not_before") v.clockSkewSeconds = some earliest ∧
          Py.lt env.floats (.int current) earliest = some false) ∧
        isNumber (field key "not_after") = false))

theorem unusable_eq {floats : Py.FloatOps} {status : Json} :
    unusable floats status = if isContainer status then none
      else some (!usableKeyStatuses.any (Py.eqStr status)) := by
  unfold unusable
  cases status with
  | float f =>
      simp only [Py.key?, isContainer]
      split
      · split <;> rfl
      · rfl
  | _ => rfl

theorem reached_eq_none_iff {floats : Py.FloatOps} {current : Int} {value : Json} :
    reached floats current value = none ↔ isNumber value = false := by
  cases value <;> simp [reached, isNumber, Py.intLike]

/-- A difference is a number, so it compares. -/
theorem lt_minus {subInt : FloatText → Int → Option FloatText} {value earliest : Json}
    {seconds current : Int} (is : minus subInt value seconds = some earliest) :
    ∃ below, Py.lt env.floats (.int current) earliest = some below := by
  unfold minus at is
  split at is
  · obtain ⟨f, _, rfl⟩ := Option.map_eq_some_iff.mp is
    exact ⟨_, rfl⟩
  · obtain ⟨i, _, rfl⟩ := Option.map_eq_some_iff.mp is
    exact ⟨_, rfl⟩

theorem present_bind {α β : Type} {found : Option α} {a : α} {next : α → Except Refusal β}
    (is : found = some a) : (present found >>= next) = next a := by
  rw [is]
  rfl

/-- **A key of a keyset is compared without an error exactly when it is no `Uncomparable`
one.** -/
theorem keyRefused_error_iff {subInt : FloatText → Int → Option FloatText} {key : Json}
    {current : Int} {e : Refusal} (fields : hasFields keyFields key = true) :
    v.keyRefused subInt key current = .error e ↔
      e = .escape ∧ v.Uncomparable subInt key current := by
  unfold keyRefused Uncomparable
  rw [present_bind (get?_of_hasFields fields (by decide))]
  cases container : isContainer (field key "status") with
  | true =>
      have unhashable : unusable env.floats (field key "status") = none := by
        rw [unusable_eq, container]
        rfl
      rw [unhashable]
      exact ⟨fun raised => ⟨(Except.error.inj raised).symm, .inl rfl⟩, fun ⟨is, _⟩ => is ▸ rfl⟩
  | false =>
      have hashed : unusable env.floats (field key "status") =
          some (!usableKeyStatuses.any (Py.eqStr (field key "status"))) := by
        rw [unusable_eq, container]
        rfl
      rw [present_bind hashed]
      cases usable : usableKeyStatuses.any (Py.eqStr (field key "status")) with
      | false => exact ⟨fun no => (nomatch no), fun ⟨_, cause⟩ => by simp at cause⟩
      | true =>
          rw [if_neg (by decide), present_bind (get?_of_hasFields fields (by decide))]
          cases window : minus subInt (field key "not_before") v.clockSkewSeconds with
          | none =>
              exact ⟨fun raised => ⟨(Except.error.inj raised).symm, .inr ⟨rfl, .inl rfl⟩⟩,
                fun ⟨is, _⟩ => is ▸ rfl⟩
          | some earliest =>
              obtain ⟨below, compared⟩ : ∃ below, Py.lt env.floats (.int current) earliest =
                  some below := lt_minus window
              rw [present_bind rfl, present_bind compared]
              cases below with
              | true =>
                  refine ⟨fun no => (nomatch no), ?_⟩
                  rintro ⟨_, no | ⟨_, no | ⟨⟨earliest', same, begun⟩, _⟩⟩⟩
                  · cases no
                  · cases no
                  · cases same
                    cases compared.symm.trans begun
              | false =>
                  rw [if_neg (by decide), present_bind (get?_of_hasFields fields (by decide))]
                  cases last : reached env.floats current (field key "not_after") with
                  | none =>
                      have isBound := reached_eq_none_iff.mp last
                      exact ⟨fun raised => ⟨(Except.error.inj raised).symm,
                        .inr ⟨rfl, .inr ⟨⟨earliest, rfl, compared⟩, isBound⟩⟩⟩,
                        fun ⟨is, _⟩ => is ▸ rfl⟩
                  | some ended =>
                      refine ⟨fun no => (nomatch no), ?_⟩
                      rintro ⟨_, no | ⟨_, no | ⟨_, isBound⟩⟩⟩
                      · cases no
                      · cases no
                      · cases (reached_eq_none_iff.mpr isBound).symm.trans last

/-- The keys of a keyset have their fields. -/
theorem collectKeys_fields {keys result : KeyMap} {items : List Json}
    (collected : collectKeys env keys items = .ok result)
    (before : ∀ key ∈ keys, hasFields keyFields (.obj key.2) = true) :
    ∀ key ∈ result, hasFields keyFields (.obj key.2) = true := by
  induction items generalizing keys with
  | nil =>
      cases collected
      exact before
  | cons item items ih =>
      obtain ⟨fields, collected⟩ := demand_bind collected
      obtain ⟨_, collected⟩ := demand_bind collected
      obtain ⟨_, _, collected⟩ := bind_ok collected
      obtain ⟨fs, rfl⟩ := exists_of_hasFields fields
      refine ih collected fun key mem => ?_
      rcases List.mem_append.mp mem with old | new
      · exact before key old
      · rw [List.mem_singleton.mp new]
        exact fields

theorem verifyKeyset_fields {keyset : Json} {current : Int} {keys : KeyMap}
    (accepted : v.verifyKeyset keyset current = .ok keys) :
    ∀ key ∈ keys, hasFields keyFields (.obj key.2) = true := by
  obtain ⟨_, accepted⟩ := demand_bind accepted
  obtain ⟨_, accepted⟩ := demand_bind accepted
  obtain ⟨_, accepted⟩ := demand_bind accepted
  obtain ⟨_, accepted⟩ := demand_bind accepted
  obtain ⟨_, accepted⟩ := demand_bind accepted
  split at accepted
  · exact collectKeys_fields accepted fun _ mem => absurd mem List.not_mem_nil
  · cases accepted

/-- The times of the parsed copy. -/
theorem parsed_times {value parsed : Json} (accepted : parseAppAssertion env value = .ok parsed) :
    ∃ issued expires, field parsed "issued_at" = .int issued ∧
      field parsed "expires_at" = .int expires ∧ expires - issued ≤ appAssertionMaxTtlSeconds := by
  obtain ⟨decoded, scopes, issued, expires, -, checked, rfl⟩ := parseAppAssertion_ok accepted
  refine ⟨issued, expires, ?_, ?_, checked.brief⟩
  · rw [copy_field (by decide) (by decide), field_of_get? checked.issuedAt]
  · rw [copy_field (by decide) (by decide), field_of_get? checked.expiresAt]

/-- A value that reads as a UUID is hashable. -/
theorem hashable_of_uuid (repr : ReprLike env) {value : Json} {id : String}
    (read : parseUuid env value = .ok id) : ∃ key, Py.key? env.floats value = some key := by
  unfold parseUuid at read
  cases value with
  | arr xs =>
      rw [show Py.str env.floats env.container (.arr xs) = env.container (.arr xs) from rfl,
        uuid_list repr] at read
      cases read
  | obj fs =>
      rw [show Py.str env.floats env.container (.obj fs) = env.container (.obj fs) from rfl,
        uuid_dictionary repr] at read
      cases read
  | float f =>
      simp only [Py.key?]
      split
      · split <;> exact ⟨_, rfl⟩
      · exact ⟨_, rfl⟩
  | _ => exact ⟨_, rfl⟩

/-- The assertion is parsed and current, and the key that it names is an `Uncomparable` one. -/
def KeyUncomparable (subInt : FloatText → Int → Option FloatText) (assertion : Json)
    (keys : KeyMap) (current : Int) : Prop :=
  ∃ parsed issuedAt expiresAt fs, parseAppAssertion env assertion = .ok parsed ∧
    field parsed "issued_at" = .int issuedAt ∧ field parsed "expires_at" = .int expiresAt ∧
    current < expiresAt ∧ issuedAt ≤ current + v.clockSkewSeconds ∧
    keys.lookup (keyId env parsed) = some fs ∧ v.Uncomparable subInt (.obj fs) current

theorem coded_raises {α : Type} {result : Except Rejection α}
    (raises : RaisesOnly Rejection.IsProtocol result) :
    RaisesOnly Refusal.IsCode (result.mapError Rejection.coded) := by
  intro e raised
  cases result with
  | ok a => cases raised
  | error r =>
      cases r with
      | protocol message =>
          cases raised
          trivial
      | escape => exact (raises _ rfl).elim

theorem mem_of_lookup {α : Type} {entries : List (String × α)} {name : String} {a : α}
    (found : entries.lookup name = some a) : (name, a) ∈ entries := by
  obtain ⟨before, after, rfl, -⟩ := List.lookup_eq_some_iff.mp found
  exact List.mem_append_right _ List.mem_cons_self

variable {v}

theorem check_raises_iff {subInt : FloatText → Int → Option FloatText} {assertion : Json}
    {keys : KeyMap} {expected : Expected} {current : Int}
    (fields : ∀ key ∈ keys, hasFields keyFields (.obj key.2) = true) :
    RaisesOnly Refusal.IsCode (v.check subInt assertion keys expected current) ↔
      ¬ (ScopesUnlistable env assertion ∨ v.KeyUncomparable subInt assertion keys current) := by
  constructor
  · rintro raises (unlistable | ⟨parsed, issuedAt, expiresAt, fs, accepted, isIssued, isExpires,
      unexpired, started, named, uncomparable⟩)
    · refine raises .escape (bind_error_iff.mpr (.inl ?_))
      rw [parseAppAssertion_escapes_iff.mpr unlistable]
      rfl
    · obtain ⟨issued, expires, isIssued', isExpires', brief⟩ := parsed_times accepted
      cases isIssued.symm.trans isIssued'
      cases isExpires.symm.trans isExpires'
      have hasAll := fields _ (mem_of_lookup named)
      refine raises .escape ?_
      refine bind_error_iff.mpr (.inr ⟨parsed, mapError_ok_iff.mpr accepted, ?_⟩)
      refine bind_error_iff.mpr (.inr ⟨issuedAt, by rw [isIssued]; rfl, ?_⟩)
      refine bind_error_iff.mpr (.inr ⟨expiresAt, by rw [isExpires]; rfl, ?_⟩)
      refine bind_error_iff.mpr (.inr ⟨(), demand_of_holds (decide_eq_true unexpired), ?_⟩)
      refine bind_error_iff.mpr (.inr ⟨(), demand_of_holds (decide_eq_true started), ?_⟩)
      refine bind_error_iff.mpr (.inr ⟨(), demand_of_holds (decide_eq_true brief), ?_⟩)
      rw [show Py.str env.floats env.container (field parsed "key_id") = keyId env parsed from rfl,
        named]
      exact bind_error_iff.mpr (.inl ((v.keyRefused_error_iff hasAll).mpr ⟨rfl, uncomparable⟩))
  · intro orderly e raised
    by_contra other
    rcases bind_error_iff.mp raised with escapes | ⟨parsed, accepted, raised⟩
    · cases parsed : parseAppAssertion env assertion with
      | ok parsed' =>
          rw [parsed] at escapes
          cases escapes
      | error r =>
          rw [parsed] at escapes
          cases r with
          | protocol message =>
              cases escapes
              exact other trivial
          | escape => exact orderly (.inl (parseAppAssertion_escapes_iff.mp parsed))
    have accepted := mapError_ok_iff.mp accepted
    obtain ⟨issuedAt, isIssued, raised⟩ :=
      passed_of_error (coded_raises (assertionInt_raises _ _)) raised other
    obtain ⟨expiresAt, isExpires, raised⟩ :=
      passed_of_error (coded_raises (assertionInt_raises _ _)) raised other
    obtain ⟨unexpired, raised⟩ := demand_error raised other
    obtain ⟨started, raised⟩ := demand_error raised other
    obtain ⟨_, raised⟩ := demand_error raised other
    cases named : keys.lookup (Py.str env.floats env.container (field parsed "key_id")) with
    | none =>
        rw [named] at raised
        cases raised
        exact other trivial
    | some fs =>
        rw [named] at raised
        have hasAll := fields _ (mem_of_lookup named)
        rcases bind_error_iff.mp raised with uncompared | ⟨refused, _, raised⟩
        · obtain ⟨_, uncomparable⟩ := (v.keyRefused_error_iff hasAll).mp uncompared
          obtain ⟨issued, expires, isIssued', isExpires', -⟩ := parsed_times accepted
          rw [isIssued'] at isIssued
          rw [isExpires'] at isExpires
          cases isIssued
          cases isExpires
          exact orderly (.inr ⟨parsed, issuedAt, expiresAt, fs, accepted, isIssued', isExpires',
            of_decide_eq_true unexpired, of_decide_eq_true started, named, uncomparable⟩)
        · obtain ⟨_, raised⟩ := demand_error raised other
          rw [present_bind (get?_of_hasFields hasAll (by decide))] at raised
          obtain ⟨_, raised⟩ := demand_error raised other
          obtain ⟨_, raised⟩ := demand_error raised other
          obtain ⟨_, raised⟩ := demand_error raised other
          obtain ⟨_, raised⟩ := demand_error raised other
          obtain ⟨_, raised⟩ := demand_error raised other
          obtain ⟨_, raised⟩ := demand_error raised other
          cases raised

theorem rejectReplay_raises {seen : Seen} {assertionId : Json} {expiresAt current : Int}
    (hashable : ∃ key, Py.key? env.floats assertionId = some key) :
    RaisesOnly Refusal.IsCode (v.rejectReplay seen assertionId expiresAt current).1 := by
  obtain ⟨key, is⟩ := hashable
  intro e raised
  unfold rejectReplay at raised
  rw [is] at raised
  dsimp only at raised
  split at raised
  · cases raised
    trivial
  · cases raised

theorem verify_raises_iff (repr : ReprLike env) {subInt : FloatText → Int → Option FloatText}
    {seen : Seen} {assertion : Json} {keys : KeyMap} {expected : Expected} {current later : Int}
    (fields : ∀ key ∈ keys, hasFields keyFields (.obj key.2) = true) :
    RaisesOnly Refusal.IsCode (v.verify subInt seen assertion keys expected current later).1 ↔
      ¬ (ScopesUnlistable env assertion ∨ v.KeyUncomparable subInt assertion keys current) := by
  rw [← @check_raises_iff env v subInt assertion keys expected current fields]
  unfold verify
  cases checked : v.check subInt assertion keys expected current with
  | error e => exact ⟨fun raises e' same => raises e' (by cases same; rfl),
      fun raises e' same => raises e' (by cases same; rfl)⟩
  | ok result =>
      refine ⟨fun _ => raisesOnly_ok, fun _ e raised => ?_⟩
      obtain ⟨parsed, expiresAt⟩ := result
      have hashable : ∃ key, Py.key? env.floats (field parsed "assertion_id") = some key := by
        obtain ⟨presented, scopes, publicKey, -, all, rfl, -, -⟩ := check_ok checked
        obtain ⟨issued, expires, isParsed, -⟩ := all.parsed
        obtain ⟨id, read⟩ := isParsed.assertionId
        rw [copy_field (by decide) (by decide)]
        exact hashable_of_uuid repr read
      have raises : RaisesOnly Refusal.IsCode (v.rejectReplay seen _ expiresAt later).1 :=
        v.rejectReplay_raises hashable
      dsimp only at raised
      split at raised
      · rename_i refusal seen' refused
        cases raised
        exact raises _ (by rw [refused])
      · cases raised

end Verifier

/-- **Which errors are raised.**  The parser raises a `ProtocolError` unless the scopes of an
envelope that is in order are true and cannot be gone over; `verify_keyset` and `pending_root`
raise an `AppAssertionError` unless a signed entry, or the signed next root, has a public key
that cannot be decoded; `verify` unless the parser does not, or the key that the assertion names
has a status or a time bound that cannot be compared. -/
theorem strictErrors_iff (v : Verifier env) (repr : ReprLike env)
    (subInt : FloatText → Int → Option FloatText) :
    (∀ value, RaisesOnly Rejection.IsProtocol (parseAppAssertion env value) ↔
      ¬ ScopesUnlistable env value) ∧
    (∀ keyset current, RaisesOnly Refusal.IsCode (v.verifyKeyset keyset current) ↔
      ¬ v.KeyUndecodable keyset current) ∧
    (∀ keyset current later, RaisesOnly Refusal.IsCode (v.pendingRoot keyset current later) ↔
      ¬ (v.KeyUndecodable keyset current ∨ v.RootUndecodable keyset current)) ∧
    (∀ keyset moment keys, v.verifyKeyset keyset moment = .ok keys →
      ∀ seen assertion expected current later,
        RaisesOnly Refusal.IsCode
          (v.verify subInt seen assertion keys expected current later).1 ↔
        ¬ (ScopesUnlistable env assertion ∨ v.KeyUncomparable subInt assertion keys current)) := by
  refine ⟨fun value => ?_, v.verifyKeyset_raises_iff, v.pendingRoot_raises_iff, ?_⟩
  · rw [← parseAppAssertion_escapes_iff]
    constructor
    · exact fun raises escapes => raises _ escapes
    · intro never e raised
      cases e with
      | protocol message => trivial
      | escape => exact absurd raised never
  · intro keyset moment keys accepted seen assertion expected current later
    exact Verifier.verify_raises_iff repr (v.verifyKeyset_fields accepted)

/-! ## Values that escape -/

namespace Sample

/-- An entry without a public key. -/
def undecodableKeyset : Json :=
  keyset.set "keys" (.arr [.obj (keyItem "sign-vector-a" "" "active" 1816999400 1817003600)])

/-- The signing key with an empty list for its status. -/
def listStatusItem : List (String × Json) :=
  [("key_id", .str "sign-vector-a"), ("not_after", .int 1817003600),
    ("not_before", .int 1816999400), ("public_key", .str signingPublicKey), ("status", .arr [])]

def listStatusKeyset : Json := keyset.set "keys" (.arr [.obj listStatusItem])

/-- What the root has signed. -/
def rootSigned : List Json := [undecodableKeyset, listStatusKeyset]

/-- The signature of the root verifies for these, and no other does. -/
def rootVerifies (key payload signature : String) : Bool :=
  rootSigned.any fun signed => decide (rootPublicKey = key ∧ keysetSignature = signature ∧
    canonicalJsonBytes (signed.without "signature") = payload)

def strictEnv : Env := { deviceEnv with container := repr, ed25519 := rootVerifies }

theorem strictEnv_ed25519 : strictEnv.ed25519 = rootVerifies := rfl

theorem strictEnv_reprLike : ReprLike strictEnv :=
  ⟨reprLike.list, reprLike.empty, reprLike.dictionary⟩

def strictDevice : Verifier strictEnv :=
  .new {
    rootKeyId := "root-vector-2026-09"
    rootPublicKey := rootPublicKey
    rootKeyId_ok := rootKeyId_named
    rootPublicKey_ok := by decide +kernel } "agy2api-10.11.1.1" defaultClockSkewSeconds 4096

theorem strict_signed {signed : Json} (mem : signed ∈ rootSigned)
    (isSignature : field signed "signature" = .str keysetSignature) :
    verifyEd25519 strictEnv (.str strictDevice.anchor.rootPublicKey)
      (canonicalJsonBytes (signed.without "signature"))
      (.str (strictEnv.text (field signed "signature"))) = true := by
  have stripped : Py.strip rootPublicKey = rootPublicKey := by decide +kernel
  have stripped' : Py.strip keysetSignature = keysetSignature := by decide +kernel
  unfold verifyEd25519
  rw [isSignature, text_str, text_str, text_str, stripped',
    show strictDevice.anchor.rootPublicKey = rootPublicKey from rfl, stripped]
  rw [strictEnv_ed25519]
  unfold rootVerifies
  exact List.any_eq_true.mpr ⟨signed, mem, decide_eq_true ⟨rfl, rfl, rfl⟩⟩

theorem undecodable_opened : strictDevice.Opened undecodableKeyset 1817000001
    [.obj (keyItem "sign-vector-a" "" "active" 1816999400 1817003600)] :=
  ⟨rfl, by decide +kernel, by decide +kernel, strict_signed List.mem_cons_self rfl,
    by decide +kernel, rfl⟩

theorem listStatus_accepted :
    strictDevice.verifyKeyset listStatusKeyset 1817000001 =
      .ok [("sign-vector-a", listStatusItem)] := by
  have listed : listStatusKeyset ∈ rootSigned := List.mem_cons_of_mem _ List.mem_cons_self
  have signed := strict_signed listed rfl
  have timely : strictDevice.keysetTimely listStatusKeyset 1817000001 = true := by decide +kernel
  have decodes : ∃ raw, parsePublicKey strictEnv (.str signingPublicKey) = .ok raw := by
    have parses : (parsePublicKey strictEnv (.str signingPublicKey)).toOption.any
        (fun _ => true) = true := by decide +kernel
    obtain ⟨raw, is, _⟩ := exists_ok_of_any parses
    exact ⟨raw, is⟩
  obtain ⟨raw, decodes⟩ := decodes
  unfold Verifier.verifyKeyset
  rw [signed, timely]
  change (do let _ ← (parsePublicKey strictEnv (.str signingPublicKey)).mapError Rejection.passed
             Except.ok [("sign-vector-a", listStatusItem)]) = _
  rw [decodes]
  rfl

/-- The assertion of the vector names the signing key. -/
theorem listStatus_uncomparable : strictDevice.KeyUncomparable noFloats vectorAssertion
    [("sign-vector-a", listStatusItem)] 1817000001 := by
  have parses : (parseAppAssertion strictEnv vectorAssertion).toOption.any
      (fun _ => true) = true := by decide +kernel
  obtain ⟨parsed, accepted, _⟩ := exists_ok_of_any parses
  obtain ⟨decoded, scopes, issued, expires, decodes, _, rfl⟩ := parseAppAssertion_ok accepted
  cases decodes
  refine ⟨_, 1817000000, 1817000090, listStatusItem, accepted, ?_, ?_, by decide,
    by decide, ?_, .inl rfl⟩
  · rw [Verifier.copy_field (by decide) (by decide)]
    rfl
  · rw [Verifier.copy_field (by decide) (by decide)]
    rfl
  · unfold keyId
    rw [Verifier.copy_field (by decide) (by decide)]
    rfl

end Sample

/-- The assertion of the vector has a list of scopes, and the keyset with the list for a status
is taken with its next root; but not by `verify`. -/
theorem strictErrors_iff_vector :
    RaisesOnly Rejection.IsProtocol (parseAppAssertion Sample.strictEnv Sample.vectorAssertion) ∧
    ¬ Sample.strictDevice.KeyUndecodable Sample.listStatusKeyset 1817000001 ∧
    RaisesOnly Refusal.IsCode
      (Sample.strictDevice.pendingRoot Sample.listStatusKeyset 1817000001 1817000001) ∧
    ∃ keys, Sample.strictDevice.verifyKeyset Sample.listStatusKeyset 1817000001 = .ok keys ∧
      ¬ RaisesOnly Refusal.IsCode (Sample.strictDevice.verify Sample.noFloats []
        Sample.vectorAssertion keys Sample.vectorBinding 1817000001 1817000001).1 := by
  obtain ⟨parser, keysets, roots, verifies⟩ :=
    strictErrors_iff Sample.strictDevice Sample.strictEnv_reprLike Sample.noFloats
  have decodable := (keysets Sample.listStatusKeyset 1817000001).mp fun e raised => by
    cases Sample.listStatus_accepted.symm.trans raised
  refine ⟨(parser _).mpr ?_, decodable, (roots _ _ _).mpr ?_, _, Sample.listStatus_accepted,
    (verifies _ _ _ Sample.listStatus_accepted _ _ _ _ _).not.mpr
      (not_not.mpr (.inr Sample.listStatus_uncomparable))⟩
  · rintro ⟨decoded, decodes, -, unlistable⟩
    cases decodes
    cases unlistable
  · rintro (undecodable | ⟨_, fields, _⟩)
    · exact decodable undecodable
    · exact absurd fields (by decide +kernel)

/-- **Other exceptions escape**: `true` for the scopes; a signed entry with an empty public key;
a signed key with a list for its status. -/
theorem strictErrors_escape :
    ¬ RaisesOnly Rejection.IsProtocol (parseAppAssertion Sample.strictEnv
      (Sample.vectorAssertion.set "scopes" (.bool true))) ∧
    ¬ RaisesOnly Refusal.IsCode
      (Sample.strictDevice.verifyKeyset Sample.undecodableKeyset 1817000001) ∧
    ∃ keys, Sample.strictDevice.verifyKeyset Sample.listStatusKeyset 1817000001 = .ok keys ∧
      ¬ RaisesOnly Refusal.IsCode (Sample.strictDevice.verify Sample.noFloats []
        Sample.vectorAssertion keys Sample.vectorBinding 1817000001 1817000001).1 := by
  refine ⟨fun raises => raises _ (parseAppAssertion_escapes_iff.mpr ?_), ?_,
    _, Sample.listStatus_accepted, ?_⟩
  · refine ⟨_, rfl, ?_, rfl⟩
    constructor <;> decide +kernel
  · refine (Sample.strictDevice.verifyKeyset_raises_iff _ _).not.mpr (not_not.mpr ?_)
    refine ⟨_, Sample.undecodable_opened, [], _, [], rfl, nofun, by decide, ?_,
      List.nodup_singleton _, nofun⟩
    rintro ⟨raw, decodes⟩
    have fails : (parsePublicKey Sample.strictEnv (.str "")).toOption = none := by decide +kernel
    rw [show field (.obj (Sample.keyItem "sign-vector-a" "" "active" 1816999400 1817003600))
      "public_key" = .str "" from rfl] at decodes
    rw [decodes] at fails
    cases fails
  · have fields := Sample.strictDevice.verifyKeyset_fields Sample.listStatus_accepted
    exact (Verifier.verify_raises_iff Sample.strictEnv_reprLike fields).not.mpr
      (not_not.mpr (.inr Sample.listStatus_uncomparable))

end RemoteAgent
