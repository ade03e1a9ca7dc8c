import RemoteAgent.Delegation

/-!
# What a handshake signature is over

The two payloads that a device signs are lines joined by newlines, without lengths.  Every
line but the last is free of newlines, so the lines can be read back, and the first line
tells the two apart.

* `payloads_unambiguous`: equal bytes are of equal fields, and of one purpose.
-/

open Wire

namespace RemoteAgent

variable {env : Env}

/-! ## Inputs -/

/-- Only characters of `secrets.token_urlsafe`. -/
def isTokenText (s : String) : Bool :=
  s.toList.all fun c => Py.isAlnumAscii c || c == '_' || c == '-'

/-- The arguments of `enrollment_payload`, the two secrets as the store issues them. -/
structure EnrollmentInput where
  challengeId : Json
  challenge : String
  connectorId : Json
  enrollmentToken : String
  publicKey : Json
  challenge_ok : isTokenText challenge = true
  enrollmentToken_ok : isTokenText enrollmentToken = true

/-- The arguments of `relay_auth_payload`. -/
structure RelayAuthInput where
  challengeId : Json
  challenge : String
  connectorId : Json
  instanceId : Json
  contextEpoch : Json
  challenge_ok : isTokenText challenge = true

/-- The bytes that an enrolling device signs. -/
def EnrollmentInput.payload (env : Env) (i : EnrollmentInput) : Except Exc (List Nat) :=
  (enrollmentPayload env i.challengeId (.str i.challenge) i.connectorId (.str i.enrollmentToken)
    i.publicKey).map Py.encodeUtf8

/-- The bytes that an authenticating device signs. -/
def RelayAuthInput.payload (env : Env) (i : RelayAuthInput) : Except Exc (List Nat) :=
  (relayAuthPayload env i.challengeId (.str i.challenge) i.connectorId i.instanceId
    i.contextEpoch).map Py.encodeUtf8

/-- Two enrollments with the same challenge, connector, token and key, as they are rendered. -/
structure EnrollmentInput.Same (env : Env) (i j : EnrollmentInput) : Prop where
  challengeId : parseUuid env i.challengeId = parseUuid env j.challengeId
  challenge : i.challenge = j.challenge
  connectorId : parseConnectorId env i.connectorId = parseConnectorId env j.connectorId
  enrollmentToken : i.enrollmentToken = j.enrollmentToken
  publicKey : Py.str env.floats env.container i.publicKey =
    Py.str env.floats env.container j.publicKey

/-- Two authentications with the same challenge, connector, instance and epoch, as they are
rendered. -/
structure RelayAuthInput.Same (env : Env) (i j : RelayAuthInput) : Prop where
  challengeId : parseUuid env i.challengeId = parseUuid env j.challengeId
  challenge : i.challenge = j.challenge
  connectorId : parseConnectorId env i.connectorId = parseConnectorId env j.connectorId
  instanceId : parseInstanceId env i.instanceId = parseInstanceId env j.instanceId
  contextEpoch : Py.str env.floats env.container i.contextEpoch =
    Py.str env.floats env.container j.contextEpoch

/-! ## Lines -/

/-- Lines with a newline after each, and what follows. -/
def lines (front : List (List Char)) (last : List Char) : List Char :=
  front.foldr (fun line rest => line ++ '\n' :: rest) last

/-- **Lines that are free of newlines can be read back.** -/
theorem lines_inj {front front' : List (List Char)} {last last' : List Char}
    (clean : ∀ line ∈ front, '\n' ∉ line) (clean' : ∀ line ∈ front', '\n' ∉ line)
    (length : front.length = front'.length) (same : lines front last = lines front' last') :
    front = front' ∧ last = last' := by
  induction front generalizing front' with
  | nil =>
      obtain rfl := List.length_eq_zero_iff.mp length.symm
      exact ⟨rfl, same⟩
  | cons line front ih =>
      cases front' with
      | nil => cases length
      | cons line' front' =>
          obtain ⟨rfl, rest⟩ := Py.cut_first (clean line List.mem_cons_self)
            (clean' line' List.mem_cons_self) same
          obtain ⟨rfl, rfl⟩ := ih (fun l mem => clean l (List.mem_cons_of_mem _ mem))
            (fun l mem => clean' l (List.mem_cons_of_mem _ mem)) (Nat.succ.inj length) rest
          exact ⟨rfl, rfl⟩

theorem toList_intercalate (front : List String) (last : String) :
    (String.intercalate "\n" (front ++ [last])).toList =
      lines (front.map String.toList) last.toList := by
  rw [String.toList_intercalate, List.map_append]
  induction front with
  | nil => exact List.intercalate_singleton
  | cons line front ih =>
      cases front with
      | nil =>
          simp only [List.map_cons, List.map_nil, List.nil_append, List.cons_append,
            List.intercalate_cons_cons, List.intercalate_singleton]
          rw [List.append_assoc]
          rfl
      | cons next front =>
          simp only [List.map_cons, List.cons_append, List.intercalate_cons_cons] at ih ⊢
          rw [ih, List.append_assoc]
          rfl

theorem newline_notMem_token {s : String} (token : isTokenText s = true) : '\n' ∉ s.toList := by
  intro mem
  exact absurd (List.all_eq_true.mp token _ mem) (by decide)

theorem newline_notMem_uuid {j : Json} {id : String} (parsed : parseUuid env j = .ok id) :
    '\n' ∉ id.toList := by
  unfold parseUuid at parsed
  split at parsed
  · rename_i text isUuid
    cases parsed
    unfold Py.uuid at isUuid
    dsimp only at isUuid
    split at isUuid
    · obtain ⟨n, _, rfl⟩ := Option.map_eq_some_iff.mp isUuid
      have digits : '\n' ∉ Py.hex32 n := by
        intro mem
        obtain ⟨i, _, isDigit⟩ := List.mem_map.mp mem
        have below : n / 16 ^ (31 - i) % 16 < 16 := Nat.mod_lt _ (by decide)
        have none_ : ∀ k < 16, Nat.digitChar k ≠ '\n' := by decide
        exact none_ _ below isDigit
      unfold Py.uuidText
      intro mem
      simp only [String.toList_ofList, List.append_assoc, List.mem_append, List.mem_cons,
        List.cons_append] at mem
      rcases mem with part | dash | part | dash | part | dash | part | dash | part
      · exact digits (List.mem_of_mem_take part)
      · exact absurd dash (by decide)
      · exact digits (List.mem_of_mem_drop (List.mem_of_mem_take part))
      · exact absurd dash (by decide)
      · exact digits (List.mem_of_mem_drop (List.mem_of_mem_take part))
      · exact absurd dash (by decide)
      · exact digits (List.mem_of_mem_drop (List.mem_of_mem_take part))
      · exact absurd dash (by decide)
      · exact digits (List.mem_of_mem_drop part)
    · cases isUuid
  · cases parsed

theorem newline_notMem_connectorId {j : Json} {id : String}
    (parsed : parseConnectorId env j = .ok id) : '\n' ∉ id.toList := by
  have matched := parsePattern_ok parsed
  unfold isConnectorId at matched
  split at matched
  · rename_i a b rest chars
    simp only [Bool.and_eq_true] at matched
    obtain ⟨⟨⟨first, second⟩, _⟩, others⟩ := matched
    rw [chars]
    intro mem
    rcases List.mem_cons.mp mem with rfl | mem
    · exact absurd first (by decide)
    · rcases List.mem_cons.mp mem with rfl | mem
      · exact absurd second (by decide)
      · exact absurd (List.all_eq_true.mp others _ mem) (by decide)
  · cases matched

theorem newline_notMem_instanceId {j : Json} {id : String}
    (parsed : parseInstanceId env j = .ok id) : '\n' ∉ id.toList := by
  have matched := parsePattern_ok parsed
  unfold isInstanceId at matched
  split at matched
  · rename_i a rest chars
    simp only [Bool.and_eq_true] at matched
    obtain ⟨⟨first, _⟩, others⟩ := matched
    rw [chars]
    intro mem
    rcases List.mem_cons.mp mem with rfl | mem
    · exact absurd first (by decide)
    · exact absurd (List.all_eq_true.mp others _ mem) (by decide)
  · cases matched

/-! ## The payloads as lines -/

theorem encodeUtf8_inj {s t : String} (same : Py.encodeUtf8 s = Py.encodeUtf8 t) : s = t := by
  have read := congrArg Py.decodeUtf8 same
  rw [Py.decodeUtf8_encodeUtf8, Py.decodeUtf8_encodeUtf8] at read
  exact Option.some.inj read

/-- The lines of an enrollment. -/
theorem EnrollmentInput.payload_ok {i : EnrollmentInput} {bytes : List Nat}
    (signed : i.payload env = .ok bytes) : ∃ challengeId connectorId,
      parseUuid env i.challengeId = .ok challengeId ∧
      parseConnectorId env i.connectorId = .ok connectorId ∧
      bytes = Py.encodeUtf8 (String.intercalate "\n"
        (["remote-agent-enrollment-v1", challengeId, i.challenge, connectorId, i.enrollmentToken] ++
          [Py.str env.floats env.container i.publicKey])) := by
  unfold payload enrollmentPayload at signed
  cases isChallenge : parseUuid env i.challengeId with
  | error e => rw [isChallenge] at signed; cases signed
  | ok challengeId =>
      cases isConnector : parseConnectorId env i.connectorId with
      | error e => rw [isChallenge, isConnector] at signed; cases signed
      | ok connectorId =>
          rw [isChallenge, isConnector] at signed
          exact ⟨challengeId, connectorId, rfl, rfl, (Except.ok.inj signed).symm⟩

/-- The lines of an authentication. -/
theorem RelayAuthInput.payload_ok {i : RelayAuthInput} {bytes : List Nat}
    (signed : i.payload env = .ok bytes) : ∃ challengeId connectorId instanceId,
      parseUuid env i.challengeId = .ok challengeId ∧
      parseConnectorId env i.connectorId = .ok connectorId ∧
      parseInstanceId env i.instanceId = .ok instanceId ∧
      bytes = Py.encodeUtf8 (String.intercalate "\n"
        (["remote-agent-relay-auth-v1", challengeId, i.challenge, connectorId, instanceId] ++
          [Py.str env.floats env.container i.contextEpoch])) := by
  unfold payload relayAuthPayload at signed
  cases isChallenge : parseUuid env i.challengeId with
  | error e => rw [isChallenge] at signed; cases signed
  | ok challengeId =>
      cases isConnector : parseConnectorId env i.connectorId with
      | error e => rw [isChallenge, isConnector] at signed; cases signed
      | ok connectorId =>
          cases isInstance : parseInstanceId env i.instanceId with
          | error e => rw [isChallenge, isConnector, isInstance] at signed; cases signed
          | ok instanceId =>
              rw [isChallenge, isConnector, isInstance] at signed
              exact ⟨challengeId, connectorId, instanceId, rfl, rfl, rfl,
                (Except.ok.inj signed).symm⟩

/-- Four clean lines under a heading, and a last one: read back from the bytes. -/
theorem encoded_inj {heading heading' a a' b b' c c' d d' last last' : String}
    (same : Py.encodeUtf8 (String.intercalate "\n" ([heading, a, b, c, d] ++ [last])) =
      Py.encodeUtf8 (String.intercalate "\n" ([heading', a', b', c', d'] ++ [last'])))
    (clean : ∀ line ∈ [heading, a, b, c, d], '\n' ∉ line.toList)
    (clean' : ∀ line ∈ [heading', a', b', c', d'], '\n' ∉ line.toList) :
    heading = heading' ∧ a = a' ∧ b = b' ∧ c = c' ∧ d = d' ∧ last = last' := by
  have text := congrArg String.toList (encodeUtf8_inj same)
  rw [toList_intercalate, toList_intercalate] at text
  obtain ⟨front, isLast⟩ := lines_inj (List.forall_mem_map.mpr clean)
    (List.forall_mem_map.mpr clean') rfl text
  have parts := List.map_injective_iff.mpr (fun _ _ => String.toList_injective) front
  simp only [List.cons.injEq, and_true] at parts
  obtain ⟨isHeading, isA, isB, isC, isD⟩ := parts
  exact ⟨isHeading, isA, isB, isC, isD, String.toList_injective isLast⟩

/-- **A signature is for one purpose, one challenge and one device.**  Whatever the parsers
accept: equal enrollment payloads are of equal fields, equal authentication payloads are of
equal fields, and no payload is of both kinds. -/
theorem payloads_unambiguous (env : Env) :
    (∀ (i j : EnrollmentInput) (bytes : List Nat), i.payload env = .ok bytes →
      j.payload env = .ok bytes → i.Same env j) ∧
    (∀ (i j : RelayAuthInput) (bytes : List Nat), i.payload env = .ok bytes →
      j.payload env = .ok bytes → i.Same env j) ∧
    ∀ (i : EnrollmentInput) (j : RelayAuthInput) (bytes : List Nat), i.payload env = .ok bytes →
      j.payload env ≠ .ok bytes := by
  have enrollment : ∀ {i : EnrollmentInput} {challengeId connectorId : String},
      parseUuid env i.challengeId = .ok challengeId →
      parseConnectorId env i.connectorId = .ok connectorId →
      ∀ line ∈ ["remote-agent-enrollment-v1", challengeId, i.challenge, connectorId,
        i.enrollmentToken], '\n' ∉ line.toList := by
    intro i challengeId connectorId isChallenge isConnector
    simp only [List.forall_mem_cons]
    exact ⟨by decide, newline_notMem_uuid isChallenge, newline_notMem_token i.challenge_ok,
      newline_notMem_connectorId isConnector, newline_notMem_token i.enrollmentToken_ok,
      fun _ none_ => absurd none_ List.not_mem_nil⟩
  have authentication : ∀ {i : RelayAuthInput} {challengeId connectorId instanceId : String},
      parseUuid env i.challengeId = .ok challengeId →
      parseConnectorId env i.connectorId = .ok connectorId →
      parseInstanceId env i.instanceId = .ok instanceId →
      ∀ line ∈ ["remote-agent-relay-auth-v1", challengeId, i.challenge, connectorId, instanceId],
        '\n' ∉ line.toList := by
    intro i challengeId connectorId instanceId isChallenge isConnector isInstance
    simp only [List.forall_mem_cons]
    exact ⟨by decide, newline_notMem_uuid isChallenge, newline_notMem_token i.challenge_ok,
      newline_notMem_connectorId isConnector, newline_notMem_instanceId isInstance,
      fun _ none_ => absurd none_ List.not_mem_nil⟩
  refine ⟨?_, ?_, ?_⟩
  · intro i j bytes signed signed'
    obtain ⟨a, c, isA, isC, is⟩ := i.payload_ok signed
    obtain ⟨a', c', isA', isC', is'⟩ := j.payload_ok signed'
    obtain ⟨_, rfl, isB, rfl, isD, isLast⟩ :=
      encoded_inj (is.symm.trans is') (enrollment isA isC) (enrollment isA' isC')
    exact ⟨isA.trans isA'.symm, isB, isC.trans isC'.symm, isD, isLast⟩
  · intro i j bytes signed signed'
    obtain ⟨a, c, d, isA, isC, isD, is⟩ := i.payload_ok signed
    obtain ⟨a', c', d', isA', isC', isD', is'⟩ := j.payload_ok signed'
    obtain ⟨_, rfl, isB, rfl, rfl, isLast⟩ :=
      encoded_inj (is.symm.trans is') (authentication isA isC isD) (authentication isA' isC' isD')
    exact ⟨isA.trans isA'.symm, isB, isC.trans isC'.symm, isD.trans isD'.symm, isLast⟩
  · intro i j bytes signed signed'
    obtain ⟨a, c, isA, isC, is⟩ := i.payload_ok signed
    obtain ⟨a', c', d', isA', isC', isD', is'⟩ := j.payload_ok signed'
    obtain ⟨heading, _⟩ :=
      encoded_inj (is.symm.trans is') (enrollment isA isC) (authentication isA' isC' isD')
    exact absurd heading (by decide)

/-- The enrollment of the first device, its connector id in some spelling. -/
def Sample.enrollment (connectorId : String) : EnrollmentInput where
  challengeId := .str Sample.firstChallenge.challengeId
  challenge := Sample.firstChallenge.challenge
  connectorId := .str connectorId
  enrollmentToken := Sample.rawToken
  publicKey := .str Sample.publicKey
  challenge_ok := by decide +kernel
  enrollmentToken_ok := by decide +kernel

theorem payloads_unambiguous_spelling :
    (∃ bytes, (Sample.enrollment "PC-1").payload Sample.env = .ok bytes) ∧
      (Sample.enrollment "PC-1").Same Sample.env (Sample.enrollment "pc-1") := by
  have checked : ((Sample.enrollment "PC-1").payload Sample.env).toOption.any (fun bytes =>
      decide (((Sample.enrollment "pc-1").payload Sample.env).toOption = some bytes)) = true := by
    decide +kernel
  obtain ⟨bytes, signed, same⟩ := exists_ok_of_any checked
  have signed' : (Sample.enrollment "pc-1").payload Sample.env = .ok bytes := by
    have some_ := of_decide_eq_true same
    cases there : (Sample.enrollment "pc-1").payload Sample.env with
    | error e => rw [there] at some_; cases some_
    | ok bytes' => rw [there] at some_; exact congrArg Except.ok (Option.some.inj some_)
  exact ⟨⟨bytes, signed⟩, (payloads_unambiguous Sample.env).1 _ _ bytes signed signed'⟩

end RemoteAgent
