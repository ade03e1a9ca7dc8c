import RemoteAgent.Assertion

/-!
# The issuance of relay certificates

`sign_relay_csr` over abstract X.509 values: what is read, checked and put into the leaf.
Parsing and signing are those of a library, which does both faithfully.

* `signRelayCsr_ok`: what has been checked when a certificate is returned.
* `policy_iff`: when the returned certificate is within the published policy.
-/

namespace RemoteAgent.RelayCertificates

/-! ## X.509 values -/

inductive Algorithm where
  | rsa (keySize : Nat)
  /-- A curve with its key size. -/
  | ec (keySize : Nat)
  | ed25519 | ed448
  | other (name : String)
deriving DecidableEq

/-- A public key; `publicBytes` is the raw key of Ed25519 and Ed448, and the
SubjectPublicKeyInfo of the others. -/
structure PublicKey where
  algorithm : Algorithm
  publicBytes : List Nat
deriving DecidableEq

structure PrivateKey where
  publicKey : PublicKey

inductive IpAddress where
  | v4 (value : Fin (2 ^ 32))
  | v6 (value : Fin (2 ^ 128)) (scope : Option String)
deriving DecidableEq

/-- An entry of a subjectAltName. -/
inductive GeneralName where
  | ipAddress (address : IpAddress)
  | dnsName (name : String)
  | rfc822Name (name : String)
  | uniformResourceIdentifier (uri : String)
  | other (kind value : String)
deriving DecidableEq

inductive Usage where
  | serverAuth | clientAuth
  | other (oid : String)
deriving DecidableEq

structure BasicConstraints where
  ca : Bool
  pathLength : Option Nat
deriving DecidableEq

structure KeyUsage where
  digitalSignature : Bool
  contentCommitment : Bool
  keyEncipherment : Bool
  dataEncipherment : Bool
  keyAgreement : Bool
  keyCertSign : Bool
  crlSign : Bool
deriving DecidableEq

/-- The extensions that are looked at; `none` is `ExtensionNotFound`. -/
structure Extensions where
  subjectAlternativeName : Option (List GeneralName)
  basicConstraints : Option BasicConstraints
  keyUsage : Option KeyUsage
  extendedKeyUsage : Option (List Usage)
deriving DecidableEq

/-- A certificate request; `extensions` is `none` where reading them raises another
exception. -/
structure Csr where
  subject : String
  publicKey : PublicKey
  isSignatureValid : Bool
  extensions : Option Extensions

/-- A certificate, its times in seconds. -/
structure Certificate where
  subject : String
  issuer : String
  publicKey : PublicKey
  serialNumber : Nat
  notValidBefore : Int
  notValidAfter : Int
  extensions : Extensions
deriving DecidableEq

/-- The arguments of a `CertificateBuilder`, the times in microseconds. -/
structure Builder where
  subject : String
  issuer : String
  publicKey : PublicKey
  serialNumber : Nat
  notValidBefore : Int
  notValidAfter : Int
  extensions : Extensions

/-- The certificate that a builder describes; the encoding of a time drops what is less than
a second. -/
def Builder.certificate (b : Builder) : Certificate where
  subject := b.subject
  issuer := b.issuer
  publicKey := b.publicKey
  serialNumber := b.serialNumber
  notValidBefore := b.notValidBefore / 1000000
  notValidAfter := b.notValidAfter / 1000000
  extensions := b.extensions

/-- The files and the two libraries.  `none` is an exception that is caught. -/
structure Library where
  loadCsr : String → Option Csr
  loadCertificate : String → Option Certificate
  loadPrivateKey : String → Option PrivateKey
  ipAddress : String → Option IpAddress
  sign : Builder → PrivateKey → Option Certificate
  sign_faithful : ∀ b key certificate, sign b key = some certificate → certificate = b.certificate

/-! ## `certificate_authority.py` -/

inductive Failure where
  | relayCertificateError (code message : String)
  | other
deriving DecidableEq

/-- Go on if the condition holds, or raise a `RelayCertificateError`. -/
def demand (holds : Bool) (code message : String) : Except Failure Unit :=
  if holds then .ok () else .error (.relayCertificateError code message)

/-- A value, or a `RelayCertificateError`. -/
def found {α : Type} (value : Option α) (code message : String) : Except Failure α :=
  match value with
  | some a => .ok a
  | none => .error (.relayCertificateError code message)

def maxCsrBytes : Nat := 32 * 1024

def minLeafValidityDays : Int := 1

def maxLeafValidityDays : Int := 397

/-- `str.count`, after `skip` characters. -/
def countFrom (text : List Char) : Nat → List Char → Nat
  | _, [] => 0
  | skip + 1, _ :: cs => countFrom text skip cs
  | 0, c :: cs =>
      if text.isPrefixOf (c :: cs) then countFrom text (text.length - 1) cs + 1
      else countFrom text 0 cs

def invalidCsr : String := "Relay certificate request is invalid."

def invalidSigner : String := "Relay CA signer material is invalid."

/-- `_load_certificate`. -/
def loadCertificate (lib : Library) (path : Option String) : Except Failure Certificate := do
  let path ← found (path.filter fun path => decide (path ≠ "")) "relay_ca_signer_unconfigured"
    "Relay CA certificate is not configured."
  found (lib.loadCertificate path) "relay_ca_signer_unavailable"
    "Relay CA certificate is not available."

/-- `_load_private_key`. -/
def loadPrivateKey (lib : Library) (path : Option String) : Except Failure PrivateKey := do
  let path ← found (path.filter fun path => decide (path ≠ "")) "relay_ca_signer_unconfigured"
    "Relay CA private key is not configured."
  found (lib.loadPrivateKey path) "relay_ca_signer_unavailable"
    "Relay CA private key is not available."

/-- `load_signing_material`. -/
def loadSigningMaterial (lib : Library) (certificatePath privateKeyPath : Option String)
    (now : Int) : Except Failure (Certificate × PrivateKey) := do
  let certificate ← loadCertificate lib certificatePath
  let privateKey ← loadPrivateKey lib privateKeyPath
  let constraints ← found certificate.extensions.basicConstraints "relay_ca_signer_invalid"
    invalidSigner
  let keyUsage ← found certificate.extensions.keyUsage "relay_ca_signer_invalid" invalidSigner
  demand (constraints.ca && keyUsage.keyCertSign &&
      decide (certificate.notValidBefore * 1000000 ≤ now) &&
      decide (now < certificate.notValidAfter * 1000000) &&
      decide (certificate.publicKey.publicBytes = privateKey.publicKey.publicBytes))
    "relay_ca_signer_invalid" invalidSigner
  return (certificate, privateKey)

/-- `get_values_for_type(x509.IPAddress)`. -/
def ipAddresses (names : List GeneralName) : List IpAddress :=
  names.filterMap fun
    | .ipAddress address => some address
    | _ => none

/-- The two tests of the strength of a key. -/
def isStrong : Algorithm → Bool
  | .rsa keySize => decide (2048 ≤ keySize)
  | .ec keySize => decide (256 ≤ keySize)
  | _ => true

/-- What the leaf is for. -/
def leafKeyUsage : KeyUsage where
  digitalSignature := true
  contentCommitment := false
  keyEncipherment := true
  dataEncipherment := false
  keyAgreement := false
  keyCertSign := false
  crlSign := false

def leafExtensions (requestedIp : IpAddress) : Extensions where
  subjectAlternativeName := some [.ipAddress requestedIp]
  basicConstraints := some ⟨false, none⟩
  keyUsage := some leafKeyUsage
  extendedKeyUsage := some [.serverAuth]

def minutes (n : Int) : Int := n * 60 * 1000000

def days (n : Int) : Int := n * 86400 * 1000000

/-- The builder takes no time before 1 January 1950, and there is none after the year 9999. -/
def isBuildable (notValidBefore notValidAfter : Int) : Bool :=
  decide (-631152000 * 1000000 ≤ notValidBefore) &&
    decide (notValidAfter < 253402300800 * 1000000)

/-- `csr.extensions`. -/
def readExtensions (csr : Csr) : Except Failure Extensions :=
  match csr.extensions with
  | some extensions => .ok extensions
  | none => .error .other

/-- What is returned, less what is computed from the two certificates. -/
structure Issued where
  relayIp : String
  validityDays : Int
  authority : Certificate
  certificate : Certificate

/-- `sign_relay_csr`, with the serial number that is drawn. -/
def signRelayCsr (lib : Library) (csrPem : String) (certificatePath privateKeyPath : Option String)
    (relayIp : String) (validityDays now : Int) (serialNumber : Nat) : Except Failure Issued := do
  demand (decide (minLeafValidityDays ≤ validityDays) && decide (validityDays ≤ maxLeafValidityDays))
    "relay_certificate_validity_invalid"
    "Relay certificate validity is outside the accepted range."
  let encoded := Py.strip csrPem
  demand (decide (encoded ≠ "") && decide ((Py.encodeUtf8 encoded).length ≤ maxCsrBytes) &&
      decide (countFrom "-----BEGIN CERTIFICATE REQUEST-----".toList 0 encoded.toList = 1) &&
      decide (countFrom "PRIVATE KEY".toList 0 encoded.toList = 0))
    "relay_csr_invalid" invalidCsr
  demand (encoded.toList.all fun c => decide (c.toNat < 128)) "relay_csr_invalid" invalidCsr
  let csr ← found (lib.loadCsr encoded) "relay_csr_invalid" invalidCsr
  demand csr.isSignatureValid "relay_csr_invalid" "Relay certificate request signature is invalid."
  let requestedIp ← found (lib.ipAddress relayIp) "relay_certificate_target_invalid"
    "Relay address is invalid."
  let extensions ← readExtensions csr
  let names ← found extensions.subjectAlternativeName "relay_csr_invalid"
    "Relay certificate request extensions are incomplete."
  let constraints ← found extensions.basicConstraints "relay_csr_invalid"
    "Relay certificate request extensions are incomplete."
  let eku ← found extensions.extendedKeyUsage "relay_csr_invalid"
    "Relay certificate request extensions are incomplete."
  demand (decide (ipAddresses names = [requestedIp]) && !constraints.ca &&
      decide (Usage.serverAuth ∈ eku) && !decide (Usage.clientAuth ∈ eku))
    "relay_csr_invalid" "Relay certificate request identity or usage is invalid."
  demand (isStrong csr.publicKey.algorithm) "relay_csr_invalid"
    "Relay certificate request key is too weak."
  let (authority, signingKey) ← loadSigningMaterial lib certificatePath privateKeyPath now
  let builder : Builder := {
    subject := csr.subject
    issuer := authority.subject
    publicKey := csr.publicKey
    serialNumber := serialNumber
    notValidBefore := now - minutes 5
    notValidAfter := now + days validityDays
    extensions := leafExtensions requestedIp }
  if isBuildable builder.notValidBefore builder.notValidAfter then
    let certificate ← found (lib.sign builder signingKey) "relay_certificate_signing_failed"
      "Relay certificate could not be signed."
    return ⟨relayIp, validityDays, authority, certificate⟩
  else .error .other

/-! ## What has been checked -/

theorem demand_bind {α : Type} {holds : Bool} {code message : String}
    {next : Unit → Except Failure α} {a : α} (passed : (demand holds code message >>= next) = .ok a) :
    holds = true ∧ next () = .ok a := by
  cases holds with
  | true => exact ⟨rfl, passed⟩
  | false => cases passed

theorem found_ok {α : Type} {value : Option α} {code message : String} {a : α}
    (passed : found value code message = .ok a) : value = some a := by
  cases value with
  | some a' => exact congrArg some (Except.ok.inj passed)
  | none => cases passed

/-- A signer whose certificate and key have been accepted. -/
structure SigningMaterial (authority : Certificate) (signingKey : PrivateKey) (now : Int) :
    Prop where
  ca : ∃ constraints, authority.extensions.basicConstraints = some constraints ∧
    constraints.ca = true
  keyCertSign : ∃ usage, authority.extensions.keyUsage = some usage ∧ usage.keyCertSign = true
  valid : authority.notValidBefore * 1000000 ≤ now ∧ now < authority.notValidAfter * 1000000
  pairs : authority.publicKey.publicBytes = signingKey.publicKey.publicBytes

theorem loadSigningMaterial_ok {lib : Library} {certificatePath privateKeyPath : Option String}
    {now : Int} {authority : Certificate} {signingKey : PrivateKey}
    (loaded : loadSigningMaterial lib certificatePath privateKeyPath now =
      .ok (authority, signingKey)) :
    (∃ path, certificatePath = some path ∧ lib.loadCertificate path = some authority) ∧
      (∃ path, privateKeyPath = some path ∧ lib.loadPrivateKey path = some signingKey) ∧
      SigningMaterial authority signingKey now := by
  unfold loadSigningMaterial loadCertificate loadPrivateKey at loaded
  obtain ⟨certificate, isCertificate, loaded⟩ := bind_ok loaded
  obtain ⟨path, isPath, isCertificate⟩ := bind_ok isCertificate
  obtain ⟨privateKey, isKey, loaded⟩ := bind_ok loaded
  obtain ⟨path', isPath', isKey⟩ := bind_ok isKey
  obtain ⟨constraints, isConstraints, loaded⟩ := bind_ok loaded
  obtain ⟨keyUsage, isUsage, loaded⟩ := bind_ok loaded
  obtain ⟨accepted, loaded⟩ := demand_bind loaded
  obtain ⟨rfl, rfl⟩ := Prod.mk.inj (Except.ok.inj loaded)
  simp only [Bool.and_eq_true, decide_eq_true_eq] at accepted
  obtain ⟨⟨⟨⟨ca, keyCertSign⟩, begun⟩, notOver⟩, pairs⟩ := accepted
  obtain ⟨path_eq, _⟩ := Option.filter_eq_some_iff.mp (found_ok isPath)
  obtain ⟨path_eq', _⟩ := Option.filter_eq_some_iff.mp (found_ok isPath')
  exact ⟨⟨path, path_eq, found_ok isCertificate⟩, ⟨path', path_eq', found_ok isKey⟩,
    ⟨⟨constraints, found_ok isConstraints, ca⟩, ⟨keyUsage, found_ok isUsage, keyCertSign⟩,
      ⟨begun, notOver⟩, pairs⟩⟩

/-- A request that has been accepted. -/
structure Accepted (csr : Csr) (extensions : Extensions) (names : List GeneralName)
    (requestedIp : IpAddress) : Prop where
  signature : csr.isSignatureValid = true
  readable : csr.extensions = some extensions
  listed : extensions.subjectAlternativeName = some names
  addresses : ipAddresses names = [requestedIp]
  constraints : ∃ constraints, extensions.basicConstraints = some constraints ∧
    constraints.ca = false
  usage : ∃ eku, extensions.extendedKeyUsage = some eku ∧ .serverAuth ∈ eku ∧ .clientAuth ∉ eku
  strong : isStrong csr.publicKey.algorithm = true

/-- The leaf for a request. -/
def leafBuilder (csr : Csr) (authority : Certificate) (requestedIp : IpAddress)
    (validityDays now : Int) (serialNumber : Nat) : Builder where
  subject := csr.subject
  issuer := authority.subject
  publicKey := csr.publicKey
  serialNumber := serialNumber
  notValidBefore := now - minutes 5
  notValidAfter := now + days validityDays
  extensions := leafExtensions requestedIp

variable {lib : Library} {csrPem relayIp : String} {certificatePath privateKeyPath : Option String}
  {validityDays now : Int} {serialNumber : Nat} {response : Issued}

/-- **What has been checked, and what has been issued.** -/
theorem signRelayCsr_ok
    (issued : signRelayCsr lib csrPem certificatePath privateKeyPath relayIp validityDays now
      serialNumber = .ok response) :
    ∃ csr extensions names requestedIp certPath keyPath signingKey,
      lib.loadCsr (Py.strip csrPem) = some csr ∧ lib.ipAddress relayIp = some requestedIp ∧
      certificatePath = some certPath ∧ lib.loadCertificate certPath = some response.authority ∧
      privateKeyPath = some keyPath ∧ lib.loadPrivateKey keyPath = some signingKey ∧
      Accepted csr extensions names requestedIp ∧
      SigningMaterial response.authority signingKey now ∧
      minLeafValidityDays ≤ validityDays ∧ validityDays ≤ maxLeafValidityDays ∧
      response.certificate = (leafBuilder csr response.authority requestedIp validityDays now
        serialNumber).certificate := by
  unfold signRelayCsr at issued
  obtain ⟨range, issued⟩ := demand_bind issued
  obtain ⟨_, issued⟩ := demand_bind issued
  obtain ⟨_, issued⟩ := demand_bind issued
  obtain ⟨csr, isCsr, issued⟩ := bind_ok issued
  obtain ⟨signature, issued⟩ := demand_bind issued
  obtain ⟨requestedIp, isIp, issued⟩ := bind_ok issued
  obtain ⟨extensions, isExtensions, issued⟩ := bind_ok issued
  obtain ⟨names, isNames, issued⟩ := bind_ok issued
  obtain ⟨constraints, isConstraints, issued⟩ := bind_ok issued
  obtain ⟨eku, isEku, issued⟩ := bind_ok issued
  obtain ⟨identity, issued⟩ := demand_bind issued
  obtain ⟨strong, issued⟩ := demand_bind issued
  obtain ⟨⟨authority, signingKey⟩, isMaterial, issued⟩ := bind_ok issued
  obtain ⟨⟨certPath, isCertPath, isAuthority⟩, ⟨keyPath, isKeyPath, isKey⟩, material⟩ :=
    loadSigningMaterial_ok isMaterial
  have read : csr.extensions = some extensions := by
    unfold readExtensions at isExtensions
    cases present : csr.extensions with
    | none =>
        rw [present] at isExtensions
        cases isExtensions
    | some extensions' =>
        rw [present] at isExtensions
        rw [Except.ok.inj isExtensions]
  simp only [Bool.and_eq_true, decide_eq_true_eq, Bool.not_eq_true', decide_eq_false_iff_not]
    at identity range
  obtain ⟨⟨⟨addresses, ca⟩, serverAuth⟩, clientAuth⟩ := identity
  dsimp only at issued
  split at issued
  · obtain ⟨certificate, signed, issued⟩ := bind_ok issued
    obtain rfl := Except.ok.inj issued
    exact ⟨csr, extensions, names, requestedIp, certPath, keyPath, signingKey, found_ok isCsr,
      found_ok isIp, isCertPath, isAuthority, isKeyPath, isKey,
      ⟨signature, read, found_ok isNames, addresses, ⟨constraints, found_ok isConstraints, ca⟩,
        ⟨eku, found_ok isEku, serverAuth, clientAuth⟩, strong⟩,
      material, range.1, range.2, lib.sign_faithful _ _ _ (found_ok signed)⟩
  · cases issued

/-! ## The policy -/

/-- A key that the policy admits. -/
def isAdmitted : Algorithm → Bool
  | .rsa keySize => decide (2048 ≤ keySize)
  | .ec keySize => decide (256 ≤ keySize)
  | _ => false

/-- **The published policy**, of a request, a signer and the leaf that is returned. -/
structure Policy (csr : Csr) (authority : Certificate) (signingKey : PrivateKey)
    (requestedIp : IpAddress) (now : Int) (leaf : Certificate) : Prop where
  selfSigned : csr.isSignatureValid = true
  request : ∃ extensions constraints eku, csr.extensions = some extensions ∧
    extensions.subjectAlternativeName = some [.ipAddress requestedIp] ∧
    extensions.basicConstraints = some constraints ∧ constraints.ca = false ∧
    extensions.extendedKeyUsage = some eku ∧ .serverAuth ∈ eku ∧ .clientAuth ∉ eku
  admitted : isAdmitted csr.publicKey.algorithm = true
  signer : SigningMaterial authority signingKey now
  key : leaf.publicKey = csr.publicKey
  leafCa : ∃ constraints, leaf.extensions.basicConstraints = some constraints ∧
    constraints.ca = false
  leafUsage : leaf.extensions.extendedKeyUsage = some [.serverAuth]
  leafNames : leaf.extensions.subjectAlternativeName = some [.ipAddress requestedIp]
  period : leaf.notValidAfter - leaf.notValidBefore ≤ 397 * 86400
  within : leaf.notValidAfter ≤ authority.notValidAfter

/-- What the code leaves to its caller. -/
structure Kept (csr : Csr) (authority : Certificate) (validityDays now : Int) : Prop where
  /-- No name of another kind is asked for. -/
  names : ∀ extensions ∈ csr.extensions, ∀ names ∈ extensions.subjectAlternativeName,
    ∀ name ∈ names, ∃ address, name = .ipAddress address
  /-- The key is RSA or EC. -/
  kind : (∃ keySize, csr.publicKey.algorithm = .rsa keySize) ∨
    ∃ keySize, csr.publicKey.algorithm = .ec keySize
  /-- The five minutes before now are within the 397 days. -/
  period : validityDays < 397
  /-- The authority is valid for that long. -/
  within : (now + days validityDays) / 1000000 ≤ authority.notValidAfter

/-- The only name is the only address. -/
theorem names_iff {names : List GeneralName} {requestedIp : IpAddress}
    (addresses : ipAddresses names = [requestedIp]) :
    names = [.ipAddress requestedIp] ↔ ∀ name ∈ names, ∃ address, name = .ipAddress address := by
  constructor
  · rintro rfl name mem
    exact ⟨requestedIp, List.mem_singleton.mp mem⟩
  · intro only
    have whole : names = (ipAddresses names).map .ipAddress := by
      clear addresses
      induction names with
      | nil => rfl
      | cons name names ih =>
          obtain ⟨address, rfl⟩ := only name List.mem_cons_self
          have rest := ih fun name mem => only name (List.mem_cons_of_mem _ mem)
          exact congrArg (GeneralName.ipAddress address :: ·) rest
    rw [whole, addresses]
    rfl

theorem isAdmitted_iff {algorithm : Algorithm} (strong : isStrong algorithm = true) :
    isAdmitted algorithm = true ↔
      (∃ keySize, algorithm = .rsa keySize) ∨ ∃ keySize, algorithm = .ec keySize := by
  cases algorithm with
  | rsa keySize => exact ⟨fun _ => Or.inl ⟨keySize, rfl⟩, fun _ => strong⟩
  | ec keySize => exact ⟨fun _ => Or.inr ⟨keySize, rfl⟩, fun _ => strong⟩
  | ed25519 | ed448 | other name => simp [isAdmitted]

/-- The leaf is valid for the days that were asked for and for five minutes more. -/
theorem leaf_period (csr : Csr) (authority : Certificate) (requestedIp : IpAddress)
    (validityDays now : Int) (serialNumber : Nat) :
    let leaf := (leafBuilder csr authority requestedIp validityDays now serialNumber).certificate
    leaf.notValidAfter - leaf.notValidBefore = validityDays * 86400 + 300 := by
  simp only [leafBuilder, Builder.certificate, minutes, days]
  omega

/-- **When a returned certificate is within the policy.**  Everything is, but for the names
of other kinds, the keys of other kinds, a period of the whole 397 days, and an authority that
expires earlier. -/
theorem policy_iff
    (issued : signRelayCsr lib csrPem certificatePath privateKeyPath relayIp validityDays now
      serialNumber = .ok response) :
    ∃ csr requestedIp certPath keyPath signingKey,
      lib.loadCsr (Py.strip csrPem) = some csr ∧ lib.ipAddress relayIp = some requestedIp ∧
      certificatePath = some certPath ∧ lib.loadCertificate certPath = some response.authority ∧
      privateKeyPath = some keyPath ∧ lib.loadPrivateKey keyPath = some signingKey ∧
      (Policy csr response.authority signingKey requestedIp now response.certificate ↔
        Kept csr response.authority validityDays now) := by
  obtain ⟨csr, extensions, names, requestedIp, certPath, keyPath, signingKey, isCsr, isIp,
    isCertPath, isAuthority, isKeyPath, isKey, accepted, material, least, most, leaf⟩ :=
    signRelayCsr_ok issued
  refine ⟨csr, requestedIp, certPath, keyPath, signingKey, isCsr, isIp, isCertPath, isAuthority,
    isKeyPath, isKey, ?_⟩
  have period := leaf_period csr response.authority requestedIp validityDays now serialNumber
  dsimp only at period
  rw [← leaf] at period
  have notAfter : response.certificate.notValidAfter = (now + days validityDays) / 1000000 := by
    rw [leaf]
    rfl
  constructor
  · intro policy
    refine ⟨?_, (isAdmitted_iff accepted.strong).mp policy.admitted, ?_, ?_⟩
    · obtain ⟨extensions', _, _, isExtensions, isNames, _⟩ := policy.request
      obtain rfl := Option.some.inj (accepted.readable.symm.trans isExtensions)
      have only := (names_iff accepted.addresses).mp
        (Option.some.inj (accepted.listed.symm.trans isNames))
      intro extensions' mem names' mem'
      obtain rfl := Option.some.inj (accepted.readable.symm.trans (Option.mem_def.mp mem))
      obtain rfl := Option.some.inj (accepted.listed.symm.trans (Option.mem_def.mp mem'))
      exact only
    · have := policy.period
      omega
    · rw [← notAfter]
      exact policy.within
  · intro kept
    obtain ⟨constraints, isConstraints, ca⟩ := accepted.constraints
    obtain ⟨eku, isEku, serverAuth, clientAuth⟩ := accepted.usage
    have only : names = [.ipAddress requestedIp] := (names_iff accepted.addresses).mpr
      (kept.names extensions accepted.readable names accepted.listed)
    refine ⟨accepted.signature, ⟨extensions, constraints, eku, accepted.readable,
      only ▸ accepted.listed, isConstraints, ca, isEku, serverAuth, clientAuth⟩,
      (isAdmitted_iff accepted.strong).mpr kept.kind, material, ?_, ?_, ?_, ?_, ?_, ?_⟩
    · rw [leaf]
      rfl
    · rw [leaf]
      exact ⟨_, rfl, rfl⟩
    · rw [leaf]
      rfl
    · rw [leaf]
      rfl
    · have := kept.period
      omega
    · rw [notAfter]
      exact kept.within

namespace Sample

/-- 10.21.4.101. -/
def address : IpAddress := .v4 (Fin.ofNat _ 169149541)

def caKey : PublicKey := ⟨.rsa 4096, [1]⟩

/-- An authority that is valid for the 400 days after 1 January 2026. -/
def authority : Certificate where
  subject := "CN=Relay CA"
  issuer := "CN=Relay CA"
  publicKey := caKey
  serialNumber := 1
  notValidBefore := 1767225600
  notValidAfter := 1801785600
  extensions := {
    subjectAlternativeName := none
    basicConstraints := some ⟨true, some 0⟩
    keyUsage := some { leafKeyUsage with keyCertSign := true }
    extendedKeyUsage := none }

/-- A request with the names and the key given. -/
def csr (algorithm : Algorithm) (others : List GeneralName) : Csr where
  subject := "CN=relay"
  publicKey := ⟨algorithm, [2]⟩
  isSignatureValid := true
  extensions := some {
    subjectAlternativeName := some (.ipAddress address :: others)
    basicConstraints := some ⟨false, none⟩
    keyUsage := none
    extendedKeyUsage := some [.serverAuth] }

/-- A library that reads one request, one authority and its key. -/
def library (csr : Csr) : Library where
  loadCsr := fun _ => some csr
  loadCertificate := fun _ => some authority
  loadPrivateKey := fun _ => some ⟨caKey⟩
  ipAddress := fun _ => some address
  sign := fun b _ => some b.certificate
  sign_faithful := fun _ _ _ signed => (Option.some.inj signed).symm

def pem : String :=
  "-----BEGIN CERTIFICATE REQUEST-----\nMIIB\n-----END CERTIFICATE REQUEST-----"

/-- The signer's answer, so many days after 1 January 2026. -/
def answer (algorithm : Algorithm) (others : List GeneralName) (validityDays day : Int) :
    Except Failure Issued :=
  signRelayCsr (library (csr algorithm others)) pem (some "ca.pem") (some "ca.key") "10.21.4.101"
    validityDays (1767225600000000 + days day) 7

end Sample

/-- A certificate for 90 days, within the policy. -/
theorem policy_iff_ninety : ∃ response, Sample.answer (.rsa 2048) [] 90 1 = .ok response ∧
    ∃ csr requestedIp certPath keyPath signingKey,
      (Sample.library (Sample.csr (.rsa 2048) [])).loadCsr (Py.strip Sample.pem) = some csr ∧
      (Sample.library (Sample.csr (.rsa 2048) [])).ipAddress "10.21.4.101" = some requestedIp ∧
      some "ca.pem" = some certPath ∧
      (Sample.library (Sample.csr (.rsa 2048) [])).loadCertificate certPath =
        some response.authority ∧
      some "ca.key" = some keyPath ∧
      (Sample.library (Sample.csr (.rsa 2048) [])).loadPrivateKey keyPath = some signingKey ∧
      (Policy csr response.authority signingKey requestedIp (1767225600000000 + days 1)
          response.certificate ↔
        Kept csr response.authority 90 (1767225600000000 + days 1)) := by
  have accepted : (Sample.answer (.rsa 2048) [] 90 1).toOption.any (fun _ => true) = true := by
    decide +kernel
  obtain ⟨response, isOk, _⟩ := exists_ok_of_any accepted
  exact ⟨response, isOk, policy_iff isOk⟩

/-- **Four certificates outside the policy**: with a second name, for an Ed25519 key, for 397
days, and for longer than the authority is valid. -/
theorem certificates_outside_policy :
    (∃ response, Sample.answer (.rsa 2048) [.dnsName "hub.example"] 90 1 = .ok response ∧
      (Sample.csr (.rsa 2048) [.dnsName "hub.example"]).extensions.bind (·.subjectAlternativeName) ≠
        some [.ipAddress Sample.address]) ∧
    (∃ response, Sample.answer .ed25519 [] 90 1 = .ok response ∧
      response.certificate.publicKey.algorithm = .ed25519) ∧
    (∃ response, Sample.answer (.rsa 2048) [] 397 1 = .ok response ∧
      ¬ response.certificate.notValidAfter - response.certificate.notValidBefore ≤ 397 * 86400) ∧
    (∃ response, Sample.answer (.rsa 2048) [] 90 399 = .ok response ∧
      ¬ response.certificate.notValidAfter ≤ response.authority.notValidAfter) ∧
    ∃ response, Sample.answer .ed25519 [.dnsName "hub.example"] 397 399 = .ok response ∧
      ∀ signingKey, ¬ Policy (Sample.csr .ed25519 [.dnsName "hub.example"]) response.authority
        signingKey Sample.address (1767225600000000 + days 399) response.certificate := by
  have names : (Sample.answer (.rsa 2048) [.dnsName "hub.example"] 90 1).toOption.any
      (fun _ => true) = true := by decide +kernel
  have kind : (Sample.answer .ed25519 [] 90 1).toOption.any
      (fun r => decide (r.certificate.publicKey.algorithm = .ed25519)) = true := by decide +kernel
  have period : (Sample.answer (.rsa 2048) [] 397 1).toOption.any
      (fun r => decide (¬ r.certificate.notValidAfter - r.certificate.notValidBefore ≤ 397 * 86400)) =
        true := by decide +kernel
  have within : (Sample.answer (.rsa 2048) [] 90 399).toOption.any
      (fun r => decide (¬ r.certificate.notValidAfter ≤ r.authority.notValidAfter)) = true := by
    decide +kernel
  have all : (Sample.answer .ed25519 [.dnsName "hub.example"] 397 399).toOption.any
      (fun _ => true) = true := by decide +kernel
  obtain ⟨_, namesOk, _⟩ := exists_ok_of_any names
  obtain ⟨_, kindOk, isKind⟩ := exists_ok_of_any kind
  obtain ⟨_, periodOk, isPeriod⟩ := exists_ok_of_any period
  obtain ⟨_, withinOk, isWithin⟩ := exists_ok_of_any within
  obtain ⟨_, allOk, _⟩ := exists_ok_of_any all
  refine ⟨⟨_, namesOk, by decide⟩, ⟨_, kindOk, of_decide_eq_true isKind⟩,
    ⟨_, periodOk, of_decide_eq_true isPeriod⟩, ⟨_, withinOk, of_decide_eq_true isWithin⟩,
    _, allOk, fun signingKey policy => ?_⟩
  cases policy.admitted

end RemoteAgent.RelayCertificates
