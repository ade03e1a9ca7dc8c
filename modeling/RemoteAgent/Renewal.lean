import RemoteAgent.Assertion
import RemoteAgent.Lib.Script

/-!
# The renewal of the relay certificate

`scripts/renew_relay_certificate.py` over the files of the TLS directory.  Every file
operation and every command may fail, with any exception.

* `install_ok`, `install_error`: what the swap has done when it returns and when it fails.
* `renewal_allOrNothing_iff`: when a renewal is all-or-nothing.
-/

namespace RemoteAgent.Renewal

/-! ## Files -/

/-- The exceptions that the script tells apart. -/
inductive Exn where
  | renewalError
  | osError
  | other (name : String)
deriving DecidableEq

inductive FileName where
  | relayKey | relayCrt
deriving DecidableEq

/-- A `relay.key` and a `relay.crt` in one directory, each there or not. -/
structure Pair (File : Type) where
  key : Option File
  crt : Option File
deriving DecidableEq

/-- The TLS directory: the live pair, the pair in the backup directory of this second, and
the staged `.new` files. -/
structure Dir (File : Type) where
  live : Pair File
  backup : Pair File
  staging : Pair File

variable {File : Type}

namespace Pair

def get (pair : Pair File) : FileName → Option File
  | .relayKey => pair.key
  | .relayCrt => pair.crt

def set (pair : Pair File) (name : FileName) (file : Option File) : Pair File :=
  match name with
  | .relayKey => { pair with key := file }
  | .relayCrt => { pair with crt := file }

end Pair

/-! ## What may fail -/

/-- The file operations of `install` and of `restore`. -/
inductive FileStep where
  | look (name : FileName)
  | mkdirBackup
  | backupIsFile (name : FileName)
  | backupCopy (name : FileName)
  | stage (name : FileName)
  | chmod (name : FileName)
  | chown (name : FileName)
  | replace (name : FileName)
  | restoreIsFile (name : FileName)
  | restoreCopy (name : FileName)
deriving DecidableEq

/-- A failed operation; a failed copy leaves `left` where it was writing. -/
structure Failure (File : Type) where
  exn : Exn
  left : Option File

structure Completed where
  returncode : Int
  stdout : String

/-- `reload_relay` is called after the swap and again by `restore`. -/
inductive Attempt where
  | renewal | rollback
deriving DecidableEq

inductive Command where
  | nginxTest (attempt : Attempt)
  | nginxReload (attempt : Attempt)
  | handshake
deriving DecidableEq

/-- What the script meets.  `subprocess.run` gives a completed process or raises; `issue` is
the key that `make_csr` has written and the certificate that the Hub has sent for it;
`parseTime` is `parse_openssl_time`. -/
structure World (File : Type) where
  file : FileStep → Option (Failure File)
  command : Command → Except Exn Completed
  issue : Except Exn (File × File)
  enddate : File → Except Exn Completed
  parseTime : String → Except Exn Int
  verify : File → Except Exn Completed
  subjectAltName : File → Except Exn Completed
  pubout : File → Except Exn Completed
  pubkey : File → Except Exn Completed

structure Settings where
  adminToken : String
  tlsDirPresent : Bool
  caCertPresent : Bool
  relayIp : String
  force : Bool
  now : Int
  renewBefore : Int

/-! ## Commands -/

def run (process : Except Exn Completed) : Except Exn String :=
  match process with
  | .error exn => .error exn
  | .ok result => if result.returncode ≠ 0 then .error .renewalError else .ok result.stdout

/-- `needle in text`. -/
def contains (text needle : String) : Bool := decide (needle.toList <:+: text.toList)

/-- The group of the first match of `notAfter=(.+)`. -/
def searchNotAfter : List Char → Option (List Char)
  | [] => none
  | c :: cs =>
    if "notAfter=".toList.isPrefixOf (c :: cs) then
      match ((c :: cs).drop 9).takeWhile (· ≠ '\n') with
      | [] => searchNotAfter cs
      | value => some value
    else searchNotAfter cs

def leafNotAfter (world : World File) : Option File → Except Exn (Option Int)
  | none => .ok none
  | some crt => do
    let raw ← run (world.enddate crt)
    match searchNotAfter raw.toList with
    | none => .error .renewalError
    | some value => (world.parseTime (String.ofList value)).map some

def verifyPair (world : World File) (relayIp : String) (key cert : File) :
    Except Exn Unit := do
  let _ ← run (world.verify cert)
  let san ← run (world.subjectAltName cert)
  if contains san ("IP Address:" ++ relayIp) then do
    let fromKey ← run (world.pubout key)
    let fromCert ← run (world.pubkey cert)
    if Py.strip fromKey ≠ Py.strip fromCert then .error .renewalError else .ok ()
  else .error .renewalError

def reloadRelay (world : World File) (attempt : Attempt) : Except Exn Unit := do
  let _ ← run (world.command (.nginxTest attempt))
  let _ ← run (world.command (.nginxReload attempt))
  return ()

def liveHandshake (world : World File) : Except Exn Unit := do
  let result ← world.command .handshake
  if contains result.stdout "Verify return code: 0 (ok)" then .ok () else .error .renewalError

/-! ## The swap -/

abbrev Action (File α : Type) := EStateM Exn (Dir File) α

/-- A file operation that is done or has changed nothing. -/
def attempt (world : World File) (step : FileStep) (done : Dir File → Dir File) :
    Action File Unit := fun dir =>
  match world.file step with
  | none => .ok () (done dir)
  | some failure => .error failure.exn dir

/-- `shutil.copy2`. -/
def copy2 (world : World File) (step : FileStep) (source : Dir File → Option File)
    (put : Dir File → Option File → Dir File) : Action File Unit := fun dir =>
  match source dir with
  | none => .error .osError dir
  | some file =>
    match world.file step with
    | none => .ok () (put dir (some file))
    | some failure => .error failure.exn (put dir failure.left)

def isFile (world : World File) (step : FileStep) (read : Dir File → Option File) :
    Action File Bool := fun dir =>
  match world.file step with
  | none => .ok (read dir).isSome dir
  | some failure => .error failure.exn dir

def lift {α : Type} (result : Except Exn α) : Action File α := fun dir =>
  match result with
  | .ok a => .ok a dir
  | .error exn => .error exn dir

def putBackup (name : FileName) (dir : Dir File) (file : Option File) : Dir File :=
  { dir with backup := dir.backup.set name file }

def putStaging (name : FileName) (dir : Dir File) (file : Option File) : Dir File :=
  { dir with staging := dir.staging.set name file }

def putLive (name : FileName) (dir : Dir File) (file : Option File) : Dir File :=
  { dir with live := dir.live.set name file }

/-- `os.replace` of the staged file. -/
def replaceLive (name : FileName) (dir : Dir File) : Dir File :=
  putStaging name (putLive name dir (dir.staging.get name)) none

/-- `existing_key.is_file() or existing_cert.is_file()`. -/
def anyLive (world : World File) : Action File Bool := do
  if ← isFile world (.look .relayKey) (·.live.key) then return true
  else isFile world (.look .relayCrt) (·.live.crt)

def backUpFile (world : World File) (name : FileName) : Action File Unit := do
  if ← isFile world (.backupIsFile name) (·.live.get name) then
    copy2 world (.backupCopy name) (·.live.get name) (putBackup name)
  else return ()

/-- The part of `install` that saves the present pair, and whether there is a backup. -/
def backUp (world : World File) : Action File Bool := do
  if ← anyLive world then do
    attempt world .mkdirBackup id
    backUpFile world .relayKey
    backUpFile world .relayCrt
    return true
  else return false

/-- The owner is set where the system allows it. -/
def chownStaged (world : World File) : Action File Unit :=
  tryCatch
    (do attempt world (.chown .relayKey) id
        attempt world (.chown .relayCrt) id)
    fun exn => match exn with
      | .osError => return ()
      | exn => throw exn

def stagePair (world : World File) (key cert : File) : Action File Unit := do
  copy2 world (.stage .relayCrt) (fun _ => some cert) (putStaging .relayCrt)
  copy2 world (.stage .relayKey) (fun _ => some key) (putStaging .relayKey)
  attempt world (.chmod .relayCrt) id
  attempt world (.chmod .relayKey) id
  chownStaged world

def install (world : World File) (key cert : File) : Action File Bool := do
  let backup ← backUp world
  stagePair world key cert
  attempt world (.replace .relayCrt) (replaceLive .relayCrt)
  attempt world (.replace .relayKey) (replaceLive .relayKey)
  return backup

def restoreFile (world : World File) (name : FileName) : Action File Unit := do
  if ← isFile world (.restoreIsFile name) (·.backup.get name) then
    copy2 world (.restoreCopy name) (·.backup.get name) (putLive name)
  else return ()

/-- The reload of `restore`: a `RenewalError` is printed and forgotten. -/
def rollbackReload (world : World File) : Except Exn Unit :=
  match reloadRelay world .rollback with
  | .error .renewalError => .ok ()
  | result => result

def restore (world : World File) (backup : Bool) : Action File Unit :=
  if backup then do
    restoreFile world .relayCrt
    restoreFile world .relayKey
    lift (rollbackReload world)
  else return ()

/-! ## The whole script -/

/-- The line that is printed on success. -/
inductive Exit where
  | skipped
  | renewed (backup : Bool)
deriving DecidableEq

/-- What runs inside the `try` of `main`. -/
def reloadAndCheck (world : World File) : Except Exn Unit := do
  reloadRelay world .renewal
  liveHandshake world

/-- `except RenewalError`. -/
def onFailure (world : World File) (backup : Bool) : Exn → Action File Unit
  | .renewalError => do
    restore world backup
    throw .renewalError
  | exn => throw exn

/-- `main` from `install` on. -/
def swap (world : World File) (key cert : File) : Action File Exit := do
  let backup ← install world key cert
  tryCatch (lift (reloadAndCheck world)) (onFailure world backup)
  return .renewed backup

/-- `main` up to `install`, which touches nothing in the TLS directory: the pair that
`verify_pair` has accepted, or `none` where the renewal is skipped. -/
def prepare (settings : Settings) (world : World File) (crt : Option File) :
    Except Exn (Option (File × File)) :=
  if Py.strip settings.adminToken = "" then .error .renewalError
  else if !settings.tlsDirPresent then .error .renewalError
  else if !settings.caCertPresent then .error .renewalError
  else do
    let expiry ← leafNotAfter world crt
    if !settings.force && expiry.any (fun expires =>
        decide (settings.renewBefore < expires - settings.now))
    then return none
    else do
      let issued ← world.issue
      verifyPair world settings.relayIp issued.1 issued.2
      return some issued

def main (settings : Settings) (world : World File) : Action File Exit := fun dir =>
  match prepare settings world dir.live.crt with
  | .error exn => .error exn dir
  | .ok none => .ok .skipped dir
  | .ok (some (key, cert)) => swap world key cert dir

/-! ## Single operations -/

open Script

section Operations

variable {world : World File} {step : FileStep} {d d' : Dir File} {e : Exn}

theorem attempt_eq_ok {u : Unit} {done : Dir File → Dir File} :
    attempt world step done d = .ok u d' ↔ world.file step = none ∧ done d = d' := by
  unfold attempt
  cases world.file step <;> simp

theorem attempt_eq_error {done : Dir File → Dir File} :
    attempt world step done d = .error e d' ↔
      (∃ failure, world.file step = some failure ∧ failure.exn = e) ∧ d = d' := by
  unfold attempt
  cases world.file step <;> simp

theorem isFile_eq_ok {read : Dir File → Option File} {b : Bool} :
    isFile world step read d = .ok b d' ↔
      world.file step = none ∧ (read d).isSome = b ∧ d = d' := by
  unfold isFile
  cases world.file step <;> simp

theorem isFile_eq_error {read : Dir File → Option File} :
    isFile world step read d = .error e d' ↔
      (∃ failure, world.file step = some failure ∧ failure.exn = e) ∧ d = d' := by
  unfold isFile
  cases world.file step <;> simp

theorem copy2_eq_ok {u : Unit} {source : Dir File → Option File}
    {put : Dir File → Option File → Dir File} :
    copy2 world step source put d = .ok u d' ↔
      world.file step = none ∧ ∃ file, source d = some file ∧ put d (some file) = d' := by
  unfold copy2
  cases source d <;> cases world.file step <;> simp

theorem copy2_eq_error {source : Dir File → Option File}
    {put : Dir File → Option File → Dir File} :
    copy2 world step source put d = .error e d' ↔
      source d = none ∧ .osError = e ∧ d = d' ∨
        ∃ file failure, source d = some file ∧ world.file step = some failure ∧
          failure.exn = e ∧ put d failure.left = d' := by
  unfold copy2
  cases source d <;> cases world.file step <;> simp

theorem lift_eq_ok {α : Type} {result : Except Exn α} {a : α} :
    lift result d = .ok a d' ↔ result = .ok a ∧ d = d' := by
  unfold lift
  cases result <;> simp

theorem lift_eq_error {α : Type} {result : Except Exn α} :
    lift result d = .error e d' ↔ result = .error e ∧ d = d' := by
  unfold lift
  cases result <;> simp

end Operations

/-! ## What stays in place -/

/-- The live pair. -/
abbrev live (dir : Dir File) : Pair File := dir.live

section Kept

variable {world : World File} {step : FileStep}

theorem keeps_attempt {done : Dir File → Dir File} (kept : ∀ dir, live (done dir) = live dir) :
    Keeps live (attempt world step done) := by
  refine keeps_of_ends ?_ ?_
  · intro d u d' ended
    rw [← (attempt_eq_ok.mp ended).2, kept]
  · intro d e d' ended
    rw [(attempt_eq_error.mp ended).2]

theorem keeps_isFile {read : Dir File → Option File} : Keeps live (isFile world step read) := by
  refine keeps_of_ends ?_ ?_
  · intro d b d' ended
    rw [(isFile_eq_ok.mp ended).2.2]
  · intro d e d' ended
    rw [(isFile_eq_error.mp ended).2]

theorem keeps_copy2 {source : Dir File → Option File} {put : Dir File → Option File → Dir File}
    (kept : ∀ dir file, live (put dir file) = live dir) :
    Keeps live (copy2 world step source put) := by
  refine keeps_of_ends ?_ ?_
  · intro d u d' ended
    obtain ⟨-, file, -, rfl⟩ := copy2_eq_ok.mp ended
    rw [kept]
  · intro d e d' ended
    rcases copy2_eq_error.mp ended with ⟨-, -, rfl⟩ | ⟨file, failure, -, -, -, rfl⟩
    · rfl
    · rw [kept]

theorem keeps_backUpFile (name : FileName) : Keeps live (backUpFile world name) := by
  refine keeps_bind keeps_isFile fun there => ?_
  split
  · exact keeps_copy2 fun _ _ => rfl
  · exact keeps_pure ()

theorem keeps_backUp : Keeps live (backUp world) := by
  refine keeps_bind ?_ fun there => ?_
  · refine keeps_bind keeps_isFile fun there => ?_
    split
    · exact keeps_pure true
    · exact keeps_isFile
  · split
    · refine keeps_bind (keeps_attempt fun _ => rfl) fun _ => ?_
      refine keeps_bind (keeps_backUpFile .relayKey) fun _ => ?_
      exact keeps_bind (keeps_backUpFile .relayCrt) fun _ => keeps_pure true
    · exact keeps_pure false

theorem keeps_chownStaged : Keeps live (chownStaged world) := by
  have both : Keeps live (do attempt world (.chown .relayKey) id
                             attempt world (.chown .relayCrt) id) :=
    keeps_bind (keeps_attempt fun _ => rfl) fun _ => keeps_attempt fun _ => rfl
  refine keeps_tryCatch both fun exn => ?_
  cases exn with
  | osError => exact keeps_pure ()
  | renewalError => exact keeps_throw _
  | other name => exact keeps_throw _

theorem keeps_stagePair (key cert : File) : Keeps live (stagePair world key cert) := by
  refine keeps_bind (keeps_copy2 fun _ _ => rfl) fun _ => ?_
  refine keeps_bind (keeps_copy2 fun _ _ => rfl) fun _ => ?_
  refine keeps_bind (keeps_attempt fun _ => rfl) fun _ => ?_
  exact keeps_bind (keeps_attempt fun _ => rfl) fun _ => keeps_chownStaged

end Kept

/-! ## The steps up to the first rename -/

/-- All of these operations are done. -/
def Done (world : World File) (steps : List FileStep) : Prop :=
  ∀ step ∈ steps, world.file step = none

/-- The operations of `backUp` for a live pair, in their order. -/
def backUpSteps (pair : Pair File) : List FileStep :=
  match pair.key, pair.crt with
  | none, none => [.look .relayKey, .look .relayCrt]
  | none, some _ =>
    [.look .relayKey, .look .relayCrt, .mkdirBackup, .backupIsFile .relayKey,
      .backupIsFile .relayCrt, .backupCopy .relayCrt]
  | some _, none =>
    [.look .relayKey, .mkdirBackup, .backupIsFile .relayKey, .backupCopy .relayKey,
      .backupIsFile .relayCrt]
  | some _, some _ =>
    [.look .relayKey, .mkdirBackup, .backupIsFile .relayKey, .backupCopy .relayKey,
      .backupIsFile .relayCrt, .backupCopy .relayCrt]

def stageSteps : List FileStep :=
  [.stage .relayCrt, .stage .relayKey, .chmod .relayCrt, .chmod .relayKey]

/-- Setting the owner raises nothing but an `OSError`. -/
def OwnerSet (world : World File) : Prop :=
  (∀ failure, world.file (.chown .relayKey) = some failure → failure.exn = .osError) ∧
    (world.file (.chown .relayKey) = none →
      ∀ failure, world.file (.chown .relayCrt) = some failure → failure.exn = .osError)

/-- Every step of `install` up to the rename of the certificate succeeds. -/
structure CertificateRenamed (world : World File) (pair : Pair File) : Prop where
  backedUp : Done world (backUpSteps pair)
  staged : Done world stageSteps
  owner : OwnerSet world
  renamed : world.file (.replace .relayCrt) = none

/-- What the backup directory holds once the present pair is saved. -/
def saved (pair backup : Pair File) : Pair File :=
  ⟨pair.key.or backup.key, pair.crt.or backup.crt⟩

def present (pair : Pair File) : Bool := pair.key.isSome || pair.crt.isSome

section Steps

variable {world : World File} {d d' : Dir File} {e : Exn} {key cert : File} {b : Bool}

theorem anyLive_eq_ok :
    anyLive world d = .ok b d' ↔
      world.file (.look .relayKey) = none ∧
        (d.live.key = none → world.file (.look .relayCrt) = none) ∧
        present d.live = b ∧ d = d' := by
  unfold anyLive
  obtain ⟨⟨liveKey, liveCrt⟩, backup, staging⟩ := d
  cases liveKey with
  | none => simp [bind_eq_ok, isFile_eq_ok, present, and_assoc]
  | some file => simp [bind_eq_ok, isFile_eq_ok, present, and_assoc]

theorem backUpFile_eq_ok {u : Unit} {name : FileName} :
    backUpFile world name d = .ok u d' ↔
      world.file (.backupIsFile name) = none ∧
        ((d.live.get name).isSome = true → world.file (.backupCopy name) = none) ∧
        putBackup name d ((d.live.get name).or (d.backup.get name)) = d' := by
  unfold backUpFile
  cases there : d.live.get name with
  | none =>
    have same : putBackup name d (d.backup.get name) = d := by cases name <;> rfl
    simp [bind_eq_ok, isFile_eq_ok, there, same, and_assoc]
  | some file =>
    simp [bind_eq_ok, isFile_eq_ok, copy2_eq_ok, there, and_assoc]

theorem backUp_eq_ok :
    backUp world d = .ok b d' ↔
      Done world (backUpSteps d.live) ∧ present d.live = b ∧
        { d with backup := saved d.live d.backup } = d' := by
  unfold backUp
  obtain ⟨⟨liveKey, liveCrt⟩, backup, staging⟩ := d
  cases liveKey <;> cases liveCrt <;>
    simp [-bind_pure_comp, bind_eq_ok, anyLive_eq_ok, backUpFile_eq_ok, attempt_eq_ok, Done,
      backUpSteps, present, saved, Pair.get, Pair.set, putBackup, and_assoc]

theorem chownStaged_eq_ok {u : Unit} :
    chownStaged world d = .ok u d' ↔ OwnerSet world ∧ d = d' := by
  unfold chownStaged OwnerSet
  cases ownKey : world.file (.chown .relayKey) with
  | none =>
    cases ownCrt : world.file (.chown .relayCrt) with
    | none =>
      simp [tryCatch_eq_ok, bind_eq_ok, bind_eq_error, attempt_eq_ok, attempt_eq_error, ownKey,
        ownCrt]
    | some failure =>
      cases exn : failure.exn <;>
        simp [tryCatch_eq_ok, bind_eq_ok, bind_eq_error, attempt_eq_ok, attempt_eq_error,
          ownKey, ownCrt, exn]
  | some failure =>
    cases exn : failure.exn <;>
      simp [tryCatch_eq_ok, bind_eq_ok, bind_eq_error, attempt_eq_ok, attempt_eq_error,
        ownKey, exn]

theorem stagePair_eq_ok {u : Unit} :
    stagePair world key cert d = .ok u d' ↔
      Done world stageSteps ∧ OwnerSet world ∧
        { d with staging := ⟨some key, some cert⟩ } = d' := by
  simp [stagePair, bind_eq_ok, copy2_eq_ok, attempt_eq_ok, chownStaged_eq_ok, Done, stageSteps,
    Pair.set, putStaging, and_assoc]

/-- **`install` returns exactly when each of its operations is done.** -/
theorem install_ok :
    install world key cert d = .ok b d' ↔
      (CertificateRenamed world d.live ∧ world.file (.replace .relayKey) = none) ∧
        present d.live = b ∧
        (⟨⟨some key, some cert⟩, saved d.live d.backup, ⟨none, none⟩⟩ : Dir File) = d' := by
  simp only [install, bind_eq_ok, backUp_eq_ok, stagePair_eq_ok, attempt_eq_ok, pure_eq_ok]
  constructor
  · rintro ⟨_, _, ⟨backed, rfl, rfl⟩, _, _, ⟨staged, owner, rfl⟩, _, _, ⟨renamed, rfl⟩, _, _,
      ⟨replaced, rfl⟩, rfl, rfl⟩
    exact ⟨⟨⟨backed, staged, owner, renamed⟩, replaced⟩, rfl, rfl⟩
  · rintro ⟨⟨⟨backed, staged, owner, renamed⟩, replaced⟩, rfl, rfl⟩
    exact ⟨_, _, ⟨backed, rfl, rfl⟩, (), _, ⟨staged, owner, rfl⟩, (), _, ⟨renamed, rfl⟩, (), _,
      ⟨replaced, rfl⟩, rfl, rfl⟩

/-- **Where `install` fails, the live pair is as it was, or the failure is that of the second
rename and the new certificate is next to the old key.** -/
theorem install_error (ended : install world key cert d = .error e d') :
    d'.live = d.live ∨
      CertificateRenamed world d.live ∧
        (∃ failure, world.file (.replace .relayKey) = some failure ∧ failure.exn = e) ∧
        d'.live = ⟨d.live.key, some cert⟩ := by
  unfold install at ended
  rcases bind_eq_error.mp ended with failed | ⟨b, d₁, backed, rest⟩
  · exact .inl (keeps_backUp.error failed)
  obtain ⟨backedUp, -, rfl⟩ := backUp_eq_ok.mp backed
  rcases bind_eq_error.mp rest with failed | ⟨_, d₂, stagedPair, rest⟩
  · have kept := (keeps_stagePair key cert).error failed
    exact .inl kept
  obtain ⟨staged, owner, rfl⟩ := stagePair_eq_ok.mp stagedPair
  rcases bind_eq_error.mp rest with failed | ⟨_, d₃, renamedCrt, rest⟩
  · obtain ⟨-, rfl⟩ := attempt_eq_error.mp failed
    exact .inl rfl
  obtain ⟨renamed, rfl⟩ := attempt_eq_ok.mp renamedCrt
  rcases bind_eq_error.mp rest with failed | ⟨_, d₄, renamedKey, rest⟩
  · obtain ⟨failure, rfl⟩ := attempt_eq_error.mp failed
    exact .inr ⟨⟨backedUp, staged, owner, renamed⟩, failure, rfl⟩
  · cases pure_eq_error.mp rest

theorem install_torn {failure : Failure File} (reached : CertificateRenamed world d.live)
    (failed : world.file (.replace .relayKey) = some failure) :
    ∃ d', install world key cert d = .error failure.exn d' ∧
      d'.live = ⟨d.live.key, some cert⟩ := by
  unfold install
  refine ⟨replaceLive .relayCrt ⟨d.live, saved d.live d.backup, ⟨some key, some cert⟩⟩, ?_, rfl⟩
  refine bind_eq_error.mpr (.inr ⟨_, _, backUp_eq_ok.mpr ⟨reached.backedUp, rfl, rfl⟩, ?_⟩)
  refine bind_eq_error.mpr (.inr ⟨(), _,
    stagePair_eq_ok.mpr ⟨reached.staged, reached.owner, rfl⟩, ?_⟩)
  refine bind_eq_error.mpr (.inr ⟨(), _, attempt_eq_ok.mpr ⟨reached.renamed, rfl⟩, ?_⟩)
  exact bind_eq_error.mpr (.inl (attempt_eq_error.mpr ⟨⟨failure, failed, rfl⟩, rfl⟩))

end Steps

/-! ## What the handler restores -/

/-- `restore` brings the pair back.  The `backup` is what the backup directory held before:
another renewal of the same second may have written there. -/
structure Recovers (world : World File) (pair backup : Pair File) (exn : Exn) : Prop where
  renewalError : exn = .renewalError
  crtThere : pair.crt.isSome = true
  crtRestored : Done world [.restoreIsFile .relayCrt, .restoreCopy .relayCrt]
  keySaved : (pair.key.or backup.key).isSome = true
  keyRead : Done world [.restoreIsFile .relayKey]
  keyRestored : world.file (.restoreCopy .relayKey) = none → pair.key.isSome = true
  keyLeft : ∀ failure, world.file (.restoreCopy .relayKey) = some failure →
    failure.left = pair.key

/-- Once the certificate is renamed, so is the key, and a failure of nginx or of the
handshake is one that `restore` recovers from. -/
def Guarded (world : World File) (dir : Dir File) : Prop :=
  CertificateRenamed world dir.live →
    world.file (.replace .relayKey) = none ∧
      ∀ exn, reloadAndCheck world = .error exn → Recovers world dir.live dir.backup exn

section Handler

variable {world : World File} {d d' : Dir File} {e : Exn} {u : Unit}

theorem restoreFile_eq_ok {name : FileName} :
    restoreFile world name d = .ok u d' ↔
      world.file (.restoreIsFile name) = none ∧
        ((d.backup.get name).isSome = true → world.file (.restoreCopy name) = none) ∧
        putLive name d ((d.backup.get name).or (d.live.get name)) = d' := by
  unfold restoreFile
  cases there : d.backup.get name with
  | none =>
    have same : putLive name d (d.live.get name) = d := by cases name <;> rfl
    simp [bind_eq_ok, isFile_eq_ok, there, same, and_assoc]
  | some file =>
    simp [bind_eq_ok, isFile_eq_ok, copy2_eq_ok, there, and_assoc]

theorem restoreFile_eq_error {name : FileName} :
    restoreFile world name d = .error e d' ↔
      (∃ failure, world.file (.restoreIsFile name) = some failure ∧ failure.exn = e) ∧ d = d' ∨
        world.file (.restoreIsFile name) = none ∧ (d.backup.get name).isSome = true ∧
          ∃ failure, world.file (.restoreCopy name) = some failure ∧ failure.exn = e ∧
            putLive name d failure.left = d' := by
  unfold restoreFile
  cases there : d.backup.get name with
  | none => simp [bind_eq_error, isFile_eq_ok, isFile_eq_error, there]
  | some file =>
    simp [bind_eq_error, isFile_eq_ok, isFile_eq_error, copy2_eq_error, there, and_assoc]

theorem final_lift {α : Type} (result : Except Exn α) (d : Dir File) :
    final (lift result) d = d := by
  cases result <;> rfl

/-- The copies that `restore` makes: the certificate first. -/
theorem final_restore (d : Dir File) :
    final (restore world true) d =
      final (do restoreFile world .relayCrt
                restoreFile world .relayKey) d := by
  change final (restoreFile world .relayCrt >>= fun _ => restoreFile world .relayKey >>= fun _ =>
    lift (rollbackReload world)) d = _
  cases first : restoreFile world .relayCrt d with
  | error e t => rw [final_bind_error first, final_bind_error first]
  | ok u t =>
    rw [final_bind_ok first, final_bind_ok first]
    exact final_bind_idle fun _ t => final_lift _ t

theorem isSome_of_or_eq {a b : Option File} {file : File} (same : (a.or b).or (some file) = a) :
    a.isSome = true := by
  cases a with
  | some a => rfl
  | none => cases b <;> cases same

theorem or_of_isSome {a b c : Option File} (there : a.isSome = true) : (a.or b).or c = a := by
  obtain ⟨file, rfl⟩ := Option.isSome_iff_exists.mp there
  rfl

/-- The two copies bring the pair back only together: the first leaves the new key in its
place, and the second leaves the certificate as the first has. -/
theorem copies_recover {pair backup : Pair File} {key cert : File}
    (swapped : d.live = ⟨some key, some cert⟩) (kept : d.backup = saved pair backup)
    (freshKey : pair.key ≠ some key) :
    (final (do restoreFile world .relayCrt
               restoreFile world .relayKey) d).live = pair ↔
      Recovers world pair backup .renewalError := by
  have liveKey : d.live.key = some key := by rw [swapped]
  have liveCrt : d.live.get .relayCrt = some cert := by rw [swapped]; rfl
  have heldKey : d.backup.get .relayKey = pair.key.or backup.key := by rw [kept]; rfl
  have heldCrt : d.backup.get .relayCrt = pair.crt.or backup.crt := by rw [kept]; rfl
  cases first : restoreFile world .relayCrt d with
  | error e t =>
    rw [final_bind_error first]
    constructor
    · intro same
      rcases restoreFile_eq_error.mp first with ⟨-, rfl⟩ | ⟨-, -, failure, -, -, rfl⟩
      · exact absurd ((congrArg Pair.key same).symm.trans liveKey) freshKey
      · exact absurd ((congrArg Pair.key same).symm.trans liveKey) freshKey
    · intro recovers
      have read := recovers.crtRestored (.restoreIsFile .relayCrt) (by simp)
      have copied := recovers.crtRestored (.restoreCopy .relayCrt) (by simp)
      rcases restoreFile_eq_error.mp first with
        ⟨⟨failure, failed, -⟩, -⟩ | ⟨-, -, failure, failed, -⟩
      · cases read.symm.trans failed
      · cases copied.symm.trans failed
  | ok u t =>
    rw [final_bind_ok first]
    obtain ⟨read, copied, rfl⟩ := restoreFile_eq_ok.mp first
    rw [heldCrt] at copied
    rw [heldCrt, liveCrt]
    -- from here on the certificate stands: its restoration is that of the pair
    have restoredCrt (crtThere : pair.crt.isSome = true) :
        Done world [.restoreIsFile .relayCrt, .restoreCopy .relayCrt] := by
      have there : (pair.crt.or backup.crt).isSome = true := by simp [crtThere]
      simp [Done, read, copied there]
    cases second : restoreFile world .relayKey
        (putLive .relayCrt d ((pair.crt.or backup.crt).or (some cert))) with
    | error e t =>
      rw [final_error second]
      rcases restoreFile_eq_error.mp second with
        ⟨⟨failure, failed, -⟩, rfl⟩ | ⟨readKey, there, failure, failed, -, rfl⟩
      · refine ⟨fun same => ?_, fun recovers => ?_⟩
        · exact absurd ((congrArg Pair.key same).symm.trans liveKey) freshKey
        · cases (recovers.keyRead (.restoreIsFile .relayKey) (by simp)).symm.trans failed
      · refine ⟨fun same => ?_, fun recovers => ?_⟩
        · have left : failure.left = pair.key := congrArg Pair.key same
          have crtThere := isSome_of_or_eq (congrArg Pair.crt same)
          refine ⟨rfl, crtThere, restoredCrt crtThere, heldKey ▸ there, ?_, ?_, ?_⟩
          · simpa [Done] using readKey
          · intro done
            cases done.symm.trans failed
          · intro failure' failed'
            cases failed.symm.trans failed'
            exact left
        · exact congrArg₂ Pair.mk (recovers.keyLeft failure failed)
            (or_of_isSome recovers.crtThere)
    | ok u t =>
      rw [final_ok second]
      obtain ⟨readKey, copiedKey, rfl⟩ := restoreFile_eq_ok.mp second
      have keyAfter : ((putLive .relayCrt d ((pair.crt.or backup.crt).or (some cert))).backup.get
          .relayKey).or ((putLive .relayCrt d ((pair.crt.or backup.crt).or (some cert))).live.get
          .relayKey) = (pair.key.or backup.key).or (some key) :=
        congrArg₂ Option.or heldKey liveKey
      rw [keyAfter]
      refine ⟨fun same => ?_, fun recovers => ?_⟩
      · have keyThere := isSome_of_or_eq (congrArg Pair.key same)
        have crtThere := isSome_of_or_eq (congrArg Pair.crt same)
        have keySaved : (pair.key.or backup.key).isSome = true := by simp [keyThere]
        refine ⟨rfl, crtThere, restoredCrt crtThere, keySaved, ?_, fun _ => keyThere, ?_⟩
        · simpa [Done] using readKey
        · intro failure failed
          cases (copiedKey (heldKey ▸ keySaved)).symm.trans failed
      · have keyThere := recovers.keyRestored (copiedKey (heldKey ▸ recovers.keySaved))
        exact congrArg₂ Pair.mk (or_of_isSome keyThere) (or_of_isSome recovers.crtThere)

/-- **What the handler leaves after a failed check is the pair of before exactly when
`restore` recovers it.** -/
theorem onFailure_recovers {pair backup : Pair File} {key cert : File}
    (swapped : d.live = ⟨some key, some cert⟩) (kept : d.backup = saved pair backup)
    (freshKey : pair.key ≠ some key) :
    (final (onFailure world (present pair) e) d).live = pair ↔
      Recovers world pair backup e := by
  have unrestored : d.live ≠ pair := by
    rintro rfl
    exact freshKey (by rw [swapped])
  cases e with
  | osError => exact ⟨fun same => absurd same unrestored, fun r => nomatch r.renewalError⟩
  | other name => exact ⟨fun same => absurd same unrestored, fun r => nomatch r.renewalError⟩
  | renewalError =>
    have idle : final (onFailure world (present pair) .renewalError) d =
        final (restore world (present pair)) d := final_bind_idle fun _ _ => rfl
    rw [idle]
    cases any : present pair with
    | false =>
      refine ⟨fun same => absurd same unrestored, fun recovers => ?_⟩
      have there := recovers.crtThere
      simp [present, there] at any
    | true =>
      rw [final_restore]
      exact copies_recover swapped kept freshKey

end Handler

/-! ## All or nothing -/

/-- The public keys agree, in the comparison of `verifyPair`. -/
def Matches (world : World File) (key cert : File) : Prop :=
  ∃ fromKey fromCert, run (world.pubout key) = .ok fromKey ∧
    run (world.pubkey cert) = .ok fromCert ∧ Py.strip fromKey = Py.strip fromCert

/-- A key next to a certificate matches it. -/
def Paired (world : World File) (pair : Pair File) : Prop :=
  ∀ key cert, pair.key = some key → pair.crt = some cert → Matches world key cert

/-- A run that fails or is skipped leaves the live pair as it was, one that succeeds leaves
the issued pair, which `verify_pair` has accepted, and no run leaves a key next to a
certificate of another one. -/
structure AllOrNothing (settings : Settings) (world : World File) (before : Dir File) :
    Prop where
  failed : ∀ exn after, main settings world before = .error exn after →
    after.live = before.live
  skipped : ∀ after, main settings world before = .ok .skipped after →
    after.live = before.live
  renewed : ∀ backup after, main settings world before = .ok (.renewed backup) after →
    ∃ key cert, world.issue = .ok (key, cert) ∧
      verifyPair world settings.relayIp key cert = .ok () ∧
      after.live = ⟨some key, some cert⟩
  paired : Paired world before.live → Paired world (final (main settings world) before).live

section Runs

variable {settings : Settings} {world : World File} {before d d' : Dir File} {e exn : Exn}
  {key cert : File} {b : Bool}

theorem verifyPair_matches {relayIp : String} (ok : verifyPair world relayIp key cert = .ok ()) :
    Matches world key cert := by
  unfold verifyPair at ok
  obtain ⟨_, -, ok⟩ := bind_ok ok
  obtain ⟨san, -, ok⟩ := bind_ok ok
  split at ok
  · obtain ⟨fromKey, ranKey, ok⟩ := bind_ok ok
    obtain ⟨fromCert, ranCert, ok⟩ := bind_ok ok
    split at ok
    · cases ok
    · exact ⟨fromKey, fromCert, ranKey, ranCert, not_not.mp ‹_›⟩
  · cases ok

theorem prepare_ok {crt : Option File}
    (prepared : prepare settings world crt = .ok (some (key, cert))) :
    world.issue = .ok (key, cert) ∧ verifyPair world settings.relayIp key cert = .ok () := by
  unfold prepare at prepared
  split at prepared
  · cases prepared
  split at prepared
  · cases prepared
  split at prepared
  · cases prepared
  obtain ⟨expiry, -, prepared⟩ := bind_ok prepared
  split at prepared
  · cases prepared
  obtain ⟨issued, gave, prepared⟩ := bind_ok prepared
  obtain ⟨⟨⟩, verified, prepared⟩ := bind_ok prepared
  cases prepared
  exact ⟨gave, verified⟩

theorem main_of_prepared
    (prepared : prepare settings world before.live.crt = .ok (some (key, cert))) :
    main settings world before = swap world key cert before := by
  unfold main
  rw [prepared]

theorem swap_of_checked (installed : install world key cert d = .ok b d')
    (checked : reloadAndCheck world = .ok ()) : swap world key cert d = .ok (.renewed b) d' := by
  refine bind_eq_ok.mpr ⟨b, d', installed, bind_eq_ok.mpr ⟨(), d', ?_, pure_eq_ok.mpr ⟨rfl, rfl⟩⟩⟩
  exact tryCatch_eq_ok.mpr (.inl (lift_eq_ok.mpr ⟨checked, rfl⟩))

/-- The handler raises again, or what `restore` has raised. -/
theorem onFailure_raises (world : World File) (b : Bool) (exn : Exn) (d : Dir File) :
    ∃ e t, onFailure world b exn d = .error e t := by
  cases ended : onFailure world b exn d with
  | error e t => exact ⟨e, t, rfl⟩
  | ok u t =>
    cases exn with
    | renewalError =>
      obtain ⟨_, _, -, thrown⟩ := bind_eq_ok.mp ended
      cases throw_eq_ok.mp thrown
    | osError => cases throw_eq_ok.mp ended
    | other name => cases throw_eq_ok.mp ended

theorem swap_of_failed (installed : install world key cert d = .ok b d')
    (failed : reloadAndCheck world = .error exn) :
    ∃ e, swap world key cert d = .error e (final (onFailure world b exn) d') := by
  obtain ⟨e, t, raised⟩ := onFailure_raises world b exn d'
  rw [final_error raised]
  refine ⟨e, bind_eq_error.mpr (.inr ⟨b, d', installed, bind_eq_error.mpr (.inl ?_)⟩)⟩
  exact tryCatch_eq_error.mpr ⟨exn, d', lift_eq_error.mpr ⟨failed, rfl⟩, raised⟩

/-- How a run ends that is all or nothing. -/
theorem allOrNothing_of_failed (ended : main settings world before = .error e d)
    (same : d.live = before.live) : AllOrNothing settings world before := by
  refine ⟨?_, ?_, ?_, ?_⟩
  · intro exn after ended'
    cases ended.symm.trans ended'
    exact same
  · intro after ended'
    cases ended.symm.trans ended'
  · intro backup after ended'
    cases ended.symm.trans ended'
  · rw [final_error ended, same]
    exact id

theorem allOrNothing_of_skipped (ended : main settings world before = .ok .skipped before) :
    AllOrNothing settings world before := by
  refine ⟨?_, ?_, ?_, ?_⟩
  · intro exn after ended'
    cases ended.symm.trans ended'
  · intro after ended'
    cases ended.symm.trans ended'
    rfl
  · intro backup after ended'
    cases ended.symm.trans ended'
  · rw [final_ok ended]
    exact id

theorem allOrNothing_of_renewed (ended : main settings world before = .ok (.renewed b) d)
    (issued : world.issue = .ok (key, cert))
    (verified : verifyPair world settings.relayIp key cert = .ok ())
    (new : d.live = ⟨some key, some cert⟩) : AllOrNothing settings world before := by
  refine ⟨?_, ?_, ?_, ?_⟩
  · intro exn after ended'
    cases ended.symm.trans ended'
  · intro after ended'
    cases ended.symm.trans ended'
  · intro backup after ended'
    cases ended.symm.trans ended'
    exact ⟨key, cert, issued, verified, new⟩
  · rw [final_ok ended, new]
    rintro - _ _ ⟨⟩ ⟨⟩
    exact verifyPair_matches verified

end Runs

/-- **A renewal is all-or-nothing exactly when the second rename follows the first and what
fails afterwards is a `RenewalError` that the backup of a complete pair undoes.**  A new key
and a new certificate differ from the files that were there. -/
theorem renewal_allOrNothing_iff (settings : Settings) (world : World File) (before : Dir File)
    (fresh : ∀ key cert, prepare settings world before.live.crt = .ok (some (key, cert)) →
      before.live.key ≠ some key ∧ before.live.crt ≠ some cert) :
    AllOrNothing settings world before ↔
      ∀ key cert, prepare settings world before.live.crt = .ok (some (key, cert)) →
        Guarded world before := by
  constructor
  · intro all key cert prepared reached
    obtain ⟨freshKey, freshCrt⟩ := fresh key cert prepared
    have runs := main_of_prepared prepared
    have renamed : world.file (.replace .relayKey) = none := by
      cases failed : world.file (.replace .relayKey) with
      | none => rfl
      | some failure =>
        obtain ⟨d, torn, left⟩ : ∃ d, install world key cert _ = .error failure.exn d ∧
            d.live = ⟨_, some cert⟩ := install_torn reached failed
        have ended : main settings world before = .error failure.exn d :=
          runs.trans (bind_eq_error.mpr (.inl torn))
        have same := all.failed _ _ ended
        rw [left] at same
        exact absurd (congrArg Pair.crt same).symm freshCrt
    refine ⟨renamed, fun exn failed => ?_⟩
    have installed : install world key cert _ = .ok _ _ :=
      install_ok.mpr ⟨⟨reached, renamed⟩, rfl, rfl⟩
    obtain ⟨e, ended⟩ := swap_of_failed installed failed
    exact (onFailure_recovers rfl rfl freshKey).mp (all.failed _ _ (runs.trans ended))
  · intro guarded
    cases prepared : prepare settings world before.live.crt with
    | error exn =>
      have ended : main settings world before = .error exn before := by
        unfold main
        rw [prepared]
      exact allOrNothing_of_failed ended rfl
    | ok pair =>
      cases pair with
      | none =>
        have ended : main settings world before = .ok .skipped before := by
          unfold main
          rw [prepared]
        exact allOrNothing_of_skipped ended
      | some issued =>
        obtain ⟨key, cert⟩ := issued
        obtain ⟨freshKey, -⟩ := fresh key cert prepared
        obtain ⟨gave, verified⟩ := prepare_ok prepared
        have runs := main_of_prepared prepared
        cases installed : install world key cert before with
        | error e d =>
          have ended := runs.trans (bind_eq_error.mpr (.inl installed))
          rcases install_error installed with same | ⟨reached, ⟨failure, failed, -⟩, -⟩
          · exact allOrNothing_of_failed ended same
          · cases (guarded key cert prepared reached).1.symm.trans failed
        | ok b d =>
          obtain ⟨⟨reached, -⟩, rfl, new⟩ := install_ok.mp installed
          obtain ⟨-, recovers⟩ := guarded key cert prepared reached
          cases checked : reloadAndCheck world with
          | ok u =>
            refine allOrNothing_of_renewed (runs.trans (swap_of_checked installed checked))
              gave verified ?_
            rw [← new]
          | error exn =>
            obtain ⟨e, ended⟩ := swap_of_failed installed checked
            refine allOrNothing_of_failed (runs.trans ended) ?_
            subst new
            exact (onFailure_recovers rfl rfl freshKey).mpr (recovers exn checked)

/-! ## Runs -/

namespace Sample

/-- The key and the certificate of the n-th pair. -/
inductive Pem where
  | key (n : Nat)
  | cert (n : Nat)
deriving DecidableEq

def publicKey : Pem → Except Exn Completed
  | .key n | .cert n => .ok ⟨0, toString n⟩

/-- Everything works. -/
def world : World Pem where
  file := fun _ => none
  command := fun _ => .ok ⟨0, "Verify return code: 0 (ok)"⟩
  issue := .ok (.key 2, .cert 2)
  enddate := fun _ => .ok ⟨0, "notAfter=Dec 12 22:53:29 2028 GMT\n"⟩
  parseTime := fun _ => .ok 10
  verify := fun _ => .ok ⟨0, "OK"⟩
  subjectAltName := fun _ => .ok ⟨0, "IP Address:10.21.4.101"⟩
  pubout := publicKey
  pubkey := publicKey

/-- The handshake check finds the relay unreachable. -/
def unreachable : World Pem :=
  { world with command := fun command => match command with
      | .handshake => .ok ⟨1, "no peer certificate available"⟩
      | _ => .ok ⟨0, ""⟩ }

/-- There is no `docker` on the host. -/
def dockerMissing : World Pem :=
  { world with command := fun _ => .error .osError }

/-- The rename of the key fails, that of the certificate does not. -/
def keyStuck : World Pem :=
  { world with file := fun step =>
      if step = .replace .relayKey then some ⟨.osError, none⟩ else none }

def settings : Settings := ⟨"token", true, true, "10.21.4.101", false, 0, 30⟩

/-- The first pair is live. -/
def before : Dir Pem := ⟨⟨some (.key 1), some (.cert 1)⟩, ⟨none, none⟩, ⟨none, none⟩⟩

end Sample

/-- A handshake that fails after the swap: the first pair comes back. -/
theorem renewal_allOrNothing_iff_unreachable :
    AllOrNothing Sample.settings Sample.unreachable Sample.before := by
  have prepared : prepare Sample.settings Sample.unreachable Sample.before.live.crt =
      .ok (some (.key 2, .cert 2)) := by decide +kernel
  refine (renewal_allOrNothing_iff _ _ _ ?_).mpr ?_
  · intro key cert prepared'
    cases prepared.symm.trans prepared'
    exact ⟨by decide, by decide⟩
  · intro key cert _ _
    refine ⟨rfl, fun exn failed => ?_⟩
    have checked : reloadAndCheck Sample.unreachable = .error .renewalError := by decide +kernel
    cases checked.symm.trans failed
    exact ⟨rfl, rfl, fun _ _ => rfl, rfl, fun _ _ => rfl, fun _ => rfl, fun _ => nofun⟩

/-- Without `docker` the new pair stays although the renewal fails, and with the second
rename failing the old key is left next to the new certificate. -/
theorem renewal_torn :
    ¬ AllOrNothing Sample.settings Sample.dockerMissing Sample.before ∧
      Paired Sample.keyStuck Sample.before.live ∧
      ¬ Paired Sample.keyStuck
        (final (main Sample.settings Sample.keyStuck) Sample.before).live := by
  have prepared : prepare Sample.settings Sample.dockerMissing Sample.before.live.crt =
      .ok (some (.key 2, .cert 2)) := by decide +kernel
  have prepared' : prepare Sample.settings Sample.keyStuck Sample.before.live.crt =
      .ok (some (.key 2, .cert 2)) := by decide +kernel
  refine ⟨fun all => ?_, ?_, fun paired => ?_⟩
  · have ended : main Sample.settings Sample.dockerMissing Sample.before =
        .error .osError ⟨⟨some (.key 2), some (.cert 2)⟩, ⟨some (.key 1), some (.cert 1)⟩,
          ⟨none, none⟩⟩ := (main_of_prepared prepared).trans rfl
    cases all.failed _ _ ended
  · rintro _ _ ⟨⟩ ⟨⟩
    exact ⟨_, _, rfl, rfl, rfl⟩
  · have left : (final (main Sample.settings Sample.keyStuck) Sample.before).live =
        ⟨some (.key 1), some (.cert 2)⟩ := by
      rw [final_error ((main_of_prepared prepared').trans rfl)]
      rfl
    obtain ⟨fromKey, fromCert, ranKey, ranCert, same⟩ :=
      paired (.key 1) (.cert 2) (by rw [left]) (by rw [left])
    cases ranKey
    cases ranCert
    exact absurd same (by decide)

end RemoteAgent.Renewal
