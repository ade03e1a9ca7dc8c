import RemoteAgent.Lib.Calendar
import RemoteAgent.Lib.FixedWidth
import RemoteAgent.Lib.Related
import RemoteAgent.InstanceRows

/-!
# Timestamps as text

`as_timestamp` writes an aware datetime in UTC, to the second.  The tables hold these texts
(`StoredTables`), and every expiry and every liveness decision compares two of them; the rest of
this development has the numbers of the seconds in their place (`StoredTables.Represents`).

* `DateTime.asTimestamp_le_iff`: the texts are ordered as the seconds.
* `StoredTables.Represents.consumeEnrollmentToken` and its companions: the decisions are the same.
* `timestamps_order`: what follows for tokens, challenges and the sweep.
-/

open Calendar FixedWidth Wire Storage Transition

namespace RemoteAgent

/-! ## Aware datetimes -/

/-- What `utcoffset` may answer, in microseconds: less than a day. -/
def Offset : Type := { z : Int // -86400000000 < z ∧ z < 86400000000 }

namespace Offset

def utc : Offset := ⟨0, by decide⟩

end Offset

/-- A `datetime` with its `utcoffset`. -/
structure DateTime where
  date : Date
  hour : Nat
  minute : Nat
  second : Nat
  microsecond : Nat
  utcoffset : Offset
  year_le : date.year ≤ 9999
  hour_lt : hour < 24
  minute_lt : minute < 60
  second_lt : second < 60
  microsecond_lt : microsecond < 1000000

namespace DateTime

/-- The seconds of the wall clock, from the day before 1 January of the year 1. -/
def wallSeconds (a : DateTime) : Nat :=
  ((a.date.ordinal * 24 + a.hour) * 60 + a.minute) * 60 + a.second

/-- The microseconds of the wall clock. -/
def wallClock (a : DateTime) : Int := (a.wallSeconds * 1000000 + a.microsecond : Nat)

/-- `timestamp`, in microseconds: 1 January 1970 is the day 719163. -/
def instant (a : DateTime) : Int := a.wallClock - a.utcoffset.val - 719163 * 86400000000

/-- The ordinal of 31 December 9999. -/
def maxOrdinal : Nat := 3652059

/-- The datetime of a wall clock; `none` is the `OverflowError` of datetime arithmetic. -/
def ofWallClock (t : Int) (utcoffset : Offset) : Option DateTime :=
  if range : 0 < t / 86400000000 ∧ t / 86400000000 ≤ maxOrdinal then
    let rest := (t % 86400000000).toNat
    some {
      date := Date.fromOrdinal (t / 86400000000).toNat
      hour := rest / 3600000000
      minute := rest / 60000000 % 60
      second := rest / 1000000 % 60
      microsecond := rest % 1000000
      utcoffset := utcoffset
      year_le := by
        have lastDay : daysBeforeYear (9999 + 1) = maxOrdinal := by decide
        rw [Date.year_le_iff, Date.ordinal_fromOrdinal (by omega), lastDay]
        omega
      hour_lt := by omega
      minute_lt := Nat.mod_lt _ (by decide)
      second_lt := Nat.mod_lt _ (by decide)
      microsecond_lt := Nat.mod_lt _ (by decide) }
  else none

/-- `value.astimezone(timezone.utc)`. -/
def astimezone (value : DateTime) : Option DateTime :=
  ofWallClock (value.wallClock - value.utcoffset.val) Offset.utc

/-- `value + timedelta(seconds=…)`, for a timezone of one offset. -/
def plus (value : DateTime) (seconds : Int) : Option DateTime :=
  ofWallClock (value.wallClock + seconds * 1000000) value.utcoffset

/-- The columns of `isoformat(timespec="seconds")` for a datetime in UTC. -/
def isoLayout : List (Nat × List Char) :=
  [(4, ['-']), (2, ['-']), (2, ['T']), (2, [':']), (2, [':']), (2, "+00:00".toList)]

def isoFields (a : DateTime) : List Nat :=
  a.date.fields ++ [a.hour, a.minute, a.second]

def isoformat (a : DateTime) : String := String.ofList (columns isoLayout a.isoFields)

/-- `as_timestamp`; `none` is the `OverflowError` of `astimezone`. -/
def asTimestamp (value : DateTime) : Option String := value.astimezone.map isoformat

/-! ## Order -/

theorem wallClock_ofWallClock {t : Int} {utcoffset : Offset} {a : DateTime}
    (made : ofWallClock t utcoffset = some a) : a.wallClock = t := by
  unfold ofWallClock at made
  split at made
  · rename_i range
    obtain rfl := Option.some.inj made
    unfold wallClock wallSeconds
    simp only
    rw [Date.ordinal_fromOrdinal (by omega)]
    omega
  · cases made

theorem wallSeconds_lt_iff {a b : DateTime} :
    a.wallSeconds < b.wallSeconds ↔ a.isoFields < b.isoFields := by
  have date : a.date.ordinal < b.date.ordinal ↔ a.date.fields < b.date.fields :=
    Date.ordinal_lt_iff
  have same : a.date.ordinal = b.date.ordinal ↔ a.date.fields = b.date.fields :=
    Date.ordinal_inj
  unfold isoFields
  rw [append_lt_append_iff (show a.date.fields.length = b.date.fields.length from rfl), ← date,
    ← same]
  simp only [List.cons_lt_cons_iff, List.not_lt_nil, and_false, or_false]
  have := a.hour_lt
  have := a.minute_lt
  have := a.second_lt
  have := b.hour_lt
  have := b.minute_lt
  have := b.second_lt
  unfold wallSeconds
  omega

theorem fits (a : DateTime) : Fits isoLayout a.isoFields := by
  have year := a.year_le
  have month := a.date.month_le
  have day : a.date.day ≤ 31 := by
    have table : ∀ leap, ∀ m ≤ 12, daysInMonth leap m ≤ 31 := by decide
    exact a.date.day_le.trans (table _ _ month)
  have hour := a.hour_lt
  have minute := a.minute_lt
  have second := a.second_lt
  refine .cons ?_ (.cons ?_ (.cons ?_ (.cons ?_ (.cons ?_ (.cons ?_ .nil))))) <;>
    simp only [Nat.reducePow] <;> omega

/-- **UTC datetimes are ordered as texts like their seconds.** -/
theorem isoformat_lt_iff {a b : DateTime} :
    a.isoformat < b.isoformat ↔ a.wallSeconds < b.wallSeconds := by
  rw [wallSeconds_lt_iff, String.lt_iff_toList_lt]
  unfold isoformat
  rw [String.toList_ofList, String.toList_ofList, columns_lt_iff a.fits b.fits]

/-- The second of an instant is that of its text in UTC. -/
theorem wallSeconds_astimezone {a u : DateTime} (utc : a.astimezone = some u) :
    (u.wallSeconds : Int) = RemoteAgent.asTimestamp a.instant + 719163 * 86400 := by
  have same := wallClock_ofWallClock utc
  have fraction := u.microsecond_lt
  unfold wallClock at same
  unfold RemoteAgent.asTimestamp instant wallClock
  push_cast at same ⊢
  omega

theorem instant_plus {a b : DateTime} {seconds : Int} (sum : a.plus seconds = some b) :
    b.instant = plusSeconds a.instant seconds := by
  have same := wallClock_ofWallClock sum
  have zone : b.utcoffset = a.utcoffset := by
    unfold plus ofWallClock at sum
    split at sum
    · rw [← Option.some.inj sum]
    · cases sum
  unfold instant plusSeconds
  rw [same, zone]
  omega

/-- `as_timestamp` answers in the years 1 to 9999 of UTC. -/
theorem isSome_asTimestamp {a : DateTime} : a.asTimestamp.isSome = true ↔
    86400000000 ≤ a.instant + 719163 * 86400000000 ∧
      a.instant + 719163 * 86400000000 < (maxOrdinal + 1) * 86400000000 := by
  unfold asTimestamp astimezone ofWallClock instant maxOrdinal
  rw [Option.isSome_map]
  split
  · simp only [Option.isSome_some, true_iff]
    omega
  · simp only [Option.isSome_none, Bool.false_eq_true, false_iff]
    omega

/-- A sum that has a timestamp is a time that there is. -/
theorem plusSeconds?_instant {a b : DateTime} {seconds : Int} {x : String}
    (sum : a.plus seconds = some b) (text : b.asTimestamp = some x) :
    plusSeconds? a.instant seconds = some (plusSeconds a.instant seconds) := by
  obtain ⟨start, stop⟩ := isSome_asTimestamp.mp (by rw [text]; rfl)
  rw [instant_plus sum] at start stop
  unfold maxOrdinal at stop
  exact if_pos (by omega)

/-- **Timestamps are ordered as texts like the seconds of the instants.** -/
theorem asTimestamp_le_iff {a b : DateTime} {x y : String} (left : a.asTimestamp = some x)
    (right : b.asTimestamp = some y) :
    x ≤ y ↔ RemoteAgent.asTimestamp a.instant ≤ RemoteAgent.asTimestamp b.instant := by
  obtain ⟨u, utc, rfl⟩ := Option.map_eq_some_iff.mp left
  obtain ⟨v, utc', rfl⟩ := Option.map_eq_some_iff.mp right
  have seconds := wallSeconds_astimezone utc
  have seconds' := wallSeconds_astimezone utc'
  rw [← not_lt, isoformat_lt_iff]
  omega

end DateTime

/-- The text of a second. -/
def Shows (x : String) (second : Int) : Prop :=
  ∃ a : DateTime, a.asTimestamp = some x ∧ asTimestamp a.instant = second

theorem Shows.le_iff {x y : String} {k l : Int} (left : Shows x k) (right : Shows y l) :
    x ≤ y ↔ k ≤ l := by
  obtain ⟨a, text, rfl⟩ := left
  obtain ⟨b, text', rfl⟩ := right
  exact DateTime.asTimestamp_le_iff text text'

theorem DateTime.shows {a : DateTime} {x : String} (text : a.asTimestamp = some x) :
    Shows x (RemoteAgent.asTimestamp a.instant) := ⟨a, text, rfl⟩

/-! ## The tables with their texts -/

/-- A row of `enrollment_tokens`, its times as texts. -/
structure TokenRecord where
  tokenHash : String
  connectorId : String
  capabilityProfile : String
  displayLabel : String
  expiresAt : String
  consumedAt : Option String

/-- A row of `relay_challenges`, its times as texts. -/
structure ChallengeRecord where
  challengeId : String
  challengeHash : String
  expiresAt : String
  consumedAt : Option String

/-- A row of `live_instances`, its times as texts. -/
structure InstanceRecord where
  instanceId : String
  connectorId : String
  connectionGeneration : Nat
  contextEpoch : Json
  state : InstanceState
  connectedAt : String
  lastHeartbeatAt : String
  disconnectedAt : Option String

structure StoredTables where
  tokens : Table TokenRecord.tokenHash
  challenges : Table ChallengeRecord.challengeId
  instances : Table InstanceRecord.instanceId

namespace StoredTables

def empty : StoredTables := ⟨Table.empty, Table.empty, Table.empty⟩

/-- `issue_enrollment_token` for a fresh raw token; `none` is an exception. -/
def issueEnrollmentToken (env : Env) (rs : StoredTables) (rawToken : String)
    (connectorId capabilityProfile displayLabel : Json) (expiresInSeconds : Int)
    (current : DateTime) : Option StoredTables := do
  let expires ← current.plus expiresInSeconds
  let expiresAt ← expires.asTimestamp
  let _createdAt ← current.asTimestamp
  let connectorId ← env.textColumn connectorId
  let capabilityProfile ← env.textColumn capabilityProfile
  let displayLabel ← env.textColumn displayLabel
  let tokens ← rs.tokens.insert? {
    tokenHash := env.sha256 rawToken
    connectorId := connectorId
    capabilityProfile := capabilityProfile
    displayLabel := displayLabel
    expiresAt := expiresAt
    consumedAt := none }
  return { rs with tokens := tokens }

inductive TokenAnswer where
  | invalid | connectorMismatch | consumed | expired
  | accepted (row : TokenRecord)

theorem token_key (consumedAt : Option String) (r : TokenRecord) :
    { r with consumedAt := consumedAt }.tokenHash = r.tokenHash := rfl

/-- `consume_enrollment_token_detailed`; `none` is an exception. -/
def consumeEnrollmentToken (env : Env) (rs : StoredTables) (rawToken : Json) (connectorId : String)
    (now : DateTime) : Option (StoredTables × TokenAnswer) := do
  let tokenHash := env.sha256 (env.text rawToken)
  let current ← now.asTimestamp
  match rs.tokens.find? tokenHash with
  | none => return (rs, .invalid)
  | some row =>
      if row.connectorId ≠ connectorId then return (rs, .connectorMismatch)
      else if row.consumedAt.isSome then return (rs, .consumed)
      else if row.expiresAt ≤ current then return (rs, .expired)
      else
        let tokens := rs.tokens.updateWhere
          (fun r => decide (r.tokenHash = tokenHash) && r.consumedAt.isNone)
          (fun r => { r with consumedAt := some current }) (token_key _)
        return ({ rs with tokens := tokens }, .accepted row)

/-- `create_challenge` for a fresh uuid and a fresh token; `none` is an exception. -/
def createChallenge (env : Env) (rs : StoredTables) (challenge : Store.Challenge)
    (expiresInSeconds : Int) (current : DateTime) : Option StoredTables := do
  let expires ← current.plus expiresInSeconds
  let expiresAt ← expires.asTimestamp
  let _createdAt ← current.asTimestamp
  let challenges ← rs.challenges.insert? {
    challengeId := challenge.challengeId
    challengeHash := env.sha256 challenge.challenge
    expiresAt := expiresAt
    consumedAt := none }
  return { rs with challenges := challenges }

theorem challenge_key (consumedAt : Option String) (r : ChallengeRecord) :
    { r with consumedAt := consumedAt }.challengeId = r.challengeId := rfl

/-- `consume_challenge`, and its answer; `none` is an exception. -/
def consumeChallenge (env : Env) (rs : StoredTables) (challengeId challenge : Json) (now : DateTime) :
    Option (StoredTables × Bool) := do
  let current ← now.asTimestamp
  match rs.challenges.find? (env.text challengeId) with
  | none => return (rs, false)
  | some row =>
      if row.consumedAt.isSome || decide (row.expiresAt ≤ current) ||
          decide (row.challengeHash ≠ env.sha256 (env.text challenge)) then return (rs, false)
      else
        let challenges := rs.challenges.updateWhere
          (fun r => decide (r.challengeId = env.text challengeId) && r.consumedAt.isNone)
          (fun r => { r with consumedAt := some current }) (challenge_key _)
        return ({ rs with challenges := challenges }, true)

/-- What the sweep writes. -/
def sweptRecord (r : InstanceRecord) : InstanceRecord :=
  { r with state := .offline, disconnectedAt := r.disconnectedAt.or (some r.lastHeartbeatAt) }

theorem swept_key (r : InstanceRecord) : (sweptRecord r).instanceId = r.instanceId := rfl

/-- `mark_stale_instances`; `none` is an exception. -/
def markStaleInstances (rs : StoredTables) (staleBefore : DateTime) : Option StoredTables := do
  let cutoff ← staleBefore.asTimestamp
  let instances := rs.instances.updateWhere
    (fun r => decide (r.state = .online) && decide (r.lastHeartbeatAt ≤ cutoff))
    sweptRecord swept_key
  return { rs with instances := instances }

/-! ## The tables of the model and their texts -/

/-- A column that may be empty. -/
def ShowsOption : Option Int → Option String → Prop
  | none, none => True
  | some second, some x => Shows x second
  | _, _ => False

structure TokenShows (r : TokenRow) (x : TokenRecord) : Prop where
  tokenHash : x.tokenHash = r.tokenHash
  connectorId : x.connectorId = r.connectorId
  capabilityProfile : x.capabilityProfile = r.capabilityProfile
  displayLabel : x.displayLabel = r.displayLabel
  expiresAt : Shows x.expiresAt r.expiresAt
  consumedAt : ShowsOption r.consumedAt x.consumedAt

structure ChallengeShows (r : ChallengeRow) (x : ChallengeRecord) : Prop where
  challengeId : x.challengeId = r.challengeId
  challengeHash : x.challengeHash = r.challengeHash
  expiresAt : Shows x.expiresAt r.expiresAt
  consumedAt : ShowsOption r.consumedAt x.consumedAt

structure InstanceShows (r : InstanceRow) (x : InstanceRecord) : Prop where
  instanceId : x.instanceId = r.instanceId
  connectorId : x.connectorId = r.connectorId
  connectionGeneration : x.connectionGeneration = r.connectionGeneration
  contextEpoch : x.contextEpoch = r.contextEpoch
  state : x.state = r.state
  connectedAt : Shows x.connectedAt r.connectedAt
  lastHeartbeatAt : Shows x.lastHeartbeatAt r.lastHeartbeatAt
  disconnectedAt : ShowsOption r.disconnectedAt x.disconnectedAt

/-- The tables of the model, with their times as texts. -/
structure Represents (s : Store) (rs : StoredTables) : Prop where
  tokens : Table.Related TokenShows s.tokens rs.tokens
  challenges : Table.Related ChallengeShows s.challenges rs.challenges
  instances : Table.Related InstanceShows s.instances rs.instances

inductive AnswerShows : Store.TokenStatus → TokenAnswer → Prop
  | invalid : AnswerShows .invalid .invalid
  | connectorMismatch : AnswerShows .connectorMismatch .connectorMismatch
  | consumed : AnswerShows .consumed .consumed
  | expired : AnswerShows .expired .expired
  | accepted {r : TokenRow} {x : TokenRecord} (row : TokenShows r x) :
      AnswerShows (.accepted r) (.accepted x)

theorem ShowsOption.isSome {k : Option Int} {x : Option String} (shows_ : ShowsOption k x) :
    x.isSome = k.isSome := by
  cases k <;> cases x <;> first | rfl | exact shows_.elim

theorem ShowsOption.isNone {k : Option Int} {x : Option String} (shows_ : ShowsOption k x) :
    x.isNone = k.isNone := by
  cases k <;> cases x <;> first | rfl | exact shows_.elim

/-- `COALESCE`, with a column that is never empty. -/
theorem ShowsOption.or {k : Option Int} {x : Option String} {l : Int} {y : String}
    (shows_ : ShowsOption k x) (fallback : Shows y l) :
    ShowsOption (k.or (some l)) (x.or (some y)) := by
  cases k <;> cases x
  · exact fallback
  · exact shows_.elim
  · exact shows_.elim
  · exact shows_

variable {env : Env} {s : Store} {rs : StoredTables}

theorem Represents.issueEnrollmentToken (represents : Represents s rs) {rawToken : String}
    {connectorId capabilityProfile displayLabel : Json} {expiresInSeconds : Int}
    {current expires : DateTime} {x y : String} (sum : current.plus expiresInSeconds = some expires)
    (expiresText : expires.asTimestamp = some x) (currentText : current.asTimestamp = some y) :
    (s.issueEnrollmentToken env rawToken connectorId capabilityProfile displayLabel
        expiresInSeconds current.instant = none ∧
      rs.issueEnrollmentToken env rawToken connectorId capabilityProfile displayLabel
        expiresInSeconds current = none) ∨
    ∃ s' rs', s.issueEnrollmentToken env rawToken connectorId capabilityProfile displayLabel
        expiresInSeconds current.instant = some s' ∧
      rs.issueEnrollmentToken env rawToken connectorId capabilityProfile displayLabel
        expiresInSeconds current = some rs' ∧ Represents s' rs' := by
  unfold Store.issueEnrollmentToken StoredTables.issueEnrollmentToken
  simp only [sum, expiresText, currentText, DateTime.plusSeconds?_instant sum expiresText,
    Option.bind_eq_bind, Option.bind_some]
  cases env.textColumn connectorId with
  | none => exact Or.inl ⟨rfl, rfl⟩
  | some connectorId =>
  cases env.textColumn capabilityProfile with
  | none => exact Or.inl ⟨rfl, rfl⟩
  | some capabilityProfile =>
  cases env.textColumn displayLabel with
  | none => exact Or.inl ⟨rfl, rfl⟩
  | some displayLabel =>
      have shown : Shows x (asTimestamp (plusSeconds current.instant expiresInSeconds)) := by
        rw [← DateTime.instant_plus sum]
        exact DateTime.shows expiresText
      rcases represents.tokens.insert? (fun r x shows_ => shows_.tokenHash)
        (⟨rfl, rfl, rfl, rfl, shown, trivial⟩ : TokenShows
          ⟨env.sha256 rawToken, connectorId, capabilityProfile, displayLabel,
            asTimestamp (plusSeconds current.instant expiresInSeconds), none⟩
          ⟨env.sha256 rawToken, connectorId, capabilityProfile, displayLabel, x, none⟩) with
        ⟨taken, taken'⟩ | ⟨u, u', inserted, inserted', related⟩
      · left
        simp only [Option.bind_some, taken, taken', Option.bind_none, and_self]
      · right
        refine ⟨{ s with tokens := u }, { rs with tokens := u' }, ?_, ?_,
          ⟨related, represents.challenges, represents.instances⟩⟩
        · simp only [Option.bind_some, inserted, Option.pure_def]
        · simp only [Option.bind_some, inserted', Option.pure_def]

/-- **The comparison of texts accepts and refuses tokens as the model does.** -/
theorem Represents.consumeEnrollmentToken (represents : Represents s rs) {rawToken : Json}
    {connectorId : String} {now : DateTime} {current : String}
    (text : now.asTimestamp = some current) :
    ∃ rs' answer, rs.consumeEnrollmentToken env rawToken connectorId now = some (rs', answer) ∧
      Represents (s.consumeEnrollmentToken env rawToken connectorId now.instant).1 rs' ∧
      AnswerShows (s.consumeEnrollmentToken env rawToken connectorId now.instant).2 answer := by
  have shown := DateTime.shows text
  unfold StoredTables.consumeEnrollmentToken Store.consumeEnrollmentToken
  simp only [text, Option.bind_eq_bind, Option.bind_some]
  rcases represents.tokens.find?_cases (fun r x shows_ => shows_.tokenHash)
    (env.sha256 (env.text rawToken)) with ⟨absent, absent'⟩ | ⟨r, x, found, found', row⟩
  · simp only [absent, absent', Option.pure_def]
    exact ⟨rs, .invalid, rfl, represents, .invalid⟩
  · simp only [found, found', row.connectorId, row.consumedAt.isSome, row.expiresAt.le_iff shown,
      Option.pure_def]
    by_cases other : r.connectorId ≠ connectorId
    · rw [if_pos other, if_pos other]
      exact ⟨rs, .connectorMismatch, rfl, represents, .connectorMismatch⟩
    rw [if_neg other, if_neg other]
    by_cases used : r.consumedAt.isSome = true
    · rw [if_pos used, if_pos used]
      exact ⟨rs, .consumed, rfl, represents, .consumed⟩
    rw [if_neg used, if_neg used]
    by_cases late : r.expiresAt ≤ asTimestamp now.instant
    · rw [if_pos late, if_pos late]
      exact ⟨rs, .expired, rfl, represents, .expired⟩
    rw [if_neg late, if_neg late]
    refine ⟨_, _, rfl, ⟨?_, represents.challenges, represents.instances⟩, .accepted row⟩
    refine represents.tokens.updateWhere (Store.TokenRow.consume_key _) (token_key _)
      fun r x row => ?_
    simp only [row.tokenHash, row.consumedAt.isNone]
    split
    · exact ⟨rfl, row.connectorId, row.capabilityProfile, row.displayLabel, row.expiresAt, shown⟩
    · exact row

theorem Represents.createChallenge (represents : Represents s rs) {challenge : Store.Challenge}
    {current expires : DateTime} {x y : String}
    (sum : current.plus Store.challengeSeconds = some expires)
    (expiresText : expires.asTimestamp = some x) (currentText : current.asTimestamp = some y) :
    (s.createChallenge env challenge current.instant = none ∧
      rs.createChallenge env challenge Store.challengeSeconds current = none) ∨
    ∃ s' rs', s.createChallenge env challenge current.instant = some s' ∧
      rs.createChallenge env challenge Store.challengeSeconds current = some rs' ∧
      Represents s' rs' := by
  have shown : Shows x (asTimestamp (plusSeconds current.instant Store.challengeSeconds)) := by
    rw [← DateTime.instant_plus sum]
    exact DateTime.shows expiresText
  unfold Store.createChallenge StoredTables.createChallenge
  simp only [sum, expiresText, currentText, Option.bind_eq_bind, Option.bind_some]
  rcases represents.challenges.insert? (fun r x shows_ => shows_.challengeId)
    (⟨rfl, rfl, shown, trivial⟩ : ChallengeShows
      ⟨challenge.challengeId, env.sha256 challenge.challenge,
        asTimestamp (plusSeconds current.instant Store.challengeSeconds), none⟩
      ⟨challenge.challengeId, env.sha256 challenge.challenge, x, none⟩) with
    ⟨taken, taken'⟩ | ⟨u, u', inserted, inserted', related⟩
  · left
    simp only [taken, taken', Option.bind_none, and_self]
  · right
    refine ⟨{ s with challenges := u }, { rs with challenges := u' }, ?_, ?_,
      ⟨represents.tokens, related, represents.instances⟩⟩
    · simp only [inserted, Option.bind_some, Option.pure_def]
    · simp only [inserted', Option.bind_some, Option.pure_def]

/-- **The comparison of texts accepts and refuses challenges as the model does.** -/
theorem Represents.consumeChallenge (represents : Represents s rs) {challengeId challenge : Json}
    {now : DateTime} {current : String} (text : now.asTimestamp = some current) :
    (s.consumeChallenge env challengeId challenge now.instant = none ∧
      rs.consumeChallenge env challengeId challenge now = some (rs, false)) ∨
    ∃ s' rs', s.consumeChallenge env challengeId challenge now.instant = some s' ∧
      rs.consumeChallenge env challengeId challenge now = some (rs', true) ∧
      Represents s' rs' := by
  have shown := DateTime.shows text
  unfold StoredTables.consumeChallenge Store.consumeChallenge
  simp only [text, Option.bind_eq_bind, Option.bind_some]
  rcases represents.challenges.find?_cases (fun r x shows_ => shows_.challengeId)
    (env.text challengeId) with ⟨absent, absent'⟩ | ⟨r, x, found, found', row⟩
  · left
    simp only [absent, absent', Option.pure_def, and_self]
  · simp only [found, found', row.challengeHash, row.consumedAt.isSome,
      row.expiresAt.le_iff shown, Option.pure_def]
    split
    · exact Or.inl ⟨rfl, rfl⟩
    · right
      refine ⟨_, _, rfl, rfl, ⟨represents.tokens, ?_, represents.instances⟩⟩
      refine represents.challenges.updateWhere (Store.ChallengeRow.consume_key _) (challenge_key _)
        fun r x row => ?_
      simp only [row.challengeId, row.consumedAt.isNone]
      split
      · exact ⟨rfl, row.challengeHash, row.expiresAt, shown⟩
      · exact row

/-- **The sweep by texts closes what the sweep of the model closes.** -/
theorem Represents.markStaleInstances (represents : Represents s rs) {staleBefore : DateTime}
    {cutoff : String} (text : staleBefore.asTimestamp = some cutoff) :
    ∃ rs', rs.markStaleInstances staleBefore = some rs' ∧
      Represents (s.markStaleInstances staleBefore.instant) rs' := by
  have shown := DateTime.shows text
  unfold StoredTables.markStaleInstances Store.markStaleInstances
  simp only [text, Option.bind_eq_bind, Option.bind_some, Option.pure_def]
  refine ⟨_, rfl, ⟨represents.tokens, represents.challenges, ?_⟩⟩
  refine represents.instances.updateWhere (Store.close_key _) swept_key fun r x row => ?_
  simp only [row.state, row.lastHeartbeatAt.le_iff shown]
  split
  · exact { row with state := rfl, disconnectedAt := row.disconnectedAt.or row.lastHeartbeatAt }
  · exact row

/-! ## Runs -/

/-- A call that writes a time. -/
inductive Op where
  | issueToken (rawToken : String) (connectorId capabilityProfile displayLabel : Json)
      (expiresInSeconds : Int) (current : DateTime)
  | consumeToken (rawToken : Json) (connectorId : String) (now : DateTime)
  | createChallenge (challenge : Store.Challenge) (expiresInSeconds : Int) (current : DateTime)
  | consumeChallenge (challengeId challenge : Json) (now : DateTime)
  | markStaleInstances (staleBefore : DateTime)

def apply (env : Env) (rs : StoredTables) : Op → Option StoredTables
  | .issueToken rawToken connectorId capabilityProfile displayLabel expiresInSeconds current =>
      rs.issueEnrollmentToken env rawToken connectorId capabilityProfile displayLabel
        expiresInSeconds current
  | .consumeToken rawToken connectorId now =>
      (rs.consumeEnrollmentToken env rawToken connectorId now).map Prod.fst
  | .createChallenge challenge expiresInSeconds current =>
      rs.createChallenge env challenge expiresInSeconds current
  | .consumeChallenge challengeId challenge now =>
      (rs.consumeChallenge env challengeId challenge now).map Prod.fst
  | .markStaleInstances staleBefore => rs.markStaleInstances staleBefore

def machine (env : Env) : Machine StoredTables Op := ⟨empty, apply env⟩

/-- A token of this hash and this text of its expiry is issued by the call. -/
def IssuesToken (env : Env) (op : Op) (tokenHash expiresAt : String) : Prop :=
  ∃ rawToken connectorId capabilityProfile displayLabel expiresInSeconds current expires,
    op = .issueToken rawToken connectorId capabilityProfile displayLabel expiresInSeconds current ∧
    env.sha256 rawToken = tokenHash ∧ current.plus expiresInSeconds = some expires ∧
    expires.asTimestamp = some expiresAt

/-- A challenge of this id and this text of its expiry is created by the call. -/
def CreatesChallenge (op : Op) (challengeId expiresAt : String) : Prop :=
  ∃ challenge expiresInSeconds current expires,
    op = .createChallenge challenge expiresInSeconds current ∧
    challenge.challengeId = challengeId ∧ current.plus expiresInSeconds = some expires ∧
    expires.asTimestamp = some expiresAt

theorem consumeEnrollmentToken_some {rawToken : Json} {connectorId : String} {now : DateTime}
    {rs' : StoredTables} {answer : TokenAnswer}
    (done : rs.consumeEnrollmentToken env rawToken connectorId now = some (rs', answer)) :
    rs'.challenges = rs.challenges ∧ (rs'.tokens = rs.tokens ∨ ∃ current,
      rs'.tokens = rs.tokens.updateWhere
        (fun r => decide (r.tokenHash = env.sha256 (env.text rawToken)) && r.consumedAt.isNone)
        (fun r => { r with consumedAt := some current }) (token_key _)) := by
  unfold consumeEnrollmentToken at done
  cases text : now.asTimestamp with
  | none => simp only [text, Option.bind_eq_bind, Option.bind_none, reduceCtorEq] at done
  | some current =>
      simp only [text, Option.bind_eq_bind, Option.bind_some, Option.pure_def] at done
      split at done
      · obtain ⟨rfl, _⟩ := Prod.mk.inj (Option.some.inj done)
        exact ⟨rfl, Or.inl rfl⟩
      · split_ifs at done
        · obtain ⟨rfl, _⟩ := Prod.mk.inj (Option.some.inj done)
          exact ⟨rfl, Or.inl rfl⟩
        · obtain ⟨rfl, _⟩ := Prod.mk.inj (Option.some.inj done)
          exact ⟨rfl, Or.inl rfl⟩
        · obtain ⟨rfl, _⟩ := Prod.mk.inj (Option.some.inj done)
          exact ⟨rfl, Or.inl rfl⟩
        · obtain ⟨rfl, _⟩ := Prod.mk.inj (Option.some.inj done)
          exact ⟨rfl, Or.inr ⟨current, rfl⟩⟩

theorem consumeEnrollmentToken_accepted {rawToken : Json} {connectorId : String} {now : DateTime}
    {rs' : StoredTables} {row : TokenRecord}
    (done : rs.consumeEnrollmentToken env rawToken connectorId now = some (rs', .accepted row)) :
    ∃ current, now.asTimestamp = some current ∧
      rs.tokens.find? (env.sha256 (env.text rawToken)) = some row ∧ ¬ row.expiresAt ≤ current := by
  unfold consumeEnrollmentToken at done
  cases text : now.asTimestamp with
  | none => simp only [text, Option.bind_eq_bind, Option.bind_none, reduceCtorEq] at done
  | some current =>
      simp only [text, Option.bind_eq_bind, Option.bind_some, Option.pure_def] at done
      split at done
      · cases done
      · rename_i found
        split_ifs at done with other used late
        · cases done
        · cases done
        · cases done
        · cases done
          exact ⟨current, rfl, found, late⟩

theorem consumeChallenge_some {challengeId challenge : Json} {now : DateTime} {rs' : StoredTables}
    {answer : Bool}
    (done : rs.consumeChallenge env challengeId challenge now = some (rs', answer)) :
    rs'.tokens = rs.tokens ∧ (rs'.challenges = rs.challenges ∨ ∃ current,
      rs'.challenges = rs.challenges.updateWhere
        (fun r => decide (r.challengeId = env.text challengeId) && r.consumedAt.isNone)
        (fun r => { r with consumedAt := some current }) (challenge_key _)) := by
  unfold consumeChallenge at done
  cases text : now.asTimestamp with
  | none => simp only [text, Option.bind_eq_bind, Option.bind_none, reduceCtorEq] at done
  | some current =>
      simp only [text, Option.bind_eq_bind, Option.bind_some, Option.pure_def] at done
      split at done
      · obtain ⟨rfl, _⟩ := Prod.mk.inj (Option.some.inj done)
        exact ⟨rfl, Or.inl rfl⟩
      · split_ifs at done
        · obtain ⟨rfl, _⟩ := Prod.mk.inj (Option.some.inj done)
          exact ⟨rfl, Or.inl rfl⟩
        · obtain ⟨rfl, _⟩ := Prod.mk.inj (Option.some.inj done)
          exact ⟨rfl, Or.inr ⟨current, rfl⟩⟩

theorem consumeChallenge_accepted {challengeId challenge : Json} {now : DateTime} {rs' : StoredTables}
    (done : rs.consumeChallenge env challengeId challenge now = some (rs', true)) :
    ∃ current row, now.asTimestamp = some current ∧
      rs.challenges.find? (env.text challengeId) = some row ∧ ¬ row.expiresAt ≤ current := by
  unfold consumeChallenge at done
  cases text : now.asTimestamp with
  | none => simp only [text, Option.bind_eq_bind, Option.bind_none, reduceCtorEq] at done
  | some current =>
      simp only [text, Option.bind_eq_bind, Option.bind_some, Option.pure_def] at done
      split at done
      · cases done
      · rename_i row found
        split_ifs at done with refused
        · cases done
        · refine ⟨current, row, rfl, found, fun late => refused ?_⟩
          rw [decide_eq_true late, Bool.or_true, Bool.true_or]

theorem issueEnrollmentToken_some {rawToken : String}
    {connectorId capabilityProfile displayLabel : Json} {expiresInSeconds : Int}
    {current : DateTime} {rs' : StoredTables}
    (done : rs.issueEnrollmentToken env rawToken connectorId capabilityProfile displayLabel
      expiresInSeconds current = some rs') :
    rs'.challenges = rs.challenges ∧ ∃ expires row, current.plus expiresInSeconds = some expires ∧
      expires.asTimestamp = some row.expiresAt ∧ row.tokenHash = env.sha256 rawToken ∧
      rs.tokens.insert? row = some rs'.tokens := by
  unfold issueEnrollmentToken at done
  obtain ⟨expires, sum, done⟩ := Option.bind_eq_some_iff.mp done
  obtain ⟨expiresAt, text, done⟩ := Option.bind_eq_some_iff.mp done
  obtain ⟨_, _, done⟩ := Option.bind_eq_some_iff.mp done
  obtain ⟨_, _, done⟩ := Option.bind_eq_some_iff.mp done
  obtain ⟨_, _, done⟩ := Option.bind_eq_some_iff.mp done
  obtain ⟨_, _, done⟩ := Option.bind_eq_some_iff.mp done
  obtain ⟨tokens, inserted, done⟩ := Option.bind_eq_some_iff.mp done
  obtain rfl := Option.some.inj done
  exact ⟨rfl, expires, _, sum, text, rfl, inserted⟩

theorem createChallenge_some {challenge : Store.Challenge} {expiresInSeconds : Int}
    {current : DateTime} {rs' : StoredTables}
    (done : rs.createChallenge env challenge expiresInSeconds current = some rs') :
    rs'.tokens = rs.tokens ∧ ∃ expires row, current.plus expiresInSeconds = some expires ∧
      expires.asTimestamp = some row.expiresAt ∧ row.challengeId = challenge.challengeId ∧
      rs.challenges.insert? row = some rs'.challenges := by
  unfold createChallenge at done
  obtain ⟨expires, sum, done⟩ := Option.bind_eq_some_iff.mp done
  obtain ⟨expiresAt, text, done⟩ := Option.bind_eq_some_iff.mp done
  obtain ⟨_, _, done⟩ := Option.bind_eq_some_iff.mp done
  obtain ⟨challenges, inserted, done⟩ := Option.bind_eq_some_iff.mp done
  obtain rfl := Option.some.inj done
  exact ⟨rfl, expires, _, sum, text, rfl, inserted⟩

theorem markStaleInstances_some {staleBefore : DateTime} {rs' : StoredTables}
    (done : rs.markStaleInstances staleBefore = some rs') :
    rs'.tokens = rs.tokens ∧ rs'.challenges = rs.challenges ∧
      ∃ cutoff, staleBefore.asTimestamp = some cutoff ∧ rs'.instances = rs.instances.updateWhere
        (fun r => decide (r.state = .online) && decide (r.lastHeartbeatAt ≤ cutoff))
        sweptRecord swept_key := by
  unfold markStaleInstances at done
  obtain ⟨cutoff, text, done⟩ := Option.bind_eq_some_iff.mp done
  obtain rfl := Option.some.inj done
  exact ⟨rfl, rfl, cutoff, text, rfl⟩

/-- A token with this text of its expiry is in the table. -/
def HasToken (rs : StoredTables) (x : String × String) : Prop :=
  ∃ row, rs.tokens.find? x.1 = some row ∧ row.expiresAt = x.2

/-- A challenge with this text of its expiry is in the table. -/
def HasChallenge (rs : StoredTables) (x : String × String) : Prop :=
  ∃ row, rs.challenges.find? x.1 = some row ∧ row.expiresAt = x.2

theorem HasToken.of_same {rs' : StoredTables} {x : String × String} (same : rs'.tokens = rs.tokens)
    (has : HasToken rs' x) : HasToken rs x := by
  unfold HasToken at has
  rwa [same] at has

theorem HasChallenge.of_same {rs' : StoredTables} {x : String × String}
    (same : rs'.challenges = rs.challenges) (has : HasChallenge rs' x) : HasChallenge rs x := by
  unfold HasChallenge at has
  rwa [same] at has

/-- A call issues the token, or it was there. -/
theorem apply_token {op : Op} {rs' : StoredTables} {x : String × String}
    (applied : apply env rs op = some rs') (has : HasToken rs' x) :
    HasToken rs x ∨ IssuesToken env op x.1 x.2 := by
  cases op with
  | issueToken rawToken connectorId capabilityProfile displayLabel expiresInSeconds current =>
      obtain ⟨_, expires, row, sum, text, hash, inserted⟩ := issueEnrollmentToken_some applied
      obtain ⟨row', found, is⟩ := has
      rw [(Table.find?_insert? inserted).2] at found
      split at found
      · rename_i same
        obtain rfl := Option.some.inj found
        exact Or.inr ⟨_, _, _, _, _, _, expires, rfl, hash.symm.trans same, sum, is ▸ text⟩
      · exact Or.inl ⟨row', found, is⟩
  | consumeToken rawToken connectorId now =>
      obtain ⟨⟨rs'', answer⟩, done, rfl⟩ := Option.map_eq_some_iff.mp applied
      rcases (consumeEnrollmentToken_some done).2 with same | ⟨current, used⟩
      · exact Or.inl (has.of_same same)
      · obtain ⟨row, found, is⟩ := has
        rw [used, Table.find?_updateWhere, Option.map_eq_some_iff] at found
        obtain ⟨row₀, was, rfl⟩ := found
        refine Or.inl ⟨row₀, was, is ▸ ?_⟩
        split <;> rfl
  | createChallenge challenge expiresInSeconds current =>
      exact Or.inl (has.of_same (createChallenge_some applied).1)
  | consumeChallenge challengeId challenge now =>
      obtain ⟨⟨rs'', answer⟩, done, rfl⟩ := Option.map_eq_some_iff.mp applied
      exact Or.inl (has.of_same (consumeChallenge_some done).1)
  | markStaleInstances staleBefore =>
      exact Or.inl (has.of_same (markStaleInstances_some applied).1)

/-- A call creates the challenge, or it was there. -/
theorem apply_challenge {op : Op} {rs' : StoredTables} {x : String × String}
    (applied : apply env rs op = some rs') (has : HasChallenge rs' x) :
    HasChallenge rs x ∨ CreatesChallenge op x.1 x.2 := by
  cases op with
  | issueToken rawToken connectorId capabilityProfile displayLabel expiresInSeconds current =>
      exact Or.inl (has.of_same (issueEnrollmentToken_some applied).1)
  | consumeToken rawToken connectorId now =>
      obtain ⟨⟨rs'', answer⟩, done, rfl⟩ := Option.map_eq_some_iff.mp applied
      exact Or.inl (has.of_same (consumeEnrollmentToken_some done).1)
  | createChallenge challenge expiresInSeconds current =>
      obtain ⟨_, expires, row, sum, text, id, inserted⟩ := createChallenge_some applied
      obtain ⟨row', found, is⟩ := has
      rw [(Table.find?_insert? inserted).2] at found
      split at found
      · rename_i same
        obtain rfl := Option.some.inj found
        exact Or.inr ⟨_, _, _, expires, rfl, id.symm.trans same, sum, is ▸ text⟩
      · exact Or.inl ⟨row', found, is⟩
  | consumeChallenge challengeId challenge now =>
      obtain ⟨⟨rs'', answer⟩, done, rfl⟩ := Option.map_eq_some_iff.mp applied
      rcases (consumeChallenge_some done).2 with same | ⟨current, used⟩
      · exact Or.inl (has.of_same same)
      · obtain ⟨row, found, is⟩ := has
        rw [used, Table.find?_updateWhere, Option.map_eq_some_iff] at found
        obtain ⟨row₀, was, rfl⟩ := found
        refine Or.inl ⟨row₀, was, is ▸ ?_⟩
        split <;> rfl
  | markStaleInstances staleBefore =>
      exact Or.inl (has.of_same (markStaleInstances_some applied).2.1)

variable {past : List (Machine.Moment StoredTables Op)}

theorem token_issued (run : (machine env).Run past rs) {x : String × String}
    (has : HasToken rs x) : ∃ m ∈ past, IssuesToken env m.event x.1 x.2 := by
  have empty : ∀ x, ¬ HasToken (machine env).init x := by
    rintro x ⟨row, found, _⟩
    cases found
  obtain ⟨_, m, _, rfl, issues⟩ := run.origin (Q := fun _ m x => IssuesToken env m.event x.1 x.2)
    empty (fun _ applied has => apply_token applied has) has
  exact ⟨m, List.mem_append_right _ List.mem_cons_self, issues⟩

theorem challenge_created (run : (machine env).Run past rs) {x : String × String}
    (has : HasChallenge rs x) : ∃ m ∈ past, CreatesChallenge m.event x.1 x.2 := by
  have empty : ∀ x, ¬ HasChallenge (machine env).init x := by
    rintro x ⟨row, found, _⟩
    cases found
  obtain ⟨_, m, _, rfl, creates⟩ := run.origin (Q := fun _ m x => CreatesChallenge m.event x.1 x.2)
    empty (fun _ applied has => apply_challenge applied has) has
  exact ⟨m, List.mem_append_right _ List.mem_cons_self, creates⟩

/-- A text that is not in the past is of a time to come. -/
theorem before_expiry {now current expires : DateTime} {seconds : Int} {x y : String}
    (text : now.asTimestamp = some x) (sum : current.plus seconds = some expires)
    (expiresText : expires.asTimestamp = some y) (fresh : ¬ y ≤ x) :
    now.instant < plusSeconds current.instant seconds := by
  rw [DateTime.asTimestamp_le_iff expiresText text] at fresh
  rw [← DateTime.instant_plus sum]
  by_contra late
  exact fresh (asTimestamp_mono (not_lt.mp late))

/-- **A token is accepted only before the instant of its expiry**, in every run. -/
theorem token_accepted_in_time (run : (machine env).Run past rs) {rawToken : Json}
    {connectorId : String} {now : DateTime} {rs' : StoredTables} {row : TokenRecord}
    (done : rs.consumeEnrollmentToken env rawToken connectorId now = some (rs', .accepted row)) :
    ∃ m ∈ past, ∃ issued connectorId capabilityProfile displayLabel seconds current,
      m.event = .issueToken issued connectorId capabilityProfile displayLabel seconds current ∧
      env.sha256 issued = env.sha256 (env.text rawToken) ∧
      now.instant < plusSeconds current.instant seconds := by
  obtain ⟨x, text, found, fresh⟩ := consumeEnrollmentToken_accepted done
  obtain ⟨m, mem, issued, connectorId, capabilityProfile, displayLabel, seconds, current, expires,
    event, hash, sum, expiresText⟩ := token_issued run (x := (_, row.expiresAt)) ⟨row, found, rfl⟩
  exact ⟨m, mem, issued, connectorId, capabilityProfile, displayLabel, seconds, current, event,
    hash, before_expiry text sum expiresText fresh⟩

/-- **A challenge is accepted only before the instant of its expiry**, in every run. -/
theorem challenge_accepted_in_time (run : (machine env).Run past rs) {challengeId challenge : Json}
    {now : DateTime} {rs' : StoredTables}
    (done : rs.consumeChallenge env challengeId challenge now = some (rs', true)) :
    ∃ m ∈ past, ∃ created seconds current, m.event = .createChallenge created seconds current ∧
      created.challengeId = env.text challengeId ∧
      now.instant < plusSeconds current.instant seconds := by
  obtain ⟨x, row, text, found, fresh⟩ := consumeChallenge_accepted done
  obtain ⟨m, mem, created, seconds, current, expires, event, id, sum, expiresText⟩ :=
    challenge_created run (x := (_, row.expiresAt)) ⟨row, found, rfl⟩
  exact ⟨m, mem, created, seconds, current, event, id, before_expiry text sum expiresText fresh⟩

/-- **A sweep closes the online rows whose heartbeat is not after its second**, and no
others. -/
theorem swept_iff {staleBefore heartbeat : DateTime} {rs' : StoredTables}
    (done : rs.markStaleInstances staleBefore = some rs') {r : InstanceRecord}
    (mem : r ∈ rs.instances) (text : heartbeat.asTimestamp = some r.lastHeartbeatAt) :
    rs'.instances.find? r.instanceId = some
      (if r.state = .online ∧ asTimestamp heartbeat.instant ≤ asTimestamp staleBefore.instant
        then sweptRecord r else r) := by
  obtain ⟨_, _, cutoff, cutoffText, instances⟩ := markStaleInstances_some done
  rw [instances, Table.find?_updateWhere, Table.mem_iff_find?.mp mem, Option.map_some]
  simp only [Bool.and_eq_true, decide_eq_true_eq, DateTime.asTimestamp_le_iff text cutoffText]

end StoredTables

/-! ## Timestamps and time -/

/-- **Timestamps are ordered as texts exactly like time**, to the second; no token and no
challenge is accepted at or after the instant of its expiry; and a sweep closes exactly the
online rows whose heartbeat is not after its second. -/
theorem timestamps_order (env : Env) :
    (∀ (a b : DateTime) (x y : String), a.asTimestamp = some x → b.asTimestamp = some y →
      (x ≤ y ↔ a.instant / 1000000 ≤ b.instant / 1000000)) ∧
    (∀ a : DateTime, a.asTimestamp.isSome = true ↔
      86400000000 ≤ a.instant + 719163 * 86400000000 ∧
        a.instant + 719163 * 86400000000 < (DateTime.maxOrdinal + 1) * 86400000000) ∧
    (∀ past rs, (StoredTables.machine env).Run past rs →
      (∀ rawToken connectorId now rs' row,
        rs.consumeEnrollmentToken env rawToken connectorId now = some (rs', .accepted row) →
        ∃ m ∈ past, ∃ issued connectorId capabilityProfile displayLabel seconds current,
          m.event = .issueToken issued connectorId capabilityProfile displayLabel seconds current ∧
          env.sha256 issued = env.sha256 (env.text rawToken) ∧
          now.instant < plusSeconds current.instant seconds) ∧
      (∀ challengeId challenge now rs',
        rs.consumeChallenge env challengeId challenge now = some (rs', true) →
        ∃ m ∈ past, ∃ created seconds current,
          m.event = .createChallenge created seconds current ∧
          created.challengeId = env.text challengeId ∧
          now.instant < plusSeconds current.instant seconds)) ∧
    (∀ (rs rs' : StoredTables) (staleBefore : DateTime), rs.markStaleInstances staleBefore = some rs' →
      ∀ r ∈ rs.instances, ∀ heartbeat : DateTime,
        heartbeat.asTimestamp = some r.lastHeartbeatAt →
        rs'.instances.find? r.instanceId = some
          (if r.state = .online ∧
              heartbeat.instant / 1000000 ≤ staleBefore.instant / 1000000
            then StoredTables.sweptRecord r else r)) := by
  refine ⟨fun a b x y left right => DateTime.asTimestamp_le_iff left right,
    fun a => DateTime.isSome_asTimestamp, fun past rs run => ⟨?_, ?_⟩, ?_⟩
  · exact fun rawToken connectorId now rs' row done => StoredTables.token_accepted_in_time run done
  · exact fun challengeId challenge now rs' done => StoredTables.challenge_accepted_in_time run done
  · exact fun rs rs' staleBefore done r mem heartbeat text => StoredTables.swept_iff done mem text

namespace Sample

/-- The last second of 2023, in UTC. -/
def newYearsEve : DateTime where
  date := Date.fromOrdinal 738885
  hour := 23
  minute := 59
  second := 59
  microsecond := 900000
  utcoffset := Offset.utc
  year_le := by decide
  hour_lt := by decide
  minute_lt := by decide
  second_lt := by decide
  microsecond_lt := by decide

/-- The first second of 2024, on a clock that is two hours ahead. -/
def newYear : DateTime where
  date := Date.fromOrdinal 738886
  hour := 2
  minute := 0
  second := 0
  microsecond := 0
  utcoffset := ⟨7200000000, by decide⟩
  year_le := by decide
  hour_lt := by decide
  minute_lt := by decide
  second_lt := by decide
  microsecond_lt := by decide

/-- A token and a challenge of the last second of 2023. -/
def yearsEnd : List StoredTables.Op :=
  [.issueToken rawToken (.str "pc-1") (.str "full_agent") (.str "PC 1") 600 newYearsEve,
    .createChallenge firstChallenge Store.challengeSeconds newYearsEve]

/-- They are taken in the first second of 2024. -/
def takenNextYear (rs : StoredTables) : Bool :=
  let token := match rs.consumeEnrollmentToken env (.str rawToken) "pc-1" newYear with
    | some (_, .accepted _) => true
    | _ => false
  let challenge := match rs.consumeChallenge env (.str firstChallenge.challengeId)
      (.str firstChallenge.challenge) newYear with
    | some (_, true) => true
    | _ => false
  token && challenge

/-- A row whose last heartbeat was in the last second of 2023. -/
def lastRow : InstanceRecord where
  instanceId := "i-1"
  connectorId := "pc-1"
  connectionGeneration := 0
  contextEpoch := .int 1
  state := .online
  connectedAt := "2023-12-31T23:00:00+00:00"
  lastHeartbeatAt := "2023-12-31T23:59:59+00:00"
  disconnectedAt := none

def lastRows : StoredTables :=
  { StoredTables.empty with instances := Table.empty.insertOrIgnore lastRow }

end Sample

/-- The two instants are 0.1 seconds apart, in two seconds and in two years.  A token and a
challenge of the first are accepted at the second, and a sweep at the first closes a row whose
heartbeat was in its second. -/
theorem timestamps_order_newYear :
    ("2024-01-01T00:00:00+00:00" ≤ "2023-12-31T23:59:59+00:00" ↔
      Sample.newYear.instant / 1000000 ≤ Sample.newYearsEve.instant / 1000000) ∧
    Sample.newYear.instant = Sample.newYearsEve.instant + 100000 ∧
    Sample.newYear.asTimestamp.isSome = true ∧
    (∃ past rs, (StoredTables.machine Sample.env).Run past rs ∧
      (∃ m ∈ past, ∃ issued connectorId capabilityProfile displayLabel seconds current,
        m.event = .issueToken issued connectorId capabilityProfile displayLabel seconds current ∧
        Sample.env.sha256 issued = Sample.env.sha256 Sample.rawToken ∧
        Sample.newYear.instant < plusSeconds current.instant seconds) ∧
      ∃ m ∈ past, ∃ created seconds current,
        m.event = .createChallenge created seconds current ∧
        created.challengeId = Sample.firstChallenge.challengeId ∧
        Sample.newYear.instant < plusSeconds current.instant seconds) ∧
    ∃ rs', Sample.lastRows.markStaleInstances Sample.newYearsEve = some rs' ∧
      rs'.instances.find? "i-1" = some (StoredTables.sweptRecord Sample.lastRow) := by
  obtain ⟨order, written, accepted, swept⟩ := timestamps_order Sample.env
  refine ⟨order Sample.newYear Sample.newYearsEve _ _ (by decide +kernel) (by decide +kernel),
    by decide +kernel, (written _).mpr (by decide +kernel), ?_, ?_⟩
  · have holds : ((StoredTables.machine Sample.env).exec StoredTables.empty
        Sample.yearsEnd).any Sample.takenNextYear = true := by decide +kernel
    obtain ⟨rs, ended, taken⟩ := (Option.any_eq_true _ _).mp holds
    have run := Machine.Run.of_exec (M := StoredTables.machine Sample.env) .init ended
    obtain ⟨token, challenge⟩ := Bool.and_eq_true_iff.mp taken
    refine ⟨_, rs, run, ?_, ?_⟩
    · split at token
      · rename_i rs' row done
        exact (accepted _ rs run).1 _ _ _ _ _ done
      · cases token
    · split at challenge
      · rename_i rs' done
        exact (accepted _ rs run).2 _ _ _ _ done
      · cases challenge
  · have sweeps : (Sample.lastRows.markStaleInstances Sample.newYearsEve).isSome = true := by
      decide +kernel
    obtain ⟨rs', done⟩ := Option.isSome_iff_exists.mp sweeps
    have closed := swept Sample.lastRows rs' Sample.newYearsEve done Sample.lastRow
      List.mem_cons_self Sample.newYearsEve (by decide +kernel)
    rw [if_pos ⟨rfl, le_refl _⟩] at closed
    exact ⟨rs', done, closed⟩

end RemoteAgent
