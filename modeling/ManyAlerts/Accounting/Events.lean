import ManyAlerts.Accounting.Policy

/-!
# Accounting events

The closed event vocabulary of the ledger.  `decode_event` takes a body only if
it is the canonical text of a valid value, so an accepted event is its fields
together with that text; an `AccountingEvent` carries the proof.
-/

namespace ManyAlerts

def eventTag : String := "acct.event.v1"
def maxEventBody : Nat := 16384
def policyRevision : String := "accounting-v1"

inductive ActorKind where
  | receiver
  | fixture
deriving DecidableEq

def ActorKind.text : ActorKind → String
  | .receiver => "receiver"
  | .fixture => "fixture"

inductive LedgerPopulation where
  | unknown
  | syntheticComplete
deriving DecidableEq

def LedgerPopulation.text : LedgerPopulation → String
  | .unknown => "unknown"
  | .syntheticComplete => "synthetic_complete"

structure JournalOrigin where
  journalUuid : String
  journalGeneration : Nat
deriving DecidableEq

structure LifecycleRegistered where
  lifecycle : Lifecycle
  origin : JournalOrigin
deriving DecidableEq

structure NonModelCommitted where
  costId : String
  kind : CostKind
  upperBoundUsdMicros : Int
  validUntilUtc : CivilTime
deriving DecidableEq

structure ReservationCreated where
  origin : JournalOrigin
  admissionId : String
  intentId : String
  intentDigest : String
  attemptId : String
  reservationId : String
  runId : String
  leaseId : String
  kind : AttemptKind
  lifecycleId : Option String
  predecessorId : Option String
  effectsReconciled : Bool
  profile : Profile
  week : Week
  reservationUsdMicros : Int
  liabilityUsdMicros : Int
  validUntilUtc : CivilTime
deriving DecidableEq

/-- The `data` of an event, without the members that have one admitted value. -/
inductive EventData where
  | genesis (population : LedgerPopulation)
  | journalBound (origin : JournalOrigin)
  | profileConfigured (profile : Profile)
  | lifecycleRegistered (data : LifecycleRegistered)
  | nonModelCommitted (data : NonModelCommitted)
  | reservationCreated (data : ReservationCreated)
  | holdSet (holdId : String) (code : LedgerHold)
deriving DecidableEq

structure EventFields where
  ledgerUuid : String
  ledgerGeneration : Nat
  experimentId : String
  sequence : Nat
  previousDigest : String
  eventId : String
  recordedAtUtc : CivilTime
  actorKind : ActorKind
  data : EventData
deriving DecidableEq

/-! ## Text -/

def Profile.json (profile : Profile) : Json :=
  .obj [("model_id", .str profile.modelId), ("auth_id", .str profile.authId),
    ("venue_id", .str profile.venueId)]

def Week.json (week : Week) : Json :=
  .obj [("key", .str week.key), ("start_utc", .str week.startUtc.text),
    ("end_utc", .str week.endUtc.text), ("timezone", .str week.timezone)]

def EventData.eventType : EventData → String
  | .genesis _ => "genesis"
  | .journalBound _ => "journal_bound"
  | .profileConfigured _ => "profile_configured"
  | .lifecycleRegistered _ => "lifecycle_registered"
  | .nonModelCommitted _ => "non_model_committed"
  | .reservationCreated _ => "reservation_created"
  | .holdSet _ _ => "hold_set"

def EventData.json : EventData → Json
  | .genesis population =>
      .obj [("policy_revision", .str policyRevision), ("population", .str population.text)]
  | .journalBound origin =>
      .obj [("journal_uuid", .str origin.journalUuid),
        ("journal_generation", .nat origin.journalGeneration)]
  | .profileConfigured profile => .obj [("profile", profile.json)]
  | .lifecycleRegistered data =>
      .obj [("lifecycle_id", .str data.lifecycle.lifecycleId),
        ("slot", .str data.lifecycle.slot.text), ("week", data.lifecycle.week.json),
        ("profile", data.lifecycle.profile.json), ("journal_uuid", .str data.origin.journalUuid),
        ("journal_generation", .nat data.origin.journalGeneration)]
  | .nonModelCommitted data =>
      .obj [("cost_id", .str data.costId), ("kind", .str data.kind.text),
        ("upper_bound_usd_micros", .num data.upperBoundUsdMicros),
        ("valid_until_utc", .str data.validUntilUtc.text), ("currency", .str "USD")]
  | .reservationCreated data =>
      .obj [("journal_uuid", .str data.origin.journalUuid),
        ("journal_generation", .nat data.origin.journalGeneration),
        ("admission_id", .str data.admissionId), ("intent_id", .str data.intentId),
        ("intent_digest", .str data.intentDigest), ("attempt_id", .str data.attemptId),
        ("reservation_id", .str data.reservationId), ("run_id", .str data.runId),
        ("lease_id", .str data.leaseId), ("kind", .str data.kind.text),
        ("lifecycle_id", .optional .str data.lifecycleId),
        ("predecessor_id", .optional .str data.predecessorId),
        ("effects_reconciled", .bool data.effectsReconciled), ("profile", data.profile.json),
        ("week", data.week.json), ("reservation_usd_micros", .num data.reservationUsdMicros),
        ("liability_usd_micros", .num data.liabilityUsdMicros), ("currency", .str "USD"),
        ("valid_until_utc", .str data.validUntilUtc.text),
        ("policy_revision", .str policyRevision)]
  | .holdSet holdId code => .obj [("hold_id", .str holdId), ("code", .str code.text)]

def EventFields.json (fields : EventFields) : Json :=
  .obj [("schema_version", .nat 1), ("ledger_uuid", .str fields.ledgerUuid),
    ("ledger_generation", .nat fields.ledgerGeneration),
    ("experiment_id", .str fields.experimentId), ("sequence", .nat fields.sequence),
    ("previous_digest", .str fields.previousDigest), ("event_id", .str fields.eventId),
    ("recorded_at_utc", .str fields.recordedAtUtc.text),
    ("actor_kind", .str fields.actorKind.text), ("event_type", .str fields.data.eventType),
    ("data", fields.data.json)]

/-! ## Validation -/

/-- `_check` of the codec. -/
def checkEvent (condition : Prop) [Decidable condition] : Except AccountingCode Unit :=
  requireThat condition .eventInvalid

/-- `_uuid`. -/
def checkUuid (value : String) : Except AccountingCode Unit := checkEvent (isUuid value = true)

/-- `_digest`. -/
def checkDigest (value : String) : Except AccountingCode Unit := checkEvent (isHex64 value = true)

def checkGeneration (value : Nat) : Except AccountingCode Unit :=
  checkEvent (1 ≤ value ∧ value ≤ 2 ^ 31 - 1)

/-- `_time`: a year of fewer than four digits is not written back as it was read. -/
def checkTime (value : CivilTime) : Except AccountingCode Unit := checkEvent (1000 ≤ value.year)

/-- `_profile`. -/
def checkEventProfile (profile : Profile) : Except AccountingCode Unit := do
  checkUuid profile.modelId
  checkUuid profile.authId
  checkUuid profile.venueId

/-- `_week`. -/
def checkEventWeek (week : Week) : Except AccountingCode Unit := do
  checkTime week.startUtc
  checkTime week.endUtc
  checkEvent (week.wellFormed = true)

/-- `_money`. -/
def checkMoney (value minimum : Int) : Except AccountingCode Unit :=
  checkEvent (minimum ≤ value ∧ value ≤ 2 ^ 63 - 1)

def checkOrigin (origin : JournalOrigin) : Except AccountingCode Unit := do
  checkUuid origin.journalUuid
  checkGeneration origin.journalGeneration

def validateReservation (data : ReservationCreated) : Except AccountingCode Unit := do
  checkUuid data.origin.journalUuid
  checkAll checkUuid [data.admissionId, data.intentId, data.attemptId, data.reservationId,
    data.runId, data.leaseId]
  checkGeneration data.origin.journalGeneration
  checkDigest data.intentDigest
  checkAll checkUuid data.lifecycleId.toList
  checkAll checkUuid data.predecessorId.toList
  checkEventProfile data.profile
  checkEventWeek data.week
  checkEvent (data.reservationUsdMicros = minReservationMicros)
  checkMoney data.liabilityUsdMicros minReservationMicros
  checkTime data.validUntilUtc

def validateData (fields : EventFields) : EventData → Except AccountingCode Unit
  | .genesis population => do
      checkEvent ((fields.actorKind = .receiver ∧ population = .unknown) ∨
        (fields.actorKind = .fixture ∧ population = .syntheticComplete))
      checkEvent (fields.sequence = 1 ∧ fields.previousDigest = zeroDigest)
  | .journalBound origin => checkOrigin origin
  | .profileConfigured profile => checkEventProfile profile
  | .lifecycleRegistered data => do
      checkUuid data.lifecycle.lifecycleId
      checkEventWeek data.lifecycle.week
      checkEventProfile data.lifecycle.profile
      checkOrigin data.origin
  | .nonModelCommitted data => do
      checkUuid data.costId
      checkMoney data.upperBoundUsdMicros 0
      checkTime data.validUntilUtc
  | .reservationCreated data => validateReservation data
  | .holdSet holdId _ => checkUuid holdId

/-- `_validate`. -/
def validateEvent (fields : EventFields) : Except AccountingCode Unit := do
  checkUuid fields.ledgerUuid
  checkUuid fields.experimentId
  checkUuid fields.eventId
  checkGeneration fields.ledgerGeneration
  checkEvent (1 ≤ fields.sequence ∧ fields.sequence ≤ 2 ^ 53 - 1)
  checkDigest fields.previousDigest
  checkTime fields.recordedAtUtc
  validateData fields fields.data

/-- The body of an event: the text `encode_event` writes and `decode_event` takes. -/
def eventBody (fields : EventFields) : Except AccountingCode Bytes := do
  validateEvent fields
  let raw ← (canonicalJson true fields.json).mapError fun _ => .eventInvalid
  requireThat (raw.length ≤ maxEventBody) .eventTooLarge
  return raw

/-- An accepted event. -/
structure AccountingEvent where
  fields : EventFields
  raw : Bytes
  isEncoded : eventBody fields = .ok raw

instance : DecidableEq AccountingEvent := fun left right =>
  decidable_of_iff (left.fields = right.fields ∧ left.raw = right.raw) (by
    cases left
    cases right
    simp)

def eventDigestOf (raw : Bytes) : String := sha256Hex (ascii eventTag ++ 0x00 :: raw)

def AccountingEvent.digest (event : AccountingEvent) : String := eventDigestOf event.raw

/-- `encode_event`. -/
def encodeEvent (fields : EventFields) : Except AccountingCode AccountingEvent :=
  match encoded : eventBody fields with
  | .error code => .error code
  | .ok raw => .ok ⟨fields, raw, encoded⟩

end ManyAlerts
