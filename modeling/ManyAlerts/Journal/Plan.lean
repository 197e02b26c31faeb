import ManyAlerts.Journal.Decide
import ManyAlerts.Journal.Digests

/-!
# Planners

A planner checks a projection and its arguments and seals the records of one
commit.  It returns a plan, or the capacity it found exhausted.  The last step
is the same everywhere: seal one record after the head and charge its bytes to
the ordinary or the total region of the bounds.
-/

namespace ManyAlerts

def recordOverheadBytes : Nat := 384
def maxRunHolds : Nat := 1024
def maxReservationClaims : Nat := 256

structure Plan where
  records : List Record
  charge : Nat

structure CapacityRefusal where
  code : CapacityCode
  limit : Nat
  observed : Nat
  requested : Nat
deriving DecidableEq

/-- `Plan | CapacityRefusal`. -/
inductive Planned where
  | plan (plan : Plan)
  | refused (refusal : CapacityRefusal)

/-- The byte budget a record is charged to. -/
inductive Region where
  | ordinary
  | total
deriving DecidableEq

def Region.limit (bounds : JournalBounds) : Region → Nat
  | .ordinary => bounds.ordinaryBytes
  | .total => bounds.totalBytes

/-- `_fail_replay("replay_mismatch")`. -/
def mismatch : Failure := .replay .mismatch

/-- Stop with a refusal when the condition holds. -/
def refuseIf (exhausted : Prop) [Decidable exhausted] (refusal : CapacityRefusal)
    (rest : Except Failure Planned) : Except Failure Planned :=
  if exhausted then .ok (.refused refusal) else rest

/-! ## Sealing and charging -/

def singlePosition (p : Projection) (head : Head) : Position :=
  ⟨p.generation, head.eventSeq + 1, head.commitSeq + 1, 0, 1, head.recordDigest⟩

def Record.charge (record : Record) : Nat := record.body.length + recordOverheadBytes

/-- A plan of the records when their charge fits the region. -/
def chargeRecords (p : Projection) (bounds : JournalBounds) (region : Region)
    (records : List Record) : Planned :=
  let charge := (records.map Record.charge).sum
  if region.limit bounds < p.logicalBytes + charge then
    .refused ⟨.bytes, region.limit bounds, p.logicalBytes, charge⟩
  else .plan ⟨records, charge⟩

def planRecord (p : Projection) (head : Head) (bounds : JournalBounds) (region : Region)
    (draft : Draft) (stamp : Stamp) : Except Failure Planned := do
  let record ← sealRecord draft (singlePosition p head) stamp
  return chargeRecords p bounds region [record]

/-! ## Schema version 1 -/

def planGenesis (journalUuid : String) (bounds : JournalBounds) (eventId : String)
    (stamp : Stamp) : Except Failure Plan := do
  let record ← sealRecord ⟨eventId, .journalGenesis ⟨journalUuid, bounds⟩⟩
    ⟨1, 1, 1, 0, 1, zeroDigest⟩ stamp
  return ⟨[record], record.charge⟩

def planRestart (p : Projection) (eventId : String) (stamp : Stamp) (anchorLag : Nat)
    (walFound : Option WalFound) : Except Failure Planned := do
  let head ← orFail .attributeError p.head
  let bounds ← orFail .attributeError p.bounds
  -- An absent boot id fails the id check of the record.
  let previousBootId ← orFail (.record .id) p.bootId
  planRecord p head bounds .total
    ⟨eventId, .restartRecovery ⟨previousBootId, head.mark, anchorLag, walFound⟩⟩ stamp

def planAdmission (p : Projection) (source : SourceRecord) (admissionId dedupeEventId : String)
    (stamp : Stamp) : Except Failure Planned := do
  let decision ← decideAdmission p source admissionId
  let bounds ← orFail .attributeError p.bounds
  refuseIf (bounds.maxAdmissions < p.admissionCount + 1)
      ⟨.admissions, bounds.maxAdmissions, p.admissionCount, 1⟩ <|
    refuseIf (decision.result ≠ .suppressed ∧
        bounds.maxPendingFingerprints < p.pending.size + decision.newPending)
      ⟨.pending, bounds.maxPendingFingerprints, p.pending.size, decision.newPending⟩ do
    let activeHolds := dispatchHolds p
    let digestOfSource ← sourceDigest source
    let head ← orFail .attributeError p.head
    let admission ← sealRecord
      ⟨admissionId, .admission ⟨admissionId, p.lastArrivalSeq + 1,
        if activeHolds.isEmpty then .admitted else .held, activeHolds, sourceToJson source,
        digestOfSource⟩⟩
      ⟨p.generation, head.eventSeq + 1, head.commitSeq + 1, 0, 2, head.recordDigest⟩ stamp
    let key ← dedupeKey source
    let dedupe ← sealRecord
      ⟨dedupeEventId, .dedupeDecision ⟨admissionId, decision.result, source.sourceGroup, key,
        decision.baselineBefore, decision.baselineAfter, decision.superseded,
        pendingCountAfter p decision⟩⟩
      ⟨p.generation, head.eventSeq + 2, head.commitSeq + 1, 1, 2, admission.recordDigest⟩ stamp
    return chargeRecords p bounds .ordinary [admission, dedupe]

/-- No plan when the code's dispatch hold is already active. -/
def planCapacityHold (p : Projection) (refusal : CapacityRefusal) (eventId : String)
    (stamp : Stamp) (refusedSourceDigest : String) : Except Failure (Option Planned) :=
  if p.dispatchHolds.contains (.capacity refusal.code) then .ok none
  else do
    let head ← orFail .attributeError p.head
    let bounds ← orFail .attributeError p.bounds
    let planned ← planRecord p head bounds .total
      ⟨eventId, .capacityHold ⟨refusal.code, refusal.limit, refusal.observed, refusal.requested,
        refusedSourceDigest⟩⟩ stamp
    return some planned

/-- The summary without its body size and digest. -/
def refusalKeyPayload (summary : RefusalSummary) : Json :=
  .obj [("alerts", .optional .nat summary.alerts), ("code", .str summary.code.text),
    ("members", .arr (summary.members.map memberJson)),
    ("members_omitted", .nat summary.membersOmitted),
    ("refused_group", .optional .str summary.refusedGroup),
    ("resolved", .optional .nat summary.resolved),
    ("source_group", .optional .str summary.sourceGroup)]

def refusalKey (summary : RefusalSummary) : Except Failure String :=
  liftJson (taggedDigest "rj.refusal-key.v1" (refusalKeyPayload summary))

inductive RefusalReason where
  | coalesced
  | limit
  | noRoom
deriving DecidableEq

/-- `Plan | RefusalNotRecorded`. -/
inductive PlannedRefusal where
  | plan (plan : Plan)
  | notRecorded (reason : RefusalReason)

/-- A refusal without a positive resolved count does not draw on the reserve. -/
def RefusalSummary.unreserved (summary : RefusalSummary) : Bool :=
  !(summary.resolved.any (0 < ·))

def planIngressRefusal (p : Projection) (summary : RefusalSummary) (eventId : String)
    (stamp : Stamp) : Except Failure PlannedRefusal := do
  let key ← refusalKey summary
  if key ∈ p.refusalKeys then return .notRecorded .coalesced
  else if maxRefusalRecords < p.refusalCount + 1 then return .notRecorded .limit
  else if summary.unreserved ∧
      maxRefusalRecords - refusalResolvedReserve < p.refusalUnreservedCount + 1 then
    return .notRecorded .limit
  else
    let head ← orFail .attributeError p.head
    let bounds ← orFail .attributeError p.bounds
    let planned ← planRecord p head bounds .ordinary
      ⟨eventId, .ingressRefusal ⟨summary, key, p.refusalCount + 1⟩⟩ stamp
    match planned with
    | .plan plan => return .plan plan
    | .refused _ => return .notRecorded .noRoom

def planOperatorResume (p : Projection) (eventId : String) (stamp : Stamp)
    (operator reason : String) : Except Failure Planned := do
  failIf (privateClaimsOutstanding p) mismatch
  let sinceCommitSeq ← orFail .keyError (p.dispatchHolds.get? .restartRecovery)
  let recovered ← orFail .attributeError p.bootRecovered
  let head ← orFail .attributeError p.head
  let bounds ← orFail .attributeError p.bounds
  let pending ← pendingDigest p
  planRecord p head bounds .total
    ⟨eventId, .operatorAction ⟨sinceCommitSeq, recovered.mark, pending, operator, reason⟩⟩ stamp

/-! ## Schema version 2 -/

/-- The head and bounds of a projection whose current boot is the stamp's. -/
def currentBoot (p : Projection) (stamp : Stamp) : Except Failure (Head × JournalBounds) := do
  let head ← orFail mismatch p.head
  let bounds ← orFail mismatch p.bounds
  failIf (p.bootId ≠ some stamp.bootId) mismatch
  return (head, bounds)

def membersDigest (tag : String) (names : List String) : Except Failure String :=
  liftJson (taggedDigest tag (.arr (names.map .str)))

def runHoldMembersTag : String := "rj.run-hold-members.v2"
def initialIntentMembersTag : String := "rj.initial-intent-members.v3"

def planRunHold (p : Projection) (jobId admissionId eventId : String) (reason : RunHoldReason)
    (stamp : Stamp) : Except Failure Planned := do
  let (head, bounds) ← currentBoot p stamp
  failIf (p.runHolds.contains jobId ∨
    ∃ held ∈ p.runHolds.values, held.admissionId = admissionId) mismatch
  failIf (∃ claim ∈ p.initialIntents.values,
    ¬(claim.ids.jobId = jobId ↔ claim.ids.admissionId = admissionId)) mismatch
  let names := members p admissionId
  failIf (¬(1 ≤ names.length ∧ names.length ≤ 32)) mismatch
  refuseIf (maxRunHolds ≤ p.runHolds.size) ⟨.runHolds, maxRunHolds, p.runHolds.size, 1⟩ do
    let pending ← pendingDigest p
    let memberDigest ← membersDigest runHoldMembersTag names
    planRecord p head bounds .total
      ⟨eventId, .runHold ⟨jobId, admissionId, reason, head.commitSeq, pending, names.length,
        memberDigest⟩⟩ stamp

def intentDigestFields (p : Projection) (head : Head) (journalUuid : String)
    (ids : ReservationIds) : List (String × Json) :=
  [("journal_uuid", .str journalUuid), ("journal_generation", .nat p.generation),
    ("admission_id", .str ids.admissionId), ("job_id", .str ids.jobId),
    ("intent_id", .str ids.intentId), ("attempt_id", .str ids.attemptId),
    ("reservation_id", .str ids.reservationId), ("run_id", .str ids.runId),
    ("lease_id", .str ids.leaseId), ("based_on_commit_seq", .nat head.commitSeq)]

/-- The identities a reservation mints. -/
def ReservationIds.minted (ids : ReservationIds) : List String :=
  [ids.intentId, ids.attemptId, ids.reservationId, ids.runId, ids.leaseId]

def planReservationIntent (p : Projection) (ids : ReservationIds) (stamp : Stamp) :
    Except Failure Planned := do
  let (head, bounds) ← currentBoot p stamp
  failIf (p.initialIntents.isEmpty = false) mismatch
  refuseIf (maxReservationClaims ≤ p.intents.size + p.initialIntents.size)
      ⟨.reservationIntents, maxReservationClaims, p.intents.size + p.initialIntents.size, 1⟩ do
    let held ← orFail mismatch (p.runHolds.get? ids.jobId)
    let names := members p ids.admissionId
    failIf (held.admissionId ≠ ids.admissionId ∨ names = []) mismatch
    let memberDigest ← membersDigest runHoldMembersTag names
    failIf (memberDigest ≠ held.memberDigest) mismatch
    let journalUuid ← orFail mismatch p.journalUuid
    failIf (¬(journalUuid :: ids.values).Nodup ∨
      ¬(journalUuid :: ids.admissionId :: ids.minted).all isUuid ∨
      p.intents.contains ids.intentId) mismatch
    failIf (∃ prior ∈ p.intents.values, ∃ id ∈ ids.minted, id ∈ prior.ids.minted) mismatch
    let digest ← liftJson (taggedDigest "rj.reservation-intent.v2"
      (.obj (intentDigestFields p head journalUuid ids)))
    planRecord p head bounds .total
      ⟨ids.intentId, .reservationIntent ⟨ids, head.commitSeq, digest⟩⟩ stamp

/-- The job and the identities a reservation mints. -/
def ReservationIds.fresh (ids : ReservationIds) : List String := ids.jobId :: ids.minted

def planInitialReservationIntent (p : Projection) (ids : ReservationIds) (stamp : Stamp) :
    Except Failure Planned := do
  let (head, bounds) ← currentBoot p stamp
  failIf (p.dispatchHolds.isEmpty = false ∨ p.runHolds.isEmpty = false ∨
    p.initialIntents.isEmpty = false) mismatch
  refuseIf (maxReservationClaims ≤ p.intents.size + p.initialIntents.size)
      ⟨.reservationIntents, maxReservationClaims, p.intents.size + p.initialIntents.size, 1⟩ do
    let names := members p ids.admissionId
    failIf (¬(1 ≤ names.length ∧ names.length ≤ 32)) mismatch
    let journalUuid ← orFail mismatch p.journalUuid
    failIf (¬(journalUuid :: ids.values).all isUuid ∨ ¬(journalUuid :: ids.values).Nodup ∨
      (∃ claim ∈ p.intents.values,
        claim.ids.admissionId = ids.admissionId ∨ claim.ids.jobId = ids.jobId) ∨
      ∃ entry ∈ p.runHolds.entries,
        entry.2.admissionId = ids.admissionId ∨ entry.1 = ids.jobId) mismatch
    failIf (∃ prior ∈ p.intents.values.map ReservationIntentClaim.ids ++
        p.initialIntents.values.map InitialReservationIntentClaim.ids,
      ∃ id ∈ ids.fresh, id ∈ prior.fresh) mismatch
    let memberDigest ← membersDigest initialIntentMembersTag names
    let digest ← liftJson (taggedDigest "rj.reservation-intent.v3"
      (.obj (intentDigestFields p head journalUuid ids ++
        [("member_count", .nat names.length), ("member_digest", .str memberDigest)])))
    planRecord p head bounds .ordinary
      ⟨ids.intentId, .initialReservationIntent ⟨ids, head.commitSeq, names.length, memberDigest,
        digest⟩⟩ stamp

/-- What a caller says about a ledger event. -/
structure LedgerEvent where
  ledgerUuid : String
  ledgerGeneration : Nat
  ledgerEventId : String
  sequence : Nat
  eventDigest : String
deriving DecidableEq

/-- The confirmation claims of both schema versions. -/
def Projection.allConfirmations (p : Projection) : List ReservationConfirmationClaim :=
  p.confirmations.values ++ p.initialConfirmations.values

def confirmationLedgerIdentityConflict (p : Projection) (event : LedgerEvent) : Prop :=
  ∃ prior ∈ p.allConfirmations, prior.ledgerEventId = event.ledgerEventId ∨
    (prior.ledgerUuid = event.ledgerUuid ∧ prior.ledgerGeneration = event.ledgerGeneration ∧
      prior.sequence = event.sequence)

instance (p : Projection) (event : LedgerEvent) :
    Decidable (confirmationLedgerIdentityConflict p event) :=
  inferInstanceAs (Decidable (∃ prior ∈ p.allConfirmations, _))

def planReservationConfirmation (p : Projection) (intentId eventId : String)
    (event : LedgerEvent) (stamp : Stamp) : Except Failure Planned := do
  let (head, bounds) ← currentBoot p stamp
  refuseIf (maxReservationClaims ≤ p.confirmations.size + p.initialConfirmations.size)
      ⟨.reservationConfirmations, maxReservationClaims,
        p.confirmations.size + p.initialConfirmations.size, 1⟩ do
    let claimed ← orFail mismatch (p.intents.get? intentId)
    failIf (p.confirmations.contains intentId) mismatch
    failIf (¬(claimed.journalUuid :: claimed.ids.values ++
        [eventId, event.ledgerUuid, event.ledgerEventId]).Nodup ∨
      ¬[eventId, event.ledgerUuid, event.ledgerEventId].all isUuid) mismatch
    failIf (confirmationLedgerIdentityConflict p event ∨
      ∃ prior ∈ p.initialConfirmations.values, prior.confirmationEventId = eventId) mismatch
    planRecord p head bounds .total
      ⟨eventId, .reservationConfirmation ⟨intentId, claimed.intentDigest, event.ledgerUuid,
        event.ledgerGeneration, event.ledgerEventId, event.sequence, event.eventDigest⟩⟩ stamp

def planInitialReservationConfirmation (p : Projection) (intentId eventId : String)
    (event : LedgerEvent) (stamp : Stamp) : Except Failure Planned := do
  let (head, bounds) ← currentBoot p stamp
  refuseIf (maxReservationClaims ≤ p.confirmations.size + p.initialConfirmations.size)
      ⟨.reservationConfirmations, maxReservationClaims,
        p.confirmations.size + p.initialConfirmations.size, 1⟩ do
    let claimed ← orFail mismatch (p.initialIntents.get? intentId)
    failIf (p.initialConfirmations.contains intentId ∨ p.confirmations.contains intentId)
      mismatch
    let identifiers := claimed.journalUuid :: claimed.ids.values ++
      [eventId, event.ledgerUuid, event.ledgerEventId]
    failIf (¬identifiers.all isUuid ∨ ¬identifiers.Nodup ∨
      ∃ prior ∈ p.allConfirmations, prior.confirmationEventId = eventId) mismatch
    failIf (confirmationLedgerIdentityConflict p event) mismatch
    planRecord p head bounds .total
      ⟨eventId, .initialReservationConfirmation ⟨intentId, claimed.intentDigest,
        event.ledgerUuid, event.ledgerGeneration, event.ledgerEventId, event.sequence,
        event.eventDigest⟩⟩ stamp

end ManyAlerts
