import ManyAlerts.Journal.Payload

/-!
# Sealed records

Validation of a record's envelope and payload, its canonical body and digest.
A `Record` carries the proof that its body is what `sealBody` makes of its
fields, so a record that was never sealed cannot be built.
-/

namespace ManyAlerts

def maxRecordBytes : Nat := 16384
def maxCommitRecords : Nat := 8
def maxSeq : Nat := 2 ^ 53 - 1
def maxGeneration : Nat := 2 ^ 31 - 1
def maxDispatchHolds : Nat := 8
def maxSuperseded : Nat := 32
def maxRefusalRecords : Nat := 256
def refusalResolvedReserve : Nat := 64
def maxRefusalMembers : Nat := 32
def maxRefusalJsonBytes : Nat := 4096
def maxIngressBodyBytes : Nat := 262144

def recordTag : String := "rj.record.v1"
def contentTag : String := "rj.content.v1"

/-- `V1_BOUND_CEILINGS`. -/
def boundCeilings : JournalBounds := {}

/-! ## Field checks -/

def requireBound (value low high : Nat) : Except Failure Unit :=
  failIf (¬(low ≤ value ∧ value ≤ high)) (.record .field)

def requireSeq (value : Nat) : Except Failure Unit := requireBound value 1 maxSeq

def requireHex64 (value : String) : Except Failure Unit :=
  failIf (isHex64 value = false) (.record .field)

def requireUuid (value : String) : Except Failure Unit :=
  failIf (isUuid value = false) (.record .field)

def validateId (value : String) : Except Failure Unit :=
  failIf (isId value = false) (.record .id)

def requireWallTime (value : String) : Except Failure Unit :=
  failIf (isWallTime value = false) (.record .time)

@[simp] theorem requireBound_eq_ok {value low high : Nat} {done : Unit} :
    requireBound value low high = .ok done ↔ low ≤ value ∧ value ≤ high := by
  simp [requireBound]

@[simp] theorem requireSeq_eq_ok {value : Nat} {done : Unit} :
    requireSeq value = .ok done ↔ 1 ≤ value ∧ value ≤ maxSeq :=
  requireBound_eq_ok

@[simp] theorem requireHex64_eq_ok {value : String} {done : Unit} :
    requireHex64 value = .ok done ↔ isHex64 value = true := by
  simp [requireHex64]

@[simp] theorem requireUuid_eq_ok {value : String} {done : Unit} :
    requireUuid value = .ok done ↔ isUuid value = true := by
  simp [requireUuid]

@[simp] theorem validateId_eq_ok {value : String} {done : Unit} :
    validateId value = .ok done ↔ isId value = true := by
  simp [validateId]

@[simp] theorem requireWallTime_eq_ok {value : String} {done : Unit} :
    requireWallTime value = .ok done ↔ isWallTime value = true := by
  simp [requireWallTime]

def ReservationIds.values (ids : ReservationIds) : List String :=
  [ids.jobId, ids.admissionId, ids.intentId, ids.attemptId, ids.reservationId, ids.runId,
    ids.leaseId]

def RunIds.values (ids : RunIds) : List String := ids.journalUuid :: ids.reservation.values

def validateBaseline (baseline : Baseline) : Except Failure Unit := do
  validateId baseline.admissionId
  requireHex64 baseline.dedupeKey

def validateHeadMark (mark : HeadMark) : Except Failure Unit := do
  requireSeq mark.commitSeq
  requireSeq mark.eventSeq
  requireHex64 mark.recordDigest

/-! ## Refusal summaries -/

/-- `_refusal_groups_ok`. -/
def refusalGroupsOk (summary : RefusalSummary) : Bool :=
  let count := summary.sourceGroup.toList.length + summary.refusedGroup.toList.length
  if ¬((summary.sourceGroup.toList ++ summary.refusedGroup.toList).all isHex64) then false
  else if summary.code.hasNoGroup then count = 0
  else if summary.code = .groupKeyUnsupported then
    summary.sourceGroup.isNone && summary.refusedGroup.isSome
  else if summary.code.listsMembers ∨
      (summary.code = .divergence ∧ summary.alerts.isSome) then
    summary.sourceGroup.isSome && summary.refusedGroup.isNone
  else if summary.code = .shape ∨ summary.code = .divergence then count ≤ 1
  else count = 1

/-- Resolved members first, each part by fingerprint. -/
def memberBefore (left right : String × AlertStatus) : Prop :=
  let rank (member : String × AlertStatus) : Nat := if member.2 = .resolved then 0 else 1
  rank left < rank right ∨ (rank left = rank right ∧ left.1 < right.1)

instance (left right : String × AlertStatus) : Decidable (memberBefore left right) :=
  inferInstanceAs (Decidable (_ ∨ _))

/-- `_refusal_members_ok`. -/
def refusalMembersOk (summary : RefusalSummary) : Bool :=
  match summary.alerts with
  | none =>
      summary.resolved.isNone && summary.members.isEmpty && summary.membersOmitted = 0 &&
        !summary.code.listsMembers
  | some alerts =>
      match summary.resolved with
      | none => false
      | some resolved =>
          if ¬summary.code.listsMembers ∧ summary.code ≠ .divergence then false
          else if ¬(1 ≤ alerts ∧ alerts ≤ maxJsonArrayItems ∧ resolved ≤ alerts) then false
          -- The alert-count check runs before the value and record checks.
          else if summary.code = .tooManyAlerts ∧ alerts ≤ maxAlerts then false
          else if summary.code ∈ [.tooManyValues, .recordTooLarge, .divergence] ∧
              maxAlerts < alerts then false
          else if summary.members.length ≠ min alerts maxRefusalMembers then false
          else if summary.membersOmitted ≠ alerts - summary.members.length then false
          else if ¬(summary.members.all fun member => isFingerprint member.1) then false
          else if ¬summary.members.IsChain memberBefore then false
          else if ¬(summary.members.map Prod.fst).Nodup then false
          else (summary.members.filter fun member => member.2 = .resolved).length =
            min resolved summary.members.length

/-- `_check_refusal_summary`. -/
def checkRefusalSummary (summary : RefusalSummary) : Except Failure Unit := do
  let bodyOk :=
    if summary.code = .tooLarge then
      maxIngressBodyBytes + 1 ≤ summary.bodyBytes && summary.bodyBytes ≤ maxSeq &&
        summary.bodyDigest.isNone
    else summary.bodyBytes ≤ maxIngressBodyBytes && summary.bodyDigest.any isHex64
  failIf (bodyOk = false) (.record .field)
  failIf (refusalGroupsOk summary = false) (.record .field)
  failIf (refusalMembersOk summary = false) (.record .field)
  let encoded ← jsonOr (.record .field) (canonicalJson true (refusalSummaryJson summary))
  failIf (maxRefusalJsonBytes < encoded.length) (.record .field)

/-! ## Payload checks -/

def validateJournalGenesis (data : GenesisData) : Except Failure Unit := do
  requireUuid data.journalUuid
  requireBound data.bounds.maxAdmissions 1 boundCeilings.maxAdmissions
  requireBound data.bounds.maxPendingFingerprints 1 boundCeilings.maxPendingFingerprints
  requireBound data.bounds.ordinaryBytes 1 boundCeilings.ordinaryBytes
  requireBound data.bounds.totalBytes 1 boundCeilings.totalBytes
  failIf (data.bounds.totalBytes < data.bounds.ordinaryBytes) (.record .field)

def validateRestartRecovery (data : RestartRecoveryData) : Except Failure Unit := do
  validateId data.previousBootId
  validateHeadMark data.recovered
  requireBound data.anchorLag 0 1
  match data.walFound with
  | none => return
  | some found =>
      requireBound found.size 0 maxSeq
      requireHex64 found.digest

def validateCapacityHold (data : CapacityHoldData) : Except Failure Unit := do
  failIf (data.code ∉ capacityCodes) (.record .field)
  requireBound data.limit 0 maxSeq
  requireBound data.observed 0 maxSeq
  requireBound data.requested 1 maxSeq
  requireHex64 data.refusedSourceDigest

/-- A malformed embedded source raises its own error. -/
def validateAdmission (eventId : String) (data : AdmissionData) : Except Failure Unit := do
  validateId data.admissionId
  failIf (data.admissionId ≠ eventId) (.record .field)
  requireSeq data.arrivalSeq
  failIf (maxDispatchHolds < data.dispatchHolds.length) (.record .field)
  failIf (¬data.dispatchHolds.all (· ∈ dispatchHoldCodes)) (.record .field)
  failIf (¬(data.dispatchHolds.map HoldCode.text).Pairwise (· < ·)) (.record .field)
  let _ ← sourceFromJson data.source
  requireHex64 data.sourceDigest

def validateSuperseded (entry : String × String) : Except Failure Unit := do
  validateId entry.2
  failIf (isFingerprint entry.1 = false) (.record .field)

/-- Superseded entries in strictly increasing fingerprint order. -/
def checkSuperseded (previous : Option String) : List (String × String) → Except Failure Unit
  | [] => .ok ()
  | entry :: entries => do
      validateSuperseded entry
      failIf (∃ earlier ∈ previous, entry.1 ≤ earlier) (.record .field)
      checkSuperseded (some entry.1) entries

def validateDedupeDecision (data : DedupeDecisionData) : Except Failure Unit := do
  validateId data.admissionId
  requireHex64 data.sourceGroup
  requireHex64 data.dedupeKey
  match data.baselineBefore with
  | none => pure ()
  | some baseline => validateBaseline baseline
  validateBaseline data.baselineAfter
  failIf (maxSuperseded < data.superseded.length) (.record .field)
  checkSuperseded none data.superseded
  requireBound data.pendingCountAfter 0 maxSeq

def validateIngressRefusal (data : IngressRefusalData) : Except Failure Unit := do
  checkRefusalSummary data.summary
  requireHex64 data.refusalKey
  requireBound data.refusalSeq 1 maxRefusalRecords

/-- The operator and reason follow the id grammar but fail as data fields. -/
def validateOperatorAction (data : OperatorActionData) : Except Failure Unit := do
  requireBound data.sinceCommitSeq 2 maxSeq
  validateHeadMark data.inspected
  requireHex64 data.pendingDigest
  failIf (isId data.operator = false) (.record .field)
  failIf (isId data.reason = false) (.record .field)

def validateRunHold (data : RunHoldData) : Except Failure Unit := do
  validateId data.jobId
  validateId data.admissionId
  requireSeq data.basedOnCommitSeq
  requireHex64 data.pendingDigest
  requireBound data.memberCount 1 32
  requireHex64 data.memberDigest

def validateReservationIntent (eventId : String) (data : ReservationIntentData) :
    Except Failure Unit := do
  validateId data.ids.jobId
  checkAll requireUuid [data.ids.admissionId, data.ids.intentId, data.ids.attemptId,
    data.ids.reservationId, data.ids.runId, data.ids.leaseId]
  failIf (data.ids.intentId ≠ eventId ∨ ¬data.ids.values.Nodup) (.record .field)
  requireSeq data.basedOnCommitSeq
  requireHex64 data.intentDigest

def validateInitialReservationIntent (eventId : String) (data : InitialReservationIntentData) :
    Except Failure Unit := do
  checkAll requireUuid data.ids.values
  failIf (data.ids.intentId ≠ eventId ∨ ¬data.ids.values.Nodup) (.record .field)
  requireSeq data.basedOnCommitSeq
  requireBound data.memberCount 1 32
  requireHex64 data.memberDigest
  requireHex64 data.intentDigest

/-- The v2 and v3 confirmations differ in their rule text only. -/
def validateReservationConfirmation (eventId : String) (data : ReservationConfirmationData) :
    Except Failure Unit := do
  requireUuid data.intentId
  requireUuid eventId
  requireHex64 data.intentDigest
  requireUuid data.ledgerUuid
  requireBound data.ledgerGeneration 1 maxGeneration
  requireUuid data.ledgerEventId
  requireSeq data.sequence
  requireHex64 data.eventDigest
  failIf (¬[data.intentId, eventId, data.ledgerUuid, data.ledgerEventId].Nodup)
    (.record .field)

/-- Services in name order, without repetition, with the mandatory ones. -/
def checkServices (services : List Service) : Except Failure Unit :=
  failIf (¬(services.map Service.text).Pairwise (· ≤ ·) ∨ ¬services.Nodup ∨
    ¬mandatoryServices.all (· ∈ services)) (.record .field)

def validateServiceClaim (claim : ServiceClaim) : Except Failure Unit := do
  requireUuid claim.leaseClaimId
  requireHex64 claim.scopeDigest

def validateRunIntent (eventId : String) (data : RunIntentData) (digest : String) :
    Except Failure Unit := do
  checkAll requireUuid data.ids.values
  requireUuid eventId
  checkAll requireSeq
    [data.basis.commitSeq, data.initialIntentCommitSeq, data.confirmationCommitSeq]
  checkAll requireHex64
    [data.basis.recordDigest, data.intentDigest, data.eventDigest, data.memberDigest, digest]
  checkAll requireUuid [data.confirmationEventId, data.ledgerUuid, data.ledgerEventId]
  requireBound data.ledgerGeneration 1 maxGeneration
  requireSeq data.sequence
  requireBound data.memberCount 1 32
  requireSeq data.ledgerHeadSequence
  requireHex64 data.ledgerHeadDigest
  failIf (data.ledgerHeadSequence < data.sequence ∨
    (data.ledgerHeadSequence = data.sequence ∧ data.ledgerHeadDigest ≠ data.eventDigest))
    (.record .field)
  failIf (¬(4 ≤ data.services.length ∧ data.services.length ≤ 5)) (.record .field)
  checkAll validateServiceClaim data.services
  checkServices (data.services.map ServiceClaim.service)
  failIf (data.services.head?.map ServiceClaim.leaseClaimId ≠
    some data.ids.reservation.leaseId) (.record .field)
  failIf (¬(data.ids.values ++ [eventId, data.confirmationEventId, data.ledgerUuid,
    data.ledgerEventId] ++ (data.services.drop 1).map ServiceClaim.leaseClaimId).Nodup)
    (.record .field)

def validateGrant (originUs : Nat) (grant : Grant) : Except Failure Unit := do
  requireUuid grant.leaseClaimId
  requireHex64 grant.scopeDigest
  validateId grant.grantId
  requireBound grant.grantExpiryUs 0 maxSeq
  failIf (¬(originUs < grant.grantExpiryUs ∧ grant.grantExpiryUs ≤ originUs + 270000000))
    (.record .field)

/-- The ids, the event id and one more identity are all different. -/
def checkIdentities (ids : List String) (eventId other : String) : Except Failure Unit :=
  failIf (¬(ids ++ [eventId, other]).Nodup) (.record .field)

def validateLaunchClaim (eventId : String) (data : LaunchClaimData) (digest : String) :
    Except Failure Unit := do
  checkAll requireUuid data.ids.values
  requireUuid eventId
  checkAll requireSeq [data.basis.commitSeq, data.runIntentCommitSeq]
  checkAll requireHex64
    [data.basis.recordDigest, data.runIntentDigest, data.barrierTokenDigest, digest]
  requireUuid data.runIntentEventId
  validateId data.receiverBootId
  validateId data.forwarderGeneration
  requireBound data.originUs 0 (maxSeq - 300000000)
  requireBound data.workDeadlineUs 0 maxSeq
  failIf (data.workDeadlineUs ≠ data.originUs + 270000000) (.record .field)
  requireBound data.flushDeadlineUs 0 maxSeq
  failIf (data.flushDeadlineUs ≠ data.originUs + 290000000) (.record .field)
  requireBound data.hardDeadlineUs 0 maxSeq
  failIf (data.hardDeadlineUs ≠ data.originUs + 300000000) (.record .field)
  failIf (¬(4 ≤ data.grants.length ∧ data.grants.length ≤ 5)) (.record .field)
  checkAll (validateGrant data.originUs) data.grants
  checkServices (data.grants.map Grant.service)
  failIf (¬(data.grants.map Grant.grantId).Nodup) (.record .field)
  checkIdentities data.ids.values eventId data.runIntentEventId

def validateSpawnAttestation (eventId : String) (data : SpawnAttestationData)
    (digest : String) : Except Failure Unit := do
  checkAll requireUuid data.ids.values
  requireUuid eventId
  checkAll requireSeq [data.basis.commitSeq, data.launchClaimCommitSeq]
  checkAll requireHex64
    [data.basis.recordDigest, data.launchClaimDigest, data.blockedAckDigest,
      data.anchorKeyDigest, data.witnessIdentityDigest, data.registryEntryDigest, digest]
  requireUuid data.launchClaimEventId
  checkAll validateId
    [data.receiverBootId, data.witnessKind, data.verifierVersion, data.witnessLocator]
  requireBound data.observedUs 0 maxSeq
  checkIdentities data.ids.values eventId data.launchClaimEventId

def validateActivation (activation : Activation) : Except Failure Unit := do
  validateId activation.grantId
  requireHex64 activation.activationDigest
  requireBound activation.activationUs 0 maxSeq

def validateReleaseIntent (eventId : String) (data : ReleaseIntentData) (digest : String) :
    Except Failure Unit := do
  checkAll requireUuid data.ids.values
  requireUuid eventId
  checkAll requireSeq [data.basis.commitSeq, data.spawnAttestationCommitSeq]
  checkAll requireHex64 [data.basis.recordDigest, data.spawnAttestationDigest, digest]
  requireUuid data.spawnAttestationEventId
  validateId data.receiverBootId
  validateId data.forwarderGeneration
  requireBound data.intendedReleaseUs 0 maxSeq
  failIf (¬(4 ≤ data.activatedGrants.length ∧ data.activatedGrants.length ≤ 5))
    (.record .field)
  checkAll validateActivation data.activatedGrants
  checkServices (data.activatedGrants.map Activation.service)
  failIf (¬(data.activatedGrants.map Activation.grantId).Nodup) (.record .field)
  checkIdentities data.ids.values eventId data.spawnAttestationEventId

def validateReleaseObservation (eventId : String) (data : ReleaseObservationData)
    (digest : String) : Except Failure Unit := do
  checkAll requireUuid data.ids.values
  requireUuid eventId
  checkAll requireSeq [data.basis.commitSeq, data.releaseIntentCommitSeq]
  checkAll requireHex64
    [data.basis.recordDigest, data.releaseIntentDigest, data.ackDigest, digest]
  requireUuid data.releaseIntentEventId
  validateId data.receiverBootId
  requireBound data.observedUs 0 maxSeq
  checkIdentities data.ids.values eventId data.releaseIntentEventId

def validateEffectIntent (eventId : String) (data : EffectIntentData) (digest : String) :
    Except Failure Unit := do
  let ids := [data.journalUuid, data.runId, data.attemptId, data.reservationId,
    data.operationId]
  checkAll requireUuid ids
  requireUuid eventId
  checkAll requireSeq [data.basis.commitSeq, data.releaseObservationCommitSeq]
  checkAll requireHex64
    [data.basis.recordDigest, data.releaseObservationDigest, data.scopeDigest,
      data.requestDigest, data.targetDigest, digest]
  requireUuid data.releaseObservationEventId
  checkAll validateId
    [data.receiverBootId, data.forwarderGeneration, data.routeId, data.grantId, data.flightId,
      data.forwarderReceiptId]
  requireBound data.observedUs 0 maxSeq
  requireBound data.expiresUs 0 maxSeq
  failIf (data.expiresUs ≤ data.observedUs) (.record .field)
  checkIdentities ids eventId data.releaseObservationEventId

def validateEffectReceipt (eventId : String) (data : EffectReceiptData) (digest : String) :
    Except Failure Unit := do
  let ids := [data.runId, data.attemptId, data.operationId]
  checkAll requireUuid ids
  requireUuid eventId
  checkAll requireSeq [data.basis.commitSeq, data.effectIntentCommitSeq]
  checkAll requireHex64
    [data.basis.recordDigest, data.effectIntentDigest, data.finalizedReceiptDigest, digest]
  requireUuid data.effectIntentEventId
  checkAll validateId
    [data.receiverBootId, data.grantId, data.flightId, data.forwarderReceiptId]
  failIf (data.claimedReason ∉ effectClaimReasons data.claimedDispatchState) (.record .field)
  requireBound data.observedUs 0 maxSeq
  checkIdentities ids eventId data.effectIntentEventId

/-- The ids are uuids and the event id is another one. -/
def checkEventApart (ids : List String) (eventId : String) : Except Failure Unit := do
  checkAll requireUuid ids
  requireUuid eventId
  failIf (eventId ∈ ids) (.record .field)

/-- An optional field that must be there and pass a check; `None` fails as it does there. -/
def requireSome {α : Type} (code : RecordErrorCode) (check : α → Except Failure Unit) :
    Option α → Except Failure Unit
  | none => .error (.record code)
  | some value => check value

def validateSupervisionActionIntent (eventId : String) (data : SupervisionActionIntentData)
    (digest : String) : Except Failure Unit := do
  checkEventApart [data.journalUuid, data.runId, data.attemptId, data.actionId] eventId
  requireSeq data.basis.commitSeq
  checkAll requireHex64
    [data.basis.recordDigest, data.launchClaimDigest, data.phaseDigest, digest]
  checkAll requireUuid [data.launchClaimEventId, data.phaseEventId]
  checkAll validateId [data.receiverBootId, data.forwarderGeneration]
  requireBound data.observedUs 0 maxSeq
  failIf (5 < data.priorRevokeActionIds.length) (.record .field)
  checkAll requireUuid data.priorRevokeActionIds
  failIf (¬data.priorRevokeActionIds.Nodup) (.record .field)
  if data.phase = .preAttestation then
    failIf (data.attestationEventId.isSome ∨ data.attestationDigest.isSome ∨
      data.witnessLocator.isSome ∨ data.witnessIdentityDigest.isSome) (.record .field)
  else
    requireSome .field requireUuid data.attestationEventId
    requireSome .field requireHex64 data.attestationDigest
    requireSome .field requireHex64 data.witnessIdentityDigest
    requireSome .id validateId data.witnessLocator
  if data.actionKind = .revokeGrant then
    failIf (data.service.isNone ∨ data.priorRevokeActionIds ≠ []) (.record .field)
    requireSome .id validateId data.grantId
  else
    failIf (data.service.isSome ∨ data.grantId.isSome ∨ data.phase = .preAttestation ∨
      ¬(4 ≤ data.priorRevokeActionIds.length ∧ data.priorRevokeActionIds.length ≤ 5))
      (.record .field)

def validateSupervisionActionResult (eventId : String) (data : SupervisionActionResultData)
    (digest : String) : Except Failure Unit := do
  checkEventApart [data.runId, data.attemptId, data.actionId] eventId
  checkAll requireSeq [data.basis.commitSeq, data.actionIntentCommitSeq]
  checkAll requireHex64 [data.basis.recordDigest, data.actionIntentDigest, digest]
  requireUuid data.actionIntentEventId
  validateId data.receiverBootId
  failIf (data.claimedOutcome ∉ supervisionActionOutcomes data.actionKind) (.record .field)
  requireBound data.observedUs 0 maxSeq

def validateExecutionBase (eventId : String) (base : ExecutionBase) (digest : String) :
    Except Failure Unit := do
  checkEventApart [base.journalUuid, base.runId, base.attemptId] eventId
  requireSeq base.basis.commitSeq
  checkAll requireHex64 [base.basis.recordDigest, base.launchClaimDigest, digest]
  requireUuid base.launchClaimEventId
  validateId base.receiverBootId
  requireBound base.observedUs 0 maxSeq

/-- `_process_valid`, and the same checks in the record validator. -/
def processValid (facts : ProcessFacts) : Bool :=
  let codeValid := facts.exitCode.any (fun code => -(2 ^ 31) ≤ code && code < 2 ^ 31) &&
    facts.exitSignal.isNone
  let signalValid := facts.exitSignal.any (fun signal => 1 ≤ signal && signal ≤ 64) &&
    facts.exitCode.isNone
  if facts.exitObserved then
    (codeValid || signalValid) && facts.spawnState ≠ .failedBeforeProcess
  else
    facts.exitCode.isNone && facts.exitSignal.isNone &&
      !(facts.spawnState = .failedBeforeProcess && facts.containment = .failed)

def validateProcessObservation (eventId : String) (data : ProcessObservationData)
    (digest : String) : Except Failure Unit := do
  validateExecutionBase eventId data.base digest
  requireHex64 data.sourceDigest
  failIf (processValid data.facts = false) (.record .field)

def validateLink (link : ClaimLink) : Except Failure Unit := do
  requireUuid link.eventId
  requireHex64 link.digest
  requireSeq link.commitSeq

def validateTerminalSummary (summary : TerminalSummary) : Except Failure Unit :=
  let parsed := summary.subtype.isSome ∨ summary.isError.isSome ∨ summary.reasonCode.isSome ∨
    summary.usageState.isSome
  match summary.countClass with
  | .none =>
      failIf (summary.quality.isSome ∨ summary.invalidityCode.isSome ∨
        summary.sourceDigest.isSome ∨ parsed) (.record .field)
  | .multiple => do
      requireSome .field requireHex64 summary.sourceDigest
      failIf (summary.quality.isSome ∨ summary.invalidityCode.isSome ∨ parsed) (.record .field)
  | .one => do
      requireSome .field requireHex64 summary.sourceDigest
      match summary.quality with
      | some .invalid =>
          failIf (summary.invalidityCode.isNone ∨ parsed) (.record .field)
      | some .recognized =>
          failIf (summary.invalidityCode.isSome) (.record .field)
          match summary.subtype, summary.isError with
          | some subtype, some isError =>
              failIf (decide (subtype = .error) ≠ isError ∨
                (subtype = .success ∧ summary.reasonCode.isSome) ∨
                summary.usageState.isNone) (.record .field)
          | _, _ => .error (.record .field)
      | none => .error (.record .field)

def validateTerminalObservation (eventId : String) (data : TerminalObservationData)
    (digest : String) : Except Failure Unit := do
  validateExecutionBase eventId data.base digest
  validateLink data.process
  validateTerminalSummary data.summary

def validateExecutionAssessment (eventId : String) (data : ExecutionAssessmentData)
    (digest : String) : Except Failure Unit := do
  validateExecutionBase eventId data.base digest
  validateLink data.process
  validateLink data.terminal
  failIf (¬(data.assessment.reasons.map ExecutionReason.text).Pairwise (· < ·))
    (.record .field)

def validateReconciliation (eventId : String) (data : ReconciliationData) (digest : String) :
    Except Failure Unit := do
  checkEventApart [data.journalUuid, data.runId, data.attemptId, data.operationId] eventId
  checkAll requireSeq [data.basis.commitSeq, data.effectIntentCommitSeq]
  checkAll requireHex64
    [data.basis.recordDigest, data.launchClaimDigest, data.effectIntentDigest,
      data.sourceEvidenceDigest, data.targetDigest, digest]
  checkAll requireUuid [data.launchClaimEventId, data.effectIntentEventId]
  validateId data.receiverBootId
  requireBound data.observedUs 0 maxSeq
  requireBound data.observationIndex 1 4
  if data.reportedState = .confirmed ∨ data.reportedState = .conflict then
    requireSome .field requireHex64 data.versionDigest
  else
    failIf (data.versionDigest.isSome) (.record .field)

def validateRestartReconciliation (eventId : String) (data : RestartReconciliationData)
    (digest : String) : Except Failure Unit := do
  validateReconciliation eventId data.common digest
  checkAll requireSeq
    [data.restartCommitSeq, data.recovered.commitSeq, data.recovered.eventSeq]
  checkAll requireHex64 [data.restartRecordDigest, data.recovered.recordDigest]
  validateId data.priorEffectBootId
  failIf (data.restartCommitSeq ≤ data.recovered.commitSeq) (.record .field)

/-- `_TYPE_VALIDATORS` and its v2 and v3 tables. -/
def validatePayload (eventId : String) : Payload → Except Failure Unit
  | .journalGenesis data => validateJournalGenesis data
  | .restartRecovery data => validateRestartRecovery data
  | .capacityHold data => validateCapacityHold data
  | .admission data => validateAdmission eventId data
  | .dedupeDecision data => validateDedupeDecision data
  | .ingressRefusal data => validateIngressRefusal data
  | .operatorAction data => validateOperatorAction data
  | .runHold data => validateRunHold data
  | .reservationIntent data => validateReservationIntent eventId data
  | .reservationConfirmation data => validateReservationConfirmation eventId data
  | .initialReservationIntent data => validateInitialReservationIntent eventId data
  | .initialReservationConfirmation data => validateReservationConfirmation eventId data
  | .runIntent data digest => validateRunIntent eventId data digest
  | .launchClaim data digest => validateLaunchClaim eventId data digest
  | .spawnAttestation data digest => validateSpawnAttestation eventId data digest
  | .releaseIntent data digest => validateReleaseIntent eventId data digest
  | .releaseObservation data digest => validateReleaseObservation eventId data digest
  | .effectIntent data digest => validateEffectIntent eventId data digest
  | .effectReceipt data digest => validateEffectReceipt eventId data digest
  | .supervisionActionIntent data digest =>
      validateSupervisionActionIntent eventId data digest
  | .supervisionActionResult data digest =>
      validateSupervisionActionResult eventId data digest
  | .processObservation data digest => validateProcessObservation eventId data digest
  | .terminalObservation data digest => validateTerminalObservation eventId data digest
  | .executionAssessment data digest => validateExecutionAssessment eventId data digest
  | .reconciliationObservation data digest => validateReconciliation eventId data digest
  | .restartReconciliationObservation data digest =>
      validateRestartReconciliation eventId data digest

/-! ## Envelope, body and seal -/

@[ext] structure Draft where
  eventId : String
  payload : Payload

def envelope (draft : Draft) (position : Position) (stamp : Stamp) : Json :=
  .obj [("schema_version", .nat draft.payload.schemaVersion),
    ("journal_generation", .nat position.journalGeneration),
    ("event_id", .str draft.eventId), ("event_seq", .nat position.eventSeq),
    ("commit_seq", .nat position.commitSeq), ("commit_index", .nat position.commitIndex),
    ("commit_size", .nat position.commitSize), ("event_type", .str draft.payload.eventType),
    ("actor", .str draft.payload.actor), ("boot_id", .str stamp.bootId),
    ("wall_time", .str stamp.wallTime), ("mono_us", .nat stamp.monoUs),
    ("ids", .obj draft.payload.ids), ("data", .obj draft.payload.data),
    ("prev_record_digest", .str position.prevRecordDigest)]

def validateEnvelope (draft : Draft) (position : Position) (stamp : Stamp) :
    Except Failure Unit := do
  requireBound position.journalGeneration 1 maxGeneration
  validateId draft.eventId
  requireSeq position.eventSeq
  requireSeq position.commitSeq
  requireBound position.commitSize 1 maxCommitRecords
  failIf (¬position.commitIndex < position.commitSize) (.record .field)
  validateId stamp.bootId
  requireWallTime stamp.wallTime
  requireBound stamp.monoUs 0 maxSeq
  requireHex64 position.prevRecordDigest
  failIf (¬(position.eventSeq = 1 ↔ position.prevRecordDigest = zeroDigest)) (.record .field)
  validatePayload draft.eventId draft.payload

/-- The byte cap of a v2 or v3 record type. -/
def privateCap : Payload → Option Nat
  | .runIntent _ _ => some 4096
  | .launchClaim _ _ => some 6144
  | .spawnAttestation _ _ => some 4096
  | .releaseIntent _ _ => some 4096
  | .releaseObservation _ _ => some 2048
  | .effectIntent _ _ => some 4096
  | .effectReceipt _ _ => some 2048
  | .supervisionActionIntent _ _ => some 4096
  | .supervisionActionResult _ _ => some 2048
  | .processObservation _ _ => some 4096
  | .terminalObservation _ _ => some 4096
  | .executionAssessment _ _ => some 2048
  | .reconciliationObservation _ _ => some 2048
  | .restartReconciliationObservation _ _ => some 3072
  | .runHold _ | .reservationIntent _ | .reservationConfirmation _
  | .initialReservationIntent _ | .initialReservationConfirmation _ => some 2048
  | _ => none

def sealBody (draft : Draft) (position : Position) (stamp : Stamp) : Except Failure Bytes := do
  validateEnvelope draft position stamp
  let body ← jsonOr (.record .field) (canonicalJson true (envelope draft position stamp))
  failIf (maxRecordBytes < body.length) (.record .tooLarge)
  failIf (∃ cap ∈ privateCap draft.payload, cap < body.length) (.record .tooLarge)
  return body

/-- A sealed record. -/
structure Record extends Draft where
  position : Position
  stamp : Stamp
  body : Bytes
  isSealed : sealBody toDraft position stamp = .ok body

def recordDigestOf (body : Bytes) : String :=
  sha256Hex (ascii recordTag ++ 0x00 :: body)

def Record.recordDigest (record : Record) : String := recordDigestOf record.body

def sealRecord (draft : Draft) (position : Position) (stamp : Stamp) : Except Failure Record :=
  match outcome : sealBody draft position stamp with
  | .error failure => .error failure
  | .ok body => .ok { draft with position, stamp, body, isSealed := outcome }

def contentPayload (record : Record) : Json :=
  .obj [("schema_version", .nat record.payload.schemaVersion),
    ("journal_generation", .nat record.position.journalGeneration),
    ("event_id", .str record.eventId), ("event_type", .str record.payload.eventType),
    ("actor", .str record.payload.actor), ("ids", .obj record.payload.ids),
    ("data", .obj record.payload.data)]

def contentDigest (record : Record) : Except Failure String :=
  liftJson (taggedDigest contentTag (contentPayload record))

theorem validateEnvelope_eq_ok {draft : Draft} {position : Position} {stamp : Stamp} :
    validateEnvelope draft position stamp = .ok () ↔
      (1 ≤ position.journalGeneration ∧ position.journalGeneration ≤ maxGeneration) ∧
      isId draft.eventId = true ∧
      (1 ≤ position.eventSeq ∧ position.eventSeq ≤ maxSeq) ∧
      (1 ≤ position.commitSeq ∧ position.commitSeq ≤ maxSeq) ∧
      (1 ≤ position.commitSize ∧ position.commitSize ≤ maxCommitRecords) ∧
      position.commitIndex < position.commitSize ∧
      isId stamp.bootId = true ∧ isWallTime stamp.wallTime = true ∧ stamp.monoUs ≤ maxSeq ∧
      isHex64 position.prevRecordDigest = true ∧
      (position.eventSeq = 1 ↔ position.prevRecordDigest = zeroDigest) ∧
      validatePayload draft.eventId draft.payload = .ok () := by
  simp [validateEnvelope]

theorem sealBody_eq_ok {draft : Draft} {position : Position} {stamp : Stamp} {body : Bytes} :
    sealBody draft position stamp = .ok body ↔
      validateEnvelope draft position stamp = .ok () ∧
        canonicalJson true (envelope draft position stamp) = .ok body ∧
        body.length ≤ maxRecordBytes ∧ ∀ cap ∈ privateCap draft.payload, body.length ≤ cap := by
  simp only [sealBody, bind_eq_ok, exists_unit, jsonOr_eq_ok, failIf_eq_ok, pure_eq_ok, not_lt,
    not_exists, not_and]
  constructor
  · rintro ⟨valid, _, encoded, small, capped, rfl⟩
    exact ⟨valid, encoded, small, capped⟩
  · rintro ⟨valid, encoded, small, capped⟩
    exact ⟨valid, body, encoded, small, capped, rfl⟩

theorem sealRecord_eq_ok {draft : Draft} {position : Position} {stamp : Stamp} {record : Record} :
    sealRecord draft position stamp = .ok record ↔
      record.toDraft = draft ∧ record.position = position ∧ record.stamp = stamp := by
  constructor
  · intro sealed
    unfold sealRecord at sealed
    split at sealed
    · cases sealed
    · cases sealed
      exact ⟨rfl, rfl, rfl⟩
  · rintro ⟨rfl, rfl, rfl⟩
    unfold sealRecord
    split
    · rename_i failure outcome
      rw [record.isSealed] at outcome
      cases outcome
    · rename_i body outcome
      have same : record.body = body := by
        rw [record.isSealed] at outcome
        exact Except.ok.inj outcome
      subst same
      rfl

end ManyAlerts
