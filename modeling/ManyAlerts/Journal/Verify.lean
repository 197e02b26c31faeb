import ManyAlerts.Journal.PlanRun

/-!
# Verifying a commit

`verifyCommit` re-derives every field the journal computed and returns the
delta of the commit.  The claims of schema versions 2 and 3 are verified by
planning them again from the record's own arguments; the other records are
checked field by field.
-/

namespace ManyAlerts

/-! ## Deltas -/

def Record.headAfter (p : Projection) (record : Record) (commitSeq : Nat) : Head :=
  ⟨p.generation, commitSeq, record.position.eventSeq, record.recordDigest⟩

/-- The delta of a commit of the current boot that ends with `record`, before
what its kind adds. -/
def claimDelta (p : Projection) (record : Record) (commitSeq charge : Nat) : Delta where
  head := record.headAfter p commitSeq
  generation := p.generation
  bootId := record.stamp.bootId
  lastMonoUs := record.stamp.monoUs
  logicalBytes := p.logicalBytes + charge
  admissionCount := p.admissionCount
  lastArrivalSeq := p.lastArrivalSeq

/-! ## Schema version 1 -/

def genesisDelta (record : Record) (data : GenesisData) : Delta where
  head := ⟨record.position.journalGeneration, record.position.commitSeq,
    record.position.eventSeq, record.recordDigest⟩
  generation := record.position.journalGeneration
  journalUuid := some data.journalUuid
  bounds := some data.bounds
  bootId := record.stamp.bootId
  lastMonoUs := record.stamp.monoUs
  newBootId := some record.stamp.bootId
  logicalBytes := record.charge
  admissionCount := 0
  lastArrivalSeq := 0

def verifyGenesis (record : Record) (data : GenesisData) : Except Failure Delta := do
  failIf (¬(1 ≤ data.bounds.maxAdmissions ∧
      data.bounds.maxAdmissions ≤ boundCeilings.maxAdmissions) ∨
    ¬(1 ≤ data.bounds.maxPendingFingerprints ∧
      data.bounds.maxPendingFingerprints ≤ boundCeilings.maxPendingFingerprints) ∨
    ¬(1 ≤ data.bounds.ordinaryBytes ∧
      data.bounds.ordinaryBytes ≤ boundCeilings.ordinaryBytes) ∨
    ¬(1 ≤ data.bounds.totalBytes ∧ data.bounds.totalBytes ≤ boundCeilings.totalBytes)) mismatch
  failIf (data.bounds.totalBytes < data.bounds.ordinaryBytes) mismatch
  return genesisDelta record data

/-- A charge fits the region. -/
def checkFits (p : Projection) (region : Region) (charge : Nat) : Except Failure Unit := do
  let bounds ← orFail .attributeError p.bounds
  failIf (region.limit bounds < p.logicalBytes + charge) mismatch

def verifyRestart (p : Projection) (record : Record) (data : RestartRecoveryData)
    (commitSeq : Nat) : Except Failure Delta := do
  let head ← orFail .attributeError p.head
  failIf (data.recovered ≠ head.mark) mismatch
  checkFits p .total record.charge
  return { claimDelta p record commitSeq record.charge with
    newBootId := some record.stamp.bootId
    dispatchHoldAdd := some (.restartRecovery, commitSeq) }

/-- `_CAPACITY_LIMITS`. -/
def capacityLimit (bounds : JournalBounds) : CapacityCode → Option Nat
  | .admissions => some bounds.maxAdmissions
  | .pending => some bounds.maxPendingFingerprints
  | .bytes => some bounds.ordinaryBytes
  | _ => none

/-- `_CAPACITY_OBSERVED`. -/
def capacityObserved (p : Projection) : CapacityCode → Option Nat
  | .admissions => some p.admissionCount
  | .pending => some p.pending.size
  | .bytes => some p.logicalBytes
  | _ => none

def verifyCapacityHold (p : Projection) (record : Record) (data : CapacityHoldData)
    (commitSeq : Nat) : Except Failure Delta := do
  failIf (p.dispatchHolds.contains (.capacity data.code)) mismatch
  let bounds ← orFail .attributeError p.bounds
  let limit ← orFail .keyError (capacityLimit bounds data.code)
  let observed ← orFail .keyError (capacityObserved p data.code)
  failIf (data.limit ≠ limit ∨ data.observed ≠ observed) mismatch
  failIf (data.observed + data.requested ≤ data.limit) mismatch
  checkFits p .total record.charge
  return { claimDelta p record commitSeq record.charge with
    dispatchHoldAdd := some (.capacity data.code, commitSeq) }

def verifyIngressRefusal (p : Projection) (record : Record) (data : IngressRefusalData)
    (commitSeq : Nat) : Except Failure Delta := do
  failIf (data.refusalSeq ≠ p.refusalCount + 1) mismatch
  failIf (maxRefusalRecords < p.refusalCount + 1) mismatch
  failIf (data.summary.unreserved ∧
    maxRefusalRecords - refusalResolvedReserve < p.refusalUnreservedCount + 1) mismatch
  let key ← refusalKey data.summary
  failIf (data.refusalKey ≠ key ∨ key ∈ p.refusalKeys) mismatch
  checkFits p .ordinary record.charge
  return { claimDelta p record commitSeq record.charge with
    refusalKeyAdd := some key
    refusalUnreserved := data.summary.unreserved }

/-- A resume clears the restart hold, and is the first commit after the restart
that started this boot. -/
def verifyOperatorAction (p : Projection) (record : Record) (data : OperatorActionData)
    (commitSeq : Nat) : Except Failure Delta := do
  let since ← orFail mismatch (p.dispatchHolds.get? .restartRecovery)
  failIf (privateClaimsOutstanding p) mismatch
  failIf (data.sinceCommitSeq ≠ since) mismatch
  let head ← orFail .attributeError p.head
  failIf (some head.commitSeq ≠ p.bootStartCommitSeq) mismatch
  let recovered ← orFail mismatch p.bootRecovered
  failIf (data.inspected ≠ recovered.mark) mismatch
  let pending ← pendingDigest p
  failIf (data.pendingDigest ≠ pending) mismatch
  checkFits p .total record.charge
  return { claimDelta p record commitSeq record.charge with
    dispatchHoldClear := some .restartRecovery
    resumeCommitSeq := some commitSeq }

def verifyAdmissionPair (p : Projection) (admission dedupe : Record) (a : AdmissionData)
    (d : DedupeDecisionData) (commitSeq : Nat) : Except Failure Delta := do
  failIf (a.admissionId ≠ admission.eventId ∨ d.admissionId ≠ a.admissionId) (.replay .shape)
  let source ← sourceFromJson a.source
  let digest ← sourceDigest source
  failIf (digest ≠ a.sourceDigest) mismatch
  let decision ← decideAdmission p source a.admissionId
  let bounds ← orFail .attributeError p.bounds
  failIf (bounds.maxAdmissions < p.admissionCount + 1) mismatch
  failIf (decision.result ≠ .suppressed ∧
    bounds.maxPendingFingerprints < p.pending.size + decision.newPending) mismatch
  checkFits p .ordinary (admission.charge + dedupe.charge)
  let activeHolds := dispatchHolds p
  let key ← dedupeKey source
  failIf (a.arrivalSeq ≠ p.lastArrivalSeq + 1 ∨
    a.decision ≠ (if activeHolds.isEmpty then .admitted else .held) ∨
    a.dispatchHolds ≠ activeHolds) mismatch
  failIf (d.result ≠ decision.result ∨ d.sourceGroup ≠ source.sourceGroup ∨
    d.dedupeKey ≠ key ∨ d.baselineBefore ≠ decision.baselineBefore ∨
    d.baselineAfter ≠ decision.baselineAfter ∨ d.superseded ≠ decision.superseded ∨
    d.pendingCountAfter ≠ pendingCountAfter p decision) mismatch
  return { claimDelta p dedupe commitSeq (admission.charge + dedupe.charge) with
    admissionCount := p.admissionCount + 1
    lastArrivalSeq := p.lastArrivalSeq + 1
    baselineUpdate := some (source.sourceGroup, decision.baselineAfter)
    pendingUpdates := pendingUpdates source decision a.admissionId (p.lastArrivalSeq + 1) }

/-! ## Replanned claims -/

/-- The charge of a plan whose record has the same body. -/
def sameBody (record : Record) : Planned → Except Failure Nat
  | .plan ⟨expected :: _, charge⟩ => do
      failIf (expected.body ≠ record.body ∨ expected.recordDigest ≠ record.recordDigest) mismatch
      return charge
  | _ => .error mismatch

/-- `_verify_exact_claim_plan`: the same identities and data as well. -/
def sameClaim (record : Record) : Planned → Except Failure Nat
  | .plan ⟨expected :: _, charge⟩ => do
      failIf (expected.body ≠ record.body ∨ expected.recordDigest ≠ record.recordDigest ∨
        expected.payload ≠ record.payload) mismatch
      return charge
  | _ => .error mismatch

def checkCap (record : Record) : Except Failure Unit :=
  failIf (∃ cap ∈ privateCap record.payload, cap < record.body.length) mismatch

/-- Verify a claim by planning it again, with its byte cap. -/
def verifyExact (record : Record) (planned : Except Failure Planned) (delta : Nat → Delta) :
    Except Failure Delta := do
  checkCap record
  let planned ← planned
  let charge ← sameClaim record planned
  return delta charge

def RunHoldData.held (data : RunHoldData) (commitSeq : Nat) : RunHold :=
  ⟨data.admissionId, data.reason, commitSeq, data.memberDigest⟩

def verifyRunHold (p : Projection) (record : Record) (data : RunHoldData) (commitSeq : Nat) :
    Except Failure Delta := do
  checkCap record
  let planned ← planRunHold p data.jobId data.admissionId record.eventId data.reason record.stamp
  let charge ← sameBody record planned
  return { claimDelta p record commitSeq charge with
    runHoldAdd := some (data.jobId, data.held commitSeq) }

def ReservationIntentData.claim (data : ReservationIntentData) (journalUuid : String)
    (generation commitSeq : Nat) : ReservationIntentClaim :=
  ⟨journalUuid, generation, data.ids, data.intentDigest, data.basedOnCommitSeq, commitSeq⟩

def verifyReservationIntent (p : Projection) (record : Record) (data : ReservationIntentData)
    (commitSeq : Nat) : Except Failure Delta := do
  let planned ← planReservationIntent p data.ids record.stamp
  let charge ← sameBody record planned
  let journalUuid ← orFail mismatch p.journalUuid
  return { claimDelta p record commitSeq charge with
    reservationIntentAdd := some (data.claim journalUuid p.generation commitSeq) }

def InitialReservationIntentData.claim (data : InitialReservationIntentData)
    (journalUuid : String) (generation commitSeq : Nat) : InitialReservationIntentClaim :=
  ⟨journalUuid, generation, data.ids, data.memberCount, data.memberDigest, data.intentDigest,
    data.basedOnCommitSeq, commitSeq⟩

def verifyInitialReservationIntent (p : Projection) (record : Record)
    (data : InitialReservationIntentData) (commitSeq : Nat) : Except Failure Delta := do
  let planned ← planInitialReservationIntent p data.ids record.stamp
  let charge ← sameBody record planned
  let journalUuid ← orFail mismatch p.journalUuid
  return { claimDelta p record commitSeq charge with
    initialReservationIntentAdd := some (data.claim journalUuid p.generation commitSeq) }

def ReservationConfirmationData.event (data : ReservationConfirmationData) : LedgerEvent :=
  ⟨data.ledgerUuid, data.ledgerGeneration, data.ledgerEventId, data.sequence, data.eventDigest⟩

def ReservationConfirmationData.claim (data : ReservationConfirmationData) (eventId : String)
    (commitSeq : Nat) : ReservationConfirmationClaim :=
  ⟨data.intentId, eventId, data.intentDigest, data.ledgerUuid, data.ledgerGeneration,
    data.ledgerEventId, data.sequence, data.eventDigest, commitSeq⟩

def verifyReservationConfirmation (p : Projection) (record : Record)
    (data : ReservationConfirmationData) (commitSeq : Nat) : Except Failure Delta := do
  let planned ← planReservationConfirmation p data.intentId record.eventId data.event record.stamp
  let charge ← sameBody record planned
  return { claimDelta p record commitSeq charge with
    reservationConfirmationAdd := some (data.claim record.eventId commitSeq) }

def verifyInitialReservationConfirmation (p : Projection) (record : Record)
    (data : ReservationConfirmationData) (commitSeq : Nat) : Except Failure Delta := do
  let planned ←
    planInitialReservationConfirmation p data.intentId record.eventId data.event record.stamp
  let charge ← sameBody record planned
  return { claimDelta p record commitSeq charge with
    initialReservationConfirmationAdd := some (data.claim record.eventId commitSeq) }

def RunIntentData.claim (data : RunIntentData) (eventId digest : String)
    (generation commitSeq : Nat) : RunIntentClaim :=
  ⟨eventId, generation, data.ids, data.intentDigest, data.confirmationEventId, data.ledgerUuid,
    data.ledgerGeneration, data.ledgerEventId, data.sequence, data.eventDigest,
    data.ledgerHeadSequence, data.ledgerHeadDigest, data.memberCount, data.memberDigest,
    data.services, digest, commitSeq⟩

def verifyRunIntent (p : Projection) (record : Record) (data : RunIntentData) (digest : String)
    (commitSeq : Nat) : Except Failure Delta := do
  checkCap record
  let planned ← planRunIntent p data.ids.reservation.intentId record.eventId
    data.ledgerHeadSequence data.ledgerHeadDigest data.services record.stamp
  let charge ← sameBody record planned
  return { claimDelta p record commitSeq charge with
    runIntentAdd := some (data.claim record.eventId digest p.generation commitSeq) }

def LaunchClaimData.claim (data : LaunchClaimData) (eventId digest : String)
    (commitSeq : Nat) : LaunchClaim :=
  ⟨eventId, data.runIntentEventId, data.runIntentDigest, data.ids, data.receiverBootId,
    data.forwarderGeneration, data.barrierTokenDigest, data.originUs, data.workDeadlineUs,
    data.flushDeadlineUs, data.hardDeadlineUs, data.grants, digest, commitSeq⟩

def verifyLaunchClaim (p : Projection) (record : Record) (data : LaunchClaimData)
    (digest : String) (commitSeq : Nat) : Except Failure Delta :=
  verifyExact record
    (planLaunchClaim p record.eventId data.forwarderGeneration data.barrierTokenDigest
      data.grants record.stamp)
    fun charge => { claimDelta p record commitSeq charge with
      launchClaimAdd := some (data.claim record.eventId digest commitSeq) }

def SpawnAttestationData.witness (data : SpawnAttestationData) : SpawnWitness :=
  ⟨data.blockedAckDigest, data.anchorKeyDigest, data.witnessKind, data.verifierVersion,
    data.witnessLocator, data.witnessIdentityDigest, data.registryEntryDigest⟩

def SpawnAttestationData.claim (data : SpawnAttestationData) (eventId digest : String)
    (commitSeq : Nat) : SpawnAttestationClaim :=
  ⟨eventId, digest, data.launchClaimEventId, data.ids.reservation.runId,
    data.ids.reservation.attemptId, data.receiverBootId, data.observedUs, data.witnessLocator,
    data.witnessIdentityDigest, commitSeq⟩

def verifySpawnAttestation (p : Projection) (record : Record) (data : SpawnAttestationData)
    (digest : String) (commitSeq : Nat) : Except Failure Delta :=
  verifyExact record (planSpawnAttestation p record.eventId data.witness record.stamp)
    fun charge => { claimDelta p record commitSeq charge with
      spawnAttestationAdd := some (data.claim record.eventId digest commitSeq) }

def ReleaseIntentData.claim (data : ReleaseIntentData) (eventId digest : String)
    (commitSeq : Nat) : ReleaseIntentClaim :=
  ⟨eventId, digest, data.spawnAttestationEventId, data.receiverBootId, data.intendedReleaseUs,
    data.activatedGrants, commitSeq⟩

def verifyReleaseIntent (p : Projection) (record : Record) (data : ReleaseIntentData)
    (digest : String) (commitSeq : Nat) : Except Failure Delta :=
  verifyExact record (planReleaseIntent p record.eventId data.activatedGrants record.stamp)
    fun charge => { claimDelta p record commitSeq charge with
      releaseIntentAdd := some (data.claim record.eventId digest commitSeq) }

def ReleaseObservationData.claim (data : ReleaseObservationData) (eventId digest : String)
    (commitSeq : Nat) : ReleaseObservationClaim :=
  ⟨eventId, digest, data.releaseIntentEventId, data.receiverBootId, data.observedUs, commitSeq⟩

def verifyReleaseObservation (p : Projection) (record : Record) (data : ReleaseObservationData)
    (digest : String) (commitSeq : Nat) : Except Failure Delta :=
  verifyExact record (planReleaseObservation p record.eventId data.ackDigest record.stamp)
    fun charge => { claimDelta p record commitSeq charge with
      releaseObservationAdd := some (data.claim record.eventId digest commitSeq) }

def EffectIntentData.request (data : EffectIntentData) : EffectRequest :=
  ⟨data.operationId, data.service, data.routeId, data.grantId, data.scopeDigest, data.flightId,
    data.forwarderReceiptId, data.requestDigest, data.targetDigest, data.expiresUs⟩

def EffectIntentData.claim (data : EffectIntentData) (eventId digest : String)
    (commitSeq : Nat) : EffectIntentClaim :=
  ⟨eventId, digest, data.operationId, data.runId, data.attemptId, data.receiverBootId,
    data.forwarderGeneration, data.service, data.routeId, data.grantId, data.scopeDigest,
    data.flightId, data.forwarderReceiptId, data.requestDigest, data.targetDigest,
    data.observedUs, data.expiresUs, commitSeq⟩

def verifyEffectIntent (p : Projection) (record : Record) (data : EffectIntentData)
    (digest : String) (commitSeq : Nat) : Except Failure Delta :=
  verifyExact record (planEffectIntent p record.eventId data.request record.stamp)
    fun charge => { claimDelta p record commitSeq charge with
      effectIntentAdd := some (data.claim record.eventId digest commitSeq) }

def EffectReceiptData.claim (data : EffectReceiptData) (eventId digest : String)
    (commitSeq : Nat) : EffectReceiptClaim :=
  ⟨eventId, digest, data.operationId, data.effectIntentEventId, data.receiverBootId,
    data.claimedDispatchState, data.claimedReason, data.finalizedReceiptDigest,
    data.observedUs, commitSeq⟩

def verifyEffectReceipt (p : Projection) (record : Record) (data : EffectReceiptData)
    (digest : String) (commitSeq : Nat) : Except Failure Delta :=
  verifyExact record
    (planEffectReceipt p record.eventId data.operationId data.claimedDispatchState
      data.claimedReason data.finalizedReceiptDigest record.stamp)
    fun charge => { claimDelta p record commitSeq charge with
      effectReceiptAdd := some (data.claim record.eventId digest commitSeq) }

def SupervisionActionIntentData.claim (data : SupervisionActionIntentData)
    (eventId digest : String) (commitSeq : Nat) : SupervisionActionIntentClaim :=
  ⟨eventId, digest, data.actionId, data.actionKind, data.phase, data.phaseEventId,
    data.service, data.grantId, data.observedUs, commitSeq⟩

def verifySupervisionActionIntent (p : Projection) (record : Record)
    (data : SupervisionActionIntentData) (digest : String) (commitSeq : Nat) :
    Except Failure Delta :=
  verifyExact record
    (planSupervisionActionIntent p record.eventId data.actionId data.actionKind data.service
      data.grantId record.stamp)
    fun charge => { claimDelta p record commitSeq charge with
      supervisionActionIntentAdd := some (data.claim record.eventId digest commitSeq) }

def SupervisionActionResultData.claim (data : SupervisionActionResultData)
    (eventId digest : String) (commitSeq : Nat) : SupervisionActionResultClaim :=
  ⟨eventId, digest, data.actionId, data.actionIntentEventId, data.claimedOutcome,
    data.observedUs, commitSeq⟩

def verifySupervisionActionResult (p : Projection) (record : Record)
    (data : SupervisionActionResultData) (digest : String) (commitSeq : Nat) :
    Except Failure Delta :=
  verifyExact record
    (planSupervisionActionResult p record.eventId data.actionId data.claimedOutcome
      record.stamp)
    fun charge => { claimDelta p record commitSeq charge with
      supervisionActionResultAdd := some (data.claim record.eventId digest commitSeq) }

def ProcessObservationData.claim (data : ProcessObservationData) (eventId digest : String)
    (commitSeq : Nat) : ProcessObservationClaim :=
  ⟨eventId, digest, data.base.launchClaimEventId, data.base.receiverBootId, data.facts,
    data.sourceDigest, data.base.observedUs, commitSeq⟩

def verifyProcessObservation (p : Projection) (record : Record) (data : ProcessObservationData)
    (digest : String) (commitSeq : Nat) : Except Failure Delta :=
  verifyExact record
    (planProcessObservation p record.eventId data.facts data.sourceDigest record.stamp)
    fun charge => { claimDelta p record commitSeq charge with
      processObservationAdd := some (data.claim record.eventId digest commitSeq) }

def TerminalObservationData.claim (data : TerminalObservationData) (eventId digest : String)
    (commitSeq : Nat) : TerminalObservationClaim :=
  ⟨eventId, digest, data.process.eventId, data.base.receiverBootId, data.summary,
    data.base.observedUs, commitSeq⟩

def verifyTerminalObservation (p : Projection) (record : Record)
    (data : TerminalObservationData) (digest : String) (commitSeq : Nat) :
    Except Failure Delta :=
  verifyExact record (planTerminalObservation p record.eventId data.summary record.stamp)
    fun charge => { claimDelta p record commitSeq charge with
      terminalObservationAdd := some (data.claim record.eventId digest commitSeq) }

def ExecutionAssessmentData.claim (data : ExecutionAssessmentData) (eventId digest : String)
    (commitSeq : Nat) : ExecutionAssessmentClaim :=
  ⟨eventId, digest, data.process.eventId, data.terminal.eventId, data.base.receiverBootId,
    data.assessment, data.base.observedUs, commitSeq⟩

def verifyExecutionAssessment (p : Projection) (record : Record)
    (data : ExecutionAssessmentData) (digest : String) (commitSeq : Nat) :
    Except Failure Delta :=
  verifyExact record (planExecutionAssessment p record.eventId record.stamp)
    fun charge => { claimDelta p record commitSeq charge with
      executionAssessmentAdd := some (data.claim record.eventId digest commitSeq) }

def ReconciliationData.report (data : ReconciliationData) : ReadbackReport :=
  ⟨data.reportedState, data.sourceEvidenceDigest, data.versionDigest⟩

def ReconciliationData.claim (data : ReconciliationData) (eventId digest : String)
    (commitSeq : Nat) : ReconciliationObservationClaim :=
  ⟨eventId, digest, data.operationId, data.effectIntentEventId, data.receiverBootId,
    data.observationIndex, data.sourceKind, data.reportedState, data.sourceEvidenceDigest,
    data.targetDigest, data.versionDigest, data.observedUs, commitSeq⟩

def verifyReconciliationObservation (p : Projection) (record : Record)
    (data : ReconciliationData) (digest : String) (commitSeq : Nat) : Except Failure Delta :=
  verifyExact record
    (planReconciliationObservation p record.eventId data.operationId data.report record.stamp)
    fun charge => { claimDelta p record commitSeq charge with
      reconciliationObservationAdd := some (data.claim record.eventId digest commitSeq) }

def RestartReconciliationData.claim (data : RestartReconciliationData) (eventId digest : String)
    (commitSeq : Nat) : RestartReconciliationClaim :=
  ⟨eventId, digest, data.common.operationId, data.common.effectIntentEventId,
    data.common.receiverBootId, data.priorEffectBootId, data.restartCommitSeq,
    data.restartRecordDigest, data.common.observationIndex, data.common.sourceKind,
    data.common.reportedState, data.common.sourceEvidenceDigest, data.common.targetDigest,
    data.common.versionDigest, data.common.observedUs, commitSeq⟩

def verifyRestartReconciliationObservation (p : Projection) (record : Record)
    (data : RestartReconciliationData) (digest : String) (commitSeq : Nat) :
    Except Failure Delta :=
  verifyExact record
    (planRestartReconciliationObservation p record.eventId data.common.operationId
      data.common.report record.stamp)
    fun charge => { claimDelta p record commitSeq charge with
      restartReconciliationAdd := some (data.claim record.eventId digest commitSeq) }

/-! ## The commit -/

/-- A commit of the current boot whose clock has not gone back. -/
def checkBoot (p : Projection) (record : Record) : Except Failure Unit := do
  failIf (some record.stamp.bootId ≠ p.bootId) (.replay .boot)
  failIf (record.stamp.monoUs < p.lastMonoUs) (.replay .clock)

/-- A commit of one record, after the checks every commit passes. -/
def verifySingle (p : Projection) (record : Record) (commitSeq : Nat) : Except Failure Delta :=
  let current (verified : Except Failure Delta) : Except Failure Delta := do
    checkBoot p record
    verified
  match record.payload with
  | .journalGenesis data => do
      failIf (p.journalUuid.isSome ∨ p.head.isSome) (.replay .boot)
      verifyGenesis record data
  | .restartRecovery data => do
      failIf (record.stamp.bootId ∈ p.seenBootIds) (.replay .boot)
      failIf (some data.previousBootId ≠ p.bootId) (.replay .boot)
      verifyRestart p record data commitSeq
  | .admission _ => .error (.replay .shape)
  | .dedupeDecision _ => .error (.replay .shape)
  | .capacityHold data => current (verifyCapacityHold p record data commitSeq)
  | .ingressRefusal data => current (verifyIngressRefusal p record data commitSeq)
  | .operatorAction data => current (verifyOperatorAction p record data commitSeq)
  | .runHold data => current (verifyRunHold p record data commitSeq)
  | .reservationIntent data => current (verifyReservationIntent p record data commitSeq)
  | .initialReservationIntent data =>
      current (verifyInitialReservationIntent p record data commitSeq)
  | .reservationConfirmation data =>
      current (verifyReservationConfirmation p record data commitSeq)
  | .initialReservationConfirmation data =>
      current (verifyInitialReservationConfirmation p record data commitSeq)
  | .runIntent data digest => current (verifyRunIntent p record data digest commitSeq)
  | .launchClaim data digest => current (verifyLaunchClaim p record data digest commitSeq)
  | .spawnAttestation data digest =>
      current (verifySpawnAttestation p record data digest commitSeq)
  | .releaseIntent data digest => current (verifyReleaseIntent p record data digest commitSeq)
  | .releaseObservation data digest =>
      current (verifyReleaseObservation p record data digest commitSeq)
  | .effectIntent data digest => current (verifyEffectIntent p record data digest commitSeq)
  | .effectReceipt data digest => current (verifyEffectReceipt p record data digest commitSeq)
  | .supervisionActionIntent data digest =>
      current (verifySupervisionActionIntent p record data digest commitSeq)
  | .supervisionActionResult data digest =>
      current (verifySupervisionActionResult p record data digest commitSeq)
  | .processObservation data digest =>
      current (verifyProcessObservation p record data digest commitSeq)
  | .terminalObservation data digest =>
      current (verifyTerminalObservation p record data digest commitSeq)
  | .executionAssessment data digest =>
      current (verifyExecutionAssessment p record data digest commitSeq)
  | .reconciliationObservation data digest =>
      current (verifyReconciliationObservation p record data digest commitSeq)
  | .restartReconciliationObservation data digest =>
      current (verifyRestartReconciliationObservation p record data digest commitSeq)

/-- Each record follows the one before it. -/
def checkChain (eventSeq : Nat) (prevDigest : String) : List Record → Except Failure Unit
  | [] => .ok ()
  | record :: records => do
      failIf (record.position.eventSeq ≠ eventSeq ∨
        record.position.prevRecordDigest ≠ prevDigest) (.replay .chain)
      checkChain (eventSeq + 1) record.recordDigest records

/-- The records are one whole commit. -/
def checkFraming (first : Record) (records : List Record) : Except Failure Unit := do
  failIf (records.length ≠ first.position.commitSize) (.replay .framing)
  failIf (∃ entry ∈ records.zipIdx, entry.1.position.commitSeq ≠ first.position.commitSeq ∨
    entry.1.position.commitSize ≠ first.position.commitSize ∨
    entry.1.position.commitIndex ≠ entry.2) (.replay .framing)

def verifyShape (p : Projection) (records : List Record) (commitSeq : Nat) :
    Except Failure Delta :=
  match records with
  | [record] => verifySingle p record commitSeq
  | [admission, dedupe] =>
      match admission.payload, dedupe.payload with
      | .admission a, .dedupeDecision d => do
          checkBoot p admission
          verifyAdmissionPair p admission dedupe a d commitSeq
      | _, _ => .error (.replay .shape)
  | _ => .error (.replay .shape)

def verifyCommit (p : Projection) (records : List Record) : Except Failure Delta :=
  match records with
  | [] => .error (.replay .framing)
  | first :: _ => do
      checkFraming first records
      failIf (first.position.commitSeq ≠ (p.head.map Head.commitSeq).getD 0 + 1)
        (.replay .framing)
      checkChain ((p.head.map Head.eventSeq).getD 0 + 1)
        ((p.head.map Head.recordDigest).getD zeroDigest) records
      -- Genesis opens generation 1; every later record stays in the projection's.
      failIf (∃ record ∈ records,
        record.position.journalGeneration ≠ if p.generation = 0 then 1 else p.generation)
        (.replay .generation)
      failIf (∃ record ∈ records, record.stamp.bootId ≠ first.stamp.bootId) (.replay .boot)
      failIf (∃ record ∈ records, record.stamp.wallTime ≠ first.stamp.wallTime ∨
        record.stamp.monoUs ≠ first.stamp.monoUs) (.replay .clock)
      verifyShape p records first.position.commitSeq

end ManyAlerts
