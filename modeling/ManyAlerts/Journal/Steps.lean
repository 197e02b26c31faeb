import ManyAlerts.Journal.Guards

/-!
# What an accepted commit is

`CommitStep` lists the commits replay accepts, one constructor per kind, with
the delta each leaves.  A replanned claim is there with the equation that its
planner, run on the projection before it, returns exactly that record;
`ClaimCall` names these planners.  The relation agrees with `verifyCommit`;
everything about histories is proved by cases on it.
-/

namespace ManyAlerts

/-- The position of the next commit's only record. -/
def nextPosition (p : Projection) : Position :=
  ⟨if p.generation = 0 then 1 else p.generation, (p.head.map Head.eventSeq).getD 0 + 1,
    (p.head.map Head.commitSeq).getD 0 + 1, 0, 1,
    (p.head.map Head.recordDigest).getD zeroDigest⟩

/-- The delta of a single record of the current boot, before what its kind adds. -/
def currentDelta (p : Projection) (record : Record) : Delta :=
  claimDelta p record record.position.commitSeq record.charge

/-- The planner returned exactly this record. -/
def Plans (record : Record) (planned : Except Failure Planned) : Prop :=
  planned = .ok (.plan ⟨[record], record.charge⟩)

/-- The planners whose records replay plans again. -/
inductive ClaimCall where
  | runHold (jobId admissionId eventId : String) (reason : RunHoldReason)
  | reservationIntent (ids : ReservationIds)
  | initialReservationIntent (ids : ReservationIds)
  | reservationConfirmation (intentId eventId : String) (event : LedgerEvent)
  | initialReservationConfirmation (intentId eventId : String) (event : LedgerEvent)
  | runIntent (intentId eventId : String) (ledgerHeadSequence : Nat)
      (ledgerHeadDigest : String) (services : List ServiceClaim)
  | launchClaim (eventId forwarderGeneration barrierTokenDigest : String)
      (grants : List Grant)
  | spawnAttestation (eventId : String) (witness : SpawnWitness)
  | releaseIntent (eventId : String) (activatedGrants : List Activation)
  | releaseObservation (eventId ackDigest : String)
  | effectIntent (eventId : String) (request : EffectRequest)
  | effectReceipt (eventId operationId : String) (claimedDispatchState : DispatchState)
      (claimedReason : DispatchReason) (finalizedReceiptDigest : String)
  | supervisionActionIntent (eventId actionId : String) (actionKind : ActionKind)
      (service : Option Service) (grantId : Option String)
  | supervisionActionResult (eventId actionId : String) (claimedOutcome : ActionOutcome)
  | processObservation (eventId : String) (facts : ProcessFacts) (sourceDigest : String)
  | terminalObservation (eventId : String) (summary : TerminalSummary)
  | executionAssessment (eventId : String)
  | reconciliationObservation (eventId operationId : String) (report : ReadbackReport)
  | restartReconciliationObservation (eventId operationId : String) (report : ReadbackReport)

def ClaimCall.run (p : Projection) (stamp : Stamp) : ClaimCall → Except Failure Planned
  | .runHold jobId admissionId eventId reason =>
      planRunHold p jobId admissionId eventId reason stamp
  | .reservationIntent ids => planReservationIntent p ids stamp
  | .initialReservationIntent ids => planInitialReservationIntent p ids stamp
  | .reservationConfirmation intentId eventId event =>
      planReservationConfirmation p intentId eventId event stamp
  | .initialReservationConfirmation intentId eventId event =>
      planInitialReservationConfirmation p intentId eventId event stamp
  | .runIntent intentId eventId ledgerHeadSequence ledgerHeadDigest services =>
      planRunIntent p intentId eventId ledgerHeadSequence ledgerHeadDigest services stamp
  | .launchClaim eventId forwarderGeneration barrierTokenDigest grants =>
      planLaunchClaim p eventId forwarderGeneration barrierTokenDigest grants stamp
  | .spawnAttestation eventId witness => planSpawnAttestation p eventId witness stamp
  | .releaseIntent eventId activatedGrants => planReleaseIntent p eventId activatedGrants stamp
  | .releaseObservation eventId ackDigest => planReleaseObservation p eventId ackDigest stamp
  | .effectIntent eventId request => planEffectIntent p eventId request stamp
  | .effectReceipt eventId operationId claimedDispatchState claimedReason
      finalizedReceiptDigest =>
      planEffectReceipt p eventId operationId claimedDispatchState claimedReason
        finalizedReceiptDigest stamp
  | .supervisionActionIntent eventId actionId actionKind service grantId =>
      planSupervisionActionIntent p eventId actionId actionKind service grantId stamp
  | .supervisionActionResult eventId actionId claimedOutcome =>
      planSupervisionActionResult p eventId actionId claimedOutcome stamp
  | .processObservation eventId facts sourceDigest =>
      planProcessObservation p eventId facts sourceDigest stamp
  | .terminalObservation eventId summary => planTerminalObservation p eventId summary stamp
  | .executionAssessment eventId => planExecutionAssessment p eventId stamp
  | .reconciliationObservation eventId operationId report =>
      planReconciliationObservation p eventId operationId report stamp
  | .restartReconciliationObservation eventId operationId report =>
      planRestartReconciliationObservation p eventId operationId report stamp

/-- A record the current boot may add. -/
inductive ClaimStep (p : Projection) (record : Record) : Delta → Prop where
  | capacityHold {data : CapacityHoldData} {bounds : JournalBounds}
      (payload : record.payload = .capacityHold data)
      (free : ¬p.dispatchHolds.contains (.capacity data.code))
      (bounds_eq : p.bounds = some bounds)
      (limit : capacityLimit bounds data.code = some data.limit)
      (observed : capacityObserved p data.code = some data.observed)
      (exhausted : data.limit < data.observed + data.requested)
      (fits : p.logicalBytes + record.charge ≤ bounds.totalBytes) :
      ClaimStep p record { currentDelta p record with
        dispatchHoldAdd := some (.capacity data.code, record.position.commitSeq) }
  | ingressRefusal {data : IngressRefusalData} {bounds : JournalBounds}
      (payload : record.payload = .ingressRefusal data)
      (sequence : data.refusalSeq = p.refusalCount + 1)
      (room : p.refusalCount + 1 ≤ maxRefusalRecords)
      (unreservedRoom : data.summary.unreserved = true →
        p.refusalUnreservedCount + 1 ≤ maxRefusalRecords - refusalResolvedReserve)
      (keyed : refusalKey data.summary = .ok data.refusalKey)
      (fresh : data.refusalKey ∉ p.refusalKeys)
      (bounds_eq : p.bounds = some bounds)
      (fits : p.logicalBytes + record.charge ≤ bounds.ordinaryBytes) :
      ClaimStep p record { currentDelta p record with
        refusalKeyAdd := some data.refusalKey
        refusalUnreserved := data.summary.unreserved }
  | operatorAction {data : OperatorActionData} {bounds : JournalBounds} {head recovered : Head}
      (payload : record.payload = .operatorAction data)
      (held : p.dispatchHolds.get? .restartRecovery = some data.sinceCommitSeq)
      (unclaimed : privateClaimsOutstanding p = false)
      (head_eq : p.head = some head)
      (immediate : p.bootStartCommitSeq = some head.commitSeq)
      (recovered_eq : p.bootRecovered = some recovered)
      (inspected : data.inspected = recovered.mark)
      (pending : pendingDigest p = .ok data.pendingDigest)
      (bounds_eq : p.bounds = some bounds)
      (fits : p.logicalBytes + record.charge ≤ bounds.totalBytes) :
      ClaimStep p record { currentDelta p record with
        dispatchHoldClear := some .restartRecovery
        resumeCommitSeq := some record.position.commitSeq }
  | runHold {data : RunHoldData}
      (payload : record.payload = .runHold data)
      (planned : Plans record (planRunHold p data.jobId data.admissionId record.eventId
        data.reason record.stamp)) :
      ClaimStep p record { currentDelta p record with
        runHoldAdd := some (data.jobId, data.held record.position.commitSeq) }
  | reservationIntent {data : ReservationIntentData} {journalUuid : String}
      (payload : record.payload = .reservationIntent data)
      (uuid_eq : p.journalUuid = some journalUuid)
      (planned : Plans record (planReservationIntent p data.ids record.stamp)) :
      ClaimStep p record { currentDelta p record with
        reservationIntentAdd :=
          some (data.claim journalUuid p.generation record.position.commitSeq) }
  | initialReservationIntent {data : InitialReservationIntentData} {journalUuid : String}
      (payload : record.payload = .initialReservationIntent data)
      (uuid_eq : p.journalUuid = some journalUuid)
      (planned : Plans record (planInitialReservationIntent p data.ids record.stamp)) :
      ClaimStep p record { currentDelta p record with
        initialReservationIntentAdd :=
          some (data.claim journalUuid p.generation record.position.commitSeq) }
  | reservationConfirmation {data : ReservationConfirmationData}
      (payload : record.payload = .reservationConfirmation data)
      (planned : Plans record (planReservationConfirmation p data.intentId record.eventId
        data.event record.stamp)) :
      ClaimStep p record { currentDelta p record with
        reservationConfirmationAdd :=
          some (data.claim record.eventId record.position.commitSeq) }
  | initialReservationConfirmation {data : ReservationConfirmationData}
      (payload : record.payload = .initialReservationConfirmation data)
      (planned : Plans record (planInitialReservationConfirmation p data.intentId
        record.eventId data.event record.stamp)) :
      ClaimStep p record { currentDelta p record with
        initialReservationConfirmationAdd :=
          some (data.claim record.eventId record.position.commitSeq) }
  | runIntent {data : RunIntentData} {digest : String}
      (payload : record.payload = .runIntent data digest)
      (planned : Plans record (planRunIntent p data.ids.reservation.intentId record.eventId
        data.ledgerHeadSequence data.ledgerHeadDigest data.services record.stamp)) :
      ClaimStep p record { currentDelta p record with
        runIntentAdd :=
          some (data.claim record.eventId digest p.generation record.position.commitSeq) }
  | launchClaim {data : LaunchClaimData} {digest : String}
      (payload : record.payload = .launchClaim data digest)
      (planned : Plans record (planLaunchClaim p record.eventId data.forwarderGeneration
        data.barrierTokenDigest data.grants record.stamp)) :
      ClaimStep p record { currentDelta p record with
        launchClaimAdd := some (data.claim record.eventId digest record.position.commitSeq) }
  | spawnAttestation {data : SpawnAttestationData} {digest : String}
      (payload : record.payload = .spawnAttestation data digest)
      (planned : Plans record
        (planSpawnAttestation p record.eventId data.witness record.stamp)) :
      ClaimStep p record { currentDelta p record with
        spawnAttestationAdd :=
          some (data.claim record.eventId digest record.position.commitSeq) }
  | releaseIntent {data : ReleaseIntentData} {digest : String}
      (payload : record.payload = .releaseIntent data digest)
      (planned : Plans record
        (planReleaseIntent p record.eventId data.activatedGrants record.stamp)) :
      ClaimStep p record { currentDelta p record with
        releaseIntentAdd := some (data.claim record.eventId digest record.position.commitSeq) }
  | releaseObservation {data : ReleaseObservationData} {digest : String}
      (payload : record.payload = .releaseObservation data digest)
      (planned : Plans record
        (planReleaseObservation p record.eventId data.ackDigest record.stamp)) :
      ClaimStep p record { currentDelta p record with
        releaseObservationAdd :=
          some (data.claim record.eventId digest record.position.commitSeq) }
  | effectIntent {data : EffectIntentData} {digest : String}
      (payload : record.payload = .effectIntent data digest)
      (planned : Plans record (planEffectIntent p record.eventId data.request record.stamp)) :
      ClaimStep p record { currentDelta p record with
        effectIntentAdd := some (data.claim record.eventId digest record.position.commitSeq) }
  | effectReceipt {data : EffectReceiptData} {digest : String}
      (payload : record.payload = .effectReceipt data digest)
      (planned : Plans record (planEffectReceipt p record.eventId data.operationId
        data.claimedDispatchState data.claimedReason data.finalizedReceiptDigest
        record.stamp)) :
      ClaimStep p record { currentDelta p record with
        effectReceiptAdd := some (data.claim record.eventId digest record.position.commitSeq) }
  | supervisionActionIntent {data : SupervisionActionIntentData} {digest : String}
      (payload : record.payload = .supervisionActionIntent data digest)
      (planned : Plans record (planSupervisionActionIntent p record.eventId data.actionId
        data.actionKind data.service data.grantId record.stamp)) :
      ClaimStep p record { currentDelta p record with
        supervisionActionIntentAdd :=
          some (data.claim record.eventId digest record.position.commitSeq) }
  | supervisionActionResult {data : SupervisionActionResultData} {digest : String}
      (payload : record.payload = .supervisionActionResult data digest)
      (planned : Plans record (planSupervisionActionResult p record.eventId data.actionId
        data.claimedOutcome record.stamp)) :
      ClaimStep p record { currentDelta p record with
        supervisionActionResultAdd :=
          some (data.claim record.eventId digest record.position.commitSeq) }
  | processObservation {data : ProcessObservationData} {digest : String}
      (payload : record.payload = .processObservation data digest)
      (planned : Plans record (planProcessObservation p record.eventId data.facts
        data.sourceDigest record.stamp)) :
      ClaimStep p record { currentDelta p record with
        processObservationAdd :=
          some (data.claim record.eventId digest record.position.commitSeq) }
  | terminalObservation {data : TerminalObservationData} {digest : String}
      (payload : record.payload = .terminalObservation data digest)
      (planned : Plans record
        (planTerminalObservation p record.eventId data.summary record.stamp)) :
      ClaimStep p record { currentDelta p record with
        terminalObservationAdd :=
          some (data.claim record.eventId digest record.position.commitSeq) }
  | executionAssessment {data : ExecutionAssessmentData} {digest : String}
      (payload : record.payload = .executionAssessment data digest)
      (planned : Plans record (planExecutionAssessment p record.eventId record.stamp)) :
      ClaimStep p record { currentDelta p record with
        executionAssessmentAdd :=
          some (data.claim record.eventId digest record.position.commitSeq) }
  | reconciliationObservation {data : ReconciliationData} {digest : String}
      (payload : record.payload = .reconciliationObservation data digest)
      (planned : Plans record (planReconciliationObservation p record.eventId
        data.operationId data.report record.stamp)) :
      ClaimStep p record { currentDelta p record with
        reconciliationObservationAdd :=
          some (data.claim record.eventId digest record.position.commitSeq) }
  | restartReconciliationObservation {data : RestartReconciliationData} {digest : String}
      (payload : record.payload = .restartReconciliationObservation data digest)
      (planned : Plans record (planRestartReconciliationObservation p record.eventId
        data.common.operationId data.common.report record.stamp)) :
      ClaimStep p record { currentDelta p record with
        restartReconciliationAdd :=
          some (data.claim record.eventId digest record.position.commitSeq) }

/-- What replay checks of an admission and its decision. -/
structure AdmissionStep (p : Projection) (admission dedupe : Record) (a : AdmissionData)
    (d : DedupeDecisionData) (source : SourceRecord) (key : String) (bounds : JournalBounds) :
    Prop where
  admission_payload : admission.payload = .admission a
  dedupe_payload : dedupe.payload = .dedupeDecision d
  admission_id : a.admissionId = admission.eventId
  dedupe_id : d.admissionId = a.admissionId
  parsed : sourceFromJson a.source = .ok source
  digested : sourceDigest source = .ok a.sourceDigest
  keyed : dedupeKey source = .ok key
  bounds_eq : p.bounds = some bounds
  room : p.admissionCount + 1 ≤ bounds.maxAdmissions
  pendingRoom : (decideWith p source a.admissionId key).result ≠ .suppressed →
    p.pending.size + (decideWith p source a.admissionId key).newPending ≤
      bounds.maxPendingFingerprints
  fits : p.logicalBytes + (admission.charge + dedupe.charge) ≤ bounds.ordinaryBytes
  arrival : a.arrivalSeq = p.lastArrivalSeq + 1
  decision : a.decision = if (dispatchHolds p).isEmpty then .admitted else .held
  holds : a.dispatchHolds = dispatchHolds p
  dedupe_eq : d = ⟨a.admissionId, (decideWith p source a.admissionId key).result,
    source.sourceGroup, key, (decideWith p source a.admissionId key).baselineBefore,
    (decideWith p source a.admissionId key).baselineAfter,
    (decideWith p source a.admissionId key).superseded,
    pendingCountAfter p (decideWith p source a.admissionId key)⟩

def admissionDelta (p : Projection) (admission dedupe : Record) (a : AdmissionData)
    (source : SourceRecord) (key : String) : Delta :=
  { claimDelta p dedupe admission.position.commitSeq (admission.charge + dedupe.charge) with
    admissionCount := p.admissionCount + 1
    lastArrivalSeq := p.lastArrivalSeq + 1
    baselineUpdate :=
      some (source.sourceGroup, (decideWith p source a.admissionId key).baselineAfter)
    pendingUpdates := pendingUpdates source (decideWith p source a.admissionId key)
      a.admissionId (p.lastArrivalSeq + 1) }

/-- A commit replay accepts on a projection, with its delta. -/
inductive CommitStep (p : Projection) : List Record → Delta → Prop where
  | genesis {record : Record} {data : GenesisData}
      (payload : record.payload = .journalGenesis data)
      (position : record.position = nextPosition p)
      (headless : p.head = none) (anonymous : p.journalUuid = none) :
      CommitStep p [record] (genesisDelta record data)
  | restart {record : Record} {data : RestartRecoveryData} {head : Head}
      {bounds : JournalBounds}
      (payload : record.payload = .restartRecovery data)
      (position : record.position = nextPosition p)
      (fresh : record.stamp.bootId ∉ p.seenBootIds)
      (previous : p.bootId = some data.previousBootId)
      (head_eq : p.head = some head) (recovered : data.recovered = head.mark)
      (bounds_eq : p.bounds = some bounds)
      (fits : p.logicalBytes + record.charge ≤ bounds.totalBytes) :
      CommitStep p [record] { currentDelta p record with
        newBootId := some record.stamp.bootId
        dispatchHoldAdd := some (.restartRecovery, record.position.commitSeq) }
  | current {record : Record} {delta : Delta}
      (position : record.position = nextPosition p)
      (boot : p.bootId = some record.stamp.bootId)
      (clock : p.lastMonoUs ≤ record.stamp.monoUs)
      (claim : ClaimStep p record delta) : CommitStep p [record] delta
  | admission {admission dedupe : Record} {a : AdmissionData} {d : DedupeDecisionData}
      {source : SourceRecord} {key : String} {bounds : JournalBounds}
      (position : admission.position = { nextPosition p with commitSize := 2 })
      (dedupePosition : dedupe.position = { nextPosition p with
        eventSeq := (nextPosition p).eventSeq + 1, commitIndex := 1, commitSize := 2,
        prevRecordDigest := admission.recordDigest })
      (stamp : dedupe.stamp = admission.stamp)
      (boot : p.bootId = some admission.stamp.bootId)
      (clock : p.lastMonoUs ≤ admission.stamp.monoUs)
      (pair : AdmissionStep p admission dedupe a d source key bounds) :
      CommitStep p [admission, dedupe] (admissionDelta p admission dedupe a source key)

end ManyAlerts
