import ManyAlerts.Journal.Plan

/-!
# Run planners

The planners of the claims from a run intent on.  Each claim carries a digest
of its event id, identities and data; each planner checks the claims before it
and the boot it belongs to, and none of them grants anything.
-/

namespace ManyAlerts

def maxEffectClaims : Nat := 64
def maxReconciliationPerOperation : Nat := 4
def maxRestartReconciliationPerOperation : Nat := 4

/-! ## Claim digests -/

/-- The digest tag of a claim family. -/
def Payload.claimTag : Payload → String
  | .runIntent _ _ => "rj.run-intent.v3"
  | .launchClaim _ _ => "rj.launch-claim.v3"
  | .spawnAttestation _ _ => "rj.spawn-attestation.v3"
  | .releaseIntent _ _ => "rj.release-intent.v3"
  | .releaseObservation _ _ => "rj.release-observation.v3"
  | .effectIntent _ _ => "rj.effect-intent.v3"
  | .effectReceipt _ _ => "rj.effect-receipt.v3"
  | .supervisionActionIntent _ _ => "rj.supervision-action-intent.v3"
  | .supervisionActionResult _ _ => "rj.supervision-action-result.v3"
  | .processObservation _ _ => "rj.process-observation.v3"
  | .terminalObservation _ _ => "rj.terminal-observation.v3"
  | .executionAssessment _ _ => "rj.execution-assessment.v3"
  | .reconciliationObservation _ _ => "rj.reconciliation-observation.v3"
  | .restartReconciliationObservation _ _ => "rj.restart-reconciliation-observation.v3"
  | _ => ""

/-- The digest of a claim; it does not read the digest the payload carries. -/
def claimDigestOf (eventId : String) (payload : Payload) : Except JsonErrorCode String :=
  taggedDigest payload.claimTag
    (.obj [("event_id", .str eventId), ("ids", .obj payload.ids), ("data", .obj payload.core)])

/-- Seal a claim under its digest. -/
def sealClaim (p : Projection) (head : Head) (eventId : String) (claim : String → Payload)
    (stamp : Stamp) : Except Failure Record := do
  let digest ← liftJson (claimDigestOf eventId (claim zeroDigest))
  sealRecord ⟨eventId, claim digest⟩ (singlePosition p head) stamp

/-- Charge a sealed claim within its byte cap. -/
def chargeClaim (p : Projection) (bounds : JournalBounds) (region : Region) (record : Record) :
    Except Failure Planned := do
  failIf (∃ cap ∈ privateCap record.payload, cap < record.body.length) mismatch
  return chargeRecords p bounds region [record]

def planClaim (p : Projection) (head : Head) (bounds : JournalBounds) (region : Region)
    (eventId : String) (claim : String → Payload) (stamp : Stamp) : Except Failure Planned := do
  let record ← sealClaim p head eventId claim stamp
  chargeClaim p bounds region record

def Head.basis (head : Head) : Basis := ⟨head.commitSeq, head.recordDigest⟩

/-! ## Run intent and launch claim -/

/-- All replayed identities a new run event or service claim cannot reuse. -/
def knownReservationIds (p : Projection) : List String :=
  p.journalUuid.toList ++ p.runHolds.keys ++ p.runHolds.values.map RunHold.admissionId ++
    p.intents.values.flatMap (fun claim => claim.ids.values) ++
    p.initialIntents.values.flatMap (fun claim => claim.ids.values) ++
    p.allConfirmations.flatMap fun claim =>
      [claim.confirmationEventId, claim.ledgerUuid, claim.ledgerEventId]

/-- The members of an admission are still those of the claim. -/
def checkMembers (p : Projection) (admissionId : String) (memberCount : Nat)
    (memberDigest : String) : Except Failure Unit := do
  let names := members p admissionId
  failIf (names.length ≠ memberCount) mismatch
  let digest ← membersDigest initialIntentMembersTag names
  failIf (digest ≠ memberDigest) mismatch

def runIntentData (head : Head) (initial : InitialReservationIntentClaim)
    (confirmation : ReservationConfirmationClaim) (ledgerHeadSequence : Nat)
    (ledgerHeadDigest : String) (services : List ServiceClaim) : RunIntentData :=
  ⟨⟨initial.journalUuid, initial.ids⟩, head.basis, initial.committedAtSeq,
    initial.intentDigest, confirmation.confirmationEventId, confirmation.committedAtSeq,
    confirmation.ledgerUuid, confirmation.ledgerGeneration, confirmation.ledgerEventId,
    confirmation.sequence, confirmation.eventDigest, ledgerHeadSequence, ledgerHeadDigest,
    initial.memberCount, initial.memberDigest, services⟩

def planRunIntent (p : Projection) (intentId eventId : String) (ledgerHeadSequence : Nat)
    (ledgerHeadDigest : String) (services : List ServiceClaim) (stamp : Stamp) :
    Except Failure Planned := do
  let (head, bounds) ← currentBoot p stamp
  failIf (p.dispatchHolds.isEmpty = false ∨ p.runHolds.isEmpty = false ∨ p.runIntent.isSome)
    mismatch
  let initial ← orFail mismatch (p.initialIntents.get? intentId)
  let confirmation ← orFail mismatch (p.initialConfirmations.get? intentId)
  failIf (confirmation.intentDigest ≠ initial.intentDigest ∨
    ¬(initial.committedAtSeq < confirmation.committedAtSeq ∧
      confirmation.committedAtSeq ≤ head.commitSeq)) mismatch
  checkMembers p initial.ids.admissionId initial.memberCount initial.memberDigest
  failIf (isUuid eventId = false ∨ eventId ∈ knownReservationIds p) mismatch
  failIf (¬(confirmation.sequence ≤ ledgerHeadSequence ∧ ledgerHeadSequence ≤ maxSeq) ∨
    isHex64 ledgerHeadDigest = false ∨
    (ledgerHeadSequence = confirmation.sequence ∧
      ledgerHeadDigest ≠ confirmation.eventDigest)) mismatch
  failIf (¬(4 ≤ services.length ∧ services.length ≤ 5)) mismatch
  let names := services.map ServiceClaim.service
  failIf (¬(names.map Service.text).Pairwise (· ≤ ·) ∨ ¬names.Nodup ∨
    ¬mandatoryServices.all (· ∈ names)) mismatch
  failIf (services.head?.map ServiceClaim.leaseClaimId ≠ some initial.ids.leaseId ∨
    ∃ claim ∈ services, isUuid claim.leaseClaimId = false ∨ isHex64 claim.scopeDigest = false)
    mismatch
  let fresh := eventId :: (services.drop 1).map ServiceClaim.leaseClaimId
  failIf (¬fresh.Nodup ∨ ∃ id ∈ fresh, id ∈ knownReservationIds p) mismatch
  planClaim p head bounds .ordinary eventId
    (.runIntent (runIntentData head initial confirmation ledgerHeadSequence ledgerHeadDigest
      services)) stamp

/-- The first commit of the current boot is not after a claim's commit. -/
def sinceBootStart (p : Projection) (committedAtSeq : Nat) : Bool :=
  p.bootStartCommitSeq.any (· ≤ committedAtSeq)

/-- A grant maps the run intent's service and expires within the work deadline. -/
def grantMatches (stamp : Stamp) (grant : Grant) (service : ServiceClaim) : Bool :=
  grant.service = service.service && grant.leaseClaimId = service.leaseClaimId &&
    grant.scopeDigest = service.scopeDigest && isId grant.grantId &&
    stamp.monoUs < grant.grantExpiryUs && grant.grantExpiryUs ≤ stamp.monoUs + 270000000

def launchClaimData (head : Head) (intent : RunIntentClaim)
    (forwarderGeneration barrierTokenDigest : String) (grants : List Grant) (stamp : Stamp) :
    LaunchClaimData :=
  ⟨intent.ids, head.basis, intent.runIntentId, intent.runIntentDigest, intent.committedAtSeq,
    stamp.bootId, forwarderGeneration, barrierTokenDigest, stamp.monoUs,
    stamp.monoUs + 270000000, stamp.monoUs + 290000000, stamp.monoUs + 300000000, grants⟩

def planLaunchClaim (p : Projection) (eventId forwarderGeneration barrierTokenDigest : String)
    (grants : List Grant) (stamp : Stamp) : Except Failure Planned := do
  let (head, bounds) ← currentBoot p stamp
  let intent ← orFail mismatch p.runIntent
  failIf (p.launchClaim.isSome ∨ p.dispatchHolds.isEmpty = false ∨ p.runHolds.isEmpty = false ∨
    sinceBootStart p intent.committedAtSeq = false ∨
    ¬(p.lastMonoUs ≤ stamp.monoUs ∧ stamp.monoUs ≤ maxSeq - 300000000)) mismatch
  let initial ← orFail mismatch (p.initialIntents.get? intent.ids.reservation.intentId)
  failIf (initial.ids.admissionId ≠ intent.ids.reservation.admissionId ∨
    initial.memberCount ≠ intent.memberCount ∨ initial.memberDigest ≠ intent.memberDigest)
    mismatch
  checkMembers p intent.ids.reservation.admissionId intent.memberCount intent.memberDigest
  failIf (isUuid eventId = false ∨ eventId ∈ knownReservationIds p ∨
    eventId = intent.runIntentId ∨ eventId ∈ intent.services.map ServiceClaim.leaseClaimId ∨
    isId forwarderGeneration = false ∨ isHex64 barrierTokenDigest = false) mismatch
  failIf (grants.length ≠ intent.services.length ∨
    ∃ row ∈ grants.zip intent.services, grantMatches stamp row.1 row.2 = false) mismatch
  failIf (¬(grants.map Grant.grantId).Nodup) mismatch
  planClaim p head bounds .ordinary eventId
    (.launchClaim (launchClaimData head intent forwarderGeneration barrierTokenDigest grants
      stamp)) stamp

/-! ## Spawn and release -/

/-- The event ids and operation ids of every claim in the projection. -/
def usedEventIds (p : Projection) : List String :=
  knownReservationIds p ++
    p.runIntent.toList.flatMap (fun claim =>
      claim.runIntentId :: claim.services.map ServiceClaim.leaseClaimId) ++
    p.launchClaim.toList.flatMap (fun claim =>
      claim.launchClaimId :: claim.grants.map Grant.grantId) ++
    p.spawnAttestation.toList.map SpawnAttestationClaim.eventId ++
    p.releaseIntent.toList.map ReleaseIntentClaim.eventId ++
    p.releaseObservation.toList.map ReleaseObservationClaim.eventId ++
    p.effectIntents.keys ++ p.effectIntents.values.map EffectIntentClaim.eventId ++
    p.effectReceipts.values.map EffectReceiptClaim.eventId ++
    p.supervisionActionIntents.keys ++
    p.supervisionActionIntents.values.map SupervisionActionIntentClaim.eventId ++
    p.supervisionActionResults.values.map SupervisionActionResultClaim.eventId ++
    p.processObservation.toList.map ProcessObservationClaim.eventId ++
    p.terminalObservation.toList.map TerminalObservationClaim.eventId ++
    p.executionAssessment.toList.map ExecutionAssessmentClaim.eventId ++
    p.reconciliationObservations.values.flatMap
      (fun claims => claims.map ReconciliationObservationClaim.eventId) ++
    p.restartReconciliations.values.flatMap
      (fun claims => claims.map RestartReconciliationClaim.eventId)

def claimEventIdOk (p : Projection) (eventId : String) : Bool :=
  isUuid eventId && eventId ∉ usedEventIds p

/-- The head, bounds and launch claim of a run that has not been cut short. -/
def claimPreRelease (p : Projection) (stamp : Stamp) :
    Except Failure (Head × JournalBounds × LaunchClaim) := do
  let (head, bounds) ← currentBoot p stamp
  let launch ← orFail mismatch p.launchClaim
  let intent ← orFail mismatch p.runIntent
  failIf (launch.runIntentId ≠ intent.runIntentId ∨
    launch.runIntentDigest ≠ intent.runIntentDigest ∨ launch.receiverBootId ≠ stamp.bootId ∨
    p.dispatchHolds.isEmpty = false ∨ p.runHolds.isEmpty = false ∨
    sinceBootStart p launch.committedAtSeq = false ∨
    ¬(p.lastMonoUs ≤ stamp.monoUs ∧ stamp.monoUs < launch.workDeadlineUs)) mismatch
  checkMembers p intent.ids.reservation.admissionId intent.memberCount intent.memberDigest
  return (head, bounds, launch)

/-- The digests and names a spawn attestation reports. -/
structure SpawnWitness where
  blockedAckDigest : String
  anchorKeyDigest : String
  witnessKind : String
  verifierVersion : String
  witnessLocator : String
  witnessIdentityDigest : String
  registryEntryDigest : String
deriving DecidableEq

def spawnAttestationData (head : Head) (launch : LaunchClaim) (witness : SpawnWitness)
    (stamp : Stamp) : SpawnAttestationData :=
  ⟨launch.ids, head.basis, launch.launchClaimId, launch.launchClaimDigest,
    launch.committedAtSeq, stamp.bootId, stamp.monoUs, witness.blockedAckDigest,
    witness.anchorKeyDigest, witness.witnessKind, witness.verifierVersion,
    witness.witnessLocator, witness.witnessIdentityDigest, witness.registryEntryDigest⟩

def planSpawnAttestation (p : Projection) (eventId : String) (witness : SpawnWitness)
    (stamp : Stamp) : Except Failure Planned := do
  let (head, bounds, launch) ← claimPreRelease p stamp
  failIf (p.spawnAttestation.isSome ∨ p.processObservation.isSome ∨
    claimEventIdOk p eventId = false ∨
    ¬[witness.blockedAckDigest, witness.anchorKeyDigest, witness.witnessIdentityDigest,
      witness.registryEntryDigest].all isHex64 ∨
    ¬[witness.witnessKind, witness.verifierVersion, witness.witnessLocator].all isId) mismatch
  planClaim p head bounds .ordinary eventId
    (.spawnAttestation (spawnAttestationData head launch witness stamp)) stamp

/-- An activation maps the launch claim's grant between attestation and expiry. -/
def activationMatches (attested : SpawnAttestationClaim) (stamp : Stamp)
    (activation : Activation) (grant : Grant) : Bool :=
  activation.service = grant.service && activation.grantId = grant.grantId &&
    isHex64 activation.activationDigest && attested.observedUs ≤ activation.activationUs &&
    activation.activationUs ≤ stamp.monoUs && activation.activationUs < grant.grantExpiryUs

def releaseIntentData (head : Head) (launch : LaunchClaim) (attested : SpawnAttestationClaim)
    (activatedGrants : List Activation) (stamp : Stamp) : ReleaseIntentData :=
  ⟨launch.ids, head.basis, attested.eventId, attested.claimDigest, attested.committedAtSeq,
    stamp.bootId, launch.forwarderGeneration, stamp.monoUs, activatedGrants⟩

def planReleaseIntent (p : Projection) (eventId : String) (activatedGrants : List Activation)
    (stamp : Stamp) : Except Failure Planned := do
  let (head, bounds, launch) ← claimPreRelease p stamp
  let attested ← orFail mismatch p.spawnAttestation
  failIf (p.releaseIntent.isSome ∨ p.processObservation.isSome ∨
    p.supervisionActionIntents.isEmpty = false ∨ claimEventIdOk p eventId = false ∨
    attested.receiverBootId ≠ stamp.bootId ∨
    activatedGrants.length ≠ launch.grants.length) mismatch
  failIf (∃ row ∈ activatedGrants.zip launch.grants,
    activationMatches attested stamp row.1 row.2 = false) mismatch
  planClaim p head bounds .ordinary eventId
    (.releaseIntent (releaseIntentData head launch attested activatedGrants stamp)) stamp

def releaseObservationData (head : Head) (launch : LaunchClaim) (intended : ReleaseIntentClaim)
    (ackDigest : String) (stamp : Stamp) : ReleaseObservationData :=
  ⟨launch.ids, head.basis, intended.eventId, intended.claimDigest, intended.committedAtSeq,
    stamp.bootId, stamp.monoUs, ackDigest⟩

/-- A claimed acknowledgment is kept even after a hold or a deadline. -/
def planReleaseObservation (p : Projection) (eventId ackDigest : String) (stamp : Stamp) :
    Except Failure Planned := do
  let (head, bounds) ← currentBoot p stamp
  let launch ← orFail mismatch p.launchClaim
  let intended ← orFail mismatch p.releaseIntent
  failIf (p.releaseObservation.isSome ∨ claimEventIdOk p eventId = false ∨
    intended.receiverBootId ≠ stamp.bootId ∨
    ¬(max p.lastMonoUs intended.intendedReleaseUs ≤ stamp.monoUs ∧ stamp.monoUs ≤ maxSeq) ∨
    isHex64 ackDigest = false) mismatch
  planClaim p head bounds .total eventId
    (.releaseObservation (releaseObservationData head launch intended ackDigest stamp)) stamp

/-! ## Effects -/

/-- The operation an effect intent names. -/
structure EffectRequest where
  operationId : String
  service : Service
  routeId : String
  grantId : String
  scopeDigest : String
  flightId : String
  forwarderReceiptId : String
  requestDigest : String
  targetDigest : String
  expiresUs : Nat
deriving DecidableEq

def effectIntentData (head : Head) (launch : LaunchClaim) (released : ReleaseObservationClaim)
    (request : EffectRequest) (stamp : Stamp) : EffectIntentData :=
  ⟨launch.ids.journalUuid, launch.ids.reservation.runId, launch.ids.reservation.attemptId,
    launch.ids.reservation.reservationId, request.operationId, head.basis, released.eventId,
    released.claimDigest, released.committedAtSeq, stamp.bootId, launch.forwarderGeneration,
    request.service, request.routeId, request.grantId, request.scopeDigest, request.flightId,
    request.forwarderReceiptId, request.requestDigest, request.targetDigest, stamp.monoUs,
    request.expiresUs⟩

def planEffectIntent (p : Projection) (eventId : String) (request : EffectRequest)
    (stamp : Stamp) : Except Failure Planned := do
  let (head, bounds, launch) ← claimPreRelease p stamp
  let released ← orFail mismatch p.releaseObservation
  let grant ← orFail mismatch (launch.grants.find? fun grant => grant.service = request.service)
  failIf (released.receiverBootId ≠ stamp.bootId ∨ p.processObservation.isSome ∨
    p.supervisionActionIntents.isEmpty = false ∨ stamp.monoUs < released.observedUs ∨
    claimEventIdOk p eventId = false ∨ claimEventIdOk p request.operationId = false ∨
    request.operationId = eventId ∨ effectRouteService request.routeId ≠ some request.service)
    mismatch
  failIf (isId request.grantId = false ∨ isHex64 request.scopeDigest = false ∨
    grant.grantId ≠ request.grantId ∨ grant.scopeDigest ≠ request.scopeDigest ∨
    isId request.flightId = false ∨ isId request.forwarderReceiptId = false ∨
    request.flightId = request.forwarderReceiptId ∨
    request.flightId ∈ p.effectIntents.values.map EffectIntentClaim.flightId ∨
    request.forwarderReceiptId ∈
      p.effectIntents.values.map EffectIntentClaim.forwarderReceiptId ∨
    isHex64 request.requestDigest = false ∨ isHex64 request.targetDigest = false ∨
    ¬(stamp.monoUs < request.expiresUs ∧
      request.expiresUs ≤ min launch.workDeadlineUs grant.grantExpiryUs)) mismatch
  refuseIf (maxEffectClaims ≤ p.effectIntents.size)
      ⟨.effectClaims, maxEffectClaims, p.effectIntents.size, 1⟩ <|
    planClaim p head bounds .ordinary eventId
      (.effectIntent (effectIntentData head launch released request stamp)) stamp

def effectReceiptData (head : Head) (intent : EffectIntentClaim) (operationId : String)
    (claimedDispatchState : DispatchState) (claimedReason : DispatchReason)
    (finalizedReceiptDigest : String) (stamp : Stamp) : EffectReceiptData :=
  ⟨intent.runId, intent.attemptId, operationId, head.basis, intent.eventId,
    intent.claimDigest, intent.committedAtSeq, stamp.bootId, intent.service, intent.grantId,
    intent.flightId, intent.forwarderReceiptId, claimedDispatchState, claimedReason,
    finalizedReceiptDigest, stamp.monoUs⟩

def planEffectReceipt (p : Projection) (eventId operationId : String)
    (claimedDispatchState : DispatchState) (claimedReason : DispatchReason)
    (finalizedReceiptDigest : String) (stamp : Stamp) : Except Failure Planned := do
  let (head, bounds) ← currentBoot p stamp
  let intent ← orFail mismatch (p.effectIntents.get? operationId)
  failIf (p.effectReceipts.contains operationId ∨ claimEventIdOk p eventId = false ∨
    intent.receiverBootId ≠ stamp.bootId ∨
    ¬(max p.lastMonoUs intent.observedUs ≤ stamp.monoUs ∧ stamp.monoUs ≤ maxSeq) ∨
    claimedReason ∉ effectClaimReasons claimedDispatchState ∨
    isHex64 finalizedReceiptDigest = false) mismatch
  planClaim p head bounds .total eventId
    (.effectReceipt (effectReceiptData head intent operationId claimedDispatchState
      claimedReason finalizedReceiptDigest stamp)) stamp

/-! ## Supervision -/

/-- The phase a cleanup request sees, with the claim that shows it. -/
def supervisionActionPhase (p : Projection) (launch : LaunchClaim) :
    SupervisionPhase × String × String :=
  match p.releaseObservation, p.releaseIntent, p.spawnAttestation with
  | some observed, _, _ => (.releasedObserved, observed.eventId, observed.claimDigest)
  | none, some intended, _ => (.releaseUnknown, intended.eventId, intended.claimDigest)
  | none, none, some attested => (.blockedPreRelease, attested.eventId, attested.claimDigest)
  | none, none, none => (.preAttestation, launch.launchClaimId, launch.launchClaimDigest)

/-- The revocations so far by grant. -/
def revocations (p : Projection) : Dict (Option String) SupervisionActionIntentClaim :=
  (Dict.empty : Dict (Option String) SupervisionActionIntentClaim).setAll
    ((p.supervisionActionIntents.values.filter fun claim =>
      claim.actionKind = .revokeGrant).map fun claim => (claim.grantId, claim))

/-- A grant is revoked once and before any signal; a signal is sent once, after
every grant is revoked, and never an interrupt after a kill. -/
def checkAction (p : Projection) (launch : LaunchClaim) (actionKind : ActionKind)
    (service : Option Service) (grantId : Option String) : Except Failure Unit :=
  let actions := p.supervisionActionIntents.values
  if actionKind = .revokeGrant then
    failIf (¬grantId.any isId ∨
      (¬∃ grant ∈ launch.grants, some grant.service = service ∧ some grant.grantId = grantId) ∨
      (revocations p).contains grantId ∨
      ∃ claim ∈ actions, claim.actionKind ≠ .revokeGrant) mismatch
  else
    failIf (service.isSome ∨ grantId.isSome ∨ p.spawnAttestation.isNone ∨
      (revocations p).size ≠ launch.grants.length ∨
      (∃ grant ∈ launch.grants, ¬(revocations p).contains (some grant.grantId)) ∨
      (∃ claim ∈ actions, claim.actionKind = actionKind) ∨
      (actionKind = .signalInterrupt ∧ ∃ claim ∈ actions, claim.actionKind = .signalKill))
      mismatch

/-- The revocations a signal relies on, in grant order. -/
def priorRevokeActionIds (p : Projection) (launch : LaunchClaim) (actionKind : ActionKind) :
    List String :=
  if actionKind = .revokeGrant then []
  else launch.grants.filterMap fun grant =>
    ((revocations p).get? (some grant.grantId)).map SupervisionActionIntentClaim.actionId

def supervisionActionIntentData (p : Projection) (head : Head) (launch : LaunchClaim)
    (actionId : String) (actionKind : ActionKind) (service : Option Service)
    (grantId : Option String) (stamp : Stamp) : SupervisionActionIntentData :=
  let (phase, phaseEventId, phaseDigest) := supervisionActionPhase p launch
  let attested := p.spawnAttestation
  ⟨launch.ids.journalUuid, launch.ids.reservation.runId, launch.ids.reservation.attemptId,
    actionId, head.basis, launch.launchClaimId, launch.launchClaimDigest, stamp.bootId,
    launch.forwarderGeneration, actionKind, phase, phaseEventId, phaseDigest, service, grantId,
    attested.map SpawnAttestationClaim.eventId, attested.map SpawnAttestationClaim.claimDigest,
    attested.map SpawnAttestationClaim.witnessLocator,
    attested.map SpawnAttestationClaim.witnessIdentityDigest,
    priorRevokeActionIds p launch actionKind, stamp.monoUs⟩

def planSupervisionActionIntent (p : Projection) (eventId actionId : String)
    (actionKind : ActionKind) (service : Option Service) (grantId : Option String)
    (stamp : Stamp) : Except Failure Planned := do
  let (head, bounds) ← currentBoot p stamp
  let launch ← orFail mismatch p.launchClaim
  failIf (claimEventIdOk p eventId = false ∨ claimEventIdOk p actionId = false ∨
    eventId = actionId ∨ launch.receiverBootId ≠ stamp.bootId ∨
    sinceBootStart p launch.committedAtSeq = false ∨
    ¬(p.lastMonoUs ≤ stamp.monoUs ∧ stamp.monoUs < launch.hardDeadlineUs)) mismatch
  checkAction p launch actionKind service grantId
  failIf (launch.grants.length + 2 ≤ p.supervisionActionIntents.size) mismatch
  planClaim p head bounds .total eventId
    (.supervisionActionIntent (supervisionActionIntentData p head launch actionId actionKind
      service grantId stamp)) stamp

def supervisionActionResultData (head : Head) (launch : LaunchClaim)
    (intent : SupervisionActionIntentClaim) (actionId : String)
    (claimedOutcome : ActionOutcome) (stamp : Stamp) : SupervisionActionResultData :=
  ⟨launch.ids.reservation.runId, launch.ids.reservation.attemptId, actionId, head.basis,
    intent.eventId, intent.claimDigest, intent.committedAtSeq, stamp.bootId, intent.actionKind,
    claimedOutcome, stamp.monoUs⟩

def planSupervisionActionResult (p : Projection) (eventId actionId : String)
    (claimedOutcome : ActionOutcome) (stamp : Stamp) : Except Failure Planned := do
  let (head, bounds) ← currentBoot p stamp
  let intent ← orFail mismatch (p.supervisionActionIntents.get? actionId)
  let launch ← orFail mismatch p.launchClaim
  failIf (p.supervisionActionResults.contains actionId ∨ claimEventIdOk p eventId = false ∨
    launch.receiverBootId ≠ stamp.bootId ∨
    ¬(max p.lastMonoUs intent.observedUs ≤ stamp.monoUs ∧ stamp.monoUs ≤ maxSeq) ∨
    claimedOutcome ∉ supervisionActionOutcomes intent.actionKind) mismatch
  planClaim p head bounds .total eventId
    (.supervisionActionResult (supervisionActionResultData head launch intent actionId
      claimedOutcome stamp)) stamp

/-! ## Execution -/

def executionBaseData (head : Head) (launch : LaunchClaim) (stamp : Stamp) : ExecutionBase :=
  ⟨launch.ids.journalUuid, launch.ids.reservation.runId, launch.ids.reservation.attemptId,
    head.basis, launch.launchClaimId, launch.launchClaimDigest, stamp.bootId, stamp.monoUs⟩

/-- The base fields of an execution claim of the boot that launched the run. -/
def executionBase (p : Projection) (eventId : String) (stamp : Stamp) :
    Except Failure (Head × JournalBounds × ExecutionBase) := do
  let (head, bounds) ← currentBoot p stamp
  let launch ← orFail mismatch p.launchClaim
  failIf (claimEventIdOk p eventId = false ∨ launch.receiverBootId ≠ stamp.bootId ∨
    sinceBootStart p launch.committedAtSeq = false ∨
    ¬(p.lastMonoUs ≤ stamp.monoUs ∧ stamp.monoUs ≤ maxSeq)) mismatch
  return (head, bounds, executionBaseData head launch stamp)

/-- `_seal_execution`: every sealing error reads as a mismatch. -/
def planExecution (p : Projection) (head : Head) (bounds : JournalBounds) (eventId : String)
    (claim : String → Payload) (stamp : Stamp) : Except Failure Planned := do
  let record ← (sealClaim p head eventId claim stamp).mapError fun _ => mismatch
  chargeClaim p bounds .total record

def planProcessObservation (p : Projection) (eventId : String) (facts : ProcessFacts)
    (sourceDigest : String) (stamp : Stamp) : Except Failure Planned := do
  let (head, bounds, base) ← executionBase p eventId stamp
  failIf (p.processObservation.isSome ∨
    (facts.spawnState = .failedBeforeProcess ∧ p.spawnAttestation.isSome)) mismatch
  failIf (processValid facts = false ∨ isHex64 sourceDigest = false) mismatch
  planExecution p head bounds eventId (.processObservation ⟨base, facts, sourceDigest⟩) stamp

def ProcessObservationClaim.link (claim : ProcessObservationClaim) : ClaimLink :=
  ⟨claim.eventId, claim.claimDigest, claim.committedAtSeq⟩

def TerminalObservationClaim.link (claim : TerminalObservationClaim) : ClaimLink :=
  ⟨claim.eventId, claim.claimDigest, claim.committedAtSeq⟩

def planTerminalObservation (p : Projection) (eventId : String) (summary : TerminalSummary)
    (stamp : Stamp) : Except Failure Planned := do
  let (head, bounds, base) ← executionBase p eventId stamp
  let process ← orFail mismatch p.processObservation
  failIf (p.terminalObservation.isSome ∨ some process.receiverBootId ≠ p.bootId) mismatch
  planExecution p head bounds eventId (.terminalObservation ⟨base, process.link, summary⟩) stamp

/-- A terminal summary as the classifier reads it; an absent field is one it
does not know. -/
structure TerminalFacts where
  subtype : Option TerminalSubtype
  isError : Option Bool
  reason : Option TerminalReason
  usageState : Option UsageState
  evidenceDigest : String
deriving DecidableEq

def terminalValid (facts : TerminalFacts) : Bool :=
  match facts.subtype, facts.isError with
  | some subtype, some isError =>
      facts.usageState.isSome && isHex64 facts.evidenceDigest &&
        !(subtype = .success && facts.reason.isSome) && decide (subtype = .error) = isError
  | _, _ => false

/-- `assess_execution`: the reasons found, in text order, and what they amount to. -/
def assessExecution (process : ProcessFacts) (terminals : List TerminalFacts) :
    Except Failure ExecutionAssessment := do
  failIf (processValid process = false) .processInvalid
  let neverStarted : Bool := process.spawnState = .failedBeforeProcess
  let containment : List ExecutionReason :=
    if process.containment = .failed then [.containmentFailed]
    else if process.containment = .unknown ∧ ¬neverStarted then [.containmentUnknown] else []
  let stopped : List ExecutionReason :=
    (if process.timedOut then [.timeout] else []) ++
      if process.cancelled then [.cancelled] else []
  let spawn : List ExecutionReason :=
    if neverStarted then [.spawnFailed]
    else if process.spawnState = .unknown then [.spawnUnknown] else []
  let exit : List ExecutionReason :=
    if process.exitObserved = false ∧ ¬neverStarted then [.exitMissing]
    else if process.exitSignal.isSome then [.signaledExit]
    else if process.exitCode.any (· ≠ 0) then [.nonzeroExit] else []
  let terminal : Option TerminalFacts :=
    match terminals with
    | [facts] => if terminalValid facts then some facts else none
    | _ => none
  let ending : List ExecutionReason :=
    match terminals, terminal with
    | [], _ => [.missingTerminal]
    | [_], some facts =>
        (if facts.isError = some true then [.resultError] else []) ++
          if facts.usageState = some .malformed then [.usageMalformed] else []
    | [_], none => [.terminalInvalid]
    | _, _ => [.duplicateTerminal]
  let reasons := containment ++ stopped ++ spawn ++ exit ++ ending
  let state : ExecutionState :=
    if .containmentFailed ∈ reasons ∨ .containmentUnknown ∈ reasons then .containmentFailed
    else if .timeout ∈ reasons ∨ .cancelled ∈ reasons then .cancelled
    else if .spawnFailed ∈ reasons ∨ .resultError ∈ reasons ∨ .nonzeroExit ∈ reasons ∨
      .signaledExit ∈ reasons then .failed
    else if reasons ≠ [] then .incomplete else .succeeded
  let usage : ExecutionUsage :=
    if terminal.any (·.usageState = some .known) then .known else .unknown
  return ⟨state, reasons.insertionSort fun left right => left.text ≤ right.text, usage,
    neverStarted⟩

/-- `_derive_execution`. -/
def deriveExecution (process : ProcessObservationClaim) (terminal : TerminalObservationClaim) :
    Except Failure ExecutionAssessment :=
  let summary := terminal.summary
  let digest := summary.sourceDigest.getD zeroDigest
  let sentinel : TerminalFacts := ⟨some .success, some false, none, some .absent, digest⟩
  assessExecution process.facts <|
    match summary.countClass, summary.quality with
    | .none, _ => []
    | .multiple, _ => [sentinel, sentinel]
    | .one, some .invalid => [⟨none, some false, none, some .absent, digest⟩]
    | .one, _ =>
        [⟨summary.subtype, summary.isError, summary.reasonCode, summary.usageState, digest⟩]

def planExecutionAssessment (p : Projection) (eventId : String) (stamp : Stamp) :
    Except Failure Planned := do
  let (head, bounds, base) ← executionBase p eventId stamp
  let process ← orFail mismatch p.processObservation
  let terminal ← orFail mismatch p.terminalObservation
  failIf (p.executionAssessment.isSome ∨ some process.receiverBootId ≠ p.bootId ∨
    some terminal.receiverBootId ≠ p.bootId) mismatch
  let assessment ← deriveExecution process terminal
  planExecution p head bounds eventId
    (.executionAssessment ⟨base, process.link, terminal.link, assessment⟩) stamp

/-! ## Reconciliation -/

/-- What a read-back reports about an operation. -/
structure ReadbackReport where
  reportedState : ReportedState
  sourceEvidenceDigest : String
  versionDigest : Option String
deriving DecidableEq

/-- A version is reported with a confirmed or conflicting state, and only then. -/
def reportOk (report : ReadbackReport) : Bool :=
  isHex64 report.sourceEvidenceDigest &&
    if report.reportedState = .confirmed ∨ report.reportedState = .conflict then
      report.versionDigest.any isHex64
    else report.versionDigest.isNone

def reconciliationData (launch : LaunchClaim) (intent : EffectIntentClaim) (head : Head)
    (operationId : String) (sourceKind : ReadbackKind) (report : ReadbackReport)
    (observationIndex : Nat) (stamp : Stamp) : ReconciliationData :=
  ⟨launch.ids.journalUuid, launch.ids.reservation.runId, launch.ids.reservation.attemptId,
    operationId, head.basis, launch.launchClaimId, launch.launchClaimDigest, intent.eventId,
    intent.claimDigest, intent.committedAtSeq, stamp.bootId, stamp.monoUs, observationIndex,
    sourceKind, report.reportedState, report.sourceEvidenceDigest, intent.targetDigest,
    report.versionDigest⟩

def planReconciliationObservation (p : Projection) (eventId operationId : String)
    (report : ReadbackReport) (stamp : Stamp) : Except Failure Planned := do
  let (head, bounds) ← currentBoot p stamp
  let intent ← orFail mismatch (p.effectIntents.get? operationId)
  let launch ← orFail mismatch p.launchClaim
  let sourceKind ← orFail mismatch (reconciliationSourceByRoute intent.routeId)
  failIf (claimEventIdOk p eventId = false ∨ launch.receiverBootId ≠ stamp.bootId ∨
    intent.receiverBootId ≠ stamp.bootId ∨ sinceBootStart p launch.committedAtSeq = false ∨
    ¬(max p.lastMonoUs intent.observedUs ≤ stamp.monoUs ∧ stamp.monoUs ≤ maxSeq) ∨
    reportOk report = false) mismatch
  let previous := ((p.reconciliationObservations.get? operationId).getD []).length
  refuseIf (maxReconciliationPerOperation ≤ previous)
      ⟨.reconciliationClaims, maxReconciliationPerOperation, previous, 1⟩ <|
    planClaim p head bounds .total eventId
      (.reconciliationObservation (reconciliationData launch intent head operationId sourceKind
        report (previous + 1) stamp)) stamp

def planRestartReconciliationObservation (p : Projection) (eventId operationId : String)
    (report : ReadbackReport) (stamp : Stamp) : Except Failure Planned := do
  let (head, bounds) ← currentBoot p stamp
  let intent ← orFail mismatch (p.effectIntents.get? operationId)
  let launch ← orFail mismatch p.launchClaim
  let recovered ← orFail mismatch p.bootRecovered
  let sourceKind ← orFail mismatch (reconciliationSourceByRoute intent.routeId)
  let startCommitSeq ← orFail mismatch p.bootStartCommitSeq
  let startRecordDigest ← orFail mismatch p.bootStartRecordDigest
  failIf (p.dispatchHolds.contains .restartRecovery = false ∨ claimEventIdOk p eventId = false ∨
    intent.receiverBootId = stamp.bootId ∨
    ¬(p.lastMonoUs ≤ stamp.monoUs ∧ stamp.monoUs ≤ maxSeq) ∨
    startCommitSeq ≤ intent.committedAtSeq ∨ recovered.commitSeq + 1 ≠ startCommitSeq ∨
    reportOk report = false) mismatch
  let previous := ((p.restartReconciliations.get? operationId).getD []).length
  refuseIf (maxRestartReconciliationPerOperation ≤ previous)
      ⟨.restartReconciliationClaims, maxRestartReconciliationPerOperation, previous, 1⟩ <|
    planClaim p head bounds .total eventId
      (.restartReconciliationObservation ⟨reconciliationData launch intent head operationId
        sourceKind report (previous + 1) stamp, intent.receiverBootId, startCommitSeq,
        startRecordDigest, recovered.mark⟩) stamp

end ManyAlerts
