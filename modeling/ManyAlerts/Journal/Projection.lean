import Mathlib.Data.Finset.Card
import Mathlib.Data.Finset.Sort
import ManyAlerts.Journal.Record

/-!
# The projection

The fold state of the journal: what every accepted commit has left behind, and
the delta one commit adds to it.  A delta is built by verification only, and
`applyDelta` writes its fields without looking at them.
-/

namespace ManyAlerts

/-! ## Claims -/

structure PendingEntry where
  fingerprint : String
  admissionId : String
  arrivalSeq : Nat
  sourceGroup : String
  status : AlertStatus
  values : AlertValues
deriving DecidableEq

structure RunHold where
  admissionId : String
  reason : RunHoldReason
  sinceCommitSeq : Nat
  memberDigest : String
deriving DecidableEq

structure ReservationIntentClaim where
  journalUuid : String
  journalGeneration : Nat
  ids : ReservationIds
  intentDigest : String
  basedOnCommitSeq : Nat
  committedAtSeq : Nat
deriving DecidableEq

structure InitialReservationIntentClaim where
  journalUuid : String
  journalGeneration : Nat
  ids : ReservationIds
  memberCount : Nat
  memberDigest : String
  intentDigest : String
  basedOnCommitSeq : Nat
  committedAtSeq : Nat
deriving DecidableEq

structure ReservationConfirmationClaim where
  intentId : String
  confirmationEventId : String
  intentDigest : String
  ledgerUuid : String
  ledgerGeneration : Nat
  ledgerEventId : String
  sequence : Nat
  eventDigest : String
  committedAtSeq : Nat
deriving DecidableEq

structure RunIntentClaim where
  runIntentId : String
  journalGeneration : Nat
  /-- The model lease is the lease of these identities. -/
  ids : RunIds
  initialIntentDigest : String
  confirmationEventId : String
  ledgerUuid : String
  ledgerGeneration : Nat
  ledgerEventId : String
  ledgerSequence : Nat
  ledgerEventDigest : String
  ledgerHeadSequence : Nat
  ledgerHeadDigest : String
  memberCount : Nat
  memberDigest : String
  services : List ServiceClaim
  runIntentDigest : String
  committedAtSeq : Nat
deriving DecidableEq

structure LaunchClaim where
  launchClaimId : String
  runIntentId : String
  runIntentDigest : String
  ids : RunIds
  receiverBootId : String
  forwarderGeneration : String
  barrierTokenDigest : String
  originUs : Nat
  workDeadlineUs : Nat
  flushDeadlineUs : Nat
  hardDeadlineUs : Nat
  grants : List Grant
  launchClaimDigest : String
  committedAtSeq : Nat
deriving DecidableEq

structure SpawnAttestationClaim where
  eventId : String
  claimDigest : String
  launchClaimId : String
  runId : String
  attemptId : String
  receiverBootId : String
  observedUs : Nat
  witnessLocator : String
  witnessIdentityDigest : String
  committedAtSeq : Nat
deriving DecidableEq

structure ReleaseIntentClaim where
  eventId : String
  claimDigest : String
  spawnAttestationId : String
  receiverBootId : String
  intendedReleaseUs : Nat
  activatedGrants : List Activation
  committedAtSeq : Nat
deriving DecidableEq

structure ReleaseObservationClaim where
  eventId : String
  claimDigest : String
  releaseIntentId : String
  receiverBootId : String
  observedUs : Nat
  committedAtSeq : Nat
deriving DecidableEq

structure EffectIntentClaim where
  eventId : String
  claimDigest : String
  operationId : String
  runId : String
  attemptId : String
  receiverBootId : String
  forwarderGeneration : String
  service : Service
  routeId : String
  grantId : String
  scopeDigest : String
  flightId : String
  forwarderReceiptId : String
  requestDigest : String
  targetDigest : String
  observedUs : Nat
  expiresUs : Nat
  committedAtSeq : Nat
deriving DecidableEq

structure EffectReceiptClaim where
  eventId : String
  claimDigest : String
  operationId : String
  intentEventId : String
  receiverBootId : String
  claimedDispatchState : DispatchState
  claimedReason : DispatchReason
  finalizedReceiptDigest : String
  observedUs : Nat
  committedAtSeq : Nat
deriving DecidableEq

structure SupervisionActionIntentClaim where
  eventId : String
  claimDigest : String
  actionId : String
  actionKind : ActionKind
  phase : SupervisionPhase
  phaseEventId : String
  service : Option Service
  grantId : Option String
  observedUs : Nat
  committedAtSeq : Nat
deriving DecidableEq

structure SupervisionActionResultClaim where
  eventId : String
  claimDigest : String
  actionId : String
  intentEventId : String
  claimedOutcome : ActionOutcome
  observedUs : Nat
  committedAtSeq : Nat
deriving DecidableEq

structure ProcessObservationClaim where
  eventId : String
  claimDigest : String
  launchClaimId : String
  receiverBootId : String
  facts : ProcessFacts
  sourceDigest : String
  observedUs : Nat
  committedAtSeq : Nat
deriving DecidableEq

structure TerminalObservationClaim where
  eventId : String
  claimDigest : String
  processEventId : String
  receiverBootId : String
  summary : TerminalSummary
  observedUs : Nat
  committedAtSeq : Nat
deriving DecidableEq

structure ExecutionAssessmentClaim where
  eventId : String
  claimDigest : String
  processEventId : String
  terminalEventId : String
  receiverBootId : String
  assessment : ExecutionAssessment
  observedUs : Nat
  committedAtSeq : Nat
deriving DecidableEq

structure ReconciliationObservationClaim where
  eventId : String
  claimDigest : String
  operationId : String
  intentEventId : String
  receiverBootId : String
  observationIndex : Nat
  sourceKind : ReadbackKind
  reportedState : ReportedState
  sourceEvidenceDigest : String
  targetDigest : String
  versionDigest : Option String
  observedUs : Nat
  committedAtSeq : Nat
deriving DecidableEq

structure RestartReconciliationClaim where
  eventId : String
  claimDigest : String
  operationId : String
  intentEventId : String
  receiverBootId : String
  priorEffectBootId : String
  restartCommitSeq : Nat
  restartRecordDigest : String
  observationIndex : Nat
  sourceKind : ReadbackKind
  reportedState : ReportedState
  sourceEvidenceDigest : String
  targetDigest : String
  versionDigest : Option String
  observedUs : Nat
  committedAtSeq : Nat
deriving DecidableEq

/-! ## State and delta -/

structure Projection where
  journalUuid : Option String := none
  generation : Nat := 0
  bounds : Option JournalBounds := none
  head : Option Head := none
  bootId : Option String := none
  lastMonoUs : Nat := 0
  seenBootIds : Finset String := ∅
  logicalBytes : Nat := 0
  admissionCount : Nat := 0
  lastArrivalSeq : Nat := 0
  baselines : Dict String Baseline := .empty
  pending : Dict String PendingEntry := .empty
  runHolds : Dict String RunHold := .empty
  intents : Dict String ReservationIntentClaim := .empty
  confirmations : Dict String ReservationConfirmationClaim := .empty
  initialIntents : Dict String InitialReservationIntentClaim := .empty
  initialConfirmations : Dict String ReservationConfirmationClaim := .empty
  runIntent : Option RunIntentClaim := none
  launchClaim : Option LaunchClaim := none
  spawnAttestation : Option SpawnAttestationClaim := none
  releaseIntent : Option ReleaseIntentClaim := none
  releaseObservation : Option ReleaseObservationClaim := none
  effectIntents : Dict String EffectIntentClaim := .empty
  effectReceipts : Dict String EffectReceiptClaim := .empty
  supervisionActionIntents : Dict String SupervisionActionIntentClaim := .empty
  supervisionActionResults : Dict String SupervisionActionResultClaim := .empty
  processObservation : Option ProcessObservationClaim := none
  terminalObservation : Option TerminalObservationClaim := none
  executionAssessment : Option ExecutionAssessmentClaim := none
  reconciliationObservations : Dict String (List ReconciliationObservationClaim) := .empty
  restartReconciliations : Dict String (List RestartReconciliationClaim) := .empty
  dispatchHolds : Dict HoldCode Nat := .empty
  refusalKeys : Finset String := ∅
  refusalCount : Nat := 0
  refusalUnreservedCount : Nat := 0
  resumeCount : Nat := 0
  lastResumeCommitSeq : Option Nat := none
  bootStartCommitSeq : Option Nat := none
  bootStartRecordDigest : Option String := none
  bootRecovered : Option Head := none

def newProjection : Projection := {}

/-- Whether a resume would bypass a later, unsettled claim. -/
def privateClaimsOutstanding (p : Projection) : Bool :=
  !p.runHolds.isEmpty || !p.intents.isEmpty || !p.confirmations.isEmpty ||
    !p.initialIntents.isEmpty || !p.initialConfirmations.isEmpty || p.runIntent.isSome ||
    p.launchClaim.isSome || p.spawnAttestation.isSome || p.releaseIntent.isSome ||
    p.releaseObservation.isSome || !p.effectIntents.isEmpty || !p.effectReceipts.isEmpty ||
    !p.supervisionActionIntents.isEmpty || !p.supervisionActionResults.isEmpty ||
    p.processObservation.isSome || p.terminalObservation.isSome ||
    p.executionAssessment.isSome || !p.reconciliationObservations.isEmpty ||
    !p.restartReconciliations.isEmpty

structure Delta where
  head : Head
  generation : Nat
  journalUuid : Option String := none
  bounds : Option JournalBounds := none
  bootId : String
  lastMonoUs : Nat
  newBootId : Option String := none
  logicalBytes : Nat
  admissionCount : Nat
  lastArrivalSeq : Nat
  baselineUpdate : Option (String × Baseline) := none
  pendingUpdates : List (String × PendingEntry) := []
  dispatchHoldAdd : Option (HoldCode × Nat) := none
  refusalKeyAdd : Option String := none
  refusalUnreserved : Bool := false
  dispatchHoldClear : Option HoldCode := none
  resumeCommitSeq : Option Nat := none
  runHoldAdd : Option (String × RunHold) := none
  reservationIntentAdd : Option ReservationIntentClaim := none
  reservationConfirmationAdd : Option ReservationConfirmationClaim := none
  initialReservationIntentAdd : Option InitialReservationIntentClaim := none
  initialReservationConfirmationAdd : Option ReservationConfirmationClaim := none
  runIntentAdd : Option RunIntentClaim := none
  launchClaimAdd : Option LaunchClaim := none
  spawnAttestationAdd : Option SpawnAttestationClaim := none
  releaseIntentAdd : Option ReleaseIntentClaim := none
  releaseObservationAdd : Option ReleaseObservationClaim := none
  effectIntentAdd : Option EffectIntentClaim := none
  effectReceiptAdd : Option EffectReceiptClaim := none
  supervisionActionIntentAdd : Option SupervisionActionIntentClaim := none
  supervisionActionResultAdd : Option SupervisionActionResultClaim := none
  processObservationAdd : Option ProcessObservationClaim := none
  terminalObservationAdd : Option TerminalObservationClaim := none
  executionAssessmentAdd : Option ExecutionAssessmentClaim := none
  reconciliationObservationAdd : Option ReconciliationObservationClaim := none
  restartReconciliationAdd : Option RestartReconciliationClaim := none
deriving DecidableEq

/-- Write an optional entry. -/
def Dict.addEntry {K V : Type} [DecidableEq K] (dict : Dict K V) : Option (K × V) → Dict K V
  | none => dict
  | some entry => dict.set entry.1 entry.2

/-- Write an optional claim under its own key. -/
def Dict.addClaim {K V : Type} [DecidableEq K] (dict : Dict K V) (key : V → K) :
    Option V → Dict K V
  | none => dict
  | some claim => dict.set (key claim) claim

/-- Append an optional claim to the claims under its key. -/
def Dict.pushClaim {K V : Type} [DecidableEq K] (dict : Dict K (List V)) (key : V → K) :
    Option V → Dict K (List V)
  | none => dict
  | some claim => dict.set (key claim) ((dict.get? (key claim)).getD [] ++ [claim])

@[simp] theorem Dict.isEmpty_addEntry {K V : Type} [DecidableEq K] (dict : Dict K V)
    (entry : Option (K × V)) : (dict.addEntry entry).isEmpty = (dict.isEmpty && entry.isNone) := by
  cases entry with
  | none => simp [addEntry]
  | some entry => simp [addEntry, isEmpty_set]

@[simp] theorem Dict.isEmpty_addClaim {K V : Type} [DecidableEq K] (dict : Dict K V)
    (key : V → K) (claim : Option V) :
    (dict.addClaim key claim).isEmpty = (dict.isEmpty && claim.isNone) := by
  cases claim with
  | none => simp [addClaim]
  | some claim => simp [addClaim, isEmpty_set]

@[simp] theorem Dict.isEmpty_pushClaim {K V : Type} [DecidableEq K] (dict : Dict K (List V))
    (key : V → K) (claim : Option V) :
    (dict.pushClaim key claim).isEmpty = (dict.isEmpty && claim.isNone) := by
  cases claim with
  | none => simp [pushClaim]
  | some claim => simp [pushClaim, isEmpty_set]

/-- The dispatch holds after a delta: a code already held keeps its commit. -/
def dispatchHoldsAfter (holds : Dict HoldCode Nat) (delta : Delta) : Dict HoldCode Nat :=
  let added := match delta.dispatchHoldAdd with
    | none => holds
    | some (code, commitSeq) => if holds.contains code then holds else holds.set code commitSeq
  match delta.dispatchHoldClear with
  | none => added
  | some code => added.erase code

def applyDelta (p : Projection) (delta : Delta) : Projection where
  journalUuid := delta.journalUuid.or p.journalUuid
  generation := delta.generation
  bounds := delta.bounds.or p.bounds
  head := some delta.head
  bootId := some delta.bootId
  lastMonoUs := delta.lastMonoUs
  seenBootIds := p.seenBootIds ∪ delta.newBootId.toFinset
  logicalBytes := delta.logicalBytes
  admissionCount := delta.admissionCount
  lastArrivalSeq := delta.lastArrivalSeq
  baselines := p.baselines.addEntry delta.baselineUpdate
  pending := p.pending.setAll delta.pendingUpdates
  runHolds := p.runHolds.addEntry delta.runHoldAdd
  intents := p.intents.addClaim (·.ids.intentId) delta.reservationIntentAdd
  confirmations := p.confirmations.addClaim (·.intentId) delta.reservationConfirmationAdd
  initialIntents := p.initialIntents.addClaim (·.ids.intentId) delta.initialReservationIntentAdd
  initialConfirmations :=
    p.initialConfirmations.addClaim (·.intentId) delta.initialReservationConfirmationAdd
  runIntent := delta.runIntentAdd.or p.runIntent
  launchClaim := delta.launchClaimAdd.or p.launchClaim
  spawnAttestation := delta.spawnAttestationAdd.or p.spawnAttestation
  releaseIntent := delta.releaseIntentAdd.or p.releaseIntent
  releaseObservation := delta.releaseObservationAdd.or p.releaseObservation
  effectIntents := p.effectIntents.addClaim (·.operationId) delta.effectIntentAdd
  effectReceipts := p.effectReceipts.addClaim (·.operationId) delta.effectReceiptAdd
  supervisionActionIntents :=
    p.supervisionActionIntents.addClaim (·.actionId) delta.supervisionActionIntentAdd
  supervisionActionResults :=
    p.supervisionActionResults.addClaim (·.actionId) delta.supervisionActionResultAdd
  processObservation := delta.processObservationAdd.or p.processObservation
  terminalObservation := delta.terminalObservationAdd.or p.terminalObservation
  executionAssessment := delta.executionAssessmentAdd.or p.executionAssessment
  reconciliationObservations :=
    p.reconciliationObservations.pushClaim (·.operationId) delta.reconciliationObservationAdd
  restartReconciliations :=
    p.restartReconciliations.pushClaim (·.operationId) delta.restartReconciliationAdd
  dispatchHolds := dispatchHoldsAfter p.dispatchHolds delta
  refusalKeys := p.refusalKeys ∪ delta.refusalKeyAdd.toFinset
  refusalCount := p.refusalCount + delta.refusalKeyAdd.toList.length
  refusalUnreservedCount :=
    if delta.refusalKeyAdd.isSome && delta.refusalUnreserved then p.refusalUnreservedCount + 1
    else p.refusalUnreservedCount
  resumeCount := p.resumeCount + delta.resumeCommitSeq.toList.length
  lastResumeCommitSeq := delta.resumeCommitSeq.or p.lastResumeCommitSeq
  -- Read before the head moves: the head this boot recovered and its first commit.
  bootStartCommitSeq :=
    if delta.newBootId.isSome then some delta.head.commitSeq else p.bootStartCommitSeq
  bootStartRecordDigest :=
    if delta.newBootId.isSome then some delta.head.recordDigest else p.bootStartRecordDigest
  bootRecovered := if delta.newBootId.isSome then p.head else p.bootRecovered

end ManyAlerts
