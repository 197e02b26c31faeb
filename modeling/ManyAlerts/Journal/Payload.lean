import ManyAlerts.Journal.Source

/-!
# Record payloads

One constructor of `Payload` per registered pair of event type and schema
version, with the identities and data fields of that record type.  Fields a
validator pins to a literal (`rule`, `format`, `action`, the three deadlines of
a run intent) are written by `Payload.data` and are not stored.  Counters are
natural numbers: every negative one fails the bound check of its field.
-/

namespace ManyAlerts

structure JournalBounds where
  maxAdmissions : Nat := 10000
  maxPendingFingerprints : Nat := 1024
  ordinaryBytes : Nat := 112 * 2 ^ 20
  totalBytes : Nat := 128 * 2 ^ 20
deriving DecidableEq

structure Head where
  generation : Nat
  commitSeq : Nat
  eventSeq : Nat
  recordDigest : String
deriving DecidableEq

@[ext] structure Stamp where
  bootId : String
  wallTime : String
  monoUs : Nat
deriving DecidableEq

structure WalFound where
  size : Nat
  digest : String
deriving DecidableEq

@[ext] structure Position where
  journalGeneration : Nat
  eventSeq : Nat
  commitSeq : Nat
  commitIndex : Nat
  commitSize : Nat
  prevRecordDigest : String
deriving DecidableEq

/-- The recovered or inspected head as a record stores it. -/
structure HeadMark where
  commitSeq : Nat
  eventSeq : Nat
  recordDigest : String
deriving DecidableEq

def Head.mark (head : Head) : HeadMark := ⟨head.commitSeq, head.eventSeq, head.recordDigest⟩

structure Baseline where
  admissionId : String
  dedupeKey : String
  complete : Bool
deriving DecidableEq

/-! ## Schema version 1 -/

structure GenesisData where
  journalUuid : String
  bounds : JournalBounds
deriving DecidableEq

structure RestartRecoveryData where
  previousBootId : String
  recovered : HeadMark
  anchorLag : Nat
  walFound : Option WalFound
deriving DecidableEq

structure CapacityHoldData where
  code : CapacityCode
  limit : Nat
  observed : Nat
  requested : Nat
  refusedSourceDigest : String
deriving DecidableEq

/-- The source stays the JSON it was sealed with; reading it back is part of
validation and of replay. -/
structure AdmissionData where
  admissionId : String
  arrivalSeq : Nat
  decision : AdmissionDecision
  dispatchHolds : List HoldCode
  source : Json
  sourceDigest : String
deriving DecidableEq

structure DedupeDecisionData where
  admissionId : String
  result : DedupeResult
  sourceGroup : String
  dedupeKey : String
  baselineBefore : Option Baseline
  baselineAfter : Baseline
  /-- Pairs of a fingerprint and the admission it is taken from. -/
  superseded : List (String × String)
  pendingCountAfter : Nat
deriving DecidableEq

structure RefusalSummary where
  alerts : Option Nat
  bodyBytes : Nat
  bodyDigest : Option String
  code : IngressCode
  members : List (String × AlertStatus)
  membersOmitted : Nat
  refusedGroup : Option String
  resolved : Option Nat
  sourceGroup : Option String
deriving DecidableEq

structure IngressRefusalData where
  summary : RefusalSummary
  refusalKey : String
  refusalSeq : Nat
deriving DecidableEq

structure OperatorActionData where
  sinceCommitSeq : Nat
  inspected : HeadMark
  pendingDigest : String
  operator : String
  reason : String
deriving DecidableEq

/-! ## Schema version 2 -/

structure RunHoldData where
  jobId : String
  admissionId : String
  reason : RunHoldReason
  basedOnCommitSeq : Nat
  pendingDigest : String
  memberCount : Nat
  memberDigest : String
deriving DecidableEq

/-- The identities of a reservation intent. -/
structure ReservationIds where
  jobId : String
  admissionId : String
  intentId : String
  attemptId : String
  reservationId : String
  runId : String
  leaseId : String
deriving DecidableEq

structure ReservationIntentData where
  ids : ReservationIds
  basedOnCommitSeq : Nat
  intentDigest : String
deriving DecidableEq

/-- Shared by the v2 and v3 confirmation. -/
structure ReservationConfirmationData where
  intentId : String
  intentDigest : String
  ledgerUuid : String
  ledgerGeneration : Nat
  ledgerEventId : String
  sequence : Nat
  eventDigest : String
deriving DecidableEq

/-! ## Schema version 3 -/

structure InitialReservationIntentData where
  ids : ReservationIds
  basedOnCommitSeq : Nat
  memberCount : Nat
  memberDigest : String
  intentDigest : String
deriving DecidableEq

/-- The identities of a run: those of its reservation and its journal. -/
structure RunIds where
  journalUuid : String
  reservation : ReservationIds
deriving DecidableEq

/-- The head a claim says it was planned on. -/
structure Basis where
  commitSeq : Nat
  recordDigest : String
deriving DecidableEq

structure ServiceClaim where
  service : Service
  leaseClaimId : String
  scopeDigest : String
deriving DecidableEq

structure RunIntentData where
  ids : RunIds
  basis : Basis
  initialIntentCommitSeq : Nat
  intentDigest : String
  confirmationEventId : String
  confirmationCommitSeq : Nat
  ledgerUuid : String
  ledgerGeneration : Nat
  ledgerEventId : String
  sequence : Nat
  eventDigest : String
  ledgerHeadSequence : Nat
  ledgerHeadDigest : String
  memberCount : Nat
  memberDigest : String
  services : List ServiceClaim
deriving DecidableEq

structure Grant where
  service : Service
  leaseClaimId : String
  scopeDigest : String
  grantId : String
  grantExpiryUs : Nat
deriving DecidableEq

structure LaunchClaimData where
  ids : RunIds
  basis : Basis
  runIntentEventId : String
  runIntentDigest : String
  runIntentCommitSeq : Nat
  receiverBootId : String
  forwarderGeneration : String
  barrierTokenDigest : String
  originUs : Nat
  workDeadlineUs : Nat
  flushDeadlineUs : Nat
  hardDeadlineUs : Nat
  grants : List Grant
deriving DecidableEq

structure SpawnAttestationData where
  ids : RunIds
  basis : Basis
  launchClaimEventId : String
  launchClaimDigest : String
  launchClaimCommitSeq : Nat
  receiverBootId : String
  observedUs : Nat
  blockedAckDigest : String
  anchorKeyDigest : String
  witnessKind : String
  verifierVersion : String
  witnessLocator : String
  witnessIdentityDigest : String
  registryEntryDigest : String
deriving DecidableEq

structure Activation where
  service : Service
  grantId : String
  activationDigest : String
  activationUs : Nat
deriving DecidableEq

structure ReleaseIntentData where
  ids : RunIds
  basis : Basis
  spawnAttestationEventId : String
  spawnAttestationDigest : String
  spawnAttestationCommitSeq : Nat
  receiverBootId : String
  forwarderGeneration : String
  intendedReleaseUs : Nat
  activatedGrants : List Activation
deriving DecidableEq

structure ReleaseObservationData where
  ids : RunIds
  basis : Basis
  releaseIntentEventId : String
  releaseIntentDigest : String
  releaseIntentCommitSeq : Nat
  receiverBootId : String
  observedUs : Nat
  ackDigest : String
deriving DecidableEq

structure EffectIntentData where
  journalUuid : String
  runId : String
  attemptId : String
  reservationId : String
  operationId : String
  basis : Basis
  releaseObservationEventId : String
  releaseObservationDigest : String
  releaseObservationCommitSeq : Nat
  receiverBootId : String
  forwarderGeneration : String
  service : Service
  routeId : String
  grantId : String
  scopeDigest : String
  flightId : String
  forwarderReceiptId : String
  requestDigest : String
  targetDigest : String
  observedUs : Nat
  expiresUs : Nat
deriving DecidableEq

structure EffectReceiptData where
  runId : String
  attemptId : String
  operationId : String
  basis : Basis
  effectIntentEventId : String
  effectIntentDigest : String
  effectIntentCommitSeq : Nat
  receiverBootId : String
  service : Service
  grantId : String
  flightId : String
  forwarderReceiptId : String
  claimedDispatchState : DispatchState
  claimedReason : DispatchReason
  finalizedReceiptDigest : String
  observedUs : Nat
deriving DecidableEq

structure SupervisionActionIntentData where
  journalUuid : String
  runId : String
  attemptId : String
  actionId : String
  basis : Basis
  launchClaimEventId : String
  launchClaimDigest : String
  receiverBootId : String
  forwarderGeneration : String
  actionKind : ActionKind
  phase : SupervisionPhase
  phaseEventId : String
  phaseDigest : String
  service : Option Service
  grantId : Option String
  attestationEventId : Option String
  attestationDigest : Option String
  witnessLocator : Option String
  witnessIdentityDigest : Option String
  priorRevokeActionIds : List String
  observedUs : Nat
deriving DecidableEq

structure SupervisionActionResultData where
  runId : String
  attemptId : String
  actionId : String
  basis : Basis
  actionIntentEventId : String
  actionIntentDigest : String
  actionIntentCommitSeq : Nat
  receiverBootId : String
  actionKind : ActionKind
  claimedOutcome : ActionOutcome
  observedUs : Nat
deriving DecidableEq

/-- The identities and base fields every execution claim starts with. -/
structure ExecutionBase where
  journalUuid : String
  runId : String
  attemptId : String
  basis : Basis
  launchClaimEventId : String
  launchClaimDigest : String
  receiverBootId : String
  observedUs : Nat
deriving DecidableEq

structure ProcessFacts where
  spawnState : SpawnState
  exitObserved : Bool
  exitCode : Option Int
  exitSignal : Option Int
  timedOut : Bool
  cancelled : Bool
  containment : Containment
deriving DecidableEq

structure ProcessObservationData where
  base : ExecutionBase
  facts : ProcessFacts
  sourceDigest : String
deriving DecidableEq

/-- The process claim a later execution claim refers to. -/
structure ClaimLink where
  eventId : String
  digest : String
  commitSeq : Nat
deriving DecidableEq

structure TerminalSummary where
  countClass : CountClass
  quality : Option TerminalQuality
  invalidityCode : Option InvalidityCode
  subtype : Option TerminalSubtype
  isError : Option Bool
  reasonCode : Option TerminalReason
  usageState : Option UsageState
  sourceDigest : Option String
deriving DecidableEq

structure TerminalObservationData where
  base : ExecutionBase
  process : ClaimLink
  summary : TerminalSummary
deriving DecidableEq

structure ExecutionAssessment where
  state : ExecutionState
  reasons : List ExecutionReason
  usage : ExecutionUsage
  neverStarted : Bool
deriving DecidableEq

structure ExecutionAssessmentData where
  base : ExecutionBase
  process : ClaimLink
  terminal : ClaimLink
  assessment : ExecutionAssessment
deriving DecidableEq

/-- The fields both reconciliation claims share. -/
structure ReconciliationData where
  journalUuid : String
  runId : String
  attemptId : String
  operationId : String
  basis : Basis
  launchClaimEventId : String
  launchClaimDigest : String
  effectIntentEventId : String
  effectIntentDigest : String
  effectIntentCommitSeq : Nat
  receiverBootId : String
  observedUs : Nat
  observationIndex : Nat
  sourceKind : ReadbackKind
  reportedState : ReportedState
  sourceEvidenceDigest : String
  targetDigest : String
  versionDigest : Option String
deriving DecidableEq

structure RestartReconciliationData where
  common : ReconciliationData
  priorEffectBootId : String
  restartCommitSeq : Nat
  restartRecordDigest : String
  recovered : HeadMark
deriving DecidableEq

/-! ## Payloads -/

/-- The payload of a record.  From run intents on, a claim carries a digest of
its event id, identities and other data. -/
inductive Payload where
  | journalGenesis (data : GenesisData)
  | restartRecovery (data : RestartRecoveryData)
  | capacityHold (data : CapacityHoldData)
  | admission (data : AdmissionData)
  | dedupeDecision (data : DedupeDecisionData)
  | ingressRefusal (data : IngressRefusalData)
  | operatorAction (data : OperatorActionData)
  | runHold (data : RunHoldData)
  | reservationIntent (data : ReservationIntentData)
  | reservationConfirmation (data : ReservationConfirmationData)
  | initialReservationIntent (data : InitialReservationIntentData)
  | initialReservationConfirmation (data : ReservationConfirmationData)
  | runIntent (data : RunIntentData) (digest : String)
  | launchClaim (data : LaunchClaimData) (digest : String)
  | spawnAttestation (data : SpawnAttestationData) (digest : String)
  | releaseIntent (data : ReleaseIntentData) (digest : String)
  | releaseObservation (data : ReleaseObservationData) (digest : String)
  | effectIntent (data : EffectIntentData) (digest : String)
  | effectReceipt (data : EffectReceiptData) (digest : String)
  | supervisionActionIntent (data : SupervisionActionIntentData) (digest : String)
  | supervisionActionResult (data : SupervisionActionResultData) (digest : String)
  | processObservation (data : ProcessObservationData) (digest : String)
  | terminalObservation (data : TerminalObservationData) (digest : String)
  | executionAssessment (data : ExecutionAssessmentData) (digest : String)
  | reconciliationObservation (data : ReconciliationData) (digest : String)
  | restartReconciliationObservation (data : RestartReconciliationData) (digest : String)
deriving DecidableEq

namespace Payload

def eventType : Payload → String
  | .journalGenesis _ => "journal_genesis"
  | .restartRecovery _ => "restart_recovery"
  | .capacityHold _ => "capacity_hold"
  | .admission _ => "admission"
  | .dedupeDecision _ => "dedupe_decision"
  | .ingressRefusal _ => "ingress_refusal"
  | .operatorAction _ => "operator_action"
  | .runHold _ => "run_hold"
  | .reservationIntent _ => "reservation_intent"
  | .reservationConfirmation _ => "reservation_confirmation"
  | .initialReservationIntent _ => "reservation_intent"
  | .initialReservationConfirmation _ => "reservation_confirmation"
  | .runIntent _ _ => "run_intent"
  | .launchClaim _ _ => "launch_claim"
  | .spawnAttestation _ _ => "spawn_attestation"
  | .releaseIntent _ _ => "release_intent"
  | .releaseObservation _ _ => "release_observation"
  | .effectIntent _ _ => "effect_intent"
  | .effectReceipt _ _ => "effect_receipt"
  | .supervisionActionIntent _ _ => "supervision_action_intent"
  | .supervisionActionResult _ _ => "supervision_action_result"
  | .processObservation _ _ => "process_observation"
  | .terminalObservation _ _ => "terminal_observation"
  | .executionAssessment _ _ => "execution_assessment"
  | .reconciliationObservation _ _ => "reconciliation_observation"
  | .restartReconciliationObservation _ _ => "restart_reconciliation_observation"

def schemaVersion : Payload → Nat
  | .journalGenesis _ | .restartRecovery _ | .capacityHold _ | .admission _
  | .dedupeDecision _ | .ingressRefusal _ | .operatorAction _ => 1
  | .runHold _ | .reservationIntent _ | .reservationConfirmation _ => 2
  | _ => 3

/-- `TYPE_ACTORS` and its v2 and v3 tables. -/
def actor : Payload → String
  | .operatorAction _ => "operator"
  | _ => "receiver"

end Payload

/-! ## JSON forms -/

def headMarkJson (mark : HeadMark) : Json :=
  .obj [("commit_seq", .nat mark.commitSeq), ("event_seq", .nat mark.eventSeq),
    ("record_digest", .str mark.recordDigest)]

def boundsJson (bounds : JournalBounds) : Json :=
  .obj [("max_admissions", .nat bounds.maxAdmissions),
    ("max_pending_fingerprints", .nat bounds.maxPendingFingerprints),
    ("ordinary_bytes", .nat bounds.ordinaryBytes), ("total_bytes", .nat bounds.totalBytes)]

def walFoundJson (found : WalFound) : Json :=
  .obj [("size", .nat found.size), ("digest", .str found.digest)]

def baselineJson (baseline : Baseline) : Json :=
  .obj [("admission_id", .str baseline.admissionId), ("complete", .bool baseline.complete),
    ("dedupe_key", .str baseline.dedupeKey)]

def supersededJson (entry : String × String) : Json :=
  .obj [("admission_id", .str entry.2), ("fingerprint", .str entry.1)]

def memberJson (member : String × AlertStatus) : Json :=
  .arr [.str member.1, .str member.2.text]

def refusalSummaryJson (summary : RefusalSummary) : Json :=
  .obj [("alerts", .optional .nat summary.alerts), ("body_bytes", .nat summary.bodyBytes),
    ("body_digest", .optional .str summary.bodyDigest), ("code", .str summary.code.text),
    ("members", .arr (summary.members.map memberJson)),
    ("members_omitted", .nat summary.membersOmitted),
    ("refused_group", .optional .str summary.refusedGroup),
    ("resolved", .optional .nat summary.resolved),
    ("source_group", .optional .str summary.sourceGroup)]

def serviceClaimJson (claim : ServiceClaim) : Json :=
  .obj [("service", .str claim.service.text), ("lease_claim_id", .str claim.leaseClaimId),
    ("scope_digest", .str claim.scopeDigest)]

def grantJson (grant : Grant) : Json :=
  .obj [("service", .str grant.service.text), ("lease_claim_id", .str grant.leaseClaimId),
    ("scope_digest", .str grant.scopeDigest), ("grant_id", .str grant.grantId),
    ("grant_expiry_us", .nat grant.grantExpiryUs)]

def activationJson (activation : Activation) : Json :=
  .obj [("service", .str activation.service.text), ("grant_id", .str activation.grantId),
    ("activation_digest", .str activation.activationDigest),
    ("activation_us", .nat activation.activationUs)]

def reservationIdsMembers (ids : ReservationIds) : List (String × Json) :=
  [("job_id", .str ids.jobId), ("admission_id", .str ids.admissionId),
    ("intent_id", .str ids.intentId), ("attempt_id", .str ids.attemptId),
    ("reservation_id", .str ids.reservationId), ("run_id", .str ids.runId),
    ("lease_id", .str ids.leaseId)]

def runIdsMembers (ids : RunIds) : List (String × Json) :=
  ("journal_uuid", .str ids.journalUuid) :: reservationIdsMembers ids.reservation

def confirmationMembers (data : ReservationConfirmationData) : List (String × Json) :=
  [("intent_digest", .str data.intentDigest), ("ledger_uuid", .str data.ledgerUuid),
    ("ledger_generation", .nat data.ledgerGeneration),
    ("ledger_event_id", .str data.ledgerEventId), ("sequence", .nat data.sequence),
    ("event_digest", .str data.eventDigest)]

def basisMembers (basis : Basis) : List (String × Json) :=
  [("based_on_commit_seq", .nat basis.commitSeq),
    ("based_on_record_digest", .str basis.recordDigest)]

def executionIdsMembers (base : ExecutionBase) : List (String × Json) :=
  [("journal_uuid", .str base.journalUuid), ("run_id", .str base.runId),
    ("attempt_id", .str base.attemptId)]

def executionBaseMembers (rule : String) (base : ExecutionBase) : List (String × Json) :=
  ("rule", Json.str rule) :: basisMembers base.basis ++
    [("launch_claim_event_id", Json.str base.launchClaimEventId),
      ("launch_claim_digest", Json.str base.launchClaimDigest),
      ("receiver_boot_id", Json.str base.receiverBootId), ("observed_us", Json.nat base.observedUs)]

def processFactsMembers (facts : ProcessFacts) : List (String × Json) :=
  [("spawn_state", .str facts.spawnState.text), ("exit_observed", .bool facts.exitObserved),
    ("exit_code", .optional .num facts.exitCode),
    ("exit_signal", .optional .num facts.exitSignal), ("timed_out", .bool facts.timedOut),
    ("cancelled", .bool facts.cancelled), ("containment", .str facts.containment.text)]

def processLinkMembers (link : ClaimLink) : List (String × Json) :=
  [("process_event_id", .str link.eventId), ("process_digest", .str link.digest),
    ("process_commit_seq", .nat link.commitSeq)]

def terminalLinkMembers (link : ClaimLink) : List (String × Json) :=
  [("terminal_event_id", .str link.eventId), ("terminal_digest", .str link.digest),
    ("terminal_commit_seq", .nat link.commitSeq)]

def terminalSummaryMembers (summary : TerminalSummary) : List (String × Json) :=
  [("count_class", .str summary.countClass.text),
    ("quality", .optional (fun quality => .str (TerminalQuality.text quality)) summary.quality),
    ("invalidity_code",
      .optional (fun code => .str (InvalidityCode.text code)) summary.invalidityCode),
    ("subtype", .optional (fun subtype => .str (TerminalSubtype.text subtype)) summary.subtype),
    ("is_error", .optional .bool summary.isError),
    ("reason_code", .optional (fun reason => .str (TerminalReason.text reason))
      summary.reasonCode),
    ("usage_state", .optional (fun usage => .str (UsageState.text usage)) summary.usageState),
    ("source_digest", .optional .str summary.sourceDigest)]

def assessmentMembers (assessment : ExecutionAssessment) : List (String × Json) :=
  [("state", .str assessment.state.text),
    ("reasons", .arr (assessment.reasons.map fun reason => .str reason.text)),
    ("usage", .str assessment.usage.text), ("never_started", .bool assessment.neverStarted)]

def reconciliationMembers (rule : String) (data : ReconciliationData) : List (String × Json) :=
  ("rule", Json.str rule) :: basisMembers data.basis ++
    [("launch_claim_event_id", Json.str data.launchClaimEventId),
      ("launch_claim_digest", Json.str data.launchClaimDigest),
      ("effect_intent_event_id", Json.str data.effectIntentEventId),
      ("effect_intent_digest", Json.str data.effectIntentDigest),
      ("effect_intent_commit_seq", Json.nat data.effectIntentCommitSeq),
      ("receiver_boot_id", Json.str data.receiverBootId), ("observed_us", Json.nat data.observedUs),
      ("observation_index", Json.nat data.observationIndex),
      ("source_kind", Json.str data.sourceKind.text),
      ("reported_state", Json.str data.reportedState.text),
      ("source_evidence_digest", Json.str data.sourceEvidenceDigest),
      ("target_digest", Json.str data.targetDigest),
      ("version_digest", Json.optional .str data.versionDigest)]

namespace Payload

/-- The `ids` object. -/
def ids : Payload → List (String × Json)
  | .journalGenesis _ | .restartRecovery _ | .capacityHold _ | .ingressRefusal _
  | .operatorAction _ => []
  | .admission data => [("admission_id", .str data.admissionId)]
  | .dedupeDecision data => [("admission_id", .str data.admissionId)]
  | .runHold data => [("job_id", .str data.jobId), ("admission_id", .str data.admissionId)]
  | .reservationIntent data => reservationIdsMembers data.ids
  | .initialReservationIntent data => reservationIdsMembers data.ids
  | .reservationConfirmation data => [("intent_id", .str data.intentId)]
  | .initialReservationConfirmation data => [("intent_id", .str data.intentId)]
  | .runIntent data _ => runIdsMembers data.ids
  | .launchClaim data _ => runIdsMembers data.ids
  | .spawnAttestation data _ => runIdsMembers data.ids
  | .releaseIntent data _ => runIdsMembers data.ids
  | .releaseObservation data _ => runIdsMembers data.ids
  | .effectIntent data _ =>
      [("journal_uuid", .str data.journalUuid), ("run_id", .str data.runId),
        ("attempt_id", .str data.attemptId), ("reservation_id", .str data.reservationId),
        ("operation_id", .str data.operationId)]
  | .effectReceipt data _ =>
      [("run_id", .str data.runId), ("attempt_id", .str data.attemptId),
        ("operation_id", .str data.operationId)]
  | .supervisionActionIntent data _ =>
      [("journal_uuid", .str data.journalUuid), ("run_id", .str data.runId),
        ("attempt_id", .str data.attemptId), ("action_id", .str data.actionId)]
  | .supervisionActionResult data _ =>
      [("run_id", .str data.runId), ("attempt_id", .str data.attemptId),
        ("action_id", .str data.actionId)]
  | .processObservation data _ => executionIdsMembers data.base
  | .terminalObservation data _ => executionIdsMembers data.base
  | .executionAssessment data _ => executionIdsMembers data.base
  | .reconciliationObservation data _ =>
      [("journal_uuid", .str data.journalUuid), ("run_id", .str data.runId),
        ("attempt_id", .str data.attemptId), ("operation_id", .str data.operationId)]
  | .restartReconciliationObservation data _ =>
      [("journal_uuid", .str data.common.journalUuid), ("run_id", .str data.common.runId),
        ("attempt_id", .str data.common.attemptId),
        ("operation_id", .str data.common.operationId)]

/-- The `data` object without the claim's own digest. -/
def core : Payload → List (String × Json)
  | .journalGenesis data =>
      [("format", Json.str "rj.journal.v1"), ("journal_uuid", Json.str data.journalUuid),
        ("bounds", boundsJson data.bounds)]
  | .restartRecovery data =>
      [("previous_boot_id", Json.str data.previousBootId),
        ("recovered", headMarkJson data.recovered), ("anchor_lag", Json.nat data.anchorLag),
        ("wal_found", Json.optional walFoundJson data.walFound),
        ("dispatch_hold", Json.str "restart_recovery"), ("prior_leases", Json.str "invalid")]
  | .capacityHold data =>
      [("code", Json.str data.code.text), ("limit", Json.nat data.limit),
        ("observed", Json.nat data.observed), ("requested", Json.nat data.requested),
        ("refused_source_digest", Json.str data.refusedSourceDigest), ("action", Json.str "set")]
  | .admission data =>
      [("arrival_seq", Json.nat data.arrivalSeq), ("decision", Json.str data.decision.text),
        ("dispatch_holds", Json.arr (data.dispatchHolds.map fun code => .str code.text)),
        ("source", data.source), ("source_digest", Json.str data.sourceDigest)]
  | .dedupeDecision data =>
      [("rule", Json.str "latest-admitted-v1"), ("result", Json.str data.result.text),
        ("source_group", Json.str data.sourceGroup), ("dedupe_key", Json.str data.dedupeKey),
        ("baseline_before", Json.optional baselineJson data.baselineBefore),
        ("baseline_after", baselineJson data.baselineAfter),
        ("superseded", Json.arr (data.superseded.map supersededJson)),
        ("pending_count_after", Json.nat data.pendingCountAfter)]
  | .ingressRefusal data =>
      [("rule", Json.str "first-per-membership-v1"), ("summary", refusalSummaryJson data.summary),
        ("refusal_key", Json.str data.refusalKey), ("refusal_seq", Json.nat data.refusalSeq)]
  | .operatorAction data =>
      [("action", Json.str "resume"), ("rule", Json.str "resume-at-open-v1"),
        ("hold", Json.str "restart_recovery"), ("since_commit_seq", Json.nat data.sinceCommitSeq),
        ("inspected", headMarkJson data.inspected), ("pending_digest", Json.str data.pendingDigest),
        ("operator", Json.str data.operator), ("reason", Json.str data.reason)]
  | .runHold data =>
      [("rule", Json.str "run-hold-v2"), ("reason", Json.str data.reason.text),
        ("based_on_commit_seq", Json.nat data.basedOnCommitSeq),
        ("pending_digest", Json.str data.pendingDigest),
        ("member_count", Json.nat data.memberCount),
        ("member_digest", Json.str data.memberDigest)]
  | .reservationIntent data =>
      [("rule", Json.str "reservation-intent-v2"),
        ("based_on_commit_seq", Json.nat data.basedOnCommitSeq),
        ("intent_digest", Json.str data.intentDigest)]
  | .initialReservationIntent data =>
      [("rule", Json.str "reservation-intent-v3"),
        ("based_on_commit_seq", Json.nat data.basedOnCommitSeq),
        ("member_count", Json.nat data.memberCount), ("member_digest", Json.str data.memberDigest),
        ("intent_digest", Json.str data.intentDigest)]
  | .reservationConfirmation data =>
      ("rule", Json.str "reservation-confirmation-v2") :: confirmationMembers data
  | .initialReservationConfirmation data =>
      ("rule", Json.str "reservation-confirmation-v3") :: confirmationMembers data
  | .runIntent data _ =>
      ("rule", Json.str "run-intent-v3") :: basisMembers data.basis ++
        [("initial_intent_commit_seq", Json.nat data.initialIntentCommitSeq),
          ("intent_digest", Json.str data.intentDigest),
          ("confirmation_event_id", Json.str data.confirmationEventId),
          ("confirmation_commit_seq", Json.nat data.confirmationCommitSeq),
          ("ledger_uuid", Json.str data.ledgerUuid),
          ("ledger_generation", Json.nat data.ledgerGeneration),
          ("ledger_event_id", Json.str data.ledgerEventId), ("sequence", Json.nat data.sequence),
          ("event_digest", Json.str data.eventDigest),
          ("ledger_head", Json.obj [("sequence", Json.nat data.ledgerHeadSequence),
            ("event_digest", Json.str data.ledgerHeadDigest)]),
          ("member_count", Json.nat data.memberCount),
          ("member_digest", Json.str data.memberDigest),
          ("services", Json.arr (data.services.map serviceClaimJson)),
          ("work_deadline_seconds", Json.nat 270), ("flush_deadline_seconds", Json.nat 290),
          ("hard_deadline_seconds", Json.nat 300)]
  | .launchClaim data _ =>
      ("rule", Json.str "launch-claim-v3") :: basisMembers data.basis ++
        [("run_intent_event_id", Json.str data.runIntentEventId),
          ("run_intent_digest", Json.str data.runIntentDigest),
          ("run_intent_commit_seq", Json.nat data.runIntentCommitSeq),
          ("receiver_boot_id", Json.str data.receiverBootId),
          ("forwarder_generation", Json.str data.forwarderGeneration),
          ("barrier_token_digest", Json.str data.barrierTokenDigest),
          ("origin_us", Json.nat data.originUs), ("work_deadline_us", Json.nat data.workDeadlineUs),
          ("flush_deadline_us", Json.nat data.flushDeadlineUs),
          ("hard_deadline_us", Json.nat data.hardDeadlineUs),
          ("grants", Json.arr (data.grants.map grantJson))]
  | .spawnAttestation data _ =>
      ("rule", Json.str "spawn-attestation-v3") :: basisMembers data.basis ++
        [("launch_claim_event_id", Json.str data.launchClaimEventId),
          ("launch_claim_digest", Json.str data.launchClaimDigest),
          ("launch_claim_commit_seq", Json.nat data.launchClaimCommitSeq),
          ("receiver_boot_id", Json.str data.receiverBootId),
          ("observed_us", Json.nat data.observedUs),
          ("blocked_ack_digest", Json.str data.blockedAckDigest),
          ("anchor_key_digest", Json.str data.anchorKeyDigest),
          ("witness_kind", Json.str data.witnessKind),
          ("verifier_version", Json.str data.verifierVersion),
          ("witness_locator", Json.str data.witnessLocator),
          ("witness_identity_digest", Json.str data.witnessIdentityDigest),
          ("registry_entry_digest", Json.str data.registryEntryDigest)]
  | .releaseIntent data _ =>
      ("rule", Json.str "release-intent-v3") :: basisMembers data.basis ++
        [("spawn_attestation_event_id", Json.str data.spawnAttestationEventId),
          ("spawn_attestation_digest", Json.str data.spawnAttestationDigest),
          ("spawn_attestation_commit_seq", Json.nat data.spawnAttestationCommitSeq),
          ("receiver_boot_id", Json.str data.receiverBootId),
          ("forwarder_generation", Json.str data.forwarderGeneration),
          ("intended_release_us", Json.nat data.intendedReleaseUs),
          ("activated_grants", Json.arr (data.activatedGrants.map activationJson))]
  | .releaseObservation data _ =>
      ("rule", Json.str "release-observation-v3") :: basisMembers data.basis ++
        [("release_intent_event_id", Json.str data.releaseIntentEventId),
          ("release_intent_digest", Json.str data.releaseIntentDigest),
          ("release_intent_commit_seq", Json.nat data.releaseIntentCommitSeq),
          ("receiver_boot_id", Json.str data.receiverBootId),
          ("observed_us", Json.nat data.observedUs),
          ("ack_digest", Json.str data.ackDigest)]
  | .effectIntent data _ =>
      ("rule", Json.str "effect-intent-v3") :: basisMembers data.basis ++
        [("release_observation_event_id", Json.str data.releaseObservationEventId),
          ("release_observation_digest", Json.str data.releaseObservationDigest),
          ("release_observation_commit_seq", Json.nat data.releaseObservationCommitSeq),
          ("receiver_boot_id", Json.str data.receiverBootId),
          ("forwarder_generation", Json.str data.forwarderGeneration),
          ("service", Json.str data.service.text), ("route_id", Json.str data.routeId),
          ("grant_id", Json.str data.grantId), ("scope_digest", Json.str data.scopeDigest),
          ("flight_id", Json.str data.flightId),
          ("forwarder_receipt_id", Json.str data.forwarderReceiptId),
          ("request_digest", Json.str data.requestDigest),
          ("target_digest", Json.str data.targetDigest), ("observed_us", Json.nat data.observedUs),
          ("expires_us", Json.nat data.expiresUs)]
  | .effectReceipt data _ =>
      ("rule", Json.str "effect-receipt-v3") :: basisMembers data.basis ++
        [("effect_intent_event_id", Json.str data.effectIntentEventId),
          ("effect_intent_digest", Json.str data.effectIntentDigest),
          ("effect_intent_commit_seq", Json.nat data.effectIntentCommitSeq),
          ("receiver_boot_id", Json.str data.receiverBootId),
          ("service", Json.str data.service.text), ("grant_id", Json.str data.grantId),
          ("flight_id", Json.str data.flightId),
          ("forwarder_receipt_id", Json.str data.forwarderReceiptId),
          ("claimed_dispatch_state", Json.str data.claimedDispatchState.text),
          ("claimed_reason", Json.str data.claimedReason.text),
          ("finalized_receipt_digest", Json.str data.finalizedReceiptDigest),
          ("observed_us", Json.nat data.observedUs)]
  | .supervisionActionIntent data _ =>
      ("rule", Json.str "supervision-action-intent-v3") :: basisMembers data.basis ++
        [("launch_claim_event_id", Json.str data.launchClaimEventId),
          ("launch_claim_digest", Json.str data.launchClaimDigest),
          ("receiver_boot_id", Json.str data.receiverBootId),
          ("forwarder_generation", Json.str data.forwarderGeneration),
          ("action_kind", Json.str data.actionKind.text), ("phase", Json.str data.phase.text),
          ("phase_event_id", Json.str data.phaseEventId),
          ("phase_digest", Json.str data.phaseDigest),
          ("service", Json.optional (fun service => .str (Service.text service)) data.service),
          ("grant_id", Json.optional .str data.grantId),
          ("attestation_event_id", Json.optional .str data.attestationEventId),
          ("attestation_digest", Json.optional .str data.attestationDigest),
          ("witness_locator", Json.optional .str data.witnessLocator),
          ("witness_identity_digest", Json.optional .str data.witnessIdentityDigest),
          ("prior_revoke_action_ids", Json.arr (data.priorRevokeActionIds.map .str)),
          ("observed_us", Json.nat data.observedUs)]
  | .supervisionActionResult data _ =>
      ("rule", Json.str "supervision-action-result-v3") :: basisMembers data.basis ++
        [("action_intent_event_id", Json.str data.actionIntentEventId),
          ("action_intent_digest", Json.str data.actionIntentDigest),
          ("action_intent_commit_seq", Json.nat data.actionIntentCommitSeq),
          ("receiver_boot_id", Json.str data.receiverBootId),
          ("action_kind", Json.str data.actionKind.text),
          ("claimed_outcome", Json.str data.claimedOutcome.text),
          ("observed_us", Json.nat data.observedUs)]
  | .processObservation data _ =>
      executionBaseMembers "process-observation-v3" data.base ++
        processFactsMembers data.facts ++ [("source_digest", Json.str data.sourceDigest)]
  | .terminalObservation data _ =>
      executionBaseMembers "terminal-observation-v3" data.base ++
        processLinkMembers data.process ++ terminalSummaryMembers data.summary
  | .executionAssessment data _ =>
      executionBaseMembers "execution-assessment-v3" data.base ++
        processLinkMembers data.process ++ terminalLinkMembers data.terminal ++
        assessmentMembers data.assessment
  | .reconciliationObservation data _ =>
      reconciliationMembers "reconciliation-observation-v3" data
  | .restartReconciliationObservation data _ =>
      reconciliationMembers "restart-reconciliation-observation-v3" data.common ++
        [("prior_effect_boot_id", Json.str data.priorEffectBootId),
          ("restart_commit_seq", Json.nat data.restartCommitSeq),
          ("restart_record_digest", Json.str data.restartRecordDigest),
          ("recovered_commit_seq", Json.nat data.recovered.commitSeq),
          ("recovered_event_seq", Json.nat data.recovered.eventSeq),
          ("recovered_record_digest", Json.str data.recovered.recordDigest)]

/-- The key and value of the claim's own digest. -/
def ownDigest : Payload → Option (String × String)
  | .runIntent _ digest => some ("run_intent_digest", digest)
  | .launchClaim _ digest => some ("launch_claim_digest", digest)
  | .spawnAttestation _ digest => some ("spawn_attestation_digest", digest)
  | .releaseIntent _ digest => some ("release_intent_digest", digest)
  | .releaseObservation _ digest => some ("release_observation_digest", digest)
  | .effectIntent _ digest => some ("effect_intent_digest", digest)
  | .effectReceipt _ digest => some ("effect_receipt_digest", digest)
  | .supervisionActionIntent _ digest => some ("action_intent_digest", digest)
  | .supervisionActionResult _ digest => some ("action_result_digest", digest)
  | .processObservation _ digest => some ("process_observation_digest", digest)
  | .terminalObservation _ digest => some ("terminal_observation_digest", digest)
  | .executionAssessment _ digest => some ("execution_assessment_digest", digest)
  | .reconciliationObservation _ digest => some ("reconciliation_observation_digest", digest)
  | .restartReconciliationObservation _ digest =>
      some ("restart_reconciliation_observation_digest", digest)
  | _ => none

/-- The `data` object. -/
def data (payload : Payload) : List (String × Json) :=
  payload.core ++ payload.ownDigest.toList.map fun entry => (entry.1, .str entry.2)

end Payload

end ManyAlerts
