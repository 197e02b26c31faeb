import ManyAlerts.Forwarder.Json
import ManyAlerts.Library.Binary64

/-!
# Closed vocabularies of the journal

Every failure is one of five error families with fixed codes, or one of the
exceptions Python raises by itself when a planner is run on a projection that
has no head or bounds yet.  The enumerations a record field may hold are
inductive types with the text the source stores; identifiers, digests and
times stay strings with the patterns the source matches.
-/

namespace ManyAlerts

/-! ## Failures -/

inductive SourceErrorCode where
  | shape
  | group
  | fingerprint
  | duplicateFingerprint
  | order
  | status
  | values
  | number
  | tooManyAlerts
  | tooManyValues
  | tooLarge
  | startsAt
  | truncated
  | bodyDigest
  | provenance
deriving DecidableEq

inductive RecordErrorCode where
  | tooLarge
  | field
  | id
  | time
deriving DecidableEq

inductive ReplayErrorCode where
  | chain
  | framing
  | generation
  | boot
  | clock
  | tailIncomplete
  | shape
  | mismatch
deriving DecidableEq

/-- What a journal function raises: `JSONPolicyError`, `SourceError`,
`RecordError`, `ReplayError`, `OutcomeError`, or an `AttributeError` or `KeyError`. -/
inductive Failure where
  | json (code : JsonErrorCode)
  | source (code : SourceErrorCode)
  | record (code : RecordErrorCode)
  | replay (code : ReplayErrorCode)
  | processInvalid
  | attributeError
  | keyError
deriving DecidableEq

/-- Let a policy error through, or turn it into another failure. -/
def liftJson {α : Type} (result : Except JsonErrorCode α) : Except Failure α :=
  result.mapError .json

def jsonOr {α : Type} (failure : Failure) (result : Except JsonErrorCode α) :
    Except Failure α :=
  result.mapError fun _ => failure

@[simp] theorem liftJson_eq_ok {α : Type} {result : Except JsonErrorCode α} {value : α} :
    liftJson result = .ok value ↔ result = .ok value := by
  cases result <;> simp [liftJson, Except.mapError]

@[simp] theorem jsonOr_eq_ok {α : Type} {failure : Failure}
    {result : Except JsonErrorCode α} {value : α} :
    jsonOr failure result = .ok value ↔ result = .ok value := by
  cases result <;> simp [jsonOr, Except.mapError]

/-! ## Enumerations -/

inductive AlertStatus where
  | firing
  | resolved
deriving DecidableEq

def AlertStatus.text : AlertStatus → String
  | .firing => "firing"
  | .resolved => "resolved"

/-- What a planner may find exhausted. -/
inductive CapacityCode where
  | admissions
  | pending
  | bytes
  | runHolds
  | reservationIntents
  | reservationConfirmations
  | effectClaims
  | reconciliationClaims
  | restartReconciliationClaims
deriving DecidableEq

def CapacityCode.text : CapacityCode → String
  | .admissions => "capacity_admissions"
  | .pending => "capacity_pending"
  | .bytes => "capacity_bytes"
  | .runHolds => "capacity_run_holds"
  | .reservationIntents => "capacity_reservation_intents"
  | .reservationConfirmations => "capacity_reservation_confirmations"
  | .effectClaims => "capacity_effect_claims"
  | .reconciliationClaims => "capacity_reconciliation_claims"
  | .restartReconciliationClaims => "capacity_restart_reconciliation_claims"

/-- `CAPACITY_CODES`: the codes a capacity hold may carry. -/
def capacityCodes : List CapacityCode := [.admissions, .pending, .bytes]

inductive HoldCode where
  | capacity (code : CapacityCode)
  | restartRecovery
deriving DecidableEq

def HoldCode.text : HoldCode → String
  | .capacity code => code.text
  | .restartRecovery => "restart_recovery"

/-- `DISPATCH_HOLD_CODES`. -/
def dispatchHoldCodes : List HoldCode := capacityCodes.map .capacity ++ [.restartRecovery]

inductive AdmissionDecision where
  | admitted
  | held
deriving DecidableEq

def AdmissionDecision.text : AdmissionDecision → String
  | .admitted => "admitted"
  | .held => "held"

inductive DedupeResult where
  | admitted
  | suppressed
  | pendingReduced
deriving DecidableEq

def DedupeResult.text : DedupeResult → String
  | .admitted => "admitted"
  | .suppressed => "suppressed"
  | .pendingReduced => "pending_reduced"

inductive IngressCode where
  | tooLarge
  | jsonInvalid
  | shape
  | groupKey
  | truncated
  | fingerprint
  | status
  | values
  | duplicateFingerprint
  | jsonUnsupported
  | groupKeyUnsupported
  | refIdUnsupported
  | tooManyAlerts
  | tooManyValues
  | recordTooLarge
  | divergence
deriving DecidableEq

def IngressCode.text : IngressCode → String
  | .tooLarge => "ingress_too_large"
  | .jsonInvalid => "ingress_json_invalid"
  | .shape => "ingress_shape"
  | .groupKey => "ingress_group_key"
  | .truncated => "ingress_truncated"
  | .fingerprint => "ingress_fingerprint"
  | .status => "ingress_status"
  | .values => "ingress_values"
  | .duplicateFingerprint => "ingress_duplicate_fingerprint"
  | .jsonUnsupported => "ingress_json_unsupported"
  | .groupKeyUnsupported => "ingress_group_key_unsupported"
  | .refIdUnsupported => "ingress_ref_id_unsupported"
  | .tooManyAlerts => "ingress_too_many_alerts"
  | .tooManyValues => "ingress_too_many_values"
  | .recordTooLarge => "ingress_record_too_large"
  | .divergence => "ingress_divergence"

/-- `_MEMBER_CODES`. -/
def IngressCode.listsMembers (code : IngressCode) : Bool :=
  code ∈ [.groupKeyUnsupported, .refIdUnsupported, .tooManyAlerts, .tooManyValues,
    .recordTooLarge]

/-- `_NO_GROUP_CODES`. -/
def IngressCode.hasNoGroup (code : IngressCode) : Bool :=
  code ∈ [.tooLarge, .jsonInvalid, .jsonUnsupported, .groupKey]

inductive RunHoldReason where
  | accountingUnavailable
  | restartRecovery
  | venueUnready
  | referenceRevoked
  | operatorReview
  | requiredEffectUnknown
deriving DecidableEq

def RunHoldReason.text : RunHoldReason → String
  | .accountingUnavailable => "accounting_unavailable"
  | .restartRecovery => "restart_recovery"
  | .venueUnready => "venue_unready"
  | .referenceRevoked => "reference_revoked"
  | .operatorReview => "operator_review"
  | .requiredEffectUnknown => "required_effect_unknown"

inductive Service where
  | anthropic
  | confluence
  | grafana
  | jira
  | kubernetes
deriving DecidableEq

def Service.text : Service → String
  | .anthropic => "anthropic"
  | .confluence => "confluence"
  | .grafana => "grafana"
  | .jira => "jira"
  | .kubernetes => "kubernetes"

/-- `_RUN_INTENT_MANDATORY_SERVICES`. -/
def mandatoryServices : List Service := [.anthropic, .jira, .grafana, .kubernetes]

inductive DispatchState where
  | notDispatched
  | failed
  | dispatchedUnknown
  | partialResponse
  | transportConfirmed
deriving DecidableEq

def DispatchState.text : DispatchState → String
  | .notDispatched => "NOT_DISPATCHED"
  | .failed => "FAILED"
  | .dispatchedUnknown => "DISPATCHED_UNKNOWN"
  | .partialResponse => "PARTIAL"
  | .transportConfirmed => "TRANSPORT_CONFIRMED"

inductive DispatchReason where
  | requestRejected
  | leaseDenied
  | routeDenied
  | permitDenied
  | deadline
  | abandoned
  | connectFailed
  | upstreamTlsFailed
  | writeFailed
  | receiveFailed
  | malformedResponse
  | responseIncomplete
  | responseOverflow
  | ok
  | responsePolicyRejected
deriving DecidableEq

def DispatchReason.text : DispatchReason → String
  | .requestRejected => "request_rejected"
  | .leaseDenied => "lease_denied"
  | .routeDenied => "route_denied"
  | .permitDenied => "permit_denied"
  | .deadline => "deadline"
  | .abandoned => "abandoned"
  | .connectFailed => "connect_failed"
  | .upstreamTlsFailed => "upstream_tls_failed"
  | .writeFailed => "write_failed"
  | .receiveFailed => "receive_failed"
  | .malformedResponse => "malformed_response"
  | .responseIncomplete => "response_incomplete"
  | .responseOverflow => "response_overflow"
  | .ok => "ok"
  | .responsePolicyRejected => "response_policy_rejected"

/-- `EFFECT_CLAIM_REASONS`. -/
def effectClaimReasons : DispatchState → List DispatchReason
  | .notDispatched =>
      [.requestRejected, .leaseDenied, .routeDenied, .permitDenied, .deadline, .abandoned]
  | .failed => [.connectFailed, .upstreamTlsFailed]
  | .dispatchedUnknown =>
      [.writeFailed, .receiveFailed, .malformedResponse, .abandoned, .deadline]
  | .partialResponse => [.responseIncomplete, .responseOverflow]
  | .transportConfirmed => [.ok, .responsePolicyRejected]

inductive ActionKind where
  | revokeGrant
  | signalInterrupt
  | signalKill
deriving DecidableEq

def ActionKind.text : ActionKind → String
  | .revokeGrant => "revoke_grant"
  | .signalInterrupt => "signal_interrupt"
  | .signalKill => "signal_kill"

inductive ActionOutcome where
  | acknowledged
  | requested
  | failed
  | unknown
deriving DecidableEq

def ActionOutcome.text : ActionOutcome → String
  | .acknowledged => "acknowledged"
  | .requested => "requested"
  | .failed => "failed"
  | .unknown => "unknown"

/-- `SUPERVISION_ACTION_OUTCOMES`. -/
def supervisionActionOutcomes : ActionKind → List ActionOutcome
  | .revokeGrant => [.acknowledged, .failed, .unknown]
  | .signalInterrupt => [.requested, .failed, .unknown]
  | .signalKill => [.requested, .failed, .unknown]

inductive SupervisionPhase where
  | preAttestation
  | blockedPreRelease
  | releaseUnknown
  | releasedObserved
deriving DecidableEq

def SupervisionPhase.text : SupervisionPhase → String
  | .preAttestation => "pre_attestation"
  | .blockedPreRelease => "blocked_pre_release"
  | .releaseUnknown => "release_unknown"
  | .releasedObserved => "released_observed"

inductive SpawnState where
  | accepted
  | failedBeforeProcess
  | unknown
deriving DecidableEq

def SpawnState.text : SpawnState → String
  | .accepted => "accepted"
  | .failedBeforeProcess => "failed_before_process"
  | .unknown => "unknown"

inductive Containment where
  | confirmed
  | failed
  | unknown
deriving DecidableEq

def Containment.text : Containment → String
  | .confirmed => "confirmed"
  | .failed => "failed"
  | .unknown => "unknown"

inductive CountClass where
  | none
  | one
  | multiple
deriving DecidableEq

def CountClass.text : CountClass → String
  | .none => "none"
  | .one => "one"
  | .multiple => "multiple"

inductive TerminalQuality where
  | recognized
  | invalid
deriving DecidableEq

def TerminalQuality.text : TerminalQuality → String
  | .recognized => "recognized"
  | .invalid => "invalid"

inductive InvalidityCode where
  | parseInvalid
  | shapeInvalid
  | fieldInvalid
  | contradictory
deriving DecidableEq

def InvalidityCode.text : InvalidityCode → String
  | .parseInvalid => "parse_invalid"
  | .shapeInvalid => "shape_invalid"
  | .fieldInvalid => "field_invalid"
  | .contradictory => "contradictory"

inductive TerminalSubtype where
  | success
  | error
deriving DecidableEq

def TerminalSubtype.text : TerminalSubtype → String
  | .success => "success"
  | .error => "error"

inductive TerminalReason where
  | reportedError
  | providerUnavailable
  | interrupted
  | runtimeError
  | unknownError
deriving DecidableEq

def TerminalReason.text : TerminalReason → String
  | .reportedError => "reported_error"
  | .providerUnavailable => "provider_unavailable"
  | .interrupted => "interrupted"
  | .runtimeError => "runtime_error"
  | .unknownError => "unknown_error"

inductive UsageState where
  | known
  | absent
  | malformed
deriving DecidableEq

def UsageState.text : UsageState → String
  | .known => "known"
  | .absent => "absent"
  | .malformed => "malformed"

inductive ExecutionState where
  | succeeded
  | failed
  | cancelled
  | containmentFailed
  | incomplete
deriving DecidableEq

def ExecutionState.text : ExecutionState → String
  | .succeeded => "succeeded"
  | .failed => "failed"
  | .cancelled => "cancelled"
  | .containmentFailed => "containment_failed"
  | .incomplete => "incomplete"

inductive ExecutionReason where
  | containmentFailed
  | containmentUnknown
  | timeout
  | cancelled
  | spawnFailed
  | spawnUnknown
  | exitMissing
  | signaledExit
  | nonzeroExit
  | missingTerminal
  | duplicateTerminal
  | terminalInvalid
  | resultError
  | usageMalformed
deriving DecidableEq

def ExecutionReason.text : ExecutionReason → String
  | .containmentFailed => "containment_failed"
  | .containmentUnknown => "containment_unknown"
  | .timeout => "timeout"
  | .cancelled => "cancelled"
  | .spawnFailed => "spawn_failed"
  | .spawnUnknown => "spawn_unknown"
  | .exitMissing => "exit_missing"
  | .signaledExit => "signaled_exit"
  | .nonzeroExit => "nonzero_exit"
  | .missingTerminal => "missing_terminal"
  | .duplicateTerminal => "duplicate_terminal"
  | .terminalInvalid => "terminal_invalid"
  | .resultError => "result_error"
  | .usageMalformed => "usage_malformed"

inductive ExecutionUsage where
  | known
  | unknown
deriving DecidableEq

def ExecutionUsage.text : ExecutionUsage → String
  | .known => "known"
  | .unknown => "unknown"

inductive ReadbackKind where
  | jiraIssueReadback
  | jiraCommentReadback
deriving DecidableEq

def ReadbackKind.text : ReadbackKind → String
  | .jiraIssueReadback => "jira_issue_readback"
  | .jiraCommentReadback => "jira_comment_readback"

inductive ReportedState where
  | confirmed
  | absent
  | conflict
  | unavailable
deriving DecidableEq

def ReportedState.text : ReportedState → String
  | .confirmed => "confirmed"
  | .absent => "absent"
  | .conflict => "conflict"
  | .unavailable => "unavailable"

/-- `EFFECT_ROUTE_SERVICE_V3`. -/
def effectRouteService (route : String) : Option Service :=
  lookupEntry route
    [("anthropic.messages", .anthropic), ("draft.create", .confluence),
      ("draft.read", .confluence), ("draft.update", .confluence),
      ("eyes.change_query", .grafana), ("eyes.run_telemetry_query", .grafana),
      ("grafana_health", .grafana), ("jira.comment.add", .jira), ("jira.comment.get", .jira),
      ("jira.comments.list", .jira), ("jira.issue.create", .jira), ("jira.issue.get", .jira),
      ("jira.issue.update", .jira), ("jira.search", .jira), ("jira.transition", .jira),
      ("logs_range", .grafana), ("metrics_instant", .grafana), ("metrics_range", .grafana),
      ("pod_events", .kubernetes), ("pod_list", .kubernetes), ("pod_status", .kubernetes),
      ("service_endpoints", .kubernetes), ("reference.read", .confluence),
      ("trace_get", .grafana), ("traces_search", .grafana)]

/-- `RECONCILIATION_SOURCE_BY_ROUTE`. -/
def reconciliationSourceByRoute (route : String) : Option ReadbackKind :=
  lookupEntry route
    [("jira.issue.create", .jiraIssueReadback), ("jira.issue.update", .jiraIssueReadback),
      ("jira.transition", .jiraIssueReadback), ("jira.comment.add", .jiraCommentReadback)]

/-! ## Text patterns -/

/-- `[A-Za-z0-9._-]`. -/
def isIdChar (character : Char) : Bool :=
  character.isAlphanum || character = '.' || character = '_' || character = '-'

/-- `[A-Za-z0-9._-]{1,limit}`. -/
def matchesId (limit : Nat) (text : String) : Bool :=
  1 ≤ (characters text).length && (characters text).length ≤ limit &&
    (characters text).all isIdChar

def maxIdBytes : Nat := 128
def maxFingerprintBytes : Nat := 64

/-- `_ID_PATTERN`. -/
def isId (text : String) : Bool := matchesId maxIdBytes text

/-- `_FINGERPRINT_PATTERN`. -/
def isFingerprint (text : String) : Bool := matchesId maxFingerprintBytes text

/-- `_hex64_ok`. -/
def isHex64 (text : String) : Bool :=
  (characters text).length = 64 && (characters text).all isHexChar

/-- `_UUID_PATTERN`. -/
def isUuid (text : String) : Bool :=
  (characters text).length = 36 && (characters text).zipIdx.all fun entry =>
    if entry.2 ∈ [8, 13, 18, 23] then entry.1 = '-' else isHexChar entry.1

/-- The number written by the decimal digits from one position up to another. -/
def digitsAt (characters : List Char) (first last : Nat) : Nat :=
  NumberLexeme.digitsValue ((characters.take last).drop first)

def daysInMonth (year month : Nat) : Nat :=
  if month = 2 then
    if year % 4 = 0 ∧ (year % 100 ≠ 0 ∨ year % 400 = 0) then 29 else 28
  else if month ∈ [4, 6, 9, 11] then 30 else 31

/-- `_require_wall_time`: the pattern, the years of the format and a real date and time. -/
def isWallTime (text : String) : Bool :=
  let characters := characters text
  let year := digitsAt characters 0 4
  let month := digitsAt characters 5 7
  let day := digitsAt characters 8 10
  characters.length = 27 &&
    (characters.zipIdx.all fun entry =>
      if entry.2 ∈ [4, 7] then entry.1 = '-'
      else if entry.2 = 10 then entry.1 = 'T'
      else if entry.2 ∈ [13, 16] then entry.1 = ':'
      else if entry.2 = 19 then entry.1 = '.'
      else if entry.2 = 26 then entry.1 = 'Z'
      else entry.1.isDigit) &&
    2000 ≤ year && 1 ≤ month && month ≤ 12 && 1 ≤ day && day ≤ daysInMonth year month &&
    digitsAt characters 11 13 < 24 && digitsAt characters 14 16 < 60 &&
    digitsAt characters 17 19 < 60

def zeroDigest : String := String.ofList (List.replicate 64 '0')

end ManyAlerts
