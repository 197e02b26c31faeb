import ManyAlerts.Forwarder.MetadataSize
import ManyAlerts.Forwarder.ResponseParse
import ManyAlerts.Library.Runs
import ManyAlerts.Library.Stateful

/-!
# The receipt ledger of the forwarder

`ReceiptLedger` keeps one entry for each dispatch: it is reserved before a
connection is opened, moves on when the connection and the first write begin, and
is finalized with a receipt once the outcome is known.  The bytes that go to the
client are claimed once, under the digest that the ledger itself recorded.

Every method reads the clock first.  A reading that is no time, or is earlier than
the last one, holds the ledger for good, and a held ledger does not read its clock
any more; an accepted reading finalizes what is past its deadline and drops what is
old.  A reading or a deadline is `none` when it is no finite number; a finite one is
the rational number it is, and sums and differences are rounded as binary64 rounds them.

Reservations, receipts and claims are objects: an entry has one reservation, at most
one receipt and at most one claim, so an object is known by the number of its entry.
What a caller presents is a `ReceiptHandle`: an object of the ledger, or a copy or
forgery of one, and the identifier it bears.  The identifier that `reserve` draws is
part of the call here.  An argument of a wrong type is refused like an invalid one.
-/

namespace ManyAlerts

def maxReceipts : Nat := 2048
def maxReceiptBytes : Nat := 8192
def maxLedgerBytes : Nat := 2 * 1024 * 1024
def receiptRetentionSeconds : ℚ := 310
def maxHandlerSeconds : ℚ := 40
def maxRequestBytes : Nat := 2048 + 16384 + 262144

/-! ## Vocabulary -/

inductive ReceiptErrorCode where
  | invalidLeaseId
  | invalidAttemptId
  | invalidService
  | invalidRouteId
  | invalidRequestDigest
  | invalidRequestBytes
  | invalidDeadline
  | invalidOperationId
  | capacityRecords
  | receiptTooLarge
  | capacityBytes
  | reservationUnknown
  | reservationFinalized
  | deadlineExpired
  | invalidTransition
  | invalidDispatchState
  | invalidReason
  | invalidUpstreamResponse
  | invalidResponse
  | receiptUnknown
  | receiptMismatch
  | deliveryClaimed
  | claimUnknown
  | deliveryCompleted
  | invalidDeliveryOutcome
  | invalidBytesSent
  | clockInvalid
  | clockRegressed
  | ledgerHeld
deriving DecidableEq

/-- `DISPATCH_STATES`. -/
inductive ForwarderState where
  | notDispatched
  | failed
  | dispatchedUnknown
  | partialResponse
  | transportConfirmed
deriving DecidableEq

inductive ForwarderReason where
  | requestRejected
  | leaseDenied
  | routeDenied
  | permitDenied
  | deadline
  | abandoned
  | connectFailed
  | upstreamTlsFailed
  | writeFailed
  | receiveFailed
  | malformedResponse
  | responseIncomplete
  | responseOverflow
  | ok
  | responsePolicyRejected
deriving DecidableEq

/-- The states of an entry. -/
inductive EntryState where
  | reserved
  | connecting
  | dispatched
  | finalized
deriving DecidableEq

/-- `DELIVERY_OUTCOMES`. -/
inductive DeliveryOutcome where
  | pending
  | sending
  | sent
  | notSent
  | sendUnknown
deriving DecidableEq

inductive StatusClass where
  | success
  | clientError
  | serverError
deriving DecidableEq

/-- The keys of `LOCAL_RESPONSES`. -/
inductive LocalKind where
  | invalidRequest
  | denied
  | unavailable
  | upstreamFailed
  | upstreamUnknown
  | deadline
  | responseRejected
deriving DecidableEq

inductive LedgerHeldCode where
  | clockInvalid
  | clockRegressed
deriving DecidableEq

/-- `_REASON_LOCAL_RESPONSE`: the reasons of a state, and the local response of each
but `ok`. -/
def reasonLocalResponse : ForwarderState → ForwarderReason → Option (Option LocalKind)
  | .notDispatched, .requestRejected => some (some .invalidRequest)
  | .notDispatched, .leaseDenied => some (some .denied)
  | .notDispatched, .routeDenied => some (some .denied)
  | .notDispatched, .permitDenied => some (some .denied)
  | .notDispatched, .deadline => some (some .deadline)
  | .notDispatched, .abandoned => some (some .unavailable)
  | .failed, .connectFailed => some (some .upstreamFailed)
  | .failed, .upstreamTlsFailed => some (some .upstreamFailed)
  | .dispatchedUnknown, .writeFailed => some (some .upstreamUnknown)
  | .dispatchedUnknown, .receiveFailed => some (some .upstreamUnknown)
  | .dispatchedUnknown, .malformedResponse => some (some .upstreamUnknown)
  | .dispatchedUnknown, .abandoned => some (some .upstreamUnknown)
  | .dispatchedUnknown, .deadline => some (some .deadline)
  | .partialResponse, .responseIncomplete => some (some .upstreamUnknown)
  | .partialResponse, .responseOverflow => some (some .upstreamUnknown)
  | .transportConfirmed, .ok => some none
  | .transportConfirmed, .responsePolicyRejected => some (some .responseRejected)
  | _, _ => none

/-- `_LEGAL_FINALIZE_STATES`. -/
def legalFinalizeStates : EntryState → List ForwarderState
  | .reserved => [.notDispatched]
  | .connecting => [.failed, .dispatchedUnknown]
  | .dispatched => [.dispatchedUnknown, .partialResponse, .transportConfirmed]
  | .finalized => []

/-- `LOCAL_RESPONSES`. -/
def localResponse : LocalKind → ParsedResponse
  | .invalidRequest => ⟨400, ascii "\x7b\"error\":\"forwarder_invalid_request\"\x7d"⟩
  | .denied => ⟨403, ascii "\x7b\"error\":\"forwarder_denied\"\x7d"⟩
  | .unavailable => ⟨503, ascii "\x7b\"error\":\"forwarder_unavailable\"\x7d"⟩
  | .upstreamFailed => ⟨502, ascii "\x7b\"error\":\"forwarder_upstream_failed\"\x7d"⟩
  | .upstreamUnknown => ⟨502, ascii "\x7b\"error\":\"forwarder_dispatch_unknown\"\x7d"⟩
  | .deadline => ⟨504, ascii "\x7b\"error\":\"forwarder_deadline\"\x7d"⟩
  | .responseRejected => ⟨502, ascii "\x7b\"error\":\"forwarder_response_rejected\"\x7d"⟩

/-- `_status_class`. -/
def statusClass (status : Int) : StatusClass :=
  if 200 ≤ status ∧ status ≤ 299 then .success
  else if 400 ≤ status ∧ status ≤ 499 then .clientError
  else .serverError

/-! ## State -/

structure ForwarderReceipt where
  receiptId : String
  generation : String
  leaseId : String
  attemptId : String
  operationId : Option String
  service : Service
  routeId : String
  requestDigest : String
  dispatchState : ForwarderState
  reason : ForwarderReason
  httpStatusClass : Option StatusClass
  responseDigest : Option String
  clientResponseDigest : String
  requestBytes : Nat
  upstreamBodyBytes : Option Nat
  clientResponseBytes : Nat
  startedMonotonic : ℚ
  completedMonotonic : ℚ
deriving DecidableEq

/-- `_Entry`.  The receipt that was handed out equals `record`, and the claim exists
once it was given out. -/
structure ReceiptEntry where
  serial : Nat
  receiptId : String
  generation : String
  leaseId : String
  attemptId : String
  operationId : Option String
  service : Service
  routeId : String
  requestDigest : String
  requestBytes : Nat
  deadline : ℚ
  startedMonotonic : ℚ
  charge : Nat
  state : EntryState
  record : Option ForwarderReceipt
  deliveryOutcome : Option DeliveryOutcome
  deliveryBytesSent : Option Nat
  claimed : Bool
  swept : Bool
deriving DecidableEq

structure ReceiptLedger where
  generation : String
  entries : Dict String ReceiptEntry
  chargedBytes : Int
  lastNow : Option ℚ
  heldCode : Option LedgerHeldCode
  issued : Nat
deriving DecidableEq

/-- An object that a caller presents: the number of the entry it belongs to, unless
the ledger did not issue it, and the identifier it bears. -/
structure ReceiptHandle where
  serial : Option Nat
  receiptId : String
deriving DecidableEq

/-- The reservation, the receipt or the claim of an entry. -/
def ReceiptEntry.handle (entry : ReceiptEntry) : ReceiptHandle :=
  ⟨some entry.serial, entry.receiptId⟩

/-! ## Receipts -/

/-- What a receipt says about the upstream response and about the client's. -/
structure Settlement where
  httpStatusClass : Option StatusClass
  responseDigest : Option String
  upstreamBodyBytes : Option Nat
  clientResponseDigest : String
  clientResponseBytes : Nat
deriving DecidableEq

/-- The bytes of a local response. -/
def localWire (kind : LocalKind) : Bytes :=
  (serializeResponse (localResponse kind)).getD []

/-- The settlement by a local response alone. -/
def localSettlement (kind : LocalKind) : Settlement :=
  ⟨none, none, none, sha256Hex (localWire kind), (localWire kind).length⟩

/-- The settlement of a reason, with the upstream response where there is one;
`none` if that response cannot be serialized. -/
def settle (dispatchState : ForwarderState) (reason : ForwarderReason)
    (upstreamResponse : Option ParsedResponse) : Option Settlement := do
  let kind ← reasonLocalResponse dispatchState reason
  match dispatchState with
  | .transportConfirmed =>
      let response ← upstreamResponse
      let wire ← serializeResponse response
      let client := (kind.map localWire).getD wire
      return ⟨some (statusClass response.status), some (sha256Hex wire),
        some response.body.length, sha256Hex client, client.length⟩
  | _ => kind.map localSettlement

namespace ReceiptEntry

/-- The end of `_do_finalize`. -/
def settled (entry : ReceiptEntry) (dispatchState : ForwarderState) (reason : ForwarderReason)
    (settlement : Settlement) (now : ℚ) (swept : Bool) : ReceiptEntry :=
  { entry with
    state := .finalized
    record := some
      { receiptId := entry.receiptId
        generation := entry.generation
        leaseId := entry.leaseId
        attemptId := entry.attemptId
        operationId := entry.operationId
        service := entry.service
        routeId := entry.routeId
        requestDigest := entry.requestDigest
        dispatchState := dispatchState
        reason := reason
        httpStatusClass := settlement.httpStatusClass
        responseDigest := settlement.responseDigest
        clientResponseDigest := settlement.clientResponseDigest
        requestBytes := entry.requestBytes
        upstreamBodyBytes := settlement.upstreamBodyBytes
        clientResponseBytes := settlement.clientResponseBytes
        startedMonotonic := entry.startedMonotonic
        completedMonotonic := now }
    deliveryOutcome := some .pending
    swept := swept }

/-- `_do_finalize`; `none` if the upstream response cannot be serialized. -/
def doFinalize (entry : ReceiptEntry) (dispatchState : ForwarderState) (reason : ForwarderReason)
    (upstreamResponse : Option ParsedResponse) (now : ℚ) (swept : Bool) : Option ReceiptEntry :=
  (settle dispatchState reason upstreamResponse).map fun settlement =>
    entry.settled dispatchState reason settlement now swept

/-- One round of `_sweep_abandoned`. -/
def sweep (now : ℚ) (entry : ReceiptEntry) : ReceiptEntry :=
  if entry.state = .finalized ∨ now < entry.deadline then entry
  else
    (entry.doFinalize (if entry.state = .reserved then .notDispatched else .dispatchedUnknown)
      .abandoned none entry.deadline true).getD entry

/-- What `_prune_retention` keeps. -/
def retained (now : ℚ) (entry : ReceiptEntry) : Bool :=
  match entry.record with
  | none => true
  | some record =>
      entry.state ≠ .finalized || (Binary64.round (now - record.completedMonotonic)).any fun age =>
        age < receiptRetentionSeconds

end ReceiptEntry

/-- `_worst_case_charge`: the size of the entry's metadata with the longest values that
the fields not yet known can take. -/
def worstCaseCharge (timeText : ℚ → Bytes) (receiptId generation leaseId attemptId : String)
    (operationId : Option String) (service : Service) (routeId requestDigest : String)
    (requestBytes : Nat) (deadline startedMonotonic : ℚ) : Nat :=
  canonicalBytes
    [("receipt_id", dumpString receiptId),
      ("generation", dumpString generation),
      ("lease_id", dumpString leaseId),
      ("attempt_id", dumpString attemptId),
      ("operation_id", dumpOptional dumpString operationId),
      ("service", dumpString service.text),
      ("route_id", dumpString routeId),
      ("request_digest", dumpString requestDigest),
      ("request_bytes", encodeNat requestBytes),
      ("deadline", timeText deadline),
      ("entry_state", dumpString "connecting"),
      ("charge", encodeNat 9999),
      ("dispatch_state", dumpString "TRANSPORT_CONFIRMED"),
      ("reason", dumpString "response_policy_rejected"),
      ("http_status_class", dumpString "5xx"),
      ("response_digest", dumpString (String.ofList (List.replicate 64 'f'))),
      ("client_response_digest", dumpString (String.ofList (List.replicate 64 'f'))),
      ("upstream_body_bytes", encodeNat 99999999),
      ("client_response_bytes", encodeNat 99999999),
      ("started_monotonic", timeText startedMonotonic),
      ("completed_monotonic", ascii "1.7976931348623157e+308"),
      ("delivery_outcome", dumpString "send_unknown"),
      ("delivery_bytes_sent", encodeNat 99999999)]

/-- An entry as a snapshot shows it: its own fields, and its receipt's once there is one. -/
structure EntryMetadata where
  receiptId : String
  generation : String
  leaseId : String
  attemptId : String
  operationId : Option String
  service : Service
  routeId : String
  requestDigest : String
  requestBytes : Nat
  entryState : EntryState
  charge : Nat
  deadline : ℚ
  startedMonotonic : ℚ
  record : Option ForwarderReceipt
  deliveryOutcome : Option DeliveryOutcome
  deliveryBytesSent : Option Nat
deriving DecidableEq

/-- `_entry_metadata`. -/
def ReceiptEntry.metadata (entry : ReceiptEntry) : EntryMetadata where
  receiptId := entry.receiptId
  generation := entry.generation
  leaseId := entry.leaseId
  attemptId := entry.attemptId
  operationId := entry.operationId
  service := entry.service
  routeId := entry.routeId
  requestDigest := entry.requestDigest
  requestBytes := entry.requestBytes
  entryState := entry.state
  charge := entry.charge
  deadline := entry.deadline
  startedMonotonic := entry.startedMonotonic
  record := entry.record
  deliveryOutcome := entry.deliveryOutcome
  deliveryBytesSent := entry.deliveryBytesSent

structure LedgerSnapshot where
  generation : String
  held : Bool
  countsByState : List (EntryState × Nat)
  chargedBytes : Int
  entries : List EntryMetadata
deriving DecidableEq

/-- What `finalize` is given as the upstream response. -/
inductive UpstreamArgument where
  | absent
  | response (response : ParsedResponse)
  | other
deriving DecidableEq

namespace ReceiptLedger

def start (generation : String) : ReceiptLedger where
  generation := generation
  entries := .empty
  chargedBytes := 0
  lastNow := none
  heldCode := none
  issued := 0

/-- `_sweep_abandoned`. -/
def sweepAbandoned (now : ℚ) (ledger : ReceiptLedger) : ReceiptLedger :=
  { ledger with entries := ledger.entries.mapValues (ReceiptEntry.sweep now) }

/-- `_prune_retention`. -/
def pruneRetention (now : ℚ) (ledger : ReceiptLedger) : ReceiptLedger :=
  let dropped := ledger.entries.values.filter fun entry => !entry.retained now
  { ledger with
    entries := ledger.entries.filterValues (ReceiptEntry.retained now)
    chargedBytes := ledger.chargedBytes - (dropped.map fun entry => (entry.charge : Int)).sum }

/-- The entry of an object, if the ledger issued exactly this object. -/
def lookup (ledger : ReceiptLedger) (handle : ReceiptHandle) : Option ReceiptEntry :=
  (ledger.entries.get? handle.receiptId).filter fun entry => handle.serial = some entry.serial

def setEntry (entry : ReceiptEntry) (ledger : ReceiptLedger) : ReceiptLedger :=
  { ledger with entries := ledger.entries.set entry.receiptId entry }

/-- A new entry, with its charge. -/
def addEntry (entry : ReceiptEntry) (ledger : ReceiptLedger) : ReceiptLedger :=
  { ledger.setEntry entry with
    chargedBytes := ledger.chargedBytes + entry.charge
    issued := ledger.issued + 1 }

def hold (code : LedgerHeldCode) (ledger : ReceiptLedger) : ReceiptLedger :=
  { ledger with heldCode := some code }

/-- What an accepted reading does. -/
def age (now : ℚ) (ledger : ReceiptLedger) : ReceiptLedger :=
  ({ ledger with lastNow := some now }.sweepAbandoned now).pruneRetention now

/-- A method of the ledger. -/
abbrev Method := EStateM ReceiptErrorCode ReceiptLedger

/-- `_now`. -/
def now (reading : Option ℚ) : Method ℚ := do
  let ledger ← get
  refuse (ledger.heldCode.isSome = true) .ledgerHeld
  match reading.filter fun time => 0 ≤ time with
  | none =>
      set (ledger.hold .clockInvalid)
      throw .clockInvalid
  | some time =>
      if ledger.lastNow.any fun last => time < last then
        set (ledger.hold .clockRegressed)
        throw .clockRegressed
      else
        set (ledger.age time)
        return time

/-- `_lookup_reservation`. -/
def lookupReservation (reservation : ReceiptHandle) : Method ReceiptEntry := do
  let ledger ← get
  orRaise .reservationUnknown (ledger.lookup reservation)

/-- `_lookup_receipt`. -/
def lookupReceipt (receipt : ReceiptHandle) : Method (ReceiptEntry × ForwarderReceipt) := do
  let ledger ← get
  let entry ← orRaise .receiptUnknown (ledger.lookup receipt)
  let record ← orRaise .receiptUnknown entry.record
  return (entry, record)

/-- `_require_active`. -/
def requireActive (entry : ReceiptEntry) : Method Unit := do
  refuse (entry.state = .finalized ∧ entry.swept = true) .deadlineExpired
  refuse (entry.state = .finalized) .reservationFinalized

/-! ### The dispatch seam -/

def reserve (timeText : ℚ → Bytes) (leaseId attemptId : String) (service : Option Service)
    (routeId requestDigest : String) (requestBytes : Option Int) (deadline : Option ℚ)
    (operationId : Option String) (receiptId : String) (reading : Option ℚ) :
    Method ReceiptHandle := do
  let time ← now reading
  refuse (isId leaseId = false) .invalidLeaseId
  refuse (isId attemptId = false) .invalidAttemptId
  let service ← orRaise .invalidService service
  refuse (isId routeId = false) .invalidRouteId
  refuse (isHex64 requestDigest = false) .invalidRequestDigest
  let requestBytes ← orRaise .invalidRequestBytes requestBytes
  refuse (¬(0 ≤ requestBytes ∧ requestBytes ≤ maxRequestBytes)) .invalidRequestBytes
  let deadline ← orRaise .invalidDeadline deadline
  refuse (¬(time < deadline ∧ (Binary64.round (time + maxHandlerSeconds)).all fun latest =>
    deadline ≤ latest)) .invalidDeadline
  refuse (operationId.any fun operation => !isId operation) .invalidOperationId
  let ledger ← get
  refuse (maxReceipts ≤ ledger.entries.size) .capacityRecords
  let charge := worstCaseCharge timeText receiptId ledger.generation leaseId attemptId operationId
    service routeId requestDigest requestBytes.toNat deadline time
  refuse (maxReceiptBytes < charge) .receiptTooLarge
  refuse (maxLedgerBytes < ledger.chargedBytes + charge) .capacityBytes
  let entry : ReceiptEntry :=
    { serial := ledger.issued
      receiptId, generation := ledger.generation, leaseId, attemptId, operationId, service, routeId
      requestDigest, requestBytes := requestBytes.toNat, deadline, startedMonotonic := time, charge
      state := .reserved, record := none, deliveryOutcome := none, deliveryBytesSent := none
      claimed := false, swept := false }
  set (ledger.addEntry entry)
  return entry.handle

/-- `begin_connect` and `begin_dispatch`: from one state to the next. -/
def advance (source target : EntryState) (reservation : ReceiptHandle) (reading : Option ℚ) :
    Method Unit := do
  let _ ← now reading
  let entry ← lookupReservation reservation
  requireActive entry
  refuse (entry.state ≠ source) .invalidTransition
  modify (setEntry { entry with state := target })

def beginConnect (reservation : ReceiptHandle) (reading : Option ℚ) : Method Unit :=
  advance .reserved .connecting reservation reading

def beginDispatch (reservation : ReceiptHandle) (reading : Option ℚ) : Method Unit :=
  advance .connecting .dispatched reservation reading

/-- The upstream response that a state asks for, or does not. -/
def requireUpstream (dispatchState : ForwarderState) :
    UpstreamArgument → Method (Option ParsedResponse)
  | .response response => do
      refuse (dispatchState ≠ .transportConfirmed) .invalidUpstreamResponse
      return some response
  | .absent => do
      refuse (dispatchState = .transportConfirmed) .invalidUpstreamResponse
      return none
  | .other => throw .invalidUpstreamResponse

def finalize (reservation : ReceiptHandle) (dispatchState : Option ForwarderState)
    (reason : Option ForwarderReason) (upstreamResponse : UpstreamArgument)
    (reading : Option ℚ) : Method ForwarderReceipt := do
  let time ← now reading
  let entry ← lookupReservation reservation
  requireActive entry
  let dispatchState ← orRaise .invalidDispatchState dispatchState
  refuse (dispatchState ∉ legalFinalizeStates entry.state) .invalidTransition
  let reason ← orRaise .invalidReason reason
  refuse (reasonLocalResponse dispatchState reason = none) .invalidReason
  let response ← requireUpstream dispatchState upstreamResponse
  let finalized ← orRaise .invalidResponse
    (entry.doFinalize dispatchState reason response time false)
  modify (setEntry finalized)
  orRaise .invalidResponse finalized.record

/-! ### Delivery -/

def claimDelivery (receipt : ReceiptHandle) (clientResponseDigest : String)
    (reading : Option ℚ) : Method ReceiptHandle := do
  let _ ← now reading
  let (entry, record) ← lookupReceipt receipt
  refuse (isHex64 clientResponseDigest = false ∨
    clientResponseDigest ≠ record.clientResponseDigest) .receiptMismatch
  refuse (entry.deliveryOutcome ≠ some .pending) .deliveryClaimed
  modify (setEntry { entry with claimed := true, deliveryOutcome := some .sending })
  return entry.handle

def completeDelivery (claim : ReceiptHandle) (outcome : Option DeliveryOutcome)
    (bytesSent : Option Int) (reading : Option ℚ) : Method Unit := do
  let _ ← now reading
  let ledger ← get
  let entry ← orRaise .claimUnknown (ledger.lookup claim)
  refuse (entry.claimed = false) .claimUnknown
  let record ← orRaise .claimUnknown entry.record
  refuse (entry.deliveryOutcome ≠ some .sending) .deliveryCompleted
  let outcome ← orRaise .invalidDeliveryOutcome outcome
  refuse (outcome ∉ [DeliveryOutcome.sent, .notSent, .sendUnknown]) .invalidDeliveryOutcome
  let bytesSent ← orRaise .invalidBytesSent bytesSent
  refuse (¬(0 ≤ bytesSent ∧ bytesSent ≤ record.clientResponseBytes)) .invalidBytesSent
  refuse (outcome = .sent ∧ bytesSent ≠ record.clientResponseBytes) .invalidBytesSent
  refuse (outcome = .notSent ∧ bytesSent ≠ 0) .invalidBytesSent
  modify (setEntry
    { entry with deliveryOutcome := some outcome, deliveryBytesSent := some bytesSent.toNat })

/-- The start of `contains` and `snapshot`: a fault is tolerated. -/
def freshen (reading : Option ℚ) : Method Unit := do
  let time ← tryCatch (now reading) fun _ => do
    let ledger ← get
    return ledger.lastNow.getD 0
  modify fun ledger => (ledger.sweepAbandoned time).pruneRetention time

/-- What `contains` answers once the ledger is fresh. -/
def holds (ledger : ReceiptLedger) (receipt : ReceiptHandle) : Bool :=
  ledger.heldCode.isNone && (ledger.lookup receipt).any fun entry => entry.record.isSome

/-- `contains`; the clock is not read for an object that is no receipt. -/
def contains (receipt : Option ReceiptHandle) (reading : Option ℚ) : Method Bool := do
  match receipt with
  | none => return false
  | some receipt =>
      freshen reading
      let ledger ← get
      return ledger.holds receipt

/-- What `snapshot` shows once the ledger is fresh. -/
def view (ledger : ReceiptLedger) : LedgerSnapshot where
  generation := ledger.generation
  held := ledger.heldCode.isSome
  countsByState := [EntryState.reserved, .connecting, .dispatched, .finalized].map fun state =>
    (state, (ledger.entries.values.filter fun entry => entry.state = state).length)
  chargedBytes := ledger.chargedBytes
  entries := ledger.entries.values.map ReceiptEntry.metadata

def snapshot (reading : Option ℚ) : Method LedgerSnapshot := do
  freshen reading
  let ledger ← get
  return ledger.view

end ReceiptLedger

/-! ## Runs -/

/-- A call, with the identifier that `reserve` draws if it comes to that. -/
inductive LedgerCall where
  | reserve (leaseId attemptId : String) (service : Option Service)
      (routeId requestDigest : String) (requestBytes : Option Int) (deadline : Option ℚ)
      (operationId : Option String) (receiptId : String)
  | beginConnect (reservation : ReceiptHandle)
  | beginDispatch (reservation : ReceiptHandle)
  | finalize (reservation : ReceiptHandle) (dispatchState : Option ForwarderState)
      (reason : Option ForwarderReason) (upstreamResponse : UpstreamArgument)
  | claimDelivery (receipt : ReceiptHandle) (clientResponseDigest : String)
  | completeDelivery (claim : ReceiptHandle) (outcome : Option DeliveryOutcome)
      (bytesSent : Option Int)
  | contains (receipt : Option ReceiptHandle)
  | snapshot
deriving DecidableEq

inductive LedgerAnswer where
  | nothing
  | handle (handle : ReceiptHandle)
  | receipt (receipt : ForwarderReceipt)
  | contained (contained : Bool)
  | snapshot (snapshot : LedgerSnapshot)
deriving DecidableEq

def LedgerCall.perform (timeText : ℚ → Bytes) (reading : Option ℚ) :
    LedgerCall → ReceiptLedger.Method LedgerAnswer
  | .reserve leaseId attemptId service routeId requestDigest requestBytes deadline operationId
      receiptId =>
      .handle <$> ReceiptLedger.reserve timeText leaseId attemptId service routeId requestDigest
        requestBytes deadline operationId receiptId reading
  | .beginConnect reservation =>
      (fun _ => .nothing) <$> ReceiptLedger.beginConnect reservation reading
  | .beginDispatch reservation =>
      (fun _ => .nothing) <$> ReceiptLedger.beginDispatch reservation reading
  | .finalize reservation dispatchState reason upstreamResponse =>
      .receipt <$> ReceiptLedger.finalize reservation dispatchState reason upstreamResponse reading
  | .claimDelivery receipt clientResponseDigest =>
      .handle <$> ReceiptLedger.claimDelivery receipt clientResponseDigest reading
  | .completeDelivery claim outcome bytesSent =>
      (fun _ => .nothing) <$> ReceiptLedger.completeDelivery claim outcome bytesSent reading
  | .contains receipt => .contained <$> ReceiptLedger.contains receipt reading
  | .snapshot => .snapshot <$> ReceiptLedger.snapshot reading

/-- Whether a call reads the clock of a ledger that is not held. -/
def LedgerCall.reads : LedgerCall → Bool
  | .contains none => false
  | _ => true

/-- A call that was made, the clock reading it met, if it met one, and how it ended. -/
structure LedgerTurn where
  call : LedgerCall
  reading : Option ℚ
  result : Except ReceiptErrorCode LedgerAnswer

/-- A turn of the ledger; a call that does not read the clock meets no reading. -/
structure LedgerTakes (timeText : ℚ → Bytes) (ledger : ReceiptLedger) (turn : LedgerTurn)
    (next : ReceiptLedger) : Prop where
  unread : ledger.heldCode.isSome = true ∨ turn.call.reads = false → turn.reading = none
  ended : outcome (turn.call.perform timeText turn.reading) ledger = (turn.result, next)

/-- The calls that lead from one ledger to another. -/
abbrev LedgerRun (timeText : ℚ → Bytes) :
    ReceiptLedger → List LedgerTurn → ReceiptLedger → Prop :=
  Run (LedgerTakes timeText)

end ManyAlerts
