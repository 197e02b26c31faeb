import ManyAlerts.Forwarder.ReceiptSafety

/-!
# What the receipts take up

An entry is charged once, when it is reserved, with the size its metadata would have if every
field not yet known took its longest value.  Here the metadata of an entry is written out as a
snapshot shows it, and each field is bounded by the value it was charged with: what is fixed at
reservation does not change, and what is filled in later by a caller or by the sweep fits.
-/

namespace ManyAlerts

variable {timeText : ℚ → Bytes} {generation : String} {ledger next : ReceiptLedger}
  {entry after : ReceiptEntry} {time : ℚ} {turn : LedgerTurn} {turns : List LedgerTurn}

/-! ## Metadata as text -/

def ForwarderState.text : ForwarderState → String
  | .notDispatched => "NOT_DISPATCHED"
  | .failed => "FAILED"
  | .dispatchedUnknown => "DISPATCHED_UNKNOWN"
  | .partialResponse => "PARTIAL"
  | .transportConfirmed => "TRANSPORT_CONFIRMED"

def ForwarderReason.text : ForwarderReason → String
  | .requestRejected => "request_rejected"
  | .leaseDenied => "lease_denied"
  | .routeDenied => "route_denied"
  | .permitDenied => "permit_denied"
  | .deadline => "deadline"
  | .abandoned => "abandoned"
  | .connectFailed => "connect_failed"
  | .upstreamTlsFailed => "upstream_tls_failed"
  | .writeFailed => "write_failed"
  | .receiveFailed => "receive_failed"
  | .malformedResponse => "malformed_response"
  | .responseIncomplete => "response_incomplete"
  | .responseOverflow => "response_overflow"
  | .ok => "ok"
  | .responsePolicyRejected => "response_policy_rejected"

def EntryState.text : EntryState → String
  | .reserved => "reserved"
  | .connecting => "connecting"
  | .dispatched => "dispatched"
  | .finalized => "finalized"

def DeliveryOutcome.text : DeliveryOutcome → String
  | .pending => "pending"
  | .sending => "sending"
  | .sent => "sent"
  | .notSent => "not_sent"
  | .sendUnknown => "send_unknown"

def StatusClass.text : StatusClass → String
  | .success => "2xx"
  | .clientError => "4xx"
  | .serverError => "5xx"

theorem ForwarderState.length_dumpString (state : ForwarderState) :
    (dumpString state.text).length ≤ 21 := by
  cases state <;> decide

theorem ForwarderReason.length_dumpString (reason : ForwarderReason) :
    (dumpString reason.text).length ≤ 26 := by
  cases reason <;> decide

theorem EntryState.length_dumpString (state : EntryState) :
    (dumpString state.text).length ≤ 12 := by
  cases state <;> decide

theorem DeliveryOutcome.length_dumpString (outcome : DeliveryOutcome) :
    (dumpString outcome.text).length ≤ 14 := by
  cases outcome <;> decide

theorem StatusClass.length_dumpString (status : StatusClass) :
    (dumpString status.text).length ≤ 5 := by
  cases status <;> decide

/-- The dictionary that `_entry_metadata` returns, with its values as JSON. -/
def EntryMetadata.members (timeText : ℚ → Bytes) (metadata : EntryMetadata) :
    List (String × Bytes) :=
  [("receipt_id", dumpString metadata.receiptId),
    ("generation", dumpString metadata.generation),
    ("lease_id", dumpString metadata.leaseId),
    ("attempt_id", dumpString metadata.attemptId),
    ("operation_id", dumpOptional dumpString metadata.operationId),
    ("service", dumpString metadata.service.text),
    ("route_id", dumpString metadata.routeId),
    ("request_digest", dumpString metadata.requestDigest),
    ("request_bytes", encodeNat metadata.requestBytes),
    ("entry_state", dumpString metadata.entryState.text),
    ("charge", encodeNat metadata.charge),
    ("deadline", timeText metadata.deadline),
    ("started_monotonic", timeText metadata.startedMonotonic),
    ("dispatch_state", dumpOptional (fun record : ForwarderReceipt =>
      dumpString record.dispatchState.text) metadata.record),
    ("reason", dumpOptional (fun record : ForwarderReceipt =>
      dumpString record.reason.text) metadata.record),
    ("http_status_class", dumpOptional (fun status : StatusClass => dumpString status.text)
      (metadata.record.bind (·.httpStatusClass))),
    ("response_digest", dumpOptional dumpString (metadata.record.bind (·.responseDigest))),
    ("client_response_digest", dumpOptional (fun record : ForwarderReceipt =>
      dumpString record.clientResponseDigest) metadata.record),
    ("client_response_bytes", dumpOptional (fun record : ForwarderReceipt =>
      encodeNat record.clientResponseBytes) metadata.record),
    ("upstream_body_bytes", dumpOptional encodeNat (metadata.record.bind (·.upstreamBodyBytes))),
    ("completed_monotonic", dumpOptional (fun record : ForwarderReceipt =>
      timeText record.completedMonotonic) metadata.record),
    ("delivery_outcome", dumpOptional (fun outcome : DeliveryOutcome =>
      dumpString outcome.text) metadata.deliveryOutcome),
    ("delivery_bytes_sent", dumpOptional encodeNat metadata.deliveryBytesSent)]

/-- The length of the compact text of an entry's metadata. -/
def ReceiptEntry.metadataBytes (timeText : ℚ → Bytes) (entry : ReceiptEntry) : Nat :=
  canonicalBytes (entry.metadata.members timeText)

/-! ## Responses -/

theorem length_dumpString_digest (message : Bytes) :
    (dumpString (sha256Hex message)).length = 66 := by
  have plain : Plain (sha256Hex message) := fun character member =>
    isPlainChar_of_isHexChar (isHexChar_of_mem_sha256Hex member)
  rw [length_dumpString_of_plain plain, length_sha256Hex]

/-- A settlement within what was charged for it. -/
structure Settlement.Sized (settlement : Settlement) : Prop where
  response : ∀ digest ∈ settlement.responseDigest, (dumpString digest).length ≤ 66
  body : ∀ count ∈ settlement.upstreamBodyBytes, count ≤ 99999999
  client : (dumpString settlement.clientResponseDigest).length ≤ 66
  wire : settlement.clientResponseBytes ≤ 99999999

theorem length_encodeInt_status {status : Int} (valid : validStatus status = true) :
    (encodeInt status).length ≤ 3 := by
  simp only [validStatus, Bool.or_eq_true, Bool.and_eq_true, decide_eq_true_eq] at valid
  obtain ⟨number, rfl⟩ := Int.eq_ofNat_of_zero_le (show 0 ≤ status by omega)
  rw [encodeInt, if_neg (by omega)]
  exact length_encodeNat_le (by decide) (by omega)

theorem length_serializeResponse {response : ParsedResponse} {wire : Bytes}
    (serialized : serializeResponse response = some wire) :
    response.body.length ≤ maxResponseBodyBytes ∧
      wire.length ≤ maxResponseBodyBytes + 200 := by
  have size (text : String) : (ascii text).length = text.length := by
    rw [ascii, List.length_map, characters_eq_toList, String.length_toList]
  unfold serializeResponse at serialized
  split_ifs at serialized with refused <;> obtain rfl := Option.some.inj serialized
  all_goals
    simp only [Bool.or_eq_true, Bool.not_eq_true', decide_eq_true_eq, not_or, not_lt,
      Bool.not_eq_false] at refused
    refine ⟨refused.2, ?_⟩
  · rw [size]
    decide
  · rw [size]
    decide
  · have status := length_encodeInt_status refused.1
    have bound : response.body.length < 10 ^ 7 := refused.2.trans_lt (by decide)
    have count := length_encodeNat_le (by decide) bound
    have first : "HTTP/1.1 ".length = 9 := rfl
    have second :
        " Response\r\nContent-Type: application/json\r\nContent-Length: ".length = 59 := rfl
    have third : "\r\nConnection: close\r\n\r\n".length = 23 := rfl
    simp only [List.length_append, size, first, second, third]
    omega

theorem localWire_length (kind : LocalKind) : (localWire kind).length ≤ 99999999 := by
  cases kind <;> decide

theorem localSettlement_sized (kind : LocalKind) : (localSettlement kind).Sized where
  response _ impossible := by cases impossible
  body _ impossible := by cases impossible
  client := (length_dumpString_digest _).le
  wire := localWire_length kind

theorem settle_sized {dispatchState : ForwarderState} {reason : ForwarderReason}
    {response : Option ParsedResponse} {settlement : Settlement}
    (settles : settle dispatchState reason response = some settlement) : settlement.Sized := by
  simp only [settle, Option.bind_eq_bind, Option.bind_eq_some_iff] at settles
  obtain ⟨kind, -, settles⟩ := settles
  cases dispatchState with
  | transportConfirmed =>
      simp only [Option.bind_eq_some_iff, Option.pure_def, Option.some.injEq] at settles
      obtain ⟨upstream, -, wire, serialized, rfl⟩ := settles
      obtain ⟨body, short⟩ := length_serializeResponse serialized
      have large : maxResponseBodyBytes + 200 ≤ 99999999 := by decide
      refine ⟨?_, ?_, (length_dumpString_digest _).le, ?_⟩
      · intro digest isDigest
        rw [← Option.some.inj isDigest]
        exact (length_dumpString_digest _).le
      · intro count isCount
        rw [← Option.some.inj isCount]
        omega
      · cases kind with
        | none => exact short.trans large
        | some kind => exact localWire_length kind
  | _ =>
      obtain ⟨kind, -, rfl⟩ := Option.map_eq_some_iff.mp settles
      exact localSettlement_sized kind

/-! ## Entries -/

/-- What `reserve` charges for an entry. -/
def ReceiptEntry.worstCase (timeText : ℚ → Bytes) (entry : ReceiptEntry) : Nat :=
  worstCaseCharge timeText entry.receiptId entry.generation entry.leaseId entry.attemptId
    entry.operationId entry.service entry.routeId entry.requestDigest entry.requestBytes
    entry.deadline entry.startedMonotonic

/-- An entry that was charged with its worst case, and has stayed within it. -/
structure ReceiptEntry.Sized (timeText : ℚ → Bytes) (entry : ReceiptEntry) : Prop where
  charge : entry.charge = entry.worstCase timeText
  small : entry.charge ≤ maxReceiptBytes
  lasting : 0 ≤ entry.deadline
  record : ∀ record ∈ entry.record, 0 ≤ record.completedMonotonic ∧
    Settlement.Sized ⟨record.httpStatusClass, record.responseDigest, record.upstreamBodyBytes,
      record.clientResponseDigest, record.clientResponseBytes⟩
  sent : ∀ count ∈ entry.deliveryBytesSent, count ≤ 99999999

namespace ReceiptEntry

theorem Sized.settled (sized : entry.Sized timeText) {dispatchState : ForwarderState}
    {reason : ForwarderReason} {settlement : Settlement} {swept : Bool}
    (small : settlement.Sized) (nonneg : 0 ≤ time) :
    (entry.settled dispatchState reason settlement time swept).Sized timeText where
  charge := sized.charge
  small := sized.small
  lasting := sized.lasting
  record record recorded := by
    obtain rfl := Option.some.inj recorded
    exact ⟨nonneg, small⟩
  sent := sized.sent

theorem Sized.sweep (sized : entry.Sized timeText) (now : ℚ) :
    (entry.sweep now).Sized timeText := by
  have swept := swept_sweep now entry
  generalize entry.sweep now = after at swept ⊢
  cases swept with
  | kept current => exact sized
  | @abandoned kind active due => exact sized.settled (localSettlement_sized kind) sized.lasting

theorem length_encodeNat_small {count : Nat} (bound : count ≤ 99999999) :
    (encodeNat count).length ≤ 8 :=
  length_encodeNat_le (by decide) (by omega)

/-- What the placeholders of `worstCaseCharge` take. -/
theorem length_placeholders : (dumpString "connecting").length = 12 ∧
    (encodeNat 9999).length = 4 ∧ (dumpString "TRANSPORT_CONFIRMED").length = 21 ∧
    (dumpString "response_policy_rejected").length = 26 ∧ (dumpString "5xx").length = 5 ∧
    (dumpString (String.ofList (List.replicate 64 'f'))).length = 66 ∧
    (encodeNat 99999999).length = 8 ∧ (ascii "1.7976931348623157e+308").length = 23 ∧
    (dumpString "send_unknown").length = 14 := by
  decide

/-- Every field takes at most what it was charged with. -/
theorem Sized.metadataBytes_le (short : ShortTimes timeText) (sized : entry.Sized timeText) :
    entry.metadataBytes timeText ≤ entry.charge := by
  have state := entry.state.length_dumpString
  have charge : (encodeNat entry.charge).length ≤ 4 :=
    length_encodeNat_le (by decide) (sized.small.trans_lt (by decide))
  have delivered : (dumpOptional (fun outcome : DeliveryOutcome => dumpString outcome.text)
      entry.deliveryOutcome).length ≤ 14 := by
    apply length_dumpOptional_le (by decide)
    intro outcome _
    exact outcome.length_dumpString
  have sent : (dumpOptional encodeNat entry.deliveryBytesSent).length ≤ 8 := by
    apply length_dumpOptional_le (by decide)
    intro count isCount
    exact length_encodeNat_small (sized.sent count isCount)
  have dispatched : (dumpOptional (fun record : ForwarderReceipt =>
      dumpString record.dispatchState.text) entry.record).length ≤ 21 := by
    apply length_dumpOptional_le (by decide)
    intro record _
    exact record.dispatchState.length_dumpString
  have reason : (dumpOptional (fun record : ForwarderReceipt => dumpString record.reason.text)
      entry.record).length ≤ 26 := by
    apply length_dumpOptional_le (by decide)
    intro record _
    exact record.reason.length_dumpString
  have status : (dumpOptional (fun status : StatusClass => dumpString status.text)
      (entry.record.bind (·.httpStatusClass))).length ≤ 5 := by
    apply length_dumpOptional_le (by decide)
    intro status _
    exact status.length_dumpString
  have response : (dumpOptional dumpString
      (entry.record.bind (·.responseDigest))).length ≤ 66 := by
    apply length_dumpOptional_le (by decide)
    intro digest isDigest
    obtain ⟨record, recorded, own⟩ := Option.bind_eq_some_iff.mp isDigest
    exact (sized.record record recorded).2.response digest own
  have client : (dumpOptional (fun record : ForwarderReceipt =>
      dumpString record.clientResponseDigest) entry.record).length ≤ 66 := by
    apply length_dumpOptional_le (by decide)
    intro record recorded
    exact (sized.record record recorded).2.client
  have wire : (dumpOptional (fun record : ForwarderReceipt =>
      encodeNat record.clientResponseBytes) entry.record).length ≤ 8 := by
    apply length_dumpOptional_le (by decide)
    intro record recorded
    exact length_encodeNat_small (sized.record record recorded).2.wire
  have body : (dumpOptional encodeNat
      (entry.record.bind (·.upstreamBodyBytes))).length ≤ 8 := by
    apply length_dumpOptional_le (by decide)
    intro count isCount
    obtain ⟨record, recorded, own⟩ := Option.bind_eq_some_iff.mp isCount
    exact length_encodeNat_small ((sized.record record recorded).2.body count own)
  have completed : (dumpOptional (fun record : ForwarderReceipt =>
      timeText record.completedMonotonic) entry.record).length ≤ 23 := by
    apply length_dumpOptional_le (by decide)
    intro record recorded
    exact short _ (sized.record record recorded).1
  have placeholders := length_placeholders
  refine le_trans ?_ sized.charge.ge
  simp only [ReceiptEntry.metadataBytes, ReceiptEntry.metadata, EntryMetadata.members, worstCase,
    worstCaseCharge, canonicalBytes_eq, List.map_cons, List.map_nil, List.sum_cons, List.sum_nil,
    List.length_cons, List.length_nil, memberBytes]
  omega

end ReceiptEntry

/-! ## Ledgers -/

namespace ReceiptLedger

/-- Every entry is within its charge, and the charges are within the counter. -/
structure Metered (timeText : ℚ → Bytes) (ledger : ReceiptLedger) : Prop where
  sized : ∀ receiptId entry, ledger.entries.get? receiptId = some entry → entry.Sized timeText
  total : (ledger.entries.total fun entry => entry.charge) ≤ ledger.chargedBytes
  bounded : ledger.chargedBytes ≤ maxLedgerBytes

theorem Metered.start (generation : String) : Metered timeText (start generation) where
  sized _ _ impossible := by cases impossible
  total := le_rfl
  bounded := Int.natCast_nonneg _

theorem Metered.age (metered : ledger.Metered timeText) (time : ℚ) :
    (ledger.age time).Metered timeText where
  sized receiptId entry found := by
    obtain ⟨older, stored, rfl, -⟩ := of_get?_age found
    exact (metered.sized receiptId older stored).sweep time
  total := by
    have kept := total_age ledger time
    have before := metered.total
    omega
  bounded := chargedBytes_age_le.trans metered.bounded

/-- An entry is written over with one that has the same charge. -/
theorem Metered.setEntry (metered : ledger.Metered timeText)
    (stored : ledger.entries.get? after.receiptId = some entry)
    (charge : after.charge = entry.charge) (sized : after.Sized timeText) :
    (ledger.setEntry after).Metered timeText where
  sized := forall_setEntry (fun receiptId stored _ => metered.sized receiptId stored) sized
  total := by
    have same : ((ledger.entries.set after.receiptId after).total fun entry =>
        (entry.charge : Int)) = ledger.entries.total fun entry => (entry.charge : Int) :=
      Dict.total_set stored (by rw [charge])
    exact same.le.trans metered.total
  bounded := metered.bounded

/-- An entry is added, perhaps in place of another. -/
theorem Metered.addEntry (metered : ledger.Metered timeText) (sized : entry.Sized timeText)
    (room : ledger.chargedBytes + entry.charge ≤ maxLedgerBytes) :
    (ledger.addEntry entry).Metered timeText where
  sized := forall_setEntry (fun receiptId stored _ => metered.sized receiptId stored) sized
  total := by
    have grown : ((ledger.entries.set entry.receiptId entry).total fun entry =>
        (entry.charge : Int)) ≤ (ledger.entries.total fun entry => (entry.charge : Int)) +
          entry.charge :=
      Dict.total_set_le_add fun entry => Int.natCast_nonneg entry.charge
    exact grown.trans (Int.add_le_add_right metered.total _)
  bounded := room

theorem reserve_charges {leaseId attemptId routeId requestDigest receiptId : String}
    {service : Option Service} {requestBytes : Option Int} {deadline reading : Option ℚ}
    {operationId : Option String} :
    Ensures (reserve timeText leaseId attemptId service routeId requestDigest requestBytes deadline
        operationId receiptId reading) ledger
      (fun _ next => ∀ entry, next.entries.get? receiptId = some entry →
        entry.charge = entry.worstCase timeText)
      fun _ _ => True := by
  simp only [reserve, ensures_bind]
  refine now_ensures (fun _ => trivial) (fun _ _ _ _ => trivial) fun time _ => ?_
  simp only [ensures_refuse, ensures_orRaise, ensures_get, ensures_set, ensures_pure,
    implies_true, true_and]
  intro _ _ service _ _ _ bytes _ _ limit _ _ _ _ _ _ entry found
  change ((ReceiptLedger.age time ledger).setEntry _).entries.get? receiptId = some entry at found
  rw [get?_setEntry_self rfl] at found
  rw [← Option.some.inj found]
  rfl

theorem Metered.action (metered : ledger.Metered timeText) (orderly : ledger.Orderly)
    (nonneg : 0 ≤ time) {call : LedgerCall} {result : Except ReceiptErrorCode LedgerAnswer}
    (acts : LedgerAction time ledger call result next)
    (charges : ∀ entry, LedgerReserves time ledger call entry →
      result = .ok (.handle entry.handle) → next.entries.get? entry.receiptId = some entry →
        entry.charge = entry.worstCase timeText) : next.Metered timeText := by
  cases acts with
  | quiet quiet => exact metered
  | @reserved _ entry reserves =>
      obtain ⟨-, record, -, sent, -⟩ := reserves.initial
      have charge := charges entry reserves rfl (get?_setEntry_self rfl)
      refine metered.addEntry ⟨charge, reserves.small, nonneg.trans reserves.inTime.le, ?_, ?_⟩
        reserves.charged
      · intro found impossible
        rw [record] at impossible
        cases impossible
      · intro count impossible
        rw [sent] at impossible
        cases impossible
  | connected found | dispatched found | claimed found =>
      have stored := orderly.keyed.stored_of_lookup found
      have sized := metered.sized _ _ stored
      exact metered.setEntry stored rfl
        ⟨sized.charge, sized.small, sized.lasting, sized.record, sized.sent⟩
  | @finalized _ _ _ _ entry _ settlement _ found legal given settles recorded =>
      have stored := orderly.keyed.stored_of_lookup found
      exact metered.setEntry stored rfl
        ((metered.sized _ _ stored).settled (settle_sized settles) nonneg)
  | @completed _ _ bytesSent entry record found claimed recorded sending final bounded =>
      have stored := orderly.keyed.stored_of_lookup found
      have sized := metered.sized _ _ stored
      refine metered.setEntry stored rfl
        ⟨sized.charge, sized.small, sized.lasting, sized.record, ?_⟩
      intro count isCount
      rw [← Option.some.inj isCount]
      exact bounded.trans (sized.record record recorded).2.wire

theorem Metered.takes (metered : ledger.Metered timeText) (orderly : ledger.Orderly)
    (takes : LedgerTakes timeText ledger turn next) : next.Metered timeText := by
  have step := takes_step orderly.rested takes
  obtain ⟨call, reading, result⟩ := turn
  cases step with
  | unread => exact metered
  | held held reads quiet => exact metered
  | faulted free reads fault quiet => exact ⟨metered.sized, metered.total, metered.bounded⟩
  | @accepted _ _ time _ _ accepts reads acts =>
      refine (metered.age time).action (orderly.age time) accepts.nonneg acts ?_
      intro entry reserves answered found
      have ended := takes.ended
      rw [reserves.call, answered] at ended
      let ending : Except ReceiptErrorCode LedgerAnswer → ReceiptLedger → Prop :=
        fun result next => result = .ok (.handle entry.handle) →
          ∀ other, next.entries.get? entry.receiptId = some other →
            other.charge = other.worstCase timeText
      have charges : Ensures (LedgerCall.perform timeText reading (.reserve entry.leaseId
            entry.attemptId (some entry.service) entry.routeId entry.requestDigest
            (some entry.requestBytes) (some entry.deadline) entry.operationId
                entry.receiptId)) ledger
          (fun answer => ending (.ok answer)) fun error => ending (.error error) := by
        rw [LedgerCall.perform, ensures_map]
        exact reserve_charges.mono (fun _ _ charged _ => charged) fun _ _ _ impossible => by
          cases impossible
      exact charges.of_outcome ended rfl entry found

end ReceiptLedger

/-! ## What the ledger retains -/

/-- The metadata of every entry fits its charge, and all of it fits the ledger. -/
structure ReceiptMetadataBounded (timeText : ℚ → Bytes) (ledger : ReceiptLedger) : Prop where
  each : ∀ entry ∈ ledger.entries.values,
    entry.metadataBytes timeText ≤ entry.charge ∧ entry.charge ≤ maxReceiptBytes
  total : (ledger.entries.values.map (·.metadataBytes timeText)).sum ≤ maxLedgerBytes

theorem LedgerRun.metered (run : LedgerRun timeText (.start generation) turns ledger) :
    ledger.Orderly ∧ ledger.Metered timeText := by
  induction run with
  | start => exact ⟨.start generation, .start generation⟩
  | turn run takes induction =>
      obtain ⟨orderly, metered⟩ := induction
      exact ⟨orderly.step (ReceiptLedger.takes_step orderly.rested takes),
        metered.takes orderly takes⟩

theorem receipt_metadata_bounded (short : ShortTimes timeText)
    (run : LedgerRun timeText (.start generation) turns ledger) :
    ReceiptMetadataBounded timeText ledger := by
  have metered := (LedgerRun.metered run).2
  have each : ∀ entry ∈ ledger.entries.values,
      entry.metadataBytes timeText ≤ entry.charge ∧ entry.charge ≤ maxReceiptBytes := by
    intro entry inside
    obtain ⟨receiptId, found⟩ := Dict.mem_values_iff.mp inside
    have sized := metered.sized receiptId entry found
    exact ⟨sized.metadataBytes_le short, sized.small⟩
  refine ⟨each, ?_⟩
  have charges : (ledger.entries.values.map (·.metadataBytes timeText)).sum ≤
      (ledger.entries.values.map (·.charge)).sum := by
    apply List.sum_le_sum
    intro entry inside
    exact (each entry inside).1
  have counted : (((ledger.entries.values.map (·.charge)).sum : Nat) : Int) ≤ maxLedgerBytes := by
    have total := metered.total.trans metered.bounded
    rw [Dict.total] at total
    push_cast
    rw [List.map_map]
    exact total
  omega

/-- A dispatch is reserved, begun and finalized. -/
def boundedLedgerCalls : List (LedgerCall × Option ℚ) :=
  sampleLedgerCalls ++
    [(.finalize ⟨some 0, "r"⟩ (some .dispatchedUnknown) (some .receiveFailed) .absent, some 3),
      (.snapshot, some 4)]

def boundedLedgerRun : List LedgerTurn × ReceiptLedger :=
  takeTurns (playLedger fun _ => ascii "0") (.start "g") boundedLedgerCalls

theorem receipt_metadata_bounded_sample :
    boundedLedgerRun.2.entries.values.map (·.state) = [.finalized] ∧
      ReceiptMetadataBounded (fun _ => ascii "0") boundedLedgerRun.2 := by
  have short : (ascii "0").length ≤ 23 := by decide
  have run : LedgerRun (fun _ => ascii "0") (.start "g") boundedLedgerRun.1 boundedLedgerRun.2 :=
    run_takeTurns takes_playLedger _ _
  exact ⟨by decide +kernel, receipt_metadata_bounded (fun _ _ => short) run⟩

end ManyAlerts
