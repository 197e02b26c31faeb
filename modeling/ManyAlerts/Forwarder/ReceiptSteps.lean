import ManyAlerts.Forwarder.Receipts

/-!
# What a call does to the receipts

An accepted clock reading abandons what is past its deadline and drops what is old;
doing so again at the same instant changes nothing.  `ReceiptStep` is everything a
call can do: meet a held ledger or hold it, or be accepted by the clock and then do
one `LedgerAction` on one entry.
-/

namespace ManyAlerts

variable {timeText : ℚ → Bytes} {ledger next : ReceiptLedger} {entry : ReceiptEntry} {time : ℚ}
  {reading : Option ℚ} {receiptId : String} {call : LedgerCall}

/-! ## Sweeping and pruning -/

namespace ReceiptEntry

theorem doFinalize_eq_some {dispatchState : ForwarderState} {reason : ForwarderReason}
    {response : Option ParsedResponse} {swept : Bool} {finalized : ReceiptEntry} :
    entry.doFinalize dispatchState reason response time swept = some finalized ↔
      ∃ settlement, settle dispatchState reason response = some settlement ∧
        finalized = entry.settled dispatchState reason settlement time swept := by
  rw [doFinalize, Option.map_eq_some_iff]
  simp only [eq_comm]

/-- The state in which an entry is abandoned. -/
def abandonedAs (entry : ReceiptEntry) : ForwarderState :=
  if entry.state = .reserved then .notDispatched else .dispatchedUnknown

/-- What `sweep` does to an entry. -/
inductive Swept (now : ℚ) (entry : ReceiptEntry) : ReceiptEntry → Prop where
  | kept (current : entry.state = .finalized ∨ now < entry.deadline) : Swept now entry entry
  | abandoned {kind : LocalKind} (active : entry.state ≠ .finalized)
      (due : entry.deadline ≤ now) :
      Swept now entry
        (entry.settled entry.abandonedAs .abandoned (localSettlement kind) entry.deadline true)

theorem swept_sweep (now : ℚ) (entry : ReceiptEntry) : Swept now entry (entry.sweep now) := by
  by_cases current : entry.state = .finalized ∨ now < entry.deadline
  · rw [sweep, if_pos current]
    exact .kept current
  · have active : entry.state ≠ .finalized := fun final => current (.inl final)
    have due : entry.deadline ≤ now := not_lt.mp fun early => current (.inr early)
    rw [sweep, if_neg current]
    by_cases reserved : entry.state = .reserved
    · have sweeps : Swept now entry (entry.settled entry.abandonedAs .abandoned
          (localSettlement .unavailable) entry.deadline true) := .abandoned active due
      rw [abandonedAs, if_pos reserved] at sweeps
      rw [if_pos reserved]
      exact sweeps
    · have sweeps : Swept now entry (entry.settled entry.abandonedAs .abandoned
          (localSettlement .upstreamUnknown) entry.deadline true) := .abandoned active due
      rw [abandonedAs, if_neg reserved] at sweeps
      rw [if_neg reserved]
      exact sweeps

/-- An entry with nothing due at an instant. -/
structure Current (now : ℚ) (entry : ReceiptEntry) : Prop where
  inTime : entry.state = .finalized ∨ now < entry.deadline
  retained : entry.retained now = true

theorem inTime_sweep (now : ℚ) (entry : ReceiptEntry) :
    (entry.sweep now).state = .finalized ∨ now < (entry.sweep now).deadline := by
  have swept := swept_sweep now entry
  generalize entry.sweep now = after at swept ⊢
  cases swept with
  | kept current => exact current
  | abandoned active due => exact .inl rfl

theorem Current.sweep {now : ℚ} (current : entry.Current now) : entry.sweep now = entry := by
  rw [ReceiptEntry.sweep, if_pos current.inTime]

end ReceiptEntry

namespace ReceiptLedger

theorem get?_age : (ledger.age time).entries.get? receiptId =
    ((ledger.entries.get? receiptId).map (ReceiptEntry.sweep time)).filter
      (ReceiptEntry.retained time) := by
  rw [age, pruneRetention, sweepAbandoned, Dict.get?_filterValues, Dict.get?_mapValues]

/-- What is left after a reading was swept before it. -/
theorem of_get?_age (found : (ledger.age time).entries.get? receiptId = some entry) :
    ∃ older, ledger.entries.get? receiptId = some older ∧ entry = older.sweep time ∧
      entry.retained time = true := by
  rw [get?_age, Option.filter_eq_some_iff, Option.map_eq_some_iff] at found
  obtain ⟨⟨older, stored, rfl⟩, retained⟩ := found
  exact ⟨older, stored, rfl, retained⟩

/-- Nothing is due at an instant. -/
def Current (now : ℚ) (ledger : ReceiptLedger) : Prop :=
  ∀ receiptId entry, ledger.entries.get? receiptId = some entry → entry.Current now

theorem current_age : (ledger.age time).Current time := by
  intro receiptId entry found
  obtain ⟨older, -, rfl, retained⟩ := of_get?_age found
  exact ⟨older.inTime_sweep time, retained⟩

/-- Sweeping and pruning where nothing is due changes nothing. -/
theorem Current.refresh (current : ledger.Current time) :
    (ledger.sweepAbandoned time).pruneRetention time = ledger := by
  have swept : ledger.sweepAbandoned time = ledger := by
    rw [sweepAbandoned, Dict.mapValues_eq_self fun receiptId entry found =>
      (current receiptId entry found).sweep]
  have dropped : (ledger.entries.values.filter fun entry => !entry.retained time) = [] := by
    refine List.filter_eq_nil_iff.mpr fun entry member => ?_
    obtain ⟨receiptId, found⟩ := Dict.mem_values_iff.mp member
    rw [(current receiptId entry found).retained]
    decide
  rw [swept, pruneRetention, dropped, Dict.filterValues_eq_self fun receiptId entry found =>
    (current receiptId entry found).retained, List.map_nil, List.sum_nil, sub_zero]

/-- Nothing is due at the last reading. -/
def Rested (ledger : ReceiptLedger) : Prop := ledger.Current (ledger.lastNow.getD 0)

theorem rested_age : (ledger.age time).Rested := current_age

end ReceiptLedger

/-! ## Steps -/

/-- Why a ledger that is not held does not accept a reading. -/
inductive LedgerFault (ledger : ReceiptLedger) (reading : Option ℚ) : LedgerHeldCode → Prop where
  | invalid (bad : ∀ time, reading = some time → time < 0) :
      LedgerFault ledger reading .clockInvalid
  | regressed {time last : ℚ} (read : reading = some time) (known : ledger.lastNow = some last)
      (earlier : time < last) : LedgerFault ledger reading .clockRegressed

/-- A reading that is accepted. -/
structure LedgerAccepts (ledger : ReceiptLedger) (reading : Option ℚ) (time : ℚ) : Prop where
  free : ledger.heldCode = none
  read : reading = some time
  nonneg : 0 ≤ time
  later : ∀ last, ledger.lastNow = some last → last ≤ time

/-- A call that only looks, and what it sees. -/
inductive LedgerObserves (ledger : ReceiptLedger) :
    LedgerCall → Except ReceiptErrorCode LedgerAnswer → Prop where
  | contains (receipt : ReceiptHandle) :
      LedgerObserves ledger (.contains (some receipt)) (.ok (.contained (ledger.holds receipt)))
  | snapshot : LedgerObserves ledger .snapshot (.ok (.snapshot ledger.view))

/-- How a call ends that changes nothing. -/
def LedgerQuiet (ledger : ReceiptLedger) (call : LedgerCall)
    (result : Except ReceiptErrorCode LedgerAnswer) : Prop :=
  (∃ code, result = .error code) ∨ LedgerObserves ledger call result

/-- The entry that a call of `reserve` makes. -/
structure LedgerReserves (time : ℚ) (ledger : ReceiptLedger) (call : LedgerCall)
    (entry : ReceiptEntry) : Prop where
  call : call = .reserve entry.leaseId entry.attemptId (some entry.service) entry.routeId
    entry.requestDigest (some entry.requestBytes) (some entry.deadline) entry.operationId
    entry.receiptId
  initial : entry.state = .reserved ∧ entry.record = none ∧ entry.deliveryOutcome = none ∧
    entry.deliveryBytesSent = none ∧ entry.claimed = false ∧ entry.swept = false
  serial : entry.serial = ledger.issued
  started : entry.startedMonotonic = time
  inTime : time < entry.deadline
  soon : ((Binary64.round (time + maxHandlerSeconds)).all fun latest =>
    entry.deadline ≤ latest) = true
  room : ledger.entries.size < maxReceipts
  small : entry.charge ≤ maxReceiptBytes
  charged : ledger.chargedBytes + entry.charge ≤ maxLedgerBytes

/-- What a call does once its reading is accepted. -/
inductive LedgerAction (time : ℚ) (ledger : ReceiptLedger) :
    LedgerCall → Except ReceiptErrorCode LedgerAnswer → ReceiptLedger → Prop where
  | quiet {call : LedgerCall} {result : Except ReceiptErrorCode LedgerAnswer}
      (quiet : LedgerQuiet ledger call result) : LedgerAction time ledger call result ledger
  | reserved {call : LedgerCall} {entry : ReceiptEntry}
      (reserves : LedgerReserves time ledger call entry) :
      LedgerAction time ledger call (.ok (.handle entry.handle)) (ledger.addEntry entry)
  | connected {reservation : ReceiptHandle} {entry : ReceiptEntry}
      (found : ledger.lookup reservation = some entry) (source : entry.state = .reserved) :
      LedgerAction time ledger (.beginConnect reservation) (.ok .nothing)
        (ledger.setEntry { entry with state := .connecting })
  | dispatched {reservation : ReceiptHandle} {entry : ReceiptEntry}
      (found : ledger.lookup reservation = some entry) (source : entry.state = .connecting) :
      LedgerAction time ledger (.beginDispatch reservation) (.ok .nothing)
        (ledger.setEntry { entry with state := .dispatched })
  | finalized {reservation : ReceiptHandle} {dispatchState : ForwarderState}
      {reason : ForwarderReason} {argument : UpstreamArgument} {entry : ReceiptEntry}
      {response : Option ParsedResponse} {settlement : Settlement} {record : ForwarderReceipt}
      (found : ledger.lookup reservation = some entry)
      (legal : dispatchState ∈ legalFinalizeStates entry.state)
      (given : ∀ upstream, response = some upstream → argument = .response upstream)
      (settles : settle dispatchState reason response = some settlement)
      (recorded : (entry.settled dispatchState reason settlement time false).record = some record) :
      LedgerAction time ledger (.finalize reservation (some dispatchState) (some reason) argument)
        (.ok (.receipt record))
        (ledger.setEntry (entry.settled dispatchState reason settlement time false))
  | claimed {receipt : ReceiptHandle} {digest : String} {entry : ReceiptEntry}
      {record : ForwarderReceipt} (found : ledger.lookup receipt = some entry)
      (recorded : entry.record = some record) (same : digest = record.clientResponseDigest)
      (pending : entry.deliveryOutcome = some .pending) :
      LedgerAction time ledger (.claimDelivery receipt digest) (.ok (.handle entry.handle))
        (ledger.setEntry { entry with claimed := true, deliveryOutcome := some .sending })
  | completed {claim : ReceiptHandle} {outcome : DeliveryOutcome} {bytesSent : Nat}
      {entry : ReceiptEntry} {record : ForwarderReceipt}
      (found : ledger.lookup claim = some entry) (claimed : entry.claimed = true)
      (recorded : entry.record = some record) (sending : entry.deliveryOutcome = some .sending)
      (final : outcome ∈ [DeliveryOutcome.sent, .notSent, .sendUnknown])
      (bounded : bytesSent ≤ record.clientResponseBytes)
      (whole : outcome = .sent → bytesSent = record.clientResponseBytes)
      (nothing : outcome = .notSent → bytesSent = 0) :
      LedgerAction time ledger (.completeDelivery claim (some outcome) (some bytesSent))
        (.ok .nothing)
        (ledger.setEntry
          { entry with deliveryOutcome := some outcome, deliveryBytesSent := some bytesSent })

/-- Everything a call can do. -/
inductive ReceiptStep (ledger : ReceiptLedger) : LedgerTurn → ReceiptLedger → Prop where
  | unread : ReceiptStep ledger ⟨.contains none, none, .ok (.contained false)⟩ ledger
  | held {call : LedgerCall} {result : Except ReceiptErrorCode LedgerAnswer}
      (held : ledger.heldCode.isSome = true) (reads : call.reads = true)
      (quiet : LedgerQuiet ledger call result) : ReceiptStep ledger ⟨call, none, result⟩ ledger
  | faulted {call : LedgerCall} {reading : Option ℚ} {code : LedgerHeldCode}
      {result : Except ReceiptErrorCode LedgerAnswer} (free : ledger.heldCode = none)
      (reads : call.reads = true) (fault : LedgerFault ledger reading code)
      (quiet : LedgerQuiet (ledger.hold code) call result) :
      ReceiptStep ledger ⟨call, reading, result⟩ (ledger.hold code)
  | accepted {call : LedgerCall} {reading : Option ℚ} {time : ℚ} {next : ReceiptLedger}
      {result : Except ReceiptErrorCode LedgerAnswer} (accepts : LedgerAccepts ledger reading time)
      (reads : call.reads = true) (acts : LedgerAction time (ledger.age time) call result next) :
      ReceiptStep ledger ⟨call, reading, result⟩ next

namespace ReceiptLedger

theorem now_ensures {returns : ℚ → ReceiptLedger → Prop}
    {raises : ReceiptErrorCode → ReceiptLedger → Prop}
    (held : ledger.heldCode.isSome = true → raises .ledgerHeld ledger)
    (faulted : ∀ code error, ledger.heldCode = none → LedgerFault ledger reading code →
      raises error (ledger.hold code))
    (accepted : ∀ time, LedgerAccepts ledger reading time → returns time (ledger.age time)) :
    Ensures (now reading) ledger returns raises := by
  simp only [now, ensures_bind, ensures_get, ensures_refuse]
  refine ⟨held, fun isFree => ?_⟩
  have free : ledger.heldCode = none := by simpa using isFree
  cases read : reading.filter fun time => 0 ≤ time with
  | none =>
      simp only [ensures_bind, ensures_set, ensures_throw]
      refine faulted _ _ free (.invalid fun time isReading => ?_)
      rw [isReading] at read
      simpa [Option.filter] using read
  | some time =>
      rw [Option.filter_eq_some_iff, decide_eq_true_iff] at read
      simp only [ensures_ite, ensures_bind, ensures_set, ensures_throw, ensures_pure]
      constructor
      · intro early
        obtain ⟨last, known, earlier⟩ := (Option.any_eq_true _ _).mp early
        exact faulted _ _ free (.regressed read.1 known (of_decide_eq_true earlier))
      · intro forward
        refine accepted time ⟨free, read.1, read.2, fun last known => ?_⟩
        simpa [known] using forward

/-- How a call may end. -/
abbrev Ends (ledger : ReceiptLedger) (call : LedgerCall) (reading : Option ℚ)
    (result : Except ReceiptErrorCode LedgerAnswer) (next : ReceiptLedger) : Prop :=
  ReceiptStep ledger ⟨call, reading, result⟩ next

/-- The rest of a method runs in the ledger that an accepted reading leaves. -/
theorem now_bind_ensures {α : Type} {rest : ℚ → Method α} {returns : α → ReceiptLedger → Prop}
    (unread : ledger.heldCode.isSome = true → reading = none) (reads : call.reads = true)
    (after : ∀ time, LedgerAccepts ledger reading time →
      Ensures (rest time) (ledger.age time) returns fun error =>
        Ends ledger call reading (.error error)) :
    Ensures (now reading >>= rest) ledger returns fun error =>
      Ends ledger call reading (.error error) := by
  rw [ensures_bind]
  refine now_ensures (fun held => ?_) (fun code error free fault => ?_) after
  · obtain rfl := unread held
    exact .held held reads (.inl ⟨_, rfl⟩)
  · exact .faulted free reads fault (.inl ⟨_, rfl⟩)

/-- A call that raises after its reading was accepted changes nothing more. -/
theorem raised (accepts : LedgerAccepts ledger reading time) (reads : call.reads = true)
    (error : ReceiptErrorCode) : Ends ledger call reading (.error error) (ledger.age time) :=
  .accepted accepts reads (.quiet (.inl ⟨error, rfl⟩))

theorem reserve_ends (unread : ledger.heldCode.isSome = true → reading = none)
    {leaseId attemptId routeId requestDigest : String} {service : Option Service}
    {requestBytes : Option Int} {deadline : Option ℚ} {operationId : Option String} :
    Ensures (reserve timeText leaseId attemptId service routeId requestDigest requestBytes deadline
        operationId receiptId reading) ledger
      (fun handle => Ends ledger (.reserve leaseId attemptId service routeId requestDigest
        requestBytes deadline operationId receiptId) reading (.ok (.handle handle)))
      fun error => Ends ledger (.reserve leaseId attemptId service routeId requestDigest
        requestBytes deadline operationId receiptId) reading (.error error) := by
  generalize isCall : LedgerCall.reserve leaseId attemptId service routeId requestDigest
    requestBytes deadline operationId receiptId = call
  have reads : call.reads = true := by rw [← isCall]; rfl
  refine now_bind_ensures unread reads fun time accepts => ?_
  have refused : ∀ error, Ends ledger call reading (.error error) (ledger.age time) :=
    raised accepts reads
  simp only [ensures_bind, ensures_refuse, ensures_orRaise, ensures_get, ensures_set, ensures_pure]
  refine ⟨fun _ => refused _, fun _ => ⟨fun _ => refused _, fun _ => ⟨fun _ => refused _,
    fun known isService => ⟨fun _ => refused _, fun _ => ⟨fun _ => refused _, fun _ =>
    ⟨fun _ => refused _, fun bytes isBytes => ⟨fun _ => refused _, fun inRange =>
    ⟨fun _ => refused _, fun limit isLimit => ⟨fun _ => refused _, fun inTime =>
    ⟨fun _ => refused _, fun _ => ⟨fun _ => refused _, fun room => ⟨fun _ => refused _,
    fun small => ⟨fun _ => refused _, fun charged => ?_⟩⟩⟩⟩⟩⟩⟩⟩⟩⟩⟩⟩⟩
  rw [not_not] at inRange inTime
  refine .accepted accepts reads (.reserved ?_)
  refine
    { call := ?_
      initial := ⟨rfl, rfl, rfl, rfl, rfl, rfl⟩
      serial := rfl
      started := rfl
      inTime := inTime.1
      soon := inTime.2
      room := not_le.mp room
      small := not_lt.mp small
      charged := not_lt.mp charged }
  subst isService isBytes isLimit
  rw [← isCall]
  simp only [Int.toNat_of_nonneg inRange.1]

theorem lookup_ensures {handle : ReceiptHandle} {returns : ReceiptEntry → ReceiptLedger → Prop}
    {raises : ReceiptErrorCode → ReceiptLedger → Prop} (refused : ∀ error, raises error ledger)
    (returned : ∀ entry, ledger.lookup handle = some entry → returns entry ledger) :
    Ensures (lookupReservation handle) ledger returns raises := by
  simp only [lookupReservation, ensures_bind, ensures_get, ensures_orRaise]
  exact ⟨fun _ => refused _, returned⟩

theorem requireActive_ensures {returns : Unit → ReceiptLedger → Prop}
    {raises : ReceiptErrorCode → ReceiptLedger → Prop} (refused : ∀ error, raises error ledger)
    (returned : returns () ledger) : Ensures (requireActive entry) ledger returns raises := by
  simp only [requireActive, ensures_bind, ensures_refuse]
  exact ⟨fun _ => refused _, fun _ => ⟨fun _ => refused _, fun _ => returned⟩⟩

theorem advance_ends {source target : EntryState} {reservation : ReceiptHandle}
    (unread : ledger.heldCode.isSome = true → reading = none) (reads : call.reads = true)
    (moves : ∀ time entry, (ledger.age time).lookup reservation = some entry →
      entry.state = source → LedgerAction time (ledger.age time) call (.ok .nothing)
        ((ledger.age time).setEntry { entry with state := target })) :
    Ensures (advance source target reservation reading) ledger
      (fun _ => Ends ledger call reading (.ok .nothing))
      fun error => Ends ledger call reading (.error error) := by
  refine now_bind_ensures unread reads fun time accepts => ?_
  have refused : ∀ error, Ends ledger call reading (.error error) (ledger.age time) :=
    raised accepts reads
  rw [ensures_bind]
  refine lookup_ensures refused fun entry found => ?_
  rw [ensures_bind]
  refine requireActive_ensures refused ?_
  simp only [ensures_bind, ensures_refuse, ensures_modify]
  exact ⟨fun _ => refused _, fun same => .accepted accepts reads
    (moves time entry found (not_not.mp same))⟩

theorem requireUpstream_ensures {dispatchState : ForwarderState} {argument : UpstreamArgument}
    {returns : Option ParsedResponse → ReceiptLedger → Prop}
    {raises : ReceiptErrorCode → ReceiptLedger → Prop} (refused : ∀ error, raises error ledger)
    (returned : ∀ response, (∀ upstream, response = some upstream →
      argument = .response upstream) → returns response ledger) :
    Ensures (requireUpstream dispatchState argument) ledger returns raises := by
  cases argument with
  | absent =>
      simp only [requireUpstream, ensures_bind, ensures_refuse, ensures_pure]
      exact ⟨fun _ => refused _, fun _ => returned none (by simp)⟩
  | response response =>
      simp only [requireUpstream, ensures_bind, ensures_refuse, ensures_pure]
      exact ⟨fun _ => refused _, fun _ => returned (some response) (by simp)⟩
  | other =>
      rw [requireUpstream, ensures_throw]
      exact refused _

theorem finalize_ends {reservation : ReceiptHandle} {dispatchState : Option ForwarderState}
    {reason : Option ForwarderReason} {argument : UpstreamArgument}
    (unread : ledger.heldCode.isSome = true → reading = none) :
    Ensures (finalize reservation dispatchState reason argument reading) ledger
      (fun receipt => Ends ledger (.finalize reservation dispatchState reason argument) reading
        (.ok (.receipt receipt)))
      fun error => Ends ledger (.finalize reservation dispatchState reason argument) reading
        (.error error) := by
  refine now_bind_ensures unread rfl fun time accepts => ?_
  have refused : ∀ error, Ends ledger (.finalize reservation dispatchState reason argument) reading
      (.error error) (ledger.age time) := raised accepts rfl
  rw [ensures_bind]
  refine lookup_ensures refused fun entry found => ?_
  rw [ensures_bind]
  refine requireActive_ensures refused ?_
  simp only [ensures_bind, ensures_refuse, ensures_orRaise]
  refine ⟨fun _ => refused _, fun state isState => ⟨fun _ => refused _, fun legal =>
    ⟨fun _ => refused _, fun because isReason => ⟨fun _ => refused _, fun _ => ?_⟩⟩⟩⟩
  refine requireUpstream_ensures refused fun response given => ?_
  refine ⟨fun _ => refused _, fun finalized settles => ?_⟩
  obtain ⟨settlement, isSettlement, rfl⟩ := ReceiptEntry.doFinalize_eq_some.mp settles
  simp only [ensures_modify]
  refine ⟨fun missing => (by cases missing), fun record recorded => ?_⟩
  subst isState isReason
  exact .accepted accepts rfl
    (.finalized found (not_not.mp legal) given isSettlement recorded)

theorem claimDelivery_ends {receipt : ReceiptHandle} {digest : String}
    (unread : ledger.heldCode.isSome = true → reading = none) :
    Ensures (claimDelivery receipt digest reading) ledger
      (fun claim => Ends ledger (.claimDelivery receipt digest) reading (.ok (.handle claim)))
      fun error => Ends ledger (.claimDelivery receipt digest) reading (.error error) := by
  refine now_bind_ensures unread rfl fun time accepts => ?_
  have refused : ∀ error, Ends ledger (.claimDelivery receipt digest) reading
      (.error error) (ledger.age time) := raised accepts rfl
  simp only [lookupReceipt, ensures_bind, ensures_get, ensures_orRaise, ensures_refuse,
    ensures_modify, ensures_pure]
  refine ⟨fun _ => refused _, fun entry found => ⟨fun _ => refused _, fun record recorded =>
    ⟨fun _ => refused _, fun same => ⟨fun _ => refused _, fun pending => ?_⟩⟩⟩⟩
  rw [not_or, not_not] at same
  exact .accepted accepts rfl (.claimed found recorded same.2 (not_not.mp pending))

theorem completeDelivery_ends {claim : ReceiptHandle} {outcome : Option DeliveryOutcome}
    {bytesSent : Option Int} (unread : ledger.heldCode.isSome = true → reading = none) :
    Ensures (completeDelivery claim outcome bytesSent reading) ledger
      (fun _ => Ends ledger (.completeDelivery claim outcome bytesSent) reading (.ok .nothing))
      fun error => Ends ledger (.completeDelivery claim outcome bytesSent) reading
        (.error error) := by
  refine now_bind_ensures unread rfl fun time accepts => ?_
  have refused : ∀ error, Ends ledger (.completeDelivery claim outcome bytesSent) reading
      (.error error) (ledger.age time) := raised accepts rfl
  simp only [ensures_bind, ensures_get, ensures_orRaise, ensures_refuse, ensures_modify]
  refine ⟨fun _ => refused _, fun entry found => ⟨fun _ => refused _, fun claimed =>
    ⟨fun _ => refused _, fun record recorded => ⟨fun _ => refused _, fun sending =>
    ⟨fun _ => refused _, fun ended isOutcome => ⟨fun _ => refused _, fun final =>
    ⟨fun _ => refused _, fun count isCount => ⟨fun _ => refused _, fun inRange =>
    ⟨fun _ => refused _, fun whole => ⟨fun _ => refused _, fun nothing => ?_⟩⟩⟩⟩⟩⟩⟩⟩⟩⟩
  rw [not_not] at inRange sending final
  obtain ⟨bytes, rfl⟩ := Int.eq_ofNat_of_zero_le inRange.1
  subst isOutcome isCount
  refine .accepted accepts rfl (.completed found (by simpa using claimed) recorded sending final
    (by exact_mod_cast inRange.2) (fun isSent => ?_) fun isNotSent => ?_)
  · by_contra differs
    exact whole ⟨isSent, by exact_mod_cast differs⟩
  · by_contra differs
    exact nothing ⟨isNotSent, by exact_mod_cast differs⟩

/-- The calls that only look leave a fresh ledger, which is the one they met or one
that is now held. -/
theorem freshen_bind_ensures {α : Type} {rest : Unit → Method α}
    {returns : α → ReceiptLedger → Prop} {raises : ReceiptErrorCode → ReceiptLedger → Prop}
    (rested : ledger.Rested)
    (held : ledger.heldCode.isSome = true → Ensures (rest ()) ledger returns raises)
    (faulted : ∀ code, ledger.heldCode = none → LedgerFault ledger reading code →
      Ensures (rest ()) (ledger.hold code) returns raises)
    (accepted : ∀ time, LedgerAccepts ledger reading time →
      Ensures (rest ()) (ledger.age time) returns raises) :
    Ensures (freshen reading >>= rest) ledger returns raises := by
  simp only [freshen, ensures_bind, ensures_tryCatch, ensures_get, ensures_modify, ensures_pure]
  refine now_ensures (fun isHeld => ?_) (fun code _ free fault => ?_) fun time accepts => ?_
  · rw [rested.refresh]
    exact held isHeld
  · have restedHeld : (ledger.hold code).Current ((ledger.hold code).lastNow.getD 0) := rested
    rw [restedHeld.refresh]
    exact faulted code free fault
  · rw [current_age.refresh]
    exact accepted time accepts

theorem observe_ends {α : Type} {rest : Unit → Method α} {write : α → LedgerAnswer}
    {see : ReceiptLedger → α} (rested : ledger.Rested)
    (unread : ledger.heldCode.isSome = true → reading = none) (reads : call.reads = true)
    (looks : ∀ ledger {returns : α → ReceiptLedger → Prop} {raises},
      Ensures (rest ()) ledger returns raises ↔ returns (see ledger) ledger)
    (sees : ∀ ledger, LedgerObserves ledger call (.ok (write (see ledger)))) :
    Ensures (freshen reading >>= rest) ledger
      (fun answer => Ends ledger call reading (.ok (write answer)))
      fun error => Ends ledger call reading (.error error) := by
  refine freshen_bind_ensures rested (fun held => ?_) (fun code free fault => ?_)
    fun time accepts => ?_
  · obtain rfl := unread held
    exact (looks _).mpr (.held held reads (.inr (sees _)))
  · exact (looks _).mpr (.faulted free reads fault (.inr (sees _)))
  · exact (looks _).mpr (.accepted accepts reads (.quiet (.inr (sees _))))

/-- Every call makes a step. -/
theorem perform_ends (rested : ledger.Rested) (call : LedgerCall) (reading : Option ℚ)
    (unread : ledger.heldCode.isSome = true ∨ call.reads = false → reading = none) :
    Ensures (call.perform timeText reading) ledger
      (fun answer => Ends ledger call reading (.ok answer))
      fun error => Ends ledger call reading (.error error) := by
  have skipped : ledger.heldCode.isSome = true → reading = none := fun held => unread (.inl held)
  cases call with
  | reserve leaseId attemptId service routeId requestDigest requestBytes deadline operationId
      receiptId =>
      simpa only [LedgerCall.perform, ensures_map] using reserve_ends skipped
  | beginConnect reservation =>
      simpa only [LedgerCall.perform, ensures_map, beginConnect] using
        advance_ends skipped rfl fun _ _ found source => .connected found source
  | beginDispatch reservation =>
      simpa only [LedgerCall.perform, ensures_map, beginDispatch] using
        advance_ends skipped rfl fun _ _ found source => .dispatched found source
  | finalize reservation dispatchState reason upstreamResponse =>
      simpa only [LedgerCall.perform, ensures_map] using finalize_ends skipped
  | claimDelivery receipt digest =>
      simpa only [LedgerCall.perform, ensures_map] using claimDelivery_ends skipped
  | completeDelivery claim outcome bytesSent =>
      simpa only [LedgerCall.perform, ensures_map] using completeDelivery_ends skipped
  | contains receipt =>
      simp only [LedgerCall.perform, ensures_map, contains]
      cases receipt with
      | none =>
          obtain rfl := unread (.inr rfl)
          exact .unread
      | some receipt =>
          exact observe_ends rested skipped rfl (fun _ _ _ => Iff.rfl)
            fun ledger => .contains receipt
  | snapshot =>
      simp only [LedgerCall.perform, ensures_map, snapshot]
      exact observe_ends rested skipped rfl (fun _ _ _ => Iff.rfl) fun ledger => .snapshot

theorem takes_step (rested : ledger.Rested) {turn : LedgerTurn}
    (takes : LedgerTakes timeText ledger turn next) : ReceiptStep ledger turn next :=
  (perform_ends rested turn.call turn.reading takes.unread).of_outcome takes.ended

end ReceiptLedger

end ManyAlerts
