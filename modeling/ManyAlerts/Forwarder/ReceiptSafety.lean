import ManyAlerts.Forwarder.ReceiptOrder

/-!
# The receipt ledger over whole runs

A call that succeeds on a receipt is a deed, and the deeds of a run say how far each
entry has come: `Booked` is what the ledger's own bookkeeping keeps, `DeedsLogged` ties
every entry to the deeds done so far.  Both are kept by every step, and the
guarantees of the ledger are read off them.
-/

namespace ManyAlerts

variable {timeText : ℚ → Bytes} {ledger next : ReceiptLedger} {entry older : ReceiptEntry}
  {time : ℚ} {receiptId : String} {turn : LedgerTurn} {turns : List LedgerTurn}
  {call : LedgerCall} {result : Except ReceiptErrorCode LedgerAnswer}

/-! ## The ledger's own bookkeeping -/

namespace ReceiptLedger

/-- What the ledger keeps of itself. -/
structure Booked (ledger : ReceiptLedger) : Prop extends ledger.Orderly where
  total : ledger.chargedBytes = ledger.entries.total fun entry => entry.charge
  bounded : ledger.chargedBytes ≤ maxLedgerBytes
  few : ledger.entries.size ≤ maxReceipts
  nonneg : ∀ last, ledger.lastNow = some last → 0 ≤ last

theorem Booked.start (generation : String) : Booked (start generation) where
  toOrderly := .start generation
  total := rfl
  bounded := Int.natCast_nonneg _
  few := Nat.zero_le _
  nonneg _ known := by cases known

theorem Booked.hold (booked : ledger.Booked) (code : LedgerHeldCode) :
    (ledger.hold code).Booked :=
  ⟨booked.toOrderly.hold code, booked.total, booked.bounded, booked.few, booked.nonneg⟩

/-- The charges of the entries that a reading drops leave the counter. -/
theorem total_age (ledger : ReceiptLedger) (time : ℚ) :
    ((ledger.age time).entries.total fun entry => (entry.charge : Int)) +
    (ledger.chargedBytes - (ledger.age time).chargedBytes) =
      ledger.entries.total fun entry => (entry.charge : Int) := by
  have kept := Dict.total_filterValues (ledger.entries.mapValues (ReceiptEntry.sweep time))
    (ReceiptEntry.retained time) fun entry => (entry.charge : Int)
  have charges : ∀ entry : ReceiptEntry, ((entry.sweep time).charge : Int) = entry.charge :=
    fun entry => congrArg (fun origin => (origin.charge : Int)) (entry.origin_sweep time)
  rw [Dict.total_mapValues charges] at kept
  exact (congrArg _ (sub_sub_cancel _ _)).trans kept

theorem chargedBytes_age_le : (ledger.age time).chargedBytes ≤ ledger.chargedBytes := by
  refine sub_le_self _ (List.sum_nonneg ?_)
  intro charge member
  obtain ⟨entry, -, rfl⟩ := List.mem_map.mp member
  exact Int.natCast_nonneg _

theorem Booked.age (booked : ledger.Booked) (nonneg : 0 ≤ time) : (ledger.age time).Booked where
  toOrderly := booked.toOrderly.age time
  total := by
    have kept := total_age ledger time
    have before := booked.total
    omega
  bounded := chargedBytes_age_le.trans booked.bounded
  few := by
    refine le_trans ?_ booked.few
    refine (List.length_filter_le _ _).trans ?_
    rw [sweepAbandoned, Dict.mapValues, List.length_map]
    exact le_rfl
  nonneg last known := by
    obtain rfl : time = last := Option.some.inj known
    exact nonneg

/-- An entry is written over with one that follows it. -/
theorem Booked.changed (booked : ledger.Booked) (orderly : (ledger.setEntry entry).Orderly)
    (stored : ledger.entries.get? older.receiptId = some older)
    (follows : ReceiptEntry.Follows older entry) : (ledger.setEntry entry).Booked := by
  rw [← follows.sameReceipt] at stored
  refine ⟨orderly, ?_, booked.bounded, ?_, booked.nonneg⟩
  · have charges : (entry.charge : Int) = older.charge := congrArg Nat.cast follows.sameCharge
    exact booked.total.trans (Dict.total_set stored charges).symm
  · have size : (ledger.setEntry entry).entries.size = _ :=
      Dict.size_set_of_contains entry (Dict.contains_iff.mpr ⟨older, stored⟩)
    exact size.le.trans booked.few

theorem Booked.change (booked : ledger.Booked) (known : ledger.lastNow = some time)
    (change : Change time ledger call result next)
    (fresh : ∀ entry, LedgerReserves time ledger call entry → result = .ok (.handle entry.handle) →
      ledger.entries.contains entry.receiptId = false) : next.Booked := by
  have current : ledger.Current time := by
    have rested := booked.rested
    rwa [Rested, known] at rested
  have orderly := booked.toOrderly.change current known change
  cases change with
  | nothing => exact booked
  | @added entry reserves answered =>
      have absent := fresh entry reserves answered
      refine ⟨orderly, ?_, reserves.charged, ?_, booked.nonneg⟩
      · have added : (ledger.setEntry entry).entries.total
          (fun entry => (entry.charge : Int)) = _ :=
          Dict.total_set_of_not_contains entry _ absent
        exact (congrArg (· + (entry.charge : Int)) booked.total).trans added.symm
      · have grown : (ledger.setEntry entry).entries.size = _ :=
          Dict.size_set_of_not_contains entry absent
        exact grown.le.trans reserves.room
  | advanced stored active follows => exact booked.changed orderly stored follows
  | delivered stored step follows => exact booked.changed orderly stored follows

end ReceiptLedger

/-! ## Deeds -/

inductive LedgerDeed where
  | reserve
  | connect
  | dispatch
  | finalize
  | claim
  | complete
deriving DecidableEq

/-- What a call that succeeded did, and to which receipt. -/
def LedgerTurn.deed (turn : LedgerTurn) : Option (LedgerDeed × String) :=
  match turn.call, turn.result with
  | .reserve _ _ _ _ _ _ _ _ receiptId, .ok _ => some (.reserve, receiptId)
  | .beginConnect reservation, .ok _ => some (.connect, reservation.receiptId)
  | .beginDispatch reservation, .ok _ => some (.dispatch, reservation.receiptId)
  | .finalize reservation _ _ _, .ok _ => some (.finalize, reservation.receiptId)
  | .claimDelivery receipt _, .ok _ => some (.claim, receipt.receiptId)
  | .completeDelivery claim _ _, .ok _ => some (.complete, claim.receiptId)
  | _, _ => none

/-- The deeds of some turns, in order. -/
def deeds (turns : List LedgerTurn) : List (LedgerDeed × String) :=
  turns.filterMap LedgerTurn.deed

@[simp] theorem deeds_append (left right : List LedgerTurn) :
    deeds (left ++ right) = deeds left ++ deeds right :=
  List.filterMap_append

theorem deeds_singleton (turn : LedgerTurn) : deeds [turn] = turn.deed.toList := by
  cases found : turn.deed <;> simp [deeds, found]

/-- The identifiers under which something was reserved. -/
def drawnReceipts (turns : List LedgerTurn) : List String :=
  (deeds turns).filterMap fun deed => if deed.1 = .reserve then some deed.2 else none

theorem mem_drawnReceipts : receiptId ∈ drawnReceipts turns ↔
    (.reserve, receiptId) ∈ deeds turns := by
  simp only [drawnReceipts, List.mem_filterMap, Option.ite_none_right_eq_some, Option.some.injEq]
  constructor
  · rintro ⟨⟨deed, named⟩, done, rfl, rfl⟩
    exact done
  · intro done
    exact ⟨_, done, rfl, rfl⟩

theorem drawnReceipts_append (left right : List LedgerTurn) :
    drawnReceipts (left ++ right) = drawnReceipts left ++ drawnReceipts right := by
  rw [drawnReceipts, deeds_append, List.filterMap_append]
  rfl

theorem LedgerQuiet.deed {reading : Option ℚ} (quiet : LedgerQuiet ledger call result) :
    LedgerTurn.deed ⟨call, reading, result⟩ = none := by
  rcases quiet with ⟨code, rfl⟩ | observes
  · cases call <;> rfl
  · cases observes <;> rfl

/-- How far the deeds have brought an entry. -/
structure Traced (done : List (LedgerDeed × String)) (entry : ReceiptEntry) : Prop where
  reserved : (.reserve, entry.receiptId) ∈ done
  unconnected : (.connect, entry.receiptId) ∉ done → entry.state = .reserved ∨
    ∃ record, entry.record = some record ∧ record.dispatchState = .notDispatched
  dispatched : (.dispatch, entry.receiptId) ∈ done → entry.state = .dispatched ∨
    ∃ record, entry.record = some record ∧
      record.dispatchState ∈ legalFinalizeStates .dispatched
  unclaimed : entry.deliveryOutcome = none ∨ entry.deliveryOutcome = some .pending →
    (.claim, entry.receiptId) ∉ done
  uncompleted : (∀ outcome ∈ [DeliveryOutcome.sent, .notSent, .sendUnknown],
    entry.deliveryOutcome ≠ some outcome) → (.complete, entry.receiptId) ∉ done

namespace Traced

variable {done : List (LedgerDeed × String)} {deed : LedgerDeed × String}

/-- A deed on another receipt. -/
theorem other (traced : Traced done entry) (apart : deed.2 ≠ entry.receiptId) :
    Traced (done ++ [deed]) entry := by
  have same : ∀ kind, (kind, entry.receiptId) ∈ done ++ [deed] ↔
    (kind, entry.receiptId) ∈ done := by
    intro kind
    rw [List.mem_append, List.mem_singleton, or_iff_left]
    rintro rfl
    exact apart rfl
  constructor <;> simp only [same]
  · exact traced.reserved
  · exact traced.unconnected
  · exact traced.dispatched
  · exact traced.unclaimed
  · exact traced.uncompleted

/-- The settlement of an entry in a state that is legal for it. -/
theorem settled (traced : Traced done entry) (formed : entry.Formed)
    {dispatchState : ForwarderState} {reason : ForwarderReason} {settlement : Settlement}
    {swept : Bool} (legal : dispatchState ∈ legalFinalizeStates entry.state) :
    Traced done (entry.settled dispatchState reason settlement time swept) := by
  have active : entry.state ≠ .finalized := by
    intro final
    rw [final] at legal
    cases legal
  obtain ⟨noRecord, noOutcome⟩ := formed.active active
  refine
    { reserved := traced.reserved
      unconnected := fun never => .inr ⟨_, rfl, ?_⟩
      dispatched := fun did => .inr ⟨_, rfl, ?_⟩
      unclaimed := fun _ => traced.unclaimed (.inl noOutcome)
      uncompleted := fun _ => traced.uncompleted (by simp [noOutcome]) }
  · rcases traced.unconnected never with state | ⟨record, recorded, -⟩
    · rw [state] at legal
      exact List.mem_singleton.mp legal
    · rw [noRecord] at recorded
      cases recorded
  · rcases traced.dispatched did with state | ⟨record, recorded, -⟩
    · rwa [state] at legal
    · rw [noRecord] at recorded
      cases recorded

theorem sweep (traced : Traced done entry) (formed : entry.Formed) (now : ℚ) :
    Traced done (entry.sweep now) := by
  have swept := entry.swept_sweep now
  generalize entry.sweep now = after at swept ⊢
  cases swept with
  | kept current => exact traced
  | abandoned active due =>
      -- entries are abandoned in a state that finalizing them would allow; a connecting
      -- one may be abandoned as unknown
      refine traced.settled formed ?_
      unfold ReceiptEntry.abandonedAs
      cases state : entry.state with
      | finalized => exact absurd state active
      | _ => simp [legalFinalizeStates]

theorem mem_snoc {kind other : LedgerDeed} :
    (other, receiptId) ∈ done ++ [(kind, receiptId)] ↔ (other, receiptId) ∈ done ∨
    other = kind := by
  rw [List.mem_append, List.mem_singleton, Prod.mk.injEq, and_iff_left rfl]

theorem connect (traced : Traced done entry) (formed : entry.Formed)
    (source : entry.state = .reserved) :
    Traced (done ++ [(.connect, entry.receiptId)]) { entry with state := .connecting } := by
  obtain ⟨noRecord, noOutcome⟩ := formed.active (by rw [source]; decide)
  constructor <;> simp only [mem_snoc, reduceCtorEq, or_false, or_true, not_true, false_imp_iff]
  · exact traced.reserved
  · intro did
    rcases traced.dispatched did with state | ⟨record, recorded, -⟩
    · rw [source] at state
      cases state
    · rw [noRecord] at recorded
      cases recorded
  · exact traced.unclaimed
  · exact traced.uncompleted

theorem dispatch (traced : Traced done entry) (formed : entry.Formed)
    (source : entry.state = .connecting) :
    Traced (done ++ [(.dispatch, entry.receiptId)]) { entry with state := .dispatched } := by
  obtain ⟨noRecord, noOutcome⟩ := formed.active (by rw [source]; decide)
  constructor <;> simp only [mem_snoc, reduceCtorEq, or_false, or_true, true_imp_iff, true_or]
  · exact traced.reserved
  · intro never
    rcases traced.unconnected never with state | ⟨record, recorded, -⟩
    · rw [source] at state
      cases state
    · rw [noRecord] at recorded
      cases recorded
  · exact traced.unclaimed
  · exact traced.uncompleted

theorem finalize (traced : Traced done entry) :
    Traced (done ++ [(.finalize, entry.receiptId)]) entry := by
  constructor <;> simp only [mem_snoc, reduceCtorEq, or_false]
  · exact traced.reserved
  · exact traced.unconnected
  · exact traced.dispatched
  · exact traced.unclaimed
  · exact traced.uncompleted

theorem claim (traced : Traced done entry) (pending : entry.deliveryOutcome = some .pending) :
    Traced (done ++ [(.claim, entry.receiptId)])
      { entry with claimed := true, deliveryOutcome := some .sending } := by
  constructor <;> simp only [mem_snoc, reduceCtorEq, or_false, Option.some.injEq, false_imp_iff,
    ne_eq]
  · exact traced.reserved
  · exact traced.unconnected
  · exact traced.dispatched
  · exact fun _ => traced.uncompleted (by simp [pending])

theorem complete (traced : Traced done entry) {outcome : DeliveryOutcome} {bytesSent : Nat}
    (final : outcome ∈ [DeliveryOutcome.sent, .notSent, .sendUnknown]) :
    Traced (done ++ [(.complete, entry.receiptId)])
      { entry with deliveryOutcome := some outcome, deliveryBytesSent := some bytesSent } := by
  constructor <;> simp only [mem_snoc, reduceCtorEq, or_false]
  · exact traced.reserved
  · exact traced.unconnected
  · exact traced.dispatched
  · intro waiting
    rcases waiting with none | pending
    · cases none
    · rw [Option.some.inj pending] at final
      exact absurd final (by decide)
  · exact fun open' => absurd rfl (open' outcome final)

end Traced

/-- What the turns made so far say about the ledger. -/
structure DeedsLogged (turns : List LedgerTurn) (ledger : ReceiptLedger) : Prop where
  entries : ∀ receiptId entry, ledger.entries.get? receiptId = some entry →
    Traced (deeds turns) entry
  closed : ∀ deed ∈ deeds turns, (.reserve, deed.2) ∈ deeds turns
  once : ∀ kind ∈ [LedgerDeed.claim, .complete], ∀ receiptId,
    (deeds turns).count (kind, receiptId) ≤ 1
  given : ∀ receiptId entry, ledger.entries.get? receiptId = some entry →
    entry.deliveryOutcome = some .sending → ∃ turn ∈ turns, ∃ receipt digest,
      turn.call = .claimDelivery receipt digest ∧ turn.result = .ok (.handle entry.handle)

namespace DeedsLogged

theorem start (generation : String) : DeedsLogged [] (.start generation) where
  entries _ _ found := by cases found
  closed _ member := by cases member
  once _ _ _ := Nat.zero_le _
  given _ _ found := by cases found

/-- A turn without a deed. -/
theorem idle (logged : DeedsLogged turns ledger) (quiet : turn.deed = none)
    (same : next.entries = ledger.entries) : DeedsLogged (turns ++ [turn]) next := by
  have unchanged : deeds (turns ++ [turn]) = deeds turns := by
    rw [deeds_append, deeds_singleton, quiet, Option.toList_none, List.append_nil]
  refine ⟨?_, ?_, ?_, ?_⟩
  · rw [unchanged, same]
    exact logged.entries
  · rw [unchanged]
    exact logged.closed
  · rw [unchanged]
    exact logged.once
  · intro receiptId entry found sending
    rw [same] at found
    obtain ⟨earlier, member, claims⟩ := logged.given receiptId entry found sending
    exact ⟨earlier, List.mem_append_left _ member, claims⟩

theorem age (logged : DeedsLogged turns ledger) (booked : ledger.Booked) :
    DeedsLogged turns (ledger.age time) where
  entries receiptId entry found := by
    obtain ⟨older, stored, rfl, -⟩ := ReceiptLedger.of_get?_age found
    exact (logged.entries _ _ stored).sweep (booked.formed _ _ stored) time
  closed := logged.closed
  once := logged.once
  given receiptId entry found sending := by
    obtain ⟨older, stored, rfl, -⟩ := ReceiptLedger.of_get?_age found
    have swept := older.swept_sweep time
    generalize older.sweep time = after at swept sending ⊢
    cases swept with
    | kept current => exact logged.given _ _ stored sending
    | abandoned active due => cases sending

/-- A deed on the entry that it writes. -/
theorem deed (logged : DeedsLogged turns ledger) (booked : ledger.Booked) {kind : LedgerDeed}
    (same : next.entries = (ledger.setEntry entry).entries)
    (does : turn.deed = some (kind, entry.receiptId))
    (traced : Traced (deeds turns ++ [(kind, entry.receiptId)]) entry)
    (first : kind ∈ [LedgerDeed.claim, .complete] → (kind, entry.receiptId) ∉ deeds turns)
    (claims : entry.deliveryOutcome = some .sending → ∃ earlier ∈ turns ++ [turn],
      ∃ receipt digest, earlier.call = .claimDelivery receipt digest ∧
        earlier.result = .ok (.handle entry.handle)) :
    DeedsLogged (turns ++ [turn]) next := by
  have done : deeds (turns ++ [turn]) = deeds turns ++ [(kind, entry.receiptId)] := by
    rw [deeds_append, deeds_singleton, does, Option.toList_some]
  constructor
  · rw [done, same]
    refine ReceiptLedger.forall_setEntry ?_ traced
    intro receiptId other apart found
    have own := booked.keyed _ _ found
    exact (logged.entries _ _ found).other fun equal => apart (by rw [← own, ← equal])
  · intro deed member
    rw [done, List.mem_append] at member ⊢
    rcases member with early | last
    · exact .inl (logged.closed deed early)
    · rw [List.mem_singleton.mp last]
      exact List.mem_append.mp traced.reserved
  · intro other isOnce receiptId
    rw [done, List.count_append]
    by_cases equal : (kind, entry.receiptId) = (other, receiptId)
    · obtain ⟨rfl, rfl⟩ := Prod.mk.inj equal
      rw [List.count_eq_zero_of_not_mem (first isOnce), List.count_singleton_self]
    · have rest : List.count (other, receiptId) [(kind, entry.receiptId)] = 0 :=
        List.count_eq_zero_of_not_mem fun member => equal (List.mem_singleton.mp member).symm
      rw [rest, Nat.add_zero]
      exact logged.once other isOnce receiptId
  · rw [same]
    refine ReceiptLedger.forall_setEntry ?_ claims
    intro receiptId other _ found sending
    obtain ⟨earlier, member, claims⟩ := logged.given receiptId other found sending
    exact ⟨earlier, List.mem_append_left _ member, claims⟩

/-- A reservation under an identifier that was not drawn before. -/
theorem reserve (logged : DeedsLogged turns ledger) (booked : ledger.Booked)
    (reserves : LedgerReserves time ledger turn.call entry)
    (does : turn.deed = some (.reserve, entry.receiptId))
    (fresh : (.reserve, entry.receiptId) ∉ deeds turns) :
    DeedsLogged (turns ++ [turn]) (ledger.addEntry entry) := by
  have never : ∀ kind, kind ≠ .reserve → (kind, entry.receiptId) ∉ deeds turns ++
      [(.reserve, entry.receiptId)] := by
    intro kind differs member
    rcases List.mem_append.mp member with early | last
    · exact fresh (logged.closed _ early)
    · exact differs (Prod.mk.inj (List.mem_singleton.mp last)).1
  obtain ⟨isReserved, noRecord, noOutcome, -, -, -⟩ := reserves.initial
  refine logged.deed booked rfl does ?_ (fun once => absurd once (by decide)) fun sending => ?_
  · exact
      { reserved := by simp
        unconnected := fun _ => .inl isReserved
        dispatched := fun did => absurd did (never _ (by decide))
        unclaimed := fun _ => never _ (by decide)
        uncompleted := fun _ => never _ (by decide) }
  · rw [noOutcome] at sending
    cases sending

/-- An accepted call, after its reading. -/
theorem act {reading : Option ℚ} (logged : DeedsLogged turns ledger) (booked : ledger.Booked)
    (acts : LedgerAction time ledger call result next)
    (fresh : ∀ receiptId, LedgerTurn.deed ⟨call, reading, result⟩ = some (.reserve, receiptId) →
      (.reserve, receiptId) ∉ deeds turns) :
    DeedsLogged (turns ++ [⟨call, reading, result⟩]) next := by
  cases acts with
  | quiet quiet => exact logged.idle quiet.deed rfl
  | @reserved _ entry reserves =>
      have does : LedgerTurn.deed ⟨call, reading, .ok (.handle entry.handle)⟩ =
          some (.reserve, entry.receiptId) := by
        rw [reserves.call]
        rfl
      exact logged.reserve booked reserves does (fresh _ does)
  | @connected reservation entry found source =>
      have stored := booked.keyed.stored_of_lookup found
      obtain rfl := booked.keyed.handle_of_lookup found
      have noOutcome := ((booked.formed _ _ stored).active (by rw [source]; decide)).2
      refine logged.deed booked rfl rfl
        ((logged.entries _ _ stored).connect (booked.formed _ _ stored) source)
        (fun once => absurd once (by decide)) fun sending => ?_
      cases noOutcome.symm.trans sending
  | @dispatched reservation entry found source =>
      have stored := booked.keyed.stored_of_lookup found
      obtain rfl := booked.keyed.handle_of_lookup found
      have noOutcome := ((booked.formed _ _ stored).active (by rw [source]; decide)).2
      refine logged.deed booked rfl rfl
        ((logged.entries _ _ stored).dispatch (booked.formed _ _ stored) source)
        (fun once => absurd once (by decide)) fun sending => ?_
      cases noOutcome.symm.trans sending
  | finalized found legal given settles recorded =>
      have stored := booked.keyed.stored_of_lookup found
      obtain rfl := booked.keyed.handle_of_lookup found
      have formed := booked.formed _ _ stored
      refine logged.deed booked rfl rfl
        ((logged.entries _ _ stored).settled formed legal).finalize
        (fun once => absurd once (by decide)) fun sending => ?_
      cases sending
  | claimed found recorded same pending =>
      have stored := booked.keyed.stored_of_lookup found
      obtain rfl := booked.keyed.handle_of_lookup found
      have traced := logged.entries _ _ stored
      exact logged.deed booked rfl rfl
        (traced.claim pending) (fun _ => traced.unclaimed (.inr pending))
        fun _ => ⟨_, List.mem_append_right _ (List.mem_singleton_self _), _, _, rfl, rfl⟩
  | completed found claimed recorded sending isFinal bounded whole nothing =>
      have stored := booked.keyed.stored_of_lookup found
      obtain rfl := booked.keyed.handle_of_lookup found
      have traced := logged.entries _ _ stored
      refine logged.deed booked rfl rfl
        (traced.complete isFinal) (fun _ => traced.uncompleted ?_) fun again => ?_
      · rw [sending]
        decide
      · rw [Option.some.inj again] at isFinal
        exact absurd isFinal (by decide)

end DeedsLogged

/-! ## Runs -/

/-- The readings of the turns do not pass the last one, as long as the ledger is not held. -/
def Heard (turns : List LedgerTurn) (ledger : ReceiptLedger) : Prop :=
  ledger.heldCode = none → ∀ turn ∈ turns, ∀ time, turn.reading = some time →
    ∃ last, ledger.lastNow = some last ∧ time ≤ last

/-- The invariant of a run. -/
structure Kept (turns : List LedgerTurn) (ledger : ReceiptLedger) : Prop where
  booked : ledger.Booked
  logged : DeedsLogged turns ledger
  heard : Heard turns ledger

theorem LedgerAction.clock (acts : LedgerAction time ledger call result next) :
    next.lastNow = ledger.lastNow ∧ next.heldCode = ledger.heldCode := by
  cases acts <;> exact ⟨rfl, rfl⟩

/-- An accepted call reserves under a new identifier. -/
theorem Kept.fresh {reading : Option ℚ} (kept : Kept turns ledger)
    (fresh : ∀ receiptId, LedgerTurn.deed ⟨call, reading, result⟩ = some (.reserve, receiptId) →
      (.reserve, receiptId) ∉ deeds turns) (entry : ReceiptEntry)
    (reserves : LedgerReserves time (ledger.age time) call entry)
    (answered : result = .ok (.handle entry.handle)) :
    (ledger.age time).entries.contains entry.receiptId = false := by
  by_contra present
  rw [Bool.not_eq_false] at present
  obtain ⟨stored, found⟩ := Dict.contains_iff.mp present
  have drawn := ((kept.logged.age kept.booked).entries _ _ found).reserved
  rw [kept.booked.keyed.age time _ _ found] at drawn
  refine fresh entry.receiptId ?_ drawn
  rw [reserves.call, answered]
  rfl

theorem Kept.change (kept : Kept turns ledger)
    (acts : LedgerAction time (ledger.age time) call result next) :
    ReceiptLedger.Change time (ledger.age time) call result next :=
  (kept.booked.keyed.age time).change (kept.booked.formed.age time) ReceiptLedger.current_age acts

theorem Kept.step (kept : Kept turns ledger) (step : ReceiptStep ledger turn next)
    (fresh : ∀ receiptId, turn.deed = some (.reserve, receiptId) →
      (.reserve, receiptId) ∉ deeds turns) : Kept (turns ++ [turn]) next := by
  cases step with
  | unread =>
      refine ⟨kept.booked, kept.logged.idle rfl rfl, fun free other member time read => ?_⟩
      rcases List.mem_append.mp member with early | last
      · exact kept.heard free other early time read
      · rw [List.mem_singleton.mp last] at read
        cases read
  | held held reads quiet =>
      refine ⟨kept.booked, kept.logged.idle quiet.deed rfl, fun free => ?_⟩
      rw [free] at held
      cases held
  | faulted free reads fault quiet =>
      refine ⟨kept.booked.hold _, kept.logged.idle quiet.deed rfl, fun free => ?_⟩
      cases free
  | @accepted call reading time _ result accepts reads acts =>
      have aged := kept.booked.age accepts.nonneg
      have logged : DeedsLogged turns (ledger.age time) := kept.logged.age kept.booked
      refine ⟨aged.change rfl (kept.change acts) (kept.fresh fresh), logged.act aged acts fresh,
        fun _ other member instant read => ?_⟩
      refine ⟨time, acts.clock.1, ?_⟩
      rcases List.mem_append.mp member with early | last
      · obtain ⟨last, known, bounded⟩ := kept.heard accepts.free other early instant read
        exact bounded.trans (accepts.later last known)
      · rw [List.mem_singleton.mp last] at read
        exact (Option.some.inj (read.symm.trans accepts.read)).le

theorem Kept.start (generation : String) : Kept [] (.start generation) :=
  ⟨.start generation, .start generation, fun _ _ member => by cases member⟩

/-- No identifier is drawn a second time. -/
theorem fresh_of_nodup (distinct : (drawnReceipts (turns ++ [turn])).Nodup) (receiptId : String)
    (does : turn.deed = some (.reserve, receiptId)) : (.reserve, receiptId) ∉ deeds turns := by
  intro drawn
  rw [drawnReceipts_append] at distinct
  refine List.disjoint_of_nodup_append distinct (mem_drawnReceipts.mpr drawn)
    (mem_drawnReceipts.mpr ?_)
  rw [deeds_singleton, does]
  exact List.mem_singleton_self _

theorem Kept.run {later : List LedgerTurn} (kept : Kept turns ledger)
    (run : LedgerRun timeText ledger later next)
    (distinct : (drawnReceipts (turns ++ later)).Nodup) : Kept (turns ++ later) next := by
  induction run with
  | start => rwa [List.append_nil]
  | turn run last induction =>
      rw [← List.append_assoc] at distinct ⊢
      have before : (drawnReceipts (turns ++ _)).Nodup :=
        List.Nodup.of_append_left (drawnReceipts_append _ _ ▸ distinct)
      have reached := induction before
      exact reached.step (ReceiptLedger.takes_step reached.booked.rested last)
        (fresh_of_nodup distinct)

theorem LedgerRun.kept {generation : String}
    (run : LedgerRun timeText (.start generation) turns ledger)
    (distinct : (drawnReceipts turns).Nodup) : Kept turns ledger := by
  have whole := (Kept.start generation).run run (by rwa [List.nil_append])
  rwa [List.nil_append] at whole

/-- A held ledger does nothing any more. -/
theorem LedgerRun.held (rested : ledger.Rested) (held : ledger.heldCode.isSome = true)
    (run : LedgerRun timeText ledger turns next) : next = ledger ∧ deeds turns = [] := by
  induction run with
  | start => exact ⟨rfl, rfl⟩
  | turn run last induction =>
      obtain ⟨rfl, none⟩ := induction
      rw [deeds_append, none, deeds_singleton, List.nil_append]
      have step := ReceiptLedger.takes_step rested last
      cases step with
      | unread => exact ⟨rfl, rfl⟩
      | held held reads quiet => exact ⟨rfl, by rw [quiet.deed]; rfl⟩
      | faulted free reads fault quiet =>
          rw [free] at held
          cases held
      | accepted accepts reads acts =>
          rw [accepts.free] at held
          cases held

/-- Where the entries after a call come from. -/
theorem Kept.follows (kept : Kept turns ledger) (step : ReceiptStep ledger turn next)
    (found : next.entries.get? receiptId = some entry) :
    receiptId ∈ drawnReceipts [turn] ∨
      ∃ older, ledger.entries.get? receiptId = some older ∧ older.Follows entry := by
  cases step with
  | unread | held | faulted => exact .inr ⟨entry, found, .refl⟩
  | @accepted call reading time _ result accepts reads acts =>
      have swept : ∀ {stored : ReceiptEntry},
          (ledger.age time).entries.get? receiptId = some stored →
            ∃ older, ledger.entries.get? receiptId = some older ∧ older.Follows stored := by
        intro stored aged
        obtain ⟨older, before, rfl, -⟩ := ReceiptLedger.of_get?_age aged
        exact ⟨older, before, ((kept.booked.formed _ _ before).sweep time).1⟩
      have moved {older changed : ReceiptEntry}
          (stored : (ledger.age time).entries.get? older.receiptId = some older)
          (follows : older.Follows changed)
          (found : ((ledger.age time).setEntry changed).entries.get? receiptId = some entry) :
          ∃ older, ledger.entries.get? receiptId = some older ∧ older.Follows entry := by
        rw [ReceiptLedger.get?_setEntry] at found
        split_ifs at found with same
        · obtain rfl := Option.some.inj found
          rw [← follows.sameReceipt, ← same] at stored
          obtain ⟨oldest, before, first⟩ := swept stored
          exact ⟨oldest, before, first.trans follows⟩
        · exact swept found
      cases kept.change acts with
      | nothing => exact .inr (swept found)
      | @added new reserves answered =>
          change ((ledger.age time).setEntry new).entries.get? receiptId = some entry at found
          rw [ReceiptLedger.get?_setEntry] at found
          split_ifs at found with same
          · left
            rw [mem_drawnReceipts, deeds_singleton, same, reserves.call, answered]
            exact List.mem_singleton_self _
          · exact .inr (swept found)
      | advanced stored active follows => exact .inr (moved stored follows found)
      | delivered stored step follows => exact .inr (moved stored follows found)

theorem Kept.run_follows {later : List LedgerTurn} (kept : Kept turns ledger)
    (run : LedgerRun timeText ledger later next)
    (distinct : (drawnReceipts (turns ++ later)).Nodup)
    (found : next.entries.get? receiptId = some entry) :
    receiptId ∈ drawnReceipts later ∨
      ∃ older, ledger.entries.get? receiptId = some older ∧ older.Follows entry := by
  induction run generalizing entry with
  | start => exact .inr ⟨entry, found, .refl⟩
  | turn run last induction =>
      rw [← List.append_assoc] at distinct
      have before : (drawnReceipts (turns ++ _)).Nodup :=
        List.Nodup.of_append_left (drawnReceipts_append _ _ ▸ distinct)
      have reached := kept.run run before
      rw [drawnReceipts_append, List.mem_append]
      rcases reached.follows (ReceiptLedger.takes_step reached.booked.rested last) found with
        drawn | ⟨middle, stored, follows⟩
      · exact .inl (.inr drawn)
      · rcases induction before stored with drawn | ⟨older, oldest, first⟩
        · exact .inl (.inl drawn)
        · exact .inr ⟨older, oldest, first.trans follows⟩

/-! ## What the ledger guarantees -/

/-- A call that meets no time, or one before an earlier reading. -/
def Faulty (before : List LedgerTurn) (turn : LedgerTurn) : Prop :=
  turn.call.reads = true ∧ ∀ time, turn.reading = some time → time < 0 ∨
    ∃ earlier ∈ before, ∃ known, earlier.reading = some known ∧ time < known

/-- A call of `claim_delivery` that succeeded met its entry, with the receipt's own digest. -/
def ClaimsHonestly (ledger : ReceiptLedger) (turn : LedgerTurn) : Prop :=
  ∀ receipt digest answer, turn.call = .claimDelivery receipt digest → turn.result = .ok answer →
    ∃ entry record, ledger.entries.get? receipt.receiptId = some entry ∧
      entry.record = some record ∧ digest = record.clientResponseDigest ∧
      receipt = entry.handle ∧ answer = .handle entry.handle

/-- A call of `complete_delivery` that succeeded met its entry, with the claim that was
given out for it and a count that fits the outcome. -/
def CompletesHonestly (before : List LedgerTurn) (ledger : ReceiptLedger) (turn : LedgerTurn) :
    Prop :=
  ∀ claim outcome bytesSent answer, turn.call = .completeDelivery claim outcome bytesSent →
    turn.result = .ok answer → ∃ entry record, ∃ count : Nat,
      ledger.entries.get? claim.receiptId = some entry ∧ entry.record = some record ∧
      (∃ earlier ∈ before, ∃ receipt digest, earlier.call = .claimDelivery receipt digest ∧
        earlier.result = .ok (.handle claim)) ∧
      bytesSent = some (count : Int) ∧ count ≤ record.clientResponseBytes ∧
      (outcome = some .sent → count = record.clientResponseBytes) ∧
      (outcome = some .notSent → count = 0)

/-- What holds of every run of the ledger. -/
structure LedgerMachine (timeText : ℚ → Bytes) (generation : String) (turns : List LedgerTurn)
    (ledger : ReceiptLedger) : Prop where
  forward : ∀ later last, LedgerRun timeText ledger later last →
    (drawnReceipts (turns ++ later)).Nodup → ∀ receiptId older entry,
      ledger.entries.get? receiptId = some older → last.entries.get? receiptId = some entry →
        older.state.rank ≤ entry.state.rank ∧
          ∀ record, older.record = some record → entry.record = some record
  dispatched : ∀ receiptId entry record, ledger.entries.get? receiptId = some entry →
    entry.record = some record → (.dispatch, receiptId) ∈ deeds turns →
      record.dispatchState ≠ .notDispatched ∧ record.dispatchState ≠ .failed
  unconnected : ∀ receiptId entry record, ledger.entries.get? receiptId = some entry →
    entry.record = some record → (.connect, receiptId) ∉ deeds turns →
      record.dispatchState = .notDispatched
  once : ∀ receiptId, (deeds turns).count (.claim, receiptId) ≤ 1 ∧
    (deeds turns).count (.complete, receiptId) ≤ 1
  deliveries : ∀ before turn after, turns = before ++ turn :: after → ∃ next,
    LedgerRun timeText (.start generation) (before ++ [turn]) next ∧
      ClaimsHonestly next turn ∧ CompletesHonestly before next turn
  charged : ledger.chargedBytes = (ledger.entries.values.map fun entry => (entry.charge : Int)).sum
  bounded : ledger.chargedBytes ≤ maxLedgerBytes ∧ ledger.entries.size ≤ maxReceipts
  retention : ∀ before turn time, turns = before ++ [turn] → turn.reading = some time →
    ∀ receiptId entry record, ledger.entries.get? receiptId = some entry →
      entry.record = some record →
        time - record.completedMonotonic < receiptRetentionSeconds
  frozen : ∀ before turn after reached, turns = before ++ turn :: after → Faulty before turn →
    LedgerRun timeText (.start generation) before reached →
      ledger.heldCode.isSome = true ∧ ledger.entries = reached.entries ∧ deeds (turn :: after) = []

theorem ledgerTakes_determined (ledger : ReceiptLedger) (turn : LedgerTurn)
    (left right : ReceiptLedger) (first : LedgerTakes timeText ledger turn left)
    (second : LedgerTakes timeText ledger turn right) : left = right :=
  (Prod.mk.inj (first.ended.symm.trans second.ended)).2

/-- A call with a deed was accepted and acted. -/
theorem ReceiptStep.acts_of_deed (step : ReceiptStep ledger turn next) {deed : LedgerDeed × String}
    (does : turn.deed = some deed) : ∃ time, LedgerAccepts ledger turn.reading time ∧
      LedgerAction time (ledger.age time) turn.call turn.result next := by
  cases step with
  | unread => cases does
  | held _ _ quiet | faulted _ _ _ quiet =>
      rw [quiet.deed] at does
      cases does
  | accepted accepts reads acts => exact ⟨_, accepts, acts⟩

theorem Kept.claimsHonestly (kept : Kept turns ledger) (step : ReceiptStep ledger turn next) :
    ClaimsHonestly next turn := by
  obtain ⟨call, reading, result⟩ := turn
  rintro receipt digest answer rfl rfl
  obtain ⟨time, accepts, acts⟩ := step.acts_of_deed rfl
  have aged := kept.booked.age accepts.nonneg
  generalize isResult : (Except.ok answer : Except ReceiptErrorCode LedgerAnswer) = result at acts
  cases acts with
  | quiet quiet =>
      rcases quiet with ⟨code, rfl⟩ | observes
      · cases isResult
      · cases observes
  | reserved reserves => cases reserves.call
  | @claimed _ _ entry record found recorded same pending =>
      have own := aged.keyed.handle_of_lookup found
      exact ⟨{ entry with claimed := true, deliveryOutcome := some .sending }, record,
        ReceiptLedger.get?_setEntry_self (congrArg ReceiptHandle.receiptId own),
        recorded, same, own,
        Except.ok.inj isResult⟩

theorem Kept.completesHonestly (kept : Kept turns ledger) (step : ReceiptStep ledger turn next) :
    CompletesHonestly turns next turn := by
  obtain ⟨call, reading, result⟩ := turn
  rintro claim outcome bytesSent answer rfl rfl
  obtain ⟨time, accepts, acts⟩ := step.acts_of_deed rfl
  have aged := kept.booked.age accepts.nonneg
  generalize isResult : (Except.ok answer : Except ReceiptErrorCode LedgerAnswer) = result at acts
  cases acts with
  | quiet quiet =>
      rcases quiet with ⟨code, rfl⟩ | observes
      · cases isResult
      · cases observes
  | reserved reserves => cases reserves.call
  | @completed _ ended count entry record found claimed recorded sending final bounded
    whole nothing =>
      have own := aged.keyed.handle_of_lookup found
      have stored := aged.keyed.stored_of_lookup found
      have given := (kept.logged.age kept.booked).given _ _ stored sending
      exact ⟨{ entry with deliveryOutcome := some ended, deliveryBytesSent := some count }, record,
        count, ReceiptLedger.get?_setEntry_self (congrArg ReceiptHandle.receiptId own), recorded,
        own ▸ given, rfl, bounded, fun sent => whole (Option.some.inj sent),
        fun unsent => nothing (Option.some.inj unsent)⟩

/-- At a reading, accepted or not, nothing is older than the retention. -/
theorem Kept.young (kept : Kept turns ledger) (step : ReceiptStep ledger turn next)
    (after : Kept (turns ++ [turn]) next) (read : turn.reading = some time)
    {record : ForwarderReceipt} (found : next.entries.get? receiptId = some entry)
    (recorded : entry.record = some record) :
    time - record.completedMonotonic < receiptRetentionSeconds := by
  have formed := after.booked.formed _ _ found
  have retained := ReceiptEntry.retained_iff.mp (after.booked.rested _ _ found).retained record
    recorded (formed.final_of_record recorded)
  obtain ⟨age, isAge, below⟩ := (Option.any_eq_true _ _).mp retained
  have young : next.lastNow.getD 0 - record.completedMonotonic < (310 : ℕ) :=
    Binary64.lt_of_round (by decide) isAge (of_decide_eq_true below)
  change time - record.completedMonotonic < (310 : ℕ)
  have late : time ≤ next.lastNow.getD 0 := by
    cases step with
    | unread => cases read
    | held held reads quiet => cases read
    | faulted free reads fault quiet =>
        have nonneg : 0 ≤ ledger.lastNow.getD 0 := by
          cases known : ledger.lastNow with
          | none => exact le_rfl
          | some last => exact kept.booked.nonneg last known
        cases fault with
        | invalid bad => exact (bad time read).le.trans nonneg
        | @regressed instant last isReading known earlier =>
            obtain rfl := Option.some.inj (isReading.symm.trans read)
            change instant ≤ ledger.lastNow.getD 0
            rw [known]
            exact earlier.le
    | accepted accepts reads acts =>
        rw [acts.clock.1]
        exact (Option.some.inj (read.symm.trans accepts.read)).le
  linarith

/-- A faulty call holds the ledger, if it was not held. -/
theorem Kept.faulty (kept : Kept turns ledger) (step : ReceiptStep ledger turn next)
    (faulty : Faulty turns turn) :
    next.heldCode.isSome = true ∧ next.entries = ledger.entries ∧ turn.deed = none := by
  cases step with
  | unread => cases faulty.1
  | held held reads quiet => exact ⟨held, rfl, quiet.deed⟩
  | faulted free reads fault quiet => exact ⟨rfl, rfl, quiet.deed⟩
  | accepted accepts reads acts =>
      rcases faulty.2 _ accepts.read with negative | ⟨earlier, member, known, read, before⟩
      · exact absurd accepts.nonneg (not_le.mpr negative)
      · obtain ⟨last, isLast, bounded⟩ := kept.heard accepts.free earlier member known read
        exact absurd (bounded.trans (accepts.later last isLast)) (not_le.mpr before)

theorem Kept.dispatched (kept : Kept turns ledger) {record : ForwarderReceipt}
    (found : ledger.entries.get? receiptId = some entry) (recorded : entry.record = some record)
    (did : (.dispatch, receiptId) ∈ deeds turns) :
    record.dispatchState ∈ legalFinalizeStates .dispatched := by
  rw [← kept.booked.keyed _ _ found] at did
  rcases (kept.logged.entries _ _ found).dispatched did with state | ⟨other, same, legal⟩
  · have final := (kept.booked.formed _ _ found).final_of_record recorded
    rw [state] at final
    cases final
  · obtain rfl := Option.some.inj (recorded.symm.trans same)
    exact legal

theorem Kept.unconnected (kept : Kept turns ledger) {record : ForwarderReceipt}
    (found : ledger.entries.get? receiptId = some entry) (recorded : entry.record = some record)
    (never : (.connect, receiptId) ∉ deeds turns) : record.dispatchState = .notDispatched := by
  rw [← kept.booked.keyed _ _ found] at never
  rcases (kept.logged.entries _ _ found).unconnected never with state | ⟨other, same, legal⟩
  · have final := (kept.booked.formed _ _ found).final_of_record recorded
    rw [state] at final
    cases final
  · obtain rfl := Option.some.inj (recorded.symm.trans same)
    exact legal

theorem nodup_drawn_left {later : List LedgerTurn}
    (distinct : (drawnReceipts (turns ++ later)).Nodup) : (drawnReceipts turns).Nodup :=
  List.Nodup.of_append_left (drawnReceipts_append _ _ ▸ distinct)

/-- Every run of the ledger, from its start and whatever objects and readings it is given,
keeps what `LedgerMachine` says. -/
theorem receipt_ledger_machine {generation : String}
    (run : LedgerRun timeText (.start generation) turns ledger)
    (distinct : (drawnReceipts turns).Nodup) : LedgerMachine timeText generation turns ledger := by
  have kept := run.kept distinct
  refine
    { forward := ?_
      dispatched := ?_
      unconnected := fun receiptId entry record => kept.unconnected
      once := fun receiptId => ⟨kept.logged.once _ (by simp) _, kept.logged.once _ (by simp) _⟩
      deliveries := ?_
      charged := kept.booked.total
      bounded := ⟨kept.booked.bounded, kept.booked.few⟩
      retention := ?_
      frozen := ?_ }
  · intro later last rest apart receiptId older entry stored found
    rcases kept.run_follows rest apart found with drawn | ⟨other, same, follows⟩
    · have reserved := (kept.logged.entries _ _ stored).reserved
      rw [kept.booked.keyed _ _ stored, ← mem_drawnReceipts] at reserved
      rw [drawnReceipts_append] at apart
      exact absurd drawn (List.disjoint_of_nodup_append apart reserved)
    · obtain rfl := Option.some.inj (stored.symm.trans same)
      exact ⟨follows.rank, follows.record⟩
  · intro receiptId entry record found recorded did
    have legal := kept.dispatched found recorded did
    constructor <;>
    · intro same
      rw [same] at legal
      exact absurd legal (by decide)
  · rintro before turn after rfl
    obtain ⟨reached, next, first, takes, -⟩ := run.of_split
    have reachedKept := LedgerRun.kept first (nodup_drawn_left distinct)
    have step := ReceiptLedger.takes_step reachedKept.booked.rested takes
    exact ⟨next, first.turn takes, reachedKept.claimsHonestly step,
      reachedKept.completesHonestly step⟩
  · rintro before turn time rfl read receiptId entry record found recorded
    obtain ⟨reached, first, takes⟩ := run.of_snoc
    have reachedKept := LedgerRun.kept first (nodup_drawn_left distinct)
    exact reachedKept.young (ReceiptLedger.takes_step reachedKept.booked.rested takes) kept read
      found recorded
  · rintro before turn after reached rfl faulty first
    obtain ⟨other, next, again, takes, rest⟩ := run.of_split
    obtain rfl := Run.unique ledgerTakes_determined first again
    have reachedKept := LedgerRun.kept first (nodup_drawn_left distinct)
    have step := ReceiptLedger.takes_step reachedKept.booked.rested takes
    obtain ⟨held, same, quiet⟩ := reachedKept.faulty step faulty
    have rested : next.Rested := by
      have nextDistinct : (drawnReceipts (before ++ [turn])).Nodup := by
        rw [List.append_cons] at distinct
        exact nodup_drawn_left distinct
      exact (LedgerRun.kept (first.turn takes) nextDistinct).booked.rested
    obtain ⟨rfl, none⟩ := LedgerRun.held rested held rest
    refine ⟨held, same, ?_⟩
    rw [← List.singleton_append, deeds_append, deeds_singleton, quiet, none]
    rfl

/-- Make a call with a reading, where one is read. -/
def playLedger (timeText : ℚ → Bytes) (ledger : ReceiptLedger) (call : LedgerCall × Option ℚ) :
    LedgerTurn × ReceiptLedger :=
  let reading := if ledger.heldCode.isSome = true ∨ call.1.reads = false then none else call.2
  let ended := outcome (call.1.perform timeText reading) ledger
  (⟨call.1, reading, ended.1⟩, ended.2)

theorem takes_playLedger (ledger : ReceiptLedger) (call : LedgerCall × Option ℚ) :
    LedgerTakes timeText ledger (playLedger timeText ledger call).1
      (playLedger timeText ledger call).2 := by
  refine ⟨fun skipped => ?_, rfl⟩
  have isSkipped : ledger.heldCode.isSome = true ∨ call.1.reads = false := skipped
  exact if_pos isSkipped

/-- A dispatch is reserved and begun.  It is reserved at the binary64 number 0.1, with a
deadline that is later than 40 seconds after by what the sum is rounded up. -/
def sampleLedgerCalls : List (LedgerCall × Option ℚ) :=
  [(.reserve "l" "a" (some .jira) "jira.search" (String.ofList (List.replicate 64 '0')) (some 10)
      (some (5643573283048653 / 2 ^ 47)) none "r", some (3602879701896397 / 2 ^ 55)),
    (.beginConnect ⟨some 0, "r"⟩, some 1),
    (.beginDispatch ⟨some 0, "r"⟩, some 2)]

def sampleLedgerRun : List LedgerTurn × ReceiptLedger :=
  takeTurns (playLedger fun _ => ascii "0") (.start "g") sampleLedgerCalls

theorem receipt_ledger_machine_sample :
    deeds sampleLedgerRun.1 = [(.reserve, "r"), (.connect, "r"), (.dispatch, "r")] ∧
      LedgerMachine (fun _ => ascii "0") "g" sampleLedgerRun.1 sampleLedgerRun.2 := by
  have done : deeds sampleLedgerRun.1 = [(.reserve, "r"), (.connect, "r"), (.dispatch, "r")] := by
    decide +kernel
  refine ⟨done, receipt_ledger_machine (run_takeTurns takes_playLedger _ _) ?_⟩
  rw [drawnReceipts, done]
  decide

end ManyAlerts
