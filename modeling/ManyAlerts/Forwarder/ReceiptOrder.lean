import ManyAlerts.Forwarder.ReceiptSteps
import ManyAlerts.Library.Threads

/-!
# An orderly ledger of receipts

How an entry changes, and what a ledger keeps of its entries through every step, whichever
identifiers `reserve` draws: entries stand under their own identifier, are well formed, are
numbered below the count of issued receipts, and rest once they are final.
-/

namespace ManyAlerts

variable {timeText : ℚ → Bytes} {ledger next : ReceiptLedger} {entry older after : ReceiptEntry}
  {time : ℚ} {receiptId : String} {turn : LedgerTurn} {call : LedgerCall}
  {result : Except ReceiptErrorCode LedgerAnswer} {handle : ReceiptHandle}

/-! ## How an entry changes -/

/-- The order in which an entry goes through its states. -/
def EntryState.rank : EntryState → Nat
  | .reserved => 0
  | .connecting => 1
  | .dispatched => 2
  | .finalized => 3

theorem EntryState.rank_le_finalized (state : EntryState) :
    state.rank ≤ EntryState.finalized.rank := by
  cases state <;> decide

namespace ReceiptEntry

/-- The entry as it was reserved. -/
def origin (entry : ReceiptEntry) : ReceiptEntry :=
  { entry with
    state := .reserved
    record := none
    deliveryOutcome := none
    deliveryBytesSent := none
    claimed := false
    swept := false }

/-- An entry has a receipt exactly when it is finalized. -/
structure Formed (entry : ReceiptEntry) : Prop where
  active : entry.state ≠ .finalized → entry.record = none ∧ entry.deliveryOutcome = none
  final : entry.state = .finalized → ∃ record, entry.record = some record

/-- An entry after another: further on, with its receipt untouched. -/
structure Follows (older entry : ReceiptEntry) : Prop where
  origin : entry.origin = older.origin
  rank : older.state.rank ≤ entry.state.rank
  record : ∀ record, older.record = some record → entry.record = some record

theorem Follows.refl : Follows entry entry := ⟨rfl, le_rfl, fun _ same => same⟩

theorem Follows.trans {middle : ReceiptEntry} (first : Follows older middle)
    (second : Follows middle entry) : Follows older entry where
  origin := second.origin.trans first.origin
  rank := first.rank.trans second.rank
  record record held := second.record record (first.record record held)

theorem Follows.sameReceipt (follows : Follows older entry) : entry.receiptId = older.receiptId :=
  show entry.origin.receiptId = older.origin.receiptId by rw [follows.origin]

theorem Follows.sameSerial (follows : Follows older entry) : entry.serial = older.serial :=
  show entry.origin.serial = older.origin.serial by rw [follows.origin]

theorem Follows.sameCharge (follows : Follows older entry) : entry.charge = older.charge :=
  show entry.origin.charge = older.origin.charge by rw [follows.origin]

theorem Formed.settled (formed : entry.Formed) (active : entry.state ≠ .finalized)
    {dispatchState : ForwarderState} {reason : ForwarderReason} {settlement : Settlement}
    {swept : Bool} :
    Follows entry (entry.settled dispatchState reason settlement time swept) ∧
      (entry.settled dispatchState reason settlement time swept).Formed := by
  refine ⟨⟨rfl, EntryState.rank_le_finalized _, fun record held => ?_⟩,
    fun open' => absurd rfl open',
    fun _ => ⟨_, rfl⟩⟩
  rw [(formed.active active).1] at held
  cases held

theorem Formed.sweep (formed : entry.Formed) (now : ℚ) :
    Follows entry (entry.sweep now) ∧ (entry.sweep now).Formed := by
  have swept := swept_sweep now entry
  generalize entry.sweep now = after at swept ⊢
  cases swept with
  | kept current => exact ⟨.refl, formed⟩
  | abandoned active due => exact formed.settled active

theorem origin_sweep (now : ℚ) (entry : ReceiptEntry) :
    (entry.sweep now).origin = entry.origin := by
  have swept := swept_sweep now entry
  generalize entry.sweep now = after at swept ⊢
  cases swept <;> rfl

theorem retained_iff : entry.retained time = true ↔ ∀ record, entry.record = some record →
    entry.state = .finalized → ((Binary64.round (time - record.completedMonotonic)).any fun age =>
      age < receiptRetentionSeconds) = true := by
  rw [retained]
  cases entry.record with
  | none => simp
  | some record =>
      by_cases final : entry.state = .finalized <;> simp [final]

theorem Current.of_record {changed : ReceiptEntry} (current : entry.Current time)
    (state : changed.state = entry.state) (deadline : changed.deadline = entry.deadline)
    (record : changed.record = entry.record) : changed.Current time := by
  refine ⟨?_, retained_iff.mpr ?_⟩
  · rw [state, deadline]
    exact current.inTime
  · rw [state, record]
    exact retained_iff.mp current.retained

theorem Current.of_active (active : entry.state ≠ .finalized) (inTime : time < entry.deadline) :
    entry.Current time :=
  ⟨.inr inTime, retained_iff.mpr fun _ _ final => absurd final active⟩

theorem Current.before_deadline (current : entry.Current time) (active : entry.state ≠ .finalized) :
    time < entry.deadline :=
  current.inTime.resolve_left active

theorem current_settled {dispatchState : ForwarderState} {reason : ForwarderReason}
    {settlement : Settlement} {swept : Bool} :
    (entry.settled dispatchState reason settlement time swept).Current time := by
  refine ⟨.inl rfl, retained_iff.mpr fun record recorded _ => ?_⟩
  obtain rfl := Option.some.inj recorded
  simp [receiptRetentionSeconds]

theorem Formed.final_of_record (formed : entry.Formed) {record : ForwarderReceipt}
    (recorded : entry.record = some record) : entry.state = .finalized := by
  by_contra active
  rw [(formed.active active).1] at recorded
  cases recorded

end ReceiptEntry

/-! ## What a call changes -/

/-- What a call can do to the entry of a receipt that has its record. -/
inductive DeliveryStep (call : LedgerCall)
    (result : Except ReceiptErrorCode LedgerAnswer) (handle : ReceiptHandle)
    (entry : ReceiptEntry) :
    ReceiptEntry → Prop where
  | kept : DeliveryStep call result handle entry entry
  | claimed {digest : String} (called : call = .claimDelivery handle digest)
      (answered : result = .ok (.handle handle))
      (pending : entry.deliveryOutcome = some .pending) :
      DeliveryStep call result handle entry
        { entry with claimed := true, deliveryOutcome := some .sending }
  | completed {outcome : DeliveryOutcome} {bytesSent : Nat}
      (called : call = .completeDelivery handle (some outcome) (some bytesSent))
      (answered : result = .ok .nothing) (sending : entry.deliveryOutcome = some .sending) :
      DeliveryStep call result handle entry
        { entry with deliveryOutcome := some outcome, deliveryBytesSent := some bytesSent }

namespace ReceiptLedger

theorem lookup_eq_some {handle : ReceiptHandle} : ledger.lookup handle = some entry ↔
    ledger.entries.get? handle.receiptId = some entry ∧ handle.serial = some entry.serial := by
  rw [lookup, Option.filter_eq_some_iff, decide_eq_true_iff]

/-- Every entry is kept under its own identifier. -/
def Keyed (ledger : ReceiptLedger) : Prop :=
  ∀ receiptId entry, ledger.entries.get? receiptId = some entry → entry.receiptId = receiptId

def AllFormed (ledger : ReceiptLedger) : Prop :=
  ∀ receiptId entry, ledger.entries.get? receiptId = some entry → entry.Formed

/-- The object of an entry is the only one that is accepted for it. -/
theorem Keyed.handle_of_lookup (keyed : ledger.Keyed) {handle : ReceiptHandle}
    (found : ledger.lookup handle = some entry) : handle = entry.handle := by
  obtain ⟨stored, serial⟩ := lookup_eq_some.mp found
  rw [ReceiptEntry.handle, keyed _ _ stored, ← serial]

theorem Keyed.stored_of_lookup (keyed : ledger.Keyed) {handle : ReceiptHandle}
    (found : ledger.lookup handle = some entry) :
    ledger.entries.get? entry.receiptId = some entry := by
  have stored := (lookup_eq_some.mp found).1
  rwa [keyed _ _ stored]

theorem Keyed.age (keyed : ledger.Keyed) (time : ℚ) : (ledger.age time).Keyed := by
  intro receiptId entry found
  obtain ⟨older, stored, rfl, -⟩ := of_get?_age found
  have same := congrArg ReceiptEntry.receiptId (older.origin_sweep time)
  exact same.trans (keyed receiptId older stored)

theorem AllFormed.age (formed : ledger.AllFormed) (time : ℚ) : (ledger.age time).AllFormed := by
  intro receiptId entry found
  obtain ⟨older, stored, rfl, -⟩ := of_get?_age found
  exact ((formed _ _ stored).sweep time).2

/-- What a call leaves of the entries that an accepted reading left: a new entry, an
active entry that has moved on, or a step of a delivery. -/
inductive Change (time : ℚ) (ledger : ReceiptLedger) (call : LedgerCall)
    (result : Except ReceiptErrorCode LedgerAnswer) : ReceiptLedger → Prop where
  | nothing : Change time ledger call result ledger
  | added {entry : ReceiptEntry} (reserves : LedgerReserves time ledger call entry)
      (answered : result = .ok (.handle entry.handle)) :
      Change time ledger call result (ledger.addEntry entry)
  | advanced {entry after : ReceiptEntry}
      (stored : ledger.entries.get? entry.receiptId = some entry)
      (active : entry.state ≠ .finalized) (follows : ReceiptEntry.Follows entry after)
      (formed : after.Formed) (current : after.Current time) :
      Change time ledger call result (ledger.setEntry after)
  | delivered {entry after : ReceiptEntry}
      (stored : ledger.entries.get? entry.receiptId = some entry)
      (step : DeliveryStep call result entry.handle entry after)
      (follows : ReceiptEntry.Follows entry after) (formed : after.Formed)
      (current : after.Current time) : Change time ledger call result (ledger.setEntry after)

theorem Keyed.change (keyed : ledger.Keyed) (formed : ledger.AllFormed)
    (current : ledger.Current time) (acts : LedgerAction time ledger call result next) :
    Change time ledger call result next := by
  have moved : ∀ {handle : ReceiptHandle} {entry : ReceiptEntry} {state : EntryState},
      ledger.lookup handle = some entry → entry.state ≠ .finalized → state ≠ .finalized →
        entry.state.rank ≤ state.rank →
          Change time ledger call result (ledger.setEntry { entry with state := state }) := by
    intro handle entry state found active activeNext ranks
    have stored := keyed.stored_of_lookup found
    refine .advanced stored active ⟨rfl, ranks, fun _ same => same⟩
      ⟨fun _ => ?_, fun final => ?_⟩ ?_
    · exact (formed _ _ stored).active active
    · exact absurd final activeNext
    · exact ReceiptEntry.Current.of_active activeNext
        ((current _ _ stored).before_deadline active)
  cases acts with
  | quiet quiet => exact .nothing
  | reserved reserves => exact .added reserves rfl
  | connected found source | dispatched found source =>
      exact moved found (by simp [source]) (by simp) (by simp [source, EntryState.rank])
  | finalized found legal given settles recorded =>
      have stored := keyed.stored_of_lookup found
      have active : ReceiptEntry.state _ ≠ EntryState.finalized := fun final => by
        rw [final] at legal
        cases legal
      obtain ⟨follows, isFormed⟩ := (formed _ _ stored).settled active
      exact .advanced stored active follows isFormed ReceiptEntry.current_settled
  | claimed found recorded same pending =>
      have stored := keyed.stored_of_lookup found
      have final := (formed _ _ stored).final_of_record recorded
      obtain rfl := keyed.handle_of_lookup found
      exact .delivered stored (.claimed rfl rfl pending) ⟨rfl, le_rfl, fun _ held => held⟩
        ⟨fun active => absurd final active, fun _ => ⟨_, recorded⟩⟩
        ((current _ _ stored).of_record rfl rfl rfl)
  | completed found claimed recorded sending isFinal bounded whole nothing =>
      have stored := keyed.stored_of_lookup found
      have final := (formed _ _ stored).final_of_record recorded
      obtain rfl := keyed.handle_of_lookup found
      exact .delivered stored (.completed rfl rfl sending) ⟨rfl, le_rfl, fun _ held => held⟩
        ⟨fun active => absurd final active, fun _ => ⟨_, recorded⟩⟩
        ((current _ _ stored).of_record rfl rfl rfl)

/-! ## Orderly ledgers -/

theorem get?_setEntry : (ledger.setEntry entry).entries.get? receiptId =
    if receiptId = entry.receiptId then some entry else ledger.entries.get? receiptId :=
  Dict.get?_set _ _ _ _

theorem get?_setEntry_self (same : receiptId = entry.receiptId) :
    (ledger.setEntry entry).entries.get? receiptId = some entry := by
  rw [get?_setEntry, if_pos same]

/-- Writing one entry keeps what holds of each. -/
theorem forall_setEntry {holds : String → ReceiptEntry → Prop}
    (others : ∀ receiptId stored, receiptId ≠ entry.receiptId →
      ledger.entries.get? receiptId = some stored → holds receiptId stored)
    (own : holds entry.receiptId entry) (receiptId : String) (stored : ReceiptEntry)
    (found : (ledger.setEntry entry).entries.get? receiptId = some stored) :
    holds receiptId stored := by
  rw [get?_setEntry] at found
  split_ifs at found with same
  · obtain rfl := Option.some.inj found
    exact same ▸ own
  · exact others receiptId stored same found

theorem Current.setEntry (current : ledger.Current time) (fresh : entry.Current time) :
    (ledger.setEntry entry).Current time :=
  forall_setEntry (fun receiptId stored _ => current receiptId stored) fresh

theorem Current.rested (current : ledger.Current time) (known : ledger.lastNow = some time) :
    ledger.Rested := by
  rw [Rested, known]
  exact current

/-- What a ledger keeps of its entries, whichever identifiers `reserve` draws. -/
structure Orderly (ledger : ReceiptLedger) : Prop where
  keyed : ledger.Keyed
  formed : ledger.AllFormed
  numbered : ∀ receiptId entry, ledger.entries.get? receiptId = some entry →
    entry.serial < ledger.issued
  rested : ledger.Rested

theorem Orderly.start (generation : String) : Orderly (start generation) where
  keyed _ _ found := by cases found
  formed _ _ found := by cases found
  numbered _ _ found := by cases found
  rested _ _ found := by cases found

theorem Orderly.age (orderly : ledger.Orderly) (time : ℚ) : (ledger.age time).Orderly where
  keyed := orderly.keyed.age time
  formed := orderly.formed.age time
  numbered receiptId entry found := by
    obtain ⟨older, stored, rfl, -⟩ := of_get?_age found
    have same := congrArg ReceiptEntry.serial (older.origin_sweep time)
    exact same.trans_lt (orderly.numbered receiptId older stored)
  rested := rested_age

theorem Orderly.hold (orderly : ledger.Orderly) (code : LedgerHeldCode) :
    (ledger.hold code).Orderly :=
  ⟨orderly.keyed, orderly.formed, orderly.numbered, orderly.rested⟩

/-- An aged ledger in which one entry has moved on. -/
theorem Orderly.changed (orderly : ledger.Orderly) (current : ledger.Current time)
    (known : ledger.lastNow = some time) (stored : ledger.entries.get? entry.receiptId = some entry)
    (follows : ReceiptEntry.Follows entry after) (formed : after.Formed)
    (fresh : after.Current time) : (ledger.setEntry after).Orderly where
  keyed := forall_setEntry (fun receiptId stored _ => orderly.keyed receiptId stored) rfl
  formed := forall_setEntry (fun receiptId stored _ => orderly.formed receiptId stored) formed
  numbered := forall_setEntry (fun receiptId stored _ => orderly.numbered receiptId stored)
    (follows.sameSerial.trans_lt (orderly.numbered _ _ stored))
  rested := (current.setEntry fresh).rested known

theorem Orderly.added (orderly : ledger.Orderly) (current : ledger.Current time)
    (known : ledger.lastNow = some time) (reserves : LedgerReserves time ledger call entry) :
    (ledger.addEntry entry).Orderly := by
  have active : entry.state ≠ .finalized := by simp [reserves.initial.1]
  have formed : entry.Formed :=
    ⟨fun _ => ⟨reserves.initial.2.1, reserves.initial.2.2.1⟩, fun final => absurd final active⟩
  have fresh : (ledger.addEntry entry).Current time :=
    current.setEntry (ReceiptEntry.Current.of_active active reserves.inTime)
  refine
    { keyed := forall_setEntry (fun receiptId stored _ => orderly.keyed receiptId stored) rfl
      formed := forall_setEntry (fun receiptId stored _ => orderly.formed receiptId stored) formed
      numbered := forall_setEntry (fun receiptId stored _ found => ?_) ?_
      rested := fresh.rested known }
  · exact (orderly.numbered receiptId stored found).trans (Nat.lt_succ_self _)
  · rw [reserves.serial]
    exact Nat.lt_succ_self _

theorem Orderly.change (orderly : ledger.Orderly) (current : ledger.Current time)
    (known : ledger.lastNow = some time) (change : Change time ledger call result next) :
    next.Orderly := by
  cases change with
  | nothing => exact orderly
  | added reserves answered => exact orderly.added current known reserves
  | advanced stored _ follows formed fresh | delivered stored _ follows formed fresh =>
      exact orderly.changed current known stored follows formed fresh

theorem Orderly.step (orderly : ledger.Orderly) (step : ReceiptStep ledger turn next) :
    next.Orderly := by
  cases step with
  | unread => exact orderly
  | held held reads quiet => exact orderly
  | faulted free reads fault quiet => exact orderly.hold _
  | @accepted call reading time _ result accepts reads acts =>
      have aged := orderly.age time
      exact aged.change current_age rfl (aged.keyed.change aged.formed current_age acts)

end ReceiptLedger

end ManyAlerts
