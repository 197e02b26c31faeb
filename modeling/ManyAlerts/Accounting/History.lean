import ManyAlerts.Accounting.Replay
import ManyAlerts.Journal.Guards
import ManyAlerts.Library.HashChain

/-!
# The head of the ledger

The events of a ledger form a hash chain, so a head digest pins down the ledger up to it,
whatever weeks its reservations were checked against.
-/

namespace ManyAlerts

variable {weekOf otherWeekOf : CivilTime → Week} {events front back : List AccountingEvent}
  {ledger other : Ledger}

theorem AccountingEvent.written (event : AccountingEvent) :
    canonicalJson true event.fields.json = .ok event.raw := by
  have encoded := event.isEncoded
  simp only [eventBody, bind_eq_ok, exists_unit, mapError_eq_ok, requireThat_eq_ok,
    pure_eq_ok] at encoded
  obtain ⟨-, _, written, -, rfl⟩ := encoded
  exact written

def ledgerChain : HashChain AccountingEvent where
  tag := ascii eventTag
  body := AccountingEvent.raw
  place event := event.fields.sequence
  previous event := event.fields.previousDigest
  zero := zeroDigest
  readsBack one other same := by
    have texts := sortKeys_eq_of_canonicalJson (same ▸ one.written) other.written
    unfold EventFields.json at texts
    have fields := Json.sortKeys_obj_injective texts rfl
    simp only [List.map_cons, Json.sortKeys_str, Json.nat_sortKeys, List.cons.injEq,
      Json.str.injEq, Json.nat_inj] at fields
    obtain ⟨-, -, -, -, sequence, previousDigest, -⟩ := fields
    exact ⟨sequence, previousDigest⟩

namespace Replayed

theorem head_eq (replayed : Replayed weekOf events ledger) :
    ledgerChain.head events = ledger.headDigest := by
  rw [← replayed.reads.own]
  rfl

theorem linked (replayed : Replayed weekOf events ledger) : ledgerChain.Linked events := by
  induction replayed with
  | start opened =>
      unfold openLedger at opened
      split at opened
      · simp only [bind_eq_ok, requireThat_eq_ok] at opened
        obtain ⟨_, ⟨sequence, previousDigest⟩, -⟩ := opened
        exact .snoc .nil sequence previousDigest
      · cases opened
  | step replayed step induction =>
      apply induction.snoc
      · rw [← replayed.reads.own]
        exact step.sequence
      · rw [replayed.head_eq]
        exact step.chained

end Replayed

/-- The head digest commits to every event: another ledger that has it anywhere begins with
the same events. -/
theorem ledger_head_commits (headAccepted : replayAccounting weekOf events = .ok ledger)
    (accepted : replayAccounting otherWeekOf (front ++ back) = .ok other)
    (apart : HashesApart ((events ++ front).map ledgerChain.text))
    (same : some ledger.headDigest = front.getLast?.map AccountingEvent.digest) :
    events.map AccountingEvent.raw = front.map AccountingEvent.raw := by
  have replayed := replayed_of_replay headAccepted
  apply replayed.linked.bodies_eq (replayed_of_replay accepted).linked.of_append apart
  · have starts : events ≠ [] := by cases replayed <;> simp
    have otherStarts : front ≠ [] := by
      rintro rfl
      cases same
    simp only [starts, otherStarts]
  · rw [replayed.head_eq]
    exact congrArg (·.getD zeroDigest) same

/-- Each event is written with the digest that the next one names. -/
theorem sampleEvents_digests : sampleEvents.map AccountingEvent.digest =
    (sampleData.map Prod.fst).tail ++
      ["83e3e075dff710012db2ca9c40afc5f27f781b33c6cb4b4f5507a93bb08e7412"] := by
  decide +kernel

/-- The head of the first five events of the sample pins them down in the ledger of all six. -/
theorem ledger_head_commits_sample : ∃ ledger other,
    replayAccounting (weekFor springClock) (sampleEvents.take 5) = .ok ledger ∧
      replayAccounting (weekFor springClock) (sampleEvents.take 5 ++ sampleEvents.drop 5) =
        .ok other ∧
      (sampleEvents.take 5).length = 5 ∧ (sampleEvents.drop 5).length = 1 ∧
      (sampleEvents.take 5).map AccountingEvent.raw =
        (sampleEvents.take 5).map AccountingEvent.raw := by
  obtain ⟨ledger, reserving⟩ :=
    exists_reservingHistory (weekFor springClock) (sampleEvents.take 5) (by decide +kernel)
  obtain ⟨other, accepted, -⟩ := sampleEvents_reserve
  rw [← List.take_append_drop 5 sampleEvents] at accepted
  have counted : sampleEvents.length = 6 := by
    simpa [sampleData] using congrArg List.length sampleEvents_digests
  have distinct : (sampleEvents.map AccountingEvent.digest).Nodup := by
    rw [sampleEvents_digests]
    decide +kernel
  have apart : HashesApart ((sampleEvents.take 5 ++ sampleEvents.take 5).map ledgerChain.text) := by
    have all : HashesApart (sampleEvents.map ledgerChain.text) := by
      apply hashesApart_of_hex
      rw [List.map_map]
      exact distinct
    refine all.mono fun text member => ?_
    simp only [List.map_append, List.mem_append, or_self] at member
    exact List.map_subset _ (List.take_subset 5 sampleEvents) member
  have same :
      some ledger.headDigest = (sampleEvents.take 5).getLast?.map AccountingEvent.digest := by
    rw [← (replayed_of_replay reserving.accepted).head_eq, HashChain.head]
    cases found : (sampleEvents.take 5).getLast? with
    | none =>
        have empty : sampleEvents = [] := by simpa using found
        rw [empty] at counted
        cases counted
    | some last => rfl
  exact ⟨ledger, other, reserving.accepted, accepted, by simp [counted], by simp [counted],
    ledger_head_commits reserving.accepted accepted apart same⟩

end ManyAlerts
