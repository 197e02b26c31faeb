import ManyAlerts.Journal.Fence
import ManyAlerts.Journal.Latest
import ManyAlerts.Journal.Sealing

/-!
# Sound projections

What a planner reads from a projection is well formed in every reachable one:
identifiers match their patterns, counters stay far below the integer cap
because every record costs at least its overhead, and only the four dispatch
holds occur.
-/

namespace ManyAlerts

variable {p : Projection} {record : Record} {records : List Record} {delta : Delta}
  {groups : List (List Record)} {head : Head} {bounds : JournalBounds}

structure PendingOk (lastArrivalSeq : Nat) (fingerprint : String) (entry : PendingEntry) :
    Prop where
  fingerprint_eq : entry.fingerprint = fingerprint
  fingerprint : isFingerprint entry.fingerprint = true
  admissionId : isId entry.admissionId = true
  arrival : entry.arrivalSeq ≤ lastArrivalSeq
  sourceGroup : isHex64 entry.sourceGroup = true
  values : Within true 2 (.optional valuesJson entry.values)

structure BaselineOk (group : String) (baseline : Baseline) : Prop where
  sourceGroup : isHex64 group = true
  admissionId : isId baseline.admissionId = true
  dedupeKey : isHex64 baseline.dedupeKey = true

/-- The data of a live projection, as planners and digests read it. -/
structure Sound (p : Projection) (head : Head) (bounds : JournalBounds) : Prop where
  digest : isHex64 head.recordDigest = true
  charged : head.eventSeq * recordOverheadBytes ≤ p.logicalBytes
  /-- Only genesis is not measured against the bounds. -/
  within : p.logicalBytes ≤ maxRecordBytes + recordOverheadBytes ∨
    p.logicalBytes ≤ bounds.totalBytes
  pending : ∀ fingerprint entry, p.pending.get? fingerprint = some entry →
    PendingOk p.lastArrivalSeq fingerprint entry
  baselines : ∀ group baseline, p.baselines.get? group = some baseline →
    BaselineOk group baseline
  holds : ∀ code since, p.dispatchHolds.get? code = some since →
    code ∈ dispatchHoldCodes ∧ since ≤ head.commitSeq

/-! ## One commit -/

theorem isHex64_recordDigest (record : Record) : isHex64 record.recordDigest = true :=
  isHex64_sha256Hex _

theorem Record.overhead_le_charge (record : Record) : recordOverheadBytes ≤ record.charge :=
  Nat.le_add_left _ _

theorem overhead_le_charges (records : List Record) :
    records.length * recordOverheadBytes ≤ (records.map Record.charge).sum := by
  have bound := List.card_nsmul_le_sum (records.map Record.charge) recordOverheadBytes
    fun charge member => by
      obtain ⟨record, -, rfl⟩ := List.mem_map.mp member
      exact record.overhead_le_charge
  simpa using bound

theorem CommitStep.digest (step : CommitStep p records delta) :
    isHex64 delta.head.recordDigest = true := by
  cases step with
  | genesis payload position headless anonymous => exact isHex64_recordDigest _
  | restart payload position fresh previous headEq recovered boundsEq fits =>
      exact isHex64_recordDigest _
  | current position boot clock claim =>
      rw [claim.basic.head]
      exact isHex64_recordDigest _
  | admission position dedupePosition stamp boot clock pair => exact isHex64_recordDigest _

theorem CommitStep.lastArrivalSeq_le (step : CommitStep p records delta)
    (hasHead : p.head.isSome) : p.lastArrivalSeq ≤ delta.lastArrivalSeq := by
  rcases step.arrival hasHead with ⟨-, -, same, -⟩ | ⟨_, -, -, -, next, -⟩
  · exact same.ge
  · omega

theorem CommitStep.pendingOk (step : CommitStep p records delta) (hasHead : p.head.isSome)
    (ok : ∀ fingerprint entry, p.pending.get? fingerprint = some entry →
      PendingOk p.lastArrivalSeq fingerprint entry) :
    ∀ fingerprint entry, (applyDelta p delta).pending.get? fingerprint = some entry →
      PendingOk (applyDelta p delta).lastArrivalSeq fingerprint entry := by
  intro fingerprint entry found
  have kept (before : p.pending.get? fingerprint = some entry) :
      PendingOk (applyDelta p delta).lastArrivalSeq fingerprint entry := by
    have entryOk := ok fingerprint entry before
    exact { entryOk with arrival := entryOk.arrival.trans (step.lastArrivalSeq_le hasHead) }
  rcases step.admitted with ⟨-, same, -⟩ |
    ⟨source, admissionId, key, -, sourceOk, -, validId, pending, -⟩
  · exact kept (same ▸ found)
  · rw [pending] at found
    by_cases written : fingerprint ∈ (decideWith p source admissionId key).writes source
    · obtain ⟨alert, member, rfl⟩ := writes_decideWith_mentioned fingerprint written
      rw [pending_written sourceOk member written, Option.some.injEq] at found
      subst found
      exact ⟨rfl, (sourceOk.alerts alert member).fingerprint, validId, le_rfl,
        sourceOk.sourceGroup, sourceOk.values_within member (by decide)⟩
    · rw [pending_kept sourceOk written] at found
      exact kept found

theorem isHex64_dedupeKey {source : SourceRecord} {key : String}
    (keyed : dedupeKey source = .ok key) : isHex64 key = true := by
  obtain ⟨-, rfl⟩ := (taggedDigest_eq_ok (by decide)).mp (liftJson_eq_ok.mp keyed)
  exact isHex64_sha256Hex _

theorem baselineAfter_ok {source : SourceRecord} {admissionId key : String}
    (ok : ∀ group baseline, p.baselines.get? group = some baseline → BaselineOk group baseline)
    (sourceOk : SourceOk source) (keyed : dedupeKey source = .ok key)
    (validId : isId admissionId = true) :
    BaselineOk source.sourceGroup (decideWith p source admissionId key).baselineAfter := by
  by_cases suppressed : (decideWith p source admissionId key).result = .suppressed
  · obtain ⟨baseline, found, -, decision⟩ := decideWith_suppressed suppressed
    rw [decision]
    exact ok _ baseline found
  · rw [(decideWith_not_suppressed suppressed).1]
    exact ⟨sourceOk.sourceGroup, validId, isHex64_dedupeKey keyed⟩

theorem CommitStep.baselineOk (step : CommitStep p records delta)
    (ok : ∀ group baseline, p.baselines.get? group = some baseline → BaselineOk group baseline) :
    ∀ group baseline, (applyDelta p delta).baselines.get? group = some baseline →
      BaselineOk group baseline := by
  intro group baseline found
  rcases step.admitted with ⟨-, -, same⟩ |
    ⟨source, admissionId, key, -, sourceOk, keyed, validId, -, baselines⟩
  · exact ok group baseline (same ▸ found)
  · rw [baselines, Dict.get?_set] at found
    split_ifs at found with same
    · obtain rfl := same
      rw [← Option.some.inj found]
      exact baselineAfter_ok ok sourceOk keyed validId
    · exact ok group baseline found

theorem get?_dispatchHoldsAfter {holds : Dict HoldCode Nat} {code : HoldCode} {since : Nat}
    (found : (dispatchHoldsAfter holds delta).get? code = some since) :
    holds.get? code = some since ∨ delta.dispatchHoldAdd = some (code, since) := by
  unfold dispatchHoldsAfter at found
  extract_lets held at found
  have added : held.get? code = some since := by
    split at found
    · exact found
    · rw [Dict.get?_erase] at found
      split_ifs at found
      exact found
  unfold held at added
  split at added
  · exact .inl added
  · rename_i new commitSeq add
    split_ifs at added
    · exact .inl added
    · rw [Dict.get?_set] at added
      split_ifs at added with same
      · exact .inr (by rw [add, same, Option.some.inj added])
      · exact .inl added

theorem capacityHold_code {data : CapacityHoldData}
    (payload : record.payload = .capacityHold data) : data.code ∈ capacityCodes := by
  have valid := (validateEnvelope_eq_ok.mp record.validated).2.2.2.2.2.2.2.2.2.2.2
  rw [payload] at valid
  simp only [validatePayload, validateCapacityHold, bind_eq_ok, failIf_eq_ok, exists_unit,
    not_not] at valid
  exact valid.1

theorem CommitStep.holdAdd (step : CommitStep p records delta) {code : HoldCode} {since : Nat}
    (adds : delta.dispatchHoldAdd = some (code, since)) :
    code ∈ dispatchHoldCodes ∧ since = delta.head.commitSeq := by
  cases step with
  | genesis payload position headless anonymous => cases adds
  | restart payload position fresh previous headEq recovered boundsEq fits =>
      cases adds
      exact ⟨by decide, rfl⟩
  | current position boot clock claim =>
      cases claim with
      | capacityHold payload free boundsEq limit observed exhausted fits =>
          cases adds
          exact ⟨List.mem_append_left _ (List.mem_map_of_mem (capacityHold_code payload)), rfl⟩
      | _ => cases adds
  | admission position dedupePosition stamp boot clock pair => cases adds

/-! ## Whole histories -/

theorem sound_genesis {data : GenesisData}
    (position : record.position = nextPosition newProjection) :
    Sound (applyDelta newProjection (genesisDelta record data)) (genesisDelta record data).head
      data.bounds where
  digest := isHex64_recordDigest record
  charged := by
    have single : (genesisDelta record data).head.eventSeq = 1 := by
      simp [genesisDelta, position, nextPosition, newProjection]
    rw [single, Nat.one_mul]
    exact record.overhead_le_charge
  within := .inl record.charge_le
  pending _ _ found := by cases found
  baselines _ _ found := by cases found
  holds _ _ found := by cases found

theorem Sound.step (sound : Sound p head bounds) (live : Live p head bounds)
    (step : CommitStep p records delta) : Sound (applyDelta p delta) delta.head bounds := by
  have hasHead : p.head.isSome := by simp [live.head_eq]
  have advances := step.advances hasHead
  have commitSeq : delta.head.commitSeq = head.commitSeq + 1 := by
    rw [advances.commitSeq, live.commitCount]
  exact {
    digest := step.digest
    charged := by
      have earlier := sound.charged
      have later := overhead_le_charges records
      rw [advances.eventSeq, live.eventCount, Nat.add_mul]
      exact (Nat.add_le_add earlier later).trans advances.logicalBytes.ge
    within := .inr (step.within_total live)
    pending := step.pendingOk hasHead sound.pending
    baselines := step.baselineOk sound.baselines
    holds := by
      intro code since found
      rcases get?_dispatchHoldsAfter found with before | added
      · obtain ⟨known, early⟩ := sound.holds code since before
        exact ⟨known, by omega⟩
      · obtain ⟨known, now⟩ := step.holdAdd added
        exact ⟨known, now.le⟩ }

theorem reachable_sound (reachable : Reachable p) (live : Live p head bounds) :
    Sound p head bounds := by
  obtain ⟨groups, commits⟩ := reachable_iff.mp reachable
  have history : ∃ head bounds, Live p head bounds ∧ Sound p head bounds := by
    refine Commits.live_history (fun _ p => ∃ head bounds, Live p head bounds ∧ Sound p head bounds)
      (fun record data payload position => ⟨_, _, live_genesis payload position,
        sound_genesis position⟩)
      (fun done p records delta _ _ _ ⟨head, bounds, live, sound⟩ step =>
        ⟨_, _, live.step step, sound.step live step⟩)
      commits (by simp [live.head_eq])
  obtain ⟨head', bounds', live', sound⟩ := history
  obtain rfl : head' = head := Option.some.inj (live'.head_eq.symm.trans live.head_eq)
  obtain rfl : bounds' = bounds := Option.some.inj (live'.bounds_eq.symm.trans live.bounds_eq)
  exact sound

/-- No sequence number of a journal comes near the integer cap. -/
theorem Sound.eventSeq_lt (sound : Sound p head bounds) (live : Live p head bounds) :
    p.logicalBytes ≤ boundCeilings.totalBytes ∧ head.eventSeq < 2 ^ 20 := by
  have ceiling := live.bounds_ok.total.2
  have small : maxRecordBytes + recordOverheadBytes ≤ boundCeilings.totalBytes := by decide
  have bytes : p.logicalBytes ≤ boundCeilings.totalBytes := by
    rcases sound.within with genesis | measured <;> omega
  have charged := sound.charged
  have room : boundCeilings.totalBytes < 2 ^ 20 * recordOverheadBytes := by decide
  refine ⟨bytes, lt_of_mul_lt_mul_right ?_ (Nat.zero_le recordOverheadBytes)⟩
  omega

end ManyAlerts
