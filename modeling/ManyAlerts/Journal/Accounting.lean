import ManyAlerts.Journal.Live
import ManyAlerts.Journal.Pending

/-!
# Capacity accounting

Bytes, admissions, pending entries and refusals of a projection are exactly
those of the records behind it, and each stays within its bound.
-/

namespace ManyAlerts

variable {p : Projection} {record : Record} {records : List Record} {delta : Delta}
  {groups : List (List Record)} {head : Head} {bounds : JournalBounds}

/-- The arrival of an admission pair. -/
def pairArrival : List Record → Option Nat
  | [admission, dedupe] =>
      match admission.payload, dedupe.payload with
      | .admission data, .dedupeDecision _ => some data.arrivalSeq
      | _, _ => none
  | _ => none

def Record.refusal? (record : Record) : Option IngressRefusalData :=
  match record.payload with
  | .ingressRefusal data => some data
  | _ => none

/-! ## Bytes -/

theorem CommitStep.within_total (step : CommitStep p records delta) (live : Live p head bounds) :
    delta.logicalBytes ≤ bounds.totalBytes := by
  have ordinary := live.bounds_ok.ordered
  cases step with
  | genesis payload position headless anonymous =>
      rw [live.head_eq] at headless
      cases headless
  | restart payload position fresh previous headEq recovered boundsEq fits =>
      obtain rfl := Option.some.inj (live.bounds_eq.symm.trans boundsEq)
      exact fits
  | current position boot clock claim =>
      obtain ⟨_, region, boundsEq, fits⟩ := claim.fits
      obtain rfl := Option.some.inj (live.bounds_eq.symm.trans boundsEq)
      rw [claim.basic.logicalBytes]
      cases region with
      | ordinary => exact le_trans fits ordinary
      | total => exact fits
  | admission position dedupePosition stamp boot clock pair =>
      obtain rfl := Option.some.inj (live.bounds_eq.symm.trans pair.bounds_eq)
      exact le_trans pair.fits ordinary

/-- Admissions and refusals draw on the ordinary region. -/
theorem CommitStep.within_ordinary (step : CommitStep p records delta)
    (live : Live p head bounds)
    (draws : (pairArrival records).isSome ∨ ∃ record ∈ records, record.refusal?.isSome) :
    delta.logicalBytes ≤ bounds.ordinaryBytes := by
  cases step with
  | genesis payload position headless anonymous =>
      rw [live.head_eq] at headless
      cases headless
  | restart payload position fresh previous headEq recovered boundsEq fits =>
      simp [pairArrival, Record.refusal?, payload] at draws
  | current position boot clock claim =>
      cases claim with
      | ingressRefusal payload sequence room unreservedRoom keyed fresh boundsEq fits =>
          obtain rfl := Option.some.inj (live.bounds_eq.symm.trans boundsEq)
          exact fits
      | _ => simp_all [pairArrival, Record.refusal?]
  | admission position dedupePosition stamp boot clock pair =>
      obtain rfl := Option.some.inj (live.bounds_eq.symm.trans pair.bounds_eq)
      exact pair.fits

/-! ## Refusals -/

/-- A step records no refusal, or one new refusal within the limits. -/
theorem CommitStep.refusal (step : CommitStep p records delta) :
    (records.filterMap Record.refusal? = [] ∧ delta.refusalKeyAdd = none) ∨
      ∃ data, records.filterMap Record.refusal? = [data] ∧
        delta.refusalKeyAdd = some data.refusalKey ∧
        delta.refusalUnreserved = data.summary.unreserved ∧
        data.refusalKey ∉ p.refusalKeys ∧ p.refusalCount + 1 ≤ maxRefusalRecords ∧
        (data.summary.unreserved = true →
          p.refusalUnreservedCount + 1 ≤ maxRefusalRecords - refusalResolvedReserve) := by
  cases step with
  | genesis payload | restart payload =>
      exact .inl ⟨by simp [Record.refusal?, payload], rfl⟩
  | current position boot clock claim =>
      cases claim with
      | ingressRefusal payload sequence room unreservedRoom keyed fresh boundsEq fits =>
          exact .inr ⟨_, by simp [Record.refusal?, payload], rfl, rfl, fresh, room,
            unreservedRoom⟩
      | _ => exact .inl ⟨by simp_all [Record.refusal?], rfl⟩
  | admission position dedupePosition stamp boot clock pair =>
      exact .inl ⟨by simp [Record.refusal?, pair.admission_payload, pair.dedupe_payload], rfl⟩

/-! ## Admissions -/

/-- A step admits nothing, or one source as the next arrival within the bounds. -/
theorem CommitStep.arrival (step : CommitStep p records delta) (hasHead : p.head.isSome) :
    (pairArrival records = none ∧ delta.admissionCount = p.admissionCount ∧
        delta.lastArrivalSeq = p.lastArrivalSeq ∧ delta.pendingUpdates = []) ∨
      ∃ bounds, p.bounds = some bounds ∧ pairArrival records = some (p.lastArrivalSeq + 1) ∧
        delta.admissionCount = p.admissionCount + 1 ∧
        delta.lastArrivalSeq = p.lastArrivalSeq + 1 ∧
        delta.admissionCount ≤ bounds.maxAdmissions ∧
        ((p.pending.setAll delta.pendingUpdates).size = p.pending.size ∨
          (p.pending.setAll delta.pendingUpdates).size ≤ bounds.maxPendingFingerprints) := by
  cases step with
  | genesis payload position headless anonymous => simp [headless] at hasHead
  | restart payload position fresh previous headEq recovered boundsEq fits =>
      exact .inl ⟨rfl, rfl, rfl, rfl⟩
  | current position boot clock claim =>
      exact .inl ⟨rfl, claim.quiet.admissionCount, claim.quiet.lastArrivalSeq,
        claim.quiet.pendingUpdates⟩
  | admission position dedupePosition stamp boot clock pair =>
      rename_i admission dedupe a d source key bounds
      have nodup : (source.alerts.map SourceAlert.fingerprint).Nodup :=
        (sourceFromJson_ok pair.parsed).1.sorted.imp fun below => below.ne
      refine .inr ⟨bounds, pair.bounds_eq, ?_, rfl, rfl, pair.room, ?_⟩
      · simp [pairArrival, pair.admission_payload, pair.dedupe_payload, pair.arrival]
      · rw [admissionDelta, size_pending_after nodup, pendingCountAfter]
        split_ifs with suppressed
        · exact .inl rfl
        · exact .inr (pair.pendingRoom suppressed)

/-! ## Whole histories -/

/-- The books of a projection against the commits behind it. -/
structure Accounts (groups : List (List Record)) (p : Projection) : Prop where
  bytes : p.logicalBytes = (groups.flatten.map Record.charge).sum
  arrivals : groups.filterMap pairArrival = List.range' 1 p.admissionCount
  lastArrival : p.lastArrivalSeq = p.admissionCount
  admissions : ∀ bounds ∈ p.bounds, p.admissionCount ≤ bounds.maxAdmissions
  pending : ∀ bounds ∈ p.bounds, p.pending.size ≤ bounds.maxPendingFingerprints
  refusals : p.refusalCount = (groups.flatten.filterMap Record.refusal?).length
  refusalKeys : p.refusalKeys =
    ((groups.flatten.filterMap Record.refusal?).map IngressRefusalData.refusalKey).toFinset
  distinct :
    ((groups.flatten.filterMap Record.refusal?).map IngressRefusalData.refusalKey).Nodup
  limit : p.refusalCount ≤ maxRefusalRecords
  unreserved : p.refusalUnreservedCount =
    ((groups.flatten.filterMap Record.refusal?).filter fun data =>
      data.summary.unreserved).length
  unreservedLimit : p.refusalUnreservedCount ≤ maxRefusalRecords - refusalResolvedReserve

theorem accounts_new : Accounts [] newProjection where
  bytes := rfl
  arrivals := rfl
  lastArrival := rfl
  admissions := by simp [newProjection]
  pending := by simp [newProjection]
  refusals := rfl
  refusalKeys := rfl
  distinct := List.nodup_nil
  limit := Nat.zero_le _
  unreserved := rfl
  unreservedLimit := Nat.zero_le _

theorem accounts_genesis {data : GenesisData} (payload : record.payload = .journalGenesis data) :
    Accounts [[record]] (applyDelta newProjection (genesisDelta record data)) where
  bytes := by simp [applyDelta, genesisDelta]
  arrivals := rfl
  lastArrival := rfl
  admissions := by simp [applyDelta, genesisDelta]
  pending := by simp [applyDelta, genesisDelta, newProjection]
  refusals := by simp [applyDelta, genesisDelta, newProjection, Record.refusal?, payload]
  refusalKeys := by simp [applyDelta, genesisDelta, newProjection, Record.refusal?, payload]
  distinct := by simp [Record.refusal?, payload]
  limit := Nat.zero_le _
  unreserved := by simp [applyDelta, genesisDelta, newProjection, Record.refusal?, payload]
  unreservedLimit := Nat.zero_le _

theorem Accounts.step (accounts : Accounts groups p) (live : Live p head bounds)
    (step : CommitStep p records delta) :
    Accounts (groups ++ [records]) (applyDelta p delta) := by
  have hasHead : p.head.isSome := by simp [live.head_eq]
  have advances := step.advances hasHead
  have sameBounds : (applyDelta p delta).bounds = p.bounds := by
    simp [applyDelta, advances.bounds]
  have flat : (groups ++ [records]).flatten = groups.flatten ++ records := by simp
  -- The two ledgers move independently: arrivals first, refusals below.
  have arrivals : (groups ++ [records]).filterMap pairArrival =
        List.range' 1 (applyDelta p delta).admissionCount ∧
      (applyDelta p delta).lastArrivalSeq = (applyDelta p delta).admissionCount ∧
      (∀ bounds ∈ p.bounds, (applyDelta p delta).admissionCount ≤ bounds.maxAdmissions) ∧
      ∀ bounds ∈ p.bounds, (applyDelta p delta).pending.size ≤ bounds.maxPendingFingerprints := by
    rw [List.filterMap_append, accounts.arrivals]
    rcases step.arrival hasHead with ⟨none, count, last, updates⟩ |
      ⟨bounds, boundsEq, some, count, last, room, pendingRoom⟩
    · simp only [applyDelta, count, last, updates, Dict.setAll_nil]
      exact ⟨by simp [none], accounts.lastArrival, accounts.admissions, accounts.pending⟩
    · have pendingBound := accounts.pending bounds boundsEq
      simp only [applyDelta, boundsEq, count, last, accounts.lastArrival, Option.mem_def,
        Option.some.injEq, forall_eq']
      refine ⟨?_, trivial, count ▸ room, ?_⟩
      · rw [List.range'_concat]
        simp [some, accounts.lastArrival, Nat.add_comm]
      · rcases pendingRoom with same | fits
        · rw [same]
          exact pendingBound
        · exact fits
  obtain ⟨arrivals, lastArrival, admissions, pending⟩ := arrivals
  have bytes : (applyDelta p delta).logicalBytes =
      ((groups ++ [records]).flatten.map Record.charge).sum := by
    rw [flat, List.map_append, List.sum_append, ← accounts.bytes]
    exact advances.logicalBytes
  rcases step.refusal with ⟨none, noKey⟩ |
    ⟨data, one, key, unreserved, fresh, room, unreservedRoom⟩
  · refine ⟨bytes, arrivals, lastArrival, sameBounds ▸ admissions, sameBounds ▸ pending, ?_, ?_,
      ?_, ?_, ?_, ?_⟩ <;>
      simp only [flat, List.filterMap_append, none, List.append_nil, applyDelta, noKey]
    · exact accounts.refusals
    · simpa using accounts.refusalKeys
    · exact accounts.distinct
    · exact accounts.limit
    · exact accounts.unreserved
    · exact accounts.unreservedLimit
  · refine ⟨bytes, arrivals, lastArrival, sameBounds ▸ admissions, sameBounds ▸ pending, ?_, ?_,
      ?_, ?_, ?_, ?_⟩ <;>
      simp only [flat, List.filterMap_append, one, applyDelta, key, unreserved]
    · simp [accounts.refusals]
    · simp [accounts.refusalKeys]
    · rw [accounts.refusalKeys, List.mem_toFinset] at fresh
      rw [List.map_append, List.map_cons, List.map_nil, List.nodup_append]
      refine ⟨accounts.distinct, by simp, fun earlier found later member => ?_⟩
      rw [List.mem_singleton.mp member]
      exact fun same => fresh (same ▸ found)
    · simpa using room
    · cases reserve : data.summary.unreserved <;>
        simp [reserve, accounts.unreserved, List.filter_append]
    · cases reserve : data.summary.unreserved with
      | true => simpa using unreservedRoom reserve
      | false => simpa using accounts.unreservedLimit

theorem accounts_of_commits {p : Projection} (commits : Commits newProjection groups p) :
    Accounts groups p := by
  rcases reachable_live (reachable_iff.mpr ⟨groups, commits⟩) with rfl | ⟨head, bounds, live⟩
  · obtain rfl := commits.nil_of_new
    exact accounts_new
  · exact Commits.live_history Accounts (fun record data payload _ => accounts_genesis payload)
      (fun done p records delta head bounds live accounts step => accounts.step live step)
      commits (by simp [live.head_eq])

end ManyAlerts
