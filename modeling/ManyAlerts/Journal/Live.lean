import ManyAlerts.Journal.Accept

/-!
# Runs of commits

Reachable projections are those a list of commit steps leads to.  A projection
with no head is the empty one, so every other reachable projection is live: it
has bounds, a boot and generation 1.
-/

namespace ManyAlerts

variable {p q : Projection} {record : Record} {records : List Record} {delta : Delta}
  {groups : List (List Record)}

/-! ## Grouping -/

theorem groupCommits_single {rest : List Record} (index : record.position.commitIndex = 0)
    (size : record.position.commitSize = 1) :
    groupCommits [] (record :: rest) =
      ([record] :: (groupCommits [] rest).1, (groupCommits [] rest).2) := by
  simp [groupCommits, index, size]

/-- An accepted commit is one whole group. -/
theorem CommitStep.groupCommits (step : CommitStep p records delta) (rest : List Record) :
    groupCommits [] (records ++ rest) =
      (records :: (groupCommits [] rest).1, (groupCommits [] rest).2) := by
  cases step with
  | genesis _ position | restart _ position | current position =>
      exact groupCommits_single (by rw [position]; rfl) (by rw [position]; rfl)
  | admission position dedupePosition stamp boot clock pair =>
      simp [ManyAlerts.groupCommits, position, dedupePosition, nextPosition]

theorem Commits.groupCommits (commits : Commits p groups q) :
    groupCommits [] groups.flatten = (groups, none) := by
  induction groups generalizing p with
  | nil => rfl
  | cons group groups induction =>
      obtain ⟨delta, accepted, rest⟩ := commits_cons.mp commits
      rw [List.flatten_cons, (verifyCommit_iff.mp accepted).groupCommits, induction rest]

theorem replay_flatten (commits : Commits newProjection groups q) :
    replay groups.flatten = .ok q :=
  replay_eq_ok.mpr ⟨groups, commits.groupCommits, commits⟩

theorem reachable_iff : Reachable p ↔ ∃ groups, Commits newProjection groups p := by
  constructor
  · rintro ⟨records, replayed⟩
    obtain ⟨groups, -, commits⟩ := replay_eq_ok.mp replayed
    exact ⟨groups, commits⟩
  · rintro ⟨groups, commits⟩
    exact ⟨groups.flatten, replay_flatten commits⟩

theorem reachable_new : Reachable newProjection := ⟨[], rfl⟩

theorem Reachable.commits (reachable : Reachable p) (commits : Commits p groups q) :
    Reachable q := by
  obtain ⟨before, run⟩ := reachable_iff.mp reachable
  exact reachable_iff.mpr ⟨before ++ groups, commits_append.mpr ⟨p, run, commits⟩⟩

theorem Reachable.step (reachable : Reachable p) (step : CommitStep p records delta) :
    Reachable (applyDelta p delta) :=
  reachable.commits (commits_singleton.mpr ⟨delta, verifyCommit_iff.mpr step, rfl⟩)

/-- What the empty projection has and every step from a reachable projection
preserves, every reachable projection has. -/
theorem Reachable.preserves (Holds : Projection → Prop) (initial : Holds newProjection)
    (preserved : ∀ p records delta, Reachable p → Holds p → CommitStep p records delta →
      Holds (applyDelta p delta))
    (reachable : Reachable p) : Holds p := by
  obtain ⟨groups, commits⟩ := reachable_iff.mp reachable
  refine (Commits.preserves (fun p => Reachable p ∧ Holds p)
    (fun p records delta holds accepted => ?_) ⟨reachable_new, initial⟩ commits).2
  have step := verifyCommit_iff.mp accepted
  exact ⟨holds.1.step step, preserved p records delta holds.1 holds.2 step⟩

/-! ## What every step sets -/

/-- The part of a delta that does not depend on the record type. -/
structure Basic (p : Projection) (record : Record) (charge : Nat) (delta : Delta) : Prop where
  head : delta.head =
    ⟨p.generation, record.position.commitSeq, record.position.eventSeq, record.recordDigest⟩
  generation : delta.generation = p.generation
  journalUuid : delta.journalUuid = none
  bounds : delta.bounds = none
  bootId : delta.bootId = record.stamp.bootId
  lastMonoUs : delta.lastMonoUs = record.stamp.monoUs
  logicalBytes : delta.logicalBytes = p.logicalBytes + charge

/-- A claim leaves the boot and everything an admission writes. -/
structure Quiet (p : Projection) (delta : Delta) : Prop where
  newBootId : delta.newBootId = none
  admissionCount : delta.admissionCount = p.admissionCount
  lastArrivalSeq : delta.lastArrivalSeq = p.lastArrivalSeq
  baselineUpdate : delta.baselineUpdate = none
  pendingUpdates : delta.pendingUpdates = []

theorem ClaimStep.basic (claim : ClaimStep p record delta) :
    Basic p record record.charge delta := by
  cases claim <;> exact ⟨rfl, rfl, rfl, rfl, rfl, rfl, rfl⟩

theorem ClaimStep.quiet (claim : ClaimStep p record delta) : Quiet p delta := by
  cases claim <;> exact ⟨rfl, rfl, rfl, rfl, rfl⟩

/-- The commits and records so far. -/
def Projection.commitCount (p : Projection) : Nat := (p.head.map Head.commitSeq).getD 0

def Projection.eventCount (p : Projection) : Nat := (p.head.map Head.eventSeq).getD 0

/-- A step after genesis changes the basic fields like this. -/
structure Advances (p : Projection) (records : List Record) (delta : Delta) : Prop where
  commitSeq : delta.head.commitSeq = p.commitCount + 1
  eventSeq : delta.head.eventSeq = p.eventCount + records.length
  generation : delta.generation = p.generation
  journalUuid : delta.journalUuid = none
  bounds : delta.bounds = none
  logicalBytes : delta.logicalBytes = p.logicalBytes + (records.map Record.charge).sum

theorem Basic.advances (basic : Basic p record record.charge delta)
    (position : record.position = nextPosition p) : Advances p [record] delta where
  commitSeq := by rw [basic.head, position]; rfl
  eventSeq := by rw [basic.head, position]; rfl
  generation := basic.generation
  journalUuid := basic.journalUuid
  bounds := basic.bounds
  logicalBytes := by simpa using basic.logicalBytes

theorem CommitStep.advances (step : CommitStep p records delta) (live : p.head.isSome) :
    Advances p records delta := by
  cases step with
  | genesis payload position headless anonymous => simp [headless] at live
  | restart payload position fresh previous headEq recovered boundsEq fits =>
      refine Basic.advances ?_ position
      exact ⟨rfl, rfl, rfl, rfl, rfl, rfl, rfl⟩
  | current position boot clock claim => exact claim.basic.advances position
  | admission position dedupePosition stamp boot clock pair =>
      exact {
        commitSeq := by simp only [admissionDelta, claimDelta, Record.headAfter, position]; rfl
        eventSeq := by
          simp only [admissionDelta, claimDelta, Record.headAfter, dedupePosition]
          rfl
        generation := rfl
        journalUuid := rfl
        bounds := rfl
        logicalBytes := by simp [admissionDelta, claimDelta] }

/-- A step stays in the boot or opens one never seen before. -/
theorem CommitStep.boot (step : CommitStep p records delta) (live : p.head.isSome) :
    (delta.newBootId = none ∧ p.bootId = some delta.bootId) ∨
      (delta.newBootId = some delta.bootId ∧ delta.bootId ∉ p.seenBootIds) := by
  cases step with
  | genesis payload position headless anonymous => simp [headless] at live
  | restart payload position fresh previous headEq recovered boundsEq fits =>
      exact .inr ⟨rfl, fresh⟩
  | current position boot clock claim =>
      exact .inl ⟨claim.quiet.newBootId, by rw [boot, claim.basic.bootId]⟩
  | admission position dedupePosition stamp boot clock pair =>
      exact .inl ⟨rfl, by rw [boot, ← stamp]; rfl⟩

theorem CommitStep.bootId_valid (step : CommitStep p records delta) :
    isId delta.bootId = true := by
  have valid (record : Record) : isId record.stamp.bootId = true :=
    (validateEnvelope_eq_ok.mp record.validated).2.2.2.2.2.2.1
  cases step with
  | genesis payload position headless anonymous => exact valid _
  | restart payload position fresh previous headEq recovered boundsEq fits => exact valid _
  | current position boot clock claim => rw [claim.basic.bootId]; exact valid _
  | admission position dedupePosition stamp boot clock pair => exact valid _

/-! ## Live projections -/

/-- `JournalBounds` as genesis accepts them. -/
structure BoundsOk (bounds : JournalBounds) : Prop where
  admissions : 1 ≤ bounds.maxAdmissions ∧ bounds.maxAdmissions ≤ boundCeilings.maxAdmissions
  pending : 1 ≤ bounds.maxPendingFingerprints ∧
    bounds.maxPendingFingerprints ≤ boundCeilings.maxPendingFingerprints
  ordinary : 1 ≤ bounds.ordinaryBytes ∧ bounds.ordinaryBytes ≤ boundCeilings.ordinaryBytes
  total : 1 ≤ bounds.totalBytes ∧ bounds.totalBytes ≤ boundCeilings.totalBytes
  ordered : bounds.ordinaryBytes ≤ bounds.totalBytes

structure Live (p : Projection) (head : Head) (bounds : JournalBounds) : Prop where
  head_eq : p.head = some head
  bounds_eq : p.bounds = some bounds
  bounds_ok : BoundsOk bounds
  generation : p.generation = 1
  uuid : ∃ uuid, p.journalUuid = some uuid ∧ isUuid uuid = true
  boot : ∃ boot, p.bootId = some boot ∧ boot ∈ p.seenBootIds ∧ isId boot = true
  commitSeq : 1 ≤ head.commitSeq
  eventSeq : head.commitSeq ≤ head.eventSeq
  start : ∃ first, p.bootStartCommitSeq = some first ∧ first ≤ head.commitSeq

theorem genesis_valid {data : GenesisData} (payload : record.payload = .journalGenesis data) :
    isUuid data.journalUuid = true ∧ BoundsOk data.bounds := by
  have valid := (validateEnvelope_eq_ok.mp record.validated).2.2.2.2.2.2.2.2.2.2.2
  rw [payload] at valid
  simp only [validatePayload, validateJournalGenesis, bind_eq_ok, exists_unit,
    requireUuid_eq_ok, requireBound_eq_ok, failIf_eq_ok, not_lt] at valid
  obtain ⟨uuid, admissions, pending, ordinary, total, ordered⟩ := valid
  exact ⟨uuid, admissions, pending, ordinary, total, ordered⟩

theorem live_genesis {data : GenesisData} (payload : record.payload = .journalGenesis data)
    (position : record.position = nextPosition newProjection) :
    Live (applyDelta newProjection (genesisDelta record data))
      (genesisDelta record data).head data.bounds where
  head_eq := rfl
  bounds_eq := rfl
  bounds_ok := (genesis_valid payload).2
  generation := by simp [applyDelta, genesisDelta, position, nextPosition, newProjection]
  uuid := ⟨data.journalUuid, rfl, (genesis_valid payload).1⟩
  boot := ⟨record.stamp.bootId, rfl, by simp [applyDelta, genesisDelta],
    (validateEnvelope_eq_ok.mp record.validated).2.2.2.2.2.2.1⟩
  commitSeq := by simp [genesisDelta, position, nextPosition]
  eventSeq := by simp [genesisDelta, position, nextPosition, newProjection]
  start := ⟨_, rfl, le_rfl⟩

theorem Live.commitCount {head : Head} {bounds : JournalBounds} (live : Live p head bounds) :
    p.commitCount = head.commitSeq := by
  simp [Projection.commitCount, live.head_eq]

theorem Live.eventCount {head : Head} {bounds : JournalBounds} (live : Live p head bounds) :
    p.eventCount = head.eventSeq := by
  simp [Projection.eventCount, live.head_eq]

theorem Live.step {head : Head} {bounds : JournalBounds} (live : Live p head bounds)
    (step : CommitStep p records delta) : Live (applyDelta p delta) delta.head bounds := by
  have hasHead : p.head.isSome := by simp [live.head_eq]
  have advances := step.advances hasHead
  have nonempty : 0 < records.length := by
    cases step <;> simp
  have commitCount := live.commitCount
  have eventCount := live.eventCount
  obtain ⟨boot, bootEq, seen, -⟩ := live.boot
  exact {
    head_eq := rfl
    bounds_eq := by simp [applyDelta, advances.bounds, live.bounds_eq]
    bounds_ok := live.bounds_ok
    generation := advances.generation.trans live.generation
    uuid := by simpa [applyDelta, advances.journalUuid] using live.uuid
    boot := by
      refine ⟨delta.bootId, rfl, ?_, step.bootId_valid⟩
      rcases step.boot hasHead with ⟨-, same⟩ | ⟨new, -⟩
      · obtain rfl : boot = delta.bootId := Option.some.inj (bootEq.symm.trans same)
        exact Finset.mem_union_left _ seen
      · simp [applyDelta, new]
    commitSeq := by rw [advances.commitSeq]; omega
    eventSeq := by
      rw [advances.commitSeq, advances.eventSeq, commitCount, eventCount]
      have := live.eventSeq
      omega
    start := by
      obtain ⟨first, firstEq, before⟩ := live.start
      cases new : delta.newBootId with
      | none =>
          refine ⟨first, by simp [applyDelta, new, firstEq], ?_⟩
          rw [advances.commitSeq, commitCount]
          omega
      | some boot => exact ⟨delta.head.commitSeq, by simp [applyDelta, new], le_rfl⟩ }

/-- Only genesis is accepted on the empty projection. -/
theorem CommitStep.of_new (step : CommitStep newProjection records delta) :
    ∃ record data, records = [record] ∧ record.payload = .journalGenesis data ∧
      record.position = nextPosition newProjection ∧ delta = genesisDelta record data := by
  cases step with
  | genesis payload position headless anonymous => exact ⟨_, _, rfl, payload, position, rfl⟩
  | restart payload position fresh previous headEq recovered boundsEq fits => cases headEq
  | current position boot clock claim => cases boot
  | admission position dedupePosition stamp boot clock pair => cases boot

theorem reachable_live (reachable : Reachable p) :
    p = newProjection ∨ ∃ head bounds, Live p head bounds := by
  refine Reachable.preserves (fun p => p = newProjection ∨ ∃ head bounds, Live p head bounds)
    (.inl rfl) (fun p records delta _ holds step => .inr ?_) reachable
  rcases holds with rfl | ⟨head, bounds, live⟩
  · obtain ⟨record, data, rfl, payload, position, rfl⟩ := step.of_new
    exact ⟨_, _, live_genesis payload position⟩
  · exact ⟨_, _, live.step step⟩

/-- Induction over the commits of a journal that has its genesis. -/
theorem Commits.live_history (History : List (List Record) → Projection → Prop)
    (genesis : ∀ record data, record.payload = .journalGenesis data →
      record.position = nextPosition newProjection →
      History [[record]] (applyDelta newProjection (genesisDelta record data)))
    (preserved : ∀ done p records delta head bounds, Live p head bounds → History done p →
      CommitStep p records delta → History (done ++ [records]) (applyDelta p delta))
    (commits : Commits newProjection groups p) (hasHead : p.head.isSome) :
    History groups p := by
  have holds : (p = newProjection ∧ groups = []) ∨
      ((∃ head bounds, Live p head bounds) ∧ History groups p) := by
    refine Commits.history (fun done p => (p = newProjection ∧ done = []) ∨
      ((∃ head bounds, Live p head bounds) ∧ History done p))
      (fun done p records delta holds accepted => .inr ?_) (.inl ⟨rfl, rfl⟩) commits
    have step := verifyCommit_iff.mp accepted
    rcases holds with ⟨rfl, rfl⟩ | ⟨⟨head, bounds, live⟩, history⟩
    · obtain ⟨record, data, rfl, payload, position, rfl⟩ := step.of_new
      exact ⟨⟨_, _, live_genesis payload position⟩, genesis record data payload position⟩
    · exact ⟨⟨_, _, live.step step⟩, preserved done p records delta head bounds live history step⟩
  rcases holds with ⟨rfl, -⟩ | ⟨-, history⟩
  · cases hasHead
  · exact history

/-- Only the empty history leads to the empty projection. -/
theorem Commits.nil_of_new (commits : Commits p groups newProjection) : groups = [] := by
  rcases List.eq_nil_or_concat groups with rfl | ⟨before, records, rfl⟩
  · rfl
  · rw [List.concat_eq_append, commits_append] at commits
    obtain ⟨_, _, last⟩ := commits
    obtain ⟨delta, -, applied⟩ := commits_singleton.mp last
    cases congrArg Projection.head applied

theorem Reachable.live {head : Head} (reachable : Reachable p) (headEq : p.head = some head) :
    ∃ bounds, Live p head bounds := by
  rcases reachable_live reachable with rfl | ⟨head', bounds, live⟩
  · cases headEq
  · obtain rfl : head = head' := Option.some.inj (headEq.symm.trans live.head_eq)
    exact ⟨bounds, live⟩

/-! ## Every claim is charged within the bounds -/

theorem Plans.fits {stamp : Stamp} {planned : Except Failure Planned}
    (plans : Plans record planned) (one : PlansOne p stamp planned) :
    ∃ bounds region, p.bounds = some bounds ∧
      p.logicalBytes + record.charge ≤ Region.limit bounds region := by
  obtain ⟨expected, _, bounds, region, _, current, sealed⟩ := one _ plans
  have same := sealed.plan_eq
  simp only [Plan.mk.injEq, List.cons.injEq, and_true] at same
  obtain ⟨rfl, -⟩ := same
  exact ⟨bounds, region, current.bounds_eq, sealed.fits⟩

theorem ClaimStep.fits (claim : ClaimStep p record delta) :
    ∃ bounds region, p.bounds = some bounds ∧
      p.logicalBytes + record.charge ≤ Region.limit bounds region := by
  by_cases replanned : record.payload.replanned = true
  · obtain ⟨call, plans⟩ := claim.replans replanned
    exact plans.fits call.one
  cases claim with
  | capacityHold payload free boundsEq limit observed exhausted fits =>
      exact ⟨_, .total, boundsEq, fits⟩
  | ingressRefusal payload sequence room unreservedRoom keyed fresh boundsEq fits =>
      exact ⟨_, .ordinary, boundsEq, fits⟩
  | operatorAction payload held unclaimed headEq immediate recoveredEq inspected pending
      boundsEq fits =>
      exact ⟨_, .total, boundsEq, fits⟩
  | _ => simp_all [Payload.replanned]

end ManyAlerts
