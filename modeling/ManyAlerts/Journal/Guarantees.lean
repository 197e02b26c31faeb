import ManyAlerts.Journal.Admission
import ManyAlerts.Journal.Freeze
import ManyAlerts.Journal.Planners

/-!
# What the journal guarantees

The properties of whole histories, stated for any list of records that replays.
Each is assembled from the step and run lemmas of the modules before, and each
is met by a sample journal that launches a run, restarts and fills up.
-/

namespace ManyAlerts

variable {p q : Projection} {record : Record} {records front rest : List Record}
  {delta : Delta} {head : Head}

/-! ## A sample journal -/

def sampleUuid (number : Nat) : String :=
  String.ofList (characters "00000000-0000-4000-8000-0000000000" ++ Nat.toDigits 10 (number + 10))

def sampleDigest (digit : Char) : String := String.ofList (List.replicate 64 digit)

def sampleSource : SourceRecord :=
  ⟨sampleDigest 'a', [⟨"fp-1", .firing, none, none⟩, ⟨"fp-2", .firing, none, none⟩], some 0,
    sampleDigest 'b', httpProvenance⟩

theorem sampleSource_valid : validateSource sampleSource = .ok sampleSource := by
  decide +kernel

/-- The same alerts in another body. -/
def sampleRepeat : SourceRecord := { sampleSource with bodyDigest := sampleDigest 'd' }

/-- Another group reports one of the fingerprints. -/
def sampleReclaim : SourceRecord :=
  ⟨sampleDigest 'c', [⟨"fp-1", .resolved, none, none⟩], some 0, sampleDigest 'b', httpProvenance⟩

def sampleBounds : JournalBounds := { maxAdmissions := 3, maxPendingFingerprints := 2 }

def sampleIds : ReservationIds :=
  ⟨sampleUuid 1, sampleUuid 2, sampleUuid 3, sampleUuid 4, sampleUuid 5, sampleUuid 6,
    sampleUuid 7⟩

def sampleServices : List ServiceClaim :=
  [⟨.anthropic, sampleUuid 7, sampleDigest 'e'⟩, ⟨.grafana, sampleUuid 8, sampleDigest 'e'⟩,
    ⟨.jira, sampleUuid 9, sampleDigest 'e'⟩, ⟨.kubernetes, sampleUuid 10, sampleDigest 'e'⟩]

def sampleGrants : List Grant :=
  sampleServices.map fun claim =>
    ⟨claim.service, claim.leaseClaimId, claim.scopeDigest, claim.service.text, 100⟩

/-- The digests of the records. -/
def sampleRecordDigests : List String :=
  ["6658460f93a9df1be71d61df97da43a548cd0f6026e8e7a6a1ec02fd8cc69a68",
    "085f2f18998a5786afe8b31e63e181d8cd627f7be48fd9f41977ef7449f582a8",
    "72603a2b2f18556fd814d9907ad07089a8ccb9a742c5e5aeacfbf39d39850451",
    "dcf51abc5603932bf18d027117ae6f8f47ae296b8e593c02c9e7011b223f46c4",
    "0e0f72ed20ffb724f0f428dec215ab2f18b69c3c9881fe723cfe96d81f2333d0",
    "d1b532c685acea55b9ac9385bca506158a56842f4148d31a02916576c630dab9",
    "ca87a47405383053d6521124413b29afdc90297b1cd574f363d3c2e70728fc7a",
    "53c8222cfbef8da1ff90dbf3157ca33afa5ccf78b03585968cbad56738287053",
    "4172c19da6b5c6ef026e2d9c541977bc2d5f495a9eb2e0869f4b21f92ad1cd6e",
    "fb6bf5f11d733fa70d8aa32153c18c6813eb988451c0483794137f67fcbc0049",
    "2f87855ffa019662da594a9ab6256731cb0840e34a2b921de13333c038199113",
    "72d1b7382f298437aad7a139efce80a31313e5163f04df0a41a750e453970a96",
    "16429be0e843b4de12f90a225e4a86ac5c3183bf50496585a5e872ba973008d9",
    "f939b0fd937171db731eebe3cd120dfb6a5f421ed604adebb8adb20cffef694b",
    "8dd6b1ea847be10ff0be4b9176885451c974b159e9b6d6e46121cd2421645193",
    "84fc492ec1b02c65d6a1b0a53b8cbb71e3de3a70d448217942c988186f8834a2"]

def sampleKey : String := "349efdcfd959a0ff64c2dc8e2778f0fcce56c6ff8e4bddfec7f1f9a6c6fae5d9"
def reclaimKey : String := "7515ba2ac6887b7e935fb6e8c5bf4a97e8fae4f2474f32b338c4cbed85074c3d"
def sampleMemberHash : String := "d959c7796488fb0797811e8130c850afb4b6c4b01cbeba07f0e0d2c116f3b7bd"
def sampleIntentHash : String := "818914cd0da3d9e7993814445fbcd8e9737526ff26923e5ce808204eefbc9cc1"
def sampleRunHash : String := "5623e95a36828aa112a5d73e9021efb7d51f84d54fc28b44ec026d3dc6d8061e"
def sampleLaunchHash : String := "d623c768fcf7cb72a67f54a5d0489095b726272def78924b1121b23c09562eee"
def sampleActionHash : String := "0070292dca889626201f03e48653867d04fe36301c4c76a77ab3975765734b82"

def sampleLedgerEvent : LedgerEvent := ⟨sampleUuid 12, 1, sampleUuid 13, 1, sampleDigest 'f'⟩

def sampleConfirmation : ReservationConfirmationClaim :=
  ⟨sampleUuid 3, sampleUuid 11, sampleIntentHash, sampleUuid 12, 1, sampleUuid 13, 1,
    sampleDigest 'f', 6⟩

def sampleRunIntent : RunIntentClaim :=
  ⟨sampleUuid 14, 1, ⟨sampleUuid 0, sampleIds⟩, sampleIntentHash, sampleUuid 11, sampleUuid 12, 1,
    sampleUuid 13, 1, sampleDigest 'f', 1, sampleDigest 'f', 2, sampleMemberHash, sampleServices,
    sampleRunHash, 7⟩

def sampleLaunchClaim : LaunchClaim :=
  ⟨sampleUuid 15, sampleUuid 14, sampleRunHash, ⟨sampleUuid 0, sampleIds⟩, "boot-2", "forwarder-1",
    sampleDigest 'f', 8, 270000008, 290000008, 300000008, sampleGrants, sampleLaunchHash, 8⟩

def sampleAction : SupervisionActionIntentClaim :=
  ⟨sampleUuid 16, sampleActionHash, sampleUuid 17, .revokeGrant, .preAttestation, sampleUuid 15,
    some .jira, some "jira", 9, 9⟩

/-- What a commit leaves of the counters. -/
def sampleDelta (bootId : String) (commitSeq eventSeq logicalBytes admissions : Nat) : Delta where
  head := ⟨1, commitSeq, eventSeq, sampleRecordDigests.getD (eventSeq - 1) zeroDigest⟩
  generation := 1
  bootId
  lastMonoUs := commitSeq
  logicalBytes
  admissionCount := admissions
  lastArrivalSeq := admissions

/-- A planner's call with the event types of its records, the source it admits
and the delta replay finds in it. -/
structure SampleCommit where
  call : PlannerCall
  eventTypes : List String
  delta : Delta
  source : Option SourceRecord := none

def SampleCommit.stamp (commit : SampleCommit) : Stamp :=
  ⟨commit.delta.bootId, "2026-01-01T00:00:00.000000Z", commit.delta.lastMonoUs⟩

def SampleCommit.digests (commit : SampleCommit) : List String :=
  (sampleRecordDigests.take commit.delta.head.eventSeq).drop
    (commit.delta.head.eventSeq - commit.eventTypes.length)

/-- A restart and its resume, an admission and the chain of claims up to a
launch, a supervision action, a second restart, a suppressed repeat, a
fingerprint that another group takes over, and the hold of the full journal. -/
def sampleJournal : List SampleCommit :=
  [⟨.genesis (sampleUuid 0) sampleBounds "genesis", ["journal_genesis"],
      { sampleDelta "boot-1" 1 1 928 0 with
        journalUuid := some (sampleUuid 0)
        bounds := some sampleBounds
        newBootId := some "boot-1" }, none⟩,
    ⟨.restart "restart-1" 0 none, ["restart_recovery"],
      { sampleDelta "boot-2" 2 2 1916 0 with
        newBootId := some "boot-2"
        dispatchHoldAdd := some (.restartRecovery, 2) }, none⟩,
    ⟨.operatorResume "resume-1" "operator" "checked", ["operator_action"],
      { sampleDelta "boot-2" 3 3 2999 0 with
        dispatchHoldClear := some .restartRecovery
        resumeCommitSeq := some 3 }, none⟩,
    ⟨.admission sampleSource (sampleUuid 2) "dedupe-1", ["admission", "dedupe_decision"],
      { sampleDelta "boot-2" 4 5 5604 1 with
        baselineUpdate := some (sampleDigest 'a', ⟨sampleUuid 2, sampleKey, true⟩)
        pendingUpdates :=
          [("fp-1", ⟨"fp-1", sampleUuid 2, 1, sampleDigest 'a', .firing, none⟩),
            ("fp-2", ⟨"fp-2", sampleUuid 2, 1, sampleDigest 'a', .firing, none⟩)] },
      some sampleSource⟩,
    ⟨.claim (.initialReservationIntent sampleIds), ["reservation_intent"],
      { sampleDelta "boot-2" 5 6 6971 1 with
        initialReservationIntentAdd :=
          some ⟨sampleUuid 0, 1, sampleIds, 2, sampleMemberHash, sampleIntentHash, 4, 5⟩ }, none⟩,
    ⟨.claim (.initialReservationConfirmation (sampleUuid 3) (sampleUuid 11) sampleLedgerEvent),
      ["reservation_confirmation"],
      { sampleDelta "boot-2" 6 7 8145 1 with
        initialReservationConfirmationAdd := some sampleConfirmation }, none⟩,
    ⟨.claim (.runIntent (sampleUuid 3) (sampleUuid 14) 1 (sampleDigest 'f') sampleServices),
      ["run_intent"],
      { sampleDelta "boot-2" 7 8 10928 1 with runIntentAdd := some sampleRunIntent }, none⟩,
    ⟨.claim (.launchClaim (sampleUuid 15) "forwarder-1" (sampleDigest 'f') sampleGrants),
      ["launch_claim"],
      { sampleDelta "boot-2" 8 9 13593 1 with launchClaimAdd := some sampleLaunchClaim }, none⟩,
    ⟨.claim (.supervisionActionIntent (sampleUuid 16) (sampleUuid 17) .revokeGrant (some .jira)
        (some "jira")), ["supervision_action_intent"],
      { sampleDelta "boot-2" 9 10 15418 1 with
        supervisionActionIntentAdd := some sampleAction }, none⟩,
    ⟨.restart "restart-2" 0 none, ["restart_recovery"],
      { sampleDelta "boot-3" 10 11 16410 1 with
        newBootId := some "boot-3"
        dispatchHoldAdd := some (.restartRecovery, 10) }, none⟩,
    ⟨.admission sampleRepeat "admission-2" "dedupe-2", ["admission", "dedupe_decision"],
      { sampleDelta "boot-3" 11 13 19109 2 with
        baselineUpdate := some (sampleDigest 'a', ⟨sampleUuid 2, sampleKey, true⟩) },
      some sampleRepeat⟩,
    ⟨.admission sampleReclaim "admission-3" "dedupe-3", ["admission", "dedupe_decision"],
      { sampleDelta "boot-3" 12 15 21647 3 with
        baselineUpdate := some (sampleDigest 'c', ⟨"admission-3", reclaimKey, true⟩)
        pendingUpdates :=
          [("fp-1", ⟨"fp-1", "admission-3", 3, sampleDigest 'c', .resolved, none⟩)] },
      some sampleReclaim⟩,
    ⟨.capacityHold ⟨.admissions, 3, 3, 1⟩ "hold-1" (sampleDigest 'b'), ["capacity_hold"],
      { sampleDelta "boot-3" 13 16 22558 3 with
        dispatchHoldAdd := some (.capacity .admissions, 13) }, none⟩]

/-- Plan a commit and verify what was planned. -/
def PlannerCall.append (p : Projection) (stamp : Stamp) (call : PlannerCall) :
    Except Failure (List Record × Delta) := do
  let planned ← call.run p stamp
  let plan ← orFail mismatch planned
  let delta ← verifyCommit p plan.records
  return (plan.records, delta)

/-- The call is planned as the commit says and verified. -/
def SampleCommit.Accepted (commit : SampleCommit) (p : Projection) : Prop :=
  (commit.call.append p commit.stamp).map (fun done =>
      (done.1.map (·.payload.eventType), done.1.map Record.recordDigest, admittedSources done.1,
        done.2)) =
    .ok (commit.eventTypes, commit.digests, commit.source.toList, commit.delta)

instance (commit : SampleCommit) (p : Projection) : Decidable (commit.Accepted p) :=
  inferInstanceAs (Decidable (_ = _))

theorem SampleCommit.Accepted.planned {commit : SampleCommit} (accepted : commit.Accepted p) :
    ∃ plan, commit.call.run p commit.stamp = .ok (some plan) ∧
      verifyCommit p plan.records = .ok commit.delta ∧
      plan.records.map (·.payload.eventType) = commit.eventTypes ∧
      plan.records.map Record.recordDigest = commit.digests ∧
      admittedSources plan.records = commit.source.toList := by
  simp only [SampleCommit.Accepted, PlannerCall.append, map_eq_ok, bind_eq_ok, orFail_eq_ok,
    pure_eq_ok] at accepted
  obtain ⟨-, ⟨-, run, plan, rfl, delta, verified, rfl⟩, same⟩ := accepted
  simp only [Prod.mk.injEq] at same
  obtain ⟨types, digests, sources, rfl⟩ := same
  exact ⟨plan, run, verified, types, digests, sources⟩

def playCommits (p : Projection) (journal : List SampleCommit) : Projection :=
  journal.foldl (fun p commit => applyDelta p commit.delta) p

/-- The groups of records that the commits of a journal plan. -/
structure Plays (p : Projection) (journal : List SampleCommit) (groups : List (List Record)) :
    Prop where
  eventTypes : groups.map (List.map (·.payload.eventType)) = journal.map SampleCommit.eventTypes
  digests : groups.map (List.map Record.recordDigest) = journal.map SampleCommit.digests
  sources : admittedSources groups.flatten = journal.filterMap SampleCommit.source
  commits : ∀ count, Commits p (groups.take count) (playCommits p (journal.take count))
  verified : ∀ index group, groups[index]? = some group →
    ∃ delta, verifyCommit (playCommits p (journal.take index)) group = .ok delta

theorem plays_of_accepted {journal : List SampleCommit} :
    ∀ {p : Projection}, (∀ index (commit : SampleCommit), journal[index]? = some commit →
      commit.Accepted (playCommits p (journal.take index))) → ∃ groups, Plays p journal groups := by
  induction journal with
  | nil =>
      intro p _
      refine ⟨[], rfl, rfl, rfl, fun count => ?_, by simp⟩
      rw [List.take_nil, List.take_nil]
      exact commits_nil.mpr rfl
  | cons commit rest induction =>
      intro p accepted
      obtain ⟨plan, -, verified, types, digests, sources⟩ := (accepted 0 commit rfl).planned
      obtain ⟨groups, plays⟩ := induction fun index => accepted (index + 1)
      refine ⟨plan.records :: groups, ?_, ?_, ?_, ?_, ?_⟩
      · rw [List.map_cons, List.map_cons, types, plays.eventTypes]
      · rw [List.map_cons, List.map_cons, digests, plays.digests]
      · have first : admittedSources (plan.records ++ groups.flatten) =
            admittedSources plan.records ++ admittedSources groups.flatten :=
          List.filterMap_append
        rw [List.flatten_cons, first, sources, plays.sources, List.filterMap_cons]
        cases commit.source <;> rfl
      · intro count
        cases count with
        | zero => exact commits_nil.mpr rfl
        | succ count => exact commits_cons.mpr ⟨_, verified, plays.commits count⟩
      · intro index group found
        cases index with
        | zero => exact ⟨_, Option.some.inj found ▸ verified⟩
        | succ index => exact plays.verified index group found

/-- The projection after some of the commits. -/
def sampleAfter (count : Nat) : Projection :=
  playCommits newProjection (sampleJournal.take count)

def SampleAccepted (index : Nat) : Prop :=
  ∀ commit ∈ sampleJournal[index]?, SampleCommit.Accepted commit (sampleAfter index)

instance (index : Nat) : Decidable (SampleAccepted index) :=
  inferInstanceAs (Decidable (∀ commit ∈ sampleJournal[index]?, _))

theorem sampleReservation_accepted {index : Nat} (bound : index < 6) : SampleAccepted index := by
  interval_cases index
  all_goals decide +kernel

theorem sampleLaunch_accepted {index : Nat} (bound : index < 9) (later : 6 ≤ index) :
    SampleAccepted index := by
  interval_cases index
  all_goals decide +kernel

theorem sampleRestart_accepted {index : Nat} (bound : index < 13) (later : 9 ≤ index) :
    SampleAccepted index := by
  interval_cases index
  all_goals decide +kernel

theorem sample_accepted (index : Nat) : SampleAccepted index := by
  rcases Nat.lt_or_ge index 6 with reserves | launches
  · exact sampleReservation_accepted reserves
  rcases Nat.lt_or_ge index 9 with launched | restarts
  · exact sampleLaunch_accepted launched launches
  rcases Nat.lt_or_ge index 13 with restarted | beyond
  · exact sampleRestart_accepted restarted restarts
  · intro commit found
    have none : sampleJournal[index]? = none := List.getElem?_eq_none beyond
    rw [none] at found
    cases found

theorem sample_plays : ∃ groups, Plays newProjection sampleJournal groups :=
  plays_of_accepted sample_accepted

namespace Plays

variable {journal : List SampleCommit} {groups : List (List Record)}

theorem replayed (plays : Plays newProjection journal groups) (count : Nat) :
    replay (groups.take count).flatten =
      .ok (playCommits newProjection (journal.take count)) :=
  replay_flatten (plays.commits count)

theorem eventTypes_take (plays : Plays p journal groups) (count : Nat) :
    (groups.take count).flatten.map (·.payload.eventType) =
      (journal.take count).flatMap SampleCommit.eventTypes := by
  rw [List.map_flatten, List.map_take, plays.eventTypes, ← List.map_take, List.flatMap_def]

theorem length_take (plays : Plays p journal groups) (count : Nat) :
    (groups.take count).flatten.length =
      ((journal.take count).flatMap SampleCommit.eventTypes).length := by
  rw [← plays.eventTypes_take, List.length_map]

theorem length_eq (plays : Plays p journal groups) : groups.length = journal.length := by
  simpa only [List.length_map] using congrArg List.length plays.eventTypes

theorem exists_record (plays : Plays p journal groups) (count : Nat) (eventType : String)
    (listed : eventType ∈ (journal.take count).flatMap SampleCommit.eventTypes) :
    ∃ record ∈ (groups.take count).flatten, record.payload.eventType = eventType := by
  rw [← plays.eventTypes_take] at listed
  exact List.mem_map.mp listed

end Plays

theorem sampleAfter_reachable (count : Nat) : Reachable (sampleAfter count) := by
  obtain ⟨groups, plays⟩ := sample_plays
  exact reachable_iff.mpr ⟨_, plays.commits count⟩

/-! ## Planners and replay -/

/-- An accepted commit adds its charge, one commit and its records. -/
theorem CommitStep.growth (reachable : Reachable p) (step : CommitStep p records delta) :
    (applyDelta p delta).logicalBytes =
        p.logicalBytes + (records.map Record.charge).sum ∧
      (applyDelta p delta).commitCount = p.commitCount + 1 ∧
      (applyDelta p delta).eventCount = p.eventCount + records.length := by
  rcases reachable_live reachable with rfl | ⟨head, bounds, live⟩
  · obtain ⟨record, data, rfl, payload, position, rfl⟩ := step.of_new
    simp [applyDelta, genesisDelta, Projection.commitCount, Projection.eventCount, position,
      nextPosition, newProjection]
  · have advances := step.advances (by simp [live.head_eq])
    exact ⟨advances.logicalBytes, advances.commitSeq, advances.eventSeq⟩

/-- What a planner plans is accepted and adds its own charge, one commit and its
records.  A valid source is planned or refused for capacity, unless a record it
would be linked to hashes to the digest reserved for the start of the chain. -/
theorem planned_commit_accepted (reachable : Reachable p) :
    (∀ (call : PlannerCall) (stamp : Stamp) (plan : Plan), call.Supplied p stamp →
      call.run p stamp = .ok (some plan) →
      ∃ delta, verifyCommit p plan.records = .ok delta ∧
        (applyDelta p delta).logicalBytes = p.logicalBytes + plan.charge ∧
        (applyDelta p delta).commitCount = p.commitCount + 1 ∧
        (applyDelta p delta).eventCount = p.eventCount + plan.records.length) ∧
    ∀ (head : Head) (source : SourceRecord) (admissionId dedupeEventId : String) (stamp : Stamp),
      p.head = some head → Stamped p stamp → validateSource source = .ok source →
      isId admissionId = true → isId dedupeEventId = true →
      (∃ planned, planAdmission p source admissionId dedupeEventId stamp = .ok planned) ∨
        HashesToZero p head source admissionId stamp := by
  constructor
  · intro call stamp plan supplied planned
    obtain ⟨⟨delta, step⟩, charge⟩ := call.commitStep reachable supplied planned
    rw [charge]
    exact ⟨delta, verifyCommit_iff.mpr step, step.growth reachable⟩
  · intro head source admissionId dedupeEventId stamp headEq stamped valid validId dedupeId
    obtain ⟨bounds, live⟩ := reachable.live headEq
    by_cases zero : HashesToZero p head source admissionId stamp
    · exact .inr zero
    · exact .inl (planAdmission_returns reachable live stamped (validateSource_eq_ok.mp valid).1
        validId dedupeId zero)

def sampleStamp : Stamp := ⟨"boot-1", "2026-01-01T00:00:00.000000Z", 1⟩

theorem planned_commit_accepted_sample : ∃ plan delta,
    planAdmission (sampleAfter 3) sampleSource (sampleUuid 2) "dedupe-1"
        ⟨"boot-2", sampleStamp.wallTime, 4⟩ = .ok (.plan plan) ∧
      verifyCommit (sampleAfter 3) plan.records = .ok delta ∧
      (applyDelta (sampleAfter 3) delta).logicalBytes =
        (sampleAfter 3).logicalBytes + plan.charge := by
  obtain ⟨plan, run, -⟩ := (sample_accepted 3 _ rfl).planned
  have planned : planAdmission (sampleAfter 3) sampleSource (sampleUuid 2) "dedupe-1"
      ⟨"boot-2", sampleStamp.wallTime, 4⟩ = .ok (.plan plan) := by
    simp only [PlannerCall.run, map_eq_ok, Planned.plan?_eq_some, exists_eq_right] at run
    exact run
  obtain ⟨delta, verified, bytes, -⟩ := (planned_commit_accepted (sampleAfter_reachable 3)).1
    (.admission sampleSource (sampleUuid 2) "dedupe-1") ⟨"boot-2", sampleStamp.wallTime, 4⟩ plan
    ⟨rfl, by decide⟩ (by simp [PlannerCall.run, planned])
  exact ⟨plan, delta, planned, verified, bytes⟩

/-- A refusal no planner returned: the limit is not the journal's. -/
def sampleForeignRefusal : CapacityRefusal := ⟨.admissions, 0, 0, 1⟩

/-- On the empty projection a valid source is neither planned nor refused, and a
capacity hold for a foreign refusal is planned but not accepted. -/
theorem planned_commit_not_accepted :
    (Reachable newProjection ∧ validateSource sampleSource = .ok sampleSource ∧
      planAdmission newProjection sampleSource "admission-1" "dedupe-1" sampleStamp =
        .error .attributeError) ∧
    Reachable (sampleAfter 1) ∧ Continues (sampleAfter 1) sampleStamp ∧
      ∃ plan, planCapacityHold (sampleAfter 1) sampleForeignRefusal "hold-1" sampleStamp
          zeroDigest = .ok (some (.plan plan)) ∧
        ∀ delta, verifyCommit (sampleAfter 1) plan.records ≠ .ok delta := by
  refine ⟨⟨reachable_new, sampleSource_valid, ?_⟩, sampleAfter_reachable 1, ⟨rfl, by decide⟩, ?_⟩
  · obtain ⟨key, keyed, -⟩ := (validateSource_eq_ok.mp sampleSource_valid).1.dedupeKey
    simp only [planAdmission, decideAdmission, keyed, ok_bind, pure_bind]
    rfl
  · have evaluated : ((planCapacityHold (sampleAfter 1) sampleForeignRefusal "hold-1" sampleStamp
        zeroDigest).toOption.bind (·.bind Planned.plan?)).map (fun plan =>
          (verifyCommit (sampleAfter 1) plan.records).toOption) = some none := by
      decide +kernel
    simp only [Option.map_eq_some_iff, Option.bind_eq_some_iff, toOption_eq_some,
      Planned.plan?_eq_some] at evaluated
    obtain ⟨plan, ⟨_, planned, _, rfl, rfl⟩, refused⟩ := evaluated
    refine ⟨plan, planned, fun delta accepted => ?_⟩
    rw [accepted] at refused
    cases refused

/-- A commit replay accepts, other than a genesis or a capacity hold, has the
bodies of a plan made on the same projection under the records' own stamp. -/
theorem accepted_commit_planned (reachable : Reachable p)
    (accepted : verifyCommit p records = .ok delta)
    (shape : ∀ record ∈ records, record.payload.eventType ≠ "journal_genesis" ∧
      record.payload.eventType ≠ "capacity_hold") :
    ∃ (call : PlannerCall) (stamp : Stamp) (plan : Plan),
      (∀ record ∈ records, record.stamp = stamp) ∧ call.run p stamp = .ok (some plan) ∧
      plan.records.map Record.body = records.map Record.body :=
  (verifyCommit_iff.mp accepted).planned reachable shape

theorem accepted_commit_planned_sample : ∃ (records : List Record) (delta : Delta)
    (call : PlannerCall) (stamp : Stamp) (plan : Plan),
    verifyCommit (sampleAfter 7) records = .ok delta ∧
      records.map (·.payload.eventType) = ["launch_claim"] ∧
      call.run (sampleAfter 7) stamp = .ok (some plan) ∧
      plan.records.map Record.body = records.map Record.body := by
  obtain ⟨launch, -, accepted, types, -⟩ := (sample_accepted 7 _ rfl).planned
  have shape : ∀ record ∈ launch.records, record.payload.eventType ≠ "journal_genesis" ∧
      record.payload.eventType ≠ "capacity_hold" := by
    intro record member
    have listed := List.mem_map_of_mem (f := (·.payload.eventType)) member
    rw [types] at listed
    rw [List.mem_singleton.mp listed]
    decide
  obtain ⟨call, stamp, plan, -, run, bodies⟩ :=
    accepted_commit_planned (sampleAfter_reachable 7) accepted shape
  exact ⟨launch.records, _, call, stamp, plan, accepted, types, run, bodies⟩

/-! ## Latest state -/

/-- Every fingerprint an admission mentions is pending with what the last such
admission carried for it, and nothing else is pending. -/
theorem latest_state_pending (replayed : replay records = .ok p)
    (injective : KeysInjective (admittedSources records)) :
    (∀ source ∈ admittedSources records, ∀ alert ∈ source.alerts,
      ∃ entry, p.pending.get? alert.fingerprint = some entry ∧
        latest alert.fingerprint (admittedSources records) = some entry.state) ∧
    p.pending.size = (mentionedFingerprints (admittedSources records)).card := by
  obtain ⟨groups, grouped, commits⟩ := replay_eq_ok.mp replayed
  obtain rfl : groups.flatten = records := flatten_of_groupCommits grouped
  have pendings := pendings_of_commits commits injective
  refine ⟨fun source member alert mentioned => ?_, pendings.size⟩
  have found := latest_isSome member mentioned rfl
  rw [← pendings.current, Option.isSome_map, Option.isSome_iff_exists] at found
  obtain ⟨entry, pending⟩ := found
  refine ⟨entry, pending, ?_⟩
  rw [← pendings.current, pending, Option.map_some]

theorem sampleKeys_injective : KeysInjective [sampleSource, sampleRepeat, sampleReclaim] := by
  have apart : dedupeKey sampleSource ≠ dedupeKey sampleReclaim := by decide +kernel
  have either : ∀ source ∈ [sampleSource, sampleRepeat, sampleReclaim],
      dedupeKey source = dedupeKey sampleSource ∧
        dedupePayload source = dedupePayload sampleSource ∨ source = sampleReclaim := by
    intro source member
    simp only [List.mem_cons, List.not_mem_nil, or_false] at member
    rcases member with rfl | rfl | rfl
    · exact .inl ⟨rfl, rfl⟩
    · exact .inl ⟨rfl, rfl⟩
    · exact .inr rfl
  intro left leftIn right rightIn same
  rcases either left leftIn with ⟨leftKey, leftPayload⟩ | rfl
  · rcases either right rightIn with ⟨-, rightPayload⟩ | rfl
    · rw [leftPayload, rightPayload]
    · exact absurd (leftKey.symm.trans same) apart
  · rcases either right rightIn with ⟨rightKey, -⟩ | rfl
    · exact absurd (same.trans rightKey).symm apart
    · rfl

/-- The repeat leaves the entries as they are, and the other group takes one over. -/
theorem latest_state_pending_sample : ∃ records p entry other, replay records = .ok p ∧
    admittedSources records = [sampleSource, sampleRepeat, sampleReclaim] ∧
    p.pending.get? "fp-1" = some entry ∧ entry.state = (sampleDigest 'c', .resolved, none) ∧
    p.pending.get? "fp-2" = some other ∧ other.state = (sampleDigest 'a', .firing, none) ∧
    p.pending.size = 2 := by
  obtain ⟨groups, plays⟩ := sample_plays
  have replayed := plays.replayed 13
  have whole : groups.take 13 = groups := List.take_of_length_le plays.length_eq.le
  rw [whole] at replayed
  have admitted : admittedSources groups.flatten = [sampleSource, sampleRepeat, sampleReclaim] :=
    plays.sources
  obtain ⟨states, size⟩ := latest_state_pending replayed (admitted ▸ sampleKeys_injective)
  rw [admitted] at states size
  obtain ⟨entry, found, state⟩ := states sampleReclaim (by simp)
    ⟨"fp-1", .resolved, none, none⟩ (by simp [sampleReclaim])
  obtain ⟨other, otherFound, otherState⟩ := states sampleSource (by simp)
    ⟨"fp-2", .firing, none, none⟩ (by simp [sampleSource])
  exact ⟨groups.flatten, _, entry, other, replayed, admitted, found, (Option.some.inj state).symm,
    otherFound, (Option.some.inj otherState).symm, size⟩

/-! ## The resume fence -/

/-- No resume follows a private claim; a restart after one holds dispatch for
good; otherwise the hold goes only with the resume right after the restart of
the current boot; and whatever is admitted under it is held and lists it. -/
structure ResumeFence (records : List Record) (p : Projection) : Prop where
  no_resume : records.Pairwise fun earlier later =>
    earlier.isPrivate = true → later.isResume = false
  held_for_good : (¬records.Pairwise fun earlier later =>
    earlier.isPrivate = true → later.isRestart = false) → p.restartHeld = true
  cleared : ∀ commit delta, verifyCommit p commit = .ok delta → p.restartHeld = true →
    (applyDelta p delta).restartHeld = false → ∃ resume before restart, commit = [resume] ∧
      resume.isResume = true ∧ records = before ++ [restart] ∧ restart.isRestart = true ∧
      p.bootId = some restart.stamp.bootId
  admitted : ∀ commit delta, verifyCommit p commit = .ok delta → p.restartHeld = true →
    ∀ record ∈ commit, ∀ data, record.payload = .admission data →
      data.decision = .held ∧ .restartRecovery ∈ data.dispatchHolds

theorem resume_fence (replayed : replay records = .ok p) : ResumeFence records p := by
  obtain ⟨groups, grouped, commits⟩ := replay_eq_ok.mp replayed
  obtain rfl : groups.flatten = records := flatten_of_groupCommits grouped
  have fenced := fenced_of_commits commits
  exact {
    no_resume := fenced.resumes
    held_for_good := fun restarted => fenced.held.resolve_right restarted
    cleared := by
      intro commit delta accepted held lifted
      have step := verifyCommit_iff.mp accepted
      rcases step.restartHeld held with ⟨resume, rfl, resumes⟩ | kept
      · obtain ⟨before, restart, last, restarts, boot⟩ :=
          restart_before_resume commits step resumes
        exact ⟨resume, before, restart, rfl, resumes, last, restarts, boot⟩
      · rw [kept] at lifted
        cases lifted
    admitted := fun commit delta accepted held record member data payload =>
      (verifyCommit_iff.mp accepted).admission_holds member payload held }

/-- After the first restart the resume lifts the hold; after the second, which follows
claims, the hold stays and what is admitted is held. -/
theorem resume_fence_sample : ∃ groups, Plays newProjection sampleJournal groups ∧
    (∀ count, ResumeFence (groups.take count).flatten (sampleAfter count)) ∧
    (sampleAfter 2).restartHeld = true ∧ (sampleAfter 3).restartHeld = false ∧
    (∃ record ∈ (groups.take 9).flatten, record.isPrivate = true) ∧
    (sampleAfter 13).restartHeld = true ∧
    ∀ index ∈ [10, 11], ∀ group, groups[index]? = some group →
      ∀ record ∈ group, ∀ data, record.payload = .admission data →
        data.decision = .held ∧ .restartRecovery ∈ data.dispatchHolds := by
  obtain ⟨groups, plays⟩ := sample_plays
  have fence (count : Nat) : ResumeFence (groups.take count).flatten (sampleAfter count) :=
    resume_fence (plays.replayed count)
  refine ⟨groups, plays, fence, by decide, by decide, ?_, by decide, ?_⟩
  · obtain ⟨record, member, eventType⟩ :=
      plays.exists_record 9 "launch_claim" (by decide)
    refine ⟨record, member, ?_⟩
    unfold Record.isPrivate
    cases payload : record.payload <;> rw [payload] at eventType <;>
      simp_all [Payload.eventType, Payload.schemaVersion]
  · intro index late group found record member data payload
    obtain ⟨delta, verified⟩ := plays.verified index group found
    refine (fence index).admitted group delta verified ?_ record member data payload
    simp only [List.mem_cons, List.not_mem_nil, or_false] at late
    rcases late with rfl | rfl <;> decide

/-! ## Chain of custody -/

theorem launch_chain_of_custody (replayed : replay records = .ok p) :
    ChainOfCustody records p := by
  obtain ⟨groups, grouped, commits⟩ := replay_eq_ok.mp replayed
  obtain rfl : groups.flatten = records := flatten_of_groupCommits grouped
  rcases reachable_live ⟨_, replayed⟩ with rfl | ⟨head, bounds, live⟩
  · obtain rfl := commits.nil_of_new
    have unclaimed (claim : Claim) (has : newProjection.Has claim) :
        ∃ record ∈ [], Record.claim? "" record = some claim := absurd has (not_has_new claim)
    exact chainOfCustody unclaimed (by simp)
  · obtain ⟨journalUuid, uuid, -⟩ := live.uuid
    obtain ⟨claimed, custody⟩ := custody_of_commits commits (by simp [live.head_eq])
    exact chainOfCustody (fun claim has => (claimed.has_iff journalUuid uuid claim).mp has) custody

/-- The sample has every link up to a launch and one after it. -/
theorem launch_chain_of_custody_sample : ∃ groups, Plays newProjection sampleJournal groups ∧
    ChainOfCustody (groups.take 13).flatten (sampleAfter 13) ∧
    (sampleAfter 13).runIntent = some sampleRunIntent ∧
    (sampleAfter 13).launchClaim = some sampleLaunchClaim ∧
    (sampleAfter 13).supervisionActionIntents.get? sampleAction.actionId = some sampleAction := by
  obtain ⟨groups, plays⟩ := sample_plays
  exact ⟨groups, plays, launch_chain_of_custody (plays.replayed 13), rfl, rfl, by decide⟩

/-! ## Frozen launch authority -/

/-- A supervision action intent or a process observation. -/
def Record.isCleanup (record : Record) : Bool :=
  match record.payload with
  | .supervisionActionIntent _ _ | .processObservation _ _ => true
  | _ => false

def Record.isLaunch (record : Record) : Bool :=
  match record.payload with
  | .launchClaim _ _ => true
  | _ => false

/-- A record that makes a claim left it in the projection. -/
theorem has_of_replay {claim : Claim} (replayed : replay records = .ok p)
    (member : record ∈ records)
    (made : ∀ journalUuid, record.claim? journalUuid = some claim) : p.Has claim := by
  obtain ⟨groups, grouped, commits⟩ := replay_eq_ok.mp replayed
  obtain rfl : groups.flatten = records := flatten_of_groupCommits grouped
  rcases reachable_live ⟨_, replayed⟩ with rfl | ⟨head, bounds, live⟩
  · obtain rfl := commits.nil_of_new
    cases member
  · obtain ⟨journalUuid, uuid, -⟩ := live.uuid
    have claimed := claimed_of_commits commits (by simp [live.head_eq])
    exact (claimed.has_iff journalUuid uuid claim).mpr ⟨record, member, made journalUuid⟩

theorem cleanup_of_replay (replayed : replay records = .ok p) (member : record ∈ records)
    (isCleanup : record.isCleanup = true) : p.cleanup = true := by
  unfold Record.isCleanup at isCleanup
  split at isCleanup
  · rename_i data digest payload
    have has : p.Has (.supervisionActionIntent data.actionId
        (data.claim record.eventId digest record.position.commitSeq)) :=
      has_of_replay replayed member fun _ => by simp only [Record.claim?, payload]
    have held : p.supervisionActionIntents.isEmpty = false := by
      rw [← Bool.not_eq_true]
      exact fun empty => by cases has.symm.trans (Dict.isEmpty_iff.mp empty _)
    simp [Projection.cleanup, held]
  · rename_i data digest payload
    have has : p.Has (.processObservation
        (data.claim record.eventId digest record.position.commitSeq)) :=
      has_of_replay replayed member fun _ => by simp only [Record.claim?, payload]
    simp [Projection.cleanup, show p.processObservation = some _ from has]
  · cases isCleanup

theorem launch_of_replay (replayed : replay records = .ok p) (member : record ∈ records)
    (isLaunch : record.isLaunch = true) : ∃ launch, p.launchClaim = some launch := by
  unfold Record.isLaunch at isLaunch
  split at isLaunch
  · rename_i data digest payload
    have has : p.Has (.launchClaim
        (data.claim record.eventId digest record.position.commitSeq)) :=
      has_of_replay replayed member fun _ => by simp only [Record.claim?, payload]
    exact ⟨_, has⟩
  · cases isLaunch

/-- A restart is a commit of its own. -/
theorem CommitStep.eq_restart (step : CommitStep p records delta) (member : record ∈ records)
    (restarts : record.isRestart = true) :
    records = [record] ∧ ∃ data, record.payload = .restartRecovery data := by
  unfold Record.isRestart at restarts
  split at restarts
  · rename_i data payload
    refine ⟨?_, data, payload⟩
    cases step with
    | admission position dedupePosition stamp boot clock pair =>
        have admitted := pair.admission_payload
        have decided := pair.dedupe_payload
        simp only [List.mem_cons, List.not_mem_nil, or_false] at member
        rcases member with rfl | rfl <;> simp_all
    | _ => rw [List.mem_singleton.mp member]
  · cases restarts

/-- A history that ends with a restart ends with its commit. -/
theorem last_restart {before : List Record} {restart : Record}
    (replayed : replay (before ++ [restart]) = .ok p) (restarts : restart.isRestart = true) :
    ∃ groups q delta data, groups.flatten = before ∧ Commits newProjection groups q ∧
      CommitStep q [restart] delta ∧ p = applyDelta q delta ∧
      restart.payload = .restartRecovery data := by
  obtain ⟨all, grouped, commits⟩ := replay_eq_ok.mp replayed
  have flat := flatten_of_groupCommits grouped
  rw [List.nil_append] at flat
  rcases List.eq_nil_or_concat all with rfl | ⟨groups, records, rfl⟩
  · simp at flat
  · rw [List.concat_eq_append, commits_append] at commits
    obtain ⟨q, first, last⟩ := commits
    obtain ⟨delta, accepted, rfl⟩ := commits_singleton.mp last
    have step := verifyCommit_iff.mp accepted
    rw [List.concat_eq_append, List.flatten_append, List.flatten_singleton] at flat
    have nonempty : records ≠ [] := by cases step <;> simp
    have lastRecord : records.getLast nonempty = restart := by
      have ends := congrArg List.getLast? flat
      rw [List.getLast?_append, List.getLast?_eq_some_getLast nonempty] at ends
      simpa using ends
    obtain ⟨rfl, data, payload⟩ :=
      step.eq_restart (lastRecord ▸ List.getLast_mem nonempty) restarts
    exact ⟨groups, q, delta, data, List.append_inj_left' flat rfl, first, step, rfl, payload⟩

/-- From the first supervision action intent or process observation on nothing
more is released or attempted, and from a restart after a launch on no claim of
the run changes. -/
theorem launch_authority_frozen (started : replay front = .ok p)
    (replayed : replay (front ++ rest) = .ok q) :
    ((∃ record ∈ front, record.isCleanup = true) →
      q.releaseIntent = p.releaseIntent ∧ q.effectIntents = p.effectIntents) ∧
    (∀ before restart, front = before ++ [restart] → restart.isRestart = true →
      (∃ record ∈ before, record.isLaunch = true) → SameRun p q) := by
  obtain ⟨later, -, followed⟩ := replay_append started replayed
  refine ⟨?_, ?_⟩
  · rintro ⟨record, member, isCleanup⟩
    exact cleanup_freezes (cleanup_of_replay started member isCleanup) followed
  · rintro before restart rfl restarts ⟨record, member, isLaunch⟩
    obtain ⟨groups, start, delta, data, rfl, commits, step, rfl, payload⟩ :=
      last_restart started restarts
    obtain ⟨launch, launched⟩ := launch_of_replay (replay_flatten commits) member isLaunch
    exact restart_freezes commits launched step payload followed

theorem Record.isCleanup_of_eventType
    (eventType : record.payload.eventType = "supervision_action_intent") :
    record.isCleanup = true := by
  unfold Record.isCleanup
  cases payload : record.payload <;> rw [payload] at eventType <;> simp_all [Payload.eventType]

theorem Record.isLaunch_of_eventType (eventType : record.payload.eventType = "launch_claim") :
    record.isLaunch = true := by
  unfold Record.isLaunch
  cases payload : record.payload <;> rw [payload] at eventType <;> simp_all [Payload.eventType]

theorem Record.isRestart_of_eventType
    (eventType : record.payload.eventType = "restart_recovery") : record.isRestart = true := by
  unfold Record.isRestart
  cases payload : record.payload <;> rw [payload] at eventType <;> simp_all [Payload.eventType]

/-- The ninth commit of the sample is a supervision action, the tenth a restart after
the launch. -/
theorem launch_authority_frozen_sample : ∃ groups, Plays newProjection sampleJournal groups ∧
    (∃ record ∈ (groups.take 9).flatten, record.isCleanup = true) ∧
    (sampleAfter 13).releaseIntent = (sampleAfter 9).releaseIntent ∧
    (sampleAfter 13).effectIntents = (sampleAfter 9).effectIntents ∧
    (∃ restart, (groups.take 10).flatten = (groups.take 9).flatten ++ [restart] ∧
      restart.isRestart = true) ∧
    (∃ record ∈ (groups.take 9).flatten, record.isLaunch = true) ∧
    SameRun (sampleAfter 10) (sampleAfter 13) := by
  obtain ⟨groups, plays⟩ := sample_plays
  have split (count : Nat) (short : count ≤ 13) : (groups.take 13).flatten =
      (groups.take count).flatten ++ ((groups.take 13).drop count).flatten := by
    have front : (groups.take 13).take count = groups.take count := by
      rw [List.take_take, Nat.min_eq_left short]
    rw [← List.flatten_append, ← front, List.take_append_drop]
  have frozen (count : Nat) (short : count ≤ 13) := launch_authority_frozen
    (plays.replayed count) (split count short ▸ plays.replayed 13)
  obtain ⟨cleanup, cleanupIn, isCleanup⟩ :=
    plays.exists_record 9 "supervision_action_intent" (by decide)
  obtain ⟨launch, launchIn, isLaunch⟩ := plays.exists_record 9 "launch_claim" (by decide)
  have cleans : ∃ record ∈ (groups.take 9).flatten, record.isCleanup = true :=
    ⟨cleanup, cleanupIn, Record.isCleanup_of_eventType isCleanup⟩
  have launches : ∃ record ∈ (groups.take 9).flatten, record.isLaunch = true :=
    ⟨launch, launchIn, Record.isLaunch_of_eventType isLaunch⟩
  obtain ⟨restart, ends, restarts⟩ : ∃ restart,
      (groups.take 10).flatten = (groups.take 9).flatten ++ [restart] ∧
        restart.isRestart = true := by
    have types := congrArg (·[9]?) plays.eventTypes
    rw [List.getElem?_map] at types
    obtain ⟨group, found, types⟩ := Option.map_eq_some_iff.mp types
    obtain ⟨restart, rfl, eventType⟩ := List.map_eq_singleton_iff.mp types
    refine ⟨restart, ?_, Record.isRestart_of_eventType eventType⟩
    rw [List.take_add_one, found, List.flatten_append]
    rfl
  obtain ⟨released, effects⟩ := (frozen 9 (by decide)).1 cleans
  exact ⟨groups, plays, cleans, released, effects, ⟨restart, ends, restarts⟩, launches,
    (frozen 10 (by decide)).2 _ restart ends restarts launches⟩

/-! ## Capacity -/

def Record.arrival? (record : Record) : Option Nat :=
  match record.payload with
  | .admission data => some data.arrivalSeq
  | _ => none

/-- A commit admits the source of its one admission record. -/
theorem CommitStep.arrivals (step : CommitStep p records delta) :
    records.filterMap Record.arrival? = (pairArrival records).toList := by
  cases step with
  | genesis payload => simp [Record.arrival?, payload, pairArrival]
  | restart payload => simp [Record.arrival?, payload, pairArrival]
  | current position boot clock claim => cases claim <;> simp_all [Record.arrival?, pairArrival]
  | admission position dedupePosition stamp boot clock pair =>
      simp [Record.arrival?, pair.admission_payload, pair.dedupe_payload, pairArrival]

theorem arrivals_of_commits {groups : List (List Record)}
    (commits : Commits newProjection groups p) :
    groups.flatten.filterMap Record.arrival? = groups.filterMap pairArrival := by
  refine Commits.history (fun done _ => done.flatten.filterMap Record.arrival? =
    done.filterMap pairArrival) (fun done p records delta same accepted => ?_) rfl commits
  have step := verifyCommit_iff.mp accepted
  rw [List.flatten_append, List.flatten_singleton, List.filterMap_append, List.filterMap_append,
    same, step.arrivals]
  cases arrival : pairArrival records <;> simp [arrival]

/-- The charges, admissions, pending entries and refusals of a history, exactly
and within their bounds; the byte bounds hold after each commit that follows. -/
structure CapacityBooks (records : List Record) (p : Projection) : Prop where
  bytes : p.logicalBytes = (records.map fun record => record.body.length + 384).sum
  total : ∀ commit delta bounds, verifyCommit p commit = .ok delta → p.bounds = some bounds →
    (applyDelta p delta).logicalBytes ≤ bounds.totalBytes
  ordinary : ∀ commit delta bounds, verifyCommit p commit = .ok delta → p.bounds = some bounds →
    (∃ record ∈ commit, record.arrival?.isSome ∨ record.refusal?.isSome) →
    (applyDelta p delta).logicalBytes ≤ bounds.ordinaryBytes
  lastArrival : p.admissionCount = p.lastArrivalSeq
  arrivals : records.filterMap Record.arrival? = List.range' 1 p.admissionCount
  admissions : ∀ bounds ∈ p.bounds, p.admissionCount ≤ bounds.maxAdmissions
  pending : ∀ bounds ∈ p.bounds, p.pending.size ≤ bounds.maxPendingFingerprints
  refusals : p.refusalCount = (records.filterMap Record.refusal?).length
  refusalKeys : p.refusalCount =
    ((records.filterMap Record.refusal?).map IngressRefusalData.refusalKey).toFinset.card
  limit : p.refusalCount ≤ 256
  unreserved : ((records.filterMap Record.refusal?).filter fun data =>
    !data.summary.resolved.any (0 < ·)).length ≤ 192

theorem capacity_books (replayed : replay records = .ok p) : CapacityBooks records p := by
  obtain ⟨groups, grouped, commits⟩ := replay_eq_ok.mp replayed
  obtain rfl : groups.flatten = records := flatten_of_groupCommits grouped
  have accounts := accounts_of_commits commits
  have live {bounds : JournalBounds} (boundsEq : p.bounds = some bounds) :
      ∃ head, Live p head bounds := by
    rcases reachable_live ⟨_, replayed⟩ with rfl | ⟨head, bounds', live⟩
    · cases boundsEq
    · obtain rfl := Option.some.inj (live.bounds_eq.symm.trans boundsEq)
      exact ⟨head, live⟩
  exact {
    bytes := accounts.bytes
    total := by
      intro commit delta bounds accepted boundsEq
      obtain ⟨head, live⟩ := live boundsEq
      exact (verifyCommit_iff.mp accepted).within_total live
    ordinary := by
      rintro commit delta bounds accepted boundsEq ⟨record, member, draws⟩
      obtain ⟨head, live⟩ := live boundsEq
      have step := verifyCommit_iff.mp accepted
      refine step.within_ordinary live ?_
      rcases draws with arrives | refuses
      · obtain ⟨arrival, found⟩ := Option.isSome_iff_exists.mp arrives
        have listed := List.mem_filterMap.mpr ⟨record, member, found⟩
        rw [step.arrivals, Option.mem_toList] at listed
        exact .inl (Option.isSome_iff_exists.mpr ⟨arrival, listed⟩)
      · exact .inr ⟨record, member, refuses⟩
    lastArrival := accounts.lastArrival.symm
    arrivals := (arrivals_of_commits commits).trans accounts.arrivals
    admissions := accounts.admissions
    pending := accounts.pending
    refusals := accounts.refusals
    refusalKeys := by
      rw [List.toFinset_card_of_nodup accounts.distinct, List.length_map, accounts.refusals]
    limit := accounts.limit
    unreserved := accounts.unreserved ▸ accounts.unreservedLimit }

/-- The sample journal is filled to its bounds. -/
theorem capacity_books_sample : ∃ records p, replay records = .ok p ∧ records.length = 16 ∧
    p.bounds = some sampleBounds ∧ p.admissionCount = 3 ∧ p.pending.size = 2 ∧
    CapacityBooks records p := by
  obtain ⟨groups, plays⟩ := sample_plays
  exact ⟨_, _, plays.replayed 13, plays.length_take 13, rfl, rfl, rfl,
    capacity_books (plays.replayed 13)⟩

end ManyAlerts
