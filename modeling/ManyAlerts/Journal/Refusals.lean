import ManyAlerts.Journal.Handle

/-!
# Recorded refusals

A refusal is recorded once per membership: two summaries that differ only in the
size and digest of the body share a key.  The last 64 of the 256 records are kept
for refusals that turned away a resolved alert, so unresolved ones cannot use
them up.
-/

namespace ManyAlerts

variable {p : Projection} {records : List Record} {groups : List (List Record)} {delta : Delta}
  {head : Head} {bounds : JournalBounds} {summary : RefusalSummary} {journal : JournalHandle}

/-- Equal in every field other than the size and the digest of the body. -/
def RefusalSummary.Same (left right : RefusalSummary) : Prop :=
  { left with bodyBytes := 0, bodyDigest := none } =
    { right with bodyBytes := 0, bodyDigest := none }

/-- The refusals among the records, in order. -/
def recordedRefusals (records : List Record) : List IngressRefusalData :=
  records.filterMap Record.refusal?

theorem RefusalSummary.Same.refusalKey {left right : RefusalSummary} (same : left.Same right) :
    ManyAlerts.refusalKey left = ManyAlerts.refusalKey right := by
  simp only [RefusalSummary.Same, RefusalSummary.mk.injEq, true_and] at same
  obtain ⟨alerts, code, members, omitted, refused, resolved, source⟩ := same
  simp only [ManyAlerts.refusalKey, refusalKeyPayload, alerts, code, members, omitted, refused,
    resolved, source]

/-! ## Keys and sizes of valid summaries -/

theorem refusalSummary_within (valid : checkRefusalSummary summary = .ok ()) :
    Within true 1 (refusalSummaryJson summary) ∧
      (refusalSummaryJson summary).textLength ≤ maxRefusalJsonBytes := by
  simp only [checkRefusalSummary, bind_eq_ok, failIf_eq_ok, exists_unit, jsonOr_eq_ok,
    not_lt] at valid
  obtain ⟨-, -, -, text, encoded, short⟩ := valid
  obtain ⟨within, rfl⟩ := canonicalJson_eq_ok.mp encoded
  exact ⟨within, short⟩

theorem refusalKey_of_valid (valid : checkRefusalSummary summary = .ok ()) :
    ∃ key, refusalKey summary = .ok key ∧ isHex64 key = true := by
  have within : Within true 1 (refusalKeyPayload summary) := by
    obtain ⟨shallow, members⟩ := (refusalSummary_within valid).1
    refine ⟨shallow, withinMembers_iff.mpr fun member found => ?_⟩
    apply withinMembers_iff.mp members
    simp only [List.mem_cons, List.not_mem_nil, or_false] at found ⊢
    tauto
  exact ⟨_, liftJson_eq_ok.mpr ((taggedDigest_eq_ok (by decide)).mpr ⟨within, rfl⟩),
    isHex64_sha256Hex _⟩

theorem within_optional {α : Type} {write : α → Json} {option : Option α} {depth other : Nat}
    (within : Within true depth (.optional write option))
    (moves : ∀ item, Within true depth (write item) → Within true other (write item)) :
    Within true other (.optional write option) := by
  cases option with
  | none => trivial
  | some item => exact moves item within

/-- A summary that was encoded on its own is encoded inside a record as well. -/
theorem refusalSummary_fits {depth : Nat} (valid : checkRefusalSummary summary = .ok ())
    (shallow : depth + 2 ≤ maxJsonDepth) :
    Fits depth maxRefusalJsonBytes (refusalSummaryJson summary) := by
  obtain ⟨within, short⟩ := refusalSummary_within valid
  refine ⟨?_, short⟩
  obtain ⟨-, alertsKey, alerts, bytesKey, bytes, digestKey, digest, codeKey, code, membersKey,
    ⟨-, few, members⟩, omittedKey, omitted, refusedKey, refused, resolvedKey, resolved, sourceKey,
    source, -⟩ := within
  refine ⟨by omega, alertsKey, within_optional alerts fun _ => id, bytesKey, bytes, digestKey,
    within_optional digest fun _ => id, codeKey, code, membersKey, ⟨by omega, few, ?_⟩,
    omittedKey, omitted, refusedKey, within_optional refused fun _ => id, resolvedKey,
    within_optional resolved fun _ => id, sourceKey, within_optional source fun _ => id,
    trivial⟩
  rw [withinItems_iff] at members ⊢
  intro item found
  obtain ⟨member, -, rfl⟩ := List.mem_map.mp found
  obtain ⟨-, pair, fingerprint, status, -⟩ := members _ found
  exact ⟨by omega, pair, fingerprint, status, trivial⟩

/-! ## What replay keeps of the recorded refusals -/

/-- The recorded refusals are numbered from one, and each has its own key. -/
structure RefusalBook (groups : List (List Record)) : Prop where
  numbered : (recordedRefusals groups.flatten).map IngressRefusalData.refusalSeq =
    List.range' 1 (recordedRefusals groups.flatten).length
  keyed : ∀ data ∈ recordedRefusals groups.flatten,
    refusalKey data.summary = .ok data.refusalKey

/-- A step records no refusal, or the next one under its key. -/
theorem CommitStep.next_refusal (step : CommitStep p records delta) :
    recordedRefusals records = [] ∨ ∃ data, recordedRefusals records = [data] ∧
      data.refusalSeq = p.refusalCount + 1 ∧ refusalKey data.summary = .ok data.refusalKey := by
  cases step with
  | genesis payload | restart payload =>
      exact .inl (by simp [recordedRefusals, Record.refusal?, payload])
  | current position boot clock claim =>
      cases claim with
      | ingressRefusal payload sequence room unreservedRoom keyed fresh boundsEq fits =>
          exact .inr ⟨_, by simp [recordedRefusals, Record.refusal?, payload], sequence, keyed⟩
      | _ => exact .inl (by simp_all [recordedRefusals, Record.refusal?])
  | admission position dedupePosition stamp boot clock pair =>
      exact .inl (by simp [recordedRefusals, Record.refusal?, pair.admission_payload,
        pair.dedupe_payload])

theorem refusalBook_of_commits (commits : Commits newProjection groups p) :
    RefusalBook groups := by
  refine (Commits.history (fun done p => Commits newProjection done p ∧ RefusalBook done)
    (fun done p records delta holds accepted => ?_) ⟨commits_nil.mpr rfl, ⟨rfl, by
      simp [recordedRefusals]⟩⟩ commits).2
  obtain ⟨before, book⟩ := holds
  refine ⟨commits_append.mpr ⟨p, before, commits_singleton.mpr ⟨delta, accepted, rfl⟩⟩, ?_⟩
  have flat : recordedRefusals (done ++ [records]).flatten =
      recordedRefusals done.flatten ++ recordedRefusals records := by
    simp [recordedRefusals]
  have counted : p.refusalCount = (recordedRefusals done.flatten).length :=
    (accounts_of_commits before).refusals
  rcases (verifyCommit_iff.mp accepted).next_refusal with none | ⟨data, one, sequence, keyed⟩
  · rw [none, List.append_nil] at flat
    exact ⟨by rw [flat, book.numbered], by rw [flat]; exact book.keyed⟩
  · rw [one] at flat
    constructor
    · rw [flat, List.map_append, book.numbered, List.length_append, List.length_singleton,
        List.range'_concat]
      simp [sequence, counted, Nat.add_comm]
    · intro found member
      rw [flat, List.mem_append, List.mem_singleton] at member
      rcases member with earlier | rfl
      · exact book.keyed found earlier
      · exact keyed

/-- At the limit at least 64 recorded refusals turned away a resolved alert. -/
theorem reserve_of_commits (commits : Commits newProjection groups p)
    (full : (recordedRefusals groups.flatten).length = 256) :
    64 ≤ ((recordedRefusals groups.flatten).filter fun data =>
      data.summary.resolved.any (0 < ·)).length := by
  have accounts := accounts_of_commits commits
  have unreserved : ((recordedRefusals groups.flatten).filter fun data =>
      data.summary.unreserved).length ≤ 192 := by
    rw [recordedRefusals, ← accounts.unreserved]
    exact accounts.unreservedLimit
  have split := List.length_eq_length_filter_add (l := recordedRefusals groups.flatten)
    fun data => data.summary.resolved.any (0 < ·)
  have same : (fun data : IngressRefusalData => !(data.summary.resolved.any (0 < ·))) =
      fun data => data.summary.unreserved := rfl
  rw [same] at split
  omega

/-! ## Recording one refusal -/

/-- The handle is ready, and the clock and the factory answer. -/
structure Answers (journal : JournalHandle) (reading : Option Reading) (drawn : Option String)
    (stamp : Stamp) (eventId : String) : Prop where
  isOpen : journal.closed = false
  free : journal.hold = none
  read : journal.readAdmitStamp reading = some stamp
  minted : mintId drawn = some eventId

section Answers

variable {reading : Option Reading} {drawn : Option String} {stamp : Stamp} {eventId : String}

/-- A valid summary comes down to what its planner returns. -/
theorem Answers.recordRefusal_ensures (answers : Answers journal reading drawn stamp eventId)
    (valid : checkRefusalSummary summary = .ok ()) {returns : RefusalOutcome → JournalHandle → Prop}
    {raises : JournalCode → JournalHandle → Prop}
    (notRecorded : ∀ reason,
      planIngressRefusal journal.projection summary eventId stamp = .ok (.notRecorded reason) →
        returns (.notRecorded reason)
          (journal.bumpRefusalOutcome summary.code (.notRecorded reason)))
    (recorded : ∀ plan,
      planIngressRefusal journal.projection summary eventId stamp = .ok (.plan plan) →
        Ensures (commit plan) journal
          (fun _ next => returns .recorded (next.bumpRefusalOutcome summary.code .recorded)) raises)
    (planned : ∃ result, planIngressRefusal journal.projection summary eventId stamp = .ok result) :
    Ensures (recordRefusal summary reading drawn) journal returns raises := by
  obtain ⟨result, made⟩ := planned
  have checked : ((checkRefusalSummary summary).mapError fun _ => JournalCode.refusalInvalid) =
      .ok () := by rw [valid]; rfl
  simp only [recordRefusal, requireReady, ensures_bind, ensures_get, ensures_refuse,
    answers.isOpen, answers.free, ensures_orThrow, checked, answers.read, answers.minted, orLatch,
    made, ManyAlerts.planned, ensures_pure]
  simp only [Bool.false_eq_true, Option.isSome_none, not_false_eq_true, false_implies, true_and,
    forall_const, reduceCtorEq, implies_true]
  cases result with
  | notRecorded reason => exact notRecorded reason made
  | plan plan =>
      simp only [ensures_bind, ensures_modify, ensures_pure]
      exact recorded plan made

theorem Answers.stamped (answers : Answers journal reading drawn stamp eventId)
    (booted : Booted journal) : Stamped journal.projection stamp := by
  obtain ⟨reading, read, rfl⟩ := Option.map_eq_some_iff.mp answers.read
  simp only [readClock, Option.filter_eq_some_iff, Bool.and_eq_true, decide_eq_true_eq] at read
  exact ⟨booted answers.isOpen answers.free, read.2, read.1.2.1, read.1.2.2⟩

/-- A summary already recorded, up to its body, leaves the journal as it is. -/
theorem Answers.coalesces (answers : Answers journal reading drawn stamp eventId)
    (kept : KeptRows journal) (valid : checkRefusalSummary summary = .ok ())
    {data : IngressRefusalData} (member : data ∈ recordedRefusals journal.rows)
    (same : data.summary.Same summary) :
    Ensures (recordRefusal summary reading drawn) journal
      (fun result next => result = .notRecorded .coalesced ∧
        next = journal.bumpRefusalOutcome summary.code (.notRecorded .coalesced))
      fun _ _ => False := by
  obtain ⟨groups, grouped, commits⟩ := replay_eq_ok.mp kept
  have whole : groups.flatten = journal.rows := flatten_of_groupCommits grouped
  rw [← whole] at member
  have keyed := (refusalBook_of_commits commits).keyed data member
  rw [same.refusalKey] at keyed
  have found : data.refusalKey ∈ journal.projection.refusalKeys := by
    rw [(accounts_of_commits commits).refusalKeys, List.mem_toFinset]
    exact List.mem_map_of_mem member
  have made : planIngressRefusal journal.projection summary eventId stamp =
      .ok (.notRecorded .coalesced) := by
    simp [planIngressRefusal, keyed, found]
  refine answers.recordRefusal_ensures valid (fun reason again => ?_) (fun plan again => ?_)
    ⟨_, made⟩
  · rw [made] at again
    cases again
    exact ⟨rfl, rfl⟩
  · rw [made] at again
    cases again

/-- The record of a refusal is sealed and fits the ordinary region. -/
def RefusalFits (journal : JournalHandle) (summary : RefusalSummary) (eventId : String)
    (stamp : Stamp) : Prop :=
  ∃ key head bounds record, refusalKey summary = .ok key ∧ journal.projection.head = some head ∧
    journal.projection.bounds = some bounds ∧
    sealRecord ⟨eventId, .ingressRefusal ⟨summary, key, journal.projection.refusalCount + 1⟩⟩
      (singlePosition journal.projection head) stamp = .ok record ∧
    journal.projection.logicalBytes + record.charge ≤ bounds.ordinaryBytes

/-- The refusal was recorded as the next one. -/
def RecordedNext (journal : JournalHandle) (summary : RefusalSummary) (next : JournalHandle) :
    Prop :=
  ∃ record key, next.rows = journal.rows ++ [record] ∧ record.refusal? =
    some ⟨summary, key, (recordedRefusals journal.rows).length + 1⟩

/-- Below the limit, a new summary that turned away a resolved alert is recorded. -/
theorem Answers.writes (answers : Answers journal reading drawn stamp eventId)
    (kept : KeptRows journal) (booted : Booted journal)
    (valid : checkRefusalSummary summary = .ok ())
    (resolved : summary.resolved.any (0 < ·) = true)
    (fresh : ∀ data ∈ recordedRefusals journal.rows,
      refusalKey data.summary ≠ refusalKey summary)
    (newId : ∀ row ∈ journal.rows, row.eventId ≠ eventId)
    (fits : RefusalFits journal summary eventId stamp)
    (room : (recordedRefusals journal.rows).length ≠ 256) :
    Ensures (recordRefusal summary reading drawn) journal
      (fun result next => result = .recorded ∧ RecordedNext journal summary next)
      fun _ _ => False := by
  obtain ⟨groups, grouped, commits⟩ := replay_eq_ok.mp kept
  have whole : groups.flatten = journal.rows := flatten_of_groupCommits grouped
  have accounts := accounts_of_commits commits
  have counted : journal.projection.refusalCount = (recordedRefusals journal.rows).length := by
    rw [← whole]
    exact accounts.refusals
  obtain ⟨key, head, bounds, record, keyed, headEq, boundsEq, sealed, small⟩ := fits
  have unknown : key ∉ journal.projection.refusalKeys := by
    rw [accounts.refusalKeys, List.mem_toFinset, List.mem_map]
    rintro ⟨data, member, same⟩
    have stored := (refusalBook_of_commits commits).keyed data member
    rw [same, ← keyed] at stored
    exact fresh data (whole ▸ member) stored
  have below : journal.projection.refusalCount + 1 ≤ maxRefusalRecords := by
    have limit : journal.projection.refusalCount ≤ 256 := accounts.limit
    show _ ≤ 256
    omega
  obtain ⟨drafted, placed, stampedAs⟩ := sealRecord_eq_ok.mp sealed
  have made : planIngressRefusal journal.projection summary eventId stamp =
      .ok (.plan ⟨[record], record.charge⟩) := by
    refine planIngressRefusal_eq_plan.mpr ⟨key, head, bounds, record, keyed, unknown, below, ?_,
      headEq, boundsEq, ⟨drafted, placed, stampedAs, rfl, small⟩⟩
    intro unreserved
    simp [RefusalSummary.unreserved, resolved] at unreserved
  refine answers.recordRefusal_ensures valid (fun reason again => ?_) (fun plan again => ?_)
    ⟨_, made⟩
  · rw [made] at again
    cases again
  · rw [made] at again
    cases again
    have stamped := answers.stamped booted
    have ran : (PlannerCall.ingressRefusal summary eventId).run journal.projection stamp =
        .ok (some ⟨[record], record.charge⟩) := by simp [PlannerCall.run, made]
    have supplied : (PlannerCall.ingressRefusal summary eventId).Supplied
      journal.projection stamp :=
      ⟨stamped.boot, stamped.clock⟩
    obtain ⟨⟨delta, step⟩, -⟩ := PlannerCall.commitStep _ ⟨journal.rows, kept⟩ supplied ran
    have accepted : verifyCommit journal.projection [record] = .ok delta :=
      verifyCommit_iff.mpr step
    have own : record.eventId = eventId := congrArg Draft.eventId drafted
    have absent : findDuplicate journal.rows [record] = .absent :=
      findDuplicate_fresh (own ▸ newId)
    simp only [commit, absent, accepted, ensures_bind, ensures_get, ensures_set, ensures_pure]
    refine ⟨trivial, record, key, rfl, ?_⟩
    have payload := congrArg Draft.payload drafted
    rw [← counted]
    simp only [Record.refusal?, payload]

end Answers

/-! ## Every run -/

/-- The recorded refusals of a journal, and what recording one more does. -/
structure RefusalsCoalesced (journal : JournalHandle) : Prop where
  numbered : (recordedRefusals journal.rows).map IngressRefusalData.refusalSeq =
    List.range' 1 (recordedRefusals journal.rows).length
  distinct : (recordedRefusals journal.rows).Pairwise fun earlier later =>
    ¬earlier.summary.Same later.summary
  /-- A summary that was recorded before changes neither rows nor projection. -/
  coalesced : ∀ summary reading drawn stamp eventId, Answers journal reading drawn stamp eventId →
    checkRefusalSummary summary = .ok () →
    (∃ data ∈ recordedRefusals journal.rows, data.summary.Same summary) →
    Ensures (recordRefusal summary reading drawn) journal
      (fun result next => result = .notRecorded .coalesced ∧
        next = journal.bumpRefusalOutcome summary.code (.notRecorded .coalesced))
      fun _ _ => False
  /-- A new one that turned away a resolved alert is recorded, or the journal is full
  and 64 of its refusals are of this kind. -/
  reserved : ∀ summary reading drawn stamp eventId, Answers journal reading drawn stamp eventId →
    checkRefusalSummary summary = .ok () → summary.resolved.any (0 < ·) = true →
    (∀ row ∈ journal.rows, row.eventId ≠ eventId) →
    (∀ data ∈ recordedRefusals journal.rows,
      refusalKey data.summary = refusalKey summary → data.summary.Same summary) →
    (∀ data ∈ recordedRefusals journal.rows, ¬data.summary.Same summary) →
    RefusalFits journal summary eventId stamp →
    Ensures (recordRefusal summary reading drawn) journal
        (fun result next => result = .recorded ∧ RecordedNext journal summary next)
        (fun _ _ => False) ∨
      (recordedRefusals journal.rows).length = 256 ∧
        64 ≤ ((recordedRefusals journal.rows).filter fun data =>
          data.summary.resolved.any (0 < ·)).length
  /-- Only the hash can keep the record of a valid summary from being sealed. -/
  sealed : ∀ summary reading drawn stamp eventId, Answers journal reading drawn stamp eventId →
    checkRefusalSummary summary = .ok () → (recordedRefusals journal.rows).length ≠ 256 →
    ∃ key head, refusalKey summary = .ok key ∧ journal.projection.head = some head ∧
      (head.recordDigest ≠ zeroDigest → ∃ record, sealRecord
        ⟨eventId, .ingressRefusal ⟨summary, key, journal.projection.refusalCount + 1⟩⟩
        (singlePosition journal.projection head) stamp = .ok record)

theorem distinct_of_commits (commits : Commits newProjection groups p) :
    (recordedRefusals groups.flatten).Pairwise fun earlier later =>
      ¬earlier.summary.Same later.summary := by
  have keys := (accounts_of_commits commits).distinct
  have book := refusalBook_of_commits commits
  rw [List.Nodup, List.pairwise_map] at keys
  refine keys.imp_of_mem fun {earlier later} earlierIn laterIn differ same => differ ?_
  have first := book.keyed earlier earlierIn
  rw [same.refusalKey, book.keyed later laterIn] at first
  exact (Except.ok.inj first).symm

theorem seals_refusal {reading : Option Reading} {drawn : Option String} {stamp : Stamp}
    {eventId : String} (answers : Answers journal reading drawn stamp eventId)
    (kept : KeptRows journal) (booted : Booted journal)
    (valid : checkRefusalSummary summary = .ok ())
    (room : journal.projection.refusalCount + 1 ≤ maxRefusalRecords) :
    ∃ key head, refusalKey summary = .ok key ∧ journal.projection.head = some head ∧
      (head.recordDigest ≠ zeroDigest → ∃ record, sealRecord
        ⟨eventId, .ingressRefusal ⟨summary, key, journal.projection.refusalCount + 1⟩⟩
        (singlePosition journal.projection head) stamp = .ok record) := by
  obtain ⟨key, keyed, hex⟩ := refusalKey_of_valid valid
  have stamped := answers.stamped booted
  have reachable : Reachable journal.projection := ⟨journal.rows, kept⟩
  obtain ⟨head, bounds, live⟩ := reachable.live_of_boot stamped.boot
  have validId : isId eventId = true := (Option.filter_eq_some_iff.mp answers.minted).2
  refine ⟨key, head, keyed, live.head_eq, fun linked => ?_⟩
  have small : journal.projection.refusalCount + 1 ≤ maxSafeInteger := room.trans (by decide)
  have checked : validatePayload eventId
      (.ingressRefusal ⟨summary, key, journal.projection.refusalCount + 1⟩) = .ok () := by
    simp [validatePayload, validateIngressRefusal, valid, hex, room]
  have data : Fits 2 _ (.obj (Payload.ingressRefusal
      ⟨summary, key, journal.projection.refusalCount + 1⟩).data) :=
    fits_obj (by decide) <|
    fitsMembers_cons rfl (fits_literal rfl) <|
    fitsMembers_cons rfl (refusalSummary_fits valid (by decide)) <|
    fitsMembers_cons rfl (fits_hex64 hex) <|
    fitsMembers_cons rfl (fits_nat small) fitsMembers_nil
  exact (reachable_sound reachable live).seals_next live stamped linked validId checked
    (fits_obj (by decide) fitsMembers_nil) data (by decide) rfl

theorem coalesced_of_kept (kept : KeptRows journal) (booted : Booted journal) :
    RefusalsCoalesced journal := by
  obtain ⟨groups, grouped, commits⟩ := replay_eq_ok.mp kept
  have whole : groups.flatten = journal.rows := flatten_of_groupCommits grouped
  have accounts := accounts_of_commits commits
  constructor
  · rw [← whole]
    exact (refusalBook_of_commits commits).numbered
  · rw [← whole]
    exact distinct_of_commits commits
  · intro summary reading drawn stamp eventId answers valid recorded
    obtain ⟨data, member, same⟩ := recorded
    exact answers.coalesces kept valid member same
  · intro summary reading drawn stamp eventId answers valid resolved newId injective differ fits
    by_cases full : (recordedRefusals journal.rows).length = 256
    · rw [← whole] at full ⊢
      exact .inr ⟨full, reserve_of_commits commits full⟩
    · exact .inl (answers.writes kept booted valid resolved
        (fun data member same => differ data member (injective data member same)) newId fits full)
  · intro summary reading drawn stamp eventId answers valid room
    refine seals_refusal answers kept booted valid ?_
    have limit : journal.projection.refusalCount ≤ 256 := accounts.limit
    have counted : journal.projection.refusalCount = (recordedRefusals journal.rows).length := by
      rw [← whole]
      exact accounts.refusals
    show _ ≤ 256
    omega

/-- After any calls on a created journal, refusals are coalesced and the reserve of
the resolved ones is kept. -/
theorem refusals_coalesced {bounds : JournalBounds} {uuid bootId eventId : Option String}
    {reading : Option Reading} {created journal : JournalHandle} {calls : List HandleCall}
    (creates : createRecoveryJournal bounds uuid bootId eventId reading = some created)
    (run : Run HandleStep created calls journal) : RefusalsCoalesced journal := by
  obtain ⟨kept, booted⟩ := createRecoveryJournal_kept creates
  obtain ⟨kept, booted⟩ := kept_of_run kept booted run
  exact coalesced_of_kept kept booted

/-- A notification with one resolved alert that had too many values. -/
def sampleSummary : RefusalSummary where
  alerts := some 1
  bodyBytes := 0
  bodyDigest := some zeroDigest
  code := .tooManyValues
  members := [("fp-1", .resolved)]
  membersOmitted := 0
  refusedGroup := none
  resolved := some 1
  sourceGroup := some zeroDigest

def sampleReading : Reading := ("2026-01-01T00:00:00.000000Z", 1)

/-- The same refusal twice. -/
def sampleRefusals : List HandleCall :=
  [.recordRefusal sampleSummary (some sampleReading) (some "refusal-1"),
    .recordRefusal sampleSummary (some sampleReading) (some "refusal-2")]

theorem refusals_coalesced_sample : ∃ created journal,
    createRecoveryJournal {} (some "00000000-0000-4000-8000-000000000001") (some "boot-1")
        (some "genesis-1") (some sampleReading) = some created ∧
      Run HandleStep created sampleRefusals journal ∧
      (recordedRefusals journal.rows).length = 1 ∧ RefusalsCoalesced journal := by
  have evaluated : (createRecoveryJournal {} (some "00000000-0000-4000-8000-000000000001")
      (some "boot-1") (some "genesis-1") (some sampleReading)).map (fun created =>
        (recordedRefusals (sampleRefusals.foldl (fun journal call =>
          (outcome call.run journal).2) created).rows).length) = some 1 := by
    decide +kernel
  obtain ⟨created, creates, counted⟩ := Option.map_eq_some_iff.mp evaluated
  have step (journal : JournalHandle) (drawn : String) : HandleStep journal
      (.recordRefusal sampleSummary (some sampleReading) (some drawn)) _ :=
    ⟨rfl, fun _ _ other => by cases other⟩
  have run : Run HandleStep created sampleRefusals _ :=
    (Run.start.turn (step created "refusal-1")).turn (step _ "refusal-2")
  exact ⟨created, _, creates, run, counted, refusals_coalesced creates run⟩

end ManyAlerts
