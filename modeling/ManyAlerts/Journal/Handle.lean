import ManyAlerts.Journal.Admission
import ManyAlerts.Journal.Planners
import ManyAlerts.Library.Runs
import ManyAlerts.Library.Stateful

/-!
# The journal handle

The methods by which a receiver admits a notification or records a refusal, and
the restart an open commits.  A method is given the clock reading and the
identifiers it will draw as arguments, absent where the clock or the factory
fails.  The journal is healthy: its store appends the records it is given, and
what it hands out at the next open are the rows it holds.

A handle that has met a fault latches it and refuses from then on.  Whatever the
calls are, the rows of a handle replay to its projection.
-/

namespace ManyAlerts

/-- The codes of `JournalError` that these methods raise. -/
inductive JournalCode where
  | closed
  | held
  | sourceInvalid
  | refusalInvalid
  | clockInvalid
  | divergence
  | capacityRecovery
  | resumeInvalid
  | resumeStale
  | recoveryFinding
  | capacity (code : CapacityCode)
  /-- An error of another module that the method does not catch. -/
  | uncaught (failure : Failure)
deriving DecidableEq

/-- `REFUSAL_OUTCOMES`. -/
inductive RefusalOutcome where
  | recorded
  | notRecorded (reason : RefusalReason)
deriving DecidableEq

structure JournalHandle where
  rows : List Record
  projection : Projection
  bootId : String
  closed : Bool := false
  /-- The code of `_hold_detail`. -/
  hold : Option JournalCode := none
  refusalsThisBoot : Dict CapacityCode (Nat × String) := .empty
  refusalOutcomesThisBoot : Dict IngressCode (Dict RefusalOutcome Nat) := .empty

abbrev HandleM := EStateM JournalCode JournalHandle

/-! ## Clocks and identifiers -/

/-- `_mint_id`. -/
def mintId (drawn : Option String) : Option String := drawn.filter isId

/-- A wall time and a monotonic time in microseconds. -/
abbrev Reading := String × Nat

/-- `_read_clock`. -/
def readClock (reading : Option Reading) : Option Reading :=
  reading.filter fun reading => isWallTime reading.1 && reading.2 ≤ maxSeq

/-- `_read_admit_stamp`. -/
def JournalHandle.readAdmitStamp (journal : JournalHandle) (reading : Option Reading) :
    Option Stamp :=
  ((readClock reading).filter fun reading => journal.projection.lastMonoUs ≤ reading.2).map
    fun reading => ⟨journal.bootId, reading.1, reading.2⟩

/-! ## Latching -/

/-- `_latch`: the first fault stays. -/
def JournalHandle.latch (journal : JournalHandle) (code : JournalCode) : JournalHandle :=
  { journal with hold := journal.hold.or (some code) }

/-- `_latched_error`. -/
def latchedError {α : Type} (code : JournalCode) : HandleM α := do
  modify fun journal => journal.latch code
  throw code

/-- The value of an option; its absence latches the code and raises it. -/
def orLatch {α : Type} (code : JournalCode) : Option α → HandleM α
  | none => latchedError code
  | some value => pure value

/-- The result of a planner.  Only a `RecordError` is caught, and read as divergence. -/
def planned {α : Type} : Except Failure α → HandleM α
  | .ok value => pure value
  | .error (.record _) => latchedError .divergence
  | .error failure => throw (.uncaught failure)

def requireReady : HandleM Unit := do
  let journal ← get
  refuse (journal.closed = true) .closed
  refuse (journal.hold.isSome) .held

/-! ## Committing -/

/-- `_same_commit`: the stored rows are one whole commit with the content of the records. -/
def sameCommit (first : Record) (stored records : List Record) : Bool :=
  stored.length = records.length &&
    (stored.zip records).zipIdx.all fun ((old, new), index) =>
      old.position.eventSeq = first.position.eventSeq + index && old.eventId = new.eventId &&
        old.position.commitSeq = first.position.commitSeq && old.position.commitIndex = index &&
        old.position.commitSize = records.length && contentDigest old = contentDigest new

inductive Lookup where
  | absent
  | duplicate (eventSeqs : List Nat)
  | conflict

/-- `find_duplicate`. -/
def findDuplicate (rows records : List Record) : Lookup :=
  match rows.filter fun row => records.any fun record => record.eventId = row.eventId with
  | [] => .absent
  | first :: others =>
      if sameCommit first (first :: others) records then
        .duplicate ((first :: others).map fun row => row.position.eventSeq)
      else .conflict

/-- `_commit`, the only write path. -/
def commit (plan : Plan) : HandleM (List Nat) := do
  let journal ← get
  match findDuplicate journal.rows plan.records with
  | .conflict => latchedError .divergence
  | .duplicate eventSeqs => return eventSeqs
  | .absent =>
      match verifyCommit journal.projection plan.records with
      | .error (.replay _) => latchedError .divergence
      | .error failure => throw (.uncaught failure)
      | .ok delta =>
          set { journal with
            rows := journal.rows ++ plan.records
            projection := applyDelta journal.projection delta }
          return plan.records.map fun record => record.position.eventSeq

/-! ## Admissions -/

structure AdmissionReceipt where
  admissionId : String
  commitSeq : Nat
  eventSeqs : List Nat
  /-- The arrival, decision and holds of the plan's outcome. -/
  admission : AdmissionData
  /-- Its result, group, key and superseded entries. -/
  dedupe : DedupeDecisionData

/-- The two payloads the outcome of an admission's plan repeats. -/
def Plan.outcome? (plan : Plan) : Option (AdmissionData × DedupeDecisionData) :=
  match plan.records with
  | [first, second] =>
      match first.payload, second.payload with
      | .admission admission, .dedupeDecision dedupe => some (admission, dedupe)
      | _, _ => none
  | _ => none

/-- `_bump_refusal`. -/
def JournalHandle.bumpRefusal (journal : JournalHandle) (code : CapacityCode) (digest : String) :
    JournalHandle :=
  let count := ((journal.refusalsThisBoot.get? code).map Prod.fst).getD 0
  { journal with refusalsThisBoot := journal.refusalsThisBoot.set code (count + 1, digest) }

/-- `_capacity_refusal`: count it, write its first hold, and raise its code. -/
def capacityRefusal {α : Type} (refusal : CapacityRefusal) (source : SourceRecord) (stamp : Stamp)
    (holdId : Option String) : HandleM α := do
  let digest ← orThrow ((sourceDigest source).mapError .uncaught)
  modify fun journal => journal.bumpRefusal refusal.code digest
  let holdEventId ← orLatch .divergence (mintId holdId)
  let journal ← get
  let hold ← planned (planCapacityHold journal.projection refusal holdEventId stamp digest)
  match hold with
  | none => throw (.capacity refusal.code)
  | some (.refused _) => latchedError .capacityRecovery
  | some (.plan plan) =>
      let _ ← commit plan
      throw (.capacity refusal.code)

/-- What an admission draws: the clock and three identifiers. -/
structure AdmissionDraws where
  reading : Option Reading
  admissionId : Option String
  dedupeEventId : Option String
  holdId : Option String

def admitNotification (source : SourceRecord) (draws : AdmissionDraws) :
    HandleM AdmissionReceipt := do
  requireReady
  let valid ← orThrow ((validateSource source).mapError fun _ => .sourceInvalid)
  let journal ← get
  let stamp ← orLatch .clockInvalid (journal.readAdmitStamp draws.reading)
  let admissionId ← orLatch .divergence (mintId draws.admissionId)
  let dedupeEventId ← orLatch .divergence
    ((mintId draws.dedupeEventId).filter fun drawn => drawn ≠ admissionId)
  let result ← planned (planAdmission journal.projection valid admissionId dedupeEventId stamp)
  match result with
  | .refused refusal => capacityRefusal refusal valid stamp draws.holdId
  | .plan plan =>
      let eventSeqs ← commit plan
      let after ← get
      let head ← orRaise (.uncaught .attributeError) after.projection.head
      let outcome ← orRaise (.uncaught .keyError) plan.outcome?
      return ⟨admissionId, head.commitSeq, eventSeqs, outcome.1, outcome.2⟩

/-- `admission_precheck`. -/
def JournalHandle.admissionPrecheck (journal : JournalHandle) : Option CapacityCode :=
  if journal.closed = true ∨ journal.hold.isSome then none
  else if journal.projection.dispatchHolds.contains (.capacity .admissions) then some .admissions
  else none

/-! ## Refusals -/

/-- `_bump_refusal_outcome`. -/
def JournalHandle.bumpRefusalOutcome (journal : JournalHandle) (code : IngressCode)
    (outcome : RefusalOutcome) : JournalHandle :=
  let bucket := (journal.refusalOutcomesThisBoot.get? code).getD .empty
  { journal with
    refusalOutcomesThisBoot :=
      journal.refusalOutcomesThisBoot.set code
        (bucket.set outcome ((bucket.get? outcome).getD 0 + 1)) }

/-- `record_refusal`, for a summary whose members are pairs. -/
def recordRefusal (summary : RefusalSummary) (reading : Option Reading) (drawn : Option String) :
    HandleM RefusalOutcome := do
  requireReady
  orThrow ((checkRefusalSummary summary).mapError fun _ => .refusalInvalid)
  let journal ← get
  let stamp ← orLatch .clockInvalid (journal.readAdmitStamp reading)
  let eventId ← orLatch .divergence (mintId drawn)
  let result ← planned (planIngressRefusal journal.projection summary eventId stamp)
  match result with
  | .notRecorded reason =>
      modify fun journal => journal.bumpRefusalOutcome summary.code (.notRecorded reason)
      return .notRecorded reason
  | .plan plan =>
      let _ ← commit plan
      modify fun journal => journal.bumpRefusalOutcome summary.code .recorded
      return .recorded

/-! ## Create and open -/

/-- `create_recovery_journal`, on a store that takes the genesis. -/
def createRecoveryJournal (bounds : JournalBounds) (uuid bootId eventId : Option String)
    (reading : Option Reading) : Option JournalHandle := do
  let journalUuid ← mintId uuid
  let bootId ← mintId bootId
  let eventId ← mintId eventId
  let reading ← readClock reading
  let genesis ← (planGenesis journalUuid bounds eventId ⟨bootId, reading.1, reading.2⟩).toOption
  let delta ← (verifyCommit newProjection genesis.records).toOption
  return { rows := genesis.records, projection := applyDelta newProjection delta, bootId }

/-- What a restart draws, and what the open found of the anchor and the log. -/
structure RestartDraws where
  openId : Option String
  bootId : Option String
  reading : Option Reading
  eventId : Option String
  anchorLag : Nat
  walFound : Option WalFound

/-- `_run_restart_recovery`: a fault latches and ends it. -/
def runRestartRecovery (draws : RestartDraws) : HandleM Unit := do
  let journal ← get
  match mintId draws.bootId with
  | none => modify fun journal => journal.latch .divergence
  | some newBootId =>
  match readClock draws.reading with
  | none => modify fun journal => journal.latch .clockInvalid
  | some reading =>
  match mintId draws.eventId with
  | none => modify fun journal => journal.latch .divergence
  | some eventId =>
  match planRestart journal.projection eventId ⟨newBootId, reading.1, reading.2⟩ draws.anchorLag
      draws.walFound with
  | .error (.record _) => modify fun journal => journal.latch .divergence
  | .error failure => throw (.uncaught failure)
  | .ok (.refused _) => modify fun journal => journal.latch .capacityRecovery
  | .ok (.plan plan) =>
      let committed ← tryCatch (do let _ ← commit plan; return true) fun
        | .uncaught failure => throw (.uncaught failure)
        | _ => return false
      if committed then modify fun journal => { journal with bootId := newBootId }

structure ResumeRequest where
  token : String
  operator : String
  reason : String

/-- What a resume draws. -/
structure ResumeDraws where
  reading : Option Reading
  eventId : Option String

/-- `_resume_at_open`, right after a restart that committed. -/
def resumeAtOpen (resume : ResumeRequest) (draws : ResumeDraws) : HandleM Unit := do
  let journal ← get
  if ¬journal.projection.dispatchHolds.contains .restartRecovery then return
  if privateClaimsOutstanding journal.projection then return
  match mintId draws.eventId with
  | none => modify fun journal => journal.latch .divergence
  | some eventId =>
  match journal.readAdmitStamp draws.reading with
  | none => modify fun journal => journal.latch .clockInvalid
  | some stamp =>
  match planOperatorResume journal.projection eventId stamp resume.operator resume.reason with
  | .error (.record _) => modify fun journal => journal.latch .divergence
  | .error failure => throw (.uncaught failure)
  | .ok (.refused _) => modify fun journal => journal.latch .capacityRecovery
  | .ok (.plan plan) =>
      tryCatch (do let _ ← commit plan) fun
        | .uncaught failure => throw (.uncaught failure)
        | _ => return

def resumeIfAsked (resume : Option (ResumeRequest × ResumeDraws)) : HandleM Unit := do
  let journal ← get
  match resume with
  | some (request, draws) => if journal.hold.isNone then resumeAtOpen request draws
  | none => return

/-- `_check_resume_request`. -/
def ResumeRequest.ok (resume : ResumeRequest) : Bool :=
  isHex64 resume.token && isId resume.operator && isId resume.reason

/-- Close the journal and open it again: `open_recovery_journal`. -/
def reopen (resume : Option (ResumeRequest × ResumeDraws)) (draws : RestartDraws) :
    HandleM Unit := do
  modify fun journal => { journal with closed := true }
  refuse (∃ request ∈ resume, request.1.ok = false) .resumeInvalid
  let journal ← get
  match replay journal.rows with
  | .error _ => set { journal with closed := false, hold := some .recoveryFinding }
  | .ok candidate =>
  match mintId draws.openId with
  | none =>
      set { rows := journal.rows, projection := candidate, bootId := journal.bootId,
            hold := some .divergence : JournalHandle }
  | some openId =>
      refuse (∃ request ∈ resume,
        some request.1.token ≠ candidate.head.map Head.recordDigest) .resumeStale
      set { rows := journal.rows, projection := candidate, bootId := openId : JournalHandle }
      -- An exit that is not clean closes the store again.
      tryCatch (do runRestartRecovery draws; resumeIfAsked resume) fun code => do
        modify fun journal => { journal with closed := true }
        throw code

/-! ## The rows replay to the projection -/

/-- What a call did: it appended whole commits that replay accepts. -/
def AppendsRows (journal next : JournalHandle) : Prop :=
  ∃ groups, next.rows = journal.rows ++ groups.flatten ∧
    Commits journal.projection groups next.projection

theorem AppendsRows.same {journal next : JournalHandle} (rows : next.rows = journal.rows)
    (projection : next.projection = journal.projection) : AppendsRows journal next :=
  ⟨[], by simp [rows], commits_nil.mpr projection.symm⟩

theorem AppendsRows.refl (journal : JournalHandle) : AppendsRows journal journal := .same rfl rfl

theorem AppendsRows.trans {journal middle next : JournalHandle} (first : AppendsRows journal middle)
    (second : AppendsRows middle next) : AppendsRows journal next := by
  obtain ⟨before, beforeRows, beforeCommits⟩ := first
  obtain ⟨after, afterRows, afterCommits⟩ := second
  refine ⟨before ++ after, ?_, commits_append.mpr ⟨_, beforeCommits, afterCommits⟩⟩
  rw [afterRows, beforeRows, List.flatten_append, List.append_assoc]

/-- The rows replay to the projection. -/
def KeptRows (journal : JournalHandle) : Prop := replay journal.rows = .ok journal.projection

theorem KeptRows.appends {journal next : JournalHandle} (kept : KeptRows journal)
    (appends : AppendsRows journal next) : KeptRows next := by
  obtain ⟨done, grouped, commits⟩ := replay_eq_ok.mp kept
  obtain ⟨groups, rows, more⟩ := appends
  have whole := replay_flatten (commits_append.mpr ⟨_, commits, more⟩)
  rwa [List.flatten_append, flatten_of_groupCommits grouped, List.nil_append, ← rows] at whole

/-- A ready handle stamps its records with the boot of its projection. -/
def Booted (journal : JournalHandle) : Prop :=
  journal.closed = false → journal.hold = none →
    journal.projection.bootId = some journal.bootId

/-- What a call of the current boot did. -/
structure Stays (journal next : JournalHandle) : Prop where
  appends : AppendsRows journal next
  bootId : next.bootId = journal.bootId
  closed : next.closed = journal.closed
  hold : next.hold = none → journal.hold = none
  boot : journal.projection.bootId = some journal.bootId →
    next.projection.bootId = some journal.bootId

section Stays

variable {α : Type} {journal middle next : JournalHandle} {plan : Plan}

theorem Stays.of_eq (rows : next.rows = journal.rows)
    (projection : next.projection = journal.projection) (bootId : next.bootId = journal.bootId)
    (closed : next.closed = journal.closed) (hold : next.hold = none → journal.hold = none) :
    Stays journal next where
  appends := .same rows projection
  bootId := bootId
  closed := closed
  hold := hold
  boot := fun booted => by rw [projection, booted]

theorem Stays.refl (journal : JournalHandle) : Stays journal journal := .of_eq rfl rfl rfl rfl id

theorem Stays.trans (first : Stays journal middle) (second : Stays middle next) :
    Stays journal next where
  appends := first.appends.trans second.appends
  bootId := second.bootId.trans first.bootId
  closed := second.closed.trans first.closed
  hold := first.hold ∘ second.hold
  boot := by
    intro booted
    have reached := first.boot booted
    rw [← first.bootId] at reached ⊢
    exact second.boot reached

theorem Stays.booted (stays : Stays journal next) (booted : Booted journal) : Booted next := by
  intro isOpen free
  rw [stays.bootId]
  exact stays.boot (booted (stays.closed ▸ isOpen) (stays.hold free))

theorem stays_latch (journal : JournalHandle) (code : JournalCode) :
    Stays journal (journal.latch code) := by
  refine .of_eq rfl rfl rfl rfl fun free => ?_
  simp [JournalHandle.latch] at free

theorem latchedError_stays (code : JournalCode) (returns : α → JournalHandle → Prop) :
    Ensures (latchedError code : HandleM α) journal returns fun _ => Stays journal := by
  simp only [latchedError, ensures_bind, ensures_modify, ensures_throw]
  exact stays_latch journal code

theorem orLatch_stays {code : JournalCode} {option : Option α} :
    Ensures (orLatch code option) journal
      (fun value after => after = journal ∧ option = some value) fun _ => Stays journal := by
  cases option with
  | none => exact latchedError_stays code _
  | some value => exact ⟨rfl, rfl⟩

theorem planned_stays {result : Except Failure α} :
    Ensures (planned result) journal
      (fun value after => after = journal ∧ result = .ok value) fun _ => Stays journal := by
  unfold planned
  split
  · exact ⟨rfl, rfl⟩
  · exact latchedError_stays _ _
  · exact .refl journal

theorem requireReady_stays :
    Ensures requireReady journal
      (fun _ after => after = journal ∧ journal.closed = false ∧ journal.hold = none)
      fun _ => Stays journal := by
  simp only [requireReady, ensures_bind, ensures_get, ensures_refuse]
  refine ⟨fun _ => .refl journal, fun isOpen => ⟨fun _ => .refl journal, fun free => ?_⟩⟩
  exact ⟨trivial, by simpa using isOpen, by simpa using free⟩

/-- An accepted commit leaves the projection in the boot of its records. -/
theorem CommitStep.bootId_stamp {p : Projection} {records : List Record} {delta : Delta}
    (step : CommitStep p records delta) :
    ∃ record ∈ records, delta.bootId = record.stamp.bootId := by
  cases step with
  | genesis payload position headless anonymous => exact ⟨_, List.mem_singleton_self _, rfl⟩
  | restart payload position fresh previous headEq recovered boundsEq fits =>
      exact ⟨_, List.mem_singleton_self _, rfl⟩
  | current position boot clock claim =>
      exact ⟨_, List.mem_singleton_self _, claim.basic.bootId⟩
  | admission position dedupePosition stamp boot clock pair =>
      exact ⟨_, List.mem_cons_of_mem _ (List.mem_singleton_self _), rfl⟩

/-- `commit` appends the whole plan, or nothing. -/
inductive Committed (journal : JournalHandle) (records : List Record) (next : JournalHandle) :
    Prop where
  | nothing (rows : next.rows = journal.rows) (projection : next.projection = journal.projection)
  | appended {delta : Delta} (accepted : verifyCommit journal.projection records = .ok delta)
      (rows : next.rows = journal.rows ++ records)
      (projection : next.projection = applyDelta journal.projection delta)

theorem commit_committed :
    Ensures (commit plan) journal
      (fun _ next => Committed journal plan.records next ∧ next.bootId = journal.bootId ∧
        next.closed = journal.closed ∧ next.hold = journal.hold)
      fun _ => Stays journal := by
  simp only [commit, ensures_bind, ensures_get]
  split
  · exact latchedError_stays _ _
  · exact ⟨.nothing rfl rfl, rfl, rfl, rfl⟩
  · split
    · exact latchedError_stays _ _
    · exact .refl journal
    · rename_i accepted
      exact ⟨.appended accepted rfl rfl, rfl, rfl, rfl⟩

theorem Committed.appends {records : List Record} (committed : Committed journal records next) :
    AppendsRows journal next := by
  cases committed with
  | nothing rows projection => exact .same rows projection
  | appended accepted rows projection =>
      exact ⟨[records], by simpa using rows,
        commits_singleton.mpr ⟨_, accepted, projection.symm⟩⟩

theorem commit_stays
    (stamped : ∀ record ∈ plan.records, record.stamp.bootId = journal.bootId) :
    Ensures (commit plan) journal (fun _ => Stays journal) fun _ => Stays journal := by
  refine commit_committed.mono (fun _ next ended => ?_) fun _ _ => id
  obtain ⟨committed, bootId, closed, hold⟩ := ended
  refine ⟨committed.appends, bootId, closed, fun free => hold ▸ free, fun booted => ?_⟩
  cases committed with
  | nothing rows projection => rw [projection, booted]
  | appended accepted rows projection =>
      obtain ⟨record, member, boot⟩ := (verifyCommit_iff.mp accepted).bootId_stamp
      rw [projection, ← stamped record member, ← boot]
      rfl

/-! ## Methods -/

theorem stamp_boot {reading : Option Reading} {stamp : Stamp}
    (read : journal.readAdmitStamp reading = some stamp) : stamp.bootId = journal.bootId := by
  obtain ⟨reading, -, rfl⟩ := Option.map_eq_some_iff.mp read
  rfl

theorem commit_one_stays {record : Record} {stamp : Stamp} (one : plan.records = [record])
    (stamped : record.stamp = stamp) (boot : stamp.bootId = journal.bootId) :
    Ensures (commit plan) journal (fun _ => Stays journal) fun _ => Stays journal := by
  refine commit_stays fun found member => ?_
  rw [one] at member
  rw [List.mem_singleton.mp member, stamped, boot]

theorem recordRefusal_stays {summary : RefusalSummary} {reading : Option Reading}
    {drawn : Option String} :
    Ensures (recordRefusal summary reading drawn) journal (fun _ => Stays journal)
      fun _ => Stays journal := by
  unfold recordRefusal
  rw [ensures_bind]
  refine requireReady_stays.mono ?_ fun _ _ => id
  rintro - _ ⟨rfl, -, -⟩
  simp only [ensures_bind, ensures_orThrow, ensures_get]
  refine ⟨fun _ _ => .refl _, fun _ _ => ?_⟩
  refine orLatch_stays.mono ?_ fun _ _ => id
  rintro stamp _ ⟨rfl, read⟩
  refine orLatch_stays.mono ?_ fun _ _ => id
  rintro eventId _ ⟨rfl, -⟩
  refine planned_stays.mono ?_ fun _ _ => id
  rintro result after ⟨rfl, made⟩
  cases result with
  | notRecorded reason => exact .of_eq rfl rfl rfl rfl id
  | plan plan =>
      obtain ⟨key, head, bounds, record, -, -, -, -, -, -, plans⟩ :=
        planIngressRefusal_eq_plan.mp made
      rw [ensures_bind]
      refine (commit_one_stays (by rw [plans.plan_eq]) plans.stamp_eq (stamp_boot read)).mono
        (fun _ reached stays => ?_) fun _ _ => id
      exact stays.trans (.of_eq rfl rfl rfl rfl id)

theorem capacityRefusal_stays {refusal : CapacityRefusal} {source : SourceRecord} {stamp : Stamp}
    {holdId : Option String} (boot : stamp.bootId = journal.bootId) :
    Ensures (capacityRefusal refusal source stamp holdId : HandleM α) journal
      (fun _ => Stays journal) fun _ => Stays journal := by
  unfold capacityRefusal
  simp only [ensures_bind, ensures_orThrow, ensures_modify, ensures_get]
  refine ⟨fun _ _ => .refl _, fun digest _ => ?_⟩
  have bumped : Stays journal (journal.bumpRefusal refusal.code digest) := .of_eq rfl rfl rfl rfl id
  refine orLatch_stays.mono ?_ fun _ _ => bumped.trans
  rintro holdEventId _ ⟨rfl, -⟩
  refine planned_stays.mono ?_ fun _ _ => bumped.trans
  rintro hold after ⟨rfl, made⟩
  cases hold with
  | none => exact bumped
  | some result =>
      cases result with
      | refused other =>
          exact (latchedError_stays _ _).mono (fun _ _ => id) fun _ _ => bumped.trans
      | plan plan =>
          obtain ⟨-, head, bounds, record, -, -, plans⟩ := planCapacityHold_eq_plan.mp made
          rw [ensures_bind]
          refine (commit_one_stays (by rw [plans.plan_eq]) plans.stamp_eq ?_).mono
            (fun _ reached stays => bumped.trans stays) fun _ _ => bumped.trans
          exact boot

theorem admitNotification_stays {source : SourceRecord} {draws : AdmissionDraws} :
    Ensures (admitNotification source draws) journal (fun _ => Stays journal)
      fun _ => Stays journal := by
  unfold admitNotification
  rw [ensures_bind]
  refine requireReady_stays.mono ?_ fun _ _ => id
  rintro - _ ⟨rfl, -, -⟩
  simp only [ensures_bind, ensures_orThrow, ensures_get]
  refine ⟨fun _ _ => .refl _, fun _ _ => ?_⟩
  refine orLatch_stays.mono ?_ fun _ _ => id
  rintro stamp _ ⟨rfl, read⟩
  refine orLatch_stays.mono ?_ fun _ _ => id
  rintro admissionId _ ⟨rfl, -⟩
  refine orLatch_stays.mono ?_ fun _ _ => id
  rintro dedupeEventId _ ⟨rfl, -⟩
  refine planned_stays.mono ?_ fun _ _ => id
  rintro result after ⟨rfl, made⟩
  cases result with
  | refused refusal => exact capacityRefusal_stays (stamp_boot read)
  | plan plan =>
      obtain ⟨head, bounds, key, digest, admission, dedupe, plans⟩ :=
        planAdmission_eq_plan.mp made
      simp only [ensures_bind, ensures_get, ensures_orRaise, ensures_pure]
      refine (commit_stays fun found member => ?_).mono (fun _ reached stays => ?_) fun _ _ => id
      · rw [plans.plan_eq] at member
        simp only [List.mem_cons, List.not_mem_nil, or_false] at member
        rcases member with rfl | rfl
        · rw [plans.admission_stamp, stamp_boot read]
        · rw [plans.dedupe_stamp, stamp_boot read]
      · exact ⟨fun _ => stays, fun _ _ => ⟨fun _ => stays, fun _ _ => stays⟩⟩

theorem resumeAtOpen_stays {resume : ResumeRequest} {draws : ResumeDraws} :
    Ensures (resumeAtOpen resume draws) journal (fun _ => Stays journal)
      fun _ => Stays journal := by
  unfold resumeAtOpen
  simp only [ensures_bind, ensures_get]
  split_ifs with held claimed
  · exact Stays.refl journal
  · split
    · exact stays_latch journal _
    · split
      · exact stays_latch journal _
      · rename_i stamp read
        split
        · exact stays_latch journal _
        · exact Stays.refl journal
        · exact stays_latch journal _
        · rename_i plan made
          obtain ⟨-, _, _, _, _, _, record, -, -, -, -, -, plans⟩ :=
            planOperatorResume_eq_plan.mp made
          simp only [ensures_tryCatch, ensures_bind]
          refine (commit_one_stays (by rw [plans.plan_eq]) plans.stamp_eq (stamp_boot read)).mono
            (fun _ _ => id) fun code next stays => ?_
          split <;> exact stays
  · exact Stays.refl journal

theorem resumeIfAsked_stays {resume : Option (ResumeRequest × ResumeDraws)} :
    Ensures (resumeIfAsked resume) journal (fun _ => Stays journal) fun _ => Stays journal := by
  unfold resumeIfAsked
  simp only [ensures_bind, ensures_get]
  split
  · split_ifs
    · exact resumeAtOpen_stays
    · exact Stays.refl journal
  · exact Stays.refl journal

/-- The event identifier a restart draws is not one of the journal's. -/
def RestartDraws.Fresh (draws : RestartDraws) (rows : List Record) : Prop :=
  ∀ eventId ∈ draws.eventId, ∀ row ∈ rows, row.eventId ≠ eventId

theorem findDuplicate_fresh {rows : List Record} {record : Record}
    (fresh : ∀ row ∈ rows, row.eventId ≠ record.eventId) :
    findDuplicate rows [record] = .absent := by
  have none : rows.filter (fun row => [record].any fun record => record.eventId = row.eventId) =
      [] := by
    rw [List.filter_eq_nil_iff]
    intro row member
    simpa using fun same => fresh row member same.symm
  simp only [findDuplicate, none]

/-- A restart appends at most its own commit, and a handle it leaves ready is in
the boot it opened. -/
theorem runRestartRecovery_restarts {draws : RestartDraws} (fresh : draws.Fresh journal.rows) :
    Ensures (runRestartRecovery draws) journal
      (fun _ next => AppendsRows journal next ∧ Booted next)
      fun _ next => AppendsRows journal next := by
  have latched (code : JournalCode) :
      AppendsRows journal (journal.latch code) ∧ Booted (journal.latch code) := by
    refine ⟨(stays_latch journal code).appends, fun _ free => ?_⟩
    simp [JournalHandle.latch] at free
  unfold runRestartRecovery
  simp only [ensures_bind, ensures_get]
  split
  · exact latched _
  · rename_i newBootId minted
    split
    · exact latched _
    · rename_i reading read
      split
      · exact latched _
      · rename_i eventId drawn
        split
        · exact latched _
        · exact AppendsRows.refl journal
        · exact latched _
        · rename_i plan made
          obtain ⟨_, _, _, record, -, -, -, plans⟩ := planRestart_eq_plan.mp made
          have own : record.eventId = eventId := congrArg Draft.eventId plans.draft_eq
          have absent : findDuplicate journal.rows plan.records = .absent := by
            rw [plans.plan_eq]
            refine findDuplicate_fresh fun row member => ?_
            rw [own]
            exact fresh eventId (Option.filter_eq_some_iff.mp drawn).1 row member
          simp only [commit, absent, ensures_bind, ensures_tryCatch, ensures_get]
          split
          · simp only [latchedError, ensures_bind, ensures_modify, ensures_throw, ensures_pure,
              ensures_ite]
            exact ⟨by simp, fun _ => latched _⟩
          · exact AppendsRows.refl journal
          · rename_i delta accepted
            simp only [ensures_bind, ensures_set, ensures_pure, ensures_ite, ensures_modify]
            have appended : Committed journal plan.records { journal with
                rows := journal.rows ++ plan.records
                projection := applyDelta journal.projection delta } :=
              .appended accepted rfl rfl
            refine ⟨fun _ => ⟨appended.appends.trans (.same rfl rfl), fun _ _ => ?_⟩, by simp⟩
            obtain ⟨found, member, boot⟩ := (verifyCommit_iff.mp accepted).bootId_stamp
            rw [plans.plan_eq] at member
            rw [List.mem_singleton.mp member, plans.stamp_eq] at boot
            show some delta.bootId = some newBootId
            rw [boot]

/-- Opening a journal again keeps its rows and appends whole commits to them. -/
theorem reopen_keeps {resume : Option (ResumeRequest × ResumeDraws)} {draws : RestartDraws}
    (kept : KeptRows journal) (fresh : draws.Fresh journal.rows) :
    Ensures (reopen resume draws) journal (fun _ next => AppendsRows journal next ∧ Booted next)
      fun _ next => AppendsRows journal next ∧ Booted next := by
  unfold reopen
  have replayed : replay journal.rows = .ok journal.projection := kept
  have shut (next : JournalHandle) (closed : next.closed = true) : Booted next := by
    intro isOpen
    cases closed.symm.trans isOpen
  simp only [ensures_bind, ensures_modify, ensures_refuse, ensures_get, replayed]
  refine ⟨fun _ => ⟨.same rfl rfl, shut _ rfl⟩, fun _ => ?_⟩
  split
  · refine ⟨.same rfl rfl, fun _ free => ?_⟩
    cases free
  · rename_i openId minted
    simp only [ensures_bind, ensures_refuse, ensures_set, ensures_tryCatch, ensures_modify,
      ensures_throw]
    refine ⟨fun _ => ⟨.same rfl rfl, shut _ rfl⟩, fun _ => ?_⟩
    let opening : JournalHandle :=
      { rows := journal.rows, projection := journal.projection, bootId := openId }
    have sameRows : draws.Fresh opening.rows := fresh
    have started : AppendsRows journal opening := .same rfl rfl
    refine (runRestartRecovery_restarts sameRows).mono ?_ ?_
    · intro _ restarted ends
      have opened : AppendsRows journal restarted := started.trans ends.1
      refine resumeIfAsked_stays.mono (fun _ next stays => ?_) fun _ next stays => ?_
      · exact ⟨opened.trans stays.appends, stays.booted ends.2⟩
      · exact ⟨(opened.trans stays.appends).trans (.same rfl rfl), shut _ rfl⟩
    · intro _ restarted ends
      have opened : AppendsRows journal restarted := started.trans ends
      exact ⟨opened.trans (.same rfl rfl), shut _ rfl⟩

end Stays

/-! ## Runs of calls -/

/-- The calls a receiver makes on its journal. -/
inductive HandleCall where
  | recordRefusal (summary : RefusalSummary) (reading : Option Reading) (drawn : Option String)
  | admission (source : SourceRecord) (draws : AdmissionDraws)
  | restart (resume : Option (ResumeRequest × ResumeDraws)) (draws : RestartDraws)

def HandleCall.run : HandleCall → HandleM Unit
  | .recordRefusal summary reading drawn => do
      let _ ← ManyAlerts.recordRefusal summary reading drawn
  | .admission source draws => do let _ ← admitNotification source draws
  | .restart resume draws => reopen resume draws

/-- A call, however it ends.  The identifier of a restart is a new one. -/
structure HandleStep (journal : JournalHandle) (call : HandleCall) (next : JournalHandle) :
    Prop where
  ended : (outcome call.run journal).2 = next
  fresh : ∀ resume draws, call = .restart resume draws → draws.Fresh journal.rows

theorem HandleStep.keeps {journal next : JournalHandle} {call : HandleCall}
    (step : HandleStep journal call next) (kept : KeptRows journal) (booted : Booted journal) :
    KeptRows next ∧ Booted next := by
  let ending : Except JournalCode Unit → JournalHandle → Prop :=
    fun _ next => AppendsRows journal next ∧ Booted next
  have ensured : Ensures call.run journal (fun value => ending (.ok value))
      fun code => ending (.error code) := by
    have stays (next : JournalHandle) (stays : Stays journal next) :
        AppendsRows journal next ∧ Booted next := ⟨stays.appends, stays.booted booted⟩
    cases call with
    | recordRefusal summary reading drawn =>
        simp only [HandleCall.run, ensures_bind]
        exact recordRefusal_stays.mono (fun _ => stays) fun _ => stays
    | admission source draws =>
        simp only [HandleCall.run, ensures_bind]
        exact admitNotification_stays.mono (fun _ => stays) fun _ => stays
    | restart resume draws => exact reopen_keeps kept (step.fresh resume draws rfl)
  have ended : outcome call.run journal = ((outcome call.run journal).1, next) := by
    rw [← step.ended]
  obtain ⟨appends, boots⟩ := ensured.of_outcome ended
  exact ⟨kept.appends appends, boots⟩

theorem createRecoveryJournal_kept {bounds : JournalBounds} {uuid bootId eventId : Option String}
    {reading : Option Reading} {journal : JournalHandle}
    (created : createRecoveryJournal bounds uuid bootId eventId reading = some journal) :
    KeptRows journal ∧ Booted journal := by
  simp only [createRecoveryJournal, Option.bind_eq_bind, Option.bind_eq_some_iff,
    Option.pure_def, Option.some.injEq] at created
  obtain ⟨journalUuid, -, boot, -, event, -, reading, -, plan, made, delta, accepted, rfl⟩ :=
    created
  have verified := toOption_eq_some.mp accepted
  refine ⟨?_, fun _ _ => ?_⟩
  · have whole := replay_flatten (commits_singleton.mpr ⟨delta, verified, rfl⟩)
    simpa [KeptRows] using whole
  · have genesis := toOption_eq_some.mp made
    simp only [planGenesis, bind_eq_ok, pure_eq_ok, sealRecord_eq_ok] at genesis
    obtain ⟨record, ⟨-, -, stamp⟩, rfl⟩ := genesis
    obtain ⟨found, member, same⟩ := (verifyCommit_iff.mp verified).bootId_stamp
    rw [List.mem_singleton.mp member, stamp] at same
    show some delta.bootId = some boot
    rw [same]

/-- After any calls on a created journal, its rows replay to its projection. -/
theorem kept_of_run {created journal : JournalHandle} {calls : List HandleCall}
    (kept : KeptRows created) (booted : Booted created)
    (run : Run HandleStep created calls journal) :
    KeptRows journal ∧ Booted journal := by
  induction run with
  | start => exact ⟨kept, booted⟩
  | turn run last induction => exact last.keeps induction.1 induction.2

/-! ## Sealing the next record -/

/-- After a head whose digest is not the reserved one, a valid payload that fits is
sealed as the next record. -/
theorem Sound.seals_next {p : Projection} {head : Head} {bounds : JournalBounds} {stamp : Stamp}
    {eventId : String} {payload : Payload} {idsSize dataSize : Nat}
    (sound : Sound p head bounds) (live : Live p head bounds) (stamped : Stamped p stamp)
    (linked : head.recordDigest ≠ zeroDigest) (validId : isId eventId = true)
    (valid : validatePayload eventId payload = .ok ())
    (ids : Fits 2 idsSize (.obj payload.ids)) (data : Fits 2 dataSize (.obj payload.data))
    (small : idsSize + dataSize + 973 ≤ maxRecordBytes) (uncapped : privateCap payload = none) :
    ∃ record, sealRecord ⟨eventId, payload⟩ (singlePosition p head) stamp = .ok record := by
  have enveloped : validateEnvelope ⟨eventId, payload⟩ (singlePosition p head) stamp = .ok () :=
    sound.envelope_ok live stamped validId rfl ⟨Nat.lt_succ_self _, Nat.le_succ _⟩ rfl
      ⟨Nat.zero_lt_one, Nat.le_succ 1⟩ sound.digest linked valid
  refine seals_of_fits enveloped ids data small fun cap member => ?_
  rw [uncapped] at member
  cases member

end ManyAlerts
