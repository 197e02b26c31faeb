import ManyAlerts.Journal.Guarantees
import ManyAlerts.Journal.Handle

/-!
# The admission precheck

A front door that finds the `capacity_admissions` hold does not spool the
notification, because every later admission is refused with the same code.  The
hold says so exactly if the bound is reached where it stands: replay re-derives
its limit and its observation but accepts any request that exceeds the limit.
Once reached, the bound stays reached, since the bounds are those of genesis and
the number of admissions never falls.
-/

namespace ManyAlerts

variable {p q : Projection} {records : List Record} {groups : List (List Record)} {delta : Delta}
  {head : Head} {bounds : JournalBounds} {source : SourceRecord}
  {admissionId dedupeEventId : String} {stamp : Stamp}

/-- No further admission is within the bounds. -/
def AdmissionsExhausted (p : Projection) : Prop :=
  ∃ bounds, p.bounds = some bounds ∧ bounds.maxAdmissions ≤ p.admissionCount

theorem AdmissionsExhausted.step (exhausted : AdmissionsExhausted p) (live : Live p head bounds)
    (step : CommitStep p records delta) : AdmissionsExhausted (applyDelta p delta) := by
  have hasHead : p.head.isSome := by simp [live.head_eq]
  obtain ⟨bounds, boundsEq, full⟩ := exhausted
  have sameBounds : (applyDelta p delta).bounds = p.bounds := by
    simp [applyDelta, (step.advances hasHead).bounds]
  refine ⟨bounds, sameBounds.trans boundsEq, ?_⟩
  show bounds.maxAdmissions ≤ delta.admissionCount
  rcases step.arrival hasHead with ⟨-, same, -⟩ | ⟨-, -, -, one, -⟩
  · rw [same]
    exact full
  · rw [one]
    exact full.trans (Nat.le_succ _)

theorem AdmissionsExhausted.commits (exhausted : AdmissionsExhausted p) (live : Live p head bounds)
    (commits : Commits p groups q) : AdmissionsExhausted q := by
  refine (Commits.preserves (fun p => (∃ head bounds, Live p head bounds) ∧ AdmissionsExhausted p)
    (fun p records delta holds accepted => ?_) ⟨⟨head, bounds, live⟩, exhausted⟩ commits).2
  have step := verifyCommit_iff.mp accepted
  obtain ⟨⟨head, bounds, live⟩, exhausted⟩ := holds
  exact ⟨⟨_, _, live.step step⟩, exhausted.step live step⟩

theorem planAdmission_exhausted (exhausted : AdmissionsExhausted p)
    (valid : validateSource source = .ok source) :
    ∃ refusal, planAdmission p source admissionId dedupeEventId stamp = .ok (.refused refusal) ∧
      refusal.code = .admissions := by
  obtain ⟨bounds, boundsEq, full⟩ := exhausted
  obtain ⟨key, keyed, -⟩ := (validateSource_eq_ok.mp valid).1.dedupeKey
  refine ⟨⟨.admissions, bounds.maxAdmissions, p.admissionCount, 1⟩, ?_, rfl⟩
  simp only [planAdmission, decideAdmission, keyed, ok_bind, pure_bind, boundsEq, orFail,
    refuseIf, if_pos (Nat.lt_succ_of_le full)]

theorem capacityRefusal_raises {α : Type} {journal : JournalHandle} {refusal : CapacityRefusal}
    {holdId : Option String} :
    Ensures (capacityRefusal refusal source stamp holdId : HandleM α) journal
      (fun _ _ => False) fun _ _ => True := by
  unfold capacityRefusal
  simp only [ensures_bind, ensures_orThrow, ensures_modify, ensures_get]
  refine ⟨fun _ _ => trivial, fun digest _ => ?_⟩
  refine orLatch_stays.mono ?_ fun _ _ _ => trivial
  rintro holdEventId _ ⟨rfl, -⟩
  refine planned_stays.mono ?_ fun _ _ _ => trivial
  rintro hold after ⟨rfl, -⟩
  cases hold with
  | none => trivial
  | some result =>
      cases result with
      | refused other => trivial
      | plan plan =>
          rw [ensures_bind]
          exact commit_committed.mono (fun _ _ _ => trivial) fun _ _ _ => trivial

/-- Where the bound is reached, no admission succeeds. -/
theorem admitNotification_refused {journal : JournalHandle} {draws : AdmissionDraws}
    (exhausted : AdmissionsExhausted journal.projection) :
    Ensures (admitNotification source draws) journal (fun _ _ => False) fun _ _ => True := by
  unfold admitNotification
  rw [ensures_bind]
  refine requireReady_stays.mono ?_ fun _ _ _ => trivial
  rintro - _ ⟨rfl, -, -⟩
  simp only [ensures_bind, ensures_orThrow, ensures_get]
  refine ⟨fun _ _ => trivial, fun valid checked => ?_⟩
  have validated : validateSource valid = .ok valid := by
    cases result : validateSource source with
    | error failure => simp [result, Except.mapError] at checked
    | ok parsed =>
        obtain ⟨ok, rfl⟩ := validateSource_eq_ok.mp result
        obtain rfl : parsed = valid := by simpa [result, Except.mapError] using checked
        exact result
  refine orLatch_stays.mono ?_ fun _ _ _ => trivial
  rintro stamp _ ⟨rfl, -⟩
  refine orLatch_stays.mono ?_ fun _ _ _ => trivial
  rintro admissionId _ ⟨rfl, -⟩
  refine orLatch_stays.mono ?_ fun _ _ _ => trivial
  rintro dedupeEventId _ ⟨rfl, -⟩
  refine planned_stays.mono ?_ fun _ _ _ => trivial
  rintro result after ⟨rfl, made⟩
  obtain ⟨refusal, refused, -⟩ := planAdmission_exhausted exhausted validated
  obtain rfl : Planned.refused refusal = result := Except.ok.inj (refused.symm.trans made)
  exact capacityRefusal_raises

/-! ## The precheck -/

/-- What holds of a projection in which the hold stands: a valid source is refused
for the number of admissions, and a handle whose precheck names the hold admits
nothing. -/
structure PrecheckExact (p : Projection) : Prop where
  refused : ∀ source admissionId dedupeEventId stamp, validateSource source = .ok source →
    ∃ refusal, planAdmission p source admissionId dedupeEventId stamp = .ok (.refused refusal) ∧
      refusal.code = .admissions
  skipped : ∀ journal code, journal.projection = p → journal.admissionPrecheck = some code →
    code = .admissions ∧ ∀ source draws receipt next,
      outcome (admitNotification source draws) journal ≠ (.ok receipt, next)

theorem AdmissionsExhausted.exact (exhausted : AdmissionsExhausted p) : PrecheckExact p where
  refused := by
    intro source admissionId dedupeEventId stamp valid
    exact planAdmission_exhausted exhausted valid
  skipped := by
    intro journal code projection checked
    constructor
    · unfold JournalHandle.admissionPrecheck at checked
      split_ifs at checked
      exact (Option.some.inj checked).symm
    · intro source draws receipt next ended
      let ending : Except JournalCode AdmissionReceipt → JournalHandle → Prop :=
        fun result _ => ∀ receipt, result ≠ .ok receipt
      have exhaustedNow : AdmissionsExhausted journal.projection := projection ▸ exhausted
      have ensured : Ensures (admitNotification source draws) journal
          (fun receipt => ending (.ok receipt)) fun code => ending (.error code) :=
        (admitNotification_refused exhaustedNow).mono (fun _ _ impossible => impossible.elim)
          fun _ _ _ => by simp [ending]
      exact ensured.of_outcome ended receipt rfl

/-- One valid source refused for the number of admissions shows that the bound is
reached. -/
theorem PrecheckExact.exhausted (exact : PrecheckExact p) (live : Live p head bounds)
    (valid : validateSource source = .ok source) : AdmissionsExhausted p := by
  obtain ⟨refusal, refused, code⟩ := exact.refused source "" "" ⟨"", "", 0⟩ valid
  refine ⟨bounds, live.bounds_eq, ?_⟩
  rcases planAdmission_refused live.bounds_eq refused with ⟨-, full⟩ | ⟨fresh, -, rfl, -⟩ |
    ⟨charge, -, rfl, -⟩
  · exact Nat.le_of_lt_succ full
  · cases code
  · cases code

/-- Where the hold stands, every later admission is refused with its code exactly if
the bound on admissions is reached. -/
theorem admission_precheck_exact_iff (replayed : replay records = .ok p)
    (held : p.dispatchHolds.contains (.capacity .admissions) = true) :
    (∀ groups q, Commits p groups q → PrecheckExact q) ↔ AdmissionsExhausted p := by
  rcases reachable_live ⟨records, replayed⟩ with rfl | ⟨head, bounds, live⟩
  · cases held
  · constructor
    · intro exact
      exact (exact [] p (commits_nil.mpr rfl)).exhausted live sampleSource_valid
    · intro exhausted groups q more
      exact (exhausted.commits live more).exact

/-- In the full sample journal the hold is exact. -/
theorem admission_precheck_exact_sample : ∃ records, replay records = .ok (sampleAfter 13) ∧
    (sampleAfter 13).dispatchHolds.contains (.capacity .admissions) = true ∧
    ∀ groups q, Commits (sampleAfter 13) groups q → PrecheckExact q := by
  obtain ⟨groups, plays⟩ := sample_plays
  have held : (sampleAfter 13).dispatchHolds.contains (.capacity .admissions) = true := by decide
  exact ⟨_, plays.replayed 13, held,
    (admission_precheck_exact_iff (plays.replayed 13) held).mpr ⟨sampleBounds, rfl, by decide⟩⟩

/-- A hold that asks for more admissions than are left while there is room for one. -/
def greedyRefusal : CapacityRefusal := ⟨.admissions, 3, 0, 2 ^ 40⟩

/-- Replay accepts that hold; the precheck then turns away what would be admitted. -/
theorem admission_precheck_inexact : ∃ records p plan, replay records = .ok p ∧
    p.dispatchHolds.contains (.capacity .admissions) = true ∧
    validateSource sampleSource = .ok sampleSource ∧
    planAdmission p sampleSource "admission-1" "dedupe-1" sampleStamp = .ok (.plan plan) := by
  let hold : PlannerCall := .capacityHold greedyRefusal "hold-1" zeroDigest
  have evaluated : ((hold.append (sampleAfter 1) sampleStamp).toOption.map fun done =>
      ((applyDelta (sampleAfter 1) done.2).dispatchHolds.contains (.capacity .admissions),
        ((planAdmission (applyDelta (sampleAfter 1) done.2) sampleSource "admission-1" "dedupe-1"
          sampleStamp).toOption.bind Planned.plan?).isSome)) = some (true, true) := by
    decide +kernel
  obtain ⟨⟨commit, delta⟩, appended, facts⟩ := Option.map_eq_some_iff.mp evaluated
  simp only [Prod.mk.injEq, Option.isSome_iff_exists, Option.bind_eq_some_iff, toOption_eq_some,
    Planned.plan?_eq_some, exists_eq_right] at facts
  obtain ⟨held, plan, planned⟩ := facts
  simp only [toOption_eq_some, PlannerCall.append, bind_eq_ok, pure_eq_ok,
    Prod.mk.injEq] at appended
  obtain ⟨_, -, _, -, _, verified, rfl, rfl⟩ := appended
  obtain ⟨groups, plays⟩ := sample_plays
  have commits := commits_append.mpr ⟨_, plays.commits 1, commits_singleton.mpr
    ⟨_, verified, rfl⟩⟩
  exact ⟨_, _, plan, replay_flatten commits, held, sampleSource_valid, planned⟩

end ManyAlerts
