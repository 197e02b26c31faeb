import ManyAlerts.Journal.Vocabulary

/-!
# The deadline schedule of one run

`assess_supervision`: which actions are due at an observed instant of a run, 270
seconds of work, 20 of flush and 10 of reaping, brought forward by a stop
request.  Times are microseconds of one boot's monotonic clock.
-/

namespace ManyAlerts

def secondUs : Int := 1000000
def workUs : Int := 270 * secondUs
def flushUs : Int := 20 * secondUs
def reapUs : Int := 30 * secondUs
def maxMonoUs : Int := 2 ^ 63 - 1

/-- The codes of `SupervisionError` and of `SupervisorReducerError`. -/
inductive SupervisionFailure where
  | bootInvalid
  | bootMismatch
  | timeInvalid
  | timeOrder
  | stopInvalid
  | deadlineOverflow
  | supervisionArgument
  | supervisionOrder
  | earlyStopRequired
deriving DecidableEq

inductive WindowPhase where
  | work
  | interruptFlush
  | killReap
  | hardDeadlineExceeded
deriving DecidableEq

structure SupervisionWindow where
  phase : WindowPhase
  workDeadlineUs : Int
  flushDeadlineUs : Int
  hardDeadlineUs : Int
  revokeDue : Bool
  interruptDue : Bool
  killOrReapDue : Bool
deriving DecidableEq

/-- `_valid_time`. -/
def validTime (value : Int) : Prop := 0 ≤ value ∧ value ≤ maxMonoUs

instance (value : Int) : Decidable (validTime value) :=
  inferInstanceAs (Decidable (0 ≤ value ∧ value ≤ maxMonoUs))

/-- `_BOOT_ID`. -/
def isBootId (text : String) : Bool := matchesId 128 text

/-- The window of a run that was launched at one instant and is observed at another. -/
def windowAt (launchUs observedUs : Int) (stopRequestedUs : Option Int) : SupervisionWindow :=
  let workDeadline := launchUs + workUs
  let stop := (stopRequestedUs.map fun requested => min requested workDeadline).getD workDeadline
  let flushDeadline := min (stop + flushUs) (launchUs + 290 * secondUs)
  let hardDeadline := min (stop + reapUs) (launchUs + 300 * secondUs)
  { phase :=
      if observedUs < stop then .work
      else if observedUs < flushDeadline then .interruptFlush
      else if observedUs < hardDeadline then .killReap
      else .hardDeadlineExceeded
    workDeadlineUs := workDeadline
    flushDeadlineUs := flushDeadline
    hardDeadlineUs := hardDeadline
    revokeDue := stop ≤ observedUs
    interruptDue := stop ≤ observedUs
    killOrReapDue := flushDeadline ≤ observedUs }

def assessSupervision (launchBootId observedBootId : String) (launchUs observedUs : Int)
    (stopRequestedUs : Option Int) : Except SupervisionFailure SupervisionWindow := do
  failIf (isBootId launchBootId = false ∨ isBootId observedBootId = false) .bootInvalid
  failIf (launchBootId ≠ observedBootId) .bootMismatch
  failIf (¬validTime launchUs ∨ ¬validTime observedUs) .timeInvalid
  failIf (observedUs < launchUs) .timeOrder
  failIf (∃ stop ∈ stopRequestedUs,
    ¬validTime stop ∨ ¬(launchUs ≤ stop ∧ stop ≤ observedUs)) .stopInvalid
  failIf (maxMonoUs - 300 * secondUs < launchUs) .deadlineOverflow
  return windowAt launchUs observedUs stopRequestedUs

/-- An instant at which a run can be observed. -/
structure Observable (launchBootId observedBootId : String) (launchUs observedUs : Int) :
    Prop where
  boot : isBootId launchBootId = true
  same_boot : launchBootId = observedBootId
  launched : validTime launchUs
  observed : validTime observedUs
  ordered : launchUs ≤ observedUs
  room : launchUs ≤ maxMonoUs - 300 * secondUs

variable {launchBootId observedBootId : String} {launchUs observedUs : Int}
  {stopRequestedUs : Option Int} {window : SupervisionWindow}

theorem assessSupervision_eq_ok :
    assessSupervision launchBootId observedBootId launchUs observedUs stopRequestedUs =
        .ok window ↔
      Observable launchBootId observedBootId launchUs observedUs ∧
        (∀ stop ∈ stopRequestedUs, launchUs ≤ stop ∧ stop ≤ observedUs) ∧
        windowAt launchUs observedUs stopRequestedUs = window := by
  simp only [assessSupervision, bind_eq_ok, failIf_eq_ok, exists_unit, pure_eq_ok, not_or,
    not_lt, not_exists, not_and, not_not, ne_eq, Bool.not_eq_false]
  constructor
  · rintro ⟨⟨boot, -⟩, same, ⟨launched, observed⟩, ordered, stops, room, rfl⟩
    exact ⟨⟨boot, same, launched, observed, ordered, room⟩,
      fun stop member => by simpa using (stops stop member).2, rfl⟩
  · rintro ⟨⟨boot, rfl, launched, observed, ordered, room⟩, stops, rfl⟩
    refine ⟨⟨boot, boot⟩, rfl, ⟨launched, observed⟩, ordered, fun stop member => ?_, room, rfl⟩
    obtain ⟨after, before⟩ := stops stop member
    exact ⟨⟨launched.1.trans after, before.trans observed.2⟩, fun late => late after before⟩

/-! ## What the phase tells -/

/-- Before the hard deadline is every phase but the last. -/
theorem windowAt_phase :
    (windowAt launchUs observedUs stopRequestedUs).phase = .hardDeadlineExceeded ↔
      (windowAt launchUs observedUs stopRequestedUs).hardDeadlineUs ≤ observedUs := by
  unfold windowAt workUs flushUs reapUs secondUs
  cases stopRequestedUs <;> dsimp only [Option.map, Option.getD] <;> split_ifs <;> simp <;> omega

/-- In the kill window everything is due. -/
theorem windowAt_killReap
    (phase : (windowAt launchUs observedUs stopRequestedUs).phase = .killReap) :
    (windowAt launchUs observedUs stopRequestedUs).revokeDue = true ∧
      (windowAt launchUs observedUs stopRequestedUs).killOrReapDue = true := by
  unfold windowAt at phase ⊢
  dsimp only at phase ⊢
  split_ifs at phase with work flush hard
  exact ⟨decide_eq_true (not_lt.mp work), decide_eq_true (not_lt.mp flush)⟩

end ManyAlerts
