import ManyAlerts.Supervision.Policy

/-!
# The supervision reducer

`next_supervision_action` chooses at most one action from what was attempted
before and what is observed now; `Watch` is the loop around it, in which the
caller records every returned action and every early stop it is given.
-/

namespace ManyAlerts

inductive RootState where
  | running
  | exited
  | reaped
  | failedBeforeProcess
  | unknown
deriving DecidableEq

inductive GroupState where
  | present
  | absent
  | unknown
deriving DecidableEq

inductive RevocationState where
  | notAttempted
  | acknowledged
  | failed
  | unknown
deriving DecidableEq

/-- `_CLOSEOUT`. -/
inductive ForwarderCloseout where
  | opened
  | draining
  | closed
  | overdue
  | unknown
deriving DecidableEq

structure ActionHistory where
  revokeAttempted : Bool
  interruptAttempted : Bool
  killAttempted : Bool
  earlyStopUs : Option Int
deriving DecidableEq

structure WorkerObservation where
  rootState : RootState
  groupState : GroupState
  stableGroupIdentity : Bool
  stdoutEof : Bool
  stderrEof : Bool
  captureComplete : Bool
  revocationState : RevocationState
  forwarderCloseout : ForwarderCloseout
deriving DecidableEq

inductive SupervisionAction where
  | revokeLease
  | signalInterrupt
  | signalKill
deriving DecidableEq

structure ActionDecision where
  phase : WindowPhase
  action : Option SupervisionAction
  hardDeadlineReached : Bool
  earlyStopToRecordUs : Option Int
deriving DecidableEq

/-- `_valid_history`. -/
def ActionHistory.Valid (history : ActionHistory) : Prop :=
  (history.revokeAttempted = true ∨
      ¬(history.interruptAttempted = true ∨ history.killAttempted = true)) ∧
    ∀ stop ∈ history.earlyStopUs, validTime stop

instance (history : ActionHistory) : Decidable history.Valid :=
  inferInstanceAs (Decidable (_ ∧ _))

/-- `_valid_observation`. -/
def WorkerObservation.Valid (observation : WorkerObservation) : Prop :=
  ¬(observation.rootState = .failedBeforeProcess ∧ observation.groupState ≠ .absent)

instance (observation : WorkerObservation) : Decidable observation.Valid :=
  inferInstanceAs (Decidable (¬_))

/-- `_check`. -/
def checkSupervision (history : ActionHistory) (observation : WorkerObservation) :
    Except SupervisionFailure Unit := do
  failIf (¬history.Valid ∨ ¬observation.Valid) .supervisionArgument
  failIf ((history.revokeAttempted = false ∧ observation.revocationState ≠ .notAttempted) ∨
    (history.revokeAttempted = true ∧ observation.revocationState = .notAttempted))
    .supervisionOrder

/-- The root is gone. -/
def WorkerObservation.earlyEnd (observation : WorkerObservation) : Bool :=
  observation.rootState = .exited || observation.rootState = .reaped ||
    observation.rootState = .failedBeforeProcess

/-- The root ran and is gone, but its group may not be. -/
def WorkerObservation.earlyDescendants (observation : WorkerObservation) : Bool :=
  (observation.rootState = .exited || observation.rootState = .reaped) &&
    observation.groupState ≠ .absent

/-- A verified group to signal, after a revocation attempt. -/
def canSignal (history : ActionHistory) (observation : WorkerObservation) : Bool :=
  history.revokeAttempted && observation.stableGroupIdentity &&
    observation.groupState = .present

/-- The window of the earliest stop known. -/
def effectiveWindow (history : ActionHistory) (launchBootId observedBootId : String)
    (launchUs observedUs : Int) (stopRequestedUs : Option Int) :
    Except SupervisionFailure SupervisionWindow := do
  let window ← assessSupervision launchBootId observedBootId launchUs observedUs stopRequestedUs
  match history.earlyStopUs with
  | none => return window
  | some earlyStop =>
      let _ ← assessSupervision launchBootId observedBootId launchUs observedUs (some earlyStop)
      assessSupervision launchBootId observedBootId launchUs observedUs
        (some (min (stopRequestedUs.getD window.workDeadlineUs) earlyStop))

/-- The decision within a window. -/
def chooseAction (window : SupervisionWindow) (history : ActionHistory)
    (observation : WorkerObservation) (observedUs : Int) : ActionDecision :=
  if window.phase = .hardDeadlineExceeded then ⟨window.phase, none, true, none⟩
  else if (window.revokeDue || observation.earlyEnd) && !history.revokeAttempted then
    ⟨window.phase, some .revokeLease, false,
      if observation.earlyDescendants && history.earlyStopUs.isNone then some observedUs else none⟩
  else if canSignal history observation && window.killOrReapDue && !history.killAttempted then
    ⟨window.phase, some .signalKill, false, none⟩
  else if canSignal history observation && window.interruptDue && !history.interruptAttempted then
    ⟨window.phase, some .signalInterrupt, false, none⟩
  else ⟨window.phase, none, false, none⟩

def nextSupervisionAction (history : ActionHistory) (observation : WorkerObservation)
    (launchBootId observedBootId : String) (launchUs observedUs : Int)
    (stopRequestedUs : Option Int) : Except SupervisionFailure ActionDecision := do
  checkSupervision history observation
  let window ← effectiveWindow history launchBootId observedBootId launchUs observedUs
    stopRequestedUs
  failIf (observation.earlyDescendants = true ∧ history.earlyStopUs = none ∧
    history.revokeAttempted = true) .earlyStopRequired
  return chooseAction window history observation observedUs

/-! ## The loop of the caller -/

/-- One observation of a run: the boot and instant, the stop request if one is
in force, and the worker. -/
structure Sighting where
  bootId : String
  observedUs : Int
  stopRequestedUs : Option Int
  worker : WorkerObservation
deriving DecidableEq

structure Launch where
  bootId : String
  launchUs : Int
deriving DecidableEq

def noActions : ActionHistory := ⟨false, false, false, none⟩

/-- The history after the caller has recorded a decision. -/
def ActionHistory.record (history : ActionHistory) (decision : ActionDecision) : ActionHistory where
  revokeAttempted := history.revokeAttempted || decision.action = some .revokeLease
  interruptAttempted := history.interruptAttempted || decision.action = some .signalInterrupt
  killAttempted := history.killAttempted || decision.action = some .signalKill
  earlyStopUs := decision.earlyStopToRecordUs.or history.earlyStopUs

def nextAction (launch : Launch) (history : ActionHistory) (sighting : Sighting) :
    Except SupervisionFailure ActionDecision :=
  nextSupervisionAction history sighting.worker launch.bootId sighting.bootId launch.launchUs
    sighting.observedUs sighting.stopRequestedUs

/-- A run watched so far: each sighting with its decision, and the history they leave. -/
inductive Watch (launch : Launch) : List (Sighting × ActionDecision) → ActionHistory → Prop where
  | start : Watch launch [] noActions
  | step {seen : List (Sighting × ActionDecision)} {history : ActionHistory}
      {sighting : Sighting} {decision : ActionDecision} (watched : Watch launch seen history)
      (later : ∀ entry ∈ seen, entry.1.observedUs ≤ sighting.observedUs)
      (decided : nextAction launch history sighting = .ok decision) :
      Watch launch (seen ++ [(sighting, decision)]) (history.record decision)

end ManyAlerts
