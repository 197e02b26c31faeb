import ManyAlerts.Journal.Guards
import ManyAlerts.Supervision.Reducer

/-!
# Escalation over a whole run

What a watched run has attempted follows from the decisions it was given.  From
that: when the reducer refuses to decide because an early stop was not recorded,
and in which order it escalates.
-/

namespace ManyAlerts

variable {launch : Launch} {history : ActionHistory} {sighting : Sighting}
  {decision : ActionDecision} {seen : List (Sighting × ActionDecision)}

/-! ## One decision -/

/-- The earliest stop known: requested, or recorded when the root left descendants. -/
def Sighting.effectiveStop (launch : Launch) (history : ActionHistory) (sighting : Sighting) :
    Option Int :=
  match history.earlyStopUs with
  | none => sighting.stopRequestedUs
  | some earlyStop =>
      some (min (sighting.stopRequestedUs.getD (launch.launchUs + workUs)) earlyStop)

def Sighting.window (launch : Launch) (history : ActionHistory) (sighting : Sighting) :
    SupervisionWindow :=
  windowAt launch.launchUs sighting.observedUs (sighting.effectiveStop launch history)

/-- A sighting that is valid after what was attempted. -/
structure Sighting.Ok (launch : Launch) (history : ActionHistory) (sighting : Sighting) : Prop where
  observable : Observable launch.bootId sighting.bootId launch.launchUs sighting.observedUs
  stop : ∀ stop ∈ sighting.stopRequestedUs, launch.launchUs ≤ stop ∧ stop ≤ sighting.observedUs
  worker : sighting.worker.Valid
  order : history.revokeAttempted = true ↔ sighting.worker.revocationState ≠ .notAttempted

/-- A history a run can have: nothing is signalled without a revocation, and an
early stop was observed since the launch. -/
structure ActionHistory.Kept (launch : Launch) (history : ActionHistory) (sighting : Sighting) :
    Prop where
  revoked : history.revokeAttempted = true ∨
    ¬(history.interruptAttempted = true ∨ history.killAttempted = true)
  stop : ∀ stop ∈ history.earlyStopUs, launch.launchUs ≤ stop ∧ stop ≤ sighting.observedUs

theorem checkSupervision_eq_ok {observation : WorkerObservation} :
    checkSupervision history observation = .ok () ↔ history.Valid ∧ observation.Valid ∧
      (history.revokeAttempted = true ↔ observation.revocationState ≠ .notAttempted) := by
  simp only [checkSupervision, bind_eq_ok, failIf_eq_ok, exists_unit, not_or, not_not, and_assoc]
  refine and_congr_right fun _ => and_congr_right fun _ => ?_
  cases history.revokeAttempted <;> simp

theorem effectiveWindow_eq_ok {window : SupervisionWindow} :
    effectiveWindow history launch.bootId sighting.bootId launch.launchUs sighting.observedUs
        sighting.stopRequestedUs = .ok window ↔
      Observable launch.bootId sighting.bootId launch.launchUs sighting.observedUs ∧
        (∀ stop ∈ sighting.stopRequestedUs,
          launch.launchUs ≤ stop ∧ stop ≤ sighting.observedUs) ∧
        (∀ stop ∈ history.earlyStopUs, launch.launchUs ≤ stop ∧ stop ≤ sighting.observedUs) ∧
        sighting.window launch history = window := by
  unfold effectiveWindow Sighting.window Sighting.effectiveStop
  cases early : history.earlyStopUs with
  | none =>
      simp only [bind_eq_ok, assessSupervision_eq_ok, pure_eq_ok]
      constructor
      · rintro ⟨_, ⟨observable, stops, rfl⟩, rfl⟩
        exact ⟨observable, stops, by simp, rfl⟩
      · rintro ⟨observable, stops, -, rfl⟩
        exact ⟨_, ⟨observable, stops, rfl⟩, rfl⟩
  | some earlyStop =>
      simp only [bind_eq_ok, assessSupervision_eq_ok, Option.mem_def, Option.some.injEq,
        forall_eq']
      constructor
      · rintro ⟨_, ⟨observable, stops, rfl⟩, _, ⟨-, pinned, -⟩, -, -, rfl⟩
        exact ⟨observable, stops, pinned, rfl⟩
      · rintro ⟨observable, stops, pinned, rfl⟩
        refine ⟨_, ⟨observable, stops, rfl⟩, _, ⟨observable, pinned, rfl⟩, observable, ?_, rfl⟩
        refine ⟨le_min ?_ pinned.1, (min_le_right _ _).trans pinned.2⟩
        cases requested : sighting.stopRequestedUs with
        | none =>
            have worked : 0 ≤ workUs := by decide
            exact le_add_of_nonneg_right worked
        | some stop => exact (stops stop requested).1

/-- The root left descendants and no early stop was recorded with the revocation. -/
def Unpinned (history : ActionHistory) (worker : WorkerObservation) : Prop :=
  worker.earlyDescendants = true ∧ history.earlyStopUs = none ∧ history.revokeAttempted = true

/-- What the reducer decides on a valid sighting. -/
theorem nextAction_of_ok (ok : sighting.Ok launch history)
    (kept : history.Kept launch sighting) :
    (Unpinned history sighting.worker ∧
        nextAction launch history sighting = .error .earlyStopRequired) ∨
      (¬Unpinned history sighting.worker ∧ nextAction launch history sighting =
        .ok (chooseAction (sighting.window launch history) history sighting.worker
          sighting.observedUs)) := by
  have valid : history.Valid := by
    refine ⟨kept.revoked, fun stop member => ?_⟩
    obtain ⟨after, before⟩ := kept.stop stop member
    exact ⟨ok.observable.launched.1.trans after, before.trans ok.observable.observed.2⟩
  have checked := checkSupervision_eq_ok.mpr ⟨valid, ok.worker, ok.order⟩
  have windowed := effectiveWindow_eq_ok.mpr ⟨ok.observable, ok.stop, kept.stop, rfl⟩
  unfold nextAction nextSupervisionAction
  simp only [checked, windowed, ok_bind]
  by_cases unpinned : Unpinned history sighting.worker
  · left
    rw [Unpinned] at unpinned
    rw [failIf_of unpinned]
    exact ⟨unpinned, rfl⟩
  · right
    rw [Unpinned] at unpinned
    rw [failIf_of_not unpinned]
    exact ⟨unpinned, rfl⟩

/-- The reducer decided: the sighting was valid and the early stop recorded. -/
theorem nextAction_eq_ok (decided : nextAction launch history sighting = .ok decision) :
    sighting.Ok launch history ∧ history.Kept launch sighting ∧
      ¬Unpinned history sighting.worker ∧
      chooseAction (sighting.window launch history) history sighting.worker
        sighting.observedUs = decision := by
  simp only [nextAction, nextSupervisionAction, bind_eq_ok, exists_unit, checkSupervision_eq_ok,
    effectiveWindow_eq_ok, failIf_eq_ok, pure_eq_ok] at decided
  obtain ⟨⟨valid, worker, order⟩, _, ⟨observable, stops, pinned, rfl⟩, recorded, chosen⟩ := decided
  exact ⟨⟨observable, stops, worker, order⟩, ⟨valid.1, pinned⟩, recorded, chosen⟩

/-- Every action has its own condition in the history, and none is chosen at or
after the hard deadline. -/
structure Chosen (launch : Launch) (history : ActionHistory) (sighting : Sighting)
    (decision : ActionDecision) : Prop where
  inTime : decision.action ≠ none →
    sighting.observedUs < (sighting.window launch history).hardDeadlineUs
  revoke : decision.action = some .revokeLease → history.revokeAttempted = false
  interrupt : decision.action = some .signalInterrupt →
    history.revokeAttempted = true ∧ history.interruptAttempted = false ∧
      canSignal history sighting.worker = true ∧
      (sighting.window launch history).interruptDue = true
  kill : decision.action = some .signalKill →
    history.revokeAttempted = true ∧ history.killAttempted = false
  pin : decision.earlyStopToRecordUs =
    if decision.action = some .revokeLease ∧ sighting.worker.earlyDescendants = true ∧
      history.earlyStopUs = none then some sighting.observedUs else none

theorem chosen_of_nextAction (decided : nextAction launch history sighting = .ok decision) :
    Chosen launch history sighting decision := by
  obtain ⟨-, -, -, rfl⟩ := nextAction_eq_ok decided
  have phase := @windowAt_phase launch.launchUs sighting.observedUs
    (sighting.effectiveStop launch history)
  unfold chooseAction
  split_ifs with passed revoke pinned kill interrupt
  · exact ⟨by simp, by simp, by simp, by simp, by simp⟩
  all_goals
    have inTime : sighting.observedUs < (sighting.window launch history).hardDeadlineUs :=
      not_le.mp (mt phase.mpr passed)
    refine ⟨fun _ => inTime, ?_, ?_, ?_, ?_⟩ <;> simp_all [canSignal]

/-- In the kill window a verified group that was not killed is. -/
theorem chooseAction_killReap (revoked : history.revokeAttempted = true)
    (signal : canSignal history sighting.worker = true) (unkilled : history.killAttempted = false)
    (phase : (sighting.window launch history).phase = .killReap) :
    (chooseAction (sighting.window launch history) history sighting.worker
      sighting.observedUs).action = some .signalKill := by
  have due := (windowAt_killReap phase).2
  simp only [Sighting.window] at phase ⊢
  simp [chooseAction, phase, revoked, signal, unkilled, due]

/-! ## What a watched run has attempted -/

def actionsOf (seen : List (Sighting × ActionDecision)) : List SupervisionAction :=
  seen.filterMap fun entry => entry.2.action

/-- The history is what the decisions say. -/
structure Attempted (launch : Launch) (seen : List (Sighting × ActionDecision))
    (history : ActionHistory) : Prop where
  revoke : history.revokeAttempted = true ↔ .revokeLease ∈ actionsOf seen
  interrupt : history.interruptAttempted = true ↔ .signalInterrupt ∈ actionsOf seen
  kill : history.killAttempted = true ↔ .signalKill ∈ actionsOf seen
  revoked : history.revokeAttempted = true ∨
    ¬(history.interruptAttempted = true ∨ history.killAttempted = true)
  pinned : ∀ entry ∈ seen, entry.2.action = some .revokeLease →
    (entry.1.worker.earlyDescendants = true ↔ history.earlyStopUs.isSome = true)
  unrevoked : history.revokeAttempted = false → history.earlyStopUs = none
  stop : ∀ stop ∈ history.earlyStopUs,
    launch.launchUs ≤ stop ∧ ∃ entry ∈ seen, entry.1.observedUs = stop

theorem actionsOf_concat :
    actionsOf (seen ++ [(sighting, decision)]) = actionsOf seen ++ decision.action.toList := by
  cases action : decision.action <;> simp [actionsOf, action]

theorem attempted_start : Attempted launch [] noActions where
  revoke := by simp [noActions, actionsOf]
  interrupt := by simp [noActions, actionsOf]
  kill := by simp [noActions, actionsOf]
  revoked := by simp [noActions]
  pinned := by simp
  unrevoked _ := rfl
  stop := by simp [noActions]

theorem Attempted.step (attempted : Attempted launch seen history)
    (decided : nextAction launch history sighting = .ok decision) :
    Attempted launch (seen ++ [(sighting, decision)]) (history.record decision) := by
  obtain ⟨ok, -, -, -⟩ := nextAction_eq_ok decided
  have chosen := chosen_of_nextAction decided
  have flag {attempt : Bool} {action : SupervisionAction}
      (same : attempt = true ↔ action ∈ actionsOf seen) :
      (attempt || Decidable.decide (decision.action = some action)) = true ↔
        action ∈ actionsOf (seen ++ [(sighting, decision)]) := by
    rw [actionsOf_concat, List.mem_append, Option.mem_toList, ← same]
    simp
  have unpinned (other : decision.action ≠ some .revokeLease) :
      (history.record decision).earlyStopUs = history.earlyStopUs := by
    simp [ActionHistory.record, chosen.pin, other]
  have fresh (revokes : decision.action = some .revokeLease) :
      .revokeLease ∉ actionsOf seen ∧ history.earlyStopUs = none := by
    have unrevoked := chosen.revoke revokes
    exact ⟨fun earlier => by simp [attempted.revoke.mpr earlier] at unrevoked,
      attempted.unrevoked unrevoked⟩
  exact {
    revoke := flag attempted.revoke
    interrupt := flag attempted.interrupt
    kill := flag attempted.kill
    revoked := by
      by_cases already : history.revokeAttempted = true
      · exact .inl (by simp [ActionHistory.record, already])
      · have none := attempted.revoked.resolve_left already
        have interrupt := mt (fun now => (chosen.interrupt now).1) already
        have kill := mt (fun now => (chosen.kill now).1) already
        exact .inr (by simp_all [ActionHistory.record])
    pinned := by
      intro entry member revokes
      rcases List.mem_append.mp member with earlier | now
      · have known : .revokeLease ∈ actionsOf seen :=
          List.mem_filterMap.mpr ⟨entry, earlier, revokes⟩
        rw [unpinned fun again => (fresh again).1 known]
        exact attempted.pinned entry earlier revokes
      · obtain rfl := List.mem_singleton.mp now
        simp [ActionHistory.record, chosen.pin, (fresh revokes).2,
          show decision.action = _ from revokes]
    unrevoked := by
      intro unrevoked
      simp only [ActionHistory.record, Bool.or_eq_false_iff, decide_eq_false_iff_not] at unrevoked
      rw [unpinned unrevoked.2]
      exact attempted.unrevoked unrevoked.1
    stop := by
      intro stop member
      by_cases revokes : decision.action = some .revokeLease
      · have now : stop = sighting.observedUs := by
          simp only [ActionHistory.record, chosen.pin, (fresh revokes).2, Option.or_none] at member
          split_ifs at member
          · exact (Option.some.inj member).symm
          · cases member
        subst now
        exact ⟨ok.observable.ordered, (sighting, decision), by simp, rfl⟩
      · rw [unpinned revokes] at member
        obtain ⟨after, entry, earlier, same⟩ := attempted.stop stop member
        exact ⟨after, entry, List.mem_append_left _ earlier, same⟩ }

theorem Watch.attempted (watched : Watch launch seen history) :
    Attempted launch seen history := by
  induction watched with
  | start => exact attempted_start
  | step watched later decided attempted => exact attempted.step decided

/-- Whoever watches with a clock that does not go back keeps a history the reducer accepts. -/
theorem Attempted.kept (attempted : Attempted launch seen history)
    (later : ∀ entry ∈ seen, entry.1.observedUs ≤ sighting.observedUs) :
    history.Kept launch sighting := by
  refine ⟨attempted.revoked, fun stop member => ?_⟩
  obtain ⟨after, entry, earlier, rfl⟩ := attempted.stop stop member
  exact ⟨after, later entry earlier⟩

/-- A run goes on with what the reducer chooses. -/
theorem Watch.choose (watched : Watch launch seen history)
    (later : ∀ entry ∈ seen, entry.1.observedUs ≤ sighting.observedUs)
    (ok : sighting.Ok launch history) (pinned : ¬Unpinned history sighting.worker)
    (chosen : chooseAction (sighting.window launch history) history sighting.worker
      sighting.observedUs = decision) :
    Watch launch (seen ++ [(sighting, decision)]) (history.record decision) := by
  rcases nextAction_of_ok ok (watched.attempted.kept later) with ⟨unpinned, -⟩ | ⟨-, decided⟩
  · exact absurd unpinned pinned
  · exact .step watched later (chosen ▸ decided)

/-! ## Never stuck -/

/-- The lease was revoked when the root had left no descendants, and now it has:
then no early stop was recorded and none can be any more. -/
def LateDescendants (seen : List (Sighting × ActionDecision)) (sighting : Sighting) : Prop :=
  sighting.worker.earlyDescendants = true ∧ ∃ entry ∈ seen,
    entry.2.action = some .revokeLease ∧ entry.1.worker.earlyDescendants = false

theorem Attempted.unpinned_iff (attempted : Attempted launch seen history) :
    Unpinned history sighting.worker ↔ LateDescendants seen sighting := by
  refine and_congr_right fun _ => ?_
  rw [attempted.revoke, actionsOf, List.mem_filterMap]
  constructor
  · rintro ⟨none, entry, member, revokes⟩
    have pinned := attempted.pinned entry member revokes
    exact ⟨entry, member, revokes, by simpa [none] using pinned⟩
  · rintro ⟨entry, member, revokes, settled⟩
    have pinned := attempted.pinned entry member revokes
    exact ⟨by simpa [settled] using pinned, entry, member, revokes⟩

/-- On a valid sighting of a watched run the reducer raises `early_stop_required`
exactly when the root left its descendants only after the revocation, and in the
kill window it kills a verified group exactly otherwise. -/
theorem supervision_stuck_iff (watched : Watch launch seen history)
    (later : ∀ entry ∈ seen, entry.1.observedUs ≤ sighting.observedUs)
    (ok : sighting.Ok launch history) :
    (nextAction launch history sighting = .error .earlyStopRequired ↔
      LateDescendants seen sighting) ∧
    (history.revokeAttempted = true → sighting.worker.groupState = .present →
      sighting.worker.stableGroupIdentity = true → history.killAttempted = false →
      (sighting.window launch history).phase = .killReap →
      ((∃ decision, nextAction launch history sighting = .ok decision ∧
        decision.action = some .signalKill) ↔ ¬LateDescendants seen sighting)) := by
  have attempted := watched.attempted
  rw [← attempted.unpinned_iff]
  rcases nextAction_of_ok ok (attempted.kept later) with ⟨unpinned, raised⟩ | ⟨pinned, chosen⟩
  · simp [unpinned, raised]
  · refine ⟨by simp [pinned, chosen], fun revoked present stable unkilled phase => ?_⟩
    have signal : canSignal history sighting.worker = true := by
      simp [canSignal, revoked, present, stable]
    have killed := chooseAction_killReap revoked signal unkilled phase
    simp [pinned, chosen, killed]

def sampleLaunch : Launch := ⟨"b", 0⟩

/-- A stable group, seen at a second after the launch without a stop request. -/
def seenAt (second : Int) (root : RootState) (revocation : RevocationState) : Sighting :=
  ⟨"b", second * secondUs, none,
    ⟨root, .present, true, false, false, false, revocation, .opened⟩⟩

theorem seenAt_ok {second : Int} {root : RootState} {revocation : RevocationState}
    (started : root ≠ .failedBeforeProcess) (early : 0 ≤ second) (inTime : second ≤ 300)
    (order : history.revokeAttempted = true ↔ revocation ≠ .notAttempted) :
    (seenAt second root revocation).Ok sampleLaunch history where
  observable := by
    have boot : isBootId "b" = true := by decide
    refine ⟨boot, rfl, by decide, ?_, ?_, by decide⟩ <;>
      simp only [validTime, seenAt, sampleLaunch, secondUs, maxMonoUs] <;> omega
  stop := by simp [seenAt]
  worker := fun failed => started failed.1
  order := order

/-- The root of the sample run is running when the lease is revoked. -/
def sampleRevocation : Sighting × ActionDecision :=
  (seenAt 270 .running .notAttempted, ⟨.interruptFlush, some .revokeLease, false, none⟩)

def sampleRevoked : ActionHistory := ⟨true, false, false, none⟩

theorem sampleRevocation_watched : Watch sampleLaunch [sampleRevocation] sampleRevoked :=
  Watch.choose .start (by simp)
    (seenAt_ok (by decide) (by decide) (by decide) (by decide))
    (fun unpinned => absurd unpinned.1 (by decide)) (by decide)

/-- The root exits during the flush: at 291 seconds a verified group is present,
the kill is due and the reducer raises. -/
theorem supervision_stuck :
    Watch sampleLaunch [sampleRevocation] sampleRevoked ∧
      (seenAt 291 .exited .acknowledged).Ok sampleLaunch sampleRevoked ∧
      (seenAt 291 .exited .acknowledged).worker.groupState = .present ∧
      (seenAt 291 .exited .acknowledged).worker.stableGroupIdentity = true ∧
      sampleRevoked.revokeAttempted = true ∧ sampleRevoked.killAttempted = false ∧
      ((seenAt 291 .exited .acknowledged).window sampleLaunch sampleRevoked).phase = .killReap ∧
      nextAction sampleLaunch sampleRevoked (seenAt 291 .exited .acknowledged) =
        .error .earlyStopRequired := by
  have ok : (seenAt 291 .exited .acknowledged).Ok sampleLaunch sampleRevoked :=
    seenAt_ok (by decide) (by decide) (by decide) (by decide)
  have kept := sampleRevocation_watched.attempted.kept
    (by decide : ∀ entry ∈ [sampleRevocation], entry.1.observedUs ≤
      (seenAt 291 .exited .acknowledged).observedUs)
  refine ⟨sampleRevocation_watched, ok, rfl, rfl, rfl, rfl, by decide, ?_⟩
  rcases nextAction_of_ok ok kept with ⟨-, raised⟩ | ⟨pinned, -⟩
  · exact raised
  · exact absurd ⟨by decide, rfl, rfl⟩ pinned

/-- While the root runs, the same instant ends with a kill. -/
theorem supervision_stuck_iff_running : ∃ decision,
    nextAction sampleLaunch sampleRevoked (seenAt 291 .running .acknowledged) = .ok decision ∧
      decision.action = some .signalKill := by
  have ok : (seenAt 291 .running .acknowledged).Ok sampleLaunch sampleRevoked :=
    seenAt_ok (by decide) (by decide) (by decide) (by decide)
  have characterised := supervision_stuck_iff sampleRevocation_watched
    (by decide : ∀ entry ∈ [sampleRevocation], entry.1.observedUs ≤
      (seenAt 291 .running .acknowledged).observedUs) ok
  exact (characterised.2 rfl rfl rfl rfl (by decide)).mpr fun late => absurd late.1 (by decide)

/-! ## The order of escalation -/

def historyOf (seen : List (Sighting × ActionDecision)) : ActionHistory :=
  seen.foldl (fun history entry => history.record entry.2) noActions

theorem Watch.history_eq (watched : Watch launch seen history) : history = historyOf seen := by
  induction watched with
  | start => rfl
  | step watched later decided same => simp [historyOf, same]

/-- The run up to an entry was watched, and the entry is what the reducer then decided. -/
theorem Watch.split {before after : List (Sighting × ActionDecision)}
    {entry : Sighting × ActionDecision} (watched : Watch launch seen history)
    (parts : seen = before ++ entry :: after) :
    Watch launch before (historyOf before) ∧
      nextAction launch (historyOf before) entry.1 = .ok entry.2 := by
  induction watched generalizing after with
  | start => simp at parts
  | step watched later decided induction =>
      rename_i seen history sighting decision
      rcases List.eq_nil_or_concat after with rfl | ⟨after, last, rfl⟩
      · obtain ⟨rfl, same⟩ := List.append_inj' parts rfl
        obtain rfl := List.singleton_injective same
        rw [← watched.history_eq]
        exact ⟨watched, decided⟩
      · rw [List.concat_eq_append, ← List.cons_append, ← List.append_assoc] at parts
        exact induction (List.append_inj' parts rfl).1

/-- What a run can have returned. -/
def escalations : List (List SupervisionAction) :=
  [[], [.revokeLease], [.revokeLease, .signalInterrupt], [.revokeLease, .signalKill],
    [.revokeLease, .signalInterrupt, .signalKill], [.revokeLease, .signalKill, .signalInterrupt]]

theorem Watch.escalations (watched : Watch launch seen history) :
    actionsOf seen ∈ escalations := by
  induction watched with
  | start => simp [actionsOf, ManyAlerts.escalations]
  | step watched later decided induction =>
      rename_i seen history sighting decision
      have attempted := watched.attempted
      have chosen := chosen_of_nextAction decided
      rw [actionsOf_concat]
      have revoked := attempted.revoked
      rw [attempted.revoke, attempted.interrupt, attempted.kill] at revoked
      cases action : decision.action with
      | none => simpa using induction
      | some act =>
          have revoke := chosen.revoke
          have interrupt := chosen.interrupt
          have kill := chosen.kill
          simp only [action, Option.some.injEq, ← Bool.not_eq_true, attempted.revoke,
            attempted.interrupt, attempted.kill] at revoke interrupt kill
          generalize actionsOf seen = actions at *
          simp only [ManyAlerts.escalations, List.mem_cons, List.not_mem_nil, or_false] at induction
          rcases induction with rfl | rfl | rfl | rfl | rfl | rfl <;> cases act <;>
            simp_all [ManyAlerts.escalations]

/-- A verified group that was killed without an interrupt is seen again in time:
the reducer then asks for the interrupt it had skipped. -/
def Overtaken (launch : Launch) (seen : List (Sighting × ActionDecision)) : Prop :=
  ∃ before sighting decision after, seen = before ++ (sighting, decision) :: after ∧
    (historyOf before).killAttempted = true ∧ (historyOf before).interruptAttempted = false ∧
    canSignal (historyOf before) sighting.worker = true ∧
    (sighting.window launch (historyOf before)).interruptDue = true ∧
    sighting.observedUs < (sighting.window launch (historyOf before)).hardDeadlineUs

theorem actionsOf_split {before after : List (Sighting × ActionDecision)}
    {entry : Sighting × ActionDecision} :
    actionsOf (before ++ entry :: after) =
      actionsOf before ++ entry.2.action.toList ++ actionsOf after := by
  rw [← List.singleton_append, ← List.append_assoc]
  unfold actionsOf
  cases action : entry.2.action <;> simp [action]

/-- Killed and not interrupted is the one state of a run. -/
theorem Attempted.killed_first (attempted : Attempted launch seen history)
    (returned : actionsOf seen ∈ escalations) (killed : history.killAttempted = true)
    (uninterrupted : history.interruptAttempted = false) :
    actionsOf seen = [.revokeLease, .signalKill] := by
  rw [attempted.kill] at killed
  rw [← Bool.not_eq_true, attempted.interrupt] at uninterrupted
  generalize actionsOf seen = actions at *
  simp only [escalations, List.mem_cons, List.not_mem_nil, or_false] at returned
  rcases returned with rfl | rfl | rfl | rfl | rfl | rfl <;> simp_all

/-- What is chosen for a verified group that was killed but not interrupted. -/
theorem chooseAction_interrupt (killed : history.killAttempted = true)
    (uninterrupted : history.interruptAttempted = false)
    (signal : canSignal history sighting.worker = true)
    (due : (sighting.window launch history).interruptDue = true)
    (inTime : sighting.observedUs < (sighting.window launch history).hardDeadlineUs) :
    (chooseAction (sighting.window launch history) history sighting.worker
      sighting.observedUs).action = some .signalInterrupt := by
  have phase : (sighting.window launch history).phase ≠ .hardDeadlineExceeded :=
    fun exceeded => absurd (windowAt_phase.mp exceeded) (not_le.mpr inTime)
  have revoked : history.revokeAttempted = true := by
    simp only [canSignal, Bool.and_eq_true] at signal
    exact signal.1.1
  simp [chooseAction, phase, revoked, killed, uninterrupted, signal, due]

theorem Watch.overtaken_iff (watched : Watch launch seen history) :
    actionsOf seen = [.revokeLease, .signalKill, .signalInterrupt] ↔ Overtaken launch seen := by
  constructor
  · intro actions
    have returned : .signalInterrupt ∈ actionsOf seen := by simp [actions]
    obtain ⟨⟨sighting, decision⟩, member, interrupts⟩ := List.mem_filterMap.mp returned
    obtain ⟨before, after, parts⟩ := List.append_of_mem member
    obtain ⟨earlier, decided⟩ := watched.split parts
    have chosen := chosen_of_nextAction decided
    obtain ⟨-, uninterrupted, signal, due⟩ := chosen.interrupt interrupts
    have inTime := chosen.inTime fun none => by cases none.symm.trans interrupts
    refine ⟨before, sighting, decision, after, parts, ?_, uninterrupted, signal, due, inTime⟩
    -- Only the kill stands between the revocation and the interrupt.
    have attempted := earlier.attempted
    have possible := earlier.escalations
    rw [← Bool.not_eq_true, attempted.interrupt] at uninterrupted
    rw [attempted.kill]
    rw [parts, actionsOf_split, interrupts] at actions
    generalize actionsOf before = first at *
    simp only [ManyAlerts.escalations, List.mem_cons, List.not_mem_nil, or_false] at possible
    rcases possible with rfl | rfl | rfl | rfl | rfl | rfl <;> simp_all
  · rintro ⟨before, sighting, decision, after, parts, killed, uninterrupted, signal, due, inTime⟩
    obtain ⟨earlier, decided⟩ := watched.split parts
    have first := earlier.attempted.killed_first earlier.escalations killed uninterrupted
    obtain ⟨-, -, -, chosen⟩ := nextAction_eq_ok decided
    have interrupts := chooseAction_interrupt killed uninterrupted signal due inTime
    rw [chosen] at interrupts
    have possible := watched.escalations
    rw [parts, actionsOf_split, first, interrupts] at possible ⊢
    simpa [ManyAlerts.escalations] using possible

/-- Once a kill is on record, the journal plans no interrupt. -/
theorem planSupervisionActionIntent_no_interrupt {p : Projection} {eventId actionId : String}
    {service : Option Service} {grantId : Option String} {stamp : Stamp} {plan : Plan}
    (killed : ∃ claim ∈ p.supervisionActionIntents.values, claim.actionKind = .signalKill) :
    planSupervisionActionIntent p eventId actionId .signalInterrupt service grantId stamp ≠
      .ok (.plan plan) := by
  intro planned
  simp only [planSupervisionActionIntent, bind_eq_ok, exists_unit, checkAction, reduceCtorEq,
    if_false, failIf_eq_ok] at planned
  obtain ⟨_, _, _, _, -, unkilled, -⟩ := planned
  exact unkilled (by simp [killed])

/-- The actions of a watched run come in order exactly when no verified group is
seen again after a kill that skipped the interrupt.  In any run each is returned
once and before the hard deadline; the journal refuses the late interrupt. -/
theorem escalation_order_iff (watched : Watch launch seen history) :
    ((actionsOf seen).Sublist [.revokeLease, .signalInterrupt, .signalKill] ↔
      ¬Overtaken launch seen) ∧
    (actionsOf seen).Nodup ∧
    (∀ sighting decision, nextAction launch history sighting = .ok decision →
      decision.action ≠ none →
      sighting.observedUs < (sighting.window launch history).hardDeadlineUs) ∧
    ∀ (p : Projection) (eventId actionId : String) (service : Option Service)
      (grantId : Option String) (stamp : Stamp) (plan : Plan),
      (∃ claim ∈ p.supervisionActionIntents.values, claim.actionKind = .signalKill) →
      planSupervisionActionIntent p eventId actionId .signalInterrupt service grantId stamp ≠
        .ok (.plan plan) := by
  have possible := watched.escalations
  refine ⟨?_, ?_, fun sighting decision decided acted =>
    (chosen_of_nextAction decided).inTime acted,
    fun p eventId actionId service grantId stamp plan killed =>
      planSupervisionActionIntent_no_interrupt killed⟩
  · rw [← watched.overtaken_iff]
    revert possible
    generalize actionsOf seen = actions
    revert actions
    decide
  · revert possible
    generalize actionsOf seen = actions
    revert actions
    decide

/-- A run first seen in the kill window. -/
def sampleLateRun : List (Sighting × ActionDecision) :=
  [(seenAt 291 .running .notAttempted, ⟨.killReap, some .revokeLease, false, none⟩),
    (seenAt 292 .running .acknowledged, ⟨.killReap, some .signalKill, false, none⟩),
    (seenAt 293 .running .acknowledged, ⟨.killReap, some .signalInterrupt, false, none⟩)]

theorem sampleLateRun_watched : Watch sampleLaunch sampleLateRun ⟨true, true, true, none⟩ := by
  have revoked : Watch sampleLaunch (sampleLateRun.take 1) ⟨true, false, false, none⟩ :=
    Watch.choose .start (by simp) (seenAt_ok (by decide) (by decide) (by decide) (by decide))
      (fun unpinned => absurd unpinned.1 (by decide)) (by decide)
  have killed : Watch sampleLaunch (sampleLateRun.take 2) ⟨true, false, true, none⟩ :=
    Watch.choose revoked (by decide)
      (seenAt_ok (by decide) (by decide) (by decide) (by decide))
      (fun unpinned => absurd unpinned.1 (by decide)) (by decide)
  exact Watch.choose killed (by decide)
    (seenAt_ok (by decide) (by decide) (by decide) (by decide))
    (fun unpinned => absurd unpinned.1 (by decide)) (by decide)

/-- The interrupt is asked for after the kill. -/
theorem escalation_out_of_order :
    Watch sampleLaunch sampleLateRun ⟨true, true, true, none⟩ ∧
      actionsOf sampleLateRun = [.revokeLease, .signalKill, .signalInterrupt] ∧
      ¬(actionsOf sampleLateRun).Sublist [.revokeLease, .signalInterrupt, .signalKill] :=
  ⟨sampleLateRun_watched, rfl, by decide⟩

theorem escalation_order_iff_late : Overtaken sampleLaunch sampleLateRun := by
  by_contra timely
  exact absurd ((escalation_order_iff sampleLateRun_watched).1.mpr timely) (by decide)

end ManyAlerts
