import ManyAlerts.Journal.Custody

/-!
# Cleanup and restart freeze launch authority

Once cleanup has begun nothing more is released or attempted.  Once the boot
that launched a run is gone, no claim of the run can be added: each of their
planners wants the launching boot, and boot ids are never used twice.
-/

namespace ManyAlerts

variable {p q : Projection} {record : Record} {records : List Record} {delta : Delta}
  {groups : List (List Record)}

/-! ## Cleanup -/

/-- A process was observed or a supervision action intended. -/
def Projection.cleanup (p : Projection) : Bool :=
  p.processObservation.isSome || !p.supervisionActionIntents.isEmpty

theorem CommitStep.cleanup_frozen (step : CommitStep p records delta)
    (cleanup : p.cleanup = true) :
    (applyDelta p delta).releaseIntent = p.releaseIntent ∧
      (applyDelta p delta).effectIntents = p.effectIntents := by
  cases step with
  | genesis => exact ⟨rfl, rfl⟩
  | restart => exact ⟨rfl, rfl⟩
  | current position boot clock claim =>
      cases claim with
      | releaseIntent payload planned =>
          obtain ⟨_, _, _, _, _, _, _, _, _, noProcess, noAction, _⟩ :=
            planReleaseIntent_plan planned
          simp [Projection.cleanup, noProcess, noAction] at cleanup
      | effectIntent payload planned =>
          obtain ⟨_, _, _, _, _, _, _, _, noProcess, noAction, _⟩ := planEffectIntent_plan planned
          simp [Projection.cleanup, noProcess, noAction] at cleanup
      | _ => exact ⟨rfl, rfl⟩
  | admission => exact ⟨rfl, rfl⟩

theorem cleanup_applyDelta (cleanup : p.cleanup = true) :
    (applyDelta p delta).cleanup = true := by
  simp only [Projection.cleanup, applyDelta, Dict.isEmpty_addClaim, Option.isSome_or,
    Bool.or_eq_true, Bool.not_eq_true', Bool.and_eq_false_iff] at cleanup ⊢
  tauto

theorem cleanup_freezes (cleanup : p.cleanup = true) (commits : Commits p groups q) :
    q.releaseIntent = p.releaseIntent ∧ q.effectIntents = p.effectIntents := by
  refine (Commits.preserves (fun state => state.cleanup = true ∧
    state.releaseIntent = p.releaseIntent ∧ state.effectIntents = p.effectIntents)
    (fun state records delta holds accepted => ?_) ⟨cleanup, rfl, rfl⟩ commits).2
  obtain ⟨release, effects⟩ := (verifyCommit_iff.mp accepted).cleanup_frozen holds.1
  exact ⟨cleanup_applyDelta holds.1, release.trans holds.2.1, effects.trans holds.2.2⟩

/-! ## Restart -/

/-- The claims of a run that its boot alone may add. -/
structure SameRun (p q : Projection) : Prop where
  runIntent : q.runIntent = p.runIntent
  launchClaim : q.launchClaim = p.launchClaim
  spawnAttestation : q.spawnAttestation = p.spawnAttestation
  releaseIntent : q.releaseIntent = p.releaseIntent
  releaseObservation : q.releaseObservation = p.releaseObservation
  effectIntents : q.effectIntents = p.effectIntents
  effectReceipts : q.effectReceipts = p.effectReceipts
  supervisionActionIntents : q.supervisionActionIntents = p.supervisionActionIntents
  supervisionActionResults : q.supervisionActionResults = p.supervisionActionResults
  processObservation : q.processObservation = p.processObservation
  terminalObservation : q.terminalObservation = p.terminalObservation
  executionAssessment : q.executionAssessment = p.executionAssessment
  reconciliationObservations : q.reconciliationObservations = p.reconciliationObservations

theorem SameRun.refl (p : Projection) : SameRun p p := by
  constructor <;> rfl

theorem SameRun.trans {r : Projection} (first : SameRun p q) (second : SameRun q r) :
    SameRun p r where
  runIntent := second.runIntent.trans first.runIntent
  launchClaim := second.launchClaim.trans first.launchClaim
  spawnAttestation := second.spawnAttestation.trans first.spawnAttestation
  releaseIntent := second.releaseIntent.trans first.releaseIntent
  releaseObservation := second.releaseObservation.trans first.releaseObservation
  effectIntents := second.effectIntents.trans first.effectIntents
  effectReceipts := second.effectReceipts.trans first.effectReceipts
  supervisionActionIntents :=
    second.supervisionActionIntents.trans first.supervisionActionIntents
  supervisionActionResults :=
    second.supervisionActionResults.trans first.supervisionActionResults
  processObservation := second.processObservation.trans first.processObservation
  terminalObservation := second.terminalObservation.trans first.terminalObservation
  executionAssessment := second.executionAssessment.trans first.executionAssessment
  reconciliationObservations :=
    second.reconciliationObservations.trans first.reconciliationObservations

/-- A run was launched by a boot seen before, which its claims name. -/
structure LaunchedBy (p : Projection) (boot : String) : Prop where
  launch : ∃ launch, p.launchClaim = some launch ∧ launch.receiverBootId = boot
  run : p.runIntent.isSome
  seen : boot ∈ p.seenBootIds
  released : ∀ intended, p.releaseIntent = some intended → intended.receiverBootId = boot
  effects : ∀ operationId intent, p.effectIntents.get? operationId = some intent →
    intent.receiverBootId = boot

/-- Without its boot, a run gets no further claim. -/
theorem CommitStep.sameRun {boot : String} (step : CommitStep p records delta)
    (launched : LaunchedBy p boot) (hasHead : p.head.isSome) (gone : p.bootId ≠ some boot) :
    SameRun p (applyDelta p delta) := by
  obtain ⟨launch, launchEq, launchBoot⟩ := launched.launch
  -- The launching boot is not the boot of the commit.
  have absent {stamp : Stamp} {head : Head} {bounds : JournalBounds}
      (current : CurrentBoot p stamp head bounds) : boot ≠ stamp.bootId :=
    fun same => gone (same ▸ current.boot_eq)
  have other {stamp : Stamp} {head : Head} {bounds : JournalBounds} {found : LaunchClaim}
      (current : CurrentBoot p stamp head bounds) (foundEq : p.launchClaim = some found)
      (foundBoot : found.receiverBootId = stamp.bootId) : False := by
    obtain rfl := Option.some.inj (launchEq.symm.trans foundEq)
    exact absent current (launchBoot.symm.trans foundBoot)
  have run := launched.run
  cases step with
  | genesis payload position headless anonymous => simp [headless] at hasHead
  | restart => constructor <;> rfl
  | admission => constructor <;> rfl
  | current position currentBoot clock claim =>
      cases claim with
      | runIntent payload planned =>
          obtain ⟨_, _, _, _, _, _, _, none, _⟩ := planRunIntent_plan planned
          simp [none] at run
      | launchClaim payload planned =>
          obtain ⟨_, _, _, _, _, _, _, none, _⟩ := planLaunchClaim_plan planned
          simp [none] at launchEq
      | spawnAttestation payload planned =>
          obtain ⟨_, _, _, _, _, launchedBy, _⟩ := planSpawnAttestation_plan planned
          exact (other launchedBy.toCurrentBoot launchedBy.launch_eq launchedBy.launch_boot).elim
      | releaseIntent payload planned =>
          obtain ⟨_, _, _, _, _, _, launchedBy, _⟩ := planReleaseIntent_plan planned
          exact (other launchedBy.toCurrentBoot launchedBy.launch_eq launchedBy.launch_boot).elim
      | releaseObservation payload planned =>
          obtain ⟨_, _, _, _, _, _, current, _, found, _, same, _⟩ :=
            planReleaseObservation_plan planned
          exact (absent current ((launched.released _ found).symm.trans same)).elim
      | effectIntent payload planned =>
          obtain ⟨_, _, _, _, _, _, launchedBy, _⟩ := planEffectIntent_plan planned
          exact (other launchedBy.toCurrentBoot launchedBy.launch_eq launchedBy.launch_boot).elim
      | effectReceipt payload planned =>
          obtain ⟨_, _, _, _, _, current, found, _, same, _⟩ := planEffectReceipt_plan planned
          exact (absent current ((launched.effects _ _ found).symm.trans same)).elim
      | supervisionActionIntent payload planned =>
          obtain ⟨_, _, _, _, _, current, found, same, _⟩ :=
            planSupervisionActionIntent_plan planned
          exact (other current found same).elim
      | supervisionActionResult payload planned =>
          obtain ⟨_, _, _, _, _, _, current, _, found, _, same, _⟩ :=
            planSupervisionActionResult_plan planned
          exact (other current found same).elim
      | processObservation payload planned =>
          obtain ⟨_, _, _, _, _, launchedBy, _⟩ := planProcessObservation_plan planned
          exact (other launchedBy.toCurrentBoot launchedBy.launch_eq launchedBy.launch_boot).elim
      | terminalObservation payload planned =>
          obtain ⟨_, _, _, _, _, _, launchedBy, _⟩ := planTerminalObservation_plan planned
          exact (other launchedBy.toCurrentBoot launchedBy.launch_eq launchedBy.launch_boot).elim
      | executionAssessment payload planned =>
          obtain ⟨_, _, _, _, _, _, _, _, launchedBy, _⟩ := planExecutionAssessment_plan planned
          exact (other launchedBy.toCurrentBoot launchedBy.launch_eq launchedBy.launch_boot).elim
      | reconciliationObservation payload planned =>
          obtain ⟨_, _, _, _, _, _, _, launchedBy, _⟩ := planReconciliationObservation_plan planned
          exact (other launchedBy.toCurrentBoot launchedBy.launch_eq launchedBy.launch_boot).elim
      | _ => constructor <;> rfl

theorem LaunchedBy.of_sameRun {boot : String} (launched : LaunchedBy p boot)
    (same : SameRun p q) (seen : p.seenBootIds ⊆ q.seenBootIds) : LaunchedBy q boot where
  launch := same.launchClaim ▸ launched.launch
  run := same.runIntent ▸ launched.run
  seen := seen launched.seen
  released := same.releaseIntent ▸ launched.released
  effects := same.effectIntents ▸ launched.effects

/-- A boot that is gone stays gone, and its run stays as it is. -/
theorem frozen_run {boot : String} {head : Head} {bounds : JournalBounds}
    (live : Live p head bounds) (launched : LaunchedBy p boot) (gone : p.bootId ≠ some boot)
    (commits : Commits p groups q) : SameRun p q := by
  refine (Commits.preserves (fun state => (∃ head bounds, Live state head bounds) ∧
    LaunchedBy state boot ∧ state.bootId ≠ some boot ∧ SameRun p state)
    (fun state records delta holds accepted => ?_)
    ⟨⟨head, bounds, live⟩, launched, gone, .refl p⟩ commits).2.2.2
  obtain ⟨⟨head, bounds, live⟩, launched, gone, same⟩ := holds
  have step := verifyCommit_iff.mp accepted
  have hasHead : state.head.isSome := by simp [live.head_eq]
  have next := step.sameRun launched hasHead gone
  refine ⟨⟨_, _, live.step step⟩, launched.of_sameRun next Finset.subset_union_left, ?_,
    same.trans next⟩
  rcases step.boot hasHead with ⟨-, kept⟩ | ⟨-, fresh⟩
  · exact fun equal => gone (kept.trans equal)
  · intro equal
    obtain rfl : delta.bootId = boot := Option.some.inj equal
    exact fresh launched.seen

/-- A run is launched by a boot of the history, which its claims name. -/
theorem launchedBy_of_commits {launch : LaunchClaim} (commits : Commits newProjection groups p)
    (hasHead : p.head.isSome) (launched : p.launchClaim = some launch) :
    LaunchedBy p launch.receiverBootId := by
  obtain ⟨claimed, custody⟩ := custody_of_commits commits hasHead
  obtain ⟨head, headEq⟩ := Option.isSome_iff_exists.mp hasHead
  obtain ⟨bounds, live⟩ := Reachable.live (reachable_iff.mpr ⟨groups, commits⟩) headEq
  obtain ⟨journalUuid, uuid, -⟩ := live.uuid
  have made (claim : Claim) (has : p.Has claim) :
      ∃ record ∈ groups.flatten, record.Makes claim := by
    obtain ⟨record, member, claims⟩ := (claimed.has_iff journalUuid uuid claim).mp has
    exact ⟨record, member, record.makes_of_claim? claims⟩
  have same {other : LaunchClaim} (has : p.Has (.launchClaim other)) : other = launch :=
    Option.some.inj (has.symm.trans launched)
  obtain ⟨record, member, data, digest, payload, launchEq⟩ := made (.launchClaim launch) launched
  have link := custody record member
  simp only [Custody, payload] at link
  obtain ⟨boot, intent, intended, -⟩ := link
  refine ⟨⟨launch, launched, rfl⟩, by simp [show p.runIntent = some intent from intended], ?_,
    fun intended found => ?_, fun operationId effect found => ?_⟩
  · have received : launch.receiverBootId = record.stamp.bootId := by rw [launchEq]; exact boot
    exact received ▸ claimed.booted record member
  · obtain ⟨record, member, data, digest, payload, rfl⟩ := made (.releaseIntent intended) found
    have link := custody record member
    simp only [Custody, payload] at link
    obtain ⟨-, other, otherLaunched, -, otherBoot⟩ := link
    exact same otherLaunched ▸ otherBoot
  · obtain ⟨record, member, data, digest, payload, rfl, rfl⟩ :=
      made (.effectIntent operationId effect) found
    have link := custody record member
    simp only [Custody, payload] at link
    obtain ⟨-, other, otherLaunched, -, -, otherBoot, -⟩ := link
    exact same otherLaunched ▸ otherBoot

/-- A restart after a launch freezes the run. -/
theorem restart_freezes {launch : LaunchClaim} {data : RestartRecoveryData}
    (commits : Commits newProjection groups p) (launched : p.launchClaim = some launch)
    (step : CommitStep p [record] delta) (restarts : record.payload = .restartRecovery data)
    {later : List (List Record)} (rest : Commits (applyDelta p delta) later q) :
    SameRun (applyDelta p delta) q := by
  cases step with
  | genesis payload position headless anonymous =>
      rw [restarts] at payload
      cases payload
  | current position boot clock claim => cases claim <;> simp_all
  | restart payload position fresh previous headEq recovered boundsEq fits =>
      have hasHead : p.head.isSome := by simp [headEq]
      have byBoot := launchedBy_of_commits commits hasHead launched
      obtain ⟨bounds, live⟩ := Reachable.live (reachable_iff.mpr ⟨groups, commits⟩) headEq
      have step : CommitStep p [record] _ :=
        .restart payload position fresh previous headEq recovered boundsEq fits
      refine frozen_run (live.step step)
        (byBoot.of_sameRun (by constructor <;> rfl) Finset.subset_union_left) ?_ rest
      intro equal
      have same : record.stamp.bootId = launch.receiverBootId := Option.some.inj equal
      exact fresh (same ▸ byBoot.seen)

end ManyAlerts
