import ManyAlerts.Journal.Claims

/-!
# Chain of custody

Every claim of a run names the claim it rests on by that claim's digest, and
was committed after it.  `Custody` states the link of one record; it holds when
the record is accepted and is never lost, since claims are only ever added.
-/

namespace ManyAlerts

variable {p q : Projection} {record : Record} {records : List Record} {delta : Delta}
  {groups : List (List Record)}

/-- The claims a record rests on are held, with the digests it stores, and were
committed before it. -/
def Custody (p : Projection) (record : Record) : Prop :=
  match record.payload with
  | .reservationConfirmation data =>
      ∃ intent, p.Has (.reservationIntent data.intentId intent) ∧
        data.intentDigest = intent.intentDigest ∧
        intent.committedAtSeq < record.position.commitSeq
  | .initialReservationConfirmation data =>
      ∃ intent, p.Has (.initialReservationIntent data.intentId intent) ∧
        data.intentDigest = intent.intentDigest ∧
        intent.committedAtSeq < record.position.commitSeq
  | .runIntent data _ =>
      ∃ initial confirmation,
        p.Has (.initialReservationIntent data.ids.reservation.intentId initial) ∧
        p.Has (.initialReservationConfirmation data.ids.reservation.intentId confirmation) ∧
        data.ids = ⟨initial.journalUuid, initial.ids⟩ ∧
        data.intentDigest = initial.intentDigest ∧
        confirmation.intentDigest = initial.intentDigest ∧
        data.confirmationEventId = confirmation.confirmationEventId ∧
        data.eventDigest = confirmation.eventDigest ∧
        initial.committedAtSeq < confirmation.committedAtSeq ∧
        confirmation.committedAtSeq < record.position.commitSeq
  | .launchClaim data _ =>
      data.receiverBootId = record.stamp.bootId ∧
        ∃ intent, p.Has (.runIntent intent) ∧ data.ids = intent.ids ∧
          data.runIntentDigest = intent.runIntentDigest ∧
          intent.committedAtSeq < record.position.commitSeq
  | .spawnAttestation data _ =>
      ∃ launch, p.Has (.launchClaim launch) ∧ data.ids = launch.ids ∧
        data.launchClaimDigest = launch.launchClaimDigest ∧
        launch.committedAtSeq < record.position.commitSeq
  | .releaseIntent data _ =>
      (∃ attested, p.Has (.spawnAttestation attested) ∧
        data.spawnAttestationDigest = attested.claimDigest ∧
        attested.committedAtSeq < record.position.commitSeq) ∧
      ∃ launch, p.Has (.launchClaim launch) ∧ data.ids = launch.ids ∧
        data.receiverBootId = launch.receiverBootId
  | .releaseObservation data _ =>
      ∃ intended, p.Has (.releaseIntent intended) ∧
        data.releaseIntentDigest = intended.claimDigest ∧
        intended.committedAtSeq < record.position.commitSeq
  | .effectIntent data _ =>
      (∃ released, p.Has (.releaseObservation released) ∧
        data.releaseObservationDigest = released.claimDigest ∧
        released.committedAtSeq < record.position.commitSeq) ∧
      ∃ launch, p.Has (.launchClaim launch) ∧ data.runId = launch.ids.reservation.runId ∧
        data.attemptId = launch.ids.reservation.attemptId ∧
        data.receiverBootId = launch.receiverBootId ∧
        launch.committedAtSeq < record.position.commitSeq
  | .effectReceipt data _ =>
      ∃ intent, p.Has (.effectIntent data.operationId intent) ∧
        data.effectIntentDigest = intent.claimDigest ∧
        intent.committedAtSeq < record.position.commitSeq
  | .supervisionActionIntent data _ =>
      ∃ launch, p.Has (.launchClaim launch) ∧
        data.launchClaimDigest = launch.launchClaimDigest ∧
        launch.committedAtSeq < record.position.commitSeq
  | .supervisionActionResult data _ =>
      ∃ intent, p.Has (.supervisionActionIntent data.actionId intent) ∧
        data.actionIntentDigest = intent.claimDigest ∧
        intent.committedAtSeq < record.position.commitSeq
  | .processObservation data _ =>
      ∃ launch, p.Has (.launchClaim launch) ∧
        data.base.launchClaimDigest = launch.launchClaimDigest ∧
        launch.committedAtSeq < record.position.commitSeq
  | .terminalObservation data _ =>
      ∃ process, p.Has (.processObservation process) ∧
        data.process.digest = process.claimDigest ∧
        process.committedAtSeq < record.position.commitSeq
  | .executionAssessment data _ =>
      (∃ process, p.Has (.processObservation process) ∧
        data.process.digest = process.claimDigest) ∧
      ∃ terminal, p.Has (.terminalObservation terminal) ∧
        data.terminal.digest = terminal.claimDigest ∧
        terminal.committedAtSeq < record.position.commitSeq
  | .reconciliationObservation data _ =>
      ∃ intent, p.Has (.effectIntent data.operationId intent) ∧
        data.effectIntentDigest = intent.claimDigest ∧
        intent.committedAtSeq < record.position.commitSeq
  | .restartReconciliationObservation data _ =>
      ∃ intent, p.Has (.effectIntent data.common.operationId intent) ∧
        data.common.effectIntentDigest = intent.claimDigest ∧
        intent.committedAtSeq < record.position.commitSeq
  | _ => True

/-- Links survive as long as claims do. -/
theorem Custody.mono (kept : ∀ claim, p.Has claim → q.Has claim) (custody : Custody p record) :
    Custody q record := by
  unfold Custody at custody ⊢
  split at custody
  · obtain ⟨intent, has, rest⟩ := custody
    exact ⟨intent, kept _ has, rest⟩
  · obtain ⟨intent, has, rest⟩ := custody
    exact ⟨intent, kept _ has, rest⟩
  · obtain ⟨initial, confirmation, has, confirmed, rest⟩ := custody
    exact ⟨initial, confirmation, kept _ has, kept _ confirmed, rest⟩
  · obtain ⟨boot, intent, has, rest⟩ := custody
    exact ⟨boot, intent, kept _ has, rest⟩
  · obtain ⟨launch, has, rest⟩ := custody
    exact ⟨launch, kept _ has, rest⟩
  · obtain ⟨⟨attested, has, rest⟩, launch, launched, others⟩ := custody
    exact ⟨⟨attested, kept _ has, rest⟩, launch, kept _ launched, others⟩
  · obtain ⟨intended, has, rest⟩ := custody
    exact ⟨intended, kept _ has, rest⟩
  · obtain ⟨⟨released, has, rest⟩, launch, launched, others⟩ := custody
    exact ⟨⟨released, kept _ has, rest⟩, launch, kept _ launched, others⟩
  · obtain ⟨intent, has, rest⟩ := custody
    exact ⟨intent, kept _ has, rest⟩
  · obtain ⟨launch, has, rest⟩ := custody
    exact ⟨launch, kept _ has, rest⟩
  · obtain ⟨intent, has, rest⟩ := custody
    exact ⟨intent, kept _ has, rest⟩
  · obtain ⟨launch, has, rest⟩ := custody
    exact ⟨launch, kept _ has, rest⟩
  · obtain ⟨process, has, rest⟩ := custody
    exact ⟨process, kept _ has, rest⟩
  · obtain ⟨⟨process, has, rest⟩, terminal, ended, others⟩ := custody
    exact ⟨⟨process, kept _ has, rest⟩, terminal, kept _ ended, others⟩
  · obtain ⟨intent, has, rest⟩ := custody
    exact ⟨intent, kept _ has, rest⟩
  · obtain ⟨intent, has, rest⟩ := custody
    exact ⟨intent, kept _ has, rest⟩
  · trivial

/-! ## Every accepted record is in custody -/

theorem PlansRecord.self {head : Head} {bounds : JournalBounds} {region : Region} {draft : Draft}
    {stamp : Stamp} {expected : Record}
    (plans : PlansRecord p head bounds region draft stamp ⟨[record], record.charge⟩ expected) :
    expected = record := by
  have same := plans.plan_eq
  simp only [Plan.mk.injEq, List.cons.injEq, and_true] at same
  exact same.1.symm

/-- A replanned record carries the payload its planner sealed. -/
theorem PlansRecord.payload_self {head : Head} {bounds : JournalBounds} {region : Region}
    {draft : Draft} {stamp : Stamp} {expected : Record} {payload : Payload}
    (plans : PlansRecord p head bounds region draft stamp ⟨[record], record.charge⟩ expected)
    (carried : record.payload = payload) : payload = draft.payload := by
  rw [← carried, ← plans.payload_eq, plans.self]

theorem ClaimStep.custody (step : ClaimStep p record delta)
    (earlier : ∀ claim, p.Has claim → claim.committedAtSeq < record.position.commitSeq) :
    Custody p record := by
  cases step with
  | reservationConfirmation payload planned =>
      obtain ⟨_, _, intent, _, _, found, _, _, plans⟩ := planReservationConfirmation_plan planned
      have data := Payload.reservationConfirmation.inj (plans.payload_self payload)
      simp only [Custody, payload]
      exact ⟨intent, found, congrArg (·.intentDigest) data,
        earlier (.reservationIntent _ intent) found⟩
  | initialReservationConfirmation payload planned =>
      obtain ⟨_, _, intent, _, _, found, _, _, plans⟩ :=
        planInitialReservationConfirmation_plan planned
      have data := Payload.initialReservationConfirmation.inj (plans.payload_self payload)
      simp only [Custody, payload]
      exact ⟨intent, found, congrArg (·.intentDigest) data,
        earlier (.initialReservationIntent _ intent) found⟩
  | runIntent payload planned =>
      obtain ⟨_, _, initial, confirmation, _, _, _, _, found, confirmed, sameDigest, ordered,
        plans⟩ := planRunIntent_plan planned
      have data := (Payload.runIntent.inj (plans.payload_self payload)).1
      simp only [Custody, payload]
      exact ⟨initial, confirmation, found, confirmed, congrArg (·.ids) data,
        congrArg (·.intentDigest) data, sameDigest, congrArg (·.confirmationEventId) data,
        congrArg (·.eventDigest) data, ordered,
        earlier (.initialReservationConfirmation _ confirmation) confirmed⟩
  | launchClaim payload planned =>
      obtain ⟨_, _, intent, _, _, _, found, _, _, plans⟩ := planLaunchClaim_plan planned
      have data := (Payload.launchClaim.inj (plans.payload_self payload)).1
      simp only [Custody, payload]
      exact ⟨congrArg (·.receiverBootId) data, intent, found, congrArg (·.ids) data,
        congrArg (·.runIntentDigest) data, earlier (.runIntent intent) found⟩
  | spawnAttestation payload planned =>
      obtain ⟨_, _, launch, _, _, launched, _, plans⟩ := planSpawnAttestation_plan planned
      have data := (Payload.spawnAttestation.inj (plans.payload_self payload)).1
      simp only [Custody, payload]
      exact ⟨launch, launched.launch_eq, congrArg (·.ids) data,
        congrArg (·.launchClaimDigest) data, earlier (.launchClaim launch) launched.launch_eq⟩
  | releaseIntent payload planned =>
      obtain ⟨_, _, launch, attested, _, _, launched, found, _, _, _, _, plans⟩ :=
        planReleaseIntent_plan planned
      have data := (Payload.releaseIntent.inj (plans.payload_self payload)).1
      simp only [Custody, payload]
      exact ⟨⟨attested, found, congrArg (·.spawnAttestationDigest) data,
        earlier (.spawnAttestation attested) found⟩, launch, launched.launch_eq,
        congrArg (·.ids) data, (congrArg (·.receiverBootId) data).trans launched.launch_boot.symm⟩
  | releaseObservation payload planned =>
      obtain ⟨_, _, _, intended, _, _, _, _, found, _, _, plans⟩ :=
        planReleaseObservation_plan planned
      have data := (Payload.releaseObservation.inj (plans.payload_self payload)).1
      simp only [Custody, payload]
      exact ⟨intended, found, congrArg (·.releaseIntentDigest) data,
        earlier (.releaseIntent intended) found⟩
  | effectIntent payload planned =>
      obtain ⟨_, _, launch, released, _, _, launched, found, _, _, _, _, plans⟩ :=
        planEffectIntent_plan planned
      have data := (Payload.effectIntent.inj (plans.payload_self payload)).1
      simp only [Custody, payload]
      exact ⟨⟨released, found, congrArg (·.releaseObservationDigest) data,
        earlier (.releaseObservation released) found⟩, launch, launched.launch_eq,
        congrArg (·.runId) data, congrArg (·.attemptId) data,
        (congrArg (·.receiverBootId) data).trans launched.launch_boot.symm,
        earlier (.launchClaim launch) launched.launch_eq⟩
  | effectReceipt payload planned =>
      obtain ⟨_, _, intent, _, _, _, found, _, _, plans⟩ := planEffectReceipt_plan planned
      have data := (Payload.effectReceipt.inj (plans.payload_self payload)).1
      simp only [Custody, payload]
      exact ⟨intent, found, congrArg (·.effectIntentDigest) data,
        earlier (.effectIntent _ intent) found⟩
  | supervisionActionIntent payload planned =>
      obtain ⟨_, _, launch, _, _, _, found, _, _, _, plans⟩ :=
        planSupervisionActionIntent_plan planned
      have data := (Payload.supervisionActionIntent.inj (plans.payload_self payload)).1
      simp only [Custody, payload]
      exact ⟨launch, found, congrArg (·.launchClaimDigest) data,
        earlier (.launchClaim launch) found⟩
  | supervisionActionResult payload planned =>
      obtain ⟨_, _, intent, _, _, _, _, found, _, _, _, plans⟩ :=
        planSupervisionActionResult_plan planned
      have data := (Payload.supervisionActionResult.inj (plans.payload_self payload)).1
      simp only [Custody, payload]
      exact ⟨intent, found, congrArg (·.actionIntentDigest) data,
        earlier (.supervisionActionIntent _ intent) found⟩
  | processObservation payload planned =>
      obtain ⟨_, _, launch, _, _, launched, _, plans⟩ := planProcessObservation_plan planned
      have data := (Payload.processObservation.inj (plans.payload_self payload)).1
      simp only [Custody, payload]
      exact ⟨launch, launched.launch_eq, congrArg (·.base.launchClaimDigest) data,
        earlier (.launchClaim launch) launched.launch_eq⟩
  | terminalObservation payload planned =>
      obtain ⟨_, _, _, process, _, _, _, found, _, plans⟩ := planTerminalObservation_plan planned
      have data := (Payload.terminalObservation.inj (plans.payload_self payload)).1
      simp only [Custody, payload]
      exact ⟨process, found, congrArg (·.process.digest) data,
        earlier (.processObservation process) found⟩
  | executionAssessment payload planned =>
      obtain ⟨_, _, _, process, terminal, _, _, _, _, found, ended, _, plans⟩ :=
        planExecutionAssessment_plan planned
      have data := (Payload.executionAssessment.inj (plans.payload_self payload)).1
      simp only [Custody, payload]
      exact ⟨⟨process, found, congrArg (·.process.digest) data⟩, terminal, ended,
        congrArg (·.terminal.digest) data, earlier (.terminalObservation terminal) ended⟩
  | reconciliationObservation payload planned =>
      obtain ⟨_, _, intent, _, _, _, _, _, found, _, plans⟩ :=
        planReconciliationObservation_plan planned
      have data := (Payload.reconciliationObservation.inj (plans.payload_self payload)).1
      simp only [Custody, payload]
      exact ⟨intent, found, congrArg (·.effectIntentDigest) data,
        earlier (.effectIntent _ intent) found⟩
  | restartReconciliationObservation payload planned =>
      obtain ⟨_, _, intent, _, _, _, _, _, _, _, _, found, _, _, plans⟩ :=
        planRestartReconciliationObservation_plan planned
      have data := (Payload.restartReconciliationObservation.inj (plans.payload_self payload)).1
      simp only [Custody, payload]
      exact ⟨intent, found, congrArg (·.common.effectIntentDigest) data,
        earlier (.effectIntent _ intent) found⟩
  | capacityHold payload | ingressRefusal payload | operatorAction payload | runHold payload
  | reservationIntent payload | initialReservationIntent payload => simp [Custody, payload]

theorem CommitStep.custody {head : Head} {bounds : JournalBounds}
    (step : CommitStep p records delta) (live : Live p head bounds) (claimed : Claimed groups p)
    (member : record ∈ records) : Custody p record := by
  obtain ⟨journalUuid, uuid, -⟩ := live.uuid
  have number := (step.record_facts (by simp [live.head_eq]) member).1
  cases step with
  | genesis payload position headless anonymous =>
      rw [live.head_eq] at headless
      cases headless
  | restart payload =>
      rw [List.mem_singleton.mp member]
      simp [Custody, payload]
  | current position boot clock claim =>
      obtain rfl := List.mem_singleton.mp member
      exact claim.custody fun claim has =>
        number ▸ Nat.lt_succ_of_le (claimed.committedAtSeq_le uuid has)
  | admission position dedupePosition stamp boot clock pair =>
      rcases List.mem_pair.mp member with rfl | rfl
      · simp [Custody, pair.admission_payload]
      · simp [Custody, pair.dedupe_payload]

theorem CommitStep.has_mono (step : CommitStep p records delta) {claim : Claim}
    (has : p.Has claim) : (applyDelta p delta).Has claim :=
  (has_applyDelta step.fresh claim).mpr (.inl has)

/-- The records of a history are in custody and make every claim it leaves. -/
theorem custody_of_commits (commits : Commits newProjection groups p) (hasHead : p.head.isSome) :
    Claimed groups p ∧ ∀ record ∈ groups.flatten, Custody p record := by
  refine Commits.live_history (fun done p =>
    Claimed done p ∧ ∀ record ∈ done.flatten, Custody p record) ?_ ?_ commits hasHead
  · intro record data payload _
    exact ⟨claimed_genesis payload, by simp [Custody, payload]⟩
  · intro done p records delta head bounds live ⟨claimed, custody⟩ step
    refine ⟨claimed.step live step, fun record member => ?_⟩
    rw [List.flatten_append, List.flatten_singleton, List.mem_append] at member
    rcases member with earlier | later
    · exact (custody record earlier).mono fun _ => step.has_mono
    · exact (step.custody live claimed later).mono fun _ => step.has_mono

/-! ## The chain -/

/-- The record carries the data of the claim. -/
def Record.Makes (record : Record) : Claim → Prop
  | .runIntent claim => ∃ data digest, record.payload = .runIntent data digest ∧
      claim = data.claim record.eventId digest record.position.journalGeneration
        record.position.commitSeq
  | .launchClaim claim => ∃ data digest, record.payload = .launchClaim data digest ∧
      claim = data.claim record.eventId digest record.position.commitSeq
  | .spawnAttestation claim => ∃ data digest, record.payload = .spawnAttestation data digest ∧
      claim = data.claim record.eventId digest record.position.commitSeq
  | .releaseIntent claim => ∃ data digest, record.payload = .releaseIntent data digest ∧
      claim = data.claim record.eventId digest record.position.commitSeq
  | .releaseObservation claim => ∃ data digest, record.payload = .releaseObservation data digest ∧
      claim = data.claim record.eventId digest record.position.commitSeq
  | .processObservation claim => ∃ data digest, record.payload = .processObservation data digest ∧
      claim = data.claim record.eventId digest record.position.commitSeq
  | .terminalObservation claim => ∃ data digest, record.payload = .terminalObservation data digest ∧
      claim = data.claim record.eventId digest record.position.commitSeq
  | .executionAssessment claim => ∃ data digest, record.payload = .executionAssessment data digest ∧
      claim = data.claim record.eventId digest record.position.commitSeq
  | .effectIntent operationId claim => ∃ data digest, record.payload = .effectIntent data digest ∧
      data.operationId = operationId ∧
      claim = data.claim record.eventId digest record.position.commitSeq
  | .effectReceipt operationId claim => ∃ data digest,
      record.payload = .effectReceipt data digest ∧
      data.operationId = operationId ∧
      claim = data.claim record.eventId digest record.position.commitSeq
  | .supervisionActionIntent actionId claim => ∃ data digest,
      record.payload = .supervisionActionIntent data digest ∧
      data.actionId = actionId ∧
      claim = data.claim record.eventId digest record.position.commitSeq
  | .supervisionActionResult actionId claim => ∃ data digest,
      record.payload = .supervisionActionResult data digest ∧
      data.actionId = actionId ∧
      claim = data.claim record.eventId digest record.position.commitSeq
  | .reconciliationObservation operationId claim => ∃ data digest,
      record.payload = .reconciliationObservation data digest ∧
      data.operationId = operationId ∧
      claim = data.claim record.eventId digest record.position.commitSeq
  | .restartReconciliation operationId claim => ∃ data digest,
      record.payload = .restartReconciliationObservation data digest ∧
      data.common.operationId = operationId ∧
      claim = data.claim record.eventId digest record.position.commitSeq
  | _ => True

theorem Record.makes_of_claim? {journalUuid : String} {claim : Claim}
    (made : record.claim? journalUuid = some claim) : record.Makes claim := by
  unfold Record.claim? at made
  dsimp only at made
  split at made <;> cases made <;>
    first | trivial | exact ⟨_, _, by assumption, rfl⟩ | exact ⟨_, _, by assumption, rfl, rfl⟩

/-- Every claim of a run rests on an earlier one: it was committed after it, and
the digest it stores is the digest of the claim the projection holds.  Where the
projection drops the stored digest, the record that made the claim has it. -/
structure ChainOfCustody (records : List Record) (p : Projection) : Prop where
  run_reservation : ∀ intent, p.runIntent = some intent → ∃ initial confirmation,
    p.initialIntents.get? intent.ids.reservation.intentId = some initial ∧
      p.initialConfirmations.get? intent.ids.reservation.intentId = some confirmation ∧
      intent.ids.reservation = initial.ids ∧
      intent.initialIntentDigest = initial.intentDigest ∧
      confirmation.intentDigest = initial.intentDigest ∧
      intent.confirmationEventId = confirmation.confirmationEventId ∧
      intent.ledgerEventDigest = confirmation.eventDigest ∧
      initial.committedAtSeq < confirmation.committedAtSeq ∧
      confirmation.committedAtSeq < intent.committedAtSeq
  launch_run : ∀ launch, p.launchClaim = some launch →
    ∃ intent, p.runIntent = some intent ∧ launch.ids = intent.ids ∧
      launch.runIntentDigest = intent.runIntentDigest ∧
      intent.committedAtSeq < launch.committedAtSeq
  effect_launch : ∀ operationId effect, p.effectIntents.get? operationId = some effect →
    ∃ launch, p.launchClaim = some launch ∧ effect.runId = launch.ids.reservation.runId ∧
      effect.attemptId = launch.ids.reservation.attemptId ∧
      launch.committedAtSeq < effect.committedAtSeq
  spawn_launch : ∀ attested, p.spawnAttestation = some attested →
    ∃ launch, p.launchClaim = some launch ∧ launch.committedAtSeq < attested.committedAtSeq ∧
      ∃ record ∈ records, ∃ data digest, record.payload = .spawnAttestation data digest ∧
        attested = data.claim record.eventId digest record.position.commitSeq ∧
        data.launchClaimDigest = launch.launchClaimDigest
  release_spawn : ∀ intended, p.releaseIntent = some intended →
    ∃ attested, p.spawnAttestation = some attested ∧
    attested.committedAtSeq < intended.committedAtSeq ∧
      ∃ record ∈ records, ∃ data digest, record.payload = .releaseIntent data digest ∧
        intended = data.claim record.eventId digest record.position.commitSeq ∧
        data.spawnAttestationDigest = attested.claimDigest
  observed_release : ∀ observed, p.releaseObservation = some observed →
    ∃ intended, p.releaseIntent = some intended ∧
    intended.committedAtSeq < observed.committedAtSeq ∧
      ∃ record ∈ records, ∃ data digest, record.payload = .releaseObservation data digest ∧
        observed = data.claim record.eventId digest record.position.commitSeq ∧
        data.releaseIntentDigest = intended.claimDigest
  effect_observed : ∀ operationId effect, p.effectIntents.get? operationId = some effect →
    ∃ observed, p.releaseObservation = some observed ∧
    observed.committedAtSeq < effect.committedAtSeq ∧
      ∃ record ∈ records, ∃ data digest, record.payload = .effectIntent data digest ∧
        effect = data.claim record.eventId digest record.position.commitSeq ∧
        data.releaseObservationDigest = observed.claimDigest
  receipt_effect : ∀ operationId receipt, p.effectReceipts.get? operationId = some receipt →
    ∃ effect, p.effectIntents.get? operationId = some effect ∧
    effect.committedAtSeq < receipt.committedAtSeq ∧
      ∃ record ∈ records, ∃ data digest, record.payload = .effectReceipt data digest ∧
        receipt = data.claim record.eventId digest record.position.commitSeq ∧
        data.effectIntentDigest = effect.claimDigest
  reconciliation_effect : ∀ operationId, ∀ readback ∈
    (p.reconciliationObservations.get? operationId).getD [],
    ∃ effect, p.effectIntents.get? operationId = some effect ∧
      effect.committedAtSeq < readback.committedAtSeq ∧
      ∃ record ∈ records, ∃ data digest, record.payload = .reconciliationObservation data digest ∧
        readback = data.claim record.eventId digest record.position.commitSeq ∧
        data.effectIntentDigest = effect.claimDigest
  restart_reconciliation_effect : ∀ operationId,
    ∀ readback ∈ (p.restartReconciliations.get? operationId).getD [],
    ∃ effect, p.effectIntents.get? operationId = some effect ∧
      effect.committedAtSeq < readback.committedAtSeq ∧
      ∃ record ∈ records, ∃ data digest,
        record.payload = .restartReconciliationObservation data digest ∧
        readback = data.claim record.eventId digest record.position.commitSeq ∧
        data.common.effectIntentDigest = effect.claimDigest
  result_action : ∀ actionId result, p.supervisionActionResults.get? actionId = some result →
    ∃ action, p.supervisionActionIntents.get? actionId = some action ∧
    action.committedAtSeq < result.committedAtSeq ∧
      ∃ record ∈ records, ∃ data digest, record.payload = .supervisionActionResult data digest ∧
        result = data.claim record.eventId digest record.position.commitSeq ∧
        data.actionIntentDigest = action.claimDigest
  action_launch : ∀ actionId action, p.supervisionActionIntents.get? actionId = some action →
    ∃ launch, p.launchClaim = some launch ∧ launch.committedAtSeq < action.committedAtSeq ∧
      ∃ record ∈ records, ∃ data digest, record.payload = .supervisionActionIntent data digest ∧
        action = data.claim record.eventId digest record.position.commitSeq ∧
        data.launchClaimDigest = launch.launchClaimDigest
  process_launch : ∀ process, p.processObservation = some process →
    ∃ launch, p.launchClaim = some launch ∧ launch.committedAtSeq < process.committedAtSeq ∧
      ∃ record ∈ records, ∃ data digest, record.payload = .processObservation data digest ∧
        process = data.claim record.eventId digest record.position.commitSeq ∧
        data.base.launchClaimDigest = launch.launchClaimDigest
  terminal_process : ∀ terminal, p.terminalObservation = some terminal →
    ∃ process, p.processObservation = some process ∧
    process.committedAtSeq < terminal.committedAtSeq ∧
      ∃ record ∈ records, ∃ data digest, record.payload = .terminalObservation data digest ∧
        terminal = data.claim record.eventId digest record.position.commitSeq ∧
        data.process.digest = process.claimDigest
  assessment_terminal : ∀ assessed, p.executionAssessment = some assessed →
    ∃ terminal, p.terminalObservation = some terminal ∧
    terminal.committedAtSeq < assessed.committedAtSeq ∧
      ∃ record ∈ records, ∃ data digest, record.payload = .executionAssessment data digest ∧
        assessed = data.claim record.eventId digest record.position.commitSeq ∧
        data.terminal.digest = terminal.claimDigest

theorem chainOfCustody {journalUuid : String}
    (claims : ∀ claim, p.Has claim →
      ∃ record ∈ records, record.claim? journalUuid = some claim)
    (custody : ∀ record ∈ records, Custody p record) : ChainOfCustody records p := by
  have made (claim : Claim) (has : p.Has claim) :
      ∃ record ∈ records, Custody p record ∧ record.Makes claim := by
    obtain ⟨record, member, claimed⟩ := claims claim has
    exact ⟨record, member, custody record member, record.makes_of_claim? claimed⟩
  exact {
    run_reservation := by
      intro intent found
      obtain ⟨record, member, link, data, digest, payload, rfl⟩ := made (.runIntent intent) found
      simp only [Custody, payload] at link
      obtain ⟨initial, confirmation, held, confirmed, ids, intentDigest, sameDigest, eventId,
        eventDigest, ordered, before⟩ := link
      exact ⟨initial, confirmation, held, confirmed, congrArg RunIds.reservation ids, intentDigest,
        sameDigest, eventId, eventDigest, ordered, before⟩
    launch_run := by
      intro launch found
      obtain ⟨record, member, link, data, digest, payload, rfl⟩ := made (.launchClaim launch) found
      simp only [Custody, payload] at link
      obtain ⟨-, intent, held, ids, digestEq, before⟩ := link
      exact ⟨intent, held, ids, digestEq, before⟩
    effect_launch := by
      intro operationId effect found
      obtain ⟨record, member, link, data, digest, payload, rfl, rfl⟩ :=
        made (.effectIntent operationId effect) found
      simp only [Custody, payload] at link
      obtain ⟨-, launch, held, runId, attemptId, -, before⟩ := link
      exact ⟨launch, held, runId, attemptId, before⟩
    spawn_launch := by
      intro attested found
      obtain ⟨record, member, link, data, digest, payload, rfl⟩ :=
        made (.spawnAttestation attested) found
      simp only [Custody, payload] at link
      obtain ⟨launch, held, -, digestEq, before⟩ := link
      exact ⟨launch, held, before, record, member, data, digest, payload, rfl, digestEq⟩
    release_spawn := by
      intro intended found
      obtain ⟨record, member, link, data, digest, payload, rfl⟩ :=
        made (.releaseIntent intended) found
      simp only [Custody, payload] at link
      obtain ⟨⟨attested, held, digestEq, before⟩, -⟩ := link
      exact ⟨attested, held, before, record, member, data, digest, payload, rfl, digestEq⟩
    observed_release := by
      intro observed found
      obtain ⟨record, member, link, data, digest, payload, rfl⟩ :=
        made (.releaseObservation observed) found
      simp only [Custody, payload] at link
      obtain ⟨intended, held, digestEq, before⟩ := link
      exact ⟨intended, held, before, record, member, data, digest, payload, rfl, digestEq⟩
    effect_observed := by
      intro operationId effect found
      obtain ⟨record, member, link, data, digest, payload, rfl, rfl⟩ :=
        made (.effectIntent operationId effect) found
      simp only [Custody, payload] at link
      obtain ⟨⟨observed, held, digestEq, before⟩, -⟩ := link
      exact ⟨observed, held, before, record, member, data, digest, payload, rfl, digestEq⟩
    receipt_effect := by
      intro operationId receipt found
      obtain ⟨record, member, link, data, digest, payload, rfl, rfl⟩ :=
        made (.effectReceipt operationId receipt) found
      simp only [Custody, payload] at link
      obtain ⟨effect, held, digestEq, before⟩ := link
      exact ⟨effect, held, before, record, member, data, digest, payload, rfl, digestEq⟩
    reconciliation_effect := by
      intro operationId readback found
      obtain ⟨record, member, link, data, digest, payload, rfl, rfl⟩ :=
        made (.reconciliationObservation operationId readback) found
      simp only [Custody, payload] at link
      obtain ⟨effect, held, digestEq, before⟩ := link
      exact ⟨effect, held, before, record, member, data, digest, payload, rfl, digestEq⟩
    restart_reconciliation_effect := by
      intro operationId readback found
      obtain ⟨record, member, link, data, digest, payload, rfl, rfl⟩ :=
        made (.restartReconciliation operationId readback) found
      simp only [Custody, payload] at link
      obtain ⟨effect, held, digestEq, before⟩ := link
      exact ⟨effect, held, before, record, member, data, digest, payload, rfl, digestEq⟩
    result_action := by
      intro actionId result found
      obtain ⟨record, member, link, data, digest, payload, rfl, rfl⟩ :=
        made (.supervisionActionResult actionId result) found
      simp only [Custody, payload] at link
      obtain ⟨action, held, digestEq, before⟩ := link
      exact ⟨action, held, before, record, member, data, digest, payload, rfl, digestEq⟩
    action_launch := by
      intro actionId action found
      obtain ⟨record, member, link, data, digest, payload, rfl, rfl⟩ :=
        made (.supervisionActionIntent actionId action) found
      simp only [Custody, payload] at link
      obtain ⟨launch, held, digestEq, before⟩ := link
      exact ⟨launch, held, before, record, member, data, digest, payload, rfl, digestEq⟩
    process_launch := by
      intro process found
      obtain ⟨record, member, link, data, digest, payload, rfl⟩ :=
        made (.processObservation process) found
      simp only [Custody, payload] at link
      obtain ⟨launch, held, digestEq, before⟩ := link
      exact ⟨launch, held, before, record, member, data, digest, payload, rfl, digestEq⟩
    terminal_process := by
      intro terminal found
      obtain ⟨record, member, link, data, digest, payload, rfl⟩ :=
        made (.terminalObservation terminal) found
      simp only [Custody, payload] at link
      obtain ⟨process, held, digestEq, before⟩ := link
      exact ⟨process, held, before, record, member, data, digest, payload, rfl, digestEq⟩
    assessment_terminal := by
      intro assessed found
      obtain ⟨record, member, link, data, digest, payload, rfl⟩ :=
        made (.executionAssessment assessed) found
      simp only [Custody, payload] at link
      obtain ⟨-, terminal, held, digestEq, before⟩ := link
      exact ⟨terminal, held, before, record, member, data, digest, payload, rfl, digestEq⟩ }

end ManyAlerts
