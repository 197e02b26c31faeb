import ManyAlerts.Journal.Steps

/-!
# The verifier accepts exactly the commit steps

Each planner behind a replanned claim returns one record, and comparing bodies
is comparing records, so accepting a claim means its planner returns it.
-/

namespace ManyAlerts

variable {p : Projection} {record : Record} {delta : Delta} {stamp : Stamp}

/-- A single record sealed after the head of the current boot. -/
def PlansCurrent (p : Projection) (stamp : Stamp) (plan : Plan) (record : Record) : Prop :=
  ∃ head bounds region draft, CurrentBoot p stamp head bounds ∧
    PlansRecord p head bounds region draft stamp plan record

/-- A planner of the current boot that returns one record, charged to a region. -/
def PlansOne (p : Projection) (stamp : Stamp) (planned : Except Failure Planned) : Prop :=
  ∀ plan, planned = .ok (.plan plan) → ∃ record, PlansCurrent p stamp plan record

/-- A plan whose record replay accepts, in a journal that files its initial intents under
their own ids. -/
def PlansClaim (p : Projection) (stamp : Stamp) (plan : Plan) : Prop :=
  ∃ record, PlansCurrent p stamp plan record ∧ ∀ journalUuid,
    p.journalUuid = some journalUuid →
    (∀ intentId claim, p.initialIntents.get? intentId = some claim →
      claim.ids.intentId = intentId) →
    ∃ delta, ClaimStep p record delta

theorem Plans.verifyExact {planned : Except Failure Planned} {make : Nat → Delta}
    (plans : Plans record planned) :
    verifyExact record planned make = .ok (make record.charge) := by
  simp only [ManyAlerts.verifyExact, checkCap_eq_ok, ok_bind, bind_eq_ok, pure_eq_ok]
  refine ⟨_, plans, record.charge, ?_, rfl⟩
  simp only [sameClaim, bind_eq_ok, failIf_eq_ok, exists_unit, pure_eq_ok]
  simp

theorem verifyExact_eq_ok {planned : Except Failure Planned} {make : Nat → Delta}
    (one : PlansOne p record.stamp planned) :
    verifyExact record planned make = .ok delta ↔
      Plans record planned ∧ make record.charge = delta := by
  constructor
  · simp only [verifyExact, checkCap_eq_ok, ok_bind, bind_eq_ok, pure_eq_ok]
    rintro ⟨result, planned_eq, charge, same, rfl⟩
    cases result with
    | refused refusal => cases same
    | plan plan =>
        obtain ⟨expected, _, _, _, _, -, plans⟩ := one plan planned_eq
        obtain rfl := plans.plan_eq
        simp only [sameClaim, bind_eq_ok, failIf_eq_ok, exists_unit, pure_eq_ok, not_or,
          not_not, ne_eq] at same
        obtain ⟨⟨body, -, payload⟩, rfl⟩ := same
        obtain rfl := Record.eq_of_body body payload
        exact ⟨planned_eq, rfl⟩
  · rintro ⟨plans, rfl⟩
    exact plans.verifyExact

/-- The record types compared by body alone: what follows the comparison sees the
record's own charge. -/
theorem exists_sameBody_eq_ok {planned : Except Failure Planned} {Next : Nat → Prop}
    (one : ∀ plan, planned = .ok (.plan plan) → ∃ expected : Record,
      plan = ⟨[expected], expected.charge⟩ ∧
        (expected.body = record.body → expected.payload = record.payload)) :
    (∃ result, planned = .ok result ∧
        ∃ charge, sameBody record result = .ok charge ∧ Next charge) ↔
      Plans record planned ∧ Next record.charge := by
  constructor
  · rintro ⟨result, planned_eq, charge, same, next⟩
    cases result with
    | refused refusal => cases same
    | plan plan =>
        obtain ⟨expected, rfl, payload⟩ := one plan planned_eq
        simp only [sameBody, bind_eq_ok, failIf_eq_ok, exists_unit, pure_eq_ok, not_or,
          not_not, ne_eq] at same
        obtain ⟨⟨body, -⟩, rfl⟩ := same
        obtain rfl := Record.eq_of_body body (payload body)
        exact ⟨planned_eq, next⟩
  · rintro ⟨planned_eq, next⟩
    refine ⟨_, planned_eq, record.charge, ?_, next⟩
    simp only [sameBody, bind_eq_ok, failIf_eq_ok, exists_unit, pure_eq_ok]
    simp

theorem checkBoot_eq_ok : checkBoot p record = .ok () ↔
    p.bootId = some record.stamp.bootId ∧ p.lastMonoUs ≤ record.stamp.monoUs := by
  simp only [checkBoot, bind_eq_ok, failIf_eq_ok, exists_unit, not_not, ne_eq, not_lt]
  exact and_congr_left fun _ => eq_comm

theorem checkFits_eq_ok {region : Region} {charge : Nat} :
    checkFits p region charge = .ok () ↔
      ∃ bounds, p.bounds = some bounds ∧ p.logicalBytes + charge ≤ region.limit bounds := by
  simp [checkFits]

theorem verifyCapacityHold_eq_ok {data : CapacityHoldData} {commitSeq : Nat} :
    verifyCapacityHold p record data commitSeq = .ok delta ↔
      ¬p.dispatchHolds.contains (.capacity data.code) ∧ ∃ bounds, p.bounds = some bounds ∧
        capacityLimit bounds data.code = some data.limit ∧
        capacityObserved p data.code = some data.observed ∧
        data.limit < data.observed + data.requested ∧
        p.logicalBytes + record.charge ≤ bounds.totalBytes ∧
        { claimDelta p record commitSeq record.charge with
          dispatchHoldAdd := some (.capacity data.code, commitSeq) } = delta := by
  simp only [verifyCapacityHold, bind_eq_ok, failIf_eq_ok, exists_unit, orFail_eq_ok,
    checkFits_eq_ok, pure_eq_ok, not_or, not_not, ne_eq, not_le]
  constructor
  · rintro ⟨free, bounds, boundsEq, _, limit, _, observed, ⟨rfl, rfl⟩, exhausted,
      ⟨_, sameBounds, fits⟩, rfl⟩
    obtain rfl : bounds = _ := Option.some.inj (boundsEq.symm.trans sameBounds)
    exact ⟨free, bounds, boundsEq, limit, observed, exhausted, fits, rfl⟩
  · rintro ⟨free, bounds, boundsEq, limit, observed, exhausted, fits, rfl⟩
    exact ⟨free, bounds, boundsEq, _, limit, _, observed, ⟨rfl, rfl⟩, exhausted,
      ⟨bounds, boundsEq, fits⟩, rfl⟩

theorem verifyIngressRefusal_eq_ok {data : IngressRefusalData} {commitSeq : Nat} :
    verifyIngressRefusal p record data commitSeq = .ok delta ↔
      data.refusalSeq = p.refusalCount + 1 ∧ p.refusalCount + 1 ≤ maxRefusalRecords ∧
        (data.summary.unreserved = true →
          p.refusalUnreservedCount + 1 ≤ maxRefusalRecords - refusalResolvedReserve) ∧
        refusalKey data.summary = .ok data.refusalKey ∧ data.refusalKey ∉ p.refusalKeys ∧
        (∃ bounds, p.bounds = some bounds ∧
          p.logicalBytes + record.charge ≤ bounds.ordinaryBytes) ∧
        { claimDelta p record commitSeq record.charge with
          refusalKeyAdd := some data.refusalKey
          refusalUnreserved := data.summary.unreserved } = delta := by
  simp only [verifyIngressRefusal, bind_eq_ok, failIf_eq_ok, exists_unit, checkFits_eq_ok,
    pure_eq_ok, not_or, not_not, ne_eq, not_lt, not_and, Region.limit]
  constructor
  · rintro ⟨sequence, room, unreservedRoom, _, keyed, ⟨rfl, fresh⟩, fits, rfl⟩
    exact ⟨sequence, room, unreservedRoom, keyed, fresh, fits, rfl⟩
  · rintro ⟨sequence, room, unreservedRoom, keyed, fresh, fits, rfl⟩
    exact ⟨sequence, room, unreservedRoom, _, keyed, ⟨rfl, fresh⟩, fits, rfl⟩

theorem verifyOperatorAction_eq_ok {data : OperatorActionData} {commitSeq : Nat} :
    verifyOperatorAction p record data commitSeq = .ok delta ↔
      p.dispatchHolds.get? .restartRecovery = some data.sinceCommitSeq ∧
        privateClaimsOutstanding p = false ∧
        (∃ head, p.head = some head ∧ p.bootStartCommitSeq = some head.commitSeq) ∧
        (∃ recovered, p.bootRecovered = some recovered ∧ data.inspected = recovered.mark) ∧
        pendingDigest p = .ok data.pendingDigest ∧
        (∃ bounds, p.bounds = some bounds ∧
          p.logicalBytes + record.charge ≤ bounds.totalBytes) ∧
        { claimDelta p record commitSeq record.charge with
          dispatchHoldClear := some .restartRecovery
          resumeCommitSeq := some commitSeq } = delta := by
  simp only [verifyOperatorAction, bind_eq_ok, failIf_eq_ok, exists_unit, orFail_eq_ok,
    checkFits_eq_ok, pure_eq_ok, not_not, ne_eq, Region.limit, Bool.not_eq_true]
  constructor
  · rintro ⟨_, held, unclaimed, rfl, head, headEq, immediate, recovered, recoveredEq, inspected,
      _, pending, rfl, fits, rfl⟩
    exact ⟨held, unclaimed, ⟨head, headEq, immediate.symm⟩,
      ⟨recovered, recoveredEq, inspected⟩, pending, fits, rfl⟩
  · rintro ⟨held, unclaimed, ⟨head, headEq, immediate⟩, ⟨recovered, recoveredEq, inspected⟩,
      pending, fits, rfl⟩
    exact ⟨_, held, unclaimed, rfl, head, headEq, immediate.symm, recovered, recoveredEq,
      inspected, _, pending, rfl, fits, rfl⟩

theorem PlansRecord.payload_eq {head : Head} {bounds : JournalBounds} {region : Region}
    {draft : Draft} {plan : Plan}
    (plans : PlansRecord p head bounds region draft stamp plan record) :
    record.payload = draft.payload := by
  rw [plans.draft_eq]

section Planners

variable {head : Head} {bounds : JournalBounds} {region : Region} {plan : Plan} {eventId : String}
  {payload : Payload}
  (plans : PlansRecord p head bounds region ⟨eventId, payload⟩ stamp plan record)
  (planner : String → Stamp → Except Failure Planned)
  (planned : planner eventId stamp = .ok (.plan plan))

include plans planned

theorem PlansRecord.again : Plans record (planner record.eventId record.stamp) := by
  have sameId : record.eventId = eventId := congrArg Draft.eventId plans.draft_eq
  rw [Plans, sameId, plans.stamp_eq, planned, plans.plan_eq]

theorem PlansRecord.claims (current : CurrentBoot p stamp head bounds)
    (step : record.payload = payload → Plans record (planner record.eventId record.stamp) →
      ClaimStep p record delta) : PlansClaim p stamp plan :=
  ⟨record, ⟨head, bounds, region, _, current, plans⟩, fun _ _ _ =>
    ⟨delta, step plans.payload_eq (plans.again planner planned)⟩⟩

end Planners

theorem ClaimCall.plansClaim (call : ClaimCall) {plan : Plan}
    (planned : call.run p stamp = .ok (.plan plan)) : PlansClaim p stamp plan := by
  cases call with
  | runHold jobId admissionId eventId reason =>
      obtain ⟨_, _, _, _, _, current, -, -, plans⟩ := planRunHold_plan planned
      exact plans.claims (planRunHold p jobId admissionId · reason ·) planned current .runHold
  | reservationIntent ids =>
      obtain ⟨head, bounds, _, record, current, -, -, plans⟩ := planReservationIntent_plan planned
      exact ⟨record, ⟨head, bounds, _, _, current, plans⟩, fun _ uuid _ =>
        ⟨_, .reservationIntent plans.payload_eq uuid
          (plans.again (fun _ stamp => planReservationIntent p ids stamp) planned)⟩⟩
  | initialReservationIntent ids =>
      obtain ⟨head, bounds, _, _, record, current, -, -, plans⟩ :=
        planInitialReservationIntent_plan planned
      exact ⟨record, ⟨head, bounds, _, _, current, plans⟩, fun _ uuid _ =>
        ⟨_, .initialReservationIntent plans.payload_eq uuid
          (plans.again (fun _ stamp => planInitialReservationIntent p ids stamp) planned)⟩⟩
  | reservationConfirmation intentId eventId event =>
      obtain ⟨_, _, _, _, current, -, -, -, plans⟩ := planReservationConfirmation_plan planned
      exact plans.claims (planReservationConfirmation p intentId · event ·) planned
        current .reservationConfirmation
  | initialReservationConfirmation intentId eventId event =>
      obtain ⟨_, _, _, _, current, -, -, -, plans⟩ :=
        planInitialReservationConfirmation_plan planned
      exact plans.claims (planInitialReservationConfirmation p intentId · event ·) planned
        current .initialReservationConfirmation
  | runIntent intentId eventId ledgerHeadSequence ledgerHeadDigest services =>
      obtain ⟨head, bounds, initial, _, _, record, current, -, found, -, -, -, plans⟩ :=
        planRunIntent_plan planned
      refine ⟨record, ⟨head, bounds, _, _, current, plans⟩, fun _ _ keyed => ?_⟩
      obtain rfl := keyed intentId initial found
      exact ⟨_, .runIntent plans.payload_eq (plans.again
        (planRunIntent p initial.ids.intentId · ledgerHeadSequence ledgerHeadDigest services ·)
        planned)⟩
  | launchClaim eventId forwarderGeneration barrierTokenDigest grants =>
      obtain ⟨_, _, _, _, _, current, -, -, -, plans⟩ := planLaunchClaim_plan planned
      exact plans.claims
        (planLaunchClaim p · forwarderGeneration barrierTokenDigest grants ·) planned current
        .launchClaim
  | spawnAttestation eventId witness =>
      obtain ⟨_, _, _, _, _, current, -, plans⟩ := planSpawnAttestation_plan planned
      exact plans.claims (planSpawnAttestation p · witness ·) planned
        current.toCurrentBoot .spawnAttestation
  | releaseIntent eventId activatedGrants =>
      obtain ⟨_, _, _, _, _, _, current, -, -, -, -, -, plans⟩ := planReleaseIntent_plan planned
      exact plans.claims (planReleaseIntent p · activatedGrants ·) planned
        current.toCurrentBoot .releaseIntent
  | releaseObservation eventId ackDigest =>
      obtain ⟨_, _, _, _, _, _, current, -, -, -, -, plans⟩ := planReleaseObservation_plan planned
      exact plans.claims (planReleaseObservation p · ackDigest ·) planned
        current .releaseObservation
  | effectIntent eventId request =>
      obtain ⟨_, _, _, _, _, _, current, -, -, -, -, -, plans⟩ := planEffectIntent_plan planned
      exact plans.claims (planEffectIntent p · request ·) planned
        current.toCurrentBoot .effectIntent
  | effectReceipt eventId operationId state reason receiptDigest =>
      obtain ⟨_, _, _, _, _, current, -, -, -, plans⟩ := planEffectReceipt_plan planned
      exact plans.claims (planEffectReceipt p · operationId state reason receiptDigest ·) planned
        current .effectReceipt
  | supervisionActionIntent eventId actionId actionKind service grantId =>
      obtain ⟨_, _, _, _, _, current, -, -, -, -, plans⟩ := planSupervisionActionIntent_plan planned
      exact plans.claims
        (planSupervisionActionIntent p · actionId actionKind service grantId ·) planned current
        .supervisionActionIntent
  | supervisionActionResult eventId actionId claimedOutcome =>
      obtain ⟨_, _, _, _, _, _, current, -, -, -, -, plans⟩ :=
        planSupervisionActionResult_plan planned
      exact plans.claims (planSupervisionActionResult p · actionId claimedOutcome ·) planned
        current .supervisionActionResult
  | processObservation eventId facts sourceDigest =>
      obtain ⟨_, _, _, _, _, current, -, plans⟩ := planProcessObservation_plan planned
      exact plans.claims (planProcessObservation p · facts sourceDigest ·) planned
        current.toCurrentBoot .processObservation
  | terminalObservation eventId summary =>
      obtain ⟨_, _, _, _, _, _, current, -, -, plans⟩ := planTerminalObservation_plan planned
      exact plans.claims (planTerminalObservation p · summary ·) planned
        current.toCurrentBoot .terminalObservation
  | executionAssessment eventId =>
      obtain ⟨_, _, _, _, _, _, _, _, current, -, -, -, plans⟩ :=
        planExecutionAssessment_plan planned
      exact plans.claims (planExecutionAssessment p · ·) planned
        current.toCurrentBoot .executionAssessment
  | reconciliationObservation eventId operationId report =>
      obtain ⟨_, _, _, _, _, _, _, current, -, -, plans⟩ :=
        planReconciliationObservation_plan planned
      exact plans.claims (planReconciliationObservation p · operationId report ·) planned
        current.toCurrentBoot .reconciliationObservation
  | restartReconciliationObservation eventId operationId report =>
      obtain ⟨_, _, _, _, _, _, _, _, _, _, current, -, -, -, plans⟩ :=
        planRestartReconciliationObservation_plan planned
      exact plans.claims (planRestartReconciliationObservation p · operationId report ·) planned
        current .restartReconciliationObservation

theorem ClaimCall.one (call : ClaimCall) : PlansOne p stamp (call.run p stamp) := by
  intro plan planned
  obtain ⟨record, current, -⟩ := call.plansClaim planned
  exact ⟨record, current⟩

/-! ## The record types compared by body -/

theorem verifyRunHold_eq_ok {data : RunHoldData} {commitSeq : Nat}
    (payload : record.payload = .runHold data) :
    verifyRunHold p record data commitSeq = .ok delta ↔
      Plans record (planRunHold p data.jobId data.admissionId record.eventId data.reason
        record.stamp) ∧
      { claimDelta p record commitSeq record.charge with
        runHoldAdd := some (data.jobId, data.held commitSeq) } = delta := by
  simp only [verifyRunHold, checkCap_eq_ok, ok_bind, bind_eq_ok, pure_eq_ok]
  rw [exists_sameBody_eq_ok]
  intro plan planned
  obtain ⟨_, _, _, _, expected, _, _, _, plans⟩ := planRunHold_plan planned
  refine ⟨expected, plans.plan_eq, fun same => ?_⟩
  rw [plans.payload_eq, payload, runHoldData_eq_of_body plans.payload_eq payload same]

theorem verifyReservationIntent_eq_ok {data : ReservationIntentData} {commitSeq : Nat}
    (payload : record.payload = .reservationIntent data) :
    verifyReservationIntent p record data commitSeq = .ok delta ↔
      Plans record (planReservationIntent p data.ids record.stamp) ∧
      ∃ journalUuid, p.journalUuid = some journalUuid ∧
      { claimDelta p record commitSeq record.charge with
        reservationIntentAdd := some (data.claim journalUuid p.generation commitSeq) } =
          delta := by
  simp only [verifyReservationIntent, bind_eq_ok, orFail_eq_ok, pure_eq_ok]
  rw [exists_sameBody_eq_ok]
  intro plan planned
  obtain ⟨_, _, _, expected, _, _, _, plans⟩ := planReservationIntent_plan planned
  refine ⟨expected, plans.plan_eq, fun same => ?_⟩
  rw [plans.payload_eq, payload, reservationIntentData_eq_of_body plans.payload_eq payload same]

theorem verifyInitialReservationIntent_eq_ok {data : InitialReservationIntentData}
    {commitSeq : Nat} (payload : record.payload = .initialReservationIntent data) :
    verifyInitialReservationIntent p record data commitSeq = .ok delta ↔
      Plans record (planInitialReservationIntent p data.ids record.stamp) ∧
      ∃ journalUuid, p.journalUuid = some journalUuid ∧
      { claimDelta p record commitSeq record.charge with
        initialReservationIntentAdd :=
          some (data.claim journalUuid p.generation commitSeq) } = delta := by
  simp only [verifyInitialReservationIntent, bind_eq_ok, orFail_eq_ok, pure_eq_ok]
  rw [exists_sameBody_eq_ok]
  intro plan planned
  obtain ⟨_, _, _, _, expected, _, _, _, plans⟩ := planInitialReservationIntent_plan planned
  refine ⟨expected, plans.plan_eq, fun same => ?_⟩
  rw [plans.payload_eq, payload,
    initialReservationIntentData_eq_of_body plans.payload_eq payload same]

theorem verifyReservationConfirmation_eq_ok {data : ReservationConfirmationData}
    {commitSeq : Nat} (payload : record.payload = .reservationConfirmation data) :
    verifyReservationConfirmation p record data commitSeq = .ok delta ↔
      Plans record (planReservationConfirmation p data.intentId record.eventId data.event
        record.stamp) ∧
      { claimDelta p record commitSeq record.charge with
        reservationConfirmationAdd := some (data.claim record.eventId commitSeq) } = delta := by
  simp only [verifyReservationConfirmation, bind_eq_ok, pure_eq_ok]
  rw [exists_sameBody_eq_ok]
  intro plan planned
  obtain ⟨_, _, _, expected, _, _, _, _, plans⟩ := planReservationConfirmation_plan planned
  refine ⟨expected, plans.plan_eq, fun same => ?_⟩
  rw [plans.payload_eq, payload,
    reservationConfirmationData_eq_of_body plans.payload_eq payload same]

theorem verifyInitialReservationConfirmation_eq_ok {data : ReservationConfirmationData}
    {commitSeq : Nat} (payload : record.payload = .initialReservationConfirmation data) :
    verifyInitialReservationConfirmation p record data commitSeq = .ok delta ↔
      Plans record (planInitialReservationConfirmation p data.intentId record.eventId data.event
        record.stamp) ∧
      { claimDelta p record commitSeq record.charge with
        initialReservationConfirmationAdd := some (data.claim record.eventId commitSeq) } =
          delta := by
  simp only [verifyInitialReservationConfirmation, bind_eq_ok, pure_eq_ok]
  rw [exists_sameBody_eq_ok]
  intro plan planned
  obtain ⟨_, _, _, expected, _, _, _, _, plans⟩ :=
    planInitialReservationConfirmation_plan planned
  refine ⟨expected, plans.plan_eq, fun same => ?_⟩
  rw [plans.payload_eq, payload,
    initialReservationConfirmationData_eq_of_body plans.payload_eq payload same]

theorem verifyRunIntent_eq_ok {data : RunIntentData} {digest : String} {commitSeq : Nat}
    (payload : record.payload = .runIntent data digest) :
    verifyRunIntent p record data digest commitSeq = .ok delta ↔
      Plans record (planRunIntent p data.ids.reservation.intentId record.eventId
        data.ledgerHeadSequence data.ledgerHeadDigest data.services record.stamp) ∧
      { claimDelta p record commitSeq record.charge with
        runIntentAdd := some (data.claim record.eventId digest p.generation commitSeq) } =
          delta := by
  simp only [verifyRunIntent, checkCap_eq_ok, ok_bind, bind_eq_ok, pure_eq_ok]
  rw [exists_sameBody_eq_ok]
  intro plan planned
  obtain ⟨_, _, _, _, _, expected, _, _, _, _, _, _, plans⟩ := planRunIntent_plan planned
  refine ⟨expected, plans.plan_eq, fun same => ?_⟩
  obtain ⟨sameData, sameDigest⟩ := runIntentData_eq_of_body plans.payload_eq payload same
  rw [plans.payload_eq, payload, sameData, sameDigest]

/-! ## One record -/

/-- A record that replay plans again. -/
def Payload.replanned : Payload → Bool
  | .capacityHold _ | .ingressRefusal _ | .operatorAction _ => false
  | _ => true

theorem ClaimStep.replans (claim : ClaimStep p record delta)
    (replanned : record.payload.replanned = true) :
    ∃ call : ClaimCall, Plans record (call.run p record.stamp) := by
  cases claim with
  | capacityHold payload | ingressRefusal payload | operatorAction payload =>
      rw [payload] at replanned
      cases replanned
  | runHold _ plans => exact ⟨.runHold _ _ _ _, plans⟩
  | reservationIntent _ _ plans => exact ⟨.reservationIntent _, plans⟩
  | initialReservationIntent _ _ plans => exact ⟨.initialReservationIntent _, plans⟩
  | reservationConfirmation _ plans => exact ⟨.reservationConfirmation _ _ _, plans⟩
  | initialReservationConfirmation _ plans => exact ⟨.initialReservationConfirmation _ _ _, plans⟩
  | runIntent _ plans => exact ⟨.runIntent _ _ _ _ _, plans⟩
  | launchClaim _ plans => exact ⟨.launchClaim _ _ _ _, plans⟩
  | spawnAttestation _ plans => exact ⟨.spawnAttestation _ _, plans⟩
  | releaseIntent _ plans => exact ⟨.releaseIntent _ _, plans⟩
  | releaseObservation _ plans => exact ⟨.releaseObservation _ _, plans⟩
  | effectIntent _ plans => exact ⟨.effectIntent _ _, plans⟩
  | effectReceipt _ plans => exact ⟨.effectReceipt _ _ _ _ _, plans⟩
  | supervisionActionIntent _ plans => exact ⟨.supervisionActionIntent _ _ _ _ _, plans⟩
  | supervisionActionResult _ plans => exact ⟨.supervisionActionResult _ _ _, plans⟩
  | processObservation _ plans => exact ⟨.processObservation _ _ _, plans⟩
  | terminalObservation _ plans => exact ⟨.terminalObservation _ _, plans⟩
  | executionAssessment _ plans => exact ⟨.executionAssessment _, plans⟩
  | reconciliationObservation _ plans => exact ⟨.reconciliationObservation _ _ _, plans⟩
  | restartReconciliationObservation _ plans =>
      exact ⟨.restartReconciliationObservation _ _ _, plans⟩

/-- A claim that is compared field by field with what its planner returns. -/
theorem ClaimCall.exactly (call : ClaimCall) {make : Nat → Delta}
    (step : Plans record (call.run p record.stamp) → ClaimStep p record (make record.charge))
    (verified : verifyExact record (call.run p record.stamp) make = .ok delta) :
    ClaimStep p record delta := by
  obtain ⟨planned, rfl⟩ := (verifyExact_eq_ok call.one).mp verified
  exact step planned

theorem commitStep_of_verifySingle (position : record.position = nextPosition p)
    (verified : verifySingle p record record.position.commitSeq = .ok delta) :
    CommitStep p [record] delta := by
  have current {claimed : Except Failure Delta}
      (checked : (do checkBoot p record; claimed) = .ok delta)
      (step : claimed = .ok delta → ClaimStep p record delta) : CommitStep p [record] delta := by
    rw [bind_eq_ok, exists_unit, checkBoot_eq_ok] at checked
    obtain ⟨⟨boot, clock⟩, accepted⟩ := checked
    exact .current position boot clock (step accepted)
  cases payload : record.payload with
  | journalGenesis data =>
      simp only [verifySingle, payload, verifyGenesis, bind_eq_ok, exists_unit, failIf_eq_ok,
        pure_eq_ok, not_or, Option.not_isSome_iff_eq_none] at verified
      obtain ⟨⟨anonymous, headless⟩, -, -, rfl⟩ := verified
      exact .genesis payload position headless anonymous
  | restartRecovery data =>
      simp only [verifySingle, payload, verifyRestart, bind_eq_ok, exists_unit, failIf_eq_ok,
        orFail_eq_ok, checkFits_eq_ok, pure_eq_ok, not_not, ne_eq] at verified
      obtain ⟨fresh, previous, head, headEq, recovered, ⟨bounds, boundsEq, fits⟩, rfl⟩ :=
        verified
      exact .restart payload position fresh previous.symm headEq recovered boundsEq fits
  | admission data => simp only [verifySingle, payload, reduceCtorEq] at verified
  | dedupeDecision data => simp only [verifySingle, payload, reduceCtorEq] at verified
  | capacityHold data =>
      simp only [verifySingle, payload] at verified
      refine current verified fun accepted => ?_
      obtain ⟨free, bounds, boundsEq, limit, observed, exhausted, fits, rfl⟩ :=
        verifyCapacityHold_eq_ok.mp accepted
      exact .capacityHold payload free boundsEq limit observed exhausted fits
  | ingressRefusal data =>
      simp only [verifySingle, payload] at verified
      refine current verified fun accepted => ?_
      obtain ⟨sequence, room, unreservedRoom, keyed, fresh, ⟨bounds, boundsEq, fits⟩, rfl⟩ :=
        verifyIngressRefusal_eq_ok.mp accepted
      exact .ingressRefusal payload sequence room unreservedRoom keyed fresh boundsEq fits
  | operatorAction data =>
      simp only [verifySingle, payload] at verified
      refine current verified fun accepted => ?_
      obtain ⟨held, unclaimed, ⟨head, headEq, immediate⟩, ⟨recovered, recoveredEq, inspected⟩,
        pending, ⟨bounds, boundsEq, fits⟩, rfl⟩ := verifyOperatorAction_eq_ok.mp accepted
      exact .operatorAction payload held unclaimed headEq immediate recoveredEq inspected pending
        boundsEq fits
  | runHold data =>
      simp only [verifySingle, payload] at verified
      refine current verified fun accepted => ?_
      obtain ⟨planned, rfl⟩ := (verifyRunHold_eq_ok payload).mp accepted
      exact .runHold payload planned
  | reservationIntent data =>
      simp only [verifySingle, payload] at verified
      refine current verified fun accepted => ?_
      obtain ⟨planned, journalUuid, uuid, rfl⟩ :=
        (verifyReservationIntent_eq_ok payload).mp accepted
      exact .reservationIntent payload uuid planned
  | initialReservationIntent data =>
      simp only [verifySingle, payload] at verified
      refine current verified fun accepted => ?_
      obtain ⟨planned, journalUuid, uuid, rfl⟩ :=
        (verifyInitialReservationIntent_eq_ok payload).mp accepted
      exact .initialReservationIntent payload uuid planned
  | reservationConfirmation data =>
      simp only [verifySingle, payload] at verified
      refine current verified fun accepted => ?_
      obtain ⟨planned, rfl⟩ := (verifyReservationConfirmation_eq_ok payload).mp accepted
      exact .reservationConfirmation payload planned
  | initialReservationConfirmation data =>
      simp only [verifySingle, payload] at verified
      refine current verified fun accepted => ?_
      obtain ⟨planned, rfl⟩ := (verifyInitialReservationConfirmation_eq_ok payload).mp accepted
      exact .initialReservationConfirmation payload planned
  | runIntent data digest =>
      simp only [verifySingle, payload] at verified
      refine current verified fun accepted => ?_
      obtain ⟨planned, rfl⟩ := (verifyRunIntent_eq_ok payload).mp accepted
      exact .runIntent payload planned
  | launchClaim data digest =>
      simp only [verifySingle, payload] at verified
      exact current verified (ClaimCall.exactly (.launchClaim _ _ _ _) (.launchClaim payload))
  | spawnAttestation data digest =>
      simp only [verifySingle, payload] at verified
      exact current verified (ClaimCall.exactly (.spawnAttestation _ _) (.spawnAttestation payload))
  | releaseIntent data digest =>
      simp only [verifySingle, payload] at verified
      exact current verified (ClaimCall.exactly (.releaseIntent _ _) (.releaseIntent payload))
  | releaseObservation data digest =>
      simp only [verifySingle, payload] at verified
      exact current verified
        (ClaimCall.exactly (.releaseObservation _ _) (.releaseObservation payload))
  | effectIntent data digest =>
      simp only [verifySingle, payload] at verified
      exact current verified (ClaimCall.exactly (.effectIntent _ _) (.effectIntent payload))
  | effectReceipt data digest =>
      simp only [verifySingle, payload] at verified
      exact current verified (ClaimCall.exactly (.effectReceipt _ _ _ _ _) (.effectReceipt payload))
  | supervisionActionIntent data digest =>
      simp only [verifySingle, payload] at verified
      exact current verified
        (ClaimCall.exactly (.supervisionActionIntent _ _ _ _ _) (.supervisionActionIntent payload))
  | supervisionActionResult data digest =>
      simp only [verifySingle, payload] at verified
      exact current verified
        (ClaimCall.exactly (.supervisionActionResult _ _ _) (.supervisionActionResult payload))
  | processObservation data digest =>
      simp only [verifySingle, payload] at verified
      exact current verified
        (ClaimCall.exactly (.processObservation _ _ _) (.processObservation payload))
  | terminalObservation data digest =>
      simp only [verifySingle, payload] at verified
      exact current verified
        (ClaimCall.exactly (.terminalObservation _ _) (.terminalObservation payload))
  | executionAssessment data digest =>
      simp only [verifySingle, payload] at verified
      exact current verified
        (ClaimCall.exactly (.executionAssessment _) (.executionAssessment payload))
  | reconciliationObservation data digest =>
      simp only [verifySingle, payload] at verified
      exact current verified
        (ClaimCall.exactly (.reconciliationObservation _ _ _) (.reconciliationObservation payload))
  | restartReconciliationObservation data digest =>
      simp only [verifySingle, payload] at verified
      exact current verified (ClaimCall.exactly (.restartReconciliationObservation _ _ _)
        (.restartReconciliationObservation payload))

theorem ClaimStep.verified (claim : ClaimStep p record delta)
    (boot : p.bootId = some record.stamp.bootId) (clock : p.lastMonoUs ≤ record.stamp.monoUs) :
    verifySingle p record record.position.commitSeq = .ok delta := by
  have current {claimed : Except Failure Delta} {delta : Delta} (accepted : claimed = .ok delta) :
      (do checkBoot p record; claimed) = .ok delta := by
    rw [bind_eq_ok, exists_unit, checkBoot_eq_ok]
    exact ⟨⟨boot, clock⟩, accepted⟩
  cases claim with
  | capacityHold payload free boundsEq limit observed exhausted fits =>
      simp only [verifySingle, payload]
      exact current (verifyCapacityHold_eq_ok.mpr
        ⟨free, _, boundsEq, limit, observed, exhausted, fits, rfl⟩)
  | ingressRefusal payload sequence room unreservedRoom keyed fresh boundsEq fits =>
      simp only [verifySingle, payload]
      exact current (verifyIngressRefusal_eq_ok.mpr
        ⟨sequence, room, unreservedRoom, keyed, fresh, ⟨_, boundsEq, fits⟩, rfl⟩)
  | operatorAction payload held unclaimed headEq immediate recoveredEq inspected pending
      boundsEq fits =>
      simp only [verifySingle, payload]
      exact current (verifyOperatorAction_eq_ok.mpr ⟨held, unclaimed, ⟨_, headEq, immediate⟩,
        ⟨_, recoveredEq, inspected⟩, pending, ⟨_, boundsEq, fits⟩, rfl⟩)
  | runHold payload planned =>
      simp only [verifySingle, payload]
      exact current ((verifyRunHold_eq_ok payload).mpr ⟨planned, rfl⟩)
  | reservationIntent payload uuid planned =>
      simp only [verifySingle, payload]
      exact current ((verifyReservationIntent_eq_ok payload).mpr ⟨planned, _, uuid, rfl⟩)
  | initialReservationIntent payload uuid planned =>
      simp only [verifySingle, payload]
      exact current ((verifyInitialReservationIntent_eq_ok payload).mpr ⟨planned, _, uuid, rfl⟩)
  | reservationConfirmation payload planned =>
      simp only [verifySingle, payload]
      exact current ((verifyReservationConfirmation_eq_ok payload).mpr ⟨planned, rfl⟩)
  | initialReservationConfirmation payload planned =>
      simp only [verifySingle, payload]
      exact current ((verifyInitialReservationConfirmation_eq_ok payload).mpr ⟨planned, rfl⟩)
  | runIntent payload planned =>
      simp only [verifySingle, payload]
      exact current ((verifyRunIntent_eq_ok payload).mpr ⟨planned, rfl⟩)
  | launchClaim payload planned | spawnAttestation payload planned
  | releaseIntent payload planned | releaseObservation payload planned
  | effectIntent payload planned | effectReceipt payload planned
  | supervisionActionIntent payload planned | supervisionActionResult payload planned
  | processObservation payload planned | terminalObservation payload planned
  | executionAssessment payload planned | reconciliationObservation payload planned
  | restartReconciliationObservation payload planned =>
      simp only [verifySingle, payload]
      exact current planned.verifyExact

/-! ## Whole commits -/

variable {records : List Record} {admission dedupe : Record}

theorem verifyCommit_singleton :
    verifyCommit p [record] = .ok delta ↔ record.position = nextPosition p ∧
      verifySingle p record record.position.commitSeq = .ok delta := by
  simp only [verifyCommit, checkFraming, checkChain, verifyShape, nextPosition, bind_eq_ok,
    exists_unit, failIf_eq_ok, Position.ext_iff]
  constructor
  · rintro ⟨⟨size, framing⟩, commitSeq, chain, generation, -, -, verified⟩
    simp at size framing commitSeq chain generation
    exact ⟨⟨generation, chain.1, commitSeq, framing, size.symm, chain.2⟩, verified⟩
  · rintro ⟨⟨generation, eventSeq, commitSeq, commitIndex, commitSize, prevDigest⟩, verified⟩
    refine ⟨⟨by simp [commitSize], by simp [commitIndex]⟩, by simp [commitSeq],
      by simp [eventSeq, prevDigest], by simp [generation], by simp, by simp, verified⟩

theorem verifyCommit_pair :
    verifyCommit p [admission, dedupe] = .ok delta ↔
      admission.position = { nextPosition p with commitSize := 2 } ∧
      dedupe.position = { nextPosition p with
        eventSeq := (nextPosition p).eventSeq + 1, commitIndex := 1, commitSize := 2,
        prevRecordDigest := admission.recordDigest } ∧
      dedupe.stamp = admission.stamp ∧
      verifyShape p [admission, dedupe] admission.position.commitSeq = .ok delta := by
  simp only [verifyCommit, checkFraming, checkChain, nextPosition, bind_eq_ok, exists_unit,
    failIf_eq_ok, Position.ext_iff, Stamp.ext_iff]
  constructor
  · rintro ⟨⟨size, framing⟩, commitSeq, ⟨first, second, -⟩, generation, boot, clock, verified⟩
    simp at size framing commitSeq first second generation boot clock
    obtain ⟨framingFirst, sameCommit, sameSize, framingSecond⟩ := framing
    exact ⟨⟨generation.1, first.1, commitSeq, framingFirst, size.symm, first.2⟩,
      ⟨generation.2, second.1, sameCommit.trans commitSeq, framingSecond,
        sameSize.trans size.symm, second.2⟩, ⟨boot, clock⟩, verified⟩
  · rintro ⟨⟨generation, eventSeq, commitSeq, commitIndex, commitSize, prevDigest⟩,
      ⟨generation', eventSeq', commitSeq', commitIndex', commitSize', prevDigest'⟩,
      ⟨boot, wall, mono⟩, verified⟩
    refine ⟨⟨by simp [commitSize], ?_⟩, by simp [commitSeq], ⟨by simp [eventSeq, prevDigest],
      by simp [eventSeq', prevDigest'], trivial⟩, by simp [generation, generation'],
      by simp [boot], by simp [wall, mono], verified⟩
    simp [commitIndex, commitIndex', commitSeq, commitSeq', commitSize, commitSize']

theorem verifyAdmissionPair_eq_ok {a : AdmissionData} {d : DedupeDecisionData}
    (admissionPayload : admission.payload = .admission a)
    (dedupePayload : dedupe.payload = .dedupeDecision d) :
    verifyAdmissionPair p admission dedupe a d admission.position.commitSeq = .ok delta ↔
      ∃ source key bounds, AdmissionStep p admission dedupe a d source key bounds ∧
        admissionDelta p admission dedupe a source key = delta := by
  simp only [verifyAdmissionPair, decideAdmission, bind_eq_ok, exists_unit, failIf_eq_ok,
    orFail_eq_ok, checkFits_eq_ok, pure_eq_ok, not_or, not_not, not_and, not_lt, ne_eq]
  constructor
  · rintro ⟨⟨admissionId, dedupeId⟩, source, parsed, _, digested, rfl, _, ⟨key, keyed, rfl⟩,
      bounds, boundsEq, room, pendingRoom, ⟨_, sameBounds, fits⟩, _, sameKey,
      ⟨arrival, decision, holds⟩, ⟨result, group, keyEq, before, after, superseded, count⟩, rfl⟩
    obtain rfl : key = _ := Except.ok.inj (keyed.symm.trans sameKey)
    obtain rfl : bounds = _ := Option.some.inj (boundsEq.symm.trans sameBounds)
    refine ⟨source, key, bounds, ⟨admissionPayload, dedupePayload, admissionId, dedupeId, parsed,
      digested, keyed, boundsEq, room, pendingRoom, fits, arrival, decision, holds, ?_⟩, rfl⟩
    cases d
    simp_all
  · rintro ⟨source, key, bounds, step, rfl⟩
    obtain rfl := step.dedupe_eq
    exact ⟨⟨step.admission_id, rfl⟩, source, step.parsed, _, step.digested, rfl, _,
      ⟨key, step.keyed, rfl⟩, bounds, step.bounds_eq, step.room, step.pendingRoom,
      ⟨bounds, step.bounds_eq, step.fits⟩, key, step.keyed,
      ⟨step.arrival, step.decision, step.holds⟩, ⟨rfl, rfl, rfl, rfl, rfl, rfl, rfl⟩, rfl⟩

/-- Replay accepts a commit exactly when it is a commit step. -/
theorem verifyCommit_iff : verifyCommit p records = .ok delta ↔ CommitStep p records delta := by
  constructor
  · intro accepted
    match records with
    | [] => cases accepted
    | [record] =>
        obtain ⟨position, verified⟩ := verifyCommit_singleton.mp accepted
        exact commitStep_of_verifySingle position verified
    | [admission, dedupe] =>
        obtain ⟨position, dedupePosition, stamp, verified⟩ := verifyCommit_pair.mp accepted
        unfold verifyShape at verified
        dsimp only at verified
        split at verified
        · rename_i a d admissionPayload dedupePayload
          rw [bind_eq_ok, exists_unit, checkBoot_eq_ok,
            verifyAdmissionPair_eq_ok admissionPayload dedupePayload] at verified
          obtain ⟨⟨boot, clock⟩, source, key, bounds, pair, rfl⟩ := verified
          exact .admission position dedupePosition stamp boot clock pair
        · cases verified
    | first :: second :: third :: rest =>
        simp only [verifyCommit, bind_eq_ok, exists_unit, verifyShape, reduceCtorEq, and_false]
          at accepted
  · intro step
    cases step with
    | genesis payload position headless anonymous =>
        rename_i record data
        have valid := (validateEnvelope_eq_ok.mp record.validated).2.2.2.2.2.2.2.2.2.2.2
        rw [payload] at valid
        simp only [validatePayload, validateJournalGenesis, bind_eq_ok, exists_unit,
          requireUuid_eq_ok, requireBound_eq_ok, failIf_eq_ok] at valid
        obtain ⟨-, admissions, pending, ordinary, total, ordered⟩ := valid
        refine verifyCommit_singleton.mpr ⟨position, ?_⟩
        simp only [verifySingle, payload, verifyGenesis, bind_eq_ok, exists_unit, failIf_eq_ok,
          pure_eq_ok, headless, anonymous]
        exact ⟨by simp, by simp [admissions, pending, ordinary, total], ordered, trivial⟩
    | restart payload position fresh previous headEq recovered boundsEq fits =>
        refine verifyCommit_singleton.mpr ⟨position, ?_⟩
        simp only [verifySingle, payload, verifyRestart, bind_eq_ok, exists_unit, failIf_eq_ok,
          orFail_eq_ok, checkFits_eq_ok, pure_eq_ok, not_not, ne_eq]
        exact ⟨fresh, previous.symm, _, headEq, recovered, ⟨_, boundsEq, fits⟩, rfl⟩
    | current position boot clock claim =>
        exact verifyCommit_singleton.mpr ⟨position, claim.verified boot clock⟩
    | admission position dedupePosition stamp boot clock pair =>
        refine verifyCommit_pair.mpr ⟨position, dedupePosition, stamp, ?_⟩
        simp only [verifyShape, pair.admission_payload, pair.dedupe_payload]
        rw [bind_eq_ok, exists_unit, checkBoot_eq_ok,
          verifyAdmissionPair_eq_ok pair.admission_payload pair.dedupe_payload]
        exact ⟨⟨boot, clock⟩, _, _, _, pair, rfl⟩

end ManyAlerts
