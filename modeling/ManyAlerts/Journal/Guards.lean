import ManyAlerts.Journal.Body
import ManyAlerts.Journal.Replay

/-!
# What a plan shows

One lemma per planner: a planner that returned a plan has sealed exactly this
draft after the head, within its region, and its projection passed the checks
named here.  Later modules never unfold a planner.
-/

namespace ManyAlerts

variable {p : Projection} {stamp : Stamp} {plan : Plan}

/-! ## The last step of a planner -/

/-- The plan is the draft sealed after the head and charged to the region. -/
structure PlansRecord (p : Projection) (head : Head) (bounds : JournalBounds)
    (region : Region) (draft : Draft) (stamp : Stamp) (plan : Plan) (record : Record) :
    Prop where
  draft_eq : record.toDraft = draft
  position_eq : record.position = singlePosition p head
  stamp_eq : record.stamp = stamp
  plan_eq : plan = ⟨[record], record.charge⟩
  fits : p.logicalBytes + record.charge ≤ region.limit bounds

theorem chargeRecords_eq_plan {bounds : JournalBounds} {region : Region}
    {records : List Record} :
    chargeRecords p bounds region records = .plan plan ↔
      p.logicalBytes + (records.map Record.charge).sum ≤ region.limit bounds ∧
        plan = ⟨records, (records.map Record.charge).sum⟩ := by
  unfold chargeRecords
  dsimp only
  split_ifs with exceeds
  · simp [exceeds]
  · simp [not_lt.mp exceeds, eq_comm]

theorem planRecord_eq_plan {head : Head} {bounds : JournalBounds} {region : Region}
    {draft : Draft} :
    planRecord p head bounds region draft stamp = .ok (.plan plan) ↔
      ∃ record, PlansRecord p head bounds region draft stamp plan record := by
  simp only [planRecord, bind_eq_ok, pure_eq_ok, sealRecord_eq_ok, chargeRecords_eq_plan,
    List.map_cons, List.map_nil, List.sum_cons, List.sum_nil, Nat.add_zero]
  constructor
  · rintro ⟨record, ⟨draft_eq, position_eq, stamp_eq⟩, fits, plan_eq⟩
    exact ⟨record, draft_eq, position_eq, stamp_eq, plan_eq, fits⟩
  · rintro ⟨record, draft_eq, position_eq, stamp_eq, plan_eq, fits⟩
    exact ⟨record, ⟨draft_eq, position_eq, stamp_eq⟩, fits, plan_eq⟩

@[simp] theorem refuseIf_eq_plan {exhausted : Prop} [Decidable exhausted]
    {refusal : CapacityRefusal} {rest : Except Failure Planned} :
    refuseIf exhausted refusal rest = .ok (.plan plan) ↔
      ¬exhausted ∧ rest = .ok (.plan plan) := by
  unfold refuseIf
  split_ifs with holds <;> simp [holds]

@[simp] theorem mapError_eq_ok {ε δ α : Type} {change : ε → δ} {result : Except ε α}
    {value : α} : result.mapError change = .ok value ↔ result = .ok value := by
  cases result <;> simp [Except.mapError]

theorem checkCap_eq_ok (record : Record) : checkCap record = .ok () := by
  have capped := (sealBody_eq_ok.mp record.isSealed).2.2.2
  simp only [checkCap, failIf_eq_ok, not_exists, not_and, not_lt]
  exact capped

theorem Record.charge_le (record : Record) :
    record.charge ≤ maxRecordBytes + recordOverheadBytes :=
  Nat.add_le_add_right (sealBody_eq_ok.mp record.isSealed).2.2.1 _

theorem chargeClaim_eq_plan {bounds : JournalBounds} {region : Region} {record : Record} :
    chargeClaim p bounds region record = .ok (.plan plan) ↔
      chargeRecords p bounds region [record] = .plan plan := by
  have capped := checkCap_eq_ok record
  unfold checkCap at capped
  simp only [chargeClaim, capped, ok_bind, pure_eq_ok]

/-- A claim is planned by sealing it under its own digest. -/
theorem planClaim_eq_plan {head : Head} {bounds : JournalBounds} {region : Region}
    {eventId : String} {claim : String → Payload} :
    planClaim p head bounds region eventId claim stamp = .ok (.plan plan) ↔
      ∃ digest record, claimDigestOf eventId (claim zeroDigest) = .ok digest ∧
        PlansRecord p head bounds region ⟨eventId, claim digest⟩ stamp plan record := by
  simp only [planClaim, sealClaim, bind_eq_ok, liftJson_eq_ok, sealRecord_eq_ok,
    chargeClaim_eq_plan, chargeRecords_eq_plan, List.map_cons, List.map_nil, List.sum_cons,
    List.sum_nil, Nat.add_zero]
  constructor
  · rintro ⟨record, ⟨digest, digested, draft_eq, position_eq, stamp_eq⟩, fits, plan_eq⟩
    exact ⟨digest, record, digested, draft_eq, position_eq, stamp_eq, plan_eq, fits⟩
  · rintro ⟨digest, record, digested, draft_eq, position_eq, stamp_eq, plan_eq, fits⟩
    exact ⟨record, ⟨digest, digested, draft_eq, position_eq, stamp_eq⟩, fits, plan_eq⟩

theorem planExecution_eq_plan {head : Head} {bounds : JournalBounds} {eventId : String}
    {claim : String → Payload} :
    planExecution p head bounds eventId claim stamp = .ok (.plan plan) ↔
      planClaim p head bounds .total eventId claim stamp = .ok (.plan plan) := by
  simp only [planExecution, planClaim, bind_eq_ok, mapError_eq_ok]

/-- The projection has a head and bounds, and its boot is the stamp's. -/
structure CurrentBoot (p : Projection) (stamp : Stamp) (head : Head) (bounds : JournalBounds) :
    Prop where
  head_eq : p.head = some head
  bounds_eq : p.bounds = some bounds
  boot_eq : p.bootId = some stamp.bootId

@[simp] theorem currentBoot_eq_ok {current : Head × JournalBounds} :
    currentBoot p stamp = .ok current ↔ CurrentBoot p stamp current.1 current.2 := by
  obtain ⟨head, bounds⟩ := current
  simp only [currentBoot, bind_eq_ok, orFail_eq_ok, failIf_eq_ok, exists_unit, pure_eq_ok,
    Prod.mk.injEq, not_not, ne_eq]
  constructor
  · rintro ⟨_, headEq, _, boundsEq, boot, rfl, rfl⟩
    exact ⟨headEq, boundsEq, boot⟩
  · rintro ⟨headEq, boundsEq, boot⟩
    exact ⟨_, headEq, _, boundsEq, boot, rfl, rfl⟩

/-! ## Schema version 1 -/

theorem planRestart_eq_plan {eventId : String} {anchorLag : Nat} {walFound : Option WalFound} :
    planRestart p eventId stamp anchorLag walFound = .ok (.plan plan) ↔
      ∃ head bounds previousBootId record, p.head = some head ∧ p.bounds = some bounds ∧
        p.bootId = some previousBootId ∧
        PlansRecord p head bounds .total
          ⟨eventId, .restartRecovery ⟨previousBootId, head.mark, anchorLag, walFound⟩⟩
          stamp plan record := by
  simp only [planRestart, bind_eq_ok, orFail_eq_ok, planRecord_eq_plan]
  tauto

theorem planCapacityHold_eq_plan {refusal : CapacityRefusal} {eventId digest : String} :
    planCapacityHold p refusal eventId stamp digest = .ok (some (.plan plan)) ↔
      ¬p.dispatchHolds.contains (.capacity refusal.code) ∧
        ∃ head bounds record, p.head = some head ∧ p.bounds = some bounds ∧
          PlansRecord p head bounds .total
            ⟨eventId, .capacityHold ⟨refusal.code, refusal.limit, refusal.observed,
              refusal.requested, digest⟩⟩ stamp plan record := by
  unfold planCapacityHold
  split_ifs with held
  · simp [held]
  · simp only [bind_eq_ok, orFail_eq_ok, pure_eq_ok, Option.some.injEq, exists_eq_right,
      planRecord_eq_plan, held]
    tauto

theorem planIngressRefusal_eq_plan {summary : RefusalSummary} {eventId : String} :
    planIngressRefusal p summary eventId stamp = .ok (.plan plan) ↔
      ∃ key head bounds record, refusalKey summary = .ok key ∧ key ∉ p.refusalKeys ∧
        p.refusalCount + 1 ≤ maxRefusalRecords ∧
        (summary.unreserved = true →
          p.refusalUnreservedCount + 1 ≤ maxRefusalRecords - refusalResolvedReserve) ∧
        p.head = some head ∧ p.bounds = some bounds ∧
        PlansRecord p head bounds .ordinary
          ⟨eventId, .ingressRefusal ⟨summary, key, p.refusalCount + 1⟩⟩ stamp plan record := by
  simp only [planIngressRefusal, bind_eq_ok]
  constructor
  · rintro ⟨key, keyed, planned⟩
    split_ifs at planned with coalesced full unreservedFull
    · cases planned
    · cases planned
    · cases planned
    · simp only [bind_eq_ok, orFail_eq_ok] at planned
      obtain ⟨head, headEq, bounds, boundsEq, result, sealed, rest⟩ := planned
      cases result with
      | refused refusal => cases rest
      | plan made =>
          obtain rfl : made = plan := by simpa using rest
          obtain ⟨record, plans⟩ := planRecord_eq_plan.mp sealed
          exact ⟨key, head, bounds, record, keyed, coalesced, not_lt.mp full,
            fun unreserved => not_lt.mp fun exceeds => unreservedFull ⟨unreserved, exceeds⟩,
            headEq, boundsEq, plans⟩
  · rintro ⟨key, head, bounds, record, keyed, fresh, room, unreservedRoom, headEq, boundsEq,
      plans⟩
    refine ⟨key, keyed, ?_⟩
    have sealed := planRecord_eq_plan.mpr ⟨record, plans⟩
    have unreservedFits : ¬(summary.unreserved = true ∧
        maxRefusalRecords - refusalResolvedReserve < p.refusalUnreservedCount + 1) :=
      fun exceeds => absurd (unreservedRoom exceeds.1) (not_le.mpr exceeds.2)
    rw [if_neg fresh, if_neg (not_lt.mpr room), if_neg unreservedFits]
    simp [headEq, boundsEq, orFail, sealed]

theorem planOperatorResume_eq_plan {eventId operator reason : String} :
    planOperatorResume p eventId stamp operator reason = .ok (.plan plan) ↔
      privateClaimsOutstanding p = false ∧
      ∃ since recovered head bounds pending record,
        p.dispatchHolds.get? .restartRecovery = some since ∧ p.bootRecovered = some recovered ∧
        p.head = some head ∧ p.bounds = some bounds ∧ pendingDigest p = .ok pending ∧
        PlansRecord p head bounds .total
          ⟨eventId, .operatorAction ⟨since, recovered.mark, pending, operator, reason⟩⟩
          stamp plan record := by
  simp only [planOperatorResume, bind_eq_ok, failIf_eq_ok, exists_unit, orFail_eq_ok,
    planRecord_eq_plan, Bool.not_eq_true]
  tauto

/-- What the plan of an admission shows. -/
structure PlansAdmission (p : Projection) (source : SourceRecord)
    (admissionId dedupeEventId : String) (stamp : Stamp) (plan : Plan) (head : Head)
    (bounds : JournalBounds) (key digest : String) (admission dedupe : Record) :
    Prop where
  head_eq : p.head = some head
  bounds_eq : p.bounds = some bounds
  key_eq : dedupeKey source = .ok key
  digest_eq : sourceDigest source = .ok digest
  room : p.admissionCount + 1 ≤ bounds.maxAdmissions
  pendingRoom : (decideWith p source admissionId key).result ≠ .suppressed →
    p.pending.size + (decideWith p source admissionId key).newPending ≤
      bounds.maxPendingFingerprints
  admission_draft : admission.toDraft = ⟨admissionId, .admission ⟨admissionId,
    p.lastArrivalSeq + 1, if (dispatchHolds p).isEmpty then .admitted else .held,
    dispatchHolds p, sourceToJson source, digest⟩⟩
  admission_position : admission.position =
    ⟨p.generation, head.eventSeq + 1, head.commitSeq + 1, 0, 2, head.recordDigest⟩
  admission_stamp : admission.stamp = stamp
  dedupe_draft : dedupe.toDraft = ⟨dedupeEventId, .dedupeDecision ⟨admissionId,
    (decideWith p source admissionId key).result, source.sourceGroup, key,
    (decideWith p source admissionId key).baselineBefore,
    (decideWith p source admissionId key).baselineAfter,
    (decideWith p source admissionId key).superseded,
    pendingCountAfter p (decideWith p source admissionId key)⟩⟩
  dedupe_position : dedupe.position =
    ⟨p.generation, head.eventSeq + 2, head.commitSeq + 1, 1, 2, admission.recordDigest⟩
  dedupe_stamp : dedupe.stamp = stamp
  plan_eq : plan = ⟨[admission, dedupe], admission.charge + dedupe.charge⟩
  fits : p.logicalBytes + (admission.charge + dedupe.charge) ≤ bounds.ordinaryBytes

theorem planAdmission_eq_plan {source : SourceRecord} {admissionId dedupeEventId : String} :
    planAdmission p source admissionId dedupeEventId stamp = .ok (.plan plan) ↔
      ∃ head bounds key digest admission dedupe, PlansAdmission p source admissionId
        dedupeEventId stamp plan head bounds key digest admission dedupe := by
  simp only [planAdmission, decideAdmission, bind_eq_ok, pure_eq_ok, orFail_eq_ok,
    refuseIf_eq_plan, not_lt, not_and, sealRecord_eq_ok, chargeRecords_eq_plan, List.map_cons,
    List.map_nil, List.sum_cons, List.sum_nil, Nat.add_zero]
  constructor
  · rintro ⟨_, ⟨key, keyed, rfl⟩, bounds, boundsEq, room, pendingRoom, digest, digested, head,
      headEq, admission, ⟨admissionDraft, admissionPosition, admissionStamp⟩, key', keyed',
      dedupe, ⟨dedupeDraft, dedupePosition, dedupeStamp⟩, fits, planEq⟩
    obtain rfl : key = key' := Except.ok.inj (keyed.symm.trans keyed')
    exact ⟨head, bounds, key, digest, admission, dedupe, headEq, boundsEq, keyed, digested,
      room, pendingRoom, admissionDraft, admissionPosition, admissionStamp, dedupeDraft,
      dedupePosition, dedupeStamp, planEq, fits⟩
  · rintro ⟨head, bounds, key, digest, admission, dedupe, plans⟩
    exact ⟨_, ⟨key, plans.key_eq, rfl⟩, bounds, plans.bounds_eq, plans.room, plans.pendingRoom,
      digest, plans.digest_eq, head, plans.head_eq, admission,
      ⟨plans.admission_draft, plans.admission_position, plans.admission_stamp⟩, key,
      plans.key_eq, dedupe, ⟨plans.dedupe_draft, plans.dedupe_position, plans.dedupe_stamp⟩,
      plans.fits, plans.plan_eq⟩

/-! ## Schema version 2 and the initial reservation -/

theorem planRunHold_plan {jobId admissionId eventId : String} {reason : RunHoldReason}
    (planned : planRunHold p jobId admissionId eventId reason stamp = .ok (.plan plan)) :
    ∃ head bounds pending memberDigest record, CurrentBoot p stamp head bounds ∧
      ¬p.runHolds.contains jobId ∧ p.runHolds.size < maxRunHolds ∧
      PlansRecord p head bounds .total
        ⟨eventId, .runHold ⟨jobId, admissionId, reason, head.commitSeq, pending,
          (members p admissionId).length, memberDigest⟩⟩ stamp plan record := by
  simp only [planRunHold, bind_eq_ok, currentBoot_eq_ok, failIf_eq_ok, exists_unit,
    refuseIf_eq_plan, planRecord_eq_plan, Prod.exists, not_or, not_le] at planned
  obtain ⟨head, bounds, current, ⟨fresh, -⟩, -, -, room, pending, -, memberDigest, -, record,
    plans⟩ := planned
  exact ⟨head, bounds, pending, memberDigest, record, current, fresh, room, plans⟩

theorem planReservationIntent_plan {ids : ReservationIds}
    (planned : planReservationIntent p ids stamp = .ok (.plan plan)) :
    ∃ head bounds digest record, CurrentBoot p stamp head bounds ∧
      ¬p.intents.contains ids.intentId ∧
      p.intents.size + p.initialIntents.size < maxReservationClaims ∧
      PlansRecord p head bounds .total
        ⟨ids.intentId, .reservationIntent ⟨ids, head.commitSeq, digest⟩⟩ stamp plan record := by
  simp only [planReservationIntent, bind_eq_ok, currentBoot_eq_ok, failIf_eq_ok, exists_unit,
    refuseIf_eq_plan, planRecord_eq_plan, orFail_eq_ok, liftJson_eq_ok, Prod.exists, not_or,
    not_le] at planned
  obtain ⟨head, bounds, current, -, room, held, -, -, memberDigest, -, -, uuid, -,
    ⟨-, -, fresh⟩, -, digest, -, record, plans⟩ := planned
  exact ⟨head, bounds, digest, record, current, fresh, room, plans⟩

theorem planInitialReservationIntent_plan {ids : ReservationIds}
    (planned : planInitialReservationIntent p ids stamp = .ok (.plan plan)) :
    ∃ head bounds memberDigest digest record, CurrentBoot p stamp head bounds ∧
      p.initialIntents.isEmpty = true ∧
      p.intents.size + p.initialIntents.size < maxReservationClaims ∧
      PlansRecord p head bounds .ordinary
        ⟨ids.intentId, .initialReservationIntent ⟨ids, head.commitSeq,
          (members p ids.admissionId).length, memberDigest, digest⟩⟩ stamp plan record := by
  simp only [planInitialReservationIntent, bind_eq_ok, currentBoot_eq_ok, failIf_eq_ok,
    exists_unit, refuseIf_eq_plan, planRecord_eq_plan, orFail_eq_ok, liftJson_eq_ok,
    Prod.exists, not_or, not_le, Bool.not_eq_false] at planned
  obtain ⟨head, bounds, current, ⟨-, -, none⟩, room, -, uuid, -, -, -, memberDigest, -, digest,
    -, record, plans⟩ := planned
  exact ⟨head, bounds, memberDigest, digest, record, current, none, room, plans⟩

theorem planReservationConfirmation_plan {intentId eventId : String} {event : LedgerEvent}
    (planned : planReservationConfirmation p intentId eventId event stamp =
      .ok (.plan plan)) :
    ∃ head bounds claimed record, CurrentBoot p stamp head bounds ∧
      p.intents.get? intentId = some claimed ∧ ¬p.confirmations.contains intentId ∧
      p.confirmations.size + p.initialConfirmations.size < maxReservationClaims ∧
      PlansRecord p head bounds .total
        ⟨eventId, .reservationConfirmation ⟨intentId, claimed.intentDigest, event.ledgerUuid,
          event.ledgerGeneration, event.ledgerEventId, event.sequence, event.eventDigest⟩⟩
        stamp plan record := by
  simp only [planReservationConfirmation, bind_eq_ok, currentBoot_eq_ok, failIf_eq_ok,
    exists_unit, refuseIf_eq_plan, planRecord_eq_plan, orFail_eq_ok, Prod.exists, not_le]
    at planned
  obtain ⟨head, bounds, current, room, claimed, found, fresh, -, -, record, plans⟩ := planned
  exact ⟨head, bounds, claimed, record, current, found, fresh, room, plans⟩

theorem planInitialReservationConfirmation_plan {intentId eventId : String}
    {event : LedgerEvent}
    (planned : planInitialReservationConfirmation p intentId eventId event stamp =
      .ok (.plan plan)) :
    ∃ head bounds claimed record, CurrentBoot p stamp head bounds ∧
      p.initialIntents.get? intentId = some claimed ∧
      ¬p.initialConfirmations.contains intentId ∧
      p.confirmations.size + p.initialConfirmations.size < maxReservationClaims ∧
      PlansRecord p head bounds .total
        ⟨eventId, .initialReservationConfirmation ⟨intentId, claimed.intentDigest,
          event.ledgerUuid, event.ledgerGeneration, event.ledgerEventId, event.sequence,
          event.eventDigest⟩⟩ stamp plan record := by
  simp only [planInitialReservationConfirmation, bind_eq_ok, currentBoot_eq_ok, failIf_eq_ok,
    exists_unit, refuseIf_eq_plan, planRecord_eq_plan, orFail_eq_ok, Prod.exists, not_le,
    not_or] at planned
  obtain ⟨head, bounds, current, room, claimed, found, ⟨fresh, -⟩, -, -, record, plans⟩ :=
    planned
  exact ⟨head, bounds, claimed, record, current, found, fresh, room, plans⟩

/-! ## Run claims -/

theorem planRunIntent_plan {intentId eventId ledgerHeadDigest : String}
    {ledgerHeadSequence : Nat} {services : List ServiceClaim}
    (planned : planRunIntent p intentId eventId ledgerHeadSequence ledgerHeadDigest services
      stamp = .ok (.plan plan)) :
    ∃ head bounds initial confirmation digest record, CurrentBoot p stamp head bounds ∧
      p.runIntent = none ∧ p.initialIntents.get? intentId = some initial ∧
      p.initialConfirmations.get? intentId = some confirmation ∧
      confirmation.intentDigest = initial.intentDigest ∧
      initial.committedAtSeq < confirmation.committedAtSeq ∧
      PlansRecord p head bounds .ordinary
        ⟨eventId, .runIntent (runIntentData head initial confirmation ledgerHeadSequence
          ledgerHeadDigest services) digest⟩ stamp plan record := by
  simp only [planRunIntent, bind_eq_ok, currentBoot_eq_ok, failIf_eq_ok, exists_unit,
    planClaim_eq_plan, orFail_eq_ok, Prod.exists, not_or, Bool.not_eq_false, not_not,
    Option.not_isSome_iff_eq_none] at planned
  obtain ⟨head, bounds, current, ⟨-, -, none⟩, initial, found, confirmation, confirmed,
    ⟨sameDigest, ordered, -⟩, -, -, -, -, -, -, -, digest, record, -, plans⟩ := planned
  exact ⟨head, bounds, initial, confirmation, digest, record, current, none, found, confirmed,
    sameDigest, ordered, plans⟩

theorem planLaunchClaim_plan {eventId forwarderGeneration barrierTokenDigest : String}
    {grants : List Grant}
    (planned : planLaunchClaim p eventId forwarderGeneration barrierTokenDigest grants stamp =
      .ok (.plan plan)) :
    ∃ head bounds intent digest record, CurrentBoot p stamp head bounds ∧
      p.runIntent = some intent ∧ p.launchClaim = none ∧
      grants.length = intent.services.length ∧
      PlansRecord p head bounds .ordinary
        ⟨eventId, .launchClaim (launchClaimData head intent forwarderGeneration
          barrierTokenDigest grants stamp) digest⟩ stamp plan record := by
  simp only [planLaunchClaim, bind_eq_ok, currentBoot_eq_ok, failIf_eq_ok, exists_unit,
    planClaim_eq_plan, orFail_eq_ok, Prod.exists, not_or, Bool.not_eq_false, not_not, ne_eq,
    Option.not_isSome_iff_eq_none] at planned
  obtain ⟨head, bounds, current, intent, found, ⟨none, -⟩, initial, -, -, -, -, ⟨lengths, -⟩,
    -, digest, record, -, plans⟩ := planned
  exact ⟨head, bounds, intent, digest, record, current, found, none, lengths, plans⟩

/-- A run launched by the current boot. -/
structure Launched (p : Projection) (stamp : Stamp) (head : Head) (bounds : JournalBounds)
    (launch : LaunchClaim) : Prop extends CurrentBoot p stamp head bounds where
  launch_eq : p.launchClaim = some launch
  launch_boot : launch.receiverBootId = stamp.bootId

theorem claimPreRelease_eq_ok {current : Head × JournalBounds × LaunchClaim}
    (passed : claimPreRelease p stamp = .ok current) :
    Launched p stamp current.1 current.2.1 current.2.2 := by
  simp only [claimPreRelease, bind_eq_ok, currentBoot_eq_ok, failIf_eq_ok, exists_unit,
    orFail_eq_ok, pure_eq_ok, Prod.exists, not_or, not_not, ne_eq] at passed
  obtain ⟨head, bounds, boot, launch, found, intent, -, ⟨-, -, same, -⟩, -, rfl⟩ := passed
  exact ⟨boot, found, same⟩

theorem planSpawnAttestation_plan {eventId : String} {witness : SpawnWitness}
    (planned : planSpawnAttestation p eventId witness stamp = .ok (.plan plan)) :
    ∃ head bounds launch digest record, Launched p stamp head bounds launch ∧
      p.spawnAttestation = none ∧
      PlansRecord p head bounds .ordinary
        ⟨eventId, .spawnAttestation (spawnAttestationData head launch witness stamp) digest⟩
        stamp plan record := by
  simp only [planSpawnAttestation, bind_eq_ok, failIf_eq_ok, exists_unit, planClaim_eq_plan,
    Prod.exists, not_or, Option.not_isSome_iff_eq_none] at planned
  obtain ⟨head, bounds, launch, passed, ⟨none, -⟩, digest, record, -, plans⟩ := planned
  exact ⟨head, bounds, launch, digest, record, claimPreRelease_eq_ok passed, none, plans⟩

theorem planReleaseIntent_plan {eventId : String} {activatedGrants : List Activation}
    (planned : planReleaseIntent p eventId activatedGrants stamp = .ok (.plan plan)) :
    ∃ head bounds launch attested digest record, Launched p stamp head bounds launch ∧
      p.spawnAttestation = some attested ∧ p.releaseIntent = none ∧
      p.processObservation = none ∧ p.supervisionActionIntents.isEmpty = true ∧
      activatedGrants.length = launch.grants.length ∧
      PlansRecord p head bounds .ordinary
        ⟨eventId, .releaseIntent (releaseIntentData head launch attested activatedGrants stamp)
          digest⟩ stamp plan record := by
  simp only [planReleaseIntent, bind_eq_ok, failIf_eq_ok, exists_unit, planClaim_eq_plan,
    orFail_eq_ok, Prod.exists, not_or, Option.not_isSome_iff_eq_none, Bool.not_eq_false,
    not_not, ne_eq] at planned
  obtain ⟨head, bounds, launch, passed, attested, found, ⟨none, noProcess, noAction, -, -,
    lengths⟩, -, digest, record, -, plans⟩ := planned
  exact ⟨head, bounds, launch, attested, digest, record, claimPreRelease_eq_ok passed, found,
    none, noProcess, noAction, lengths, plans⟩

theorem planReleaseObservation_plan {eventId ackDigest : String}
    (planned : planReleaseObservation p eventId ackDigest stamp = .ok (.plan plan)) :
    ∃ head bounds launch intended digest record, CurrentBoot p stamp head bounds ∧
      p.launchClaim = some launch ∧ p.releaseIntent = some intended ∧
      p.releaseObservation = none ∧ intended.receiverBootId = stamp.bootId ∧
      PlansRecord p head bounds .total
        ⟨eventId, .releaseObservation (releaseObservationData head launch intended ackDigest
          stamp) digest⟩ stamp plan record := by
  simp only [planReleaseObservation, bind_eq_ok, currentBoot_eq_ok, failIf_eq_ok, exists_unit,
    planClaim_eq_plan, orFail_eq_ok, Prod.exists, not_or, Option.not_isSome_iff_eq_none,
    not_not, ne_eq] at planned
  obtain ⟨head, bounds, current, launch, launched, intended, found, ⟨none, -, same, -⟩, digest,
    record, -, plans⟩ := planned
  exact ⟨head, bounds, launch, intended, digest, record, current, launched, found, none, same,
    plans⟩

theorem not_mem_of_claimEventIdOk {eventId : String} (ok : claimEventIdOk p eventId = true) :
    eventId ∉ usedEventIds p := by
  simp only [claimEventIdOk, Bool.and_eq_true, decide_eq_true_eq] at ok
  exact ok.2

theorem planEffectIntent_plan {eventId : String} {request : EffectRequest}
    (planned : planEffectIntent p eventId request stamp = .ok (.plan plan)) :
    ∃ head bounds launch released digest record, Launched p stamp head bounds launch ∧
      p.releaseObservation = some released ∧ p.processObservation = none ∧
      p.supervisionActionIntents.isEmpty = true ∧
      request.operationId ∉ usedEventIds p ∧ p.effectIntents.size < maxEffectClaims ∧
      PlansRecord p head bounds .ordinary
        ⟨eventId, .effectIntent (effectIntentData head launch released request stamp) digest⟩
        stamp plan record := by
  simp only [planEffectIntent, bind_eq_ok, failIf_eq_ok, exists_unit, planClaim_eq_plan,
    refuseIf_eq_plan, orFail_eq_ok, Prod.exists, not_or, Option.not_isSome_iff_eq_none,
    Bool.not_eq_false, not_le] at planned
  obtain ⟨head, bounds, launch, passed, released, found, grant, -,
    ⟨-, noProcess, noAction, -, -, fresh, -⟩, -, room, digest, record, -, plans⟩ := planned
  exact ⟨head, bounds, launch, released, digest, record, claimPreRelease_eq_ok passed, found,
    noProcess, noAction, not_mem_of_claimEventIdOk fresh, room, plans⟩

theorem planEffectReceipt_plan {eventId operationId digest : String} {state : DispatchState}
    {reason : DispatchReason}
    (planned : planEffectReceipt p eventId operationId state reason digest stamp =
      .ok (.plan plan)) :
    ∃ head bounds intent claimDigest record, CurrentBoot p stamp head bounds ∧
      p.effectIntents.get? operationId = some intent ∧
      ¬p.effectReceipts.contains operationId ∧ intent.receiverBootId = stamp.bootId ∧
      PlansRecord p head bounds .total
        ⟨eventId, .effectReceipt (effectReceiptData head intent operationId state reason digest
          stamp) claimDigest⟩ stamp plan record := by
  simp only [planEffectReceipt, bind_eq_ok, currentBoot_eq_ok, failIf_eq_ok, exists_unit,
    planClaim_eq_plan, orFail_eq_ok, Prod.exists, not_or, not_not, ne_eq] at planned
  obtain ⟨head, bounds, current, intent, found, ⟨fresh, -, same, -⟩, claimDigest, record, -,
    plans⟩ := planned
  exact ⟨head, bounds, intent, claimDigest, record, current, found, fresh, same, plans⟩

theorem planSupervisionActionIntent_plan {eventId actionId : String} {actionKind : ActionKind}
    {service : Option Service} {grantId : Option String}
    (planned : planSupervisionActionIntent p eventId actionId actionKind service grantId stamp =
      .ok (.plan plan)) :
    ∃ head bounds launch digest record, CurrentBoot p stamp head bounds ∧
      p.launchClaim = some launch ∧ launch.receiverBootId = stamp.bootId ∧
      actionId ∉ usedEventIds p ∧
      p.supervisionActionIntents.size < launch.grants.length + 2 ∧
      PlansRecord p head bounds .total
        ⟨eventId, .supervisionActionIntent (supervisionActionIntentData p head launch actionId
          actionKind service grantId stamp) digest⟩ stamp plan record := by
  simp only [planSupervisionActionIntent, bind_eq_ok, currentBoot_eq_ok, failIf_eq_ok,
    exists_unit, planClaim_eq_plan, orFail_eq_ok, Prod.exists, not_or, not_not, ne_eq, not_le,
    Bool.not_eq_false] at planned
  obtain ⟨head, bounds, current, launch, launched, ⟨-, fresh, -, same, -⟩, -, room, digest,
    record, -, plans⟩ := planned
  exact ⟨head, bounds, launch, digest, record, current, launched, same,
    not_mem_of_claimEventIdOk fresh, room, plans⟩

theorem planSupervisionActionResult_plan {eventId actionId : String}
    {claimedOutcome : ActionOutcome}
    (planned : planSupervisionActionResult p eventId actionId claimedOutcome stamp =
      .ok (.plan plan)) :
    ∃ head bounds intent launch digest record, CurrentBoot p stamp head bounds ∧
      p.supervisionActionIntents.get? actionId = some intent ∧
      p.launchClaim = some launch ∧ ¬p.supervisionActionResults.contains actionId ∧
      launch.receiverBootId = stamp.bootId ∧
      PlansRecord p head bounds .total
        ⟨eventId, .supervisionActionResult (supervisionActionResultData head launch intent
          actionId claimedOutcome stamp) digest⟩ stamp plan record := by
  simp only [planSupervisionActionResult, bind_eq_ok, currentBoot_eq_ok, failIf_eq_ok,
    exists_unit, planClaim_eq_plan, orFail_eq_ok, Prod.exists, not_or, not_not, ne_eq]
    at planned
  obtain ⟨head, bounds, current, intent, found, launch, launched, ⟨fresh, -, same, -⟩, digest,
    record, -, plans⟩ := planned
  exact ⟨head, bounds, intent, launch, digest, record, current, found, launched, fresh, same,
    plans⟩

theorem executionBase_eq_ok {eventId : String} {head : Head} {bounds : JournalBounds}
    {base : ExecutionBase} (passed : executionBase p eventId stamp = .ok (head, bounds, base)) :
    ∃ launch, Launched p stamp head bounds launch ∧
      base = executionBaseData head launch stamp := by
  simp only [executionBase, bind_eq_ok, currentBoot_eq_ok, failIf_eq_ok, exists_unit,
    orFail_eq_ok, pure_eq_ok, Prod.exists, Prod.mk.injEq, not_or, not_not, ne_eq] at passed
  obtain ⟨_, _, boot, launch, found, ⟨-, same, -⟩, rfl, rfl, rfl⟩ := passed
  exact ⟨launch, ⟨boot, found, same⟩, rfl⟩

theorem planProcessObservation_plan {eventId digest : String} {facts : ProcessFacts}
    (planned : planProcessObservation p eventId facts digest stamp = .ok (.plan plan)) :
    ∃ head bounds launch claimDigest record, Launched p stamp head bounds launch ∧
      p.processObservation = none ∧
      PlansRecord p head bounds .total
        ⟨eventId, .processObservation ⟨executionBaseData head launch stamp, facts, digest⟩
          claimDigest⟩ stamp plan record := by
  simp only [planProcessObservation, bind_eq_ok, failIf_eq_ok, exists_unit,
    planExecution_eq_plan, planClaim_eq_plan, Prod.exists, not_or,
    Option.not_isSome_iff_eq_none] at planned
  obtain ⟨head, bounds, base, passed, ⟨none, -⟩, -, claimDigest, record, -, plans⟩ := planned
  obtain ⟨launch, launched, rfl⟩ := executionBase_eq_ok passed
  exact ⟨head, bounds, launch, claimDigest, record, launched, none, plans⟩

theorem planTerminalObservation_plan {eventId : String} {summary : TerminalSummary}
    (planned : planTerminalObservation p eventId summary stamp = .ok (.plan plan)) :
    ∃ head bounds launch process digest record, Launched p stamp head bounds launch ∧
      p.processObservation = some process ∧ p.terminalObservation = none ∧
      PlansRecord p head bounds .total
        ⟨eventId, .terminalObservation ⟨executionBaseData head launch stamp, process.link,
          summary⟩ digest⟩ stamp plan record := by
  simp only [planTerminalObservation, bind_eq_ok, failIf_eq_ok, exists_unit, orFail_eq_ok,
    planExecution_eq_plan, planClaim_eq_plan, Prod.exists, not_or,
    Option.not_isSome_iff_eq_none] at planned
  obtain ⟨head, bounds, base, passed, process, found, ⟨none, -⟩, digest, record, -, plans⟩ :=
    planned
  obtain ⟨launch, launched, rfl⟩ := executionBase_eq_ok passed
  exact ⟨head, bounds, launch, process, digest, record, launched, found, none, plans⟩

theorem planExecutionAssessment_plan {eventId : String}
    (planned : planExecutionAssessment p eventId stamp = .ok (.plan plan)) :
    ∃ head bounds launch process terminal assessment digest record,
      Launched p stamp head bounds launch ∧ p.processObservation = some process ∧
      p.terminalObservation = some terminal ∧ p.executionAssessment = none ∧
      PlansRecord p head bounds .total
        ⟨eventId, .executionAssessment ⟨executionBaseData head launch stamp, process.link,
          terminal.link, assessment⟩ digest⟩ stamp plan record := by
  simp only [planExecutionAssessment, bind_eq_ok, failIf_eq_ok, exists_unit, orFail_eq_ok,
    planExecution_eq_plan, planClaim_eq_plan, Prod.exists, not_or,
    Option.not_isSome_iff_eq_none] at planned
  obtain ⟨head, bounds, base, passed, process, found, terminal, ended, ⟨none, -⟩, assessment, -,
    digest, record, -, plans⟩ := planned
  obtain ⟨launch, launched, rfl⟩ := executionBase_eq_ok passed
  exact ⟨head, bounds, launch, process, terminal, assessment, digest, record, launched, found,
    ended, none, plans⟩

theorem planReconciliationObservation_plan {eventId operationId : String}
    {report : ReadbackReport}
    (planned : planReconciliationObservation p eventId operationId report stamp =
      .ok (.plan plan)) :
    ∃ head bounds intent launch sourceKind digest record,
      Launched p stamp head bounds launch ∧ p.effectIntents.get? operationId = some intent ∧
      ((p.reconciliationObservations.get? operationId).getD []).length <
        maxReconciliationPerOperation ∧
      PlansRecord p head bounds .total
        ⟨eventId, .reconciliationObservation (reconciliationData launch intent head operationId
          sourceKind report
          (((p.reconciliationObservations.get? operationId).getD []).length + 1) stamp) digest⟩
        stamp plan record := by
  simp only [planReconciliationObservation, bind_eq_ok, currentBoot_eq_ok, failIf_eq_ok,
    exists_unit, orFail_eq_ok, refuseIf_eq_plan, planClaim_eq_plan, Prod.exists, not_or,
    not_not, ne_eq, not_le] at planned
  obtain ⟨head, bounds, current, intent, found, launch, launched, sourceKind, -,
    ⟨-, same, -⟩, room, digest, record, -, plans⟩ := planned
  exact ⟨head, bounds, intent, launch, sourceKind, digest, record, ⟨current, launched, same⟩,
    found, room, plans⟩

theorem planRestartReconciliationObservation_plan {eventId operationId : String}
    {report : ReadbackReport}
    (planned : planRestartReconciliationObservation p eventId operationId report stamp =
      .ok (.plan plan)) :
    ∃ head bounds intent launch recovered sourceKind startSeq startDigest digest record,
      CurrentBoot p stamp head bounds ∧ p.effectIntents.get? operationId = some intent ∧
      p.launchClaim = some launch ∧
      ((p.restartReconciliations.get? operationId).getD []).length <
        maxRestartReconciliationPerOperation ∧
      PlansRecord p head bounds .total
        ⟨eventId, .restartReconciliationObservation ⟨reconciliationData launch intent head
          operationId sourceKind report
          (((p.restartReconciliations.get? operationId).getD []).length + 1) stamp,
          intent.receiverBootId, startSeq, startDigest, Head.mark recovered⟩ digest⟩
        stamp plan record := by
  simp only [planRestartReconciliationObservation, bind_eq_ok, currentBoot_eq_ok, failIf_eq_ok,
    exists_unit, orFail_eq_ok, refuseIf_eq_plan, planClaim_eq_plan, Prod.exists, not_le]
    at planned
  obtain ⟨head, bounds, current, intent, found, launch, launched, recovered, -, sourceKind, -,
    startSeq, -, startDigest, -, -, room, digest, record, -, plans⟩ := planned
  exact ⟨head, bounds, intent, launch, recovered, sourceKind, startSeq, startDigest, digest,
    record, current, found, launched, room, plans⟩

end ManyAlerts
