import ManyAlerts.Journal.Claims

/-!
# Planners and replay agree

`PlannerCall` names every planner with its arguments.  What a planner plans on a
reachable projection is a commit replay accepts, and a commit replay accepts is
what a planner would have planned, byte for byte.
-/

namespace ManyAlerts

variable {p : Projection} {head : Head} {bounds : JournalBounds} {region : Region}
  {stamp : Stamp} {plan : Plan} {record : Record} {records : List Record} {delta : Delta}

/-! ## Calls -/

/-- Every planner of the reducer. -/
inductive PlannerCall where
  | genesis (journalUuid : String) (bounds : JournalBounds) (eventId : String)
  | restart (eventId : String) (anchorLag : Nat) (walFound : Option WalFound)
  | admission (source : SourceRecord) (admissionId dedupeEventId : String)
  | capacityHold (refusal : CapacityRefusal) (eventId refusedSourceDigest : String)
  | ingressRefusal (summary : RefusalSummary) (eventId : String)
  | operatorResume (eventId operator reason : String)
  | claim (call : ClaimCall)

def Planned.plan? : Planned → Option Plan
  | .plan plan => some plan
  | .refused _ => none

def PlannedRefusal.plan? : PlannedRefusal → Option Plan
  | .plan plan => some plan
  | .notRecorded _ => none

/-- The plan a planner returns, if it returns one. -/
def PlannerCall.run (p : Projection) (stamp : Stamp) : PlannerCall → Except Failure (Option Plan)
  | .genesis journalUuid bounds eventId =>
      (planGenesis journalUuid bounds eventId stamp).map some
  | .restart eventId anchorLag walFound =>
      (planRestart p eventId stamp anchorLag walFound).map Planned.plan?
  | .admission source admissionId dedupeEventId =>
      (planAdmission p source admissionId dedupeEventId stamp).map Planned.plan?
  | .capacityHold refusal eventId refusedSourceDigest =>
      (planCapacityHold p refusal eventId stamp refusedSourceDigest).map
        (·.bind Planned.plan?)
  | .ingressRefusal summary eventId =>
      (planIngressRefusal p summary eventId stamp).map PlannedRefusal.plan?
  | .operatorResume eventId operator reason =>
      (planOperatorResume p eventId stamp operator reason).map Planned.plan?
  | .claim call => (call.run p stamp).map Planned.plan?

/-- The stamp continues the current boot. -/
def Continues (p : Projection) (stamp : Stamp) : Prop :=
  p.bootId = some stamp.bootId ∧ p.lastMonoUs ≤ stamp.monoUs

/-- The call and its stamp are as the handle supplies them. -/
def PlannerCall.Supplied (p : Projection) (stamp : Stamp) : PlannerCall → Prop
  | .genesis _ _ _ => p.head = none
  | .restart _ _ _ => stamp.bootId ∉ p.seenBootIds
  | .capacityHold refusal _ _ => Continues p stamp ∧
      ∃ source admissionId dedupeEventId,
        planAdmission p source admissionId dedupeEventId stamp = .ok (.refused refusal)
  | .operatorResume _ _ _ => Continues p stamp ∧
      ∃ head, p.head = some head ∧ p.bootStartCommitSeq = some head.commitSeq
  | _ => Continues p stamp

@[simp] theorem map_eq_ok {ε α β : Type} {change : α → β} {result : Except ε α} {value : β} :
    result.map change = .ok value ↔ ∃ before, result = .ok before ∧ change before = value := by
  cases result <;> simp [Except.map]

@[simp] theorem Planned.plan?_eq_some {planned : Planned} :
    planned.plan? = some plan ↔ planned = .plan plan := by
  cases planned <;> simp [Planned.plan?]

@[simp] theorem PlannedRefusal.plan?_eq_some {planned : PlannedRefusal} :
    planned.plan? = some plan ↔ planned = .plan plan := by
  cases planned <;> simp [PlannedRefusal.plan?]

/-! ## What is planned is accepted -/

/-- The initial intents are filed under their own ids. -/
theorem initialIntent_key {intentId : String} {claim : InitialReservationIntentClaim}
    (reachable : Reachable p) (found : p.initialIntents.get? intentId = some claim) :
    claim.ids.intentId = intentId := by
  rcases reachable_live reachable with rfl | ⟨head, bounds, live⟩
  · cases found
  · obtain ⟨groups, commits⟩ := reachable_iff.mp reachable
    obtain ⟨uuid, uuidEq, -⟩ := live.uuid
    have hasHead : p.head.isSome := by rw [live.head_eq]; rfl
    obtain ⟨record, -, claimed⟩ := ((claimed_of_commits commits hasHead).has_iff uuid uuidEq
      (.initialReservationIntent intentId claim)).mp found
    unfold Record.claim? at claimed
    dsimp only at claimed
    split at claimed <;> simp only [Option.some.injEq, reduceCtorEq,
      Claim.initialReservationIntent.injEq] at claimed
    obtain ⟨rfl, rfl⟩ := claimed
    rfl

theorem Live.singlePosition_eq (live : Live p head bounds) :
    singlePosition p head = nextPosition p := by
  simp [singlePosition, nextPosition, live.head_eq, live.generation]

/-! ### Sources the planner was given -/

/-- Two sources with one canonical form differ at most in repeated values. -/
structure SameSource (left right : SourceRecord) : Prop where
  group : left.sourceGroup = right.sourceGroup
  truncated : left.truncatedAlerts = right.truncatedAlerts
  alerts : left.alerts.map (fun alert => (alertToJson alert).sortKeys) =
    right.alerts.map fun alert => (alertToJson alert).sortKeys

variable {left right : SourceRecord}

theorem optional_num_injective {one other : Option Int}
    (same : (Json.optional Json.num one).sortKeys = (Json.optional Json.num other).sortKeys) :
    one = other := by
  cases one <;> cases other <;> simp_all [Json.optional, Json.sortKeys]

theorem sameSource_of_sortKeys
    (same : (sourceToJson left).sortKeys = (sourceToJson right).sortKeys) :
    SameSource left right := by
  have fields := Json.sortKeys_obj_injective same rfl
  simp only [List.map_cons, List.map_nil, List.cons.injEq, Json.sortKeys_arr, Json.sortKeys_str,
    Json.arr.injEq, Json.str.injEq, List.map_map, and_true] at fields
  obtain ⟨alerts, -, -, group, truncated⟩ := fields
  exact ⟨group, optional_num_injective truncated, alerts⟩

/-- A reader of alerts that cannot tell apart alerts with one canonical form. -/
theorem SameSource.map {α : Type} (same : SameSource left right) (read : SourceAlert → α)
    (reads : ∀ one other : SourceAlert, (alertToJson one).sortKeys = (alertToJson other).sortKeys →
      read one = read other) :
    left.alerts.map read = right.alerts.map read := by
  have alerts := same.alerts
  generalize left.alerts = these at alerts ⊢
  generalize right.alerts = those at alerts ⊢
  induction these generalizing those with
  | nil =>
      cases those with
      | nil => rfl
      | cons alert those => cases alerts
  | cons one these induction =>
      cases those with
      | nil => cases alerts
      | cons other those =>
          simp only [List.map_cons, List.cons.injEq] at alerts ⊢
          exact ⟨reads one other alerts.1, induction those alerts.2⟩

theorem SameSource.fingerprints (same : SameSource left right) :
    left.alerts.map SourceAlert.fingerprint = right.alerts.map SourceAlert.fingerprint := by
  apply same.map
  intro one other equal
  have fields := Json.sortKeys_obj_injective equal rfl
  simp only [List.map_cons, List.cons.injEq, Json.sortKeys_str, Json.str.injEq] at fields
  exact fields.1

theorem SameSource.dedupePayload (same : SameSource left right) :
    (dedupePayload left).sortKeys = (dedupePayload right).sortKeys := by
  simp only [ManyAlerts.dedupePayload, Json.sortKeys_arr, List.map_map, Json.arr.injEq]
  apply same.map
  intro one other equal
  have fields := Json.sortKeys_obj_injective equal rfl
  simp only [List.map_cons, List.map_nil, List.cons.injEq, and_true] at fields
  obtain ⟨fingerprint, -, status, values⟩ := fields
  simp only [Function.comp_apply, dedupeRow, Json.sortKeys_arr, List.map_cons, List.map_nil,
    fingerprint, status, values]

theorem SameSource.pendingClaims (same : SameSource left right) (takes : PendingEntry → Bool) :
    pendingClaims p left takes = pendingClaims p right takes := by
  have claims (source : SourceRecord) : ManyAlerts.pendingClaims p source takes =
      ((source.alerts.map SourceAlert.fingerprint).filterMap fun fingerprint =>
        ((p.pending.get? fingerprint).filter takes).map fun entry =>
          (fingerprint, entry.admissionId)).insertionSort pairLe := by
    rw [ManyAlerts.pendingClaims, List.filterMap_map]
    rfl
  rw [claims, claims, same.fingerprints]

theorem SameSource.decideWith (same : SameSource left right) (admissionId key : String) :
    decideWith p left admissionId key = decideWith p right admissionId key := by
  have lengths : left.alerts.length = right.alerts.length := by
    simpa using congrArg List.length same.fingerprints
  simp only [ManyAlerts.decideWith, same.group, same.truncated, same.pendingClaims, lengths]

theorem digest_congr {tag : String} {one other : Json} {digest : String}
    (same : one.sortKeys = other.sortKeys)
    (digested : liftJson (taggedDigest tag one) = .ok digest) :
    liftJson (taggedDigest tag other) = .ok digest :=
  liftJson_eq_ok.mpr (taggedDigest_congr same (liftJson_eq_ok.mp digested))

/-- A sealed admission carries a source its parser accepts. -/
theorem admission_parses {data : AdmissionData} (payload : record.payload = .admission data) :
    ∃ source, sourceFromJson data.source = .ok source := by
  have valid := (validateEnvelope_eq_ok.mp record.validated).2.2.2.2.2.2.2.2.2.2.2
  rw [payload] at valid
  simp only [validatePayload, validateAdmission, bind_eq_ok, exists_unit] at valid
  obtain ⟨-, -, -, -, -, -, source, parsed, -⟩ := valid
  exact ⟨source, parsed⟩

theorem planAdmission_commitStep {source : SourceRecord} {admissionId dedupeEventId : String}
    (live : Live p head bounds) (continues : Continues p stamp)
    (planned : planAdmission p source admissionId dedupeEventId stamp = .ok (.plan plan)) :
    (∃ delta, CommitStep p plan.records delta) ∧
      plan.charge = (plan.records.map Record.charge).sum := by
  obtain ⟨head', bounds', key, digest, admission, dedupe, plans⟩ :=
    planAdmission_eq_plan.mp planned
  obtain rfl : head = head' := Option.some.inj (live.head_eq.symm.trans plans.head_eq)
  have admissionPayload := congrArg Draft.payload plans.admission_draft
  have dedupePayload := congrArg Draft.payload plans.dedupe_draft
  obtain ⟨parsed, parses⟩ := admission_parses admissionPayload
  have canonical := (sourceFromJson_ok parses).2
  have same := sameSource_of_sortKeys canonical
  rw [same.decideWith, same.group] at dedupePayload
  have room := plans.pendingRoom
  rw [same.decideWith] at room
  rw [plans.plan_eq]
  refine ⟨⟨admissionDelta p admission dedupe _ parsed key, .admission ?_ ?_ ?_ ?_ ?_
    { admission_payload := admissionPayload
      dedupe_payload := dedupePayload
      admission_id := (congrArg Draft.eventId plans.admission_draft).symm
      dedupe_id := rfl
      parsed := parses
      digested := digest_congr canonical plans.digest_eq
      keyed := digest_congr same.dedupePayload plans.key_eq
      bounds_eq := plans.bounds_eq
      room := plans.room
      pendingRoom := room
      fits := plans.fits
      arrival := rfl
      decision := rfl
      holds := rfl
      dedupe_eq := rfl }⟩, by simp⟩
  · simp [plans.admission_position, nextPosition, live.head_eq, live.generation]
  · simp [plans.dedupe_position, nextPosition, live.head_eq, live.generation]
  · rw [plans.dedupe_stamp, plans.admission_stamp]
  · rw [plans.admission_stamp]
    exact continues.1
  · rw [plans.admission_stamp]
    exact continues.2

/-! ### Every planner -/

theorem refuseIf_eq_refused {exhausted : Prop} [Decidable exhausted]
    {refusal found : CapacityRefusal} {rest : Except Failure Planned} :
    refuseIf exhausted refusal rest = .ok (.refused found) ↔
      (exhausted ∧ refusal = found) ∨ (¬exhausted ∧ rest = .ok (.refused found)) := by
  unfold refuseIf
  split_ifs with holds <;> simp [holds]

theorem newPending_le {source : SourceRecord} {admissionId : String} (key : String) :
    (decideWith p source admissionId key).newPending ≤ source.alerts.length := by
  unfold decideWith
  dsimp only
  split
  · exact Nat.zero_le _
  · exact Nat.sub_le _ _

/-- An admission is refused for one of the three bounds it exceeds. -/
theorem planAdmission_refused {source : SourceRecord} {admissionId dedupeEventId : String}
    {refusal : CapacityRefusal} (boundsEq : p.bounds = some bounds)
    (planned : planAdmission p source admissionId dedupeEventId stamp = .ok (.refused refusal)) :
    (refusal = ⟨.admissions, bounds.maxAdmissions, p.admissionCount, 1⟩ ∧
        bounds.maxAdmissions < p.admissionCount + 1) ∨
      (∃ fresh ≤ source.alerts.length,
        refusal = ⟨.pending, bounds.maxPendingFingerprints, p.pending.size, fresh⟩ ∧
          bounds.maxPendingFingerprints < p.pending.size + fresh) ∨
      ∃ charge ≤ 2 * (maxRecordBytes + recordOverheadBytes),
        refusal = ⟨.bytes, bounds.ordinaryBytes, p.logicalBytes, charge⟩ ∧
          bounds.ordinaryBytes < p.logicalBytes + charge := by
  simp only [planAdmission, bind_eq_ok, boundsEq, orFail_eq_ok, Option.some.injEq,
    exists_eq_left', refuseIf_eq_refused] at planned
  obtain ⟨decision, decided, ⟨full, rfl⟩ | ⟨-, ⟨full, rfl⟩ | ⟨-, planned⟩⟩⟩ := planned
  · exact .inl ⟨rfl, full⟩
  · simp only [decideAdmission, bind_eq_ok, pure_eq_ok] at decided
    obtain ⟨key, -, rfl⟩ := decided
    exact .inr (.inl ⟨_, newPending_le key, rfl, full.2⟩)
  · simp only [pure_eq_ok, chargeRecords] at planned
    obtain ⟨_, -, _, -, admission, -, _, -, dedupe, -, charged⟩ := planned
    split_ifs at charged with exceeds
    cases charged
    have first := admission.charge_le
    have second := dedupe.charge_le
    exact .inr (.inr ⟨_, by simp; omega, rfl, exceeds⟩)

/-- A refusal `plan_admission` returns names the limit and the count replay checks. -/
theorem planAdmission_refused_observed {source : SourceRecord}
    {admissionId dedupeEventId : String} {refusal : CapacityRefusal}
    (boundsEq : p.bounds = some bounds)
    (planned : planAdmission p source admissionId dedupeEventId stamp = .ok (.refused refusal)) :
    capacityLimit bounds refusal.code = some refusal.limit ∧
      capacityObserved p refusal.code = some refusal.observed ∧
      refusal.limit < refusal.observed + refusal.requested := by
  rcases planAdmission_refused boundsEq planned with ⟨rfl, full⟩ | ⟨fresh, -, rfl, full⟩ |
    ⟨charge, -, rfl, full⟩ <;> exact ⟨rfl, rfl, full⟩

theorem PlansRecord.step {draft : Draft} {make : Delta}
    (plans : PlansRecord p head bounds region draft stamp plan record)
    (step : CommitStep p [record] make) :
    (∃ delta, CommitStep p plan.records delta) ∧
      plan.charge = (plan.records.map Record.charge).sum := by
  rw [plans.plan_eq]
  exact ⟨⟨make, step⟩, by simp⟩

theorem PlansRecord.current {draft : Draft} (live : Live p head bounds)
    (continues : Continues p stamp)
    (plans : PlansRecord p head bounds region draft stamp plan record)
    (claim : ClaimStep p record delta) :
    (∃ delta, CommitStep p plan.records delta) ∧
      plan.charge = (plan.records.map Record.charge).sum := by
  refine plans.step (.current ?_ ?_ ?_ claim)
  · rw [plans.position_eq, live.singlePosition_eq]
  · rw [plans.stamp_eq]
    exact continues.1
  · rw [plans.stamp_eq]
    exact continues.2

theorem Reachable.live_of_boot {bootId : String} (reachable : Reachable p)
    (booted : p.bootId = some bootId) : ∃ head bounds, Live p head bounds := by
  rcases reachable_live reachable with rfl | live
  · cases booted
  · exact live

/-- On a reachable projection, what a planner plans is a commit replay accepts. -/
theorem PlannerCall.commitStep (call : PlannerCall) (reachable : Reachable p)
    (supplied : call.Supplied p stamp) (planned : call.run p stamp = .ok (some plan)) :
    (∃ delta, CommitStep p plan.records delta) ∧
      plan.charge = (plan.records.map Record.charge).sum := by
  cases call with
  | genesis journalUuid bounds eventId =>
      rcases reachable_live reachable with rfl | ⟨head, bounds, live⟩
      · simp only [PlannerCall.run, map_eq_ok, planGenesis, bind_eq_ok, pure_eq_ok,
          sealRecord_eq_ok, Option.some.injEq] at planned
        obtain ⟨_, ⟨record, ⟨draft, position, -⟩, rfl⟩, rfl⟩ := planned
        exact ⟨⟨_, .genesis (congrArg Draft.payload draft) position rfl rfl⟩, by simp⟩
      · cases live.head_eq.symm.trans supplied
  | restart eventId anchorLag walFound =>
      simp only [PlannerCall.run, map_eq_ok, Planned.plan?_eq_some, exists_eq_right,
        planRestart_eq_plan] at planned
      obtain ⟨head, bounds, previousBootId, record, headEq, boundsEq, booted, plans⟩ := planned
      obtain ⟨head', bounds', live⟩ := reachable.live_of_boot booted
      obtain rfl : head = head' := Option.some.inj (headEq.symm.trans live.head_eq)
      refine plans.step (.restart plans.payload_eq ?_ ?_ booted headEq rfl boundsEq plans.fits)
      · rw [plans.position_eq, live.singlePosition_eq]
      · rw [plans.stamp_eq]
        exact supplied
  | admission source admissionId dedupeEventId =>
      simp only [PlannerCall.run, map_eq_ok, Planned.plan?_eq_some, exists_eq_right] at planned
      obtain ⟨head, bounds, live⟩ := reachable.live_of_boot supplied.1
      exact planAdmission_commitStep live supplied planned
  | capacityHold refusal eventId refusedSourceDigest =>
      simp only [PlannerCall.run, map_eq_ok, Option.bind_eq_some_iff, Planned.plan?_eq_some,
        exists_eq_right, planCapacityHold_eq_plan] at planned
      obtain ⟨continues, source, admissionId, dedupeEventId, refused⟩ := supplied
      obtain ⟨free, head, bounds, record, headEq, boundsEq, plans⟩ := planned
      obtain ⟨head', bounds', live⟩ := reachable.live_of_boot continues.1
      obtain rfl : head = head' := Option.some.inj (headEq.symm.trans live.head_eq)
      obtain rfl : bounds = bounds' := Option.some.inj (boundsEq.symm.trans live.bounds_eq)
      obtain ⟨limit, observed, exhausted⟩ := planAdmission_refused_observed boundsEq refused
      exact plans.current live continues
        (.capacityHold plans.payload_eq free boundsEq limit observed exhausted plans.fits)
  | ingressRefusal summary eventId =>
      simp only [PlannerCall.run, map_eq_ok, PlannedRefusal.plan?_eq_some, exists_eq_right,
        planIngressRefusal_eq_plan] at planned
      obtain ⟨key, head, bounds, record, keyed, fresh, room, unreservedRoom, headEq, boundsEq,
        plans⟩ := planned
      obtain ⟨head', bounds', live⟩ := reachable.live_of_boot supplied.1
      obtain rfl : head = head' := Option.some.inj (headEq.symm.trans live.head_eq)
      obtain rfl : bounds = bounds' := Option.some.inj (boundsEq.symm.trans live.bounds_eq)
      exact plans.current live supplied (.ingressRefusal plans.payload_eq rfl room unreservedRoom
        keyed fresh boundsEq plans.fits)
  | operatorResume eventId operator reason =>
      simp only [PlannerCall.run, map_eq_ok, Planned.plan?_eq_some, exists_eq_right,
        planOperatorResume_eq_plan] at planned
      obtain ⟨continues, opened, openedEq, immediate⟩ := supplied
      obtain ⟨unclaimed, since, recovered, head, bounds, pending, record, held, recoveredEq,
        headEq, boundsEq, digested, plans⟩ := planned
      obtain ⟨head', bounds', live⟩ := reachable.live_of_boot continues.1
      obtain rfl : head = head' := Option.some.inj (headEq.symm.trans live.head_eq)
      obtain rfl : bounds = bounds' := Option.some.inj (boundsEq.symm.trans live.bounds_eq)
      obtain rfl : head = opened := Option.some.inj (headEq.symm.trans openedEq)
      exact plans.current live continues (.operatorAction plans.payload_eq held unclaimed headEq
        immediate recoveredEq rfl digested boundsEq plans.fits)
  | claim call =>
      simp only [PlannerCall.run, map_eq_ok, Planned.plan?_eq_some, exists_eq_right] at planned
      obtain ⟨head, bounds, live⟩ := reachable.live_of_boot supplied.1
      obtain ⟨journalUuid, uuid, -⟩ := live.uuid
      obtain ⟨record, ⟨head', bounds', region, draft, current, plans⟩, steps⟩ :=
        call.plansClaim planned
      obtain ⟨delta, claim⟩ := steps journalUuid uuid fun _ _ => initialIntent_key reachable
      obtain rfl : head = head' := Option.some.inj (live.head_eq.symm.trans current.head_eq)
      obtain rfl : bounds = bounds' := Option.some.inj (live.bounds_eq.symm.trans current.bounds_eq)
      exact plans.current live supplied claim

/-! ## What is accepted was planned -/

/-- A claim replay accepts, other than a capacity hold, is what its planner plans. -/
theorem ClaimStep.planned (claim : ClaimStep p record delta)
    (position : record.position = nextPosition p) (live : Live p head bounds)
    (shape : record.payload.eventType ≠ "capacity_hold") :
    ∃ call : PlannerCall, call.run p record.stamp = .ok (some ⟨[record], record.charge⟩) := by
  have single : record.position = singlePosition p head := by
    rw [position, live.singlePosition_eq]
  by_cases replanned : record.payload.replanned = true
  · obtain ⟨call, plans⟩ := claim.replans replanned
    refine ⟨.claim call, ?_⟩
    rw [PlannerCall.run, show call.run p record.stamp = _ from plans]
    rfl
  cases claim with
  | capacityHold payload => exact absurd (by rw [payload]; rfl) shape
  | ingressRefusal payload sequence room unreservedRoom keyed fresh boundsEq fits =>
      rename_i data bounds'
      refine ⟨.ingressRefusal data.summary record.eventId, ?_⟩
      simp only [PlannerCall.run, map_eq_ok, PlannedRefusal.plan?_eq_some, exists_eq_right,
        planIngressRefusal_eq_plan]
      refine ⟨data.refusalKey, head, bounds', record, keyed, fresh, room, unreservedRoom,
        live.head_eq, boundsEq, ?_, single, rfl, rfl, fits⟩
      exact Draft.ext rfl (by rw [payload, ← sequence])
  | operatorAction payload held unclaimed headEq immediate recoveredEq inspected pending boundsEq
      fits =>
      rename_i data bounds' head' recovered
      refine ⟨.operatorResume record.eventId data.operator data.reason, ?_⟩
      simp only [PlannerCall.run, map_eq_ok, Planned.plan?_eq_some, exists_eq_right,
        planOperatorResume_eq_plan]
      refine ⟨unclaimed, data.sinceCommitSeq, recovered, head, bounds', data.pendingDigest,
        record, held, recoveredEq, live.head_eq, boundsEq, pending, ?_, single, rfl, rfl, fits⟩
      exact Draft.ext rfl (by rw [payload, ← inspected])
  | _ => simp_all [Payload.replanned]

/-- The admission under the source its own JSON parses to has the same body. -/
theorem reseal_admission {data : AdmissionData} {source : SourceRecord}
    (payload : record.payload = .admission data)
    (parsed : sourceFromJson data.source = .ok source) :
    ∃ again : Record, again.toDraft =
        ⟨record.eventId, .admission { data with source := sourceToJson source }⟩ ∧
      again.position = record.position ∧ again.stamp = record.stamp ∧ again.body = record.body := by
  obtain ⟨ok, canonical⟩ := sourceFromJson_ok parsed
  obtain ⟨valid, encoded, small, -⟩ := sealBody_eq_ok.mp record.isSealed
  have sealed : sealBody ⟨record.eventId, .admission { data with source := sourceToJson source }⟩
      record.position record.stamp = .ok record.body := by
    refine sealBody_eq_ok.mpr ⟨?_, canonicalJson_congr ?_ encoded, small, by simp [privateCap]⟩
    · simp only [validateEnvelope_eq_ok, payload, validatePayload, validateAdmission, bind_eq_ok,
        exists_unit, parsed, sourceFromJson_sourceToJson ok] at valid ⊢
      exact valid
    · have sameData : (Json.obj record.payload.data).sortKeys =
          (Json.obj (Payload.admission
            { data with source := sourceToJson source }).data).sortKeys :=
        Json.sortKeys_obj_congr (by
          rw [payload]
          simp only [Payload.data, Payload.core, Payload.ownDigest, List.map_append, List.map_cons,
            canonical])
      refine Json.sortKeys_obj_congr ?_
      simp only [List.map_cons, sameData]
      simp only [payload, Payload.ids, Payload.schemaVersion, Payload.eventType, Payload.actor]
  exact ⟨⟨_, record.position, record.stamp, record.body, sealed⟩, rfl, rfl, rfl, rfl⟩

theorem AdmissionStep.planned {admission dedupe : Record} {a : AdmissionData}
    {d : DedupeDecisionData} {source : SourceRecord} {key : String} {bounds' : JournalBounds}
    (live : Live p head bounds)
    (position : admission.position = { nextPosition p with commitSize := 2 })
    (dedupePosition : dedupe.position = { nextPosition p with
      eventSeq := (nextPosition p).eventSeq + 1, commitIndex := 1, commitSize := 2,
      prevRecordDigest := admission.recordDigest })
    (stamps : dedupe.stamp = admission.stamp)
    (pair : AdmissionStep p admission dedupe a d source key bounds') :
    ∃ plan, planAdmission p source admission.eventId dedupe.eventId admission.stamp =
        .ok (.plan plan) ∧ plan.records.map Record.body = [admission.body, dedupe.body] := by
  obtain ⟨again, draft, samePosition, sameStamp, sameBody⟩ :=
    reseal_admission pair.admission_payload pair.parsed
  have sameDigest : again.recordDigest = admission.recordDigest := congrArg recordDigestOf sameBody
  have sameCharge : again.charge = admission.charge := by simp only [Record.charge, sameBody]
  refine ⟨⟨[again, dedupe], again.charge + dedupe.charge⟩, ?_, by simp [sameBody]⟩
  refine planAdmission_eq_plan.mpr ⟨head, bounds', key, a.sourceDigest, again, dedupe,
    live.head_eq, pair.bounds_eq, pair.keyed, pair.digested, pair.room, ?_, ?_, ?_, sameStamp,
    ?_, ?_, stamps, rfl, ?_⟩
  · rw [← pair.admission_id]
    exact pair.pendingRoom
  · rw [draft, ← pair.arrival, ← pair.decision, ← pair.holds, ← pair.admission_id]
  · simp [samePosition, position, nextPosition, live.head_eq, live.generation]
  · rw [← pair.admission_id]
    exact Draft.ext rfl (by rw [pair.dedupe_payload, pair.dedupe_eq])
  · simp [sameDigest, dedupePosition, nextPosition, live.head_eq, live.generation]
  · rw [sameCharge]
    exact pair.fits

/-- A commit replay accepts, other than a genesis or a capacity hold, has the
bodies some planner plans on the same projection under the records' own stamp. -/
theorem CommitStep.planned (reachable : Reachable p) (step : CommitStep p records delta)
    (shape : ∀ record ∈ records, record.payload.eventType ≠ "journal_genesis" ∧
      record.payload.eventType ≠ "capacity_hold") :
    ∃ call stamp plan, (∀ record ∈ records, record.stamp = stamp) ∧
      PlannerCall.run p stamp call = .ok (some plan) ∧
      plan.records.map Record.body = records.map Record.body := by
  cases step with
  | genesis payload position headless anonymous =>
      exact absurd (by rw [payload]; rfl) (shape _ (List.mem_singleton_self _)).1
  | restart payload position fresh previous headEq recovered boundsEq fits =>
      rename_i record data head' bounds'
      obtain ⟨head, bounds, live⟩ := reachable.live_of_boot previous
      obtain rfl : head = head' := Option.some.inj (live.head_eq.symm.trans headEq)
      refine ⟨.restart record.eventId data.anchorLag data.walFound, record.stamp,
        ⟨[record], record.charge⟩, by simp, ?_, rfl⟩
      simp only [PlannerCall.run, map_eq_ok, Planned.plan?_eq_some, exists_eq_right,
        planRestart_eq_plan]
      refine ⟨head, bounds', data.previousBootId, record, headEq, boundsEq, previous, ?_,
        by rw [position, live.singlePosition_eq], rfl, rfl, fits⟩
      exact Draft.ext rfl (by rw [payload, ← recovered])
  | current position boot clock claim =>
      rename_i record
      obtain ⟨head, bounds, live⟩ := reachable.live_of_boot boot
      obtain ⟨call, planned⟩ :=
        claim.planned position live (shape _ (List.mem_singleton_self _)).2
      exact ⟨call, record.stamp, _, by simp, planned, rfl⟩
  | admission position dedupePosition stamps boot clock pair =>
      rename_i admission dedupe a d source key bounds'
      obtain ⟨head, bounds, live⟩ := reachable.live_of_boot boot
      obtain ⟨plan, planned, bodies⟩ := pair.planned live position dedupePosition stamps
      exact ⟨.admission source admission.eventId dedupe.eventId, admission.stamp, plan,
        by simp [stamps], by simp [PlannerCall.run, planned], bodies⟩

end ManyAlerts
