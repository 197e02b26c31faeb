import ManyAlerts.Journal.Accounting

/-!
# The claims of a projection

The private claims a projection holds are exactly those its records make: a
claim is written once and never replaced.  `Claim` gathers the claim families,
`Projection.Has` reads them from a projection and `Record.claim?` from a record.
-/

namespace ManyAlerts

variable {p q : Projection} {record : Record} {records : List Record} {delta : Delta}
  {groups : List (List Record)}

/-- A claim under the key it is stored at. -/
inductive Claim where
  | runHold (jobId : String) (hold : RunHold)
  | reservationIntent (intentId : String) (claim : ReservationIntentClaim)
  | reservationConfirmation (intentId : String) (claim : ReservationConfirmationClaim)
  | initialReservationIntent (intentId : String) (claim : InitialReservationIntentClaim)
  | initialReservationConfirmation (intentId : String) (claim : ReservationConfirmationClaim)
  | runIntent (claim : RunIntentClaim)
  | launchClaim (claim : LaunchClaim)
  | spawnAttestation (claim : SpawnAttestationClaim)
  | releaseIntent (claim : ReleaseIntentClaim)
  | releaseObservation (claim : ReleaseObservationClaim)
  | effectIntent (operationId : String) (claim : EffectIntentClaim)
  | effectReceipt (operationId : String) (claim : EffectReceiptClaim)
  | supervisionActionIntent (actionId : String) (claim : SupervisionActionIntentClaim)
  | supervisionActionResult (actionId : String) (claim : SupervisionActionResultClaim)
  | processObservation (claim : ProcessObservationClaim)
  | terminalObservation (claim : TerminalObservationClaim)
  | executionAssessment (claim : ExecutionAssessmentClaim)
  | reconciliationObservation (operationId : String) (claim : ReconciliationObservationClaim)
  | restartReconciliation (operationId : String) (claim : RestartReconciliationClaim)

/-- The commit a claim was made in. -/
def Claim.committedAtSeq : Claim → Nat
  | .runHold _ hold => hold.sinceCommitSeq
  | .reservationIntent _ claim => claim.committedAtSeq
  | .reservationConfirmation _ claim => claim.committedAtSeq
  | .initialReservationIntent _ claim => claim.committedAtSeq
  | .initialReservationConfirmation _ claim => claim.committedAtSeq
  | .runIntent claim => claim.committedAtSeq
  | .launchClaim claim => claim.committedAtSeq
  | .spawnAttestation claim => claim.committedAtSeq
  | .releaseIntent claim => claim.committedAtSeq
  | .releaseObservation claim => claim.committedAtSeq
  | .effectIntent _ claim => claim.committedAtSeq
  | .effectReceipt _ claim => claim.committedAtSeq
  | .supervisionActionIntent _ claim => claim.committedAtSeq
  | .supervisionActionResult _ claim => claim.committedAtSeq
  | .processObservation claim => claim.committedAtSeq
  | .terminalObservation claim => claim.committedAtSeq
  | .executionAssessment claim => claim.committedAtSeq
  | .reconciliationObservation _ claim => claim.committedAtSeq
  | .restartReconciliation _ claim => claim.committedAtSeq

def Projection.Has (p : Projection) : Claim → Prop
  | .runHold jobId hold => p.runHolds.get? jobId = some hold
  | .reservationIntent intentId claim => p.intents.get? intentId = some claim
  | .reservationConfirmation intentId claim => p.confirmations.get? intentId = some claim
  | .initialReservationIntent intentId claim => p.initialIntents.get? intentId = some claim
  | .initialReservationConfirmation intentId claim =>
      p.initialConfirmations.get? intentId = some claim
  | .runIntent claim => p.runIntent = some claim
  | .launchClaim claim => p.launchClaim = some claim
  | .spawnAttestation claim => p.spawnAttestation = some claim
  | .releaseIntent claim => p.releaseIntent = some claim
  | .releaseObservation claim => p.releaseObservation = some claim
  | .effectIntent operationId claim => p.effectIntents.get? operationId = some claim
  | .effectReceipt operationId claim => p.effectReceipts.get? operationId = some claim
  | .supervisionActionIntent actionId claim =>
      p.supervisionActionIntents.get? actionId = some claim
  | .supervisionActionResult actionId claim =>
      p.supervisionActionResults.get? actionId = some claim
  | .processObservation claim => p.processObservation = some claim
  | .terminalObservation claim => p.terminalObservation = some claim
  | .executionAssessment claim => p.executionAssessment = some claim
  | .reconciliationObservation operationId claim =>
      claim ∈ (p.reconciliationObservations.get? operationId).getD []
  | .restartReconciliation operationId claim =>
      claim ∈ (p.restartReconciliations.get? operationId).getD []

/-- The claims a delta adds. -/
def Delta.Adds (delta : Delta) : Claim → Prop
  | .runHold jobId hold => delta.runHoldAdd = some (jobId, hold)
  | .reservationIntent intentId claim =>
      delta.reservationIntentAdd = some claim ∧ claim.ids.intentId = intentId
  | .reservationConfirmation intentId claim =>
      delta.reservationConfirmationAdd = some claim ∧ claim.intentId = intentId
  | .initialReservationIntent intentId claim =>
      delta.initialReservationIntentAdd = some claim ∧ claim.ids.intentId = intentId
  | .initialReservationConfirmation intentId claim =>
      delta.initialReservationConfirmationAdd = some claim ∧ claim.intentId = intentId
  | .runIntent claim => delta.runIntentAdd = some claim
  | .launchClaim claim => delta.launchClaimAdd = some claim
  | .spawnAttestation claim => delta.spawnAttestationAdd = some claim
  | .releaseIntent claim => delta.releaseIntentAdd = some claim
  | .releaseObservation claim => delta.releaseObservationAdd = some claim
  | .effectIntent operationId claim =>
      delta.effectIntentAdd = some claim ∧ claim.operationId = operationId
  | .effectReceipt operationId claim =>
      delta.effectReceiptAdd = some claim ∧ claim.operationId = operationId
  | .supervisionActionIntent actionId claim =>
      delta.supervisionActionIntentAdd = some claim ∧ claim.actionId = actionId
  | .supervisionActionResult actionId claim =>
      delta.supervisionActionResultAdd = some claim ∧ claim.actionId = actionId
  | .processObservation claim => delta.processObservationAdd = some claim
  | .terminalObservation claim => delta.terminalObservationAdd = some claim
  | .executionAssessment claim => delta.executionAssessmentAdd = some claim
  | .reconciliationObservation operationId claim =>
      delta.reconciliationObservationAdd = some claim ∧ claim.operationId = operationId
  | .restartReconciliation operationId claim =>
      delta.restartReconciliationAdd = some claim ∧ claim.operationId = operationId

/-- The claim a record makes in the journal of this identity. -/
def Record.claim? (journalUuid : String) (record : Record) : Option Claim :=
  let commitSeq := record.position.commitSeq
  let generation := record.position.journalGeneration
  match record.payload with
  | .runHold data => some (.runHold data.jobId (data.held commitSeq))
  | .reservationIntent data =>
      some (.reservationIntent data.ids.intentId (data.claim journalUuid generation commitSeq))
  | .reservationConfirmation data =>
      some (.reservationConfirmation data.intentId (data.claim record.eventId commitSeq))
  | .initialReservationIntent data =>
      some (.initialReservationIntent data.ids.intentId
        (data.claim journalUuid generation commitSeq))
  | .initialReservationConfirmation data =>
      some (.initialReservationConfirmation data.intentId (data.claim record.eventId commitSeq))
  | .runIntent data digest =>
      some (.runIntent (data.claim record.eventId digest generation commitSeq))
  | .launchClaim data digest =>
      some (.launchClaim (data.claim record.eventId digest commitSeq))
  | .spawnAttestation data digest =>
      some (.spawnAttestation (data.claim record.eventId digest commitSeq))
  | .releaseIntent data digest =>
      some (.releaseIntent (data.claim record.eventId digest commitSeq))
  | .releaseObservation data digest =>
      some (.releaseObservation (data.claim record.eventId digest commitSeq))
  | .effectIntent data digest =>
      some (.effectIntent data.operationId (data.claim record.eventId digest commitSeq))
  | .effectReceipt data digest =>
      some (.effectReceipt data.operationId (data.claim record.eventId digest commitSeq))
  | .supervisionActionIntent data digest =>
      some (.supervisionActionIntent data.actionId (data.claim record.eventId digest commitSeq))
  | .supervisionActionResult data digest =>
      some (.supervisionActionResult data.actionId (data.claim record.eventId digest commitSeq))
  | .processObservation data digest =>
      some (.processObservation (data.claim record.eventId digest commitSeq))
  | .terminalObservation data digest =>
      some (.terminalObservation (data.claim record.eventId digest commitSeq))
  | .executionAssessment data digest =>
      some (.executionAssessment (data.claim record.eventId digest commitSeq))
  | .reconciliationObservation data digest =>
      some (.reconciliationObservation data.operationId
        (data.claim record.eventId digest commitSeq))
  | .restartReconciliationObservation data digest =>
      some (.restartReconciliation data.common.operationId
        (data.claim record.eventId digest commitSeq))
  | _ => none

/-! ## A claim is written to a free place -/

/-- What is added, if anything, has a free place. -/
def FreeFor {α : Type} (added : Option α) (Free : α → Prop) : Prop :=
  ∀ claim ∈ added, Free claim

theorem freeFor_none {α : Type} {Free : α → Prop} : FreeFor none Free := by
  intro claim member
  cases member

theorem freeFor_some {α : Type} {Free : α → Prop} {claim : α} (free : Free claim) :
    FreeFor (some claim) Free := by
  rintro _ ⟨⟩
  exact free

theorem or_eq_some_iff {α : Type} {added current : Option α} {claim : α}
    (free : FreeFor added fun _ => current = none) :
    added.or current = some claim ↔ current = some claim ∨ added = some claim := by
  cases added with
  | none => simp
  | some other => simp [free other rfl]

theorem Dict.get?_addEntry_iff {K V : Type} [DecidableEq K] {dict : Dict K V}
    {added : Option (K × V)} {key : K} {value : V}
    (free : FreeFor added fun entry => dict.get? entry.1 = none) :
    (dict.addEntry added).get? key = some value ↔
      dict.get? key = some value ∨ added = some (key, value) := by
  cases added with
  | none => simp [addEntry]
  | some entry =>
      have unused := free entry rfl
      obtain ⟨entryKey, entryValue⟩ := entry
      simp only [addEntry, get?_set, Option.some.injEq, Prod.mk.injEq]
      split_ifs with same
      · subst same
        simp_all
      · simp [Ne.symm same]

theorem Dict.get?_addClaim_iff {K V : Type} [DecidableEq K] {dict : Dict K V} {own : V → K}
    {added : Option V} {key : K} {claim : V}
    (free : FreeFor added fun claim => dict.get? (own claim) = none) :
    (dict.addClaim own added).get? key = some claim ↔
      dict.get? key = some claim ∨ added = some claim ∧ own claim = key := by
  cases added with
  | none => simp [addClaim]
  | some other =>
      have unused := free other rfl
      simp only [addClaim, get?_set, Option.some.injEq]
      split_ifs with same
      · subst same
        simp only [Option.some.injEq, unused, reduceCtorEq, false_or]
        exact ⟨fun equal => ⟨equal, by rw [equal]⟩, fun both => both.1⟩
      · constructor
        · exact .inl
        · rintro (found | ⟨rfl, rfl⟩)
          · exact found
          · exact absurd rfl same

theorem Dict.mem_pushClaim_iff {K V : Type} [DecidableEq K] {dict : Dict K (List V)}
    {own : V → K} {added : Option V} {key : K} {claim : V} :
    claim ∈ ((dict.pushClaim own added).get? key).getD [] ↔
      claim ∈ (dict.get? key).getD [] ∨ added = some claim ∧ own claim = key := by
  cases added with
  | none => simp [pushClaim]
  | some other =>
      simp only [pushClaim, get?_set, Option.some.injEq]
      split_ifs with same
      · subst same
        simp only [Option.getD_some, List.mem_append, List.mem_singleton]
        exact or_congr_right ⟨fun equal => ⟨equal.symm, by rw [equal]⟩, fun both => both.1.symm⟩
      · constructor
        · exact .inl
        · rintro (found | ⟨rfl, rfl⟩)
          · exact found
          · exact absurd rfl same

/-- The claims a delta adds have free places.  A delta adds at most one claim, so
the fields of the other families hold by computation. -/
structure Fresh (p : Projection) (delta : Delta) : Prop where
  runHold :
    FreeFor delta.runHoldAdd fun entry => p.runHolds.get? entry.1 = none := by
      exact freeFor_none
  reservationIntent :
    FreeFor delta.reservationIntentAdd fun claim => p.intents.get? claim.ids.intentId = none := by
      exact freeFor_none
  reservationConfirmation : FreeFor delta.reservationConfirmationAdd
    fun claim => p.confirmations.get? claim.intentId = none := by exact freeFor_none
  initialReservationIntent : FreeFor delta.initialReservationIntentAdd
    fun claim => p.initialIntents.get? claim.ids.intentId = none := by exact freeFor_none
  initialReservationConfirmation : FreeFor delta.initialReservationConfirmationAdd
    fun claim => p.initialConfirmations.get? claim.intentId = none := by exact freeFor_none
  runIntent : FreeFor delta.runIntentAdd fun _ => p.runIntent = none := by exact freeFor_none
  launchClaim : FreeFor delta.launchClaimAdd fun _ => p.launchClaim = none := by exact freeFor_none
  spawnAttestation :
    FreeFor delta.spawnAttestationAdd fun _ => p.spawnAttestation = none := by
      exact freeFor_none
  releaseIntent :
    FreeFor delta.releaseIntentAdd fun _ => p.releaseIntent = none := by
      exact freeFor_none
  releaseObservation :
    FreeFor delta.releaseObservationAdd fun _ => p.releaseObservation = none := by
      exact freeFor_none
  effectIntent :
    FreeFor delta.effectIntentAdd fun claim => p.effectIntents.get? claim.operationId = none := by
      exact freeFor_none
  effectReceipt :
    FreeFor delta.effectReceiptAdd fun claim => p.effectReceipts.get? claim.operationId = none := by
      exact freeFor_none
  supervisionActionIntent : FreeFor delta.supervisionActionIntentAdd
    fun claim => p.supervisionActionIntents.get? claim.actionId = none := by exact freeFor_none
  supervisionActionResult : FreeFor delta.supervisionActionResultAdd
    fun claim => p.supervisionActionResults.get? claim.actionId = none := by exact freeFor_none
  processObservation :
    FreeFor delta.processObservationAdd fun _ => p.processObservation = none := by
      exact freeFor_none
  terminalObservation :
    FreeFor delta.terminalObservationAdd fun _ => p.terminalObservation = none := by
      exact freeFor_none
  executionAssessment :
    FreeFor delta.executionAssessmentAdd fun _ => p.executionAssessment = none := by
      exact freeFor_none

theorem has_applyDelta (fresh : Fresh p delta) (claim : Claim) :
    (applyDelta p delta).Has claim ↔ p.Has claim ∨ delta.Adds claim := by
  cases claim with
  | runHold jobId hold => exact Dict.get?_addEntry_iff fresh.runHold
  | reservationIntent key claim => exact Dict.get?_addClaim_iff fresh.reservationIntent
  | reservationConfirmation key claim => exact Dict.get?_addClaim_iff fresh.reservationConfirmation
  | initialReservationIntent key claim =>
      exact Dict.get?_addClaim_iff fresh.initialReservationIntent
  | initialReservationConfirmation key claim =>
      exact Dict.get?_addClaim_iff fresh.initialReservationConfirmation
  | runIntent claim => exact or_eq_some_iff fresh.runIntent
  | launchClaim claim => exact or_eq_some_iff fresh.launchClaim
  | spawnAttestation claim => exact or_eq_some_iff fresh.spawnAttestation
  | releaseIntent claim => exact or_eq_some_iff fresh.releaseIntent
  | releaseObservation claim => exact or_eq_some_iff fresh.releaseObservation
  | effectIntent key claim => exact Dict.get?_addClaim_iff fresh.effectIntent
  | effectReceipt key claim => exact Dict.get?_addClaim_iff fresh.effectReceipt
  | supervisionActionIntent key claim => exact Dict.get?_addClaim_iff fresh.supervisionActionIntent
  | supervisionActionResult key claim => exact Dict.get?_addClaim_iff fresh.supervisionActionResult
  | processObservation claim => exact or_eq_some_iff fresh.processObservation
  | terminalObservation claim => exact or_eq_some_iff fresh.terminalObservation
  | executionAssessment claim => exact or_eq_some_iff fresh.executionAssessment
  | reconciliationObservation key claim => exact Dict.mem_pushClaim_iff
  | restartReconciliation key claim => exact Dict.mem_pushClaim_iff

theorem Dict.get?_eq_none_of_not {K V : Type} [DecidableEq K] {dict : Dict K V} {key : K}
    (absent : ¬dict.contains key = true) : dict.get? key = none :=
  get?_eq_none_of_not_contains (by simpa using absent)

theorem effectIntents_fresh {operationId : String} (unused : operationId ∉ usedEventIds p) :
    p.effectIntents.get? operationId = none := by
  simp only [usedEventIds, List.mem_append, not_or, Dict.mem_keys_iff] at unused
  simpa using unused.1.1.1.1.1.1.1.1.1.1.2

theorem supervisionActionIntents_fresh {actionId : String} (unused : actionId ∉ usedEventIds p) :
    p.supervisionActionIntents.get? actionId = none := by
  simp only [usedEventIds, List.mem_append, not_or, Dict.mem_keys_iff] at unused
  simpa using unused.1.1.1.1.1.1.1.2

theorem ClaimStep.fresh (claim : ClaimStep p record delta) : Fresh p delta := by
  cases claim with
  | capacityHold => exact {}
  | ingressRefusal => exact {}
  | operatorAction => exact {}
  | runHold payload planned =>
      obtain ⟨_, _, _, _, _, _, absent, _⟩ := planRunHold_plan planned
      exact { runHold := freeFor_some (Dict.get?_eq_none_of_not absent) }
  | reservationIntent payload uuid planned =>
      obtain ⟨_, _, _, _, _, absent, _⟩ := planReservationIntent_plan planned
      exact { reservationIntent := freeFor_some (Dict.get?_eq_none_of_not absent) }
  | initialReservationIntent payload uuid planned =>
      obtain ⟨_, _, _, _, _, _, empty, _⟩ := planInitialReservationIntent_plan planned
      exact { initialReservationIntent := freeFor_some (Dict.isEmpty_iff.mp empty _) }
  | reservationConfirmation payload planned =>
      obtain ⟨_, _, _, _, _, _, absent, _⟩ := planReservationConfirmation_plan planned
      exact { reservationConfirmation := freeFor_some (Dict.get?_eq_none_of_not absent) }
  | initialReservationConfirmation payload planned =>
      obtain ⟨_, _, _, _, _, _, absent, _⟩ := planInitialReservationConfirmation_plan planned
      exact { initialReservationConfirmation := freeFor_some (Dict.get?_eq_none_of_not absent) }
  | runIntent payload planned =>
      obtain ⟨_, _, _, _, _, _, _, none, _⟩ := planRunIntent_plan planned
      exact { runIntent := freeFor_some none }
  | launchClaim payload planned =>
      obtain ⟨_, _, _, _, _, _, _, none, _⟩ := planLaunchClaim_plan planned
      exact { launchClaim := freeFor_some none }
  | spawnAttestation payload planned =>
      obtain ⟨_, _, _, _, _, _, none, _⟩ := planSpawnAttestation_plan planned
      exact { spawnAttestation := freeFor_some none }
  | releaseIntent payload planned =>
      obtain ⟨_, _, _, _, _, _, _, _, none, _⟩ := planReleaseIntent_plan planned
      exact { releaseIntent := freeFor_some none }
  | releaseObservation payload planned =>
      obtain ⟨_, _, _, _, _, _, _, _, _, none, _⟩ := planReleaseObservation_plan planned
      exact { releaseObservation := freeFor_some none }
  | effectIntent payload planned =>
      obtain ⟨_, _, _, _, _, _, _, _, _, _, unused, _⟩ := planEffectIntent_plan planned
      exact { effectIntent := freeFor_some (effectIntents_fresh unused) }
  | effectReceipt payload planned =>
      obtain ⟨_, _, _, _, _, _, _, absent, _⟩ := planEffectReceipt_plan planned
      exact { effectReceipt := freeFor_some (Dict.get?_eq_none_of_not absent) }
  | supervisionActionIntent payload planned =>
      obtain ⟨_, _, _, _, _, _, _, _, unused, _⟩ := planSupervisionActionIntent_plan planned
      exact { supervisionActionIntent := freeFor_some (supervisionActionIntents_fresh unused) }
  | supervisionActionResult payload planned =>
      obtain ⟨_, _, _, _, _, _, _, _, _, absent, _⟩ := planSupervisionActionResult_plan planned
      exact { supervisionActionResult := freeFor_some (Dict.get?_eq_none_of_not absent) }
  | processObservation payload planned =>
      obtain ⟨_, _, _, _, _, _, none, _⟩ := planProcessObservation_plan planned
      exact { processObservation := freeFor_some none }
  | terminalObservation payload planned =>
      obtain ⟨_, _, _, _, _, _, _, _, none, _⟩ := planTerminalObservation_plan planned
      exact { terminalObservation := freeFor_some none }
  | executionAssessment payload planned =>
      obtain ⟨_, _, _, _, _, _, _, _, _, _, _, none, _⟩ := planExecutionAssessment_plan planned
      exact { executionAssessment := freeFor_some none }
  | reconciliationObservation payload planned => exact {}
  | restartReconciliationObservation payload planned => exact {}

theorem CommitStep.fresh (step : CommitStep p records delta) : Fresh p delta := by
  cases step with
  | genesis => exact {}
  | restart => exact {}
  | current position boot clock claim => exact claim.fresh
  | admission => exact {}

/-! ## The claims added are those of the record -/

/-- A keyed claim is added under its own key. -/
theorem keyed_iff {α : Type} {made claim : α} {madeKey claimKey key : String}
    (own : made = claim → madeKey = claimKey) :
    made = claim ∧ claimKey = key ↔ madeKey = key ∧ made = claim := by
  constructor
  · rintro ⟨same, rfl⟩
    exact ⟨own same, same⟩
  · rintro ⟨rfl, same⟩
    exact ⟨same, (own same).symm⟩

theorem ClaimStep.adds_iff {journalUuid : String} (step : ClaimStep p record delta)
    (uuid : p.journalUuid = some journalUuid)
    (generation : record.position.journalGeneration = p.generation) (claim : Claim) :
    delta.Adds claim ↔ record.claim? journalUuid = some claim := by
  cases step with
  | capacityHold payload | ingressRefusal payload | operatorAction payload | runHold payload
  | launchClaim payload | spawnAttestation payload | releaseIntent payload
  | releaseObservation payload | processObservation payload | terminalObservation payload
  | executionAssessment payload =>
      simp only [Record.claim?, payload]
      cases claim <;> simp [Delta.Adds, currentDelta, claimDelta]
  | runIntent payload planned =>
      simp only [Record.claim?, payload, generation]
      cases claim <;> simp [Delta.Adds, currentDelta, claimDelta]
  -- The other claims are filed under a key; only that of the record's own kind is added.
  | reservationIntent payload found | initialReservationIntent payload found =>
      obtain rfl := Option.some.inj (uuid.symm.trans found)
      simp only [Record.claim?, payload, generation]
      cases claim <;> simp only [Delta.Adds, currentDelta, claimDelta, Option.some.injEq,
        reduceCtorEq, false_and, Claim.reservationIntent.injEq,
        Claim.initialReservationIntent.injEq]
      exact keyed_iff fun same => same ▸ rfl
  | reservationConfirmation payload | initialReservationConfirmation payload
  | effectIntent payload | effectReceipt payload | supervisionActionIntent payload
  | supervisionActionResult payload | reconciliationObservation payload
  | restartReconciliationObservation payload =>
      simp only [Record.claim?, payload]
      cases claim <;> simp only [Delta.Adds, currentDelta, claimDelta, Option.some.injEq,
        reduceCtorEq, false_and, Claim.reservationConfirmation.injEq,
        Claim.initialReservationConfirmation.injEq, Claim.effectIntent.injEq,
        Claim.effectReceipt.injEq, Claim.supervisionActionIntent.injEq,
        Claim.supervisionActionResult.injEq, Claim.reconciliationObservation.injEq,
        Claim.restartReconciliation.injEq]
      exact keyed_iff fun same => same ▸ rfl

theorem CommitStep.adds_iff {journalUuid : String} {head : Head} {bounds : JournalBounds}
    (step : CommitStep p records delta) (live : Live p head bounds)
    (uuid : p.journalUuid = some journalUuid) (claim : Claim) :
    delta.Adds claim ↔ ∃ record ∈ records, record.claim? journalUuid = some claim := by
  cases step with
  | genesis payload position headless anonymous =>
      rw [live.head_eq] at headless
      cases headless
  | restart payload =>
      simp only [List.mem_singleton, exists_eq_left, Record.claim?, payload]
      cases claim <;> simp [Delta.Adds, currentDelta, claimDelta]
  | current position boot clock step =>
      have generation : (nextPosition p).journalGeneration = p.generation := by
        simp [nextPosition, live.generation]
      simpa only [List.mem_singleton, exists_eq_left] using
        step.adds_iff uuid (position ▸ generation) claim
  | admission position dedupePosition stamp boot clock pair =>
      simp only [List.mem_pair, exists_eq_or_imp, exists_eq_left, Record.claim?,
        pair.admission_payload, pair.dedupe_payload]
      cases claim <;> simp [Delta.Adds, admissionDelta, claimDelta]

/-! ## Whole histories -/

/-- The claims of a projection against the records behind it. -/
structure Claimed (groups : List (List Record)) (p : Projection) : Prop where
  has_iff : ∀ journalUuid, p.journalUuid = some journalUuid → ∀ claim, p.Has claim ↔
    ∃ record ∈ groups.flatten, record.claim? journalUuid = some claim
  dated : ∀ record ∈ groups.flatten, record.position.commitSeq ≤ p.commitCount
  booted : ∀ record ∈ groups.flatten, record.stamp.bootId ∈ p.seenBootIds

theorem not_has_new (claim : Claim) : ¬newProjection.Has claim := by
  cases claim <;> simp [Projection.Has, newProjection]

theorem claimed_genesis {data : GenesisData} (payload : record.payload = .journalGenesis data) :
    Claimed [[record]] (applyDelta newProjection (genesisDelta record data)) where
  has_iff := by
    intro journalUuid _ claim
    have nothing : ¬(genesisDelta record data).Adds claim := by
      cases claim <;> simp [Delta.Adds, genesisDelta]
    rw [has_applyDelta {}]
    simp [not_has_new, nothing, Record.claim?, payload]
  dated := by simp [applyDelta, genesisDelta, Projection.commitCount]
  booted := by simp [applyDelta, genesisDelta]

/-- Every record of a commit carries its number and its boot. -/
theorem CommitStep.record_facts (step : CommitStep p records delta) (hasHead : p.head.isSome)
    (member : record ∈ records) :
    record.position.commitSeq = p.commitCount + 1 ∧ record.stamp.bootId = delta.bootId := by
  cases step with
  | genesis payload position headless anonymous => simp [headless] at hasHead
  | restart payload position =>
      rw [List.mem_singleton.mp member, position]
      exact ⟨rfl, rfl⟩
  | current position boot clock claim =>
      rw [List.mem_singleton.mp member, position, claim.basic.bootId]
      exact ⟨rfl, rfl⟩
  | admission position dedupePosition stamp boot clock pair =>
      rcases List.mem_pair.mp member with rfl | rfl
      · rw [position, ← stamp]
        exact ⟨rfl, rfl⟩
      · rw [dedupePosition]
        exact ⟨rfl, rfl⟩

theorem Claimed.step {head : Head} {bounds : JournalBounds} (claimed : Claimed groups p)
    (live : Live p head bounds) (step : CommitStep p records delta) :
    Claimed (groups ++ [records]) (applyDelta p delta) := by
  have hasHead : p.head.isSome := by simp [live.head_eq]
  have advances := step.advances hasHead
  have count : (applyDelta p delta).commitCount = p.commitCount + 1 := advances.commitSeq
  have booted := (live.step step).boot
  obtain ⟨boot, bootEq, bootSeen, -⟩ := booted
  obtain rfl : delta.bootId = boot := Option.some.inj bootEq
  refine ⟨fun journalUuid uuid claim => ?_, fun record member => ?_, fun record member => ?_⟩
  · have sameUuid : p.journalUuid = some journalUuid := by
      simpa [applyDelta, advances.journalUuid] using uuid
    rw [has_applyDelta step.fresh, step.adds_iff live sameUuid,
      claimed.has_iff journalUuid sameUuid]
    simp only [List.flatten_append, List.flatten_singleton, List.mem_append, or_and_right,
      exists_or]
  · rw [List.flatten_append, List.flatten_singleton, List.mem_append] at member
    rcases member with earlier | later
    · exact (claimed.dated record earlier).trans (by omega)
    · exact le_of_eq ((step.record_facts hasHead later).1.trans count.symm)
  · rw [List.flatten_append, List.flatten_singleton, List.mem_append] at member
    rcases member with earlier | later
    · exact Finset.mem_union_left _ (claimed.booted record earlier)
    · rw [(step.record_facts hasHead later).2]
      exact bootSeen

/-- The claims of a projection are those its records make. -/
theorem claimed_of_commits (commits : Commits newProjection groups p) (hasHead : p.head.isSome) :
    Claimed groups p :=
  Commits.live_history Claimed (fun _ _ payload _ => claimed_genesis payload)
    (fun _ _ _ _ _ _ live claimed step => claimed.step live step) commits hasHead

/-- Every claim of a projection was made in one of its commits. -/
theorem Claimed.committedAtSeq_le {journalUuid : String} (claimed : Claimed groups p)
    (uuid : p.journalUuid = some journalUuid) {claim : Claim} (has : p.Has claim) :
    claim.committedAtSeq ≤ p.commitCount := by
  obtain ⟨record, member, made⟩ := (claimed.has_iff journalUuid uuid claim).mp has
  have same : claim.committedAtSeq = record.position.commitSeq := by
    unfold Record.claim? at made
    dsimp only at made
    split at made <;> cases made <;> rfl
  exact same ▸ claimed.dated record member

end ManyAlerts
