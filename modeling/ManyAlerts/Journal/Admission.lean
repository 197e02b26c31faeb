import ManyAlerts.Journal.Sound

/-!
# An admission is always planned

For a valid source, `planAdmission` on a live reachable projection returns a
plan or a refusal.  Every field of the two records passes its check, and the
largest source and the longest list of superseded entries stay below the record
cap.  One condition is left to the hash: the zero digest marks the start of the
chain, so no later record can follow a record that hashes to it.
-/

namespace ManyAlerts

variable {p : Projection} {head : Head} {bounds : JournalBounds} {source : SourceRecord}
  {stamp : Stamp} {admissionId dedupeEventId key : String}

/-- A stamp of the current boot with a valid clock reading. -/
structure Stamped (p : Projection) (stamp : Stamp) : Prop where
  boot : p.bootId = some stamp.bootId
  clock : p.lastMonoUs ≤ stamp.monoUs
  wallTime : isWallTime stamp.wallTime = true
  monoUs : stamp.monoUs ≤ maxSeq

/-! ## Dispatch holds -/

theorem Sound.known_hold (sound : Sound p head bounds) {code : HoldCode}
    (held : code ∈ p.dispatchHolds.keys) : code ∈ dispatchHoldCodes := by
  obtain ⟨since, found⟩ := Option.isSome_iff_exists.mp (Dict.mem_keys_iff.mp held)
  exact (sound.holds code since found).1

theorem Sound.length_dispatchHolds (sound : Sound p head bounds) :
    (dispatchHolds p).length ≤ 4 := by
  rw [dispatchHolds, (List.perm_insertionSort _ _).length_eq]
  exact (List.Nodup.subperm p.dispatchHolds.nodup fun _ => sound.known_hold).length_le

theorem Sound.dispatchHolds_sorted (sound : Sound p head bounds) :
    ((dispatchHolds p).map HoldCode.text).Pairwise (· < ·) := by
  refine pairwise_lt_insertionSort (fun _ _ => le_total _ _) (fun _ _ _ => le_trans)
    (fun _ _ => id) (List.Nodup.map_on (fun left leftHeld right rightHeld same => ?_)
      p.dispatchHolds.nodup)
  have distinct : (dispatchHoldCodes.map HoldCode.text).Nodup := by decide
  exact List.inj_on_of_nodup_map distinct (sound.known_hold leftHeld)
    (sound.known_hold rightHeld) same

/-! ## Superseded entries -/

theorem checkSuperseded_of_sorted {previous : Option String} {entries : List (String × String)}
    (valid : ∀ entry ∈ entries, isFingerprint entry.1 = true ∧ isId entry.2 = true)
    (sorted : (entries.map Prod.fst).Pairwise (· < ·))
    (above : ∀ earlier ∈ previous, ∀ entry ∈ entries, earlier < entry.1) :
    checkSuperseded previous entries = .ok () := by
  induction entries generalizing previous with
  | nil => rfl
  | cons entry entries induction =>
      rw [List.map_cons, List.pairwise_cons, List.forall_mem_map] at sorted
      obtain ⟨first, others⟩ := List.forall_mem_cons.mp valid
      have rest : checkSuperseded (some entry.1) entries = .ok () :=
        induction others sorted.2 (by rintro _ ⟨⟩; exact sorted.1)
      simp only [checkSuperseded, validateSuperseded, bind_eq_ok, exists_unit, validateId_eq_ok,
        failIf_eq_ok, first, rest, Bool.true_eq_false, not_false_eq_true, true_and, and_true,
        not_exists, not_and, not_le]
      exact fun earlier found => above earlier found entry (by simp)

theorem pairLe_total (left right : String × String) : pairLe left right ∨ pairLe right left := by
  rcases lt_trichotomy left.1 right.1 with below | same | above
  · exact .inl (.inl below)
  · rcases le_total left.2 right.2 with le | ge
    · exact .inl (.inr ⟨same, le⟩)
    · exact .inr (.inr ⟨same.symm, ge⟩)
  · exact .inr (.inl above)

theorem pairLe_trans (first second third : String × String) (low : pairLe first second)
    (high : pairLe second third) : pairLe first third := by
  rcases low with below | ⟨same, le⟩
  · rcases high with below' | ⟨same', -⟩
    · exact .inl (below.trans below')
    · exact .inl (same' ▸ below)
  · rcases high with below' | ⟨same', le'⟩
    · exact .inl (same ▸ below')
    · exact .inr ⟨same.trans same', le.trans le'⟩

theorem Sound.superseded_ok (sound : Sound p head bounds) (ok : SourceOk source)
    {takes : PendingEntry → Bool} :
    checkSuperseded none (pendingClaims p source takes) = .ok () := by
  have nodup : (source.alerts.map SourceAlert.fingerprint).Nodup :=
    ok.sorted.imp fun below => below.ne
  refine checkSuperseded_of_sorted ?_ ?_ (by simp)
  · rintro ⟨fingerprint, admission⟩ member
    obtain ⟨-, entry, pending, -, rfl⟩ := mem_pendingClaims.mp member
    have entryOk := sound.pending fingerprint entry pending
    exact ⟨entryOk.fingerprint_eq ▸ entryOk.fingerprint, entryOk.admissionId⟩
  · refine pairwise_lt_insertionSort pairLe_total pairLe_trans (fun left right le => ?_) ?_
    · rcases le with below | ⟨same, -⟩
      · exact below.le
      · exact same.le
    · have claims : ((pendingClaims p source takes).map Prod.fst).Nodup :=
        nodup_map_fst_pendingClaims nodup
      rwa [pendingClaims, ((List.perm_insertionSort _ _).map Prod.fst).nodup_iff] at claims

theorem length_pendingClaims_le (ok : SourceOk source) {takes : PendingEntry → Bool} :
    (pendingClaims p source takes).length ≤ maxAlerts := by
  have nodup : (source.alerts.map SourceAlert.fingerprint).Nodup :=
    ok.sorted.imp fun below => below.ne
  have subset : (pendingClaims p source takes).map Prod.fst ⊆
      source.alerts.map SourceAlert.fingerprint := by
    intro fingerprint member
    obtain ⟨⟨alert, found, rfl⟩, -⟩ := mem_map_fst_pendingClaims.mp member
    exact List.mem_map_of_mem found
  have shorter := ((nodup_map_fst_pendingClaims nodup).subperm subset).length_le
  rw [List.length_map, List.length_map] at shorter
  exact shorter.trans ok.alertCount

theorem superseded_decideWith :
    ∃ takes, (decideWith p source admissionId key).superseded = pendingClaims p source takes := by
  unfold decideWith
  dsimp only
  split <;> exact ⟨_, rfl⟩

theorem baselineBefore_decideWith :
    (decideWith p source admissionId key).baselineBefore =
      p.baselines.get? source.sourceGroup := by
  unfold decideWith
  dsimp only
  split <;> rfl

/-! ## The two records -/

section Records

variable {admissionDigest sourceHash : String}

/-- Any record after the head passes the envelope's own checks. -/
theorem Sound.envelope_ok (sound : Sound p head bounds) (live : Live p head bounds)
    (stamped : Stamped p stamp) {eventId : String} {payload : Payload} {position : Position}
    (validId : isId eventId = true)
    (generation : position.journalGeneration = p.generation)
    (eventSeq : head.eventSeq < position.eventSeq ∧ position.eventSeq ≤ head.eventSeq + 2)
    (commitSeq : position.commitSeq = head.commitSeq + 1)
    (commitSize : position.commitIndex < position.commitSize ∧ position.commitSize ≤ 2)
    (previous : isHex64 position.prevRecordDigest = true)
    (linked : position.prevRecordDigest ≠ zeroDigest)
    (valid : validatePayload eventId payload = .ok ()) :
    validateEnvelope ⟨eventId, payload⟩ position stamp = .ok () := by
  obtain ⟨boot, bootEq, -, bootId⟩ := live.boot
  obtain rfl : boot = stamp.bootId := Option.some.inj (bootEq.symm.trans stamped.boot)
  have first := live.commitSeq
  have order := live.eventSeq
  have few := (sound.eventSeq_lt live).2
  have cap : 2 ^ 20 + 2 ≤ maxSeq := by decide
  have room : 2 ≤ maxCommitRecords := by decide
  have generations : 1 ≤ maxGeneration := by decide
  rw [live.generation] at generation
  refine validateEnvelope_eq_ok.mpr ⟨by omega, validId, by omega, by omega, by omega,
    commitSize.1, bootId, stamped.wallTime, stamped.monoUs, previous, ?_, valid⟩
  exact ⟨fun one => by omega, fun zero => absurd zero linked⟩

theorem fits_admissionIds {id : String} (validId : isId id = true) :
    Fits 2 160 (.obj [("admission_id", .str id)]) :=
  fits_obj (by decide) (fitsMembers_cons rfl (fits_id validId) fitsMembers_nil)

theorem fits_holdCode {depth : Nat} (code : HoldCode) : Fits depth 42 (.str code.text) := by
  rcases code with code | _
  · cases code <;> exact fits_literal rfl
  · exact fits_literal rfl

theorem fits_baseline {baseline : Baseline} {group : String} (ok : BaselineOk group baseline) :
    Fits 3 287 (baselineJson baseline) :=
  fits_obj (by decide) <|
    fitsMembers_cons rfl (fits_id ok.admissionId) <|
    fitsMembers_cons rfl fits_bool <|
    fitsMembers_cons rfl (fits_hex64 ok.dedupeKey) fitsMembers_nil

/-- The admission record of the next arrival is sealed. -/
theorem Sound.seals_admission (sound : Sound p head bounds) (live : Live p head bounds)
    (stamped : Stamped p stamp) (ok : SourceOk source) (validId : isId admissionId = true)
    (linked : head.recordDigest ≠ zeroDigest) (room : p.lastArrivalSeq + 1 ≤ maxSeq)
    (digested : isHex64 sourceHash = true) (decision : AdmissionDecision) :
    ∃ record, sealRecord
      ⟨admissionId, .admission ⟨admissionId, p.lastArrivalSeq + 1, decision, dispatchHolds p,
        sourceToJson source, sourceHash⟩⟩
      ⟨p.generation, head.eventSeq + 1, head.commitSeq + 1, 0, 2, head.recordDigest⟩ stamp =
        .ok record := by
  have holds := sound.length_dispatchHolds
  have known : (dispatchHolds p).all (· ∈ dispatchHoldCodes) = true := by
    rw [List.all_eq_true]
    intro code held
    have key : code ∈ p.dispatchHolds.keys :=
      (List.perm_insertionSort _ _).mem_iff.mp held
    simpa using sound.known_hold key
  have few : (dispatchHolds p).length ≤ maxDispatchHolds := holds.trans (by decide)
  have valid : validatePayload admissionId (.admission ⟨admissionId, p.lastArrivalSeq + 1,
      decision, dispatchHolds p, sourceToJson source, sourceHash⟩) = .ok () := by
    simp only [validatePayload, validateAdmission, bind_eq_ok, exists_unit, validateId_eq_ok,
      failIf_eq_ok, requireSeq_eq_ok, requireHex64_eq_ok, validId, digested, not_lt, few, known,
      sound.dispatchHolds_sorted, sourceFromJson_sourceToJson ok]
    simpa using room
  have codes : Fits 3 174 (.arr ((dispatchHolds p).map fun code => .str code.text)) :=
    fits_arr (by decide) holds (by decide) fun code _ => fits_holdCode code
  have decided : Fits 3 42 (.str decision.text) := by
    cases decision <;> exact fits_literal rfl
  have data : Fits 2 _ (.obj (Payload.admission ⟨admissionId, p.lastArrivalSeq + 1, decision,
      dispatchHolds p, sourceToJson source, sourceHash⟩).data) := fits_obj (by decide) <|
    fitsMembers_cons rfl (fits_nat room) <|
    fitsMembers_cons rfl decided <|
    fitsMembers_cons rfl codes <|
    fitsMembers_cons rfl (ok.fits (by decide)) <|
    fitsMembers_cons rfl (fits_hex64 digested) fitsMembers_nil
  exact seals_of_fits (sound.envelope_ok live stamped validId rfl (by simp) rfl (by simp)
    sound.digest linked valid) (fits_admissionIds validId) data (by decide) (by simp [privateCap])

/-- The decision record after an admission record is sealed. -/
theorem Sound.seals_dedupe (sound : Sound p head bounds) (live : Live p head bounds)
    (stamped : Stamped p stamp) (ok : SourceOk source) (validId : isId admissionId = true)
    (dedupeId : isId dedupeEventId = true) (keyed : dedupeKey source = .ok key)
    (digested : isHex64 admissionDigest = true) (linked : admissionDigest ≠ zeroDigest)
    {count : Nat} (counted : count ≤ maxSeq) :
    ∃ record, sealRecord
      ⟨dedupeEventId, .dedupeDecision ⟨admissionId,
        (decideWith p source admissionId key).result, source.sourceGroup, key,
        (decideWith p source admissionId key).baselineBefore,
        (decideWith p source admissionId key).baselineAfter,
        (decideWith p source admissionId key).superseded, count⟩⟩
      ⟨p.generation, head.eventSeq + 2, head.commitSeq + 1, 1, 2, admissionDigest⟩ stamp =
        .ok record := by
  obtain ⟨takes, superseded⟩ := @superseded_decideWith p source admissionId key
  have after := baselineAfter_ok sound.baselines ok keyed validId
  have before : ∀ baseline ∈ (decideWith p source admissionId key).baselineBefore,
      BaselineOk source.sourceGroup baseline := by
    rw [baselineBefore_decideWith]
    exact sound.baselines source.sourceGroup
  generalize (decideWith p source admissionId key).baselineAfter = baselineAfter at after ⊢
  generalize (decideWith p source admissionId key).baselineBefore = baselineBefore at before ⊢
  generalize (decideWith p source admissionId key).result = result
  rw [superseded]
  have hexKey := isHex64_dedupeKey keyed
  have claims : checkSuperseded none (pendingClaims p source takes) = .ok () :=
    sound.superseded_ok ok
  have few : (pendingClaims p source takes).length ≤ maxSuperseded := length_pendingClaims_le ok
  have valid : validatePayload dedupeEventId (.dedupeDecision ⟨admissionId, result,
      source.sourceGroup, key, baselineBefore, baselineAfter, pendingClaims p source takes,
      count⟩) = .ok () := by
    cases baselineBefore with
    | none =>
        simp [validatePayload, validateDedupeDecision, validateBaseline, validId, hexKey,
          ok.sourceGroup, after.admissionId, after.dedupeKey, claims, few, counted]
    | some baseline =>
        have baselineOk := before baseline rfl
        simp [validatePayload, validateDedupeDecision, validateBaseline, validId, hexKey,
          ok.sourceGroup, after.admissionId, after.dedupeKey, baselineOk.admissionId,
          baselineOk.dedupeKey, claims, few, counted]
  have resulted : Fits 3 42 (.str result.text) := by
    cases result <;> exact fits_literal rfl
  have entries : Fits 3 _ (.arr ((pendingClaims p source takes).map supersededJson)) :=
    fits_arr (by decide) few (by decide) fun entry member => by
      obtain ⟨-, pending, found, -, same⟩ := mem_pendingClaims.mp member
      have pendingOk := sound.pending entry.1 pending found
      exact fits_obj (by decide) <|
        fitsMembers_cons rfl (fits_id (same ▸ pendingOk.admissionId)) <|
        fitsMembers_cons rfl (fits_fingerprint (pendingOk.fingerprint_eq ▸
          pendingOk.fingerprint)) fitsMembers_nil
  have data : Fits 2 _ (.obj (Payload.dedupeDecision ⟨admissionId, result, source.sourceGroup,
      key, baselineBefore, baselineAfter, pendingClaims p source takes, count⟩).data) :=
    fits_obj (by decide) <|
    fitsMembers_cons rfl (fits_literal rfl) <|
    fitsMembers_cons rfl resulted <|
    fitsMembers_cons rfl (fits_hex64 ok.sourceGroup) <|
    fitsMembers_cons rfl (fits_hex64 hexKey) <|
    fitsMembers_cons rfl (fits_optional (fun baseline member => fits_baseline (before baseline
      member)) (by decide)) <|
    fitsMembers_cons rfl (fits_baseline after) <|
    fitsMembers_cons rfl entries <|
    fitsMembers_cons rfl (fits_nat counted) fitsMembers_nil
  exact seals_of_fits (sound.envelope_ok live stamped dedupeId rfl (by simp) rfl (by simp)
    digested linked valid) (fits_admissionIds validId) data (by decide) (by simp [privateCap])

end Records

/-! ## The planner -/

theorem refuseIf_returns {exhausted : Prop} [Decidable exhausted] {refusal : CapacityRefusal}
    {rest : Except Failure Planned}
    (returns : ¬exhausted → ∃ planned, rest = .ok planned) :
    ∃ planned, refuseIf exhausted refusal rest = .ok planned := by
  unfold refuseIf
  split_ifs with holds
  · exact ⟨_, rfl⟩
  · exact returns holds

/-- The head, or the admission record sealed after it, hashes to the digest that marks the start
of the chain. -/
def HashesToZero (p : Projection) (head : Head) (source : SourceRecord) (admissionId : String)
    (stamp : Stamp) : Prop :=
  head.recordDigest = zeroDigest ∨
    ∃ digest admission, sourceDigest source = .ok digest ∧
      sealRecord ⟨admissionId, .admission ⟨admissionId, p.lastArrivalSeq + 1,
          if (dispatchHolds p).isEmpty then .admitted else .held, dispatchHolds p,
          sourceToJson source, digest⟩⟩
        ⟨p.generation, head.eventSeq + 1, head.commitSeq + 1, 0, 2, head.recordDigest⟩ stamp =
          .ok admission ∧ admission.recordDigest = zeroDigest

theorem planAdmission_returns (reachable : Reachable p) (live : Live p head bounds)
    (stamped : Stamped p stamp) (ok : SourceOk source) (validId : isId admissionId = true)
    (dedupeId : isId dedupeEventId = true)
    (unhashed : ¬HashesToZero p head source admissionId stamp) :
    ∃ planned, planAdmission p source admissionId dedupeEventId stamp = .ok planned := by
  have sound := reachable_sound reachable live
  obtain ⟨groups, commits⟩ := reachable_iff.mp reachable
  have accounts := accounts_of_commits commits
  have ceilings : boundCeilings.maxAdmissions ≤ maxSeq ∧
      boundCeilings.maxPendingFingerprints ≤ maxSeq := by decide
  obtain ⟨key, keyed, -⟩ := ok.dedupeKey
  obtain ⟨digest, digested, hexDigest⟩ := ok.sourceDigest
  unfold HashesToZero at unhashed
  push Not at unhashed
  simp only [planAdmission, decideAdmission, keyed, ok_bind, pure_bind, live.bounds_eq, orFail]
  refine refuseIf_returns fun room => refuseIf_returns fun pendingRoom => ?_
  obtain ⟨admission, admitted⟩ := sound.seals_admission live stamped ok validId unhashed.1
    (by have := accounts.lastArrival; have := live.bounds_ok.admissions.2; omega) hexDigest
    (if (dispatchHolds p).isEmpty then .admitted else .held)
  have linked := unhashed.2 digest admission digested admitted
  have counted : pendingCountAfter p (decideWith p source admissionId key) ≤ maxSeq := by
    have pendingCap := live.bounds_ok.pending.2
    have size := accounts.pending bounds live.bounds_eq
    unfold pendingCountAfter
    split_ifs with suppressed
    · omega
    · have fits := not_lt.mp fun exceeds => pendingRoom ⟨suppressed, exceeds⟩
      omega
  obtain ⟨dedupe, decided⟩ := sound.seals_dedupe live stamped ok validId dedupeId keyed
    (isHex64_recordDigest admission) linked counted
  simp only [digested, ok_bind, live.head_eq, admitted, decided]
  exact ⟨_, rfl⟩

end ManyAlerts
