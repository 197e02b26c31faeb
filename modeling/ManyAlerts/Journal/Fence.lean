import ManyAlerts.Journal.Accounting

/-!
# The resume fence

A private claim is never taken back, and a resume needs that there is none.  So
the first private claim of a history forbids every later resume, and a restart
after it holds dispatch for good.
-/

namespace ManyAlerts

variable {p : Projection} {record : Record} {records : List Record} {delta : Delta}
  {groups : List (List Record)}

/-- The claims of schema versions 2 and 3. -/
def Record.isPrivate (record : Record) : Bool := 1 < record.payload.schemaVersion

def Record.isRestart (record : Record) : Bool :=
  match record.payload with
  | .restartRecovery _ => true
  | _ => false

def Record.isResume (record : Record) : Bool :=
  match record.payload with
  | .operatorAction _ => true
  | _ => false

/-! ## Claims are never taken back -/

/-- Whatever is applied, a claim that was there is still there. -/
theorem outstanding_applyDelta (outstanding : privateClaimsOutstanding p = true) :
    privateClaimsOutstanding (applyDelta p delta) = true := by
  by_contra settled
  rw [Bool.not_eq_true] at settled
  have before : privateClaimsOutstanding p = false := by
    simp only [privateClaimsOutstanding, applyDelta, Dict.isEmpty_addEntry,
      Dict.isEmpty_addClaim, Dict.isEmpty_pushClaim, Option.isSome_or, Bool.or_eq_false_iff,
      Bool.not_eq_false', Bool.and_eq_true] at settled ⊢
    simp [settled]
  rw [outstanding] at before
  cases before

/-- A private claim leaves one outstanding. -/
theorem ClaimStep.outstanding (claim : ClaimStep p record delta)
    (isPrivate : record.isPrivate = true) :
    privateClaimsOutstanding (applyDelta p delta) = true := by
  cases claim with
  | capacityHold payload | ingressRefusal payload | operatorAction payload =>
      simp [Record.isPrivate, payload, Payload.schemaVersion] at isPrivate
  | _ => simp [privateClaimsOutstanding, applyDelta]

theorem CommitStep.outstanding (step : CommitStep p records delta)
    (claimed : ∃ record ∈ records, record.isPrivate = true) :
    privateClaimsOutstanding (applyDelta p delta) = true := by
  cases step with
  | genesis payload | restart payload =>
      simp [Record.isPrivate, payload, Payload.schemaVersion] at claimed
  | current position boot clock claim => exact claim.outstanding (by simpa using claimed)
  | admission position dedupePosition stamp boot clock pair =>
      simp [Record.isPrivate, pair.admission_payload, pair.dedupe_payload,
        Payload.schemaVersion] at claimed

/-! ## The restart hold -/

/-- Dispatch is held since a restart. -/
def Projection.restartHeld (p : Projection) : Bool := p.dispatchHolds.contains .restartRecovery

theorem contains_dispatchHoldsAfter {holds : Dict HoldCode Nat} {code : HoldCode}
    (kept : delta.dispatchHoldClear ≠ some code) (held : holds.contains code = true) :
    (dispatchHoldsAfter holds delta).contains code = true := by
  unfold dispatchHoldsAfter
  extract_lets after
  have added : after.contains code = true := by
    unfold after
    split
    · exact held
    · split_ifs
      · exact held
      · simp [Dict.contains_set, held]
  split
  · exact added
  · rename_i cleared clear
    have differs : code ≠ cleared := fun same => kept (same ▸ clear)
    simp only [Dict.contains, Dict.get?_erase, if_neg differs]
    exact added

theorem CommitStep.restartHeld_of_restart (step : CommitStep p records delta)
    (restarts : ∃ record ∈ records, record.isRestart = true) :
    (applyDelta p delta).restartHeld = true := by
  cases step with
  | genesis payload position headless anonymous => simp [Record.isRestart, payload] at restarts
  | restart payload position fresh previous headEq recovered boundsEq fits =>
      simp only [Projection.restartHeld, applyDelta, dispatchHoldsAfter, currentDelta, claimDelta]
      split_ifs with held
      · exact held
      · simp [Dict.contains_set]
  | current position boot clock claim =>
      cases claim <;> simp_all [Record.isRestart]
  | admission position dedupePosition stamp boot clock pair =>
      simp [Record.isRestart, pair.admission_payload, pair.dedupe_payload] at restarts

/-- A resume needs that no private claim is outstanding, and is the first commit
after the restart of its boot. -/
theorem CommitStep.resume (step : CommitStep p records delta)
    (resumes : ∃ record ∈ records, record.isResume = true) :
    privateClaimsOutstanding p = false ∧ p.bootRecovered.isSome ∧
      ∃ head, p.head = some head ∧ p.bootStartCommitSeq = some head.commitSeq := by
  cases step with
  | genesis payload position headless anonymous => simp [Record.isResume, payload] at resumes
  | restart payload position fresh previous headEq recovered boundsEq fits =>
      simp [Record.isResume, payload] at resumes
  | current position boot clock claim =>
      cases claim with
      | operatorAction payload held unclaimed headEq immediate recoveredEq =>
          exact ⟨unclaimed, by simp [recoveredEq], _, headEq, immediate⟩
      | _ => simp_all [Record.isResume]
  | admission position dedupePosition stamp boot clock pair =>
      simp [Record.isResume, pair.admission_payload, pair.dedupe_payload] at resumes

/-- Only a resume lifts the hold. -/
theorem CommitStep.restartHeld (step : CommitStep p records delta)
    (held : p.restartHeld = true) :
    (∃ record, records = [record] ∧ record.isResume = true) ∨
      (applyDelta p delta).restartHeld = true := by
  have keeps (kept : delta.dispatchHoldClear = none) :
      (applyDelta p delta).restartHeld = true :=
    contains_dispatchHoldsAfter (by simp [kept]) held
  cases step with
  | genesis payload position headless anonymous => exact .inr (keeps rfl)
  | restart payload position fresh previous headEq recovered boundsEq fits =>
      exact .inr (keeps rfl)
  | current position boot clock claim =>
      cases claim with
      | operatorAction payload => exact .inl ⟨_, rfl, by simp [Record.isResume, payload]⟩
      | _ => exact .inr (keeps rfl)
  | admission position dedupePosition stamp boot clock pair => exact .inr (keeps rfl)

/-- A boot that has just started was opened by the last commit, which was a
restart when there was a head to recover. -/
theorem CommitStep.restart_of_start (step : CommitStep p records delta)
    (hasLive : p = newProjection ∨ ∃ head bounds, Live p head bounds)
    (recovered : (applyDelta p delta).bootRecovered.isSome)
    (immediate : (applyDelta p delta).bootStartCommitSeq = some delta.head.commitSeq) :
    ∃ record, records = [record] ∧ record.isRestart = true ∧
      delta.bootId = record.stamp.bootId := by
  have stale (kept : delta.newBootId = none) : False := by
    simp only [applyDelta, kept, Option.isSome_none, Bool.false_eq_true, if_false] at immediate
    rcases hasLive with rfl | ⟨head, bounds, live⟩
    · cases immediate
    · obtain ⟨first, firstEq, before⟩ := live.start
      have advances := step.advances (by simp [live.head_eq])
      rw [firstEq, Option.some.injEq, advances.commitSeq, live.commitCount] at immediate
      omega
  cases step with
  | genesis payload position headless anonymous =>
      simp [applyDelta, genesisDelta, headless] at recovered
  | restart payload position fresh previous headEq recoveredEq boundsEq fits =>
      exact ⟨_, rfl, by simp [Record.isRestart, payload], rfl⟩
  | current position boot clock claim => exact (stale claim.quiet.newBootId).elim
  | admission position dedupePosition stamp boot clock pair => exact (stale rfl).elim

/-- An admission lists every active hold. -/
theorem CommitStep.admission_holds (step : CommitStep p records delta) {a : AdmissionData}
    (found : record ∈ records) (payload : record.payload = .admission a)
    (held : p.restartHeld = true) :
    a.decision = .held ∧ .restartRecovery ∈ a.dispatchHolds := by
  cases step with
  | genesis other => simp_all
  | restart other => simp_all
  | current position boot clock claim => cases claim <;> simp_all
  | admission position dedupePosition stamp boot clock pair =>
      have listed : HoldCode.restartRecovery ∈ dispatchHolds p := by
        rw [dispatchHolds, (List.perm_insertionSort _ _).mem_iff, Dict.mem_keys_iff]
        exact held
      have nonempty : (dispatchHolds p).isEmpty = false := by
        rw [List.isEmpty_eq_false_iff_exists_mem]
        exact ⟨_, listed⟩
      rcases List.mem_pair.mp found with rfl | rfl
      · obtain rfl := Payload.admission.inj (payload.symm.trans pair.admission_payload)
        exact ⟨by rw [pair.decision, nonempty]; rfl, by rw [pair.holds]; exact listed⟩
      · rw [pair.dedupe_payload] at payload
        cases payload

/-! ## Whole histories -/

/-- The fence over the records of a history. -/
structure Fenced (records : List Record) (p : Projection) : Prop where
  outstanding : (∃ record ∈ records, record.isPrivate = true) →
    privateClaimsOutstanding p = true
  resumes : records.Pairwise fun earlier later =>
    earlier.isPrivate = true → later.isResume = false
  held : p.restartHeld = true ∨ records.Pairwise fun earlier later =>
    earlier.isPrivate = true → later.isRestart = false

/-- The first record of a pair is no private claim. -/
theorem CommitStep.pairwise_private (step : CommitStep p records delta) {Ok : Record → Prop} :
    records.Pairwise fun earlier later => earlier.isPrivate = true → Ok later := by
  cases step with
  | admission position dedupePosition stamp boot clock pair =>
      simp [Record.isPrivate, pair.admission_payload, Payload.schemaVersion]
  | _ => exact List.pairwise_singleton _ _

theorem Fenced.step {commit : List Record} (fenced : Fenced records p)
    (step : CommitStep p commit delta) : Fenced (records ++ commit) (applyDelta p delta) where
  outstanding := by
    rintro ⟨record, found, isPrivate⟩
    rcases List.mem_append.mp found with earlier | later
    · exact outstanding_applyDelta (fenced.outstanding ⟨record, earlier, isPrivate⟩)
    · exact step.outstanding ⟨record, later, isPrivate⟩
  resumes := by
    refine List.pairwise_append.mpr ⟨fenced.resumes, step.pairwise_private, ?_⟩
    intro earlier found later member isPrivate
    by_contra resumes
    have settled := (step.resume ⟨later, member, by simpa using resumes⟩).1
    rw [fenced.outstanding ⟨earlier, found, isPrivate⟩] at settled
    cases settled
  held := by
    by_cases restarts : ∃ record ∈ commit, record.isRestart = true
    · exact .inl (step.restartHeld_of_restart restarts)
    have quiet (later : Record) (member : later ∈ commit) : later.isRestart = false := by
      by_contra restart
      exact restarts ⟨later, member, by simpa using restart⟩
    rcases fenced.held with held | ordered
    · rcases step.restartHeld held with ⟨resume, rfl, resumes⟩ | kept
      · -- A resume is accepted only while there is no private claim to be after.
        have settled := (step.resume ⟨resume, by simp, resumes⟩).1
        have unclaimed (earlier : Record) (found : earlier ∈ records) :
            ¬earlier.isPrivate = true := fun isPrivate => by
          rw [fenced.outstanding ⟨earlier, found, isPrivate⟩] at settled
          cases settled
        refine .inr (List.pairwise_append.mpr ⟨?_, step.pairwise_private, ?_⟩)
        · exact List.pairwise_of_forall_mem_list fun earlier found _ _ isPrivate =>
            absurd isPrivate (unclaimed earlier found)
        · intro earlier found later _ isPrivate
          exact absurd isPrivate (unclaimed earlier found)
      · exact .inl kept
    · exact .inr (List.pairwise_append.mpr ⟨ordered, step.pairwise_private,
        fun _ _ later member _ => quiet later member⟩)

theorem fenced_of_commits (commits : Commits newProjection groups p) :
    Fenced groups.flatten p := by
  refine Commits.history (fun done p => Fenced done.flatten p)
    (fun done p records delta fenced accepted => ?_)
    ⟨by simp, List.Pairwise.nil, .inr List.Pairwise.nil⟩ commits
  rw [List.flatten_append, List.flatten_singleton]
  exact fenced.step (verifyCommit_iff.mp accepted)

/-- The last commit of a history that has one. -/
theorem Commits.last {q : Projection} (commits : Commits newProjection groups q)
    (hasHead : q.head.isSome) :
    ∃ before p records delta, groups = before ++ [records] ∧
      Commits newProjection before p ∧ CommitStep p records delta ∧ q = applyDelta p delta := by
  rcases List.eq_nil_or_concat groups with rfl | ⟨before, records, rfl⟩
  · rw [← commits_nil.mp commits] at hasHead
    cases hasHead
  · rw [List.concat_eq_append, commits_append] at commits
    obtain ⟨p, first, last⟩ := commits
    obtain ⟨delta, accepted, rfl⟩ := commits_singleton.mp last
    exact ⟨before, p, records, delta, List.concat_eq_append, first, verifyCommit_iff.mp accepted,
      rfl⟩

/-- The commit before an accepted resume is the restart of its boot. -/
theorem restart_before_resume {q : Projection} (commits : Commits newProjection groups q)
    (step : CommitStep q [record] delta) (resumes : record.isResume = true) :
    ∃ before restart, groups.flatten = before ++ [restart] ∧ restart.isRestart = true ∧
      q.bootId = some restart.stamp.bootId := by
  obtain ⟨-, recovered, head, headEq, immediate⟩ := step.resume ⟨record, by simp, resumes⟩
  obtain ⟨before, p, records, last, rfl, first, lastStep, rfl⟩ :=
    commits.last (by simp [headEq])
  obtain rfl : last.head = head := Option.some.inj headEq
  have live := reachable_live (reachable_iff.mpr ⟨before, first⟩)
  obtain ⟨restart, rfl, isRestart, boot⟩ :=
    lastStep.restart_of_start live recovered immediate
  exact ⟨before.flatten, restart, by simp, isRestart, by rw [← boot]; rfl⟩

end ManyAlerts
