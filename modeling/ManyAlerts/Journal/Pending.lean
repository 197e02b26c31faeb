import ManyAlerts.Journal.Decide
import ManyAlerts.Journal.SourceForm

/-!
# The pending entries an admission writes

An admission that is not suppressed writes every alert it carries; a suppressed
one writes back only the entries another group has claimed since.
-/

namespace ManyAlerts

variable {p : Projection} {source : SourceRecord} {admissionId key : String} {arrivalSeq : Nat}

theorem mem_pendingClaims {takes : PendingEntry → Bool} {fingerprint admission : String} :
    (fingerprint, admission) ∈ pendingClaims p source takes ↔
      (∃ alert ∈ source.alerts, alert.fingerprint = fingerprint) ∧
        ∃ entry, p.pending.get? fingerprint = some entry ∧ takes entry = true ∧
          entry.admissionId = admission := by
  simp only [pendingClaims, (List.perm_insertionSort _ _).mem_iff, List.mem_filterMap,
    Option.map_eq_some_iff, Option.filter_eq_some_iff, Prod.mk.injEq]
  constructor
  · rintro ⟨alert, found, entry, ⟨pending, taken⟩, rfl, rfl⟩
    exact ⟨⟨alert, found, rfl⟩, entry, pending, taken, rfl⟩
  · rintro ⟨⟨alert, found, rfl⟩, entry, pending, taken, rfl⟩
    exact ⟨alert, found, entry, ⟨pending, taken⟩, rfl, rfl⟩

theorem mem_map_fst_pendingClaims {takes : PendingEntry → Bool} {fingerprint : String} :
    fingerprint ∈ (pendingClaims p source takes).map Prod.fst ↔
      (∃ alert ∈ source.alerts, alert.fingerprint = fingerprint) ∧
        ∃ entry, p.pending.get? fingerprint = some entry ∧ takes entry = true := by
  simp only [List.mem_map, Prod.exists, exists_and_right, exists_eq_right, mem_pendingClaims]
  constructor
  · rintro ⟨_, mentioned, entry, pending, taken, rfl⟩
    exact ⟨mentioned, entry, pending, taken⟩
  · rintro ⟨mentioned, entry, pending, taken⟩
    exact ⟨_, mentioned, entry, pending, taken, rfl⟩

/-- Distinct alerts claim distinct entries. -/
theorem nodup_map_fst_pendingClaims {takes : PendingEntry → Bool}
    (nodup : (source.alerts.map SourceAlert.fingerprint).Nodup) :
    ((pendingClaims p source takes).map Prod.fst).Nodup := by
  rw [pendingClaims, ((List.perm_insertionSort _ _).map Prod.fst).nodup_iff]
  refine nodup.sublist ?_
  induction source.alerts with
  | nil => exact List.Sublist.refl _
  | cons alert alerts induction =>
      cases claimed : (p.pending.get? alert.fingerprint).filter takes with
      | none =>
          rw [List.filterMap_cons_none (by simp [claimed])]
          exact induction.cons _
      | some entry =>
          rw [List.filterMap_cons_some (by rw [claimed]; rfl)]
          exact induction.cons_cons _

theorem length_pendingClaims_all :
    (pendingClaims p source fun _ => true).length =
      (source.alerts.filter fun alert => p.pending.contains alert.fingerprint).length := by
  rw [pendingClaims, (List.perm_insertionSort _ _).length_eq]
  induction source.alerts with
  | nil => rfl
  | cons alert alerts induction =>
      cases pending : p.pending.get? alert.fingerprint with
      | none =>
          rw [List.filterMap_cons_none (by simp [pending]),
            List.filter_cons_of_neg (by simp [Dict.contains, pending]), induction]
      | some entry =>
          rw [List.filterMap_cons_some (by rw [pending]; rfl),
            List.filter_cons_of_pos (by simp [Dict.contains, pending]), List.length_cons,
            List.length_cons, induction]

theorem alertFor_eq_some {fingerprint : String} {alert : SourceAlert}
    (nodup : (source.alerts.map SourceAlert.fingerprint).Nodup) :
    alertFor source fingerprint = some alert ↔
      alert ∈ source.alerts ∧ alert.fingerprint = fingerprint := by
  constructor
  · intro found
    exact ⟨List.mem_reverse.mp (List.mem_of_find?_eq_some found),
      by simpa using List.find?_some found⟩
  · rintro ⟨member, rfl⟩
    have present : (alertFor source alert.fingerprint).isSome := by
      rw [alertFor, List.find?_isSome]
      exact ⟨alert, List.mem_reverse.mpr member, by simp⟩
    obtain ⟨other, found⟩ := Option.isSome_iff_exists.mp present
    have otherMember := List.mem_reverse.mp (List.mem_of_find?_eq_some found)
    have same : other.fingerprint = alert.fingerprint := by simpa using List.find?_some found
    rw [found, List.inj_on_of_nodup_map nodup otherMember member same]

/-- The entry an admission leaves for one of its alerts. -/
def writtenEntry (source : SourceRecord) (admissionId : String) (arrivalSeq : Nat)
    (alert : SourceAlert) : PendingEntry :=
  ⟨alert.fingerprint, admissionId, arrivalSeq, source.sourceGroup, alert.status, alert.values⟩

/-- The fingerprints an admission writes. -/
def Decision.writes (decision : Decision) (source : SourceRecord) : List String :=
  if decision.result = .suppressed then decision.superseded.map Prod.fst
  else source.alerts.map SourceAlert.fingerprint

section Distinct

variable {decision : Decision} {fingerprint : String}

theorem map_fst_pendingUpdates
    (mentioned : ∀ fingerprint ∈ decision.writes source,
      ∃ alert ∈ source.alerts, alert.fingerprint = fingerprint)
    (nodup : (source.alerts.map SourceAlert.fingerprint).Nodup) :
    (pendingUpdates source decision admissionId arrivalSeq).map Prod.fst =
      decision.writes source := by
  have each (fingerprints : List String)
      (mentioned : ∀ fingerprint ∈ fingerprints,
        ∃ alert ∈ source.alerts, alert.fingerprint = fingerprint) :
      (fingerprints.filterMap fun fingerprint =>
        (alertFor source fingerprint).map fun alert => (fingerprint,
          (⟨fingerprint, admissionId, arrivalSeq, source.sourceGroup, alert.status,
            alert.values⟩ : PendingEntry))).map Prod.fst = fingerprints := by
    induction fingerprints with
    | nil => rfl
    | cons fingerprint fingerprints induction =>
        obtain ⟨alert, member, same⟩ := mentioned fingerprint (by simp)
        have found := (alertFor_eq_some nodup).mpr ⟨member, same⟩
        rw [List.filterMap_cons_some (by rw [found]; rfl), List.map_cons,
          induction fun other later => mentioned other (by simp [later])]
  exact each _ mentioned

theorem mem_pendingUpdates (nodup : (source.alerts.map SourceAlert.fingerprint).Nodup)
    {alert : SourceAlert} (member : alert ∈ source.alerts)
    (written : alert.fingerprint ∈ decision.writes source) :
    (alert.fingerprint, writtenEntry source admissionId arrivalSeq alert) ∈
      pendingUpdates source decision admissionId arrivalSeq := by
  have found := (alertFor_eq_some nodup).mpr ⟨member, rfl⟩
  exact List.mem_filterMap.mpr ⟨alert.fingerprint, written, by rw [found]; rfl⟩

end Distinct

section Decide

variable (nodup : (source.alerts.map SourceAlert.fingerprint).Nodup)

/-- A suppressed admission writes the entries of other groups. -/
theorem decideWith_suppressed
    (suppressed : (decideWith p source admissionId key).result = .suppressed) :
    ∃ baseline, p.baselines.get? source.sourceGroup = some baseline ∧
      baseline.dedupeKey = key ∧ decideWith p source admissionId key =
        ⟨.suppressed, some baseline, baseline, pendingClaims p source fun entry =>
          entry.sourceGroup ≠ source.sourceGroup, 0⟩ := by
  unfold decideWith at suppressed ⊢
  dsimp only at suppressed ⊢
  split at suppressed
  · rename_i baseline matched
    obtain ⟨found, same⟩ := Option.filter_eq_some_iff.mp matched
    simp only [Bool.and_eq_true, decide_eq_true_eq] at same
    exact ⟨baseline, found, same.2, by rw [found]⟩
  · dsimp only at suppressed
    split_ifs at suppressed

theorem decideWith_not_suppressed
    (written : (decideWith p source admissionId key).result ≠ .suppressed) :
    (decideWith p source admissionId key).baselineAfter =
        ⟨admissionId, key, source.truncatedAlerts = some 0⟩ ∧
      (decideWith p source admissionId key).newPending =
        source.alerts.length - (pendingClaims p source fun _ => true).length := by
  unfold decideWith at written ⊢
  dsimp only at written ⊢
  split at written
  · exact absurd rfl written
  · exact ⟨rfl, rfl⟩

theorem writes_decideWith_mentioned :
    ∀ fingerprint ∈ (decideWith p source admissionId key).writes source,
      ∃ alert ∈ source.alerts, alert.fingerprint = fingerprint := by
  intro fingerprint written
  unfold Decision.writes at written
  split_ifs at written with suppressed
  · obtain ⟨baseline, -, -, decision⟩ := decideWith_suppressed suppressed
    rw [decision] at written
    exact (mem_map_fst_pendingClaims.mp written).1
  · simpa using written

include nodup

theorem nodup_writes_decideWith : ((decideWith p source admissionId key).writes source).Nodup := by
  unfold Decision.writes
  split_ifs with suppressed
  · obtain ⟨baseline, -, -, decision⟩ := decideWith_suppressed suppressed
    rw [decision]
    exact nodup_map_fst_pendingClaims nodup
  · exact nodup

/-- The count a decision records is the number of pending entries after it. -/
theorem size_pending_after :
    (p.pending.setAll (pendingUpdates source (decideWith p source admissionId key) admissionId
      arrivalSeq)).size = pendingCountAfter p (decideWith p source admissionId key) := by
  have keys : (pendingUpdates source (decideWith p source admissionId key) admissionId
      arrivalSeq).map Prod.fst = (decideWith p source admissionId key).writes source :=
    map_fst_pendingUpdates writes_decideWith_mentioned nodup
  rw [Dict.size_setAll _ (by rw [keys]; exact nodup_writes_decideWith nodup), keys]
  unfold pendingCountAfter Decision.writes
  split_ifs with suppressed
  · obtain ⟨baseline, -, -, decision⟩ := decideWith_suppressed suppressed
    rw [decision, List.filter_eq_nil_iff.mpr, List.length_nil, Nat.add_zero]
    intro fingerprint written
    obtain ⟨-, entry, pending, -⟩ := mem_map_fst_pendingClaims.mp written
    simp [Dict.contains, pending]
  · rw [(decideWith_not_suppressed suppressed).2, length_pendingClaims_all, List.filter_map,
      List.length_map]
    have parts := List.length_eq_length_filter_add
      (l := source.alerts) fun alert => p.pending.contains alert.fingerprint
    simp only [Function.comp_def] at parts ⊢
    omega

end Decide

end ManyAlerts
