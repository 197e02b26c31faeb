import ManyAlerts.Journal.Live
import ManyAlerts.Journal.Pending

/-!
# The latest state of every fingerprint

A suppressed admission repeats its group's baseline, so the entries it leaves
alone already carry what it says.  The pending entry of a fingerprint is
therefore always the one the last admission that mentions it would write.
-/

namespace ManyAlerts

variable {p : Projection} {record : Record} {records : List Record} {delta : Delta}
  {groups : List (List Record)} {sources : List SourceRecord} {source : SourceRecord}

/-! ## What admissions say of a fingerprint -/

/-- The source of an accepted admission. -/
def Record.admitted? (record : Record) : Option SourceRecord :=
  match record.payload with
  | .admission data => (sourceFromJson data.source).toOption
  | _ => none

def admittedSources (records : List Record) : List SourceRecord :=
  records.filterMap Record.admitted?

/-- The group, status and values a source carries for a fingerprint. -/
def carried (fingerprint : String) (source : SourceRecord) :
    Option (String × AlertStatus × AlertValues) :=
  (alertFor source fingerprint).map fun alert =>
    (source.sourceGroup, alert.status, alert.values)

/-- What the last source that mentions a fingerprint carries for it. -/
def latest (fingerprint : String) (sources : List SourceRecord) :
    Option (String × AlertStatus × AlertValues) :=
  sources.reverse.findSome? (carried fingerprint)

def PendingEntry.state (entry : PendingEntry) : String × AlertStatus × AlertValues :=
  (entry.sourceGroup, entry.status, entry.values)

/-- No two of these sources share a deduplication key unless they share its payload. -/
def KeysInjective (sources : List SourceRecord) : Prop :=
  ∀ left ∈ sources, ∀ right ∈ sources,
    dedupeKey left = dedupeKey right → dedupePayload left = dedupePayload right

theorem latest_concat (fingerprint : String) :
    latest fingerprint (sources ++ [source]) =
      (carried fingerprint source).or (latest fingerprint sources) := by
  rw [latest, latest, List.reverse_append, List.reverse_singleton, List.singleton_append,
    List.findSome?_cons]
  cases carried fingerprint source <;> rfl

theorem latest_isSome {fingerprint : String} {alert : SourceAlert} (member : source ∈ sources)
    (mentioned : alert ∈ source.alerts) (same : alert.fingerprint = fingerprint) :
    (latest fingerprint sources).isSome := by
  rw [latest, List.findSome?_isSome_iff]
  refine ⟨source, List.mem_reverse.mpr member, ?_⟩
  rw [carried, Option.isSome_map, alertFor, List.find?_isSome]
  exact ⟨alert, List.mem_reverse.mpr mentioned, by simpa using same⟩

theorem mentioned_of_latest {fingerprint : String} (some : (latest fingerprint sources).isSome) :
    ∃ source ∈ sources, ∃ alert ∈ source.alerts, alert.fingerprint = fingerprint := by
  rw [latest, List.findSome?_isSome_iff] at some
  obtain ⟨source, member, found⟩ := some
  rw [carried, Option.isSome_map, alertFor, List.find?_isSome] at found
  obtain ⟨alert, mentioned, same⟩ := found
  exact ⟨source, List.mem_reverse.mp member, alert, List.mem_reverse.mp mentioned,
    by simpa using same⟩

/-! ## Equal payloads carry equal alerts -/

theorem AlertStatus.text_injective {left right : AlertStatus} (same : left.text = right.text) :
    left = right := by
  revert same
  cases left <;> cases right <;> decide

theorem valueMember_injective : Function.Injective valueMember := by
  rintro ⟨leftKey, left⟩ ⟨rightKey, right⟩ same
  simp only [valueMember, Prod.mk.injEq] at same
  obtain ⟨rfl, numbers⟩ := same
  cases left <;> cases right <;> simp_all [Json.optional]

theorem values_eq_of_json {left right : AlertValues} (leftOk : ∀ items ∈ left, ValuesOk items)
    (rightOk : ∀ items ∈ right, ValuesOk items)
    (same : Json.optional valuesJson left = Json.optional valuesJson right) : left = right := by
  cases left with
  | none =>
      cases right with
      | none => rfl
      | some items => simp [Json.optional, valuesJson] at same
  | some leftItems =>
      cases right with
      | none => simp [Json.optional, valuesJson] at same
      | some rightItems =>
          simp only [Json.optional, valuesJson_of_sorted (leftOk _ rfl).sorted,
            valuesJson_of_sorted (rightOk _ rfl).sorted, Json.obj.injEq] at same
          rw [List.map_injective_iff.mpr valueMember_injective same]

/-- Sources with one deduplication payload say the same of every fingerprint. -/
theorem alert_of_payload {other : SourceRecord} {alert : SourceAlert} (ok : SourceOk source)
    (otherOk : SourceOk other) (same : dedupePayload source = dedupePayload other)
    (member : alert ∈ source.alerts) :
    ∃ twin ∈ other.alerts, twin.fingerprint = alert.fingerprint ∧ twin.status = alert.status ∧
      twin.values = alert.values := by
  have rows := Json.arr.inj same
  have row : dedupeRow alert ∈ other.alerts.map dedupeRow :=
    rows ▸ List.mem_map_of_mem member
  obtain ⟨twin, twinMember, twinRow⟩ := List.mem_map.mp row
  simp only [dedupeRow, Json.arr.injEq, List.cons.injEq, Json.str.injEq, and_true] at twinRow
  obtain ⟨fingerprint, status, values⟩ := twinRow
  exact ⟨twin, twinMember, fingerprint, AlertStatus.text_injective status,
    values_eq_of_json (otherOk.alerts twin twinMember).values (ok.alerts alert member).values
      values⟩

/-! ## One admission -/

section Admit

variable {admissionId key : String} {arrivalSeq : Nat}

/-- The entry of a fingerprint the admission writes. -/
theorem pending_written (ok : SourceOk source) {alert : SourceAlert}
    (member : alert ∈ source.alerts)
    (written : alert.fingerprint ∈ (decideWith p source admissionId key).writes source) :
    (p.pending.setAll (pendingUpdates source (decideWith p source admissionId key) admissionId
      arrivalSeq)).get? alert.fingerprint =
        some (writtenEntry source admissionId arrivalSeq alert) := by
  have nodup : (source.alerts.map SourceAlert.fingerprint).Nodup :=
    ok.sorted.imp fun below => below.ne
  refine Dict.get?_setAll_of_mem ?_ (mem_pendingUpdates nodup member written)
  rw [map_fst_pendingUpdates writes_decideWith_mentioned nodup]
  exact nodup_writes_decideWith nodup

/-- Every other entry stays. -/
theorem pending_kept (ok : SourceOk source) {fingerprint : String}
    (unwritten : fingerprint ∉ (decideWith p source admissionId key).writes source) :
    (p.pending.setAll (pendingUpdates source (decideWith p source admissionId key) admissionId
      arrivalSeq)).get? fingerprint = p.pending.get? fingerprint := by
  have nodup : (source.alerts.map SourceAlert.fingerprint).Nodup :=
    ok.sorted.imp fun below => below.ne
  refine Dict.get?_setAll_of_not_mem ?_
  rwa [map_fst_pendingUpdates writes_decideWith_mentioned nodup]

/-- The pending entries against the sources behind them. -/
structure Pendings (sources : List SourceRecord) (p : Projection) : Prop where
  ok : ∀ source ∈ sources, SourceOk source
  current : ∀ fingerprint,
    (p.pending.get? fingerprint).map PendingEntry.state = latest fingerprint sources
  /-- A baseline stands for a source whose alerts are all pending, and an entry
  still owned by its group says what that source said. -/
  baselines : ∀ group baseline, p.baselines.get? group = some baseline →
    ∃ source ∈ sources, source.sourceGroup = group ∧
      dedupeKey source = .ok baseline.dedupeKey ∧
      ∀ alert ∈ source.alerts, ∃ entry, p.pending.get? alert.fingerprint = some entry ∧
        (entry.sourceGroup = group →
          entry.status = alert.status ∧ entry.values = alert.values)

/-- A suppressed admission leaves an alert alone only when its entry says the same. -/
theorem Pendings.unwritten (pendings : Pendings sources p) (ok : SourceOk source)
    (keyed : dedupeKey source = .ok key) (injective : KeysInjective (sources ++ [source]))
    {alert : SourceAlert} (member : alert ∈ source.alerts)
    (unwritten : alert.fingerprint ∉ (decideWith p source admissionId key).writes source) :
    (p.pending.get? alert.fingerprint).map PendingEntry.state =
      some (source.sourceGroup, alert.status, alert.values) := by
  have suppressed : (decideWith p source admissionId key).result = .suppressed := by
    by_contra written
    refine unwritten ?_
    rw [Decision.writes, if_neg written]
    exact List.mem_map_of_mem member
  obtain ⟨baseline, found, sameKey, decision⟩ := decideWith_suppressed suppressed
  obtain ⟨twin, twinMember, -, twinKeyed, entries⟩ :=
    pendings.baselines source.sourceGroup baseline found
  have payload : dedupePayload source = dedupePayload twin :=
    injective source (by simp) twin (by simp [twinMember])
      (keyed.trans (sameKey ▸ twinKeyed.symm))
  obtain ⟨twinAlert, twinAlertMember, fingerprint, status, values⟩ :=
    alert_of_payload ok (pendings.ok twin twinMember) payload member
  obtain ⟨entry, pending, agrees⟩ := entries twinAlert twinAlertMember
  rw [fingerprint] at pending
  have owned : entry.sourceGroup = source.sourceGroup := by
    by_contra foreign
    refine unwritten ?_
    rw [Decision.writes, if_pos suppressed, decision]
    exact mem_map_fst_pendingClaims.mpr ⟨⟨alert, member, rfl⟩, entry, pending,
      by simpa using foreign⟩
  obtain ⟨sameStatus, sameValues⟩ := agrees owned
  rw [pending, Option.map_some, PendingEntry.state, owned, sameStatus, sameValues, status, values]

theorem Pendings.afterAdmission {q : Projection} (pendings : Pendings sources p)
    (ok : SourceOk source)
    (keyed : dedupeKey source = .ok key) (injective : KeysInjective (sources ++ [source]))
    (pendingEq : q.pending = p.pending.setAll (pendingUpdates source
      (decideWith p source admissionId key) admissionId arrivalSeq))
    (baselinesEq : q.baselines = p.baselines.set source.sourceGroup
      (decideWith p source admissionId key).baselineAfter) :
    Pendings (sources ++ [source]) q where
  ok := by
    intro other member
    rcases List.mem_append.mp member with earlier | last
    · exact pendings.ok other earlier
    · rwa [List.mem_singleton.mp last]
  current := by
    intro fingerprint
    have nodup : (source.alerts.map SourceAlert.fingerprint).Nodup :=
      ok.sorted.imp fun below => below.ne
    rw [latest_concat, pendingEq, carried]
    cases found : alertFor source fingerprint with
    | none =>
        have unwritten : fingerprint ∉ (decideWith p source admissionId key).writes source := by
          intro written
          obtain ⟨alert, mentioned⟩ := writes_decideWith_mentioned fingerprint written
          rw [(alertFor_eq_some nodup).mpr mentioned] at found
          cases found
        rw [pending_kept ok unwritten, pendings.current]
        rfl
    | some alert =>
        obtain ⟨member, rfl⟩ := (alertFor_eq_some nodup).mp found
        by_cases written :
            alert.fingerprint ∈ (decideWith p source admissionId key).writes source
        · rw [pending_written ok member written]
          rfl
        · rw [pending_kept ok written, pendings.unwritten ok keyed injective member written]
          rfl
  baselines := by
    intro group baseline found
    -- An entry this admission writes belongs to its group.
    have rewritten {fingerprint : String} {entry : PendingEntry}
        (pending : p.pending.get? fingerprint = some entry) :
        q.pending.get? fingerprint = some entry ∨
          ∃ alert ∈ source.alerts, alert.fingerprint = fingerprint ∧
            q.pending.get? fingerprint =
              some (writtenEntry source admissionId arrivalSeq alert) := by
      rw [pendingEq]
      by_cases written : fingerprint ∈ (decideWith p source admissionId key).writes source
      · obtain ⟨alert, member, rfl⟩ := writes_decideWith_mentioned fingerprint written
        exact .inr ⟨alert, member, rfl, pending_written ok member written⟩
      · exact .inl ((pending_kept ok written).trans pending)
    rw [baselinesEq, Dict.get?_set] at found
    split_ifs at found with same
    · obtain rfl := same
      by_cases suppressed : (decideWith p source admissionId key).result = .suppressed
      · obtain ⟨before, beforeFound, sameKey, decision⟩ := decideWith_suppressed suppressed
        rw [decision, Option.some.injEq] at found
        obtain rfl := found
        obtain ⟨twin, twinMember, twinGroup, twinKeyed, entries⟩ :=
          pendings.baselines source.sourceGroup before beforeFound
        refine ⟨twin, by simp [twinMember], twinGroup, twinKeyed, fun alert member => ?_⟩
        obtain ⟨entry, pending, agrees⟩ := entries alert member
        rcases rewritten pending with kept | ⟨mine, mineMember, fingerprint, written⟩
        · exact ⟨entry, kept, agrees⟩
        · have payload : dedupePayload twin = dedupePayload source :=
            injective twin (by simp [twinMember]) source (by simp)
              (twinKeyed.trans (sameKey ▸ keyed.symm))
          obtain ⟨own, ownMember, ownFingerprint, status, values⟩ :=
            alert_of_payload (pendings.ok twin twinMember) ok payload member
          have nodup : (source.alerts.map SourceAlert.fingerprint).Nodup :=
            ok.sorted.imp fun below => below.ne
          obtain rfl : own = mine := List.inj_on_of_nodup_map nodup ownMember mineMember
            (ownFingerprint.trans fingerprint.symm)
          exact ⟨_, written, fun _ => ⟨status, values⟩⟩
      · rw [(decideWith_not_suppressed suppressed).1, Option.some.injEq] at found
        obtain rfl := found
        refine ⟨source, by simp, rfl, keyed, fun alert member =>
          ⟨writtenEntry source admissionId arrivalSeq alert, ?_, fun _ => ⟨rfl, rfl⟩⟩⟩
        rw [pendingEq]
        refine pending_written ok member ?_
        rw [Decision.writes, if_neg suppressed]
        exact List.mem_map_of_mem member
    · obtain ⟨twin, twinMember, twinGroup, twinKeyed, entries⟩ :=
        pendings.baselines group baseline found
      refine ⟨twin, by simp [twinMember], twinGroup, twinKeyed, fun alert member => ?_⟩
      obtain ⟨entry, pending, agrees⟩ := entries alert member
      rcases rewritten pending with kept | ⟨mine, -, -, written⟩
      · exact ⟨entry, kept, agrees⟩
      · exact ⟨_, written, fun owned => absurd owned.symm same⟩

end Admit

/-! ## Whole histories -/

/-- A commit admits one source and writes what was decided for it, or leaves
pending entries and baselines alone. -/
theorem CommitStep.admitted (step : CommitStep p records delta) :
    (admittedSources records = [] ∧ (applyDelta p delta).pending = p.pending ∧
        (applyDelta p delta).baselines = p.baselines) ∨
      ∃ source admissionId key, admittedSources records = [source] ∧
        SourceOk source ∧ dedupeKey source = .ok key ∧ isId admissionId = true ∧
        (applyDelta p delta).pending = p.pending.setAll (pendingUpdates source
          (decideWith p source admissionId key) admissionId (applyDelta p delta).lastArrivalSeq) ∧
        (applyDelta p delta).baselines = p.baselines.set source.sourceGroup
          (decideWith p source admissionId key).baselineAfter := by
  cases step with
  | genesis payload | restart payload =>
      exact .inl ⟨by simp [admittedSources, Record.admitted?, payload], rfl, rfl⟩
  | current position boot clock claim =>
      have quiet := claim.quiet
      refine .inl ⟨?_, by simp [applyDelta, quiet.pendingUpdates],
        by simp [applyDelta, quiet.baselineUpdate, Dict.addEntry]⟩
      cases claim <;> simp_all [admittedSources, Record.admitted?]
  | admission position dedupePosition stamp boot clock pair =>
      rename_i admission dedupe a d source key bounds
      have eventId := (validateEnvelope_eq_ok.mp admission.validated).2.1
      rw [← pair.admission_id] at eventId
      exact .inr ⟨source, a.admissionId, key,
        by simp [admittedSources, Record.admitted?, pair.admission_payload, pair.dedupe_payload,
          pair.parsed, Except.toOption],
        (sourceFromJson_ok pair.parsed).1, pair.keyed, eventId, rfl, rfl⟩

theorem pendings_new : Pendings [] newProjection where
  ok := by simp
  current _ := rfl
  baselines _ _ found := by cases found

theorem KeysInjective.mono {left right : List SourceRecord}
    (injective : KeysInjective (left ++ right)) : KeysInjective left :=
  fun one first other second => injective one (by simp [first]) other (by simp [second])

theorem pendings_of_commits (commits : Commits newProjection groups p)
    (injective : KeysInjective (admittedSources groups.flatten)) :
    Pendings (admittedSources groups.flatten) p := by
  refine Commits.history (fun done p => KeysInjective (admittedSources done.flatten) →
    Pendings (admittedSources done.flatten) p)
    (fun done p records delta pendings accepted injective => ?_)
    (fun _ => pendings_new) commits injective
  have appended : admittedSources (done ++ [records]).flatten =
      admittedSources done.flatten ++ admittedSources records := by
    simp [admittedSources]
  rw [appended] at injective ⊢
  rcases (verifyCommit_iff.mp accepted).admitted with ⟨none, pending, baselines⟩ |
    ⟨source, admissionId, key, one, ok, keyed, -, pending, baselines⟩
  · rw [none, List.append_nil] at injective ⊢
    obtain ⟨sourcesOk, current, owned⟩ := pendings injective
    exact ⟨sourcesOk, pending ▸ current, by rw [pending, baselines]; exact owned⟩
  · rw [one] at injective ⊢
    exact (pendings injective.mono).afterAdmission ok keyed injective pending baselines

/-- The fingerprints the sources mention. -/
def mentionedFingerprints (sources : List SourceRecord) : Finset String :=
  (sources.flatMap fun source => source.alerts.map SourceAlert.fingerprint).toFinset

theorem mem_mentionedFingerprints {fingerprint : String} :
    fingerprint ∈ mentionedFingerprints sources ↔
      ∃ source ∈ sources, ∃ alert ∈ source.alerts, alert.fingerprint = fingerprint := by
  simp [mentionedFingerprints]

theorem Pendings.size (pendings : Pendings sources p) :
    p.pending.size = (mentionedFingerprints sources).card := by
  have keys : p.pending.keys.toFinset = mentionedFingerprints sources := by
    ext fingerprint
    rw [List.mem_toFinset, mem_mentionedFingerprints, Dict.mem_keys_iff, ← Option.isSome_map,
      pendings.current]
    exact ⟨mentioned_of_latest, fun ⟨_, member, _, mentioned, same⟩ =>
      latest_isSome member mentioned same⟩
  rw [← keys, Dict.keys, List.toFinset_card_of_nodup p.pending.nodup, List.length_map]
  rfl

end ManyAlerts
