import ManyAlerts.Journal.Source

/-!
# What the source parser accepts

`SourceOk` lists what a parsed source satisfies.  Writing such a source and
reading it back gives it again, and what is read differs from what is written
only in the order of members.
-/

namespace ManyAlerts

/-! ## Values -/

def valueMember (pair : String × Option String) : String × Json :=
  (pair.1, Json.optional Json.str pair.2)

structure PairOk (pair : String × Option String) : Prop where
  reference : matchesId maxRefIdBytes pair.1 = true
  number : ∀ number ∈ pair.2, isCanonicalNumber number = true

structure ValuesOk (items : List (String × Option String)) : Prop where
  pairs : ∀ pair ∈ items, PairOk pair
  sorted : (items.map Prod.fst).Pairwise (· < ·)

theorem parseValue_eq_ok {previous : Option String} {member : String × Json}
    {entry : String × Option String} :
    parseValue previous member = .ok entry ↔
      member = valueMember entry ∧ PairOk entry ∧ ∀ earlier ∈ previous, earlier < entry.1 := by
  obtain ⟨key, value⟩ := member
  obtain ⟨reference, number⟩ := entry
  simp only [parseValue, bind_eq_ok, failIf_eq_ok, exists_unit, Bool.not_eq_false, not_exists,
    not_and, not_le, valueMember, Prod.mk.injEq]
  constructor
  · rintro ⟨matched, later, parsed⟩
    cases value with
    | null =>
        simp only [pure_eq_ok, Prod.mk.injEq] at parsed
        obtain ⟨rfl, rfl⟩ := parsed
        exact ⟨⟨rfl, rfl⟩, ⟨matched, by simp⟩, later⟩
    | str text =>
        simp only [bind_eq_ok, failIf_eq_ok, exists_unit, pure_eq_ok, Prod.mk.injEq,
          Bool.not_eq_false] at parsed
        obtain ⟨canonical, rfl, rfl⟩ := parsed
        exact ⟨⟨rfl, rfl⟩, ⟨matched, by simpa using canonical⟩, later⟩
    | _ => cases parsed
  · rintro ⟨⟨rfl, rfl⟩, ⟨matched, canonical⟩, later⟩
    refine ⟨matched, later, ?_⟩
    cases number with
    | none => rfl
    | some text =>
        simp only [Json.optional, bind_eq_ok, failIf_eq_ok, exists_unit, pure_eq_ok, and_true,
          Bool.not_eq_false]
        exact canonical text rfl

theorem parseMembers_eq_ok {previous : Option String} {members : List (String × Json)}
    {items : List (String × Option String)} :
    parseMembers previous members = .ok items ↔
      members = items.map valueMember ∧ ValuesOk items ∧
        ∀ earlier ∈ previous, ∀ pair ∈ items, earlier < pair.1 := by
  induction members generalizing previous items with
  | nil =>
      constructor
      · intro parsed
        cases parsed
        exact ⟨rfl, ⟨by simp, by simp⟩, by simp⟩
      · rintro ⟨empty, -, -⟩
        rw [List.map_eq_nil_iff.mp empty.symm]
        rfl
  | cons member members induction =>
      simp only [parseMembers, bind_eq_ok, pure_eq_ok, parseValue_eq_ok, induction]
      constructor
      · rintro ⟨entry, ⟨rfl, entryOk, first⟩, items, ⟨rfl, itemsOk, rest⟩, rfl⟩
        have above : ∀ pair ∈ items, entry.1 < pair.1 := rest entry.1 rfl
        refine ⟨rfl, ⟨?_, ?_⟩, ?_⟩
        · exact List.forall_mem_cons.mpr ⟨entryOk, itemsOk.pairs⟩
        · rw [List.map_cons, List.pairwise_cons]
          exact ⟨List.forall_mem_map.mpr above, itemsOk.sorted⟩
        · intro earlier found pair member
          rcases List.mem_cons.mp member with rfl | later
          · exact first earlier found
          · exact (first earlier found).trans (above pair later)
      · rintro ⟨shape, itemsOk, above⟩
        cases items with
        | nil => cases shape
        | cons entry items =>
            simp only [List.map_cons, List.cons.injEq] at shape
            obtain ⟨rfl, rfl⟩ := shape
            have sorted := itemsOk.sorted
            simp only [List.map_cons, List.pairwise_cons, List.mem_map] at sorted
            refine ⟨entry, ⟨rfl, itemsOk.pairs entry (by simp), fun earlier found =>
              above earlier found entry (by simp)⟩, items, ⟨rfl, ⟨fun pair found =>
              itemsOk.pairs pair (by simp [found]), sorted.2⟩, ?_⟩, rfl⟩
            rintro _ ⟨⟩ pair found
            exact sorted.1 pair.1 ⟨pair, found, rfl⟩

/-- Distinct reference ids are written as they stand. -/
theorem valuesJson_of_sorted {items : List (String × Option String)}
    (sorted : (items.map Prod.fst).Pairwise (· < ·)) :
    valuesJson items = .obj (items.map valueMember) := by
  have nodup : ((items.map valueMember).map Prod.fst).Nodup := by
    rw [List.map_map]
    exact sorted.imp fun below => below.ne
  exact congrArg Json.obj (Dict.entries_setAll_of_nodup nodup)

def valueCount (values : AlertValues) : Nat := (values.getD []).length

theorem parseValues_eq_ok {value : Json} {budget after : Nat} {values : AlertValues} :
    parseValues value budget = .ok (values, after) ↔
      (∀ items ∈ values, ValuesOk items ∧ budget + items.length ≤ maxValues) ∧
        value = Json.optional valuesJson values ∧ after = budget + valueCount values := by
  constructor
  · intro parsed
    cases value with
    | null =>
        cases parsed
        exact ⟨by simp, rfl, rfl⟩
    | obj members =>
        simp only [parseValues, bind_eq_ok, failIf_eq_ok, exists_unit, pure_eq_ok,
          Prod.mk.injEq, parseMembers_eq_ok, not_lt] at parsed
        obtain ⟨items, ⟨rfl, itemsOk, -⟩, room, rfl, rfl⟩ := parsed
        exact ⟨by simpa using ⟨itemsOk, room⟩, (valuesJson_of_sorted itemsOk.sorted).symm, rfl⟩
    | _ => cases parsed
  · rintro ⟨valuesOk, rfl, rfl⟩
    cases values with
    | none => rfl
    | some items =>
        obtain ⟨itemsOk, room⟩ := valuesOk items rfl
        simp only [Json.optional, valuesJson_of_sorted itemsOk.sorted, parseValues, bind_eq_ok,
          failIf_eq_ok, exists_unit, pure_eq_ok, Prod.mk.injEq, not_lt]
        exact ⟨items, parseMembers_eq_ok.mpr ⟨rfl, itemsOk, by simp⟩, room, rfl, rfl⟩

/-! ## Alerts -/

structure AlertOk (alert : SourceAlert) : Prop where
  fingerprint : isFingerprint alert.fingerprint = true
  startsAt : ∀ text ∈ alert.startsAt, isStartsAt text = true
  values : ∀ items ∈ alert.values, ValuesOk items

theorem parseText_eq_ok {failure : Failure} {accept : String → Bool} {value : Json}
    {text : String} :
    parseText failure accept value = .ok text ↔ value = .str text ∧ accept text = true := by
  cases value with
  | str found =>
      simp only [parseText, bind_eq_ok, failIf_eq_ok, exists_unit, pure_eq_ok,
        Bool.not_eq_false, Json.str.injEq]
      constructor
      · rintro ⟨accepted, rfl⟩
        exact ⟨rfl, accepted⟩
      · rintro ⟨rfl, accepted⟩
        exact ⟨accepted, rfl⟩
  | _ => simp [parseText]

theorem parseStatus_eq_ok {value : Json} {status : AlertStatus} :
    parseStatus value = .ok status ↔ value = .str status.text := by
  constructor
  · intro parsed
    unfold parseStatus at parsed
    split at parsed <;> cases parsed <;> rfl
  · rintro rfl
    cases status <;> rfl

theorem parseStartsAt_eq_ok {value : Json} {startsAt : Option String} :
    parseStartsAt value = .ok startsAt ↔
      value = Json.optional Json.str startsAt ∧ ∀ text ∈ startsAt, isStartsAt text = true := by
  cases value with
  | null => cases startsAt <;> simp [parseStartsAt, Json.optional]
  | str text =>
      simp only [parseStartsAt, bind_eq_ok, failIf_eq_ok, exists_unit, pure_eq_ok,
        Bool.not_eq_false]
      cases startsAt with
      | none => simp [Json.optional]
      | some found =>
          simp only [Json.optional, Option.some.injEq, Json.str.injEq, Option.mem_def,
            forall_eq']
          constructor
          · rintro ⟨accepted, rfl⟩
            exact ⟨rfl, accepted⟩
          · rintro ⟨rfl, accepted⟩
            exact ⟨accepted, rfl⟩
  | _ => cases startsAt <;> simp [parseStartsAt, Json.optional]

def alertKeys : List String := ["fingerprint", "starts_at", "status", "values"]

theorem parseAlert_eq_ok {value : Json} {budget after : Nat} {alert : SourceAlert} :
    parseAlert value budget = .ok (alert, after) ↔
      value.hasExactKeys alertKeys = true ∧ AlertOk alert ∧
        (∀ items ∈ alert.values, budget + items.length ≤ maxValues) ∧
        after = budget + valueCount alert.values ∧
        value.get "fingerprint" = .str alert.fingerprint ∧
        value.get "starts_at" = Json.optional Json.str alert.startsAt ∧
        value.get "status" = .str alert.status.text ∧
        value.get "values" = Json.optional valuesJson alert.values := by
  obtain ⟨fingerprint, status, values, startsAt⟩ := alert
  simp only [parseAlert, bind_eq_ok, failIf_eq_ok, exists_unit, pure_eq_ok, Prod.exists,
    Prod.mk.injEq, SourceAlert.mk.injEq, parseText_eq_ok, parseStatus_eq_ok,
    parseStartsAt_eq_ok, parseValues_eq_ok, Bool.not_eq_false]
  constructor
  · rintro ⟨keys, _, ⟨fingerprintEq, fingerprintOk⟩, _, statusEq, _, ⟨startsEq, startsOk⟩, _, _,
      ⟨valuesOk, valuesEq, rfl⟩, ⟨rfl, rfl, rfl, rfl⟩, rfl⟩
    exact ⟨keys, ⟨fingerprintOk, startsOk, fun items found => (valuesOk items found).1⟩,
      fun items found => (valuesOk items found).2, rfl, fingerprintEq, startsEq, statusEq,
      valuesEq⟩
  · rintro ⟨keys, alertOk, room, rfl, fingerprintEq, startsEq, statusEq, valuesEq⟩
    exact ⟨keys, _, ⟨fingerprintEq, alertOk.fingerprint⟩, _, statusEq, _,
      ⟨startsEq, alertOk.startsAt⟩, _, _,
      ⟨fun items found => ⟨alertOk.values items found, room items found⟩, valuesEq, rfl⟩,
      ⟨rfl, rfl, rfl, rfl⟩, rfl⟩

/-- A parsed alert is written back up to the order of members. -/
theorem sortKeys_of_parseAlert {value : Json} {budget after : Nat} {alert : SourceAlert}
    (parsed : parseAlert value budget = .ok (alert, after)) :
    value.sortKeys = (alertToJson alert).sortKeys := by
  obtain ⟨keys, -, -, -, fingerprint, startsAt, status, values⟩ := parseAlert_eq_ok.mp parsed
  rw [Json.sortKeys_of_hasExactKeys (by decide) keys]
  simp only [alertKeys, List.map_cons, List.map_nil, fingerprint, startsAt, status, values,
    alertToJson]

def alertValueCount (alerts : List SourceAlert) : Nat :=
  (alerts.map fun alert => valueCount alert.values).sum

theorem parseAlerts_ok {items : List Json} {budget : Nat} {alerts : List SourceAlert}
    (parsed : parseAlerts items budget = .ok alerts) :
    items.map Json.sortKeys = alerts.map (fun alert => (alertToJson alert).sortKeys) ∧
      (∀ alert ∈ alerts, AlertOk alert) ∧
      (budget ≤ maxValues → budget + alertValueCount alerts ≤ maxValues) := by
  induction items generalizing budget alerts with
  | nil =>
      cases parsed
      exact ⟨rfl, by simp, by simp [alertValueCount]⟩
  | cons item items induction =>
      simp only [parseAlerts, bind_eq_ok, pure_eq_ok, Prod.exists] at parsed
      obtain ⟨alert, after, first, alerts, rest, rfl⟩ := parsed
      obtain ⟨written, alertsOk, total⟩ := induction rest
      obtain ⟨-, alertOk, room, rfl, -⟩ := parseAlert_eq_ok.mp first
      refine ⟨by simp [written, sortKeys_of_parseAlert first],
        List.forall_mem_cons.mpr ⟨alertOk, alertsOk⟩, fun start => ?_⟩
      have next : budget + valueCount alert.values ≤ maxValues := by
        cases values : alert.values with
        | none => simpa [valueCount] using start
        | some items => exact room items values
      have bound := total next
      simp only [alertValueCount, List.map_cons, List.sum_cons] at bound ⊢
      omega

theorem parseAlerts_of_ok {budget : Nat} {alerts : List SourceAlert}
    (alertsOk : ∀ alert ∈ alerts, AlertOk alert)
    (room : budget + alertValueCount alerts ≤ maxValues) :
    parseAlerts (alerts.map alertToJson) budget = .ok alerts := by
  induction alerts generalizing budget with
  | nil => rfl
  | cons alert alerts induction =>
      simp only [alertValueCount, List.map_cons, List.sum_cons] at room
      have first : parseAlert (alertToJson alert) budget =
          .ok (alert, budget + valueCount alert.values) := by
        refine parseAlert_eq_ok.mpr ⟨rfl, alertsOk alert (by simp), fun items found => ?_, rfl,
          rfl, rfl, rfl, rfl⟩
        have count : valueCount alert.values = items.length := by
          rw [Option.mem_def.mp found]
          rfl
        omega
      have rest : parseAlerts (alerts.map alertToJson) (budget + valueCount alert.values) =
          .ok alerts :=
        induction (fun other found => alertsOk other (by simp [found])) (by
          simp only [alertValueCount]
          omega)
      simp [parseAlerts, first, rest]

theorem checkOrder_eq_ok {previous : Option String} {alerts : List SourceAlert} :
    checkOrder previous alerts = .ok () ↔
      (alerts.map SourceAlert.fingerprint).Pairwise (· < ·) ∧
        ∀ earlier ∈ previous, ∀ alert ∈ alerts, earlier < alert.fingerprint := by
  induction alerts generalizing previous with
  | nil => simp [checkOrder]
  | cons alert alerts induction =>
      simp only [checkOrder, bind_eq_ok, failIf_eq_ok, exists_unit, induction, not_exists,
        not_and, not_le, List.map_cons, List.pairwise_cons, List.forall_mem_map]
      constructor
      · rintro ⟨-, above, sorted, later⟩
        refine ⟨⟨later _ rfl, sorted⟩, fun earlier found other member => ?_⟩
        rcases List.mem_cons.mp member with rfl | tail
        · exact above earlier found
        · exact (above earlier found).trans (later _ rfl other tail)
      · rintro ⟨⟨later, sorted⟩, above⟩
        refine ⟨fun same => absurd (above _ same alert (by simp)) (lt_irrefl _),
          fun earlier found => above earlier found alert (by simp), sorted, ?_⟩
        rintro _ ⟨⟩ other member
        exact later other member

/-! ## Sources -/

structure SourceOk (source : SourceRecord) : Prop where
  nonempty : 1 ≤ source.alerts.length
  alertCount : source.alerts.length ≤ maxAlerts
  alerts : ∀ alert ∈ source.alerts, AlertOk alert
  valueCount : alertValueCount source.alerts ≤ maxValues
  sorted : (source.alerts.map SourceAlert.fingerprint).Pairwise (· < ·)
  truncated : ∀ count ∈ source.truncatedAlerts, 0 ≤ count ∧ count ≤ maxTruncatedAlerts
  bodyDigest : isHex64 source.bodyDigest = true
  provenance : source.provenance = httpProvenance
  sourceGroup : isHex64 source.sourceGroup = true
  encoded : ∃ text, canonicalJson true (sourceToJson source) = .ok text ∧
    text.length ≤ maxSourceRecordBytes

theorem parseTruncated_eq_ok {value : Json} {truncated : Option Int} :
    parseTruncated value = .ok truncated ↔ value = Json.optional Json.num truncated ∧
      ∀ count ∈ truncated, 0 ≤ count ∧ count ≤ maxTruncatedAlerts := by
  cases value with
  | null => cases truncated <;> simp [parseTruncated, Json.optional]
  | num count =>
      simp only [parseTruncated, bind_eq_ok, failIf_eq_ok, exists_unit, pure_eq_ok, not_not]
      cases truncated with
      | none => simp [Json.optional]
      | some found =>
          simp only [Json.optional, Option.some.injEq, Json.num.injEq, Option.mem_def,
            forall_eq']
          constructor
          · rintro ⟨bounds, rfl⟩
            exact ⟨rfl, bounds⟩
          · rintro ⟨rfl, bounds⟩
            exact ⟨bounds, rfl⟩
  | _ => cases truncated <;> simp [parseTruncated, Json.optional]

theorem parseProvenance_ok {value : Json} {provenance : Provenance}
    (parsed : parseProvenance value = .ok provenance) :
    provenance = httpProvenance ∧ value.sortKeys = (provenanceToJson provenance).sortKeys := by
  simp only [parseProvenance, bind_eq_ok, failIf_eq_ok, exists_unit, Bool.not_eq_false] at parsed
  obtain ⟨keys, read⟩ := parsed
  rw [Json.sortKeys_of_hasExactKeys (by decide) keys]
  split at read
  · rename_i path kindEq pathEq lineEq
    simp only [bind_eq_ok, pure_eq_ok, failIf_eq_ok, exists_unit, not_not, ne_eq,
      exists_eq_left'] at read
    obtain ⟨http, rfl⟩ := read
    refine ⟨http, ?_⟩
    simp [kindEq, pathEq, lineEq, provenanceToJson, ProvenanceKind.text, Json.optional]
  · simp only [bind_eq_ok, pure_eq_ok, failIf_eq_ok, exists_unit, not_not, ne_eq,
      exists_eq_left', httpProvenance, Provenance.mk.injEq, reduceCtorEq, and_false,
      false_and] at read
  · cases read

theorem sourceFromJson_ok {value : Json} {source : SourceRecord}
    (parsed : sourceFromJson value = .ok source) :
    SourceOk source ∧ value.sortKeys = (sourceToJson source).sortKeys := by
  simp only [sourceFromJson, bind_eq_ok, failIf_eq_ok, exists_unit, Bool.not_eq_false] at parsed
  obtain ⟨keys, read⟩ := parsed
  split at read
  case h_2 => cases read
  rename_i raw rawItems
  simp only [bind_eq_ok, failIf_eq_ok, exists_unit, pure_eq_ok, not_lt, liftJson_eq_ok,
    parseText_eq_ok, parseTruncated_eq_ok, checkOrder_eq_ok, exists_eq_left'] at read
  obtain ⟨nonempty, alertCount, alerts, alertsParsed, ⟨sorted, -⟩, truncated,
    ⟨truncatedEq, truncatedOk⟩, bodyDigest, ⟨bodyEq, bodyOk⟩, provenance, provenanceParsed,
    sourceGroup, ⟨groupEq, groupOk⟩, text, encoded, small, rfl⟩ := read
  obtain ⟨alertsEq, alertsOk, total⟩ := parseAlerts_ok alertsParsed
  obtain ⟨provenanceOk, provenanceEq⟩ := parseProvenance_ok provenanceParsed
  have lengths : alerts.length = raw.length := by
    simpa using (congrArg List.length alertsEq).symm
  refine ⟨⟨by simpa only [lengths], by simpa only [lengths], alertsOk,
    by simpa using total (Nat.zero_le _), sorted, truncatedOk, bodyOk, provenanceOk, groupOk,
    text, encoded, small⟩, ?_⟩
  rw [Json.sortKeys_of_hasExactKeys (by decide) keys]
  simp only [List.map_cons, List.map_nil, rawItems, bodyEq, groupEq, truncatedEq, sourceToJson,
    Json.sortKeys, Json.sortKeysMembers_eq_map, Json.sortKeysItems_eq_map, provenanceEq,
    alertsEq, List.map_map, Function.comp_def]

/-- A source that passes is read back from what is written of it. -/
theorem sourceFromJson_sourceToJson {source : SourceRecord} (ok : SourceOk source) :
    sourceFromJson (sourceToJson source) = .ok source := by
  obtain ⟨text, encoded, small⟩ := ok.encoded
  have alertsParsed : parseAlerts (source.alerts.map alertToJson) 0 = .ok source.alerts :=
    parseAlerts_of_ok ok.alerts (by simpa using ok.valueCount)
  have provenanceParsed : parseProvenance (provenanceToJson source.provenance) =
      .ok source.provenance := by
    rw [ok.provenance]
    rfl
  have items : (sourceToJson source).get "alerts" = .arr (source.alerts.map alertToJson) := rfl
  simp only [sourceFromJson, items, bind_eq_ok, failIf_eq_ok, exists_unit, pure_eq_ok,
    Bool.not_eq_false, not_lt, liftJson_eq_ok, parseText_eq_ok, parseTruncated_eq_ok,
    checkOrder_eq_ok, exists_eq_left']
  exact ⟨rfl, by simpa using ok.nonempty, by simpa using ok.alertCount, source.alerts, alertsParsed,
    ⟨ok.sorted, by simp⟩,
    source.truncatedAlerts, ⟨rfl, ok.truncated⟩, source.bodyDigest, ⟨rfl, ok.bodyDigest⟩,
    source.provenance, provenanceParsed, source.sourceGroup, ⟨rfl, ok.sourceGroup⟩, text,
    encoded, small, rfl⟩

theorem validateSource_eq_ok {source result : SourceRecord} :
    validateSource source = .ok result ↔ SourceOk source ∧ result = source := by
  simp only [validateSource, bind_eq_ok, failIf_eq_ok, exists_unit, pure_eq_ok, not_not, ne_eq]
  constructor
  · rintro ⟨_, parsed, rfl, rfl⟩
    exact ⟨(sourceFromJson_ok parsed).1, rfl⟩
  · rintro ⟨ok, rfl⟩
    exact ⟨_, sourceFromJson_sourceToJson ok, rfl, rfl⟩

end ManyAlerts
