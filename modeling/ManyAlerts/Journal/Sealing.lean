import ManyAlerts.Forwarder.Fits
import ManyAlerts.Journal.Guards
import ManyAlerts.Journal.SourceForm

/-!
# Sealing succeeds

The texts the patterns accept are short and need no escapes, so the size of a
record is known from its shape.  A draft that passes its checks and whose two
objects fit is sealed; nothing else can fail.
-/

namespace ManyAlerts

variable {depth : Nat} {text : String} {draft : Draft} {position : Position} {stamp : Stamp}

/-! ## Texts the patterns accept -/

theorem isPlainChar_of_range {character : Char} (low : 45 ≤ character.toNat)
    (high : character.toNat ≤ 122) (notBackslash : character.toNat ≠ 92) :
    isPlainChar character = true := by
  have apart (other : Char) (differs : character.toNat ≠ other.toNat) : character ≠ other :=
    fun same => differs (congrArg Char.toNat same)
  have quote : character ≠ '"' := apart '"' fun same => absurd (same ▸ low) (by decide)
  have backslash : character ≠ '\\' := apart '\\' notBackslash
  simp only [isPlainChar, quote, backslash, ne_eq, not_false_eq_true, decide_true,
    Bool.and_true, Bool.and_eq_true, decide_eq_true_eq]
  omega

theorem toNat_of_isDigit {character : Char} (digit : character.isDigit = true) :
    48 ≤ character.toNat ∧ character.toNat ≤ 57 := by
  simpa [Char.isDigit, UInt32.le_iff_toNat_le] using digit

theorem isPlainChar_of_isIdChar {character : Char} (accepted : isIdChar character = true) :
    isPlainChar character = true := by
  simp only [isIdChar, Bool.or_eq_true, decide_eq_true_eq] at accepted
  rcases accepted with ((letter | rfl) | rfl) | rfl
  · have range : (48 ≤ character.toNat ∧ character.toNat ≤ 57) ∨
        (65 ≤ character.toNat ∧ character.toNat ≤ 90) ∨
        (97 ≤ character.toNat ∧ character.toNat ≤ 122) := by
      delta Char.isAlphanum Char.isAlpha Char.isUpper Char.isLower at letter
      simp only [Bool.or_eq_true, Bool.and_eq_true, decide_eq_true_eq, UInt32.le_iff_toNat_le,
        ge_iff_le] at letter
      rcases letter with (upper | lower) | digit
      · exact .inr (.inl upper)
      · exact .inr (.inr lower)
      · exact .inl (toNat_of_isDigit digit)
    exact isPlainChar_of_range (by omega) (by omega) (by omega)
  · decide
  · decide
  · decide

theorem isPlainChar_of_isHexChar {character : Char} (accepted : isHexChar character = true) :
    isPlainChar character = true := by
  simp only [isHexChar, Bool.or_eq_true, Bool.and_eq_true, decide_eq_true_eq, Char.le_def,
    UInt32.le_iff_toNat_le] at accepted
  have range : (48 ≤ character.toNat ∧ character.toNat ≤ 57) ∨
      (97 ≤ character.toNat ∧ character.toNat ≤ 102) := accepted
  exact isPlainChar_of_range (by omega) (by omega) (by omega)

theorem plain_of_matchesId {limit : Nat} (accepted : matchesId limit text = true) :
    Plain text ∧ text.length ≤ limit := by
  simp only [matchesId, characters_eq_toList, Bool.and_eq_true, decide_eq_true_eq,
    List.all_eq_true] at accepted
  exact ⟨fun character member => isPlainChar_of_isIdChar (accepted.2 character member),
    accepted.1.2⟩

/-- A pattern that fixes every character by its position. -/
theorem plain_of_zipIdx {accept : Char × Nat → Bool}
    (accepted : text.toList.zipIdx.all accept = true)
    (plain : ∀ entry, accept entry = true → isPlainChar entry.1 = true) : Plain text := by
  intro character member
  obtain ⟨index, found⟩ := List.mem_iff_getElem?.mp member
  exact plain (character, index)
    (List.all_eq_true.mp accepted _ (List.mk_mem_zipIdx_iff_getElem?.mpr found))

theorem fits_id (accepted : isId text = true) : Fits depth 130 (.str text) :=
  fits_plain (plain_of_matchesId accepted).1 (plain_of_matchesId accepted).2 (by decide)

theorem fits_fingerprint (accepted : isFingerprint text = true) : Fits depth 66 (.str text) :=
  fits_plain (plain_of_matchesId accepted).1 (plain_of_matchesId accepted).2 (by decide)

theorem fits_hex64 (accepted : isHex64 text = true) : Fits depth 66 (.str text) := by
  simp only [isHex64, characters_eq_toList, Bool.and_eq_true, decide_eq_true_eq,
    List.all_eq_true] at accepted
  exact fits_plain
    (fun character member => isPlainChar_of_isHexChar (accepted.2 character member))
    accepted.1.le (by decide)

theorem fits_uuid (accepted : isUuid text = true) : Fits depth 38 (.str text) := by
  simp only [isUuid, characters_eq_toList, Bool.and_eq_true, decide_eq_true_eq] at accepted
  refine fits_plain (plain_of_zipIdx accepted.2 fun entry one => ?_) accepted.1.le (by decide)
  split_ifs at one with hyphen
  · rw [of_decide_eq_true one]
    decide
  · exact isPlainChar_of_isHexChar one

theorem fits_wallTime (accepted : isWallTime text = true) : Fits depth 29 (.str text) := by
  simp only [isWallTime, characters_eq_toList, Bool.and_eq_true, decide_eq_true_eq] at accepted
  obtain ⟨⟨⟨⟨⟨⟨⟨⟨⟨length, shape⟩, -⟩, -⟩, -⟩, -⟩, -⟩, -⟩, -⟩, -⟩ := accepted
  refine fits_plain (plain_of_zipIdx shape fun entry one => ?_) length.le (by decide)
  split_ifs at one
  iterate 5
    · rw [of_decide_eq_true one]
      decide
  · have digit := toNat_of_isDigit one
    exact isPlainChar_of_range (by omega) (by omega) (by omega)

theorem isHex64_sha256Hex (message : Bytes) : isHex64 (sha256Hex message) = true := by
  simp only [isHex64, characters_eq_toList, Bool.and_eq_true, decide_eq_true_eq, List.all_eq_true]
  exact ⟨length_sha256Hex message, fun character => isHexChar_of_mem_sha256Hex⟩

/-! ## Envelopes -/

theorem fits_eventType (payload : Payload) : Fits depth 42 (.str payload.eventType) := by
  cases payload <;> exact fits_literal rfl

theorem fits_actor (payload : Payload) : Fits depth 42 (.str payload.actor) := by
  cases payload <;> exact fits_literal rfl

theorem schemaVersion_le (payload : Payload) : payload.schemaVersion ≤ 3 := by
  cases payload <;> simp [Payload.schemaVersion]

theorem fits_envelope {idsSize dataSize : Nat}
    (valid : validateEnvelope draft position stamp = .ok ())
    (ids : Fits 2 idsSize (.obj draft.payload.ids))
    (data : Fits 2 dataSize (.obj draft.payload.data)) :
    Fits 1 (idsSize + dataSize + 973) (envelope draft position stamp) := by
  obtain ⟨generation, eventId, eventSeq, commitSeq, commitSize, commitIndex, bootId, wallTime,
    monoUs, previous, -, -⟩ := validateEnvelope_eq_ok.mp valid
  have safe : maxSeq ≤ maxSafeInteger := le_rfl
  have small : maxGeneration ≤ maxSafeInteger := by decide
  have few : maxCommitRecords ≤ maxSafeInteger := by decide
  have members : Fits 1 _ (envelope draft position stamp) := fits_obj (by decide) <|
    fitsMembers_cons rfl (fits_nat ((schemaVersion_le draft.payload).trans (by decide))) <|
    fitsMembers_cons rfl (fits_nat (generation.2.trans small)) <|
    fitsMembers_cons rfl (fits_id eventId) <|
    fitsMembers_cons rfl (fits_nat (eventSeq.2.trans safe)) <|
    fitsMembers_cons rfl (fits_nat (commitSeq.2.trans safe)) <|
    fitsMembers_cons rfl (fits_nat (commitIndex.le.trans (commitSize.2.trans few))) <|
    fitsMembers_cons rfl (fits_nat (commitSize.2.trans few)) <|
    fitsMembers_cons rfl (fits_eventType draft.payload) <|
    fitsMembers_cons rfl (fits_actor draft.payload) <|
    fitsMembers_cons rfl (fits_id bootId) <|
    fitsMembers_cons rfl (fits_wallTime wallTime) <|
    fitsMembers_cons rfl (fits_nat (monoUs.trans safe)) <|
    fitsMembers_cons rfl ids <|
    fitsMembers_cons rfl data <|
    fitsMembers_cons rfl (fits_hex64 previous) fitsMembers_nil
  exact Fits.mono members (by omega)

/-- A draft that passes its checks and whose objects fit is sealed. -/
theorem seals_of_fits {idsSize dataSize : Nat}
    (valid : validateEnvelope draft position stamp = .ok ())
    (ids : Fits 2 idsSize (.obj draft.payload.ids))
    (data : Fits 2 dataSize (.obj draft.payload.data))
    (small : idsSize + dataSize + 973 ≤ maxRecordBytes)
    (capped : ∀ cap ∈ privateCap draft.payload, idsSize + dataSize + 973 ≤ cap) :
    ∃ record, sealRecord draft position stamp = .ok record := by
  obtain ⟨body, encoded, short⟩ := (fits_envelope valid ids data).encoded
  have sealed : sealBody draft position stamp = .ok body :=
    sealBody_eq_ok.mpr ⟨valid, encoded, short.trans small,
      fun cap member => short.trans (capped cap member)⟩
  exact ⟨⟨draft, position, stamp, body, sealed⟩, sealRecord_eq_ok.mpr ⟨rfl, rfl, rfl⟩⟩

/-! ## Sources

A source that was encoded on its own is nested three levels deep, so it is
encoded inside a record as well. -/

section Sources

variable {other : Nat} {source : SourceRecord} {alert : SourceAlert}

theorem within_valuesJson {items : List (String × Option String)} (ok : ValuesOk items)
    (within : Within true other (valuesJson items)) (shallow : depth ≤ maxJsonDepth) :
    Within true depth (valuesJson items) := by
  rw [valuesJson_of_sorted ok.sorted] at within ⊢
  refine ⟨shallow, withinMembers_iff.mpr fun member found => ?_⟩
  obtain ⟨key, value⟩ := withinMembers_iff.mp within.2 member found
  obtain ⟨⟨reference, number⟩, -, rfl⟩ := List.mem_map.mp found
  cases number with
  | none => exact ⟨key, trivial⟩
  | some number => exact ⟨key, value⟩

theorem within_values (ok : AlertOk alert)
    (within : Within true other (.optional valuesJson alert.values))
    (shallow : depth ≤ maxJsonDepth) :
    Within true depth (.optional valuesJson alert.values) := by
  cases values : alert.values with
  | none => trivial
  | some items =>
      rw [values] at within
      exact within_valuesJson (ok.values items values) within shallow

theorem within_alertToJson (ok : AlertOk alert) (within : Within true other (alertToJson alert))
    (shallow : depth + 1 ≤ maxJsonDepth) : Within true depth (alertToJson alert) := by
  obtain ⟨-, fingerprintKey, fingerprint, startsKey, starts, statusKey, status, valuesKey,
    values, -⟩ := within
  refine ⟨by omega, fingerprintKey, fingerprint, startsKey, ?_, statusKey, status, valuesKey,
    within_values ok values shallow, trivial⟩
  cases startsAt : alert.startsAt with
  | none => trivial
  | some text =>
      rw [startsAt] at starts
      exact starts

theorem SourceOk.within_root (ok : SourceOk source) : Within true 1 (sourceToJson source) := by
  obtain ⟨text, encoded, -⟩ := ok.encoded
  exact (canonicalJson_eq_ok.mp encoded).1

theorem SourceOk.alert_within (ok : SourceOk source) (member : alert ∈ source.alerts) :
    Within true 3 (alertToJson alert) := by
  obtain ⟨-, -, ⟨-, -, alerts⟩, -⟩ := ok.within_root
  exact withinItems_iff.mp alerts _ (List.mem_map_of_mem member)

theorem SourceOk.values_within (ok : SourceOk source) (member : alert ∈ source.alerts)
    (shallow : depth ≤ maxJsonDepth) :
    Within true depth (.optional valuesJson alert.values) := by
  obtain ⟨-, -, -, -, -, -, -, -, values, -⟩ := ok.alert_within member
  exact within_values (ok.alerts alert member) values shallow

theorem SourceOk.fits (ok : SourceOk source) (shallow : depth + 3 ≤ maxJsonDepth) :
    Fits depth maxSourceRecordBytes (sourceToJson source) := by
  obtain ⟨text, encoded, short⟩ := ok.encoded
  obtain ⟨within, rfl⟩ := canonicalJson_eq_ok.mp encoded
  refine ⟨?_, short⟩
  obtain ⟨-, alertsKey, ⟨-, few, -⟩, digestKey, digest, provenanceKey, provenance, groupKey,
    group, truncatedKey, truncated, -⟩ := within
  refine ⟨by omega, alertsKey, ⟨by omega, few, withinItems_iff.mpr ?_⟩, digestKey, digest,
    provenanceKey, ?_, groupKey, group, truncatedKey, ?_, trivial⟩
  · intro item found
    obtain ⟨alert, member, rfl⟩ := List.mem_map.mp found
    exact within_alertToJson (ok.alerts alert member) (ok.alert_within member) (by omega)
  · rw [ok.provenance] at provenance ⊢
    exact ⟨by omega, provenance.2⟩
  · cases count : source.truncatedAlerts with
    | none => trivial
    | some count =>
        rw [‹source.truncatedAlerts = _›] at truncated
        exact truncated

theorem fits_status (status : AlertStatus) : Fits depth 42 (.str status.text) := by
  cases status <;> exact fits_literal rfl

theorem SourceOk.dedupePayload_within (ok : SourceOk source) :
    Within true 1 (dedupePayload source) := by
  refine ⟨by decide, by simpa using ok.alertCount.trans (by decide), withinItems_iff.mpr ?_⟩
  intro row found
  obtain ⟨alert, member, rfl⟩ := List.mem_map.mp found
  have fingerprint : Fits 3 66 (.str alert.fingerprint) :=
    fits_fingerprint (ok.alerts alert member).fingerprint
  have status : Fits 3 42 (.str alert.status.text) := fits_status alert.status
  exact ⟨by decide, by simp [maxJsonArrayItems], fingerprint.1, status.1,
    ok.values_within member (by decide), trivial⟩

theorem SourceOk.dedupeKey (ok : SourceOk source) :
    ∃ key, dedupeKey source = .ok key ∧ isHex64 key = true :=
  ⟨_, liftJson_eq_ok.mpr ((taggedDigest_eq_ok (by decide)).mpr ⟨ok.dedupePayload_within, rfl⟩),
    isHex64_sha256Hex _⟩

theorem SourceOk.sourceDigest (ok : SourceOk source) :
    ∃ digest, sourceDigest source = .ok digest ∧ isHex64 digest = true :=
  ⟨_, liftJson_eq_ok.mpr ((taggedDigest_eq_ok (by decide)).mpr ⟨ok.within_root, rfl⟩),
    isHex64_sha256Hex _⟩

end Sources

end ManyAlerts
