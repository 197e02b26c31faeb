import ManyAlerts.Journal.Record

/-!
# A body determines its record

Canonical JSON is injective up to the order of members, and a record's keys are
fixed by its type.  Records of one type with equal bodies therefore carry the
same fields.  Replay compares only bodies for six record types; this is why
nothing about them is left unchecked.
-/

namespace ManyAlerts

variable {one other : Record}

theorem Record.validated (record : Record) :
    validateEnvelope record.toDraft record.position record.stamp = .ok () :=
  (sealBody_eq_ok.mp record.isSealed).1

theorem Record.encoded (record : Record) :
    canonicalJson true (envelope record.toDraft record.position record.stamp) =
      .ok record.body :=
  (sealBody_eq_ok.mp record.isSealed).2.1

/-- Equal bodies have the same identities and data up to the order of members. -/
theorem Record.sortKeys_eq_of_body (same : one.body = other.body) :
    (Json.obj one.payload.ids).sortKeys = (Json.obj other.payload.ids).sortKeys ∧
      (Json.obj one.payload.data).sortKeys = (Json.obj other.payload.data).sortKeys := by
  have envelopes := sortKeys_eq_of_canonicalJson (same ▸ one.encoded) other.encoded
  unfold envelope at envelopes
  have fields := Json.sortKeys_obj_injective envelopes rfl
  simp only [List.map_cons, List.cons.injEq] at fields
  exact ⟨fields.2.2.2.2.2.2.2.2.2.2.2.2.1, fields.2.2.2.2.2.2.2.2.2.2.2.2.2.1⟩

/-- A record is its draft, position and stamp. -/
theorem Record.ext_of_parts (draft : one.toDraft = other.toDraft)
    (position : one.position = other.position) (stamp : one.stamp = other.stamp) :
    one = other := by
  have sealedOne := one.isSealed
  have sealedOther := other.isSealed
  obtain ⟨draftOne, positionOne, stampOne, bodyOne, _⟩ := one
  obtain ⟨draftOther, positionOther, stampOther, bodyOther, _⟩ := other
  obtain rfl : draftOne = draftOther := draft
  obtain rfl : positionOne = positionOther := position
  obtain rfl : stampOne = stampOther := stamp
  obtain rfl : bodyOne = bodyOther := Except.ok.inj (sealedOne.symm.trans sealedOther)
  rfl

/-- A record is its payload and its body. -/
theorem Record.eq_of_body (same : one.body = other.body)
    (payload : one.payload = other.payload) : one = other := by
  have envelopes := sortKeys_eq_of_canonicalJson (same ▸ one.encoded) other.encoded
  unfold envelope at envelopes
  have fields := Json.sortKeys_obj_injective envelopes rfl
  simp only [List.map_cons, List.map_nil, Json.sortKeys_str, Json.nat_sortKeys,
    List.cons.injEq, Json.str.injEq, Json.nat_inj, and_true] at fields
  obtain ⟨-, generation, eventId, eventSeq, commitSeq, commitIndex, commitSize, -, -, bootId,
    wallTime, monoUs, -, -, prevDigest⟩ := fields
  exact Record.ext_of_parts (Draft.ext eventId payload)
    (Position.ext generation eventSeq commitSeq commitIndex commitSize prevDigest)
    (Stamp.ext bootId wallTime monoUs)

theorem RunHoldReason.text_injective {left right : RunHoldReason}
    (same : left.text = right.text) : left = right := by
  revert same
  cases left <;> cases right <;> decide

theorem Service.text_injective {left right : Service} (same : left.text = right.text) :
    left = right := by
  revert same
  cases left <;> cases right <;> decide

/-! ## The record types compared by body -/

theorem reservationIds_eq {left right : ReservationIds}
    (same : (Json.obj (reservationIdsMembers left)).sortKeys =
      (Json.obj (reservationIdsMembers right)).sortKeys) : left = right := by
  have fields := Json.sortKeys_obj_injective same rfl
  simp only [reservationIdsMembers, List.map_cons, List.map_nil, Json.sortKeys_str,
    List.cons.injEq, Json.str.injEq, and_true] at fields
  cases left
  cases right
  simp_all

theorem runIds_eq {left right : RunIds}
    (same : (Json.obj (runIdsMembers left)).sortKeys =
      (Json.obj (runIdsMembers right)).sortKeys) : left = right := by
  have fields := Json.sortKeys_obj_injective same rfl
  simp only [runIdsMembers, reservationIdsMembers, List.map_cons, List.map_nil,
    Json.sortKeys_str, List.cons.injEq, Json.str.injEq, and_true] at fields
  obtain ⟨leftUuid, leftIds⟩ := left
  obtain ⟨rightUuid, rightIds⟩ := right
  cases leftIds
  cases rightIds
  simp_all

theorem runHoldData_eq_of_body {left right : RunHoldData}
    (first : one.payload = .runHold left) (second : other.payload = .runHold right)
    (same : one.body = other.body) : left = right := by
  obtain ⟨ids, data⟩ := Record.sortKeys_eq_of_body same
  rw [first, second] at ids data
  have idFields := Json.sortKeys_obj_injective ids rfl
  have fields := Json.sortKeys_obj_injective data rfl
  simp only [Payload.ids, Payload.data, Payload.core, Payload.ownDigest, Option.toList,
    List.map_nil, List.append_nil, List.map_cons, Json.sortKeys_str, Json.nat_sortKeys,
    List.cons.injEq, Json.str.injEq, Json.nat_inj, and_true, true_and] at idFields fields
  have reason := RunHoldReason.text_injective fields.1
  cases left
  cases right
  simp_all

theorem reservationIntentData_eq_of_body {left right : ReservationIntentData}
    (first : one.payload = .reservationIntent left)
    (second : other.payload = .reservationIntent right)
    (same : one.body = other.body) : left = right := by
  obtain ⟨ids, data⟩ := Record.sortKeys_eq_of_body same
  rw [first, second] at ids data
  have sameIds := reservationIds_eq ids
  have fields := Json.sortKeys_obj_injective data rfl
  simp only [Payload.data, Payload.core, Payload.ownDigest, Option.toList, List.map_nil,
    List.append_nil, List.map_cons, Json.sortKeys_str, Json.nat_sortKeys, List.cons.injEq,
    Json.str.injEq, Json.nat_inj, and_true, true_and] at fields
  cases left
  cases right
  simp_all

theorem initialReservationIntentData_eq_of_body {left right : InitialReservationIntentData}
    (first : one.payload = .initialReservationIntent left)
    (second : other.payload = .initialReservationIntent right)
    (same : one.body = other.body) : left = right := by
  obtain ⟨ids, data⟩ := Record.sortKeys_eq_of_body same
  rw [first, second] at ids data
  have sameIds := reservationIds_eq ids
  have fields := Json.sortKeys_obj_injective data rfl
  simp only [Payload.data, Payload.core, Payload.ownDigest, Option.toList, List.map_nil,
    List.append_nil, List.map_cons, Json.sortKeys_str, Json.nat_sortKeys, List.cons.injEq,
    Json.str.injEq, Json.nat_inj, and_true, true_and] at fields
  cases left
  cases right
  simp_all

/-- The confirmations of both schema versions have the same members. -/
theorem confirmationData_eq {rule : String} {left right : ReservationConfirmationData}
    (ids : (Json.obj [("intent_id", .str left.intentId)]).sortKeys =
      (Json.obj [("intent_id", .str right.intentId)]).sortKeys)
    (data : (Json.obj (("rule", .str rule) :: confirmationMembers left)).sortKeys =
      (Json.obj (("rule", .str rule) :: confirmationMembers right)).sortKeys) :
    left = right := by
  have idFields := Json.sortKeys_obj_injective ids rfl
  have fields := Json.sortKeys_obj_injective data rfl
  simp only [confirmationMembers, List.map_nil, List.map_cons, Json.sortKeys_str,
    Json.nat_sortKeys, List.cons.injEq, Json.str.injEq, Json.nat_inj, and_true, true_and]
    at idFields fields
  cases left
  cases right
  simp_all

theorem reservationConfirmationData_eq_of_body {left right : ReservationConfirmationData}
    (first : one.payload = .reservationConfirmation left)
    (second : other.payload = .reservationConfirmation right)
    (same : one.body = other.body) : left = right := by
  obtain ⟨ids, data⟩ := Record.sortKeys_eq_of_body same
  rw [first, second] at ids data
  exact confirmationData_eq ids
    (by simpa only [Payload.data, Payload.core, Payload.ownDigest, Option.toList, List.map_nil,
      List.append_nil] using data)

theorem initialReservationConfirmationData_eq_of_body
    {left right : ReservationConfirmationData}
    (first : one.payload = .initialReservationConfirmation left)
    (second : other.payload = .initialReservationConfirmation right)
    (same : one.body = other.body) : left = right := by
  obtain ⟨ids, data⟩ := Record.sortKeys_eq_of_body same
  rw [first, second] at ids data
  exact confirmationData_eq ids
    (by simpa only [Payload.data, Payload.core, Payload.ownDigest, Option.toList, List.map_nil,
      List.append_nil] using data)

theorem serviceClaimJson_injective {left right : ServiceClaim}
    (same : (serviceClaimJson left).sortKeys = (serviceClaimJson right).sortKeys) :
    left = right := by
  have fields := Json.sortKeys_obj_injective same rfl
  simp only [List.map_nil, List.map_cons, Json.sortKeys_str, List.cons.injEq, Json.str.injEq,
    and_true] at fields
  have service := Service.text_injective fields.1
  cases left
  cases right
  simp_all

theorem runIntentData_eq_of_body {left right : RunIntentData} {leftDigest rightDigest : String}
    (first : one.payload = .runIntent left leftDigest)
    (second : other.payload = .runIntent right rightDigest)
    (same : one.body = other.body) : left = right ∧ leftDigest = rightDigest := by
  obtain ⟨ids, data⟩ := Record.sortKeys_eq_of_body same
  rw [first, second] at ids data
  have sameIds := runIds_eq ids
  have fields := Json.sortKeys_obj_injective data rfl
  simp only [Payload.data, Payload.core, Payload.ownDigest, Option.toList, basisMembers,
    List.map_nil, List.map_cons, List.cons_append, List.nil_append, Json.sortKeys_str,
    Json.nat_sortKeys, Json.sortKeys_arr, List.map_map, List.cons.injEq, Json.str.injEq,
    Json.arr.injEq, Json.nat_inj, and_true, true_and] at fields
  obtain ⟨commitSeq, recordDigest, initialSeq, intentDigest, confirmationId, confirmationSeq,
    ledgerUuid, generation, ledgerEvent, sequence, eventDigest, ledgerHead, memberCount,
    memberDigest, services, digest⟩ := fields
  have headFields := Json.sortKeys_obj_injective ledgerHead rfl
  simp only [List.map_nil, List.map_cons, Json.sortKeys_str, Json.nat_sortKeys,
    List.cons.injEq, Json.str.injEq, Json.nat_inj, and_true] at headFields
  have sameServices : left.services = right.services :=
    List.map_injective_iff.mpr (fun _ _ => serviceClaimJson_injective) services
  obtain ⟨_, leftBasis, _⟩ := left
  obtain ⟨_, rightBasis, _⟩ := right
  cases leftBasis
  cases rightBasis
  simp_all

end ManyAlerts
