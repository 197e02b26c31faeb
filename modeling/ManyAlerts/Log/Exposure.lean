import ManyAlerts.Log.Formatter

/-!
# Credentials in the log

Every rendered line goes through `redact`, and the fixed diagnostics name nothing an
event holds.  The diagnostic for an unknown `type` does, and it is not redacted: a
credential that announces itself reaches the log exactly by way of such a `type`.
-/

namespace ManyAlerts

variable {φ : Type} {interpreter : Interpreter φ} {table : CharTable} {event : LogValue φ}
  {text : LogText}

/-- An event whose `type` is unknown and shows a credential in its `repr`. -/
def Exposes (interpreter : Interpreter φ) (event : LogValue φ) : Prop :=
  ∃ members text, event = .object members ∧
    eventKind (LogMembers.get members "type") = none ∧
    pyRepr interpreter (LogMembers.get members "type") = some text ∧
    Announces interpreter.toCharTable text

/-! ## Diagnostics -/

/-- What stands before a credential shows none and ends with a blank. -/
theorem announces_unrecognised : Announces table (unrecognised ++ text) ↔ Announces table text := by
  rw [announces_iff, announces_iff]
  constructor
  · intro occurs
    have inert : Regex.Inert (credentialTrace table) unrecognised :=
      inert_of_unmarked (by decide) (by decide)
    obtain ⟨left, right, isText, follows, shows⟩ := inert.occurs_append occurs
    refine ⟨left, right, isText, ?_, shows⟩
    cases left with
    | nil => rfl
    | cons first left => simpa [List.getLast?_cons] using follows
  · intro ⟨left, right, isText, follows, shows⟩
    refine ⟨unrecognised ++ left, right, by rw [isText, List.append_assoc], ?_, shows⟩
    cases left with
    | nil => rfl
    | cons first left => simpa [List.getLast?_cons, List.getLast?_append] using follows

theorem not_announces_unrendered (kind : EventKind) :
    ¬Announces table (unrenderedLine interpreter kind) := by
  apply not_announces_of_unmarked
  cases kind <;> rfl

/-! ## Events -/

/-- A line that is produced for an event and shows a credential names an unknown `type`. -/
theorem formatEvent_exposes_iff (interpreter : Interpreter φ) (event : LogValue φ) :
    (∃ lines, formatEvent interpreter event = some lines ∧
      ∃ line ∈ lines, Announces interpreter.toCharTable line) ↔ Exposes interpreter event := by
  constructor
  · rintro ⟨lines, formatted, line, member, announces⟩
    cases event with
    | object members =>
        simp only [formatEvent] at formatted
        split at formatted
        case h_1 unknown =>
          obtain ⟨text, isRepr, isLines⟩ := Option.bind_eq_some_iff.mp formatted
          obtain rfl := Option.some.inj isLines
          obtain rfl := List.mem_singleton.mp member
          exact ⟨members, text, rfl, unknown, isRepr, announces_unrecognised.mp announces⟩
        case h_2 kind known =>
          split at formatted
          · obtain rfl := Option.some.inj formatted
            obtain rfl := List.mem_singleton.mp member
            exact absurd announces (not_announces_unrendered kind)
          · obtain rfl := Option.some.inj formatted
            obtain ⟨rendered, -, rfl⟩ := List.mem_map.mp member
            exact absurd announces (not_announces_redact _ rendered)
    | null | bool _ | number _ | text _ | array _ =>
        obtain rfl := Option.some.inj formatted
        obtain rfl := List.mem_singleton.mp member
        exact absurd announces (not_announces_of_unmarked rfl)
  · rintro ⟨members, text, rfl, unknown, isRepr, announces⟩
    refine ⟨[unrecognised ++ text], ?_, _, List.mem_singleton_self _,
      announces_unrecognised.mpr announces⟩
    simp [formatEvent, unknown, isRepr]

theorem formatStream_exposes_iff (interpreter : Interpreter φ) (chunks : List LogChunk) :
    (∃ line ∈ formatStream interpreter chunks, Announces interpreter.toCharTable line) ↔
      ∃ event ∈ streamEvents interpreter chunks, Exposes interpreter event := by
  induction chunks with
  | nil => simp [formatStream, streamEvents]
  | cons chunk chunks induction =>
      rw [formatStream, streamEvents]
      split_ifs with empty
      · exact induction
      · cases loaded : interpreter.loads (chunkText interpreter chunk) with
        | raised => simp
        | invalid =>
            have silent : ¬Announces interpreter.toCharTable notJsonLine :=
              not_announces_of_unmarked rfl
            simp only [List.exists_mem_cons_iff, induction, silent, false_or]
        | value event =>
            simp only [List.exists_mem_cons_iff, ← formatEvent_exposes_iff interpreter event]
            cases formatted : formatEvent interpreter event with
            | none => simp
            | some lines =>
                simp only [Option.isSome_some, if_true, List.mem_append, or_and_right,
                  exists_or, induction, Option.some.injEq, exists_eq_left']

/-- A credential that announces itself reaches the log exactly by way of an event whose
`type` is unknown and shows it. -/
theorem credentials_logged_iff (interpreter : Interpreter φ) :
    (∀ event, (∀ lines, formatEvent interpreter event = some lines →
      ∀ line ∈ lines, ¬Announces interpreter.toCharTable line) ↔ ¬Exposes interpreter event) ∧
    ∀ chunks, (∀ line ∈ formatStream interpreter chunks,
      ¬Announces interpreter.toCharTable line) ↔
        ∀ event ∈ streamEvents interpreter chunks, ¬Exposes interpreter event := by
  constructor
  · intro event
    rw [← formatEvent_exposes_iff interpreter event]
    simp only [not_exists, not_and]
  · intro chunks
    have exposes := not_congr (formatStream_exposes_iff interpreter chunks)
    simpa only [not_exists, not_and] using exposes

/-- An event of the type `ATATTabcdefgh`. -/
def exposingEvent (φ : Type) : LogValue φ :=
  .object [(pointsOf "type", .text (pointsOf "ATATTabcdefgh"))]

/-- The diagnostic for it shows the credential, whatever the interpreter. -/
theorem formatEvent_exposingEvent {φ : Type} (interpreter : Interpreter φ) :
    ∃ line, formatEvent interpreter (exposingEvent φ) = some [line] ∧
      Announces interpreter.toCharTable line := by
  refine ⟨unrecognised ++ pointsOf "'ATATTabcdefgh'", ?_, announces_unrecognised.mpr ?_⟩
  · have isRepr : pyRepr interpreter (.text (pointsOf "ATATTabcdefgh")) =
        some (pointsOf "'ATATTabcdefgh'") := by
      rw [pyRepr, interpreter.takesTexts]
      rfl
    have isType : LogMembers.get [(pointsOf "type", .text (pointsOf "ATATTabcdefgh"))] "type" =
        (.text (pointsOf "ATATTabcdefgh") : LogValue φ) := rfl
    have unknown : eventKind (.text (pointsOf "ATATTabcdefgh") : LogValue φ) = none := rfl
    rw [exposingEvent, formatEvent, isType, unknown, isRepr]
    rfl
  · exact ⟨pointsOf "'", pointsOf "ATATTabcdefgh'", rfl, rfl⟩

/-- An interpreter of texts without floats, in which no text is JSON. -/
def plainInterpreter : Interpreter Empty where
  alnum point := point = 0x17f
  printable _ := false
  longS := rfl
  floatText := Empty.elim
  floatJson := Empty.elim
  isZero := Empty.elim
  sameNumber _ _ := false
  seconds _ := none
  dollars _ := none
  refuses _ := false
  takesTexts _ := rfl
  decode bytes := bytes.map UInt8.toNat
  loads _ := .invalid

theorem unknown_type_exposes_credential :
    ∃ line, formatEvent plainInterpreter (exposingEvent Empty) = some [line] ∧
      Announces plainInterpreter.toCharTable line :=
  formatEvent_exposingEvent plainInterpreter

end ManyAlerts
