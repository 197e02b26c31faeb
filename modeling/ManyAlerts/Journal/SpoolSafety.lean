import ManyAlerts.Journal.Spool

/-!
# What a store does to the directory

A store leaves the directory as it was, or with one temporary file more, or with one
entry more that holds the whole body.  Those three are the only outcomes, whatever
becomes of its calls.
-/

namespace ManyAlerts

variable {body content : Bytes} {digest temp : String} {before middle after : Directory}
  {state : SpoolState}

/-! ## Three kinds of directory -/

theorem isHex64_tempName (digest token : String) : isHex64 (tempName digest token) = false := by
  have dot : isHexChar '.' = false := by decide
  simp [isHex64, tempName, dot]

/-- One temporary file more. -/
structure Staged (before : Directory) (temp : String) (content : Bytes) (after : Directory) :
    Prop where
  holds : after.get? temp = some content
  others : ∀ name, name ≠ temp → after.get? name = before.get? name
  size : after.size = before.size + 1
  bytes : after.bytes isHex64 = before.bytes isHex64

theorem Staged.create (absent : before.contains temp = false) (other : isHex64 temp = false) :
    Staged before temp [] (before.set temp []) where
  holds := Dict.get?_set_self _ _ _
  others := fun _ different => Dict.get?_set_of_ne _ _ different
  size := Dict.size_set_of_not_contains _ absent
  bytes := Directory.bytes_set_of_not_chosen other

theorem Staged.write (staged : Staged before temp content after) (other : isHex64 temp = false)
    (written : Bytes) : Staged before temp written (after.set temp written) where
  holds := Dict.get?_set_self _ _ _
  others := fun name different =>
    (Dict.get?_set_of_ne _ _ different).trans (staged.others name different)
  size := by
    rw [Dict.size_set_of_contains _ (by simp [Dict.contains, staged.holds]), staged.size]
  bytes := (Directory.bytes_set_of_not_chosen other).trans staged.bytes

/-- One entry more. -/
structure Landed (before : Directory) (digest : String) (body : Bytes) (after : Directory) :
    Prop where
  entry : after.get? digest = some body
  others : ∀ name, isHex64 name = true → name ≠ digest → after.get? name = before.get? name
  size : after.size = before.size + 1
  bytes : after.bytes isHex64 = before.bytes isHex64 + body.length

theorem Staged.rename (staged : Staged before temp body after) (other : isHex64 temp = false)
    (hex : isHex64 digest = true) (absent : before.contains digest = false) :
    Landed before digest body (after.rename temp digest) := by
  have differs : digest ≠ temp := by
    rintro rfl
    cases other.symm.trans hex
  have missing : after.contains digest = false := by
    rw [Dict.contains, staged.others digest differs]
    exact absent
  constructor
  · rw [Directory.get?_rename staged.holds, if_pos rfl]
  · intro name hexName different
    have notTemp : name ≠ temp := by
      rintro rfl
      cases other.symm.trans hexName
    rw [Directory.get?_rename staged.holds, if_neg different, if_neg notTemp]
    exact staged.others name notTemp
  · rw [Directory.size_rename staged.holds missing, staged.size]
  · rw [Directory.bytes_rename staged.holds missing other hex, staged.bytes]

/-! ## What a store may do -/

/-- What a store of `body` under `digest` does to the directory, with its limits. -/
structure StoreEffect (body : Bytes) (digest : String) (maxBytes maxEntries : Int)
    (before after : Directory) : Prop where
  kept : ∀ name content, isHex64 name = true → before.get? name = some content →
    after.get? name = some content
  added : ∀ name content, isHex64 name = true → after.get? name = some content →
    before.get? name = some content ∨ (name = digest ∧ content = body)
  entries : (after.size : Int) ≤ max (before.size : Int) maxEntries
  bytes : (after.bytes isHex64 : Int) ≤ max (before.bytes isHex64 : Int) maxBytes

variable {maxBytes maxEntries : Int}

theorem StoreEffect.refl : StoreEffect body digest maxBytes maxEntries before before :=
  ⟨fun _ _ _ found => found, fun _ _ _ found => .inl found, le_max_left _ _, le_max_left _ _⟩

theorem Staged.effect (staged : Staged before temp content after) (other : isHex64 temp = false)
    (room : (before.size + 1 : Int) ≤ maxEntries) :
    StoreEffect body digest maxBytes maxEntries before after := by
  have same : ∀ name, isHex64 name = true → after.get? name = before.get? name := by
    intro name hex
    refine staged.others name ?_
    rintro rfl
    cases other.symm.trans hex
  constructor
  · intro name content hex found
    rw [same name hex]
    exact found
  · intro name content hex found
    rw [same name hex] at found
    exact .inl found
  · rw [staged.size]
    push_cast
    exact room.trans (le_max_right _ _)
  · rw [staged.bytes]
    exact le_max_left _ _

theorem Landed.effect (landed : Landed before digest body after)
    (absent : before.contains digest = false) (room : (before.size + 1 : Int) ≤ maxEntries)
    (space : (before.bytes isHex64 + body.length : Int) ≤ maxBytes) :
    StoreEffect body digest maxBytes maxEntries before after := by
  constructor
  · intro name content hex found
    have different : name ≠ digest := by
      rintro rfl
      simp [Dict.contains, found] at absent
    rw [landed.others name hex different]
    exact found
  · intro name content hex found
    by_cases same : name = digest
    · subst same
      exact .inr ⟨rfl, Option.some.inj (found.symm.trans landed.entry)⟩
    · rw [landed.others name hex same] at found
      exact .inl found
  · rw [landed.size]
    push_cast
    exact room.trans (le_max_right _ _)
  · rw [landed.bytes]
    push_cast
    exact space.trans (le_max_right _ _)

/-! ## A handle that counts -/

/-- What a handle that is not broken knows of its directory. -/
structure SpoolCounts (directory : Directory) (spool : JournalSpool) : Prop where
  entries : spool.entries = directory.size
  bytes : spool.bytes = directory.bytes isHex64
  verified : ∀ name ∈ spool.verified, isHex64 name = true ∧ directory.contains name = true

/-- What a store leaves: the effect on the directory, and a handle that counts unless it
is broken or gone. -/
structure StoreLeaves (body : Bytes) (digest : String) (before : SpoolState) (gone : Prop)
    (after : SpoolState) : Prop where
  effect : StoreEffect body digest before.spool.maxBytes before.spool.maxEntries
    before.directory after.directory
  counts : ¬gone → after.spool.broken = none → SpoolCounts after.directory after.spool

/-- A store that has answered: an entry that was there holds the body, if no other body
has its digest. -/
def StoreAnswers (body : Bytes) (digest : String) (before after : SpoolState) : Prop :=
  ((∀ content, before.directory.get? digest = some content → content = body) →
      after.directory.get? digest = some body) ∧
    StoreLeaves body digest before False after

/-- A store that has raised or died. -/
def StoreStops (body : Bytes) (digest : String) (before : SpoolState) (stop : SpoolStop)
    (after : SpoolState) : Prop :=
  StoreLeaves body digest before (stop = .died) after

theorem StoreStops.died
    (effect : StoreEffect body digest state.spool.maxBytes state.spool.maxEntries
      state.directory after) {spool : JournalSpool} :
    StoreStops body digest state .died ⟨after, spool⟩ :=
  ⟨effect, fun alive => absurd rfl alive⟩

/-- A broken handle counts no more. -/
theorem ensures_breakSpool {α : Type} {code : SpoolCode} {returns : α → SpoolState → Prop}
    {first : SpoolState}
    (effect : StoreEffect body digest first.spool.maxBytes first.spool.maxEntries
      first.directory state.directory) :
    Ensures (breakSpool code : SpoolM α) state returns (StoreStops body digest first) := by
  simp only [breakSpool, ensures_bind, ensures_modify, ensures_throw]
  refine ⟨effect, fun _ unbroken => ?_⟩
  cases unbroken

/-! ## The programs -/

theorem ensures_flush {fate : CallFate} {returns : Bool → SpoolState → Prop}
    {raises : SpoolStop → SpoolState → Prop} (done : returns true state)
    (failed : returns false state) (died : raises .died state) :
    Ensures (flush fate) state returns raises := by
  refine .attempt done ?_ ?_
  · rintro next (rfl | rfl) <;> exact failed
  · rintro next (rfl | rfl) <;> exact died

theorem ensures_createTemp {fate : CallFate} {returns : Bool → SpoolState → Prop}
    {raises : SpoolStop → SpoolState → Prop} (other : isHex64 temp = false)
    (created : ∀ directory, Staged state.directory temp [] directory →
      returns true { state with directory := directory })
    (failed : returns false state)
    (landed : ∀ directory, Staged state.directory temp [] directory →
      returns false { state with directory := directory })
    (died : raises .died state)
    (diedLanded : ∀ directory, Staged state.directory temp [] directory →
      raises .died { state with directory := directory }) :
    Ensures (createTemp temp fate) state returns raises := by
  simp only [createTemp, ensures_bind, ensures_get]
  split_ifs with exists_
  · cases fate with
    | done => exact failed
    | failed _ => exact failed
    | died _ => exact died
  · have staged := Staged.create (by simpa using exists_) other
    refine .attempt (created _ staged) ?_ ?_
    · rintro next (rfl | rfl)
      · exact failed
      · exact landed _ staged
    · rintro next (rfl | rfl)
      · exact died
      · exact diedLanded _ staged

/-- The temporary file holds a part of the body, and all of it if the caller is told so. -/
theorem ensures_fillTemp {fates : WriteFates} {returns : Bool → SpoolState → Prop}
    {raises : SpoolStop → SpoolState → Prop} (other : isHex64 temp = false)
    (staged : Staged before temp content state.directory)
    (filled : ∀ directory, Staged before temp body directory →
      returns true { state with directory := directory })
    (failed : ∀ directory written, Staged before temp written directory →
      returns false { state with directory := directory })
    (died : ∀ directory written, Staged before temp written directory →
      raises .died { state with directory := directory }) :
    Ensures (fillTemp temp body fates) state returns raises := by
  have written := staged.write other (body.take fates.write.count)
  simp only [fillTemp, writeTemp, ensures_bind, ensures_modify]
  cases fates.write.ends with
  | dies => exact died _ _ written
  | fails =>
      simp only [ensures_pure, Bool.false_eq_true, if_false, ensures_bind]
      exact ensures_flush (failed _ _ written) (failed _ _ written) (died _ _ written)
  | answers =>
      by_cases whole : body.length ≤ fates.write.count
      · rw [List.take_of_length_le whole] at written ⊢
        simp only [whole, decide_true, if_true, ensures_pure, ensures_bind]
        refine ensures_flush ?_ ?_ (died _ _ written)
        · exact ensures_flush (filled _ written) (failed _ _ written) (died _ _ written)
        · exact ensures_flush (failed _ _ written) (failed _ _ written) (died _ _ written)
      · simp only [whole, decide_false, Bool.false_eq_true, if_false, ensures_pure, ensures_bind]
        exact ensures_flush (failed _ _ written) (failed _ _ written) (died _ _ written)

/-- A call that was not reported as done leaves a broken handle. -/
theorem ensures_not_done {code : SpoolCode} {returns : Unit → SpoolState → Prop}
    {first : SpoolState}
    (effect : StoreEffect body digest first.spool.maxBytes first.spool.maxEntries
      first.directory state.directory) :
    Ensures (requireDone code false) state returns (StoreStops body digest first) :=
  ensures_breakSpool effect

/-- The counters after an entry has been added. -/
theorem Landed.counts {spool : JournalSpool} (landed : Landed before digest body after)
    (counts : SpoolCounts before spool) (hex : isHex64 digest = true) :
    SpoolCounts after { spool with
      bytes := spool.bytes + body.length
      entries := spool.entries + 1
      verified := spool.verified ++ [digest]
      writtenThisBoot := spool.writtenThisBoot + 1 } := by
  constructor
  · rw [landed.size, counts.entries]
  · rw [landed.bytes, counts.bytes]
  · intro name member
    rcases List.mem_append.mp member with earlier | last
    · obtain ⟨hexName, present⟩ := counts.verified name earlier
      refine ⟨hexName, ?_⟩
      by_cases same : name = digest
      · simp [Dict.contains, same, landed.entry]
      · rw [Dict.contains, landed.others name hexName same]
        exact present
    · rw [List.mem_singleton.mp last]
      exact ⟨hex, by simp [Dict.contains, landed.entry]⟩

theorem writeNew_leaves {fates : WriteFates} (counts : SpoolCounts state.directory state.spool)
    (hex : isHex64 digest = true) (absent : state.directory.contains digest = false) :
    Ensures (writeNew body digest fates) state (fun _ => StoreAnswers body digest state)
      (StoreStops body digest state) := by
  have other := isHex64_tempName digest fates.token
  simp only [writeNew, ensures_bind, ensures_get]
  split_ifs with full
  · simp only [refuseFull, ensures_bind, ensures_modify, ensures_throw]
    exact ⟨.refl, fun _ _ => ⟨counts.entries, counts.bytes, counts.verified⟩⟩
  · rw [not_or, Int.not_lt, Int.not_lt, counts.entries, counts.bytes] at full
    obtain ⟨space, room⟩ := full
    have stagedEffect : ∀ {directory written}, Staged state.directory
        (tempName digest fates.token) written directory →
        StoreEffect body digest state.spool.maxBytes state.spool.maxEntries state.directory
          directory := fun staged => staged.effect other room
    have landedEffect : ∀ {directory}, Landed state.directory digest body directory →
        StoreEffect body digest state.spool.maxBytes state.spool.maxEntries state.directory
          directory := fun landed => landed.effect absent room space
    simp only [ensures_bind]
    refine ensures_createTemp other ?_ (ensures_not_done .refl) ?_ (.died .refl) ?_
    · -- the temporary file is filled
      intro directory created
      refine ensures_fillTemp other created ?_ ?_ fun _ _ staged => .died (stagedEffect staged)
      · -- it is renamed
        intro directory filled
        have landed := filled.rename other hex absent
        refine .attempt ?_ ?_ ?_
        · -- the directory is synced
          refine ensures_flush ?_ (ensures_not_done (landedEffect landed))
            (.died (landedEffect landed))
          exact ⟨fun _ => landed.entry, landedEffect landed, fun _ _ => landed.counts counts hex⟩
        · rintro next (rfl | rfl)
          · exact ensures_not_done (stagedEffect filled)
          · exact ensures_not_done (landedEffect landed)
        · rintro next (rfl | rfl)
          · exact .died (stagedEffect filled)
          · exact .died (landedEffect landed)
      · intro directory written staged
        exact ensures_not_done (stagedEffect staged)
    · intro directory staged
      exact ensures_not_done (stagedEffect staged)
    · intro directory staged
      exact .died (stagedEffect staged)

/-- An entry that is verified is there. -/
theorem ensures_verifyEntry {fates : VerifyFates} {returns : Bool → SpoolState → Prop}
    {raises : SpoolStop → SpoolState → Prop}
    (verified : state.directory.contains digest = true → returns true state)
    (failed : returns false state) (stops : ∀ stop, raises stop state) :
    Ensures (verifyEntry digest fates) state returns raises := by
  unfold verifyEntry
  cases fates.opens with
  | dies => exact stops _
  | fails => exact failed
  | answers =>
      simp only [ensures_bind, ensures_get]
      cases found : state.directory.get? digest with
      | none => exact failed
      | some content =>
          simp only [ensures_bind, ensures_refuse]
          refine ⟨fun _ => stops _, fun _ => ?_⟩
          cases fates.closes with
          | dies => exact stops _
          | fails => exact stops _
          | answers =>
              cases accepted : fates.accepts content digest with
              | false => exact failed
              | true => exact verified (by simp [Dict.contains, found])

/-- The handle remembers an entry that is there. -/
theorem SpoolCounts.remember {directory : Directory} {spool : JournalSpool}
    (counts : SpoolCounts directory spool) (hex : isHex64 digest = true)
    (present : directory.contains digest = true) :
    SpoolCounts directory { spool with verified := spool.verified ++ [digest] } := by
  refine ⟨counts.entries, counts.bytes, fun name member => ?_⟩
  rcases List.mem_append.mp member with earlier | last
  · exact counts.verified name earlier
  · rw [List.mem_singleton.mp last]
    exact ⟨hex, present⟩

theorem verifyExisting_leaves {fates : VerifyFates} {sync : CallFate}
    (counts : SpoolCounts state.directory state.spool) (hex : isHex64 digest = true) :
    Ensures (verifyExisting digest fates sync) state (fun _ => StoreAnswers body digest state)
      (StoreStops body digest state) := by
  simp only [verifyExisting, ensures_bind, ensures_tryCatch]
  refine ensures_verifyEntry (fun present => ?_) (ensures_not_done .refl) ?_
  · refine ensures_flush ?_ (ensures_not_done .refl) (.died .refl)
    refine ⟨fun only => ?_, .refl, fun _ _ => counts.remember hex present⟩
    obtain ⟨content, found⟩ := Option.isSome_iff_exists.mp present
    rw [← only content found]
    exact found
  · intro stop
    cases stop with
    | died => exact .died .refl
    | refused code => exact ensures_breakSpool .refl

/-- A store under a handle that counts. -/
theorem storeBody_leaves {fates : StoreFates}
    (counts : state.spool.broken = none → SpoolCounts state.directory state.spool) :
    Ensures (storeBody body digest fates) state (fun _ => StoreAnswers body digest state)
      (StoreStops body digest state) := by
  simp only [storeBody, ensures_bind, ensures_refuse, ensures_get]
  refine ⟨fun _ => ⟨.refl, fun _ => counts⟩, fun named => ?_⟩
  refine ⟨fun _ => ⟨.refl, fun _ => counts⟩, fun unbroken => ?_⟩
  have counts := counts (not_not.mp unbroken)
  have hex : isHex64 digest = true := by
    rw [not_not.mp named]
    exact isHex64_sha256Hex _
  split_ifs with known
  · obtain ⟨-, present⟩ := counts.verified digest known
    obtain ⟨content, found⟩ := Option.isSome_iff_exists.mp present
    refine ⟨fun only => ?_, .refl, fun _ _ => counts⟩
    rw [← only content found]
    exact found
  · have existing : Ensures (verifyExisting digest fates.verify fates.verifySync) state
        (fun _ => StoreAnswers body digest state) (StoreStops body digest state) :=
      verifyExisting_leaves counts hex
    simp only [ensures_bind]
    cases fates.look with
    | dies => exact .died .refl
    | fails => exact existing
    | answers =>
        simp only [maybePresent, ensures_bind, ensures_get, ensures_pure]
        split_ifs with present
        · exact existing
        · exact writeNew_leaves counts hex (by simpa using present)

/-- A store on a broken handle is refused and leaves the directory and the handle. -/
theorem storeBody_broken {fates : StoreFates} (broken : state.spool.broken ≠ none) :
    Ensures (storeBody body digest fates) state (fun _ _ => False)
      (fun stop after => (∃ code, stop = .refused code) ∧ after = state) := by
  simp only [storeBody, ensures_bind, ensures_refuse, ensures_get]
  exact ⟨fun _ => ⟨⟨_, rfl⟩, trivial⟩,
    fun _ => ⟨fun _ => ⟨⟨_, rfl⟩, trivial⟩, fun unbroken => absurd broken unbroken⟩⟩

/-- Only a body whose digest is the name is stored. -/
theorem storeBody_named {fates : StoreFates} (other : digest ≠ bodyDigest body) :
    Ensures (storeBody body digest fates) state (fun _ _ => False)
      (fun _ after => after = state) := by
  simp only [storeBody, ensures_bind, ensures_refuse]
  exact ⟨fun _ => trivial, fun same => absurd other same⟩

end ManyAlerts
