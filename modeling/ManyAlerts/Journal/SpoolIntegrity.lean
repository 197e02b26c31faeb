import ManyAlerts.Journal.SpoolSafety

/-!
# The integrity of the spool

What holds after any sequence of calls, with any faults: the counters of a handle that
is not broken are those of the directory, an entry is a whole body under its digest,
and an entry that is there stays as it is.
-/

namespace ManyAlerts

variable {system later : SpoolSystem} {call : SpoolCall} {calls : List SpoolCall}

/-- The body a call offers. -/
def SpoolCall.body? : SpoolCall → Option Bytes
  | .store body _ _ => some body
  | _ => none

/-- The bodies a sequence of calls offers. -/
def offeredBodies (calls : List SpoolCall) : List Bytes := calls.filterMap SpoolCall.body?

/-- No two bodies of the sequence have the same digest. -/
def DistinctDigests (calls : List SpoolCall) : Prop :=
  ∀ left ∈ offeredBodies calls, ∀ right ∈ offeredBodies calls,
    bodyDigest left = bodyDigest right → left = right

/-- What one more call does, in a system that a sequence of calls has reached. -/
structure SpoolIntegrity (bodies : List Bytes) (system : SpoolSystem) (call : SpoolCall) : Prop
    where
  /-- The counters of a handle that is not broken. -/
  counted : ∀ spool, system.handle = some spool → spool.broken = none →
    spool.entries = system.directory.size ∧ spool.bytes = system.directory.bytes isHex64
  /-- A store keeps to the limits. -/
  limited : ∀ spool body digest fates, system.handle = some spool →
    call = .store body digest fates →
      ((system.call call).2.directory.size : Int) ≤
        max (system.directory.size : Int) spool.maxEntries ∧
      ((system.call call).2.directory.bytes isHex64 : Int) ≤
        max (system.directory.bytes isHex64 : Int) spool.maxBytes
  /-- A store that answers has the body under its digest, then and ever after. -/
  stored : ∀ body digest fates answer, call = .store body digest fates →
    (system.call call).1 = some (.ok answer) →
      ∀ more later, SpoolRun (system.call call).2 more later →
        later.directory.get? digest = some body
  /-- An entry is a whole body that was offered. -/
  whole : ∀ name content, isHex64 name = true →
    (system.call call).2.directory.get? name = some content →
      content ∈ bodies ∧ bodyDigest content = name
  /-- The call, and all that follow, leave every entry as it is. -/
  kept : ∀ name content, isHex64 name = true → system.directory.get? name = some content →
    ∀ more later, SpoolRun system (call :: more) later → later.directory.get? name = some content
  /-- A store on a broken handle is refused. -/
  refused : ∀ spool body digest fates, system.handle = some spool → spool.broken ≠ none →
    call = .store body digest fates → ∃ code, (system.call call).1 = some (.error (.refused code))
  /-- A broken handle stays broken: no number of stores on it changes a file or the handle. -/
  latched : ∀ spool, system.handle = some spool → spool.broken ≠ none →
    ∀ stores later, (∀ store ∈ stores, store.body? ≠ none) → SpoolRun system stores later →
      later.directory = system.directory ∧ later.handle = some spool

/-! ## One call -/

/-- What holds between calls. -/
structure SpoolSafe (bodies : List Bytes) (system : SpoolSystem) : Prop where
  sound : ∀ name content, isHex64 name = true → system.directory.get? name = some content →
    content ∈ bodies ∧ bodyDigest content = name
  counts : ∀ spool, system.handle = some spool → spool.broken = none →
    SpoolCounts system.directory spool

/-- How a store ends, in the terms of the system. -/
structure StoreEnds (system : SpoolSystem) (spool : JournalSpool) (body : Bytes) (digest : String)
    (answer : Option (Except SpoolStop Stored)) (next : SpoolSystem) : Prop where
  effect : StoreEffect body digest spool.maxBytes spool.maxEntries system.directory next.directory
  counts : ∀ kept, next.handle = some kept → kept.broken = none → SpoolCounts next.directory kept
  answered : ∀ stored, answer = some (.ok stored) →
    (∀ content, system.directory.get? digest = some content → content = body) →
      next.directory.get? digest = some body
  named : digest ≠ bodyDigest body →
    next.directory = system.directory ∧ ∀ stored, answer ≠ some (.ok stored)

theorem SpoolSystem.call_store {spool : JournalSpool} {body : Bytes} {digest : String}
    {fates : StoreFates} (handle : system.handle = some spool)
    (counts : spool.broken = none → SpoolCounts system.directory spool) :
    StoreEnds system spool body digest (system.call (.store body digest fates)).1
      (system.call (.store body digest fates)).2 := by
  let first : SpoolState := ⟨system.directory, spool⟩
  let ending : Except SpoolStop Stored → SpoolState → Prop := fun result after =>
    match result with
    | .ok _ => StoreAnswers body digest first after
    | .error stop => StoreStops body digest first stop after
  have ensured : Ensures (storeBody body digest fates) first (fun answer => ending (.ok answer))
      fun stop => ending (.error stop) := storeBody_leaves counts
  let unnamed : Except SpoolStop Stored → SpoolState → Prop := fun result after =>
    digest ≠ bodyDigest body → (∀ stored, result ≠ .ok stored) ∧ after = first
  have refused : Ensures (storeBody body digest fates) first (fun answer => unnamed (.ok answer))
      fun stop => unnamed (.error stop) := by
    by_cases named : digest = bodyDigest body
    · exact ensured.mono (fun _ _ _ other => absurd named other) fun _ _ _ other =>
        absurd named other
    · exact (storeBody_named named).mono (fun _ _ impossible => impossible.elim)
        fun _ _ same _ => ⟨by rintro stored ⟨⟩, same⟩
  obtain ⟨result, after, ended⟩ :
      ∃ result after, outcome (storeBody body digest fates) first = (result, after) :=
    ⟨_, _, rfl⟩
  have left := ensured.of_outcome ended
  have other := refused.of_outcome ended
  simp only [SpoolSystem.call, handle, show outcome (storeBody body digest fates)
    ⟨system.directory, spool⟩ = (result, after) from ended]
  cases result with
  | ok stored =>
      refine ⟨left.2.effect, ?_, fun _ _ only => left.1 only, ?_⟩
      · rintro kept ⟨⟩ unbroken
        exact left.2.counts id unbroken
      · exact fun named => absurd rfl ((other named).1 stored)
  | error stop =>
      cases stop with
      | died =>
          refine ⟨left.effect, by rintro kept ⟨⟩, by rintro stored ⟨⟩, fun named => ⟨?_, ?_⟩⟩
          · rw [(other named).2]
          · rintro stored ⟨⟩
      | refused code =>
          refine ⟨left.effect, ?_, by rintro stored ⟨⟩, fun named => ⟨?_, ?_⟩⟩
          · rintro kept ⟨⟩ unbroken
            exact left.counts (by rintro ⟨⟩) unbroken
          · rw [(other named).2]
          · rintro stored ⟨⟩

/-- A store on a broken handle is refused and changes nothing. -/
theorem SpoolSystem.call_broken {spool : JournalSpool} {body : Bytes} {digest : String}
    {fates : StoreFates} (handle : system.handle = some spool) (broken : spool.broken ≠ none) :
    ∃ code, system.call (.store body digest fates) = (some (.error (.refused code)), system) := by
  let first : SpoolState := ⟨system.directory, spool⟩
  have latched : first.spool.broken ≠ none := broken
  let ending : Except SpoolStop Stored → SpoolState → Prop := fun result after =>
    (∃ code, result = .error (.refused code)) ∧ after = first
  have ensured : Ensures (storeBody body digest fates) first (fun answer => ending (.ok answer))
      fun stop => ending (.error stop) :=
    (storeBody_broken latched).mono (fun _ _ impossible => impossible.elim)
      fun _ _ ends => ⟨ends.1.imp fun _ same => congrArg Except.error same, ends.2⟩
  obtain ⟨result, after, ended⟩ :
      ∃ result after, outcome (storeBody body digest fates) first = (result, after) :=
    ⟨_, _, rfl⟩
  obtain ⟨⟨code, rfl⟩, rfl⟩ := ensured.of_outcome ended
  refine ⟨code, ?_⟩
  simp only [SpoolSystem.call, handle, show outcome (storeBody body digest fates)
    ⟨system.directory, spool⟩ = (.error (.refused code), first) from ended]
  cases system
  subst handle
  rfl

/-- Nothing changes through any number of stores on a broken handle. -/
theorem SpoolRun.broken {spool : JournalSpool} (run : SpoolRun system calls later)
    (handle : system.handle = some spool) (broken : spool.broken ≠ none)
    (stores : ∀ store ∈ calls, store.body? ≠ none) : later = system := by
  induction run with
  | start => rfl
  | @turn earlier reached next call run last induction =>
      obtain rfl := induction fun store member => stores store (List.mem_append_left _ member)
      cases call with
      | store body digest fates =>
          obtain ⟨code, called⟩ := SpoolSystem.call_broken handle broken
          rw [← last, called]
      | _ => exact absurd rfl (stores _ (List.mem_append_right _ (List.mem_singleton_self _)))

theorem SpoolSafe.store {bodies : List Bytes} {spool : JournalSpool}
    (safe : SpoolSafe bodies system) (handle : system.handle = some spool) (body : Bytes)
    (digest : String) (fates : StoreFates) :
    StoreEnds system spool body digest (system.call (.store body digest fates)).1
      (system.call (.store body digest fates)).2 :=
  SpoolSystem.call_store handle (safe.counts spool handle)

theorem SpoolSafe.afterCall {bodies : List Bytes} (safe : SpoolSafe bodies system)
    (offers : ∀ body, call.body? = some body → body ∈ bodies) :
    SpoolSafe bodies (system.call call).2 := by
  cases call with
  | crash => exact ⟨safe.sound, by rintro spool ⟨⟩⟩
  | «open» maxBytes maxEntries scan =>
      cases scan with
      | answers =>
          refine ⟨safe.sound, ?_⟩
          rintro spool ⟨⟩ -
          exact ⟨rfl, rfl, by rintro name ⟨⟩⟩
      | fails => exact ⟨safe.sound, by rintro spool ⟨⟩⟩
      | dies => exact ⟨safe.sound, by rintro spool ⟨⟩⟩
  | store body digest fates =>
      cases handle : system.handle with
      | none =>
          have same : (system.call (.store body digest fates)).2 = system := by
            simp [SpoolSystem.call, handle]
          rw [same]
          exact safe
      | some spool =>
          have ends := safe.store handle body digest fates
          refine ⟨fun name content hex found => ?_, ends.counts⟩
          rcases ends.effect.added name content hex found with earlier | ⟨rfl, rfl⟩
          · exact safe.sound name content hex earlier
          · by_cases named : name = bodyDigest content
            · exact ⟨offers content rfl, named.symm⟩
            · rw [(ends.named named).1] at found
              exact safe.sound name content hex found

/-- Every entry stays through one call. -/
theorem SpoolSafe.kept {bodies : List Bytes} {name : String} {content : Bytes}
    (safe : SpoolSafe bodies system) (hex : isHex64 name = true)
    (found : system.directory.get? name = some content) :
    (system.call call).2.directory.get? name = some content := by
  cases call with
  | crash => exact found
  | «open» maxBytes maxEntries scan => cases scan <;> exact found
  | store body digest fates =>
      cases handle : system.handle with
      | none =>
          have same : (system.call (.store body digest fates)).2 = system := by
            simp [SpoolSystem.call, handle]
          rw [same]
          exact found
      | some spool =>
          have ends := safe.store handle body digest fates
          exact ends.effect.kept name content hex found

/-! ## Any sequence of calls -/

theorem SpoolSafe.mono {bodies more : List Bytes} (safe : SpoolSafe bodies system)
    (included : ∀ body ∈ bodies, body ∈ more) : SpoolSafe more system :=
  ⟨fun name content hex found =>
    (safe.sound name content hex found).imp_left (included content), safe.counts⟩

theorem offeredBodies_append (calls more : List SpoolCall) :
    offeredBodies (calls ++ more) = offeredBodies calls ++ offeredBodies more :=
  List.filterMap_append

theorem SpoolSafe.offer {bodies : List Bytes} (safe : SpoolSafe bodies system) :
    SpoolSafe (bodies ++ offeredBodies [call]) (system.call call).2 := by
  have wider : SpoolSafe (bodies ++ offeredBodies [call]) system :=
    safe.mono fun body member => List.mem_append_left _ member
  refine wider.afterCall fun body offered => List.mem_append_right _ ?_
  simp [offeredBodies, offered]

theorem SpoolRun.safe (run : SpoolRun freshSpool calls system) :
    SpoolSafe (offeredBodies calls) system := by
  induction run with
  | start => exact ⟨by rintro name content hex ⟨⟩, by rintro spool ⟨⟩⟩
  | turn run last induction =>
      rw [offeredBodies_append, ← last]
      exact induction.offer

/-- Every entry stays through any sequence of calls. -/
theorem SpoolSafe.kept_run {bodies : List Bytes} {name : String} {content : Bytes}
    (safe : SpoolSafe bodies system) (hex : isHex64 name = true)
    (found : system.directory.get? name = some content) (run : SpoolRun system calls later) :
    later.directory.get? name = some content := by
  have both : (∃ bodies, SpoolSafe bodies later) ∧ later.directory.get? name = some content := by
    induction run with
    | start => exact ⟨⟨bodies, safe⟩, found⟩
    | turn run last induction =>
        obtain ⟨⟨reached, reachedSafe⟩, stays⟩ := induction
        rw [← last]
        exact ⟨⟨_, reachedSafe.offer⟩, reachedSafe.kept hex stays⟩
  exact both.2

/-- The spool keeps its integrity: after any sequence of calls with any faults, for any
further call and all that follow. -/
theorem spool_integrity (calls : List SpoolCall) (call : SpoolCall) (system : SpoolSystem)
    (distinct : DistinctDigests (calls ++ [call])) (run : SpoolRun freshSpool calls system) :
    SpoolIntegrity (offeredBodies (calls ++ [call])) system call := by
  have safe := run.safe
  have nextSafe : SpoolSafe (offeredBodies calls ++ offeredBodies [call]) (system.call call).2 :=
    safe.offer
  exact {
    counted := fun spool handle unbroken =>
      ⟨(safe.counts spool handle unbroken).entries, (safe.counts spool handle unbroken).bytes⟩
    limited := by
      rintro spool body digest fates handle rfl
      have ends := safe.store handle body digest fates
      exact ⟨ends.effect.entries, ends.effect.bytes⟩
    stored := by
      rintro body digest fates answer rfl answered more later following
      cases handle : system.handle with
      | none => simp [SpoolSystem.call, handle] at answered
      | some spool =>
          have ends := safe.store handle body digest fates
          have named : digest = bodyDigest body := by
            by_contra other
            exact (ends.named other).2 answer answered
          have hex : isHex64 digest = true := by
            rw [named]
            exact isHex64_sha256Hex _
          refine nextSafe.kept_run hex (ends.answered answer answered fun content found => ?_)
            following
          obtain ⟨offered, hashed⟩ := safe.sound digest content hex found
          refine distinct content ?_ body ?_ (hashed.trans named)
          · rw [offeredBodies_append]
            exact List.mem_append_left _ offered
          · rw [offeredBodies_append]
            exact List.mem_append_right _ (by simp [offeredBodies, SpoolCall.body?])
    whole := by
      rw [offeredBodies_append]
      exact nextSafe.sound
    kept := fun name content hex found more later following => safe.kept_run hex found following
    refused := by
      rintro spool body digest fates handle broken rfl
      obtain ⟨code, called⟩ := SpoolSystem.call_broken handle broken
      exact ⟨code, congrArg Prod.fst called⟩
    latched := by
      intro spool handle broken stores later onlyStores following
      obtain rfl := SpoolRun.broken following handle broken onlyStores
      exact ⟨rfl, handle⟩ }

/-- Every call of a store is done. -/
def faultless : StoreFates where
  look := .answers
  verify := ⟨.answers, some maxIngressBodyBytes, false, .answers⟩
  verifySync := .done
  write := ⟨"0123456789abcdef", .done, ⟨maxIngressBodyBytes, .answers⟩, .done, .done, .done, .done⟩

def sampleStore (body : Bytes) (fates : StoreFates) : SpoolCall :=
  .store body (bodyDigest body) fates

/-- A store that is done, and one whose sync of the new file fails. -/
def sampleSpoolCalls : List SpoolCall :=
  [.open 1024 8 .answers, sampleStore [123, 125] faultless,
    sampleStore [91, 93] { faultless with write := { faultless.write with sync := .failed true } }]

def sampleSpool : SpoolSystem :=
  sampleSpoolCalls.foldl (fun system call => (system.call call).2) freshSpool

/-- The first body is there, the second is left behind in a temporary, and the handle is
broken when the third is offered. -/
theorem spool_integrity_sample :
    sampleSpool.handle.map JournalSpool.broken = some (some .spoolWriteFailed) ∧
      sampleSpool.directory.size = 2 ∧
      sampleSpool.directory.get? (bodyDigest [123, 125]) = some [123, 125] ∧
      SpoolIntegrity [[123, 125], [91, 93], [34, 34]] sampleSpool
        (sampleStore [34, 34] faultless) := by
  have evaluated : sampleSpool.handle.map JournalSpool.broken = some (some .spoolWriteFailed) ∧
      sampleSpool.directory.size = 2 ∧
      sampleSpool.directory.get? (bodyDigest [123, 125]) = some [123, 125] := by
    decide +kernel
  refine ⟨evaluated.1, evaluated.2.1, evaluated.2.2, ?_⟩
  refine spool_integrity sampleSpoolCalls (sampleStore [34, 34] faultless) sampleSpool ?_
    (((Run.start.turn rfl).turn rfl).turn rfl)
  have digests : ([[123, 125], [91, 93], [34, 34]].map bodyDigest).Nodup := by decide +kernel
  exact fun left leftOffered right rightOffered =>
    List.inj_on_of_nodup_map digests leftOffered rightOffered

end ManyAlerts
