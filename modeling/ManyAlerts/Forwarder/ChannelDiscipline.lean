import ManyAlerts.Forwarder.ChannelSafety

/-!
# The discipline of the upstream channel

What holds in every system an interleaving reaches, and of everything that can
follow it.  A call of `abort` or `close` that has returned leaves a mark that is
never taken back: from then on no thread enters I/O, and the write loop stops when
it next looks.
-/

namespace ManyAlerts

variable {wire : Bytes} {thread : Nat} {turns : List Nat}
  {system next later : ChannelSystem}

/-- Some call of `abort` or `close` has returned. -/
def HaltReturned (system : ChannelSystem) : Prop :=
  ∃ thread, system.place thread = .returned .abort ∨ system.place thread = .returned .close

/-- A receive between its first block and the call that reads the socket, or in it. -/
def ChannelPlace.receiving : ChannelPlace → Bool
  | .receivePreparing | .receiveReading => true
  | _ => false

/-- The discipline of a channel that sends `wire`, in one system and in those that
follow it. -/
structure ChannelDiscipline (wire : Bytes) (system : ChannelSystem) : Prop where
  /-- At most one send call ever hands bytes to the socket. -/
  oneSender : ∀ left ∈ system.shared.sends, ∀ right ∈ system.shared.sends, left = right
  accepted : system.shared.accepted <+: wire
  /-- Unless a send is between a count and its bookkeeping. -/
  booked : (∀ thread sent, system.place thread ≠ .sendCounted sent) →
    system.shared.channel.bytesAccepted = system.shared.accepted.length
  oneReader : system.shared.reads.length ≤ 1
  whole : system.shared.reads ≠ [] → system.shared.accepted = wire
  /-- A call that starts after an abort or close has returned never reads. -/
  noLateReader : HaltReturned system → ∀ turns later, ChannelRun wire system turns later →
    ∀ reader, system.place reader = .idle → reader ∉ later.shared.reads
  oneLateSend : HaltReturned system → ∀ turns later, ChannelRun wire system turns later →
    later.shared.sends.length ≤ system.shared.sends.length + 1
  closedOnce : system.shared.closes.length ≤ 1
  /-- Whoever closes the socket does it while no send or receive is active. -/
  closedQuietly : ∀ thread later, Turn (ChannelMove wire) system thread later →
    later.shared.closes ≠ system.shared.closes →
    ∀ other, (system.place other).active = false ∧ (later.place other).active = false
  /-- Once a close has returned and nothing is active, the socket has been closed unless a
  call is about to close the socket it took. -/
  closed : (∃ thread, system.place thread = .returned .close) →
    (∀ thread, (system.place thread).active = false) →
    (system.shared.closes.length = 1 ↔ ∀ thread, (system.place thread).isClosing = false)
  /-- Once the send that started I/O has finished. -/
  forgotten : system.shared.channel.phase ≠ .opened → system.shared.channel.phase ≠ .sending →
    system.shared.channel.hasCredential = false
  /-- Once the block of an abort has run, unless a close waited for I/O before it. -/
  revoked : ∀ thread next, system.place thread = .entering .abort →
    system.shared.channel.closePending = false → Turn (ChannelMove wire) system thread next →
    ∀ turns later, ChannelRun wire next turns later → later.shared.channel.hasCredential = false
  /-- A credential that outlives an abort is that of a send a close waits for. -/
  waiting : (∃ thread, system.place thread = .returned .abort) →
    system.shared.channel.hasCredential = true →
    system.shared.channel.closePending = true ∧ system.shared.channel.phase = .sending

/-! ## After an abort or close has returned -/

/-- The channel is marked. -/
def UpstreamChannel.halted (channel : UpstreamChannel) : Prop :=
  channel.closed = true ∨ channel.aborted = true

/-- A safe system whose channel is marked. -/
structure Halted (wire : Bytes) (system : ChannelSystem) : Prop where
  safe : system.Safe (WorldSafe wire) (PlaceSafe wire)
  halted : system.shared.channel.halted

theorem HaltReturned.halted (returned : HaltReturned system)
    (safe : system.Safe (WorldSafe wire) (PlaceSafe wire)) : Halted wire system := by
  refine ⟨safe, ?_⟩
  obtain ⟨thread, abort | close⟩ := returned
  · have stands := (safe.place thread).stands
    rw [abort] at stands
    exact stands
  · have stands := (safe.place thread).stands
    rw [close] at stands
    rcases stands with closed | pending
    · exact .inl closed
    · exact .inr (safe.shared.pending pending).1

theorem ChannelMove.halted {world after : ChannelWorld} {place reached : ChannelPlace}
    (safe : WorldSafe wire world) (own : PlaceSafe wire thread world place)
    (halted : world.channel.halted)
    (move : ChannelMove wire thread world place after reached) : after.channel.halted := by
  -- any other thread sees the marks kept
  have spares : Spares (thread + 1) world after := move.spares (Nat.succ_ne_self thread) safe own
  exact halted.imp spares.closed spares.aborted

theorem Halted.turn (halted : Halted wire system)
    (turn : Turn (ChannelMove wire) system thread next) : Halted wire next := by
  refine ⟨ChannelMove.preserved.turn halted.safe turn, ?_⟩
  cases turn with
  | moved move => exact move.halted halted.safe.shared (halted.safe.place thread) halted.halted

/-- No send enters a marked channel. -/
theorem UpstreamChannel.halted.not_enterSend {channel entered : UpstreamChannel}
    (halted : channel.halted) : channel.enterSend ≠ some entered := by
  intro enters
  obtain ⟨closed, aborted, -⟩ := enterSend_eq_some.mp enters
  rcases halted with halted | halted
  · cases closed.symm.trans halted
  · cases aborted.symm.trans halted

theorem UpstreamChannel.halted.not_enterReceive {channel entered : UpstreamChannel}
    (halted : channel.halted) : channel.enterReceive ≠ some entered := by
  intro enters
  obtain ⟨closed, aborted, -⟩ := enterReceive_eq_some.mp enters
  rcases halted with halted | halted
  · cases closed.symm.trans halted
  · cases aborted.symm.trans halted

/-- The write loop of a marked channel stops. -/
theorem Halted.stopAsked (halted : Halted wire system)
    (active : (system.place thread).active = true) :
    system.shared.channel.stopAsked = true := by
  have holder := (halted.safe.place thread).holds.mp active
  have unclosed := halted.safe.shared.unclosed_of_holder holder
  rcases halted.halted with closed | aborted
  · cases unclosed.symm.trans closed
  · simp [UpstreamChannel.stopAsked, aborted]

/-! ### Readers -/

/-- A thread that has not read the socket, and will not. -/
structure NeverReads (wire : Bytes) (reader : Nat) (system : ChannelSystem) :
    Prop where
  halted : Halted wire system
  outside : (system.place reader).receiving = false
  unread : reader ∉ system.shared.reads

theorem ChannelMove.not_receiving {world after : ChannelWorld} {place reached : ChannelPlace}
    (halted : world.channel.halted) (outside : place.receiving = false)
    (move : ChannelMove wire thread world place after reached) : reached.receiving = false := by
  cases move with
  | receiveEnters enters => exact absurd enters halted.not_enterReceive
  | receiveReads => cases outside
  | finishes | closes =>
      unfold ChannelPlace.left
      split_ifs <;> rfl
  | _ => rfl

theorem ChannelMove.reads_of_not_receiving {world after : ChannelWorld}
    {place reached : ChannelPlace} {reader : Nat} (outside : reader = thread →
      place.receiving = false) (unread : reader ∉ world.reads)
    (move : ChannelMove wire thread world place after reached) : reader ∉ after.reads := by
  cases move with
  | receiveReads =>
      intro read
      rcases List.mem_append.mp read with earlier | last
      · exact unread earlier
      · cases outside (List.mem_singleton.mp last)
  | _ => exact unread

theorem NeverReads.turn {reader : Nat} (never : NeverReads wire reader system)
    (turn : Turn (ChannelMove wire) system thread next) : NeverReads wire reader next := by
  refine ⟨never.halted.turn turn, ?_, ?_⟩
  · cases turn with
    | moved move =>
        by_cases same : reader = thread
        · subst same
          simpa using move.not_receiving never.halted.halted never.outside
        · simpa [Function.update_of_ne same] using never.outside
  · cases turn with
    | moved move =>
        refine move.reads_of_not_receiving ?_ never.unread
        rintro rfl
        exact never.outside

theorem ChannelPlace.left_ne_idle {call : ChannelCall} {takes : Bool} :
    ChannelPlace.left call takes ≠ .idle := by
  cases takes <;> exact ChannelPlace.noConfusion

/-- No move returns to the place before the call. -/
theorem ChannelMove.reached_ne_idle {world after : ChannelWorld} {place reached : ChannelPlace}
    (move : ChannelMove wire thread world place after reached) : reached ≠ .idle := by
  cases move with
  | finishes => exact ChannelPlace.left_ne_idle
  | closes => exact ChannelPlace.left_ne_idle
  | _ => exact ChannelPlace.noConfusion

/-- A thread is idle until its call, so it has read nothing. -/
theorem ChannelRun.unread_of_idle {reader : Nat}
    (run : ChannelRun wire freshChannel turns system) (idle : system.place reader = .idle) :
    reader ∉ system.shared.reads := by
  induction run with
  | start => simp [freshChannel]
  | @turn _ _ _ thread run last induction =>
      cases last with
      | moved move =>
          by_cases same : reader = thread
          · subst same
            exact absurd (by simpa using idle) move.reached_ne_idle
          · refine move.reads_of_not_receiving (fun other => absurd other same) (induction ?_)
            simpa [Function.update_of_ne same] using idle

theorem Halted.no_late_reader {reader : Nat} (halted : Halted wire system)
    (idle : system.place reader = .idle) (unread : reader ∉ system.shared.reads)
    (run : ChannelRun wire system turns later) : reader ∉ later.shared.reads := by
  have never : NeverReads wire reader later := by
    induction run with
    | start => exact ⟨halted, by rw [idle]; rfl, unread⟩
    | turn run last induction => exact induction.turn last
  exact never.unread

/-! ### Sends -/

/-- The send that has looked for a stop and not yet called the socket. -/
def ChannelPlace.ready : ChannelPlace → Nat
  | .sendReady _ => 1
  | _ => 0

/-- The sends that have begun, and the one that can no longer be stopped. -/
def sendsBegun (system : ChannelSystem) : Nat :=
  system.shared.sends.length +
    match system.shared.holder with
    | some thread => (system.place thread).ready
    | none => 0

theorem ready_le (place : ChannelPlace) : place.ready ≤ 1 := by
  cases place <;> simp [ChannelPlace.ready]

theorem sendsBegun_le : sendsBegun system ≤ system.shared.sends.length + 1 := by
  unfold sendsBegun
  cases system.shared.holder with
  | none => simp
  | some thread => simpa using ready_le _

theorem le_sendsBegun : system.shared.sends.length ≤ sendsBegun system := Nat.le_add_right _ _

section Move

variable {world after : ChannelWorld} {place reached : ChannelPlace}

/-- Only a send calls the socket, and the write loop of a marked channel does not get
ready again. -/
theorem ChannelMove.sends_ready (stops : place.active = true → world.channel.stopAsked = true)
    (move : ChannelMove wire thread world place after reached) :
    after.sends.length + reached.ready ≤ world.sends.length + place.ready := by
  cases move with
  | sendContinues more go => cases go.symm.trans (stops rfl)
  | sendCalls => simp [ChannelPlace.ready]
  | finishes | closes =>
      simp only [ChannelPlace.left, ChannelWorld.leave]
      split_ifs <;> exact le_rfl
  | _ => exact Nat.add_le_add_left (Nat.zero_le _) _

theorem ChannelMove.sends_of_inactive (inactive : place.active = false)
    (move : ChannelMove wire thread world place after reached) : after.sends = world.sends := by
  cases move with
  | sendCalls => cases inactive
  | _ => rfl

/-- No thread takes up I/O on a marked channel. -/
theorem ChannelMove.holder_of_halted (halted : world.channel.halted)
    (move : ChannelMove wire thread world place after reached) :
    after.holder = world.holder ∨ after.holder = none := by
  cases move with
  | sendEnters enters => exact absurd enters halted.not_enterSend
  | receiveEnters enters => exact absurd enters halted.not_enterReceive
  | finishes => exact .inr rfl
  | _ => exact .inl rfl

end Move

theorem Halted.sendsBegun_turn (halted : Halted wire system)
    (turn : Turn (ChannelMove wire) system thread next) :
    sendsBegun next ≤ sendsBegun system := by
  have own := halted.safe.place thread
  cases turn with
  | @moved after reached move =>
      have held := move.holder_of_halted halted.halted
      by_cases active : (system.place thread).active = true
      · have holder := own.holds.mp active
        have fewer := move.sends_ready fun _ => halted.stopAsked active
        have began : sendsBegun system =
            system.shared.sends.length + (system.place thread).ready := by
          simp [sendsBegun, holder]
        rcases held with same | free
        · simpa [began, sendsBegun, same, holder] using fewer
        · rw [began]
          simpa [sendsBegun, free] using (Nat.le_add_right _ _).trans fewer
      · have inactive : (system.place thread).active = false := by simpa using active
        have unsent := move.sends_of_inactive inactive
        have different : system.shared.holder ≠ some thread := fun holder =>
          active (own.holds.mpr holder)
        rcases held with same | free
        · simp only [sendsBegun, same, unsent]
          cases holder : system.shared.holder with
          | none => exact le_rfl
          | some other =>
              have differs : other ≠ thread := by
                rintro rfl
                exact different holder
              simp [Function.update_of_ne differs]
        · simp [sendsBegun, free, unsent]

/-- After a mark at most one further call of the socket begins. -/
theorem Halted.one_late_send (halted : Halted wire system)
    (run : ChannelRun wire system turns later) :
    later.shared.sends.length ≤ system.shared.sends.length + 1 :=
  calc later.shared.sends.length
    _ ≤ sendsBegun later := le_sendsBegun
    _ ≤ sendsBegun system := run.nonincreasing halted fun _ _ _ marked turn =>
        ⟨marked.turn turn, marked.sendsBegun_turn turn⟩
    _ ≤ system.shared.sends.length + 1 := sendsBegun_le

/-! ## The socket -/

theorem WorldSafe.closed_once {world : ChannelWorld} (safe : WorldSafe wire world) :
    world.closes.length ≤ 1 := by
  cases closed : world.channel.closed with
  | false => simp [(safe.unclosed closed).2]
  | true =>
      rcases safe.closed closed with ⟨-, none⟩ | ⟨-, one⟩
      · simp [none]
      · exact one.le

theorem Threads.Safe.inactive (safe : system.Safe (WorldSafe wire) (PlaceSafe wire))
    (free : system.shared.holder = none) (thread : Nat) :
    (system.place thread).active = false := by
  by_contra active
  have holder := (safe.place thread).holds.mp (by simpa using active)
  cases free.symm.trans holder

theorem Threads.Safe.closed_quietly (safe : system.Safe (WorldSafe wire) (PlaceSafe wire))
    (turn : Turn (ChannelMove wire) system thread next)
    (closes : next.shared.closes ≠ system.shared.closes) :
    system.shared.holder = none ∧ next.shared.holder = none := by
  have own := safe.place thread
  cases turn with
  | moved move =>
      generalize system.place thread = place at move own
      cases move with
      | closesSocket =>
          have closed := safe.shared.closed_of_closer (own.closes.mp rfl)
          exact ⟨safe.shared.idle closed, safe.shared.idle closed⟩
      | _ => exact absurd rfl closes

theorem Threads.Safe.closed (safe : system.Safe (WorldSafe wire) (PlaceSafe wire))
    (returned : system.place thread = .returned .close)
    (inactive : ∀ thread, (system.place thread).active = false) :
    system.shared.closes.length = 1 ↔ ∀ thread, (system.place thread).isClosing = false := by
  have stands := (safe.place thread).stands
  rw [returned] at stands
  have closed : system.shared.channel.closed = true := by
    rcases stands with closed | pending
    · exact closed
    · obtain ⟨-, held | closed⟩ := safe.shared.pending pending
      · obtain ⟨holder, holds⟩ := Option.isSome_iff_exists.mp held
        have active := (safe.place holder).holds.mpr holds
        cases active.symm.trans (inactive holder)
      · exact closed
  rcases safe.shared.closed closed with ⟨taken, open'⟩ | ⟨free, one⟩
  · obtain ⟨closer, takes⟩ := Option.isSome_iff_exists.mp taken
    have closing := (safe.place closer).closes.mpr takes
    constructor
    · intro one
      rw [open'] at one
      cases one
    · intro settled
      cases closing.symm.trans (settled closer)
  · refine ⟨fun _ thread => ?_, fun _ => one⟩
    by_contra closing
    have takes := (safe.place thread).closes.mp (by simpa using closing)
    cases free.symm.trans takes

/-! ## The bookkeeping -/

theorem Threads.Safe.booked (safe : system.Safe (WorldSafe wire) (PlaceSafe wire))
    (uncounted : ∀ thread sent, system.place thread ≠ .sendCounted sent) :
    system.shared.channel.bytesAccepted = system.shared.accepted.length := by
  by_cases sending : system.shared.channel.phase = .sending
  · -- the sender knows the count
    have held : system.shared.holder.isSome := by
      rw [← safe.shared.busy, sending]
      rfl
    obtain ⟨sender, holds⟩ := Option.isSome_iff_exists.mp held
    have active := (safe.place sender).holds.mpr holds
    have stands := (safe.place sender).stands
    have other := uncounted sender
    generalize system.place sender = place at active stands other
    cases place with
    | sendPreparing => rw [stands.2.1, stands.1.length]
    | sendLooping | sendReady | sendCalling | sendBooked => rw [stands.2, stands.1.length]
    | sendCounted sent => exact absurd rfl (other sent)
    | receivePreparing => cases sending.symm.trans stands.1
    | receiveReading => cases sending.symm.trans stands
    | finishing call succeeded =>
        rcases stands with ⟨-, -, booked, -⟩ | ⟨-, receiving⟩
        · exact booked
        · cases sending.symm.trans receiving
    | _ => cases active
  · exact safe.shared.booked sending

/-! ## The credential -/

/-- No move brings a credential back. -/
theorem ChannelMove.forgets {world after : ChannelWorld} {place reached : ChannelPlace}
    (move : ChannelMove wire thread world place after reached)
    (forgotten : world.channel.hasCredential = false) : after.channel.hasCredential = false := by
  cases move with
  | sendEnters enters =>
      obtain ⟨-, -, -, -, held, -⟩ := enterSend_eq_some.mp enters
      cases forgotten.symm.trans held
  | receiveEnters enters =>
      obtain ⟨-, -, -, -, rfl⟩ := enterReceive_eq_some.mp enters
      exact forgotten
  | finishes =>
      simp only [ChannelWorld.leave, UpstreamChannel.finishIo]
      split_ifs <;> rfl
  | aborts =>
      unfold UpstreamChannel.abort
      split_ifs
      · exact forgotten
      · rfl
  | closes =>
      simp only [ChannelWorld.leave, UpstreamChannel.close]
      split_ifs
      · exact forgotten
      · exact forgotten
      · rfl
  | _ => exact forgotten

theorem ChannelRun.forgets (run : ChannelRun wire system turns later)
    (forgotten : system.shared.channel.hasCredential = false) :
    later.shared.channel.hasCredential = false := by
  induction run with
  | start => exact forgotten
  | turn run last induction =>
      cases last with
      | moved move => exact move.forgets induction

/-- The block of an abort discards the credential, unless a close waits for I/O. -/
theorem WorldSafe.aborts {world : ChannelWorld} (safe : WorldSafe wire world)
    (unasked : world.channel.closePending = false) :
    world.channel.abort.hasCredential = false := by
  unfold UpstreamChannel.abort
  split_ifs with halted
  · rcases halted with closed | aborted
    · exact safe.discarded closed
    · rcases safe.revoked aborted with forgotten | ⟨pending, -⟩
      · exact forgotten
      · cases unasked.symm.trans pending
  · rfl

theorem Threads.Safe.revoked (safe : system.Safe (WorldSafe wire) (PlaceSafe wire))
    (entering : system.place thread = .entering .abort)
    (unasked : system.shared.channel.closePending = false)
    (turn : Turn (ChannelMove wire) system thread next) :
    next.shared.channel.hasCredential = false := by
  cases turn with
  | moved move =>
      generalize system.place thread = place at move entering
      subst entering
      cases move with
      | aborts => exact safe.shared.aborts unasked

theorem Threads.Safe.waiting (safe : system.Safe (WorldSafe wire) (PlaceSafe wire))
    (returned : system.place thread = .returned .abort)
    (kept : system.shared.channel.hasCredential = true) :
    system.shared.channel.closePending = true ∧ system.shared.channel.phase = .sending := by
  have stands := (safe.place thread).stands
  rw [returned] at stands
  have unspent : ¬(system.shared.channel.phase ≠ .opened ∧
      system.shared.channel.phase ≠ .sending) := by
    rintro ⟨started, ended⟩
    cases kept.symm.trans (safe.shared.spent started ended)
  rcases stands with closed | aborted
  · cases kept.symm.trans (safe.shared.discarded closed)
  · rcases safe.shared.revoked aborted with forgotten | ⟨pending, held⟩
    · cases kept.symm.trans forgotten
    · refine ⟨pending, ?_⟩
      have busy := safe.shared.busy.trans held
      generalize system.shared.channel.phase = phase at busy unspent
      cases phase with
      | sending => rfl
      | receiving => exact absurd ⟨nofun, nofun⟩ unspent
      | _ => cases busy

/-- Every interleaving of any calls on one channel keeps to the discipline, whatever
the socket and the clock do. -/
theorem upstream_channel_discipline (parts : RequestParts) (authorization : Bytes)
    (turns : List Nat) (system : ChannelSystem)
    (run : ChannelRun (parts.wire authorization) freshChannel turns system) :
    ChannelDiscipline (parts.wire authorization) system := by
  have safe := run.safe
  exact {
    oneSender := safe.shared.senders
    accepted := safe.shared.accepted
    booked := safe.booked
    oneReader := safe.shared.reads
    whole := safe.shared.read
    noLateReader := fun returned _ _ following _ idle =>
      (returned.halted safe).no_late_reader idle (run.unread_of_idle idle) following
    oneLateSend := fun returned _ _ following => (returned.halted safe).one_late_send following
    closedOnce := safe.shared.closed_once
    closedQuietly := by
      intro thread later turn closes other
      obtain ⟨before, after⟩ := safe.closed_quietly turn closes
      exact ⟨safe.inactive before other, (ChannelMove.preserved.turn safe turn).inactive
        after other⟩
    closed := fun ⟨_, returned⟩ inactive => safe.closed returned inactive
    forgotten := safe.shared.spent
    revoked := fun _ _ entering unasked turn _ _ following =>
      ChannelRun.forgets following (safe.revoked entering unasked turn)
    waiting := fun ⟨_, returned⟩ kept => safe.waiting returned kept }

/-! ## One exchange, and two that are cut short -/

/-- A request with its credential, as it is written to the socket. -/
def sampleParts : RequestParts :=
  ⟨ascii "GET / HTTP/1.1\r\n", ascii "Accept: application/json\r\n\r\n"⟩

def sampleWire : Bytes := sampleParts.wire (ascii "Basic Zm9v")

theorem length_sampleWire : sampleWire.length = 71 := by decide +kernel

theorem writeChunk_sampleWire (sent : Nat) : writeChunk sampleWire sent = sampleWire.drop sent := by
  apply List.take_of_length_le
  rw [List.length_drop, length_sampleWire, maxWriteChunkBytes]
  omega

/-- The wire is sent in two pieces, the response is read, and then the channel is aborted
and closed. -/
theorem upstream_channel_discipline_sample : ∃ turns system,
    ChannelRun sampleWire freshChannel turns system ∧ system.shared.sends = [0, 0] ∧
      system.shared.accepted = sampleWire ∧ system.shared.reads = [1] ∧
      system.place 2 = .returned .abort ∧ system.place 3 = .returned .close ∧
      system.shared.closes = [3] ∧ ChannelDiscipline sampleWire system := by
  have first : 30 ≤ (writeChunk sampleWire 0).length := by
    rw [writeChunk_sampleWire, List.length_drop, length_sampleWire]
    decide
  have rest : 41 ≤ (writeChunk sampleWire 30).length := by
    rw [writeChunk_sampleWire, List.length_drop, length_sampleWire]
  have more (sent : Nat) (short : sent < 71) : sent < sampleWire.length := by
    rwa [length_sampleWire]
  have fresh : ChannelRun sampleWire freshChannel [] freshChannel := .start
  have sending := ((fresh.moved 0 (.calls .send)).moved 0 (.sendEnters rfl)).moved 0 .sendPrepared
  have firstReady := sending.moved 0 (.sendContinues (more 0 (by decide)) rfl)
  have firstSent := (firstReady.moved 0 .sendCalls).moved 0 (.sendCounts (by decide) first)
  have firstBooked := (firstSent.moved 0 .sendBooks).moved 0 .sendRepeats
  have restReady := firstBooked.moved 0 (.sendContinues (more 30 (by decide)) rfl)
  have restSent := (restReady.moved 0 .sendCalls).moved 0 (.sendCounts (by decide) rest)
  have restBooked := (restSent.moved 0 .sendBooks).moved 0 .sendRepeats
  have sent := (restBooked.moved 0 (.sendCompletes length_sampleWire.le)).moved 0 .finishes
  have reading := ((sent.moved 1 (.calls .receive)).moved 1 (.receiveEnters rfl)).moved 1
    .receiveReads
  have received := (reading.moved 1 (.receiveEnds true)).moved 1 .finishes
  have aborted := (received.moved 2 (.calls .abort)).moved 2 .aborts
  have closed := ((aborted.moved 3 (.calls .close)).moved 3 .closes).moved 3 .closesSocket
  refine ⟨_, _, closed, rfl, ?_, rfl, rfl, rfl, rfl,
    upstream_channel_discipline sampleParts (ascii "Basic Zm9v") _ _ closed⟩
  have whole : ([] ++ (writeChunk sampleWire 0).take 30) ++ (writeChunk sampleWire 30).take 41 =
      sampleWire := by
    have ends : (sampleWire.drop 30).take 41 = sampleWire.drop 30 :=
      List.take_of_length_le (by rw [List.length_drop, length_sampleWire])
    rw [List.nil_append, writeChunk_sampleWire, writeChunk_sampleWire, ends, List.drop_zero,
      List.take_append_drop]
  exact whole

/-- A close that has returned while nothing is active does not mean that the socket has been
closed, and an abort that has returned does not mean that the credential is gone: the second
of two closes can return before the first has closed the socket it took, and an abort after a
close that waits for a send returns at once. -/
theorem close_and_abort_return_early :
    (∃ turns system, ChannelRun sampleWire freshChannel turns system ∧
      system.place 1 = .returned .close ∧ (∀ thread, (system.place thread).active = false) ∧
      system.shared.closes = []) ∧
    ∃ turns system, ChannelRun sampleWire freshChannel turns system ∧
      system.place 1 = .returned .close ∧ system.place 2 = .returned .abort ∧
      (system.place 0).active = true ∧ system.shared.channel.hasCredential = true := by
  have fresh : ChannelRun sampleWire freshChannel [] freshChannel := .start
  constructor
  · have firstCalls := fresh.moved 0 (.calls .close)
    have firstTakes := firstCalls.moved 0 .closes
    have secondCalls := firstTakes.moved 1 (.calls .close)
    have secondReturns := secondCalls.moved 1 .closes
    refine ⟨_, _, secondReturns, rfl, ?_, rfl⟩
    intro thread
    match thread with
    | 0 => rfl
    | 1 => rfl
    | _ + 2 => rfl
  · have sendCalls := fresh.moved 0 (.calls .send)
    have sendEnters := sendCalls.moved 0 (.sendEnters rfl)
    have closeCalls := sendEnters.moved 1 (.calls .close)
    have closeWaits := closeCalls.moved 1 .closes
    have abortCalls := closeWaits.moved 2 (.calls .abort)
    have abortReturns := abortCalls.moved 2 .aborts
    exact ⟨_, _, abortReturns, rfl, rfl, rfl, rfl⟩

end ManyAlerts
