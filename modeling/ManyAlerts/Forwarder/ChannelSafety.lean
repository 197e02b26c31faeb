import ManyAlerts.Forwarder.Channel

/-!
# What the upstream channel guarantees

One invariant holds of every interleaving.  The thread that has entered I/O is the
only one that changes the phase, the accepted bytes and the count, so its place
says what they are; the socket belongs to the channel until one thread takes it to
close it.
-/

namespace ManyAlerts

variable {wire : Bytes} {thread other : Nat} {world after : ChannelWorld}
  {place reached : ChannelPlace}

/-- Between the first block of a send or receive and `_finish_io`. -/
def ChannelPlace.active : ChannelPlace → Bool
  | .sendPreparing | .sendLooping _ | .sendReady _ | .sendCalling _ | .sendCounted _
  | .sendBooked _ | .receivePreparing | .receiveReading | .finishing _ _ => true
  | _ => false

def ChannelPlace.isClosing : ChannelPlace → Bool
  | .closing _ => true
  | _ => false

/-- The phases in which a thread is between its first block and `_finish_io`. -/
def ChannelPhase.busy : ChannelPhase → Bool
  | .sending | .receiving => true
  | _ => false

/-- What holds of the fields and the socket. -/
structure WorldSafe (wire : Bytes) (world : ChannelWorld) : Prop where
  ioActive : world.channel.ioActive = world.holder.isSome
  busy : world.channel.phase.busy = world.holder.isSome
  socket : world.channel.hasSocket = !world.channel.closed
  idle : world.channel.closed = true → world.holder = none
  unclosed : world.channel.closed = false → world.closer = none ∧ world.closes = []
  closed : world.channel.closed = true →
    (world.closer.isSome ∧ world.closes = []) ∨ (world.closer = none ∧ world.closes.length = 1)
  pending : world.channel.closePending = true →
    world.channel.aborted = true ∧ (world.holder.isSome ∨ world.channel.closed = true)
  accepted : world.accepted <+: wire
  booked : world.channel.phase ≠ .sending → world.channel.bytesAccepted = world.accepted.length
  opened : world.channel.phase = .opened → world.accepted = [] ∧ world.sends = []
  unread : world.channel.phase = .opened ∨ world.channel.phase = .sending ∨
    world.channel.phase = .sent → world.reads = []
  whole : world.channel.phase = .sent ∨ world.channel.phase = .receiving → world.accepted = wire
  reads : world.reads.length ≤ 1
  read : world.reads ≠ [] → world.accepted = wire
  senders : ∀ left ∈ world.sends, ∀ right ∈ world.sends, left = right
  spent : world.channel.phase ≠ .opened → world.channel.phase ≠ .sending →
    world.channel.hasCredential = false
  discarded : world.channel.closed = true → world.channel.hasCredential = false
  revoked : world.channel.aborted = true → world.channel.hasCredential = false ∨
    (world.channel.closePending = true ∧ world.holder.isSome)

/-- A send that knows `sent` bytes to be accepted. -/
structure Sent (wire : Bytes) (thread : Nat) (world : ChannelWorld) (sent : Nat) : Prop where
  phase : world.channel.phase = .sending
  accepted : world.accepted = wire.take sent
  within : sent ≤ wire.length
  alone : ∀ sender ∈ world.sends, sender = thread

/-- What the place of a thread says of the fields. -/
def ChannelPlace.Stands (wire : Bytes) (thread : Nat) (world : ChannelWorld) :
    ChannelPlace → Prop
  | .sendPreparing => Sent wire thread world 0 ∧ world.channel.bytesAccepted = 0 ∧
      world.sends = []
  | .sendLooping sent | .sendReady sent | .sendCalling sent | .sendBooked sent =>
      Sent wire thread world sent ∧ world.channel.bytesAccepted = sent
  | .sendCounted sent => Sent wire thread world sent
  | .receivePreparing => world.channel.phase = .receiving ∧ world.reads = []
  | .receiveReading => world.channel.phase = .receiving
  | .finishing call succeeded =>
      (call = .send ∧ world.channel.phase = .sending ∧
        world.channel.bytesAccepted = world.accepted.length ∧
        (succeeded = true → world.accepted = wire)) ∨
      (call = .receive ∧ world.channel.phase = .receiving)
  | .returned .close => world.channel.closed = true ∨ world.channel.closePending = true
  | .returned .abort => world.channel.closed = true ∨ world.channel.aborted = true
  | _ => True

structure PlaceSafe (wire : Bytes) (thread : Nat) (world : ChannelWorld) (place : ChannelPlace) :
    Prop where
  holds : place.active = true ↔ world.holder = some thread
  closes : place.isClosing = true ↔ world.closer = some thread
  stands : place.Stands wire thread world

theorem Sent.length {sent : Nat} (known : Sent wire thread world sent) :
    world.accepted.length = sent := by
  rw [known.accepted, List.length_take, Nat.min_eq_left known.within]

/-- A send that gives up has booked what it knows. -/
theorem Sent.fails {sent : Nat} (known : Sent wire thread world sent)
    (count : world.channel.bytesAccepted = sent) :
    (ChannelPlace.finishing .send false).Stands wire thread world := by
  refine .inl ⟨rfl, known.phase, ?_, fun other => by cases other⟩
  rw [count, known.length]

/-! ## The blocks -/

theorem enterSend_eq_some {channel entered : UpstreamChannel} :
    channel.enterSend = some entered ↔ channel.closed = false ∧ channel.aborted = false ∧
      channel.phase = .opened ∧ channel.hasSocket = true ∧ channel.hasCredential = true ∧
      entered = { channel with phase := .sending, ioActive := true } := by
  unfold UpstreamChannel.enterSend
  split_ifs with blocked
  · simp only [false_iff]
    rintro ⟨closed, aborted, phase, socket, credential, -⟩
    simp [closed, aborted, phase, socket, credential] at blocked
  · simp only [not_or, Bool.not_eq_true, not_not, ne_eq] at blocked
    simp [blocked, eq_comm]

theorem enterReceive_eq_some {channel entered : UpstreamChannel} :
    channel.enterReceive = some entered ↔ channel.closed = false ∧ channel.aborted = false ∧
      channel.phase = .sent ∧ channel.hasSocket = true ∧
      entered = { channel with phase := .receiving, ioActive := true } := by
  unfold UpstreamChannel.enterReceive
  split_ifs with blocked
  · simp only [false_iff]
    rintro ⟨closed, aborted, phase, socket, -⟩
    simp [closed, aborted, phase, socket] at blocked
  · simp only [not_or, Bool.not_eq_true, not_not, ne_eq] at blocked
    simp [blocked, eq_comm]

/-- A chunk taken after the accepted bytes continues them. -/
theorem take_append_chunk {sent count : Nat} (positive : 0 < count)
    (within : count ≤ (writeChunk wire sent).length) :
    wire.take sent ++ (writeChunk wire sent).take count = wire.take (sent + count) ∧
      sent + count ≤ wire.length := by
  unfold writeChunk at within ⊢
  rw [List.length_take, List.length_drop] at within
  rw [List.take_take, Nat.min_eq_left (by omega), ← List.take_add]
  exact ⟨rfl, by omega⟩

/-! ## Every move is safe -/

theorem WorldSafe.free (safe : WorldSafe wire world)
    (idle : world.channel.phase.busy = false) : world.holder = none := by
  have free := safe.busy
  rw [idle] at free
  simpa using free.symm

theorem WorldSafe.closed_of_closer (safe : WorldSafe wire world)
    (taken : world.closer = some thread) : world.channel.closed = true := by
  by_contra closed
  have unclosed := safe.unclosed (by simpa using closed)
  cases unclosed.1.symm.trans taken

theorem WorldSafe.not_pending (safe : WorldSafe wire world)
    (aborted : world.channel.aborted = false) : world.channel.closePending = false := by
  by_contra pending
  have asked := safe.pending (by simpa using pending)
  rw [aborted] at asked
  cases asked.1

/-- The thread that enters a send. -/
theorem WorldSafe.enterSend {channel : UpstreamChannel} (safe : WorldSafe wire world)
    (enters : world.channel.enterSend = some channel) :
    WorldSafe wire { world with channel := channel, holder := some thread } := by
  obtain ⟨closed, aborted, phase, socket, credential, rfl⟩ := enterSend_eq_some.mp enters
  have unpending := safe.not_pending aborted
  exact { safe with
    ioActive := rfl
    busy := rfl
    idle := by simp [closed]
    pending := by simp [unpending]
    booked := fun other => absurd rfl other
    opened := fun other => by cases other
    unread := fun _ => safe.unread (.inl phase)
    whole := fun other => by rcases other with other | other <;> cases other
    spent := fun _ other => absurd rfl other
    revoked := by simp [aborted] }

/-- The thread that enters a receive. -/
theorem WorldSafe.enterReceive {channel : UpstreamChannel} (safe : WorldSafe wire world)
    (enters : world.channel.enterReceive = some channel) :
    WorldSafe wire { world with channel := channel, holder := some thread } := by
  obtain ⟨closed, aborted, phase, socket, rfl⟩ := enterReceive_eq_some.mp enters
  have unpending := safe.not_pending aborted
  exact { safe with
    ioActive := rfl
    busy := rfl
    idle := by simp [closed]
    pending := by simp [unpending]
    booked := fun _ => safe.booked (by rw [phase]; decide)
    opened := fun other => by cases other
    unread := fun other => by rcases other with other | other | other <;> cases other
    whole := fun _ => safe.whole (.inl phase)
    spent := fun _ _ => safe.spent (by rw [phase]; decide) (by rw [phase]; decide)
    revoked := by simp [aborted] }

@[simp]
theorem ChannelCall.ended_busy {call : ChannelCall} {succeeded : Bool} :
    (call.ended succeeded).busy = false := by
  unfold ChannelCall.ended
  split_ifs <;> rfl

theorem ChannelCall.ended_ne_opened {call : ChannelCall} {succeeded : Bool} :
    call.ended succeeded ≠ .opened := by
  unfold ChannelCall.ended
  split_ifs <;> decide

theorem ChannelCall.ended_sent {call : ChannelCall} {succeeded : Bool}
    (sent : call.ended succeeded = .sent) : call = .send ∧ succeeded = true := by
  unfold ChannelCall.ended at sent
  split_ifs at sent with success send
  exact ⟨send, success⟩

theorem WorldSafe.unclosed_of_holder (safe : WorldSafe wire world)
    (holder : world.holder = some thread) : world.channel.closed = false := by
  by_contra closed
  have free := safe.idle (by simpa using closed)
  rw [holder] at free
  cases free

/-- What `_finish_io` leaves, before the socket is considered. -/
theorem WorldSafe.finished {call : ChannelCall} {succeeded : Bool} (safe : WorldSafe wire world)
    (own : PlaceSafe wire thread world (.finishing call succeeded)) :
    (world.channel.bytesAccepted = world.accepted.length) ∧
      (call.ended succeeded = .sent → world.reads = [] ∧ world.accepted = wire) := by
  rcases own.stands with ⟨-, phase, booked, whole⟩ | ⟨rfl, phase⟩
  · refine ⟨booked, fun sent => ⟨safe.unread (.inr (.inl phase)), ?_⟩⟩
    exact whole (ChannelCall.ended_sent sent).2
  · refine ⟨safe.booked (by rw [phase]; decide), fun sent => ?_⟩
    cases (ChannelCall.ended_sent sent).1

/-- `_finish_io` by the thread that has I/O closes the channel if a close waits. -/
theorem WorldSafe.finishIo_eq (safe : WorldSafe wire world) (holder : world.holder = some thread)
    (phase : ChannelPhase) : world.channel.finishIo phase =
      ({ world.channel with
          ioActive := false, phase := phase, hasCredential := false,
          closed := world.channel.closePending, hasSocket := !world.channel.closePending },
        world.channel.closePending) := by
  have unclosed := safe.unclosed_of_holder holder
  have owned := safe.socket
  rw [unclosed, Bool.not_false] at owned
  unfold UpstreamChannel.finishIo
  cases pending : world.channel.closePending with
  | false => simp [owned, unclosed, pending]
  | true => simp [owned, unclosed, pending]

theorem WorldSafe.finishIo {call : ChannelCall} {succeeded : Bool} (safe : WorldSafe wire world)
    (own : PlaceSafe wire thread world (.finishing call succeeded)) :
    WorldSafe wire { world.leave thread (world.channel.finishIo (call.ended succeeded)) with
      holder := none } := by
  have holder := own.holds.mp rfl
  obtain ⟨booked, sent⟩ := safe.finished own
  obtain ⟨untaken, unread⟩ := safe.unclosed (safe.unclosed_of_holder holder)
  have busy : (call.ended succeeded).busy = false := ChannelCall.ended_busy
  rw [safe.finishIo_eq holder]
  exact { safe with
    ioActive := rfl
    busy := busy
    socket := rfl
    idle := fun _ => rfl
    unclosed := by
      intro unasked
      change world.channel.closePending = false at unasked
      simpa [ChannelWorld.leave, unasked, untaken] using unread
    closed := by
      intro asked
      change world.channel.closePending = true at asked
      exact .inl ⟨by simp [ChannelWorld.leave, asked], unread⟩
    pending := fun pending => ⟨(safe.pending pending).1, .inr pending⟩
    booked := fun _ => booked
    opened := fun opened => absurd opened ChannelCall.ended_ne_opened
    unread := by
      rintro (opened | sending | ended)
      · exact absurd opened ChannelCall.ended_ne_opened
      · cases (congrArg ChannelPhase.busy sending).symm.trans busy
      · exact (sent ended).1
    whole := by
      rintro (ended | receiving)
      · exact (sent ended).2
      · cases (congrArg ChannelPhase.busy receiving).symm.trans busy
    spent := fun _ _ => rfl
    discarded := fun _ => rfl
    revoked := fun _ => .inl rfl }

theorem WorldSafe.abort (safe : WorldSafe wire world) :
    WorldSafe wire { world with channel := world.channel.abort } := by
  unfold UpstreamChannel.abort
  split_ifs with already
  · exact safe
  · exact { safe with
      pending := fun pending => ⟨rfl, (safe.pending pending).2⟩
      spent := fun _ _ => rfl
      discarded := fun _ => rfl
      revoked := fun _ => .inl rfl }

/-- The thread that takes the socket, when nobody has I/O. -/
theorem WorldSafe.take (safe : WorldSafe wire world) (free : world.holder = none)
    (unclosed : world.channel.closed = false) :
    WorldSafe wire { world with
      channel := { world.channel with closed := true, hasSocket := false, hasCredential := false }
      closer := some thread } := by
  obtain ⟨-, unread⟩ := safe.unclosed unclosed
  exact { safe with
    socket := rfl
    idle := fun _ => free
    unclosed := fun other => by cases other
    closed := fun _ => .inl ⟨rfl, unread⟩
    pending := fun pending => ⟨(safe.pending pending).1, .inr rfl⟩
    spent := fun _ _ => rfl
    discarded := fun _ => rfl
    revoked := fun _ => .inl rfl }

theorem WorldSafe.close (safe : WorldSafe wire world) :
    WorldSafe wire (world.leave thread world.channel.close) := by
  unfold UpstreamChannel.close
  split_ifs with closed active
  · exact safe
  · have held : world.holder.isSome := by
      rw [← safe.ioActive]
      exact active
    exact { safe with
      pending := fun _ => ⟨rfl, .inl held⟩
      revoked := fun _ => .inr ⟨rfl, held⟩ }
  · have unclosed : world.channel.closed = false := by simpa using closed
    have free : world.holder = none := by
      rw [safe.ioActive] at active
      simpa using active
    have owned : world.channel.hasSocket = true := by
      rw [safe.socket, unclosed]
      rfl
    simpa [ChannelWorld.leave, owned] using safe.take free unclosed

theorem ChannelMove.shared_safe (safe : WorldSafe wire world)
    (own : PlaceSafe wire thread world place)
    (move : ChannelMove wire thread world place after reached) : WorldSafe wire after := by
  cases move with
  | sendEnters enters => exact safe.enterSend enters
  | receiveEnters enters => exact safe.enterReceive enters
  | finishes => exact safe.finishIo own
  | aborts => exact safe.abort
  | closes => exact safe.close
  | sendCalls =>
      obtain ⟨sent, -⟩ := own.stands
      exact { safe with
        opened := fun other => by cases other.symm.trans sent.phase
        senders := by
          intro left leftIn right rightIn
          have only : ∀ sender ∈ world.sends ++ [thread], sender = thread := by
            intro sender member
            rcases List.mem_append.mp member with earlier | last
            · exact sent.alone sender earlier
            · exact List.mem_singleton.mp last
          rw [only left leftIn, only right rightIn] }
  | sendCounts positive within =>
      obtain ⟨sent, -⟩ := own.stands
      obtain ⟨continued, -⟩ := take_append_chunk positive within
      exact { safe with
        accepted := by
          show world.accepted ++ _ <+: wire
          rw [sent.accepted, continued]
          exact List.take_prefix _ _
        booked := fun other => absurd sent.phase other
        opened := fun other => by cases other.symm.trans sent.phase
        whole := fun other => by
          rcases other with other | other <;> cases other.symm.trans sent.phase
        read := fun read => absurd (safe.unread (.inr (.inl sent.phase))) read }
  | sendBooks =>
      have sent : Sent wire thread world _ := own.stands
      exact { safe with booked := fun other => absurd sent.phase other }
  | receiveReads =>
      obtain ⟨phase, unread⟩ := own.stands
      exact { safe with
        unread := fun other => by
          rcases other with other | other | other <;> cases other.symm.trans phase
        reads := by simp [unread]
        read := fun _ => safe.whole (.inr phase) }
  | closesSocket =>
      have taken := own.closes.mp rfl
      have closed := safe.closed_of_closer taken
      obtain ⟨-, once⟩ | ⟨none, -⟩ := safe.closed closed
      · exact { safe with
          unclosed := fun other => by cases other.symm.trans closed
          closed := fun _ => .inr ⟨rfl, by simp [once]⟩ }
      · cases none.symm.trans taken
  | _ => exact safe

/-! ## The place a move reaches -/

theorem ChannelMove.place_safe (safe : WorldSafe wire world)
    (own : PlaceSafe wire thread world place)
    (move : ChannelMove wire thread world place after reached) :
    PlaceSafe wire thread after reached := by
  cases move with
  | calls call => exact ⟨own.holds, own.closes, by cases call <;> trivial⟩
  | sendBlocked blocked => exact ⟨own.holds, own.closes, trivial⟩
  | sendEnters enters =>
      obtain ⟨closed, aborted, phase, socket, credential, rfl⟩ := enterSend_eq_some.mp enters
      obtain ⟨nothing, unsent⟩ := safe.opened phase
      have count := safe.booked (by rw [phase]; decide)
      refine ⟨by simp [ChannelPlace.active], own.closes, ⟨rfl, ?_, Nat.zero_le _, ?_⟩, ?_, unsent⟩
      · simpa using nothing
      · simp [unsent]
      · simpa [nothing] using count
  | sendUnprepared =>
      obtain ⟨sent, count, -⟩ := own.stands
      exact ⟨own.holds, own.closes, sent.fails count⟩
  | sendPrepared =>
      obtain ⟨sent, count, -⟩ := own.stands
      exact ⟨own.holds, own.closes, sent, count⟩
  | sendCompletes all =>
      obtain ⟨sent, count⟩ := own.stands
      have whole : world.accepted = wire := by rw [sent.accepted, List.take_of_length_le all]
      refine ⟨own.holds, own.closes, .inl ⟨rfl, sent.phase, ?_, fun _ => whole⟩⟩
      rw [count, sent.length]
  | sendStops | sendExpires | sendFails | sendLate =>
      obtain ⟨sent, count⟩ := own.stands
      exact ⟨own.holds, own.closes, sent.fails count⟩
  | sendContinues | sendRepeats => exact ⟨own.holds, own.closes, own.stands⟩
  | sendCalls =>
      obtain ⟨sent, count⟩ := own.stands
      refine ⟨own.holds, own.closes, ⟨sent.phase, sent.accepted, sent.within, ?_⟩, count⟩
      intro sender member
      rcases List.mem_append.mp member with earlier | last
      · exact sent.alone sender earlier
      · exact List.mem_singleton.mp last
  | sendCounts positive within =>
      obtain ⟨sent, count⟩ := own.stands
      obtain ⟨continued, fits⟩ := take_append_chunk positive within
      refine ⟨own.holds, own.closes, ⟨sent.phase, ?_, fits, sent.alone⟩⟩
      rw [← continued, ← sent.accepted]
  | sendBooks =>
      have sent : Sent wire thread world _ := own.stands
      exact ⟨own.holds, own.closes, ⟨sent.phase, sent.accepted, sent.within, sent.alone⟩, rfl⟩
  | receiveBlocked blocked => exact ⟨own.holds, own.closes, trivial⟩
  | receiveEnters enters =>
      obtain ⟨closed, aborted, phase, socket, rfl⟩ := enterReceive_eq_some.mp enters
      exact ⟨by simp [ChannelPlace.active], own.closes, rfl, safe.unread (.inr (.inr phase))⟩
  | receiveUnprepared => exact ⟨own.holds, own.closes, .inr ⟨rfl, own.stands.1⟩⟩
  | receiveReads => exact ⟨own.holds, own.closes, own.stands.1⟩
  | receiveEnds succeeded => exact ⟨own.holds, own.closes, .inr ⟨rfl, own.stands⟩⟩
  | finishes =>
      have holder := own.holds.mp rfl
      have untaken := (safe.unclosed (safe.unclosed_of_holder holder)).1
      have stands := own.stands
      rw [safe.finishIo_eq holder]
      cases pending : world.channel.closePending with
      | false =>
          refine ⟨by simp [ChannelPlace.active, ChannelPlace.left], ?_, ?_⟩
          · simp [ChannelPlace.left, ChannelPlace.isClosing, ChannelWorld.leave, untaken]
          · rcases stands with ⟨rfl, -⟩ | ⟨rfl, -⟩ <;> trivial
      | true =>
          refine ⟨by simp [ChannelPlace.active, ChannelPlace.left], ?_, trivial⟩
          simp [ChannelPlace.left, ChannelPlace.isClosing, ChannelWorld.leave]
  | aborts =>
      refine ⟨own.holds, own.closes, ?_⟩
      show world.channel.abort.closed = true ∨ world.channel.abort.aborted = true
      unfold UpstreamChannel.abort
      split_ifs with already
      · exact already
      · exact .inr rfl
  | closes =>
      unfold UpstreamChannel.close
      split_ifs with closed active
      · exact ⟨own.holds, own.closes, .inl closed⟩
      · exact ⟨own.holds, own.closes, .inr rfl⟩
      · have owned : world.channel.hasSocket = true := by simpa [closed] using safe.socket
        rw [owned]
        exact ⟨own.holds, by simp [ChannelPlace.left, ChannelPlace.isClosing, ChannelWorld.leave],
          trivial⟩
  | closesSocket =>
      have closed := safe.closed_of_closer (own.closes.mp rfl)
      refine ⟨own.holds, by simp [ChannelPlace.isClosing], ?_⟩
      rename_i call
      cases call with
      | send => trivial
      | receive => trivial
      | abort => exact .inl closed
      | close => exact .inl closed

/-! ## The places of the others -/

/-- What a move leaves of the world as another thread sees it. -/
structure Spares (other : Nat) (world after : ChannelWorld) : Prop where
  holder : after.holder = some other ↔ world.holder = some other
  closer : after.closer = some other ↔ world.closer = some other
  phase : world.holder = some other → after.channel.phase = world.channel.phase
  count : world.holder = some other → after.channel.bytesAccepted = world.channel.bytesAccepted
  accepted : world.holder = some other → after.accepted = world.accepted
  sends : world.holder = some other → after.sends = world.sends
  reads : world.holder = some other → after.reads = world.reads
  closed : world.channel.closed = true → after.channel.closed = true
  pending : world.channel.closePending = true → after.channel.closePending = true
  aborted : world.channel.aborted = true → after.channel.aborted = true

theorem Spares.refl : Spares other world world :=
  ⟨.rfl, .rfl, fun _ => rfl, fun _ => rfl, fun _ => rfl, fun _ => rfl, fun _ => rfl, id, id, id⟩

theorem Spares.sent {sent : Nat} (spares : Spares other world after)
    (holder : world.holder = some other) (known : Sent wire other world sent) :
    Sent wire other after sent where
  phase := (spares.phase holder).trans known.phase
  accepted := (spares.accepted holder).trans known.accepted
  within := known.within
  alone := by
    rw [spares.sends holder]
    exact known.alone

theorem Spares.place_safe (spares : Spares other world after)
    (kept : PlaceSafe wire other world place) : PlaceSafe wire other after place := by
  refine ⟨kept.holds.trans spares.holder.symm, kept.closes.trans spares.closer.symm, ?_⟩
  have stands := kept.stands
  cases place with
  | sendPreparing =>
      have holder := kept.holds.mp rfl
      obtain ⟨known, count, unsent⟩ := stands
      exact ⟨spares.sent holder known, (spares.count holder).trans count,
        (spares.sends holder).trans unsent⟩
  | sendLooping | sendReady | sendCalling | sendBooked =>
      have holder := kept.holds.mp rfl
      exact ⟨spares.sent holder stands.1, (spares.count holder).trans stands.2⟩
  | sendCounted sent => exact spares.sent (kept.holds.mp rfl) stands
  | receivePreparing =>
      have holder := kept.holds.mp rfl
      exact ⟨(spares.phase holder).trans stands.1, (spares.reads holder).trans stands.2⟩
  | receiveReading => exact (spares.phase (kept.holds.mp rfl)).trans stands
  | finishing call succeeded =>
      have holder := kept.holds.mp rfl
      rw [ChannelPlace.Stands, spares.phase holder, spares.count holder, spares.accepted holder]
      exact stands
  | returned call =>
      cases call with
      | abort => exact stands.imp spares.closed spares.aborted
      | close => exact stands.imp spares.closed spares.pending
      | _ => trivial
  | _ => trivial

/-- A thread that has I/O is alone in it. -/
theorem PlaceSafe.alone (own : PlaceSafe wire thread world place) (active : place.active = true)
    (different : other ≠ thread) : world.holder ≠ some other := by
  rw [own.holds.mp active]
  intro same
  exact different (Option.some.inj same).symm

theorem ChannelMove.spares (different : other ≠ thread) (safe : WorldSafe wire world)
    (own : PlaceSafe wire thread world place)
    (move : ChannelMove wire thread world place after reached) : Spares other world after := by
  have differs : some thread ≠ some other := fun same => different (Option.some.inj same).symm
  cases move with
  | sendEnters enters =>
      obtain ⟨closed, aborted, phase, socket, credential, rfl⟩ := enterSend_eq_some.mp enters
      have free := safe.free (by rw [phase]; rfl)
      constructor <;> simp_all
  | receiveEnters enters =>
      obtain ⟨closed, aborted, phase, socket, rfl⟩ := enterReceive_eq_some.mp enters
      have free := safe.free (by rw [phase]; rfl)
      constructor <;> simp_all
  | finishes =>
      have alone := own.alone rfl different
      have holder := own.holds.mp rfl
      have unclosed := safe.unclosed_of_holder holder
      have untaken := (safe.unclosed unclosed).1
      rw [safe.finishIo_eq holder]
      exact { Spares.refl with
        holder := by simp [alone]
        closer := by
          simp only [ChannelWorld.leave]
          split_ifs <;> simp [untaken, differs]
        phase := fun other => absurd other alone
        closed := fun closed => by cases closed.symm.trans unclosed }
  | sendCalls =>
      exact { Spares.refl with sends := fun held => absurd held (own.alone rfl different) }
  | sendCounts positive within =>
      exact { Spares.refl with accepted := fun held => absurd held (own.alone rfl different) }
  | sendBooks =>
      exact { Spares.refl with count := fun held => absurd held (own.alone rfl different) }
  | receiveReads =>
      exact { Spares.refl with reads := fun held => absurd held (own.alone rfl different) }
  | aborts =>
      unfold UpstreamChannel.abort
      split_ifs with already
      · exact .refl
      · exact { Spares.refl with aborted := fun _ => rfl }
  | closes =>
      unfold UpstreamChannel.close
      split_ifs with closed active
      · exact .refl
      · exact { Spares.refl with pending := fun _ => rfl, aborted := fun _ => rfl }
      · have unclosed : world.channel.closed = false := by simpa using closed
        have untaken := (safe.unclosed unclosed).1
        exact { Spares.refl with
          closer := by
            simp only [ChannelWorld.leave]
            split_ifs <;> simp [untaken, differs]
          closed := fun _ => rfl }
  | closesSocket =>
      have taken := own.closes.mp rfl
      exact { Spares.refl with closer := by simp [taken, differs] }
  | _ => exact .refl

/-! ## Every interleaving -/

theorem ChannelMove.preserved :
    Threads.Preserved (ChannelMove wire) (WorldSafe wire) (PlaceSafe wire) where
  own _ _ _ _ _ safe own move := ⟨move.shared_safe safe own, move.place_safe safe own⟩
  others _ _ _ _ _ _ _ different safe own kept move :=
    (move.spares different safe own).place_safe kept

theorem freshChannel_safe : freshChannel.Safe (WorldSafe wire) (PlaceSafe wire) where
  shared := by constructor <;> simp [freshChannel, ChannelPhase.busy]
  place thread := by
    constructor <;> simp [freshChannel, ChannelPlace.active, ChannelPlace.isClosing,
      ChannelPlace.Stands]

/-- Every system an interleaving reaches is safe. -/
theorem ChannelRun.safe {turns : List Nat} {system : ChannelSystem}
    (run : ChannelRun wire freshChannel turns system) :
    system.Safe (WorldSafe wire) (PlaceSafe wire) :=
  ChannelMove.preserved.run freshChannel_safe run

end ManyAlerts
