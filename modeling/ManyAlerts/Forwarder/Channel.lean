import ManyAlerts.Library.Json
import ManyAlerts.Library.Threads

/-!
# The upstream channel

One request and its response on one socket, shared by the thread that performs
the exchange and by those that abort or close it.  Every block under the lock is
one function here, and a thread moves from one such block, one call of the socket
or one reading of the clock to the next.  Clock readings and deadlines are
arbitrary: each check of them may pass or fail, and every call of the socket may
fail.
-/

namespace ManyAlerts

def maxWriteChunkBytes : Nat := 16384

/-- `RequestParts`: what the request has before and after the header line that
carries the credential. -/
structure RequestParts where
  /-- `prefix`. -/
  opening : Bytes
  suffix : Bytes
deriving DecidableEq

/-- The bytes `send` assembles: `Authorization: `, the credential and a line end
between the two parts. -/
def RequestParts.wire (parts : RequestParts) (authorization : Bytes) : Bytes :=
  parts.opening ++ ascii "Authorization: " ++ authorization ++ [13, 10] ++ parts.suffix

/-- `view[sent:sent + MAX_WRITE_CHUNK_BYTES]`. -/
def writeChunk (wire : Bytes) (sent : Nat) : Bytes := (wire.drop sent).take maxWriteChunkBytes

/-! ## The fields under the lock -/

inductive ChannelPhase where
  | opened
  | sending
  | sent
  | receiving
  | received
  | failed
deriving DecidableEq

structure UpstreamChannel where
  phase : ChannelPhase := .opened
  aborted : Bool := false
  closed : Bool := false
  ioActive : Bool := false
  closePending : Bool := false
  /-- `_sock` is not `None`. -/
  hasSocket : Bool := true
  /-- `_credential` is not `None`. -/
  hasCredential : Bool := true
  bytesAccepted : Nat := 0
deriving DecidableEq

/-- The first block of `send`; nothing when it is blocked. -/
def UpstreamChannel.enterSend (channel : UpstreamChannel) : Option UpstreamChannel :=
  if channel.closed ∨ channel.aborted ∨ channel.phase ≠ .opened ∨ ¬channel.hasSocket ∨
      ¬channel.hasCredential then none
  else some { channel with phase := .sending, ioActive := true }

/-- The first block of `receive`. -/
def UpstreamChannel.enterReceive (channel : UpstreamChannel) : Option UpstreamChannel :=
  if channel.closed ∨ channel.aborted ∨ channel.phase ≠ .sent ∨ ¬channel.hasSocket then none
  else some { channel with phase := .receiving, ioActive := true }

/-- What the loop of `send` reads before every chunk. -/
def UpstreamChannel.stopAsked (channel : UpstreamChannel) : Bool :=
  channel.aborted || channel.closePending

/-- `_finish_io`, with whether the caller is to close the socket. -/
def UpstreamChannel.finishIo (channel : UpstreamChannel) (phase : ChannelPhase) :
    UpstreamChannel × Bool :=
  let finished := { channel with ioActive := false, phase := phase, hasCredential := false }
  if channel.closePending ∧ ¬channel.closed then
    ({ finished with closed := true, hasSocket := false }, channel.hasSocket)
  else (finished, false)

/-- `abort`; the socket is shut down under the lock. -/
def UpstreamChannel.abort (channel : UpstreamChannel) : UpstreamChannel :=
  if channel.closed ∨ channel.aborted then channel
  else { channel with aborted := true, hasCredential := false }

/-- The block of `close`, with whether the caller is to close the socket. -/
def UpstreamChannel.close (channel : UpstreamChannel) : UpstreamChannel × Bool :=
  if channel.closed then (channel, false)
  else if channel.ioActive then ({ channel with closePending := true, aborted := true }, false)
  else ({ channel with closed := true, hasSocket := false, hasCredential := false },
    channel.hasSocket)

/-! ## Threads -/

inductive ChannelCall where
  | send
  | receive
  | abort
  | close
deriving DecidableEq

/-- Where a call is.  A send counts the bytes it knows to be accepted. -/
inductive ChannelPlace where
  | idle
  | entering (call : ChannelCall)
  | sendPreparing
  | sendLooping (sent : Nat)
  /-- The loop has found no reason to stop. -/
  | sendReady (sent : Nat)
  /-- In `sock.send`. -/
  | sendCalling (sent : Nat)
  /-- The socket has reported a valid count. -/
  | sendCounted (sent : Nat)
  | sendBooked (sent : Nat)
  | receivePreparing
  /-- In `receive_response`. -/
  | receiveReading
  /-- Before `_finish_io`. -/
  | finishing (call : ChannelCall) (succeeded : Bool)
  /-- Before `_close_quietly`. -/
  | closing (call : ChannelCall)
  | returned (call : ChannelCall)
deriving DecidableEq

/-- The fields, and what has happened to the socket. -/
structure ChannelWorld where
  channel : UpstreamChannel := {}
  /-- The bytes whose acceptance the socket reported with a valid count. -/
  accepted : Bytes := []
  /-- The threads that called `sock.send`, in order. -/
  sends : List Nat := []
  /-- The threads that read the socket. -/
  reads : List Nat := []
  /-- The threads that closed the socket. -/
  closes : List Nat := []
  /-- The thread between its first block and `_finish_io`. -/
  holder : Option Nat := none
  /-- The thread that took the socket in order to close it. -/
  closer : Option Nat := none

/-- The phase `_finish_io` is given. -/
def ChannelCall.ended (call : ChannelCall) (succeeded : Bool) : ChannelPhase :=
  if succeeded then if call = .send then .sent else .received else .failed

/-- A call that has left its last block closes the socket if it took it. -/
def ChannelWorld.leave (world : ChannelWorld) (thread : Nat) (left : UpstreamChannel × Bool) :
    ChannelWorld :=
  { world with channel := left.1, closer := if left.2 then some thread else world.closer }

def ChannelPlace.left (call : ChannelCall) (takes : Bool) : ChannelPlace :=
  if takes then .closing call else .returned call

inductive ChannelMove (wire : Bytes) (thread : Nat) :
    ChannelWorld → ChannelPlace → ChannelWorld → ChannelPlace → Prop where
  | calls {world : ChannelWorld} (call : ChannelCall) :
      ChannelMove wire thread world .idle world (.entering call)
  | sendBlocked {world : ChannelWorld} (blocked : world.channel.enterSend = none) :
      ChannelMove wire thread world (.entering .send) world (.returned .send)
  | sendEnters {world : ChannelWorld} {channel : UpstreamChannel}
      (enters : world.channel.enterSend = some channel) :
      ChannelMove wire thread world (.entering .send)
        { world with channel := channel, holder := some thread } .sendPreparing
  /-- The deadline, the clock or the assembly fails. -/
  | sendUnprepared {world : ChannelWorld} :
      ChannelMove wire thread world .sendPreparing world (.finishing .send false)
  | sendPrepared {world : ChannelWorld} :
      ChannelMove wire thread world .sendPreparing world (.sendLooping 0)
  | sendCompletes {world : ChannelWorld} {sent : Nat} (all : wire.length ≤ sent) :
      ChannelMove wire thread world (.sendLooping sent) world (.finishing .send true)
  | sendStops {world : ChannelWorld} {sent : Nat} (more : sent < wire.length)
      (stop : world.channel.stopAsked = true) :
      ChannelMove wire thread world (.sendLooping sent) world (.finishing .send false)
  | sendContinues {world : ChannelWorld} {sent : Nat} (more : sent < wire.length)
      (go : world.channel.stopAsked = false) :
      ChannelMove wire thread world (.sendLooping sent) world (.sendReady sent)
  /-- The clock, the deadline or `settimeout` fails. -/
  | sendExpires {world : ChannelWorld} {sent : Nat} :
      ChannelMove wire thread world (.sendReady sent) world (.finishing .send false)
  | sendCalls {world : ChannelWorld} {sent : Nat} :
      ChannelMove wire thread world (.sendReady sent)
        { world with sends := world.sends ++ [thread] } (.sendCalling sent)
  /-- The socket raises or reports no valid count. -/
  | sendFails {world : ChannelWorld} {sent : Nat} :
      ChannelMove wire thread world (.sendCalling sent) world (.finishing .send false)
  | sendCounts {world : ChannelWorld} {sent count : Nat} (positive : 0 < count)
      (within : count ≤ (writeChunk wire sent).length) :
      ChannelMove wire thread world (.sendCalling sent)
        { world with accepted := world.accepted ++ (writeChunk wire sent).take count }
        (.sendCounted (sent + count))
  | sendBooks {world : ChannelWorld} {sent : Nat} :
      ChannelMove wire thread world (.sendCounted sent)
        { world with channel := { world.channel with bytesAccepted := sent } } (.sendBooked sent)
  /-- The clock fails after a chunk. -/
  | sendLate {world : ChannelWorld} {sent : Nat} :
      ChannelMove wire thread world (.sendBooked sent) world (.finishing .send false)
  | sendRepeats {world : ChannelWorld} {sent : Nat} :
      ChannelMove wire thread world (.sendBooked sent) world (.sendLooping sent)
  | receiveBlocked {world : ChannelWorld} (blocked : world.channel.enterReceive = none) :
      ChannelMove wire thread world (.entering .receive) world (.returned .receive)
  | receiveEnters {world : ChannelWorld} {channel : UpstreamChannel}
      (enters : world.channel.enterReceive = some channel) :
      ChannelMove wire thread world (.entering .receive)
        { world with channel := channel, holder := some thread } .receivePreparing
  | receiveUnprepared {world : ChannelWorld} :
      ChannelMove wire thread world .receivePreparing world (.finishing .receive false)
  | receiveReads {world : ChannelWorld} :
      ChannelMove wire thread world .receivePreparing
        { world with reads := world.reads ++ [thread] } .receiveReading
  | receiveEnds {world : ChannelWorld} (succeeded : Bool) :
      ChannelMove wire thread world .receiveReading world (.finishing .receive succeeded)
  | finishes {world : ChannelWorld} {call : ChannelCall} {succeeded : Bool} :
      ChannelMove wire thread world (.finishing call succeeded)
        { world.leave thread (world.channel.finishIo (call.ended succeeded)) with holder := none }
        (.left call (world.channel.finishIo (call.ended succeeded)).2)
  | aborts {world : ChannelWorld} :
      ChannelMove wire thread world (.entering .abort)
        { world with channel := world.channel.abort } (.returned .abort)
  | closes {world : ChannelWorld} :
      ChannelMove wire thread world (.entering .close) (world.leave thread world.channel.close)
        (.left .close world.channel.close.2)
  | closesSocket {world : ChannelWorld} {call : ChannelCall} :
      ChannelMove wire thread world (.closing call)
        { world with closes := world.closes ++ [thread], closer := none } (.returned call)

abbrev ChannelSystem : Type := Threads Nat ChannelWorld ChannelPlace

/-- A channel that `connect` has just made, before any call. -/
def freshChannel : ChannelSystem := ⟨{}, fun _ => .idle⟩

/-- An interleaving of any calls on one channel. -/
abbrev ChannelRun (wire : Bytes) :
    ChannelSystem → List Nat → ChannelSystem → Prop :=
  Interleaving (ChannelMove wire)

end ManyAlerts
