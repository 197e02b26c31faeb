import ManyAlerts.Forwarder.Scope
import ManyAlerts.Library.Stateful

/-!
# Permits that are used once

`PermitBook` owns permits in memory.  A permit is staged with a binding, passes
the first fence once, then the second fence once, and every attempt that is
denied closes it.  Each method takes the lock once, so a call is one step.

An argument that is not of the type the code asks for is `none`: a binding that
is no `PermitBinding`, or has a field that is no text or no integer, is refused
like one with an invalid field.  A handle is an object of the book, so it is the
place of its entry; a copy of a handle is a foreign object.
-/

namespace ManyAlerts

def maxOpenPermits : Nat := 32
def maxLifetimePermits : Nat := 2048
def maxPermitMonoUs : Int := 2 ^ 53 - 1

inductive PermitErrorCode where
  | argument
  | expired
  | duplicate
  | capacity
  | unknown
deriving DecidableEq

structure PermitBinding where
  permitId : String
  receiverBootId : String
  forwarderGeneration : String
  runId : String
  attemptId : String
  operationId : String
  effectIntentId : String
  grantId : String
  flightId : String
  service : String
  routeId : String
  requestDigest : String
  targetDigest : String
  expiresUs : Int
deriving DecidableEq

inductive PermitHandle where
  | issued (index : Nat)
  | foreign
deriving DecidableEq

inductive PermitPhase where
  | offered
  | consumedL1
  | writeAdmitted
  | closed
deriving DecidableEq

/-- `_OPEN_PHASES`. -/
def PermitPhase.isOpen (phase : PermitPhase) : Bool := phase ≠ .closed

inductive PermitFence where
  | l1
  | l2
deriving DecidableEq

/-- The phase in which a fence is passed. -/
def PermitFence.required : PermitFence → PermitPhase
  | .l1 => .offered
  | .l2 => .consumedL1

/-- The phase after a fence. -/
def PermitFence.reached : PermitFence → PermitPhase
  | .l1 => .consumedL1
  | .l2 => .writeAdmitted

inductive PermitDenial where
  | unknownHandle
  | invalidArgument
  | phase
  | staleContext
  | expired
  | bindingMismatch
deriving DecidableEq

/-- A decision of a fence; `denial = none` is the pass, whose reason is `exact`. -/
structure PermitDecision where
  fence : PermitFence
  denial : Option PermitDenial
  phase : Option PermitPhase
deriving DecidableEq

structure PermitEntry where
  binding : PermitBinding
  phase : PermitPhase
deriving DecidableEq

structure PermitBook where
  bootId : String
  generation : String
  entries : List PermitEntry
  permitIds : List String
  operationIds : List String
  openCount : Int
deriving DecidableEq

/-- `_time`. -/
def permitTime (value : Option Int) : Option Int :=
  value.filter fun time => 0 ≤ time && time ≤ maxPermitMonoUs

namespace PermitBinding

/-- `_valid_binding`. -/
def valid (binding : PermitBinding) (bootId generation : String) : Bool :=
  [binding.permitId, binding.receiverBootId, binding.forwarderGeneration, binding.runId,
    binding.attemptId, binding.operationId, binding.effectIntentId, binding.grantId,
    binding.flightId].all isId &&
  binding.receiverBootId = bootId && binding.forwarderGeneration = generation &&
  (routeService binding.routeId).any (fun service => service.text = binding.service) &&
  isHex64 binding.requestDigest && isHex64 binding.targetDigest &&
  (permitTime (some binding.expiresUs)).isSome

end PermitBinding

namespace PermitBook

abbrev Method := EStateM PermitErrorCode PermitBook

/-- `PermitBook.__init__`. -/
def create (receiverBootId forwarderGeneration : Option String) :
    Except PermitErrorCode PermitBook := do
  let bootId ← orFail .argument (receiverBootId.filter isId)
  let generation ← orFail .argument (forwarderGeneration.filter isId)
  return ⟨bootId, generation, [], [], [], 0⟩

/-- `_snapshot_binding`. -/
def snapshotBinding (book : PermitBook) (binding : Option PermitBinding) : Option PermitBinding :=
  binding.filter fun snapshot => snapshot.valid book.bootId book.generation

/-- `_entry`, with its place. -/
def entry (book : PermitBook) : PermitHandle → Option (Nat × PermitEntry)
  | .issued index => book.entries[index]?.map fun entry => (index, entry)
  | .foreign => none

def setPhase (book : PermitBook) (index : Nat) (entry : PermitEntry) (phase : PermitPhase) :
    PermitBook :=
  { book with entries := book.entries.set index { entry with phase := phase } }

/-- `_close`. -/
def closeEntry (book : PermitBook) (index : Nat) (entry : PermitEntry) : PermitBook :=
  if entry.phase.isOpen then
    { book.setPhase index entry .closed with openCount := book.openCount - 1 }
  else book

def addEntry (book : PermitBook) (binding : PermitBinding) : PermitBook where
  bootId := book.bootId
  generation := book.generation
  entries := book.entries ++ [⟨binding, .offered⟩]
  permitIds := book.permitIds ++ [binding.permitId]
  operationIds := book.operationIds ++ [binding.operationId]
  openCount := book.openCount + 1

/-- `stage`. -/
def stage (binding : Option PermitBinding) (nowUs : Option Int) : Method PermitHandle := do
  let book ← get
  let snapshot ← orRaise .argument (book.snapshotBinding binding)
  let now ← orRaise .argument (permitTime nowUs)
  refuse (snapshot.expiresUs ≤ now) .expired
  refuse (snapshot.permitId ∈ book.permitIds ∨ snapshot.operationId ∈ book.operationIds) .duplicate
  refuse (maxOpenPermits ≤ book.openCount ∨ maxLifetimePermits ≤ book.entries.length) .capacity
  set (book.addEntry snapshot)
  return .issued book.entries.length

/-- `close`. -/
def close (handle : PermitHandle) : Method Unit := do
  let book ← get
  let (index, entry) ← orRaise .unknown (book.entry handle)
  set (book.closeEntry index entry)

/-- `phase`. -/
def phase (handle : PermitHandle) : Method PermitPhase := do
  let book ← get
  let (_, entry) ← orRaise .unknown (book.entry handle)
  return entry.phase

/-- The checks of `_attempt` on a known handle, in their order. -/
def denial (book : PermitBook) (fence : PermitFence) (entry : PermitEntry)
    (expected : Option PermitBinding) (receiverBootId forwarderGeneration : Option String)
    (nowUs : Option Int) : Option PermitDenial :=
  match book.snapshotBinding expected, permitTime nowUs, receiverBootId.filter isId,
    forwarderGeneration.filter isId with
  | some snapshot, some now, some bootId, some generation =>
      if entry.phase ≠ fence.required then some .phase
      else if bootId ≠ book.bootId ∨ generation ≠ book.generation then some .staleContext
      else if entry.binding.expiresUs ≤ now then some .expired
      else if snapshot ≠ entry.binding then some .bindingMismatch
      else none
  | _, _, _, _ => some .invalidArgument

/-- `_attempt`; a closed entry stays closed when it is closed again. -/
def attempt (fence : PermitFence) (handle : PermitHandle) (expected : Option PermitBinding)
    (receiverBootId forwarderGeneration : Option String) (nowUs : Option Int) :
    Method PermitDecision := do
  let book ← get
  match book.entry handle with
  | none => return ⟨fence, some .unknownHandle, none⟩
  | some (index, entry) =>
      match book.denial fence entry expected receiverBootId forwarderGeneration nowUs with
      | some denial => do
          set (book.closeEntry index entry)
          return ⟨fence, some denial, some .closed⟩
      | none => do
          set (book.setPhase index entry fence.reached)
          return ⟨fence, none, some fence.reached⟩

end PermitBook

/-! ## Runs -/

inductive PermitCall where
  | stage (binding : Option PermitBinding) (nowUs : Option Int)
  | attempt (fence : PermitFence) (handle : PermitHandle) (expected : Option PermitBinding)
      (receiverBootId forwarderGeneration : Option String) (nowUs : Option Int)
  | close (handle : PermitHandle)
  | phase (handle : PermitHandle)
deriving DecidableEq

inductive PermitAnswer where
  | staged (handle : PermitHandle)
  | decided (decision : PermitDecision)
  | closed
  | phase (phase : PermitPhase)
deriving DecidableEq

def PermitCall.perform : PermitCall → PermitBook.Method PermitAnswer
  | .stage binding nowUs => .staged <$> PermitBook.stage binding nowUs
  | .attempt fence handle expected receiverBootId forwarderGeneration nowUs =>
      .decided <$> PermitBook.attempt fence handle expected receiverBootId forwarderGeneration nowUs
  | .close handle => (fun _ => .closed) <$> PermitBook.close handle
  | .phase handle => .phase <$> PermitBook.phase handle

/-- A call that was made, and how it ended. -/
structure PermitTurn where
  call : PermitCall
  result : Except PermitErrorCode PermitAnswer

/-- The calls that lead from one book to another. -/
inductive PermitRun (book : PermitBook) : List PermitTurn → PermitBook → Prop where
  | start : PermitRun book [] book
  | call {turns : List PermitTurn} {reached next : PermitBook} {call : PermitCall}
      {result : Except PermitErrorCode PermitAnswer} (run : PermitRun book turns reached)
      (ended : outcome call.perform reached = (result, next)) :
      PermitRun book (turns ++ [⟨call, result⟩]) next

end ManyAlerts
