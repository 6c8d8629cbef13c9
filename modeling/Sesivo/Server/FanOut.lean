import Sesivo.Server.Handlers
import Sesivo.Lib.SlotRing
import Sesivo.Lib.ShareCount

set_option autoImplicit false

/- The media workers. The event loop copies an accepted audio datagram into a pooled
buffer and hands every worker a task that refers to it; each worker sends to its
part of the room. One step is one access to memory that both sides can reach, so a
run is an interleaving of the event loop and the workers. -/

namespace Sesivo

open Octets ShareCount

namespace FanOut

def maxFanOutBuffers : Nat := 128
def mediaWorkerQueueCapacity : Nat := 256

/-- Ten milliseconds, in nanoseconds. -/
def serverMediaDeadline : Int := 10000000

abbrev BufferIndex : Type := Fin maxFanOutBuffers
abbrev WorkerIndex : Type := Fin mediaWorkerCount

structure FanOutBuffer where
  bytes : Octets := []
  size : Nat := 0
  admittedAt : Time := 0
  pendingWorkers : UInt32 := 0

/-- An accepted audio datagram with the room snapshot it is forwarded to. -/
structure AudioDatagram where
  bytes : Octets
  endpoints : List Endpoint
  sender : Endpoint
  distinct : endpoints.Nodup

/-- A task for a worker. The ticket is the number of its datagram; no step looks at it. -/
structure FanOutTask where
  buffer : BufferIndex
  endpoints : List Endpoint
  sender : Endpoint
  ticket : Nat

/-- A slot that was never written holds the task without a buffer. -/
abbrev MediaTaskQueue : Type := SlotRing (Option FanOutTask) mediaWorkerQueueCapacity

/-- Where `complete_media_task` stands. -/
inductive Completion where
  | load
  | loop (pending : UInt32)
  | clear
  | release

/-- One access of `complete_media_task`, and where it stands afterwards unless it
returns. A weak exchange may fail although the values agree. -/
def Completion.step (buffer : FanOutBuffer) (spurious : Bool) :
    Completion → FanOutBuffer × Option Completion
  | .load => (buffer, some (.loop buffer.pendingWorkers))
  | .loop pending =>
    if 1 < pending ∧ pending ≠ exclusive then
      if buffer.pendingWorkers = pending ∧ spurious = false then
        ({ buffer with pendingWorkers := pending - 1 }, none)
      else (buffer, some (.loop buffer.pendingWorkers))
    else if pending = 1 then
      if buffer.pendingWorkers = pending ∧ spurious = false then
        ({ buffer with pendingWorkers := exclusive }, some .clear)
      else (buffer, some (.loop buffer.pendingWorkers))
    -- neither branch reloads the counter
    else (buffer, some (.loop pending))
  | .clear => ({ buffer with size := 0 }, some .release)
  | .release => ({ buffer with pendingWorkers := 0 }, none)

/-- The task the event loop is about to push, and to which worker. -/
structure Push where
  ticket : Nat
  datagram : AudioDatagram
  buffer : BufferIndex
  worker : WorkerIndex

variable (push : Push)

def Push.task : FanOutTask where
  buffer := push.buffer
  endpoints := push.datagram.endpoints
  sender := push.datagram.sender
  ticket := push.ticket

/-- Where the event loop stands in `acquire_fan_out_buffer` and `forward_audio_to_others`. -/
inductive EventLoop where
  | idle
  | scanning (ticket : Nat) (datagram : AudioDatagram) (index : Nat)
  | filling (ticket : Nat) (datagram : AudioDatagram) (buffer : BufferIndex)
  | sharing (ticket : Nat) (datagram : AudioDatagram) (buffer : BufferIndex)
  | checking (push : Push)
  | storing (push : Push)
  | publishing (push : Push)
  | releasing (push : Push)
  | completing (push : Push) (completion : Completion)

/-- The loop over the workers goes on. -/
def Push.next : EventLoop :=
  if more : push.worker.val + 1 < mediaWorkerCount then
    .checking { push with worker := ⟨push.worker.val + 1, more⟩ }
  else .idle

/-- Where a worker stands in `media_worker_loop`. -/
inductive Worker where
  | waiting
  | popping
  | taking
  | advancing (slot : Option FanOutTask)
  | sending (task : FanOutTask) (index : Nat)
  | completing (task : FanOutTask) (completion : Completion)

/-- A datagram a worker has put on the socket. -/
structure Sending where
  worker : WorkerIndex
  ticket : Nat
  index : Nat
  endpoint : Endpoint
  bytes : Octets

end FanOut

open FanOut

structure FanOut where
  buffers : BufferIndex → FanOutBuffer
  queues : WorkerIndex → MediaTaskQueue
  /-- The permits of each worker's semaphore. -/
  ready : WorkerIndex → Nat
  eventLoop : EventLoop
  workers : WorkerIndex → Worker
  /-- The datagrams accepted so far; no step looks at them. -/
  accepted : List AudioDatagram
  /-- What has been sent so far; no step looks at it. -/
  sent : List Sending
  /-- The ticket and the index of what was dropped as too old; no step looks at it. -/
  expired : List (Nat × Nat)
  /-- The tasks whose sending loop has ended; no step looks at them. -/
  finished : List (WorkerIndex × FanOutTask)

namespace FanOut

def initial : FanOut where
  buffers := fun _ => {}
  queues := fun _ => .empty none (by decide)
  ready := fun _ => 0
  eventLoop := .idle
  workers := fun _ => .waiting
  accepted := []
  sent := []
  expired := []
  finished := []

variable (state : FanOut)

def setBuffer (index : BufferIndex) (buffer : FanOutBuffer) : FanOut :=
  { state with buffers := Function.update state.buffers index buffer }

variable (index : WorkerIndex)

def setQueue (queue : MediaTaskQueue) : FanOut :=
  { state with queues := Function.update state.queues index queue }

def setReady (permits : Nat) : FanOut :=
  { state with ready := Function.update state.ready index permits }

def setWorker (worker : Worker) : FanOut :=
  { state with workers := Function.update state.workers index worker }

def setLoop (eventLoop : EventLoop) : FanOut := { state with eventLoop := eventLoop }

/-- An idle event loop takes up the next accepted datagram. -/
def receive (datagram : AudioDatagram) : FanOut :=
  match state.eventLoop with
  | .idle =>
    { state with
      accepted := state.accepted ++ [datagram]
      eventLoop :=
        if Server.recvBufSize < datagram.bytes.length then .idle
        else .scanning state.accepted.length datagram 0 }
  | _ => state

variable (now : Time)

def eventLoopStep (spurious : Bool) : FanOut :=
  match state.eventLoop with
  | .idle => state
  | .scanning ticket datagram index =>
    if inside : index < maxFanOutBuffers then
      if (state.buffers ⟨index, inside⟩).pendingWorkers = 0 then
        (state.setBuffer ⟨index, inside⟩ { state.buffers ⟨index, inside⟩ with
          pendingWorkers := exclusive }).setLoop (.filling ticket datagram ⟨index, inside⟩)
      else state.setLoop (.scanning ticket datagram (index + 1))
    else state.setLoop .idle
  | .filling ticket datagram buffer =>
    (state.setBuffer buffer { state.buffers buffer with
      bytes := datagram.bytes ++ (state.buffers buffer).bytes.drop datagram.bytes.length
      size := datagram.bytes.length
      admittedAt := now }).setLoop (.sharing ticket datagram buffer)
  | .sharing ticket datagram buffer =>
    (state.setBuffer buffer { state.buffers buffer with
      pendingWorkers := UInt32.ofNat mediaWorkerCount }).setLoop
        (.checking ⟨ticket, datagram, buffer, ⟨0, by decide⟩⟩)
  | .checking push =>
    if (state.queues push.worker).isFull then state.setLoop (.completing push .load)
    else state.setLoop (.storing push)
  | .storing push =>
    (state.setQueue push.worker ((state.queues push.worker).store (some push.task))).setLoop
      (.publishing push)
  | .publishing push =>
    (state.setQueue push.worker (state.queues push.worker).publish).setLoop (.releasing push)
  | .releasing push =>
    (state.setReady push.worker (state.ready push.worker + 1)).setLoop push.next
  | .completing push completion =>
    match completion.step (state.buffers push.buffer) spurious with
    | (buffer, some later) =>
      (state.setBuffer push.buffer buffer).setLoop (.completing push later)
    | (buffer, none) => (state.setBuffer push.buffer buffer).setLoop push.next

/-- The socket call for one endpoint of a task, unless the datagram has expired. -/
def sendMediaFromWorker (task : FanOutTask) (position : Nat)
    (target : Endpoint) (now : Time) : FanOut :=
  let buffer := state.buffers task.buffer
  if serverMediaDeadline < now - buffer.admittedAt then
    { state with expired := state.expired ++ [(task.ticket, position)] }
  else
    { state with
      sent := state.sent ++ [⟨index, task.ticket, position, target, buffer.bytes.take buffer.size⟩] }

/-- The next access of a worker; the workers are running throughout. -/
def workerStep (spurious : Bool) : FanOut :=
  match state.workers index with
  | .waiting =>
    if 0 < state.ready index then
      (state.setReady index (state.ready index - 1)).setWorker index .popping
    else state
  | .popping =>
    if (state.queues index).isEmpty then state.setWorker index .waiting
    else state.setWorker index .taking
  | .taking => state.setWorker index (.advancing (state.queues index).front)
  | .advancing slot =>
    (state.setQueue index (state.queues index).advance).setWorker index
      (match slot with
      | none => .waiting
      | some task => .sending task index.val)
  | .sending task position =>
    match task.endpoints[position]? with
    | none =>
      ({ state with finished := state.finished ++ [(index, task)] } : FanOut).setWorker index
        (.completing task .load)
    | some endpoint =>
      (if endpoint ≠ task.sender then
        state.sendMediaFromWorker index task position endpoint now
      else state).setWorker index (.sending task (position + mediaWorkerCount))
  | .completing task completion =>
    match completion.step (state.buffers task.buffer) spurious with
    | (buffer, some later) =>
      (state.setBuffer task.buffer buffer).setWorker index (.completing task later)
    | (buffer, none) => (state.setBuffer task.buffer buffer).setWorker index .waiting

inductive Move where
  | receive (datagram : AudioDatagram)
  | eventLoop (now : Time) (spurious : Bool)
  | worker (index : WorkerIndex) (now : Time) (spurious : Bool)

def step (state : FanOut) : Move → FanOut
  | .receive datagram => state.receive datagram
  | .eventLoop now spurious => state.eventLoopStep now spurious
  | .worker index now spurious => state.workerStep index now spurious

end FanOut

end Sesivo
