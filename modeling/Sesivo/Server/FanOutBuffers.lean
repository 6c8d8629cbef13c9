import Sesivo.Server.FanOutQueues

set_option autoImplicit false

/- The counter of a pooled buffer. Over every interleaving it agrees with the tasks
that refer to the buffer: those the event loop has yet to push, those in the queues
and those the workers have not completed. -/

namespace Sesivo.FanOut

open Octets ShareCount Function

/-- Until its exchange succeeds, a completion stands for a task of the buffer. -/
def Completion.shares : Completion → Nat
  | .load | .loop _ => 1
  | .clear | .release => 0

/-- The completion of the last task owns the buffer until it frees it. -/
def Completion.owners : Completion → Nat
  | .load | .loop _ => 0
  | .clear | .release => 1

/-- The same for a completion that may have returned. -/
def sharesLeft : Option Completion → Nat
  | none => 0
  | some completion => completion.shares

def ownersLeft : Option Completion → Nat
  | none => 0
  | some completion => completion.owners

variable (buffer : BufferIndex)

/-- The tasks of the buffer the event loop has yet to push or to complete itself. -/
def EventLoop.shares : EventLoop → Nat
  | .checking push | .storing push | .publishing push =>
    if push.buffer = buffer then mediaWorkerCount - push.worker.val else 0
  | .releasing push =>
    if push.buffer = buffer then mediaWorkerCount - (push.worker.val + 1) else 0
  | .completing push completion =>
    if push.buffer = buffer then mediaWorkerCount - (push.worker.val + 1) + completion.shares
    else 0
  | _ => 0

def EventLoop.owners : EventLoop → Nat
  | .filling _ _ filled | .sharing _ _ filled => if filled = buffer then 1 else 0
  | .completing push completion => if push.buffer = buffer then completion.owners else 0
  | _ => 0

/-- Whether the worker has a task of the buffer in hand. -/
def Worker.shares : Worker → Nat
  | .sending task _ => if task.buffer = buffer then 1 else 0
  | .completing task completion => if task.buffer = buffer then completion.shares else 0
  | _ => 0

def Worker.owners : Worker → Nat
  | .completing task completion => if task.buffer = buffer then completion.owners else 0
  | _ => 0

def refersTo (slot : Option FanOutTask) : Bool :=
  slot.any fun task => task.buffer = buffer

def queueShares (queue : MediaTaskQueue) : Nat := queue.contents.countP (refersTo buffer)

/-- The tasks of the buffer that are neither completed nor failed to be pushed. -/
def shares (state : FanOut) : Nat :=
  state.eventLoop.shares buffer +
    total fun index => queueShares buffer (state.queues index) + (state.workers index).shares buffer

/-- The processes that own the buffer alone. -/
def owners (state : FanOut) : Nat :=
  state.eventLoop.owners buffer + total fun index => (state.workers index).owners buffer

variable {buffer} (state : FanOut) (eventLoop : EventLoop)

theorem shares_setLoop :
    shares buffer (state.setLoop eventLoop) + state.eventLoop.shares buffer =
      shares buffer state + eventLoop.shares buffer := by
  simp only [shares, setLoop]
  omega

theorem owners_setLoop :
    owners buffer (state.setLoop eventLoop) + state.eventLoop.owners buffer =
      owners buffer state + eventLoop.owners buffer := by
  simp only [owners, setLoop]
  omega

theorem shares_setWorker (index : WorkerIndex) (worker : Worker) :
    shares buffer (state.setWorker index worker) + (state.workers index).shares buffer =
      shares buffer state + worker.shares buffer := by
  have changed := @total_change _
    (fun index => queueShares buffer (state.queues index) + (state.workers index).shares buffer)
    (fun other => queueShares buffer (state.queues other) +
      (update state.workers index worker other).shares buffer) index
    (fun other different => by simp only [update_of_ne different])
  simp only [update_self] at changed
  simp only [shares, setWorker]
  omega

theorem owners_setWorker (index : WorkerIndex) (worker : Worker) :
    owners buffer (state.setWorker index worker) + (state.workers index).owners buffer =
      owners buffer state + worker.owners buffer := by
  have changed := @total_change _ (fun index => (state.workers index).owners buffer)
    (fun other => (update state.workers index worker other).owners buffer) index
    (fun other different => by simp only [update_of_ne different])
  simp only [update_self] at changed
  simp only [owners, setWorker]
  omega

theorem shares_setQueue (index : WorkerIndex) (queue : MediaTaskQueue) :
    shares buffer (state.setQueue index queue) + queueShares buffer (state.queues index) =
      shares buffer state + queueShares buffer queue := by
  have changed := @total_change _
    (fun index => queueShares buffer (state.queues index) + (state.workers index).shares buffer)
    (fun other => queueShares buffer (update state.queues index queue other) +
      (state.workers other).shares buffer) index
    (fun other different => by simp only [update_of_ne different])
  simp only [update_self] at changed
  simp only [shares, setQueue]
  omega

theorem share_le (index : WorkerIndex) :
    queueShares buffer (state.queues index) + (state.workers index).shares buffer ≤
      shares buffer state := by
  have part := le_total (fun index => queueShares buffer (state.queues index) +
    (state.workers index).shares buffer) index
  unfold shares
  omega

theorem owner_le (index : WorkerIndex) :
    (state.workers index).owners buffer ≤ owners buffer state := by
  have part := le_total (fun index => (state.workers index).owners buffer) index
  unfold owners
  omega

variable (push : Push)

theorem Push.next_shares : push.next.shares buffer =
    if push.buffer = buffer then mediaWorkerCount - (push.worker.val + 1) else 0 := by
  unfold Push.next
  split
  · rfl
  have none_left : mediaWorkerCount - (push.worker.val + 1) = 0 := by omega
  rw [none_left, ite_self]
  rfl

theorem Push.next_owners : push.next.owners buffer = 0 := by
  unfold Push.next
  split <;> rfl

theorem Push.after_shares (rest : Option Completion) :
    (push.after rest).shares buffer =
      if push.buffer = buffer then mediaWorkerCount - (push.worker.val + 1) + sharesLeft rest
      else 0 := by
  cases rest with
  | none => exact push.next_shares
  | some later => rfl

theorem Push.after_owners (rest : Option Completion) :
    (push.after rest).owners buffer = if push.buffer = buffer then ownersLeft rest else 0 := by
  cases rest with
  | none =>
    rw [ownersLeft, ite_self]
    exact push.next_owners
  | some later => rfl

variable (task : FanOutTask)

theorem Worker.after_shares (rest : Option Completion) :
    (Worker.after task rest).shares buffer = if task.buffer = buffer then sharesLeft rest else 0 := by
  cases rest with
  | none =>
    rw [sharesLeft, ite_self]
    rfl
  | some later => rfl

theorem Worker.after_owners (rest : Option Completion) :
    (Worker.after task rest).owners buffer = if task.buffer = buffer then ownersLeft rest else 0 := by
  cases rest with
  | none =>
    rw [ownersLeft, ite_self]
    rfl
  | some later => rfl

theorem Worker.popped_shares (index : WorkerIndex) (slot : Option FanOutTask) :
    (Worker.popped index slot).shares buffer = if refersTo buffer slot then 1 else 0 := by
  cases slot with
  | none => rfl
  | some task => simp [Worker.popped, Worker.shares, refersTo]

theorem Worker.popped_owners (index : WorkerIndex) (slot : Option FanOutTask) :
    (Worker.popped index slot).owners buffer = 0 := by
  cases slot with
  | none => rfl
  | some task => rfl

def BuffersCounted (state : FanOut) : Prop :=
  ∀ buffer, Counted mediaWorkerCount (state.buffers buffer).pendingWorkers
    (shares buffer state) (owners buffer state)

variable {rest : Option Completion} {completion : Completion}

theorem Completes.counted {before after : FanOutBuffer}
    (completes : Completes before completion after rest)
    {limit others apart : Nat}
    (counted : Counted limit before.pendingWorkers (others + completion.shares)
      (apart + completion.owners)) :
    Counted limit after.pendingWorkers (others + sharesLeft rest) (apart + ownersLeft rest) := by
  cases completes with
  | load => exact counted
  | retry pending => exact counted
  | spin pending foreign => exact counted
  | drop several => exact counted.drop several
  | last single =>
    have one : Counted limit 1 (others + 1) apart := by
      rw [← single]
      exact counted
    exact one.last
  | clear => exact counted
  | release => exact counted.free

theorem initial_buffersCounted : BuffersCounted initial := by
  intro buffer
  exact counted_zero _

variable {state}

variable {after : FanOut} {changed : BufferIndex} {replaced : FanOutBuffer} {index : WorkerIndex}
variable {worker : Worker}

/-- Nobody takes or gives back a share of any buffer. -/
theorem BuffersCounted.of_same (counted : BuffersCounted state)
    (pending : ∀ buffer, (after.buffers buffer).pendingWorkers =
      (state.buffers buffer).pendingWorkers)
    (shared : ∀ buffer, shares buffer after = shares buffer state)
    (owned : ∀ buffer, owners buffer after = owners buffer state) : BuffersCounted after := by
  intro buffer
  rw [pending, shared, owned]
  exact counted buffer

theorem BuffersCounted.of_loop (counted : BuffersCounted state) {eventLoop : EventLoop}
    (others : ∀ buffer, buffer ≠ changed →
      eventLoop.shares buffer = state.eventLoop.shares buffer ∧
        eventLoop.owners buffer = state.eventLoop.owners buffer)
    (now : ∀ rest apart, Counted mediaWorkerCount (state.buffers changed).pendingWorkers
        (rest + state.eventLoop.shares changed) (apart + state.eventLoop.owners changed) →
      Counted mediaWorkerCount replaced.pendingWorkers (rest + eventLoop.shares changed)
        (apart + eventLoop.owners changed)) :
    BuffersCounted ((state.setBuffer changed replaced).setLoop eventLoop) := by
  intro buffer
  have before := counted buffer
  simp only [shares, owners, setLoop, setBuffer]
  by_cases same : buffer = changed
  · subst same
    rw [update_self, Nat.add_comm, Nat.add_comm (eventLoop.owners buffer)]
    apply now
    rw [Nat.add_comm, Nat.add_comm _ (state.eventLoop.owners buffer)]
    exact before
  · rw [update_of_ne same, (others buffer same).1, (others buffer same).2]
    exact before

theorem BuffersCounted.of_worker (counted : BuffersCounted state)
    (others : ∀ buffer, buffer ≠ changed →
      worker.shares buffer = (state.workers index).shares buffer ∧
        worker.owners buffer = (state.workers index).owners buffer)
    (now : ∀ rest apart, Counted mediaWorkerCount (state.buffers changed).pendingWorkers
        (rest + (state.workers index).shares changed)
        (apart + (state.workers index).owners changed) →
      Counted mediaWorkerCount replaced.pendingWorkers (rest + worker.shares changed)
        (apart + worker.owners changed)) :
    BuffersCounted ((state.setBuffer changed replaced).setWorker index worker) := by
  intro buffer
  have before := counted buffer
  have shared : shares buffer ((state.setBuffer changed replaced).setWorker index worker) +
      (state.workers index).shares buffer = shares buffer state + worker.shares buffer :=
    shares_setWorker (state.setBuffer changed replaced) index worker
  have owned : owners buffer ((state.setBuffer changed replaced).setWorker index worker) +
      (state.workers index).owners buffer = owners buffer state + worker.owners buffer :=
    owners_setWorker (state.setBuffer changed replaced) index worker
  have share_held : (state.workers index).shares buffer ≤ shares buffer state :=
    le_trans (Nat.le_add_left _ _) (share_le state index)
  have owner_held := @owner_le buffer state index
  by_cases same : buffer = changed
  · subst same
    have pending : (((state.setBuffer buffer replaced).setWorker index worker).buffers
        buffer).pendingWorkers = replaced.pendingWorkers := by
      simp [setWorker, setBuffer]
    have held := now (shares buffer state - (state.workers index).shares buffer)
      (owners buffer state - (state.workers index).owners buffer) (by
        rw [Nat.sub_add_cancel share_held, Nat.sub_add_cancel owner_held]
        exact before)
    have shares_now : shares buffer ((state.setBuffer buffer replaced).setWorker index worker) =
        shares buffer state - (state.workers index).shares buffer + worker.shares buffer := by
      omega
    have owners_now : owners buffer ((state.setBuffer buffer replaced).setWorker index worker) =
        owners buffer state - (state.workers index).owners buffer + worker.owners buffer := by
      omega
    rw [pending, shares_now, owners_now]
    exact held
  · obtain ⟨same_shares, same_owners⟩ := others buffer same
    have shares_kept : shares buffer ((state.setBuffer changed replaced).setWorker index worker) =
        shares buffer state := by omega
    have owners_kept : owners buffer ((state.setBuffer changed replaced).setWorker index worker) =
        owners buffer state := by omega
    rw [shares_kept, owners_kept]
    simp only [setWorker, setBuffer, update_of_ne same]
    exact before

/-- The event loop moves without taking or giving back a share. -/
theorem BuffersCounted.of_quietLoop (counted : BuffersCounted state)
    (buffers : after.buffers = state.buffers) (queues : after.queues = state.queues)
    (workers : after.workers = state.workers)
    (held : ∀ buffer, after.eventLoop.shares buffer = state.eventLoop.shares buffer ∧
      after.eventLoop.owners buffer = state.eventLoop.owners buffer) : BuffersCounted after := by
  apply counted.of_same
  · intro buffer
    rw [buffers]
  · intro buffer
    rw [shares, shares, queues, workers, (held buffer).1]
  · intro buffer
    rw [owners, owners, workers, (held buffer).2]

/-- A worker moves without taking or giving back a share. -/
theorem BuffersCounted.of_quietWorker (counted : BuffersCounted state)
    (buffers : after.buffers = state.buffers) (queues : after.queues = state.queues)
    (eventLoop : after.eventLoop = state.eventLoop)
    (workers : after.workers = update state.workers index worker)
    (held : ∀ buffer, worker.shares buffer = (state.workers index).shares buffer ∧
      worker.owners buffer = (state.workers index).owners buffer) : BuffersCounted after := by
  have others : ∀ other, (∀ buffer, (after.workers other).shares buffer =
      (state.workers other).shares buffer) ∧ ∀ buffer, (after.workers other).owners buffer =
        (state.workers other).owners buffer := by
    intro other
    rw [workers]
    by_cases same : other = index
    · subst same
      rw [update_self]
      exact ⟨fun buffer => (held buffer).1, fun buffer => (held buffer).2⟩
    · rw [update_of_ne same]
      exact ⟨fun _ => rfl, fun _ => rfl⟩
  apply counted.of_same
  · intro buffer
    rw [buffers]
  · intro buffer
    simp only [shares, queues, eventLoop, (others _).1]
  · intro buffer
    simp only [owners, eventLoop, (others _).2]

/-- The slot being written is not published yet. -/
theorem BuffersCounted.stores (counted : BuffersCounted state) {push : Push}
    (at_store : state.eventLoop = .storing push) :
    BuffersCounted ((state.setQueue push.worker
      ((state.queues push.worker).store (some push.task))).setLoop (.publishing push)) := by
  have unpublished : ∀ buffer, queueShares buffer ((state.queues push.worker).store
      (some push.task)) = queueShares buffer (state.queues push.worker) := by
    intro buffer
    rw [queueShares, SlotRing.contents_store, queueShares]
  have held : (state.setQueue push.worker
      ((state.queues push.worker).store (some push.task))).eventLoop = .storing push := at_store
  apply counted.of_same
  · intro buffer
    rfl
  · intro buffer
    have loop := @shares_setLoop buffer (state.setQueue push.worker
      ((state.queues push.worker).store (some push.task))) (.publishing push)
    have queue := @shares_setQueue buffer state push.worker
      ((state.queues push.worker).store (some push.task))
    have same : (EventLoop.publishing push).shares buffer =
        (EventLoop.storing push).shares buffer := rfl
    rw [unpublished] at queue
    rw [held, same] at loop
    omega
  · intro buffer
    have loop := @owners_setLoop buffer (state.setQueue push.worker
      ((state.queues push.worker).store (some push.task))) (.publishing push)
    rw [held] at loop
    exact loop

/-- A published task moves from the event loop to the queue. -/
theorem BuffersCounted.publishes (counted : BuffersCounted state) (kept : QueuesKept state)
    {push : Push} (at_publish : state.eventLoop = .publishing push) :
    BuffersCounted ((state.setQueue push.worker (state.queues push.worker).publish).setLoop
      (.releasing push)) := by
  apply counted.of_same
  · intro buffer
    rfl
  · intro buffer
    have loop := @shares_setLoop buffer
      (state.setQueue push.worker (state.queues push.worker).publish) (.releasing push)
    have queue := @shares_setQueue buffer state push.worker (state.queues push.worker).publish
    have appended : queueShares buffer (state.queues push.worker).publish =
        queueShares buffer (state.queues push.worker) + if push.buffer = buffer then 1 else 0 := by
      rw [queueShares, SlotRing.contents_publish _ (kept.room push (.inr at_publish)),
        kept.stored push at_publish, List.countP_append, List.countP_singleton, queueShares]
      simp [refersTo, Push.task]
    have held : (state.setQueue push.worker (state.queues push.worker).publish).eventLoop =
        .publishing push := at_publish
    rw [held] at loop
    simp only [EventLoop.shares] at loop
    by_cases own : push.buffer = buffer
    · simp only [if_pos own] at loop appended
      omega
    · simp only [if_neg own] at loop appended
      omega
  · intro buffer
    have loop := @owners_setLoop buffer
      (state.setQueue push.worker (state.queues push.worker).publish) (.releasing push)
    have held : (state.setQueue push.worker (state.queues push.worker).publish).eventLoop =
        .publishing push := at_publish
    rw [held] at loop
    exact loop

/-- A popped task moves from the queue to the worker. -/
theorem BuffersCounted.advances (counted : BuffersCounted state) (kept : QueuesKept state)
    {index : WorkerIndex} {slot : Option FanOutTask}
    (at_advance : state.workers index = .advancing slot) :
    BuffersCounted ((state.setQueue index (state.queues index).advance).setWorker index
      (.popped index slot)) := by
  have some_left := @QueuesKept.some_left state kept index (by rw [at_advance]; rfl)
  have held : (state.setQueue index (state.queues index).advance).workers index =
      .advancing slot := at_advance
  apply counted.of_same
  · intro buffer
    rfl
  · intro buffer
    have worker := @shares_setWorker buffer
      (state.setQueue index (state.queues index).advance) index (.popped index slot)
    have queue := @shares_setQueue buffer state index (state.queues index).advance
    have taken : queueShares buffer (state.queues index) =
        queueShares buffer (state.queues index).advance +
          if refersTo buffer slot then 1 else 0 := by
      rw [queueShares, SlotRing.contents_advance _ some_left, List.countP_cons,
        ← kept.front index slot at_advance, queueShares]
    rw [held, Worker.popped_shares] at worker
    have none_held : (Worker.advancing slot).shares buffer = 0 := rfl
    omega
  · intro buffer
    have worker := @owners_setWorker buffer
      (state.setQueue index (state.queues index).advance) index (.popped index slot)
    rw [held, Worker.popped_owners] at worker
    exact worker

theorem BuffersCounted.loopCompletes (counted : BuffersCounted state) {push : Push}
    {replaced : FanOutBuffer}
    (at_complete : state.eventLoop = .completing push completion)
    (completes : Completes (state.buffers push.buffer) completion replaced rest) :
    BuffersCounted ((state.setBuffer push.buffer replaced).setLoop (push.after rest)) := by
  apply counted.of_loop
  · intro buffer different
    rw [push.after_shares, push.after_owners, at_complete]
    simp [EventLoop.shares, EventLoop.owners, if_neg (Ne.symm different)]
  intro others apart before
  rw [at_complete] at before
  simp only [EventLoop.shares, EventLoop.owners, if_pos, ← Nat.add_assoc] at before
  rw [push.after_shares, push.after_owners, if_pos rfl, if_pos rfl, ← Nat.add_assoc]
  exact completes.counted before

theorem BuffersCounted.workerCompletes (counted : BuffersCounted state) {index : WorkerIndex}
    {task : FanOutTask} {replaced : FanOutBuffer}
    (at_complete : state.workers index = .completing task completion)
    (completes : Completes (state.buffers task.buffer) completion replaced rest) :
    BuffersCounted ((state.setBuffer task.buffer replaced).setWorker index (.after task rest)) := by
  apply counted.of_worker
  · intro buffer different
    rw [Worker.after_shares, Worker.after_owners, at_complete]
    simp [Worker.shares, Worker.owners, if_neg (Ne.symm different)]
  intro others apart before
  rw [at_complete] at before
  simp only [Worker.shares, Worker.owners, if_pos] at before
  rw [Worker.after_shares, Worker.after_owners, if_pos rfl, if_pos rfl]
  exact completes.counted before

theorem moved_buffersCounted (moved : Moved state after)
    (kept : QueuesKept state) (counted : BuffersCounted state) : BuffersCounted after := by
  cases moved with
  | stays => exact counted
  | refuses datagram here | accepts datagram here | scans here | exhausts here | findsRoom here room =>
    exact counted.of_quietLoop rfl rfl rfl (fun _ => by rw [here]; exact ⟨rfl, rfl⟩)
  | @claims ticket datagram buffer at_scan free =>
    apply counted.of_loop
    · intro other different
      rw [at_scan]
      exact ⟨rfl, if_neg (Ne.symm different)⟩
    intro rest apart before
    rw [at_scan, free] at before
    have owner : EventLoop.owners buffer (.filling ticket datagram buffer) = 1 := if_pos rfl
    rw [owner]
    exact before.claim
  | fills now at_fill =>
    apply counted.of_loop
    · intro other different
      rw [at_fill]
      exact ⟨rfl, rfl⟩
    intro rest apart before
    rw [at_fill] at before
    exact before
  | @shares ticket datagram buffer at_share =>
    apply counted.of_loop
    · intro other different
      rw [at_share]
      exact ⟨if_neg (Ne.symm different), (if_neg (Ne.symm different)).symm⟩
    intro rest apart before
    have owner : EventLoop.owners buffer (.sharing ticket datagram buffer) = 1 := if_pos rfl
    rw [at_share, owner] at before
    have given : (UInt32.ofNat mediaWorkerCount).toNat = mediaWorkerCount := rfl
    have all : EventLoop.shares buffer (.checking ⟨ticket, datagram, buffer, ⟨0, by decide⟩⟩) =
        (UInt32.ofNat mediaWorkerCount).toNat := if_pos rfl
    rw [all]
    exact before.share (le_of_eq given)
  | @findsFull push at_check =>
    refine counted.of_quietLoop rfl rfl rfl (fun buffer => ?_)
    have one_left : mediaWorkerCount - (push.worker.val + 1) + 1 =
        mediaWorkerCount - push.worker.val := by omega
    rw [at_check]
    simp [setLoop, EventLoop.shares, EventLoop.owners, Completion.shares, Completion.owners,
      one_left]
  | stores at_store => exact counted.stores at_store
  | publishes at_publish => exact counted.publishes kept at_publish
  | @releases push at_release =>
    refine counted.of_quietLoop rfl rfl rfl (fun buffer => ?_)
    rw [at_release]
    exact ⟨push.next_shares, push.next_owners⟩
  | loopCompletes at_complete completes => exact counted.loopCompletes at_complete completes
  | acquires here permit | misses here none_left | hits here | takes here | skips here listed
  | expires here | sends here listed other =>
    exact counted.of_quietWorker rfl rfl rfl rfl (fun _ => by rw [here]; exact ⟨rfl, rfl⟩)
  | advances at_advance => exact counted.advances kept at_advance
  | finishes at_send ended =>
    refine counted.of_quietWorker rfl rfl rfl rfl (fun _ => ?_)
    rw [at_send]
    exact ⟨rfl, ite_self _⟩
  | workerCompletes at_complete completes => exact counted.workerCompletes at_complete completes

end Sesivo.FanOut
