import Sesivo.Server.FanOut

set_option autoImplicit false

/- What one move of the event loop or of a media worker can do, and the queues
between them: over every interleaving no task is lost or invented, and every queued
task has its permit. -/

namespace Sesivo.FanOut

open Octets ShareCount Function

/-- What one access of `complete_media_task` can do. -/
inductive Completes (buffer : FanOutBuffer) :
    Completion → FanOutBuffer → Option Completion → Prop where
  | load : Completes buffer .load buffer (some (.loop buffer.pendingWorkers))
  | retry (pending : UInt32) :
      Completes buffer (.loop pending) buffer (some (.loop buffer.pendingWorkers))
  | spin (pending : UInt32) (foreign : pending = 0 ∨ pending = exclusive) :
      Completes buffer (.loop pending) buffer (some (.loop pending))
  | drop (several : 1 < buffer.pendingWorkers) :
      Completes buffer (.loop buffer.pendingWorkers)
        { buffer with pendingWorkers := buffer.pendingWorkers - 1 } none
  | last (single : buffer.pendingWorkers = 1) :
      Completes buffer (.loop buffer.pendingWorkers)
        { buffer with pendingWorkers := exclusive } (some .clear)
  | clear : Completes buffer .clear { buffer with size := 0 } (some .release)
  | release : Completes buffer .release { buffer with pendingWorkers := 0 } none

theorem Completion.step_completes (buffer : FanOutBuffer) (spurious : Bool)
    (completion : Completion) :
    Completes buffer completion (completion.step buffer spurious).1
      (completion.step buffer spurious).2 := by
  cases completion with
  | load => exact .load
  | clear => exact .clear
  | release => exact .release
  | loop pending =>
    simp only [Completion.step]
    split
    next several =>
      split
      next agree =>
        obtain ⟨rfl, -⟩ := agree
        exact .drop several.1
      · exact .retry pending
    next few =>
      split
      next single =>
        split
        next agree =>
          obtain ⟨rfl, -⟩ := agree
          exact .last single
        · exact .retry pending
      next other =>
        apply Completes.spin
        by_contra neither
        simp only [not_or] at neither
        apply few
        refine ⟨?_, neither.2⟩
        rw [UInt32.lt_iff_toNat_lt]
        have one : (1 : UInt32).toNat = 1 := rfl
        have positive : pending.toNat ≠ 0 := fun zero => neither.1 (UInt32.toNat_inj.mp zero)
        have several : pending.toNat ≠ 1 := fun same => other (UInt32.toNat_inj.mp same)
        omega

variable (push : Push)

/-- Where the event loop stands after an access of a completion. -/
def Push.after : Option Completion → EventLoop
  | some later => .completing push later
  | none => push.next

variable (task : FanOutTask)

/-- Where a worker stands after an access of a completion. -/
def Worker.after : Option Completion → Worker
  | some later => .completing task later
  | none => .waiting

/-- Where a worker stands after it has taken a slot. -/
def Worker.popped (index : WorkerIndex) : Option FanOutTask → Worker
  | none => .waiting
  | some task => .sending task index.val

/-- Everything one move can do. -/
inductive Moved (state : FanOut) : FanOut → Prop where
  | stays : Moved state state
  | refuses (datagram : AudioDatagram) (at_idle : state.eventLoop = .idle) :
      Moved state { state with accepted := state.accepted ++ [datagram], eventLoop := .idle }
  | accepts (datagram : AudioDatagram) (at_idle : state.eventLoop = .idle) :
      Moved state { state with
        accepted := state.accepted ++ [datagram]
        eventLoop := .scanning state.accepted.length datagram 0 }
  | scans {ticket : Nat} {datagram : AudioDatagram} {index : Nat}
      (at_scan : state.eventLoop = .scanning ticket datagram index) :
      Moved state (state.setLoop (.scanning ticket datagram (index + 1)))
  | exhausts {ticket : Nat} {datagram : AudioDatagram} {index : Nat}
      (at_scan : state.eventLoop = .scanning ticket datagram index) :
      Moved state (state.setLoop .idle)
  | claims {ticket : Nat} {datagram : AudioDatagram} (buffer : BufferIndex)
      (at_scan : state.eventLoop = .scanning ticket datagram buffer.val)
      (free : (state.buffers buffer).pendingWorkers = 0) :
      Moved state ((state.setBuffer buffer { state.buffers buffer with
        pendingWorkers := exclusive }).setLoop (.filling ticket datagram buffer))
  | fills {ticket : Nat} {datagram : AudioDatagram} {buffer : BufferIndex} (now : Time)
      (at_fill : state.eventLoop = .filling ticket datagram buffer) :
      Moved state ((state.setBuffer buffer { state.buffers buffer with
        bytes := datagram.bytes ++ (state.buffers buffer).bytes.drop datagram.bytes.length
        size := datagram.bytes.length
        admittedAt := now }).setLoop (.sharing ticket datagram buffer))
  | shares {ticket : Nat} {datagram : AudioDatagram} {buffer : BufferIndex}
      (at_share : state.eventLoop = .sharing ticket datagram buffer) :
      Moved state ((state.setBuffer buffer { state.buffers buffer with
        pendingWorkers := UInt32.ofNat mediaWorkerCount }).setLoop
          (.checking ⟨ticket, datagram, buffer, ⟨0, by decide⟩⟩))
  | findsFull {push : Push} (at_check : state.eventLoop = .checking push) :
      Moved state (state.setLoop (.completing push .load))
  | findsRoom {push : Push} (at_check : state.eventLoop = .checking push)
      (room : (state.queues push.worker).isFull = false) :
      Moved state (state.setLoop (.storing push))
  | stores {push : Push} (at_store : state.eventLoop = .storing push) :
      Moved state ((state.setQueue push.worker
        ((state.queues push.worker).store (some push.task))).setLoop (.publishing push))
  | publishes {push : Push} (at_publish : state.eventLoop = .publishing push) :
      Moved state ((state.setQueue push.worker (state.queues push.worker).publish).setLoop
        (.releasing push))
  | releases {push : Push} (at_release : state.eventLoop = .releasing push) :
      Moved state ((state.setReady push.worker (state.ready push.worker + 1)).setLoop push.next)
  | loopCompletes {push : Push} {completion : Completion} {buffer : FanOutBuffer}
      {rest : Option Completion} (at_complete : state.eventLoop = .completing push completion)
      (completes : Completes (state.buffers push.buffer) completion buffer rest) :
      Moved state ((state.setBuffer push.buffer buffer).setLoop (push.after rest))
  | acquires {index : WorkerIndex} (at_wait : state.workers index = .waiting)
      (permit : 0 < state.ready index) :
      Moved state ((state.setReady index (state.ready index - 1)).setWorker index .popping)
  | misses {index : WorkerIndex} (at_pop : state.workers index = .popping)
      (none_left : (state.queues index).isEmpty = true) :
      Moved state (state.setWorker index .waiting)
  | hits {index : WorkerIndex} (at_pop : state.workers index = .popping) :
      Moved state (state.setWorker index .taking)
  | takes {index : WorkerIndex} (at_take : state.workers index = .taking) :
      Moved state (state.setWorker index (.advancing (state.queues index).front))
  | advances {index : WorkerIndex} {slot : Option FanOutTask}
      (at_advance : state.workers index = .advancing slot) :
      Moved state ((state.setQueue index (state.queues index).advance).setWorker index
        (.popped index slot))
  | finishes {index : WorkerIndex} {task : FanOutTask} {position : Nat}
      (at_send : state.workers index = .sending task position)
      (ended : task.endpoints[position]? = none) :
      Moved state (({ state with finished := state.finished ++ [(index, task)] }
        : FanOut).setWorker index (.completing task .load))
  | skips {index : WorkerIndex} {task : FanOutTask} {position : Nat}
      (at_send : state.workers index = .sending task position)
      (listed : task.endpoints[position]? = some task.sender) :
      Moved state (state.setWorker index (.sending task (position + mediaWorkerCount)))
  | expires {index : WorkerIndex} {task : FanOutTask} {position : Nat}
      (at_send : state.workers index = .sending task position) :
      Moved state (({ state with expired := state.expired ++ [(task.ticket, position)] }
        : FanOut).setWorker index (.sending task (position + mediaWorkerCount)))
  | sends {index : WorkerIndex} {task : FanOutTask} {position : Nat} {endpoint : Endpoint}
      (at_send : state.workers index = .sending task position)
      (listed : task.endpoints[position]? = some endpoint) (other : endpoint ≠ task.sender) :
      Moved state (({ state with
        sent := state.sent ++ [⟨index, task.ticket, position, endpoint,
          (state.buffers task.buffer).bytes.take (state.buffers task.buffer).size⟩] }
        : FanOut).setWorker index (.sending task (position + mediaWorkerCount)))
  | workerCompletes {index : WorkerIndex} {task : FanOutTask} {completion : Completion}
      {buffer : FanOutBuffer} {rest : Option Completion}
      (at_complete : state.workers index = .completing task completion)
      (completes : Completes (state.buffers task.buffer) completion buffer rest) :
      Moved state ((state.setBuffer task.buffer buffer).setWorker index (.after task rest))

theorem receive_moved (state : FanOut) (datagram : AudioDatagram) :
    Moved state (state.receive datagram) := by
  unfold receive
  split
  next at_idle =>
    split
    · exact .refuses datagram at_idle
    · exact .accepts datagram at_idle
  · exact .stays

theorem eventLoopStep_moved (state : FanOut) (now : Time) (spurious : Bool) :
    Moved state (state.eventLoopStep now spurious) := by
  unfold eventLoopStep
  split
  · exact .stays
  next at_scan =>
    split
    next inside =>
      split
      next free => exact .claims ⟨_, inside⟩ at_scan free
      · exact .scans at_scan
    · exact .exhausts at_scan
  next at_fill => exact .fills now at_fill
  next at_share => exact .shares at_share
  next push at_check =>
    split
    · exact .findsFull at_check
    next room => exact .findsRoom at_check (Bool.not_eq_true _ ▸ room)
  next at_store => exact .stores at_store
  next at_publish => exact .publishes at_publish
  next at_release => exact .releases at_release
  next push completion at_complete =>
    have completes := completion.step_completes (state.buffers push.buffer) spurious
    split
    next buffer later outcome =>
      rw [outcome] at completes
      exact .loopCompletes at_complete completes
    next buffer outcome =>
      rw [outcome] at completes
      exact .loopCompletes at_complete completes

theorem workerStep_moved (state : FanOut) (index : WorkerIndex) (now : Time) (spurious : Bool) :
    Moved state (state.workerStep index now spurious) := by
  unfold workerStep
  split
  next at_wait =>
    split
    next permit => exact .acquires at_wait permit
    · exact .stays
  next at_pop =>
    split
    next none_left => exact .misses at_pop none_left
    · exact .hits at_pop
  next at_take => exact .takes at_take
  next slot at_advance =>
    cases slot with
    | none | some task => exact .advances at_advance
  next task position at_send =>
    split
    next ended => exact .finishes at_send ended
    rename_i endpoint listed
    split
    next other =>
      unfold sendMediaFromWorker
      simp only
      split
      · exact .expires at_send
      · exact .sends at_send listed other
    next own =>
      rw [Decidable.not_not.mp own] at listed
      exact .skips at_send listed
  next task completion at_complete =>
    have completes := completion.step_completes (state.buffers task.buffer) spurious
    split
    next buffer later outcome =>
      rw [outcome] at completes
      exact .workerCompletes at_complete completes
    next buffer outcome =>
      rw [outcome] at completes
      exact .workerCompletes at_complete completes

theorem step_moved (state : FanOut) (move : Move) : Moved state (state.step move) := by
  cases move with
  | receive datagram => exact receive_moved state datagram
  | eventLoop now spurious => exact eventLoopStep_moved state now spurious
  | worker index now spurious => exact workerStep_moved state index now spurious

/-- Whether the worker has used a permit for a task it has not taken off its queue yet. -/
def Worker.consumed : Worker → Nat
  | .popping | .taking | .advancing _ => 1
  | _ => 0

/-- Whether the event loop has pushed a task to the worker without its permit yet. -/
def EventLoop.owed (index : WorkerIndex) : EventLoop → Nat
  | .releasing push => if push.worker = index then 1 else 0
  | _ => 0

/-- Every queued task has its permit, the event loop only writes where there is
room, and the worker finds the task it has read. -/
structure QueuesKept (state : FanOut) : Prop where
  permits : ∀ index, (state.queues index).contents.length =
    state.ready index + (state.workers index).consumed + state.eventLoop.owed index
  room : ∀ push, state.eventLoop = .storing push ∨ state.eventLoop = .publishing push →
    (state.queues push.worker).isFull = false
  stored : ∀ push, state.eventLoop = .publishing push →
    (state.queues push.worker).slots (state.queues push.worker).writeIndex = some push.task
  front : ∀ index slot, state.workers index = .advancing slot →
    slot = (state.queues index).front

/-- Whether the event loop is inside of `try_push` or has yet to release the permit. -/
def EventLoop.pushing : EventLoop → Bool
  | .storing _ | .publishing _ | .releasing _ => true
  | _ => false

theorem EventLoop.owed_of_not_pushing {eventLoop : EventLoop} (outside : eventLoop.pushing = false)
    (index : WorkerIndex) : eventLoop.owed index = 0 := by
  cases eventLoop with
  | releasing push => cases outside
  | _ => rfl

theorem Push.next_pushing : push.next.pushing = false := by
  unfold Push.next
  split <;> rfl

theorem Push.after_pushing (rest : Option Completion) :
    (push.after rest).pushing = false := by
  cases rest with
  | none => exact push.next_pushing
  | some later => rfl

variable {state after : FanOut} {index : WorkerIndex}

theorem QueuesKept.some_left (kept : QueuesKept state) {index : WorkerIndex}
    (consumed : (state.workers index).consumed = 1) : (state.queues index).isEmpty = false := by
  rw [← Bool.not_eq_true, ← SlotRing.contents_eq_nil_iff, ← List.length_eq_zero_iff,
    kept.permits, consumed]
  omega

theorem initial_queuesKept : QueuesKept initial where
  permits := fun _ => rfl
  room := by rintro push (never | never) <;> cases never
  stored := fun _ never => nomatch never
  front := fun _ _ never => nomatch never

/-- The event loop moves outside of `try_push`. -/
theorem QueuesKept.of_loop (kept : QueuesKept state)
    (outside : state.eventLoop.pushing = false) (still : after.eventLoop.pushing = false)
    (queues : after.queues = state.queues) (ready : after.ready = state.ready)
    (workers : after.workers = state.workers) : QueuesKept after where
  permits := by
    intro index
    rw [queues, ready, workers, EventLoop.owed_of_not_pushing still, kept.permits,
      EventLoop.owed_of_not_pushing outside]
  room := by rintro push (writing | writing) <;> rw [writing] at still <;> cases still
  stored := by
    intro push writing
    rw [writing] at still
    cases still
  front := by
    rw [queues, workers]
    exact kept.front

/-- A worker moves without touching the queues or its permits. -/
theorem QueuesKept.of_worker (kept : QueuesKept state) {worker : Worker}
    (queues : after.queues = state.queues)
    (ready : after.ready = state.ready) (eventLoop : after.eventLoop = state.eventLoop)
    (workers : after.workers = update state.workers index worker)
    (consumed : worker.consumed = (state.workers index).consumed)
    (front : ∀ slot, worker = .advancing slot → slot = (state.queues index).front) :
    QueuesKept after where
  permits := by
    intro other
    rw [queues, ready, eventLoop, kept.permits, workers]
    by_cases same : other = index
    · rw [same, update_self, consumed]
    · rw [update_of_ne same]
  room := by
    rw [queues, eventLoop]
    exact kept.room
  stored := by
    rw [queues, eventLoop]
    exact kept.stored
  front := by
    intro other slot at_advance
    rw [queues]
    rw [workers, update_apply] at at_advance
    split at at_advance
    next same => exact same ▸ front slot at_advance
    · exact kept.front other slot at_advance

theorem QueuesKept.stores (kept : QueuesKept state) {push : Push}
    (at_store : state.eventLoop = .storing push) :
    QueuesKept ((state.setQueue push.worker
      ((state.queues push.worker).store (some push.task))).setLoop (.publishing push)) where
  permits := by
    intro index
    have before := kept.permits index
    rw [at_store] at before
    simp only [setLoop, setQueue]
    by_cases same : index = push.worker
    · rw [same] at before ⊢
      rw [update_self, SlotRing.contents_store, before]
      rfl
    · rw [update_of_ne same, before]
      rfl
  room := by
    rintro other (never | at_publish)
    · cases never
    cases at_publish
    simp only [setLoop, setQueue, update_self]
    exact kept.room push (.inl at_store)
  stored := by
    intro other at_publish
    cases at_publish
    simp only [setLoop, setQueue, update_self]
    exact SlotRing.store_slot _ _
  front := by
    intro index slot at_advance
    have before := kept.front index slot at_advance
    simp only [setLoop, setQueue]
    by_cases same : index = push.worker
    · subst same
      have consumed : (state.workers push.worker).consumed = 1 := by
        have now : state.workers push.worker = .advancing slot := at_advance
        rw [now]
        rfl
      rw [update_self, SlotRing.front_store _ _ (kept.some_left consumed)]
      exact before
    · rw [update_of_ne same]
      exact before

theorem QueuesKept.publishes (kept : QueuesKept state) {push : Push}
    (at_publish : state.eventLoop = .publishing push) :
    QueuesKept ((state.setQueue push.worker (state.queues push.worker).publish).setLoop
      (.releasing push)) where
  permits := by
    intro index
    have before := kept.permits index
    rw [at_publish] at before
    have none_owed : EventLoop.owed index (.publishing push) = 0 := rfl
    simp only [setLoop, setQueue, EventLoop.owed]
    by_cases same : index = push.worker
    · subst same
      rw [update_self, SlotRing.contents_publish _ (kept.room push (.inr at_publish)),
        List.length_append, List.length_singleton, if_pos rfl, before, none_owed]
    · rw [update_of_ne same, if_neg (Ne.symm same), before, none_owed]
  room := by rintro other (never | never) <;> cases never
  stored := by
    intro other never
    cases never
  front := by
    intro index slot at_advance
    have before := kept.front index slot at_advance
    simp only [setLoop, setQueue, update_apply]
    split
    next same =>
      subst same
      exact before
    · exact before

theorem QueuesKept.releases (kept : QueuesKept state) {push : Push}
    (at_release : state.eventLoop = .releasing push) :
    QueuesKept ((state.setReady push.worker (state.ready push.worker + 1)).setLoop push.next) where
  permits := by
    intro index
    have before := kept.permits index
    rw [at_release] at before
    simp only [EventLoop.owed] at before
    simp only [setLoop, setReady, EventLoop.owed_of_not_pushing push.next_pushing]
    by_cases same : index = push.worker
    · subst same
      rw [if_pos rfl] at before
      rw [update_self, before]
      omega
    · rw [if_neg (Ne.symm same)] at before
      rw [update_of_ne same, before]
  room := by
    have outside := push.next_pushing
    rintro other (writing | writing) <;> rw [show push.next = _ from writing] at outside <;>
      cases outside
  stored := by
    intro other writing
    have outside := push.next_pushing
    rw [show push.next = _ from writing] at outside
    cases outside
  front := kept.front

theorem QueuesKept.acquires (kept : QueuesKept state)
    (at_wait : state.workers index = .waiting) (permit : 0 < state.ready index) :
    QueuesKept ((state.setReady index (state.ready index - 1)).setWorker index .popping) where
  permits := by
    intro other
    have before := kept.permits other
    simp only [setWorker, setReady]
    by_cases same : other = index
    · subst same
      rw [at_wait] at before
      simp only [Worker.consumed] at before
      simp only [update_self, Worker.consumed]
      omega
    · simp only [update_of_ne same]
      exact before
  room := kept.room
  stored := kept.stored
  front := by
    intro other slot at_advance
    simp only [setWorker, setReady, update_apply] at at_advance
    split at at_advance
    · cases at_advance
    · exact kept.front other slot at_advance

theorem Worker.popped_consumed (index : WorkerIndex) (slot : Option FanOutTask) :
    (Worker.popped index slot).consumed = 0 ∧ ∀ other, Worker.popped index slot ≠ .advancing other := by
  cases slot with
  | none | some task => exact ⟨rfl, fun _ same => nomatch same⟩

theorem QueuesKept.advances (kept : QueuesKept state) {index : WorkerIndex}
    {slot : Option FanOutTask} (at_advance : state.workers index = .advancing slot) :
    QueuesKept ((state.setQueue index (state.queues index).advance).setWorker index
      (.popped index slot)) := by
  have consumed : (state.workers index).consumed = 1 := by
    rw [at_advance]
    rfl
  have some_left := kept.some_left consumed
  obtain ⟨none_consumed, not_advancing⟩ := Worker.popped_consumed index slot
  constructor
  · intro other
    have before := kept.permits other
    simp only [setWorker, setQueue]
    by_cases same : other = index
    · subst same
      rw [SlotRing.contents_advance _ some_left, List.length_cons, consumed] at before
      simp only [update_self, none_consumed]
      omega
    · simp only [update_of_ne same]
      exact before
  · intro push writing
    have before := kept.room push writing
    simp only [setWorker, setQueue, update_apply]
    split
    · exact SlotRing.advance_room _ some_left
    · exact before
  · intro push writing
    have before := kept.stored push writing
    simp only [setWorker, setQueue, update_apply]
    split
    next same =>
      rw [same] at before
      exact before
    · exact before
  · intro other later at_later
    simp only [setWorker, setQueue] at at_later ⊢
    by_cases same : other = index
    · subst same
      rw [update_self] at at_later
      exact absurd at_later (not_advancing later)
    · rw [update_of_ne same] at at_later ⊢
      exact kept.front other later at_later

theorem Worker.after_consumed (rest : Option Completion) :
    (Worker.after task rest).consumed = 0 ∧ ∀ slot, Worker.after task rest ≠ .advancing slot := by
  cases rest with
  | none | some later => exact ⟨rfl, fun _ same => nomatch same⟩

theorem moved_queuesKept (moved : Moved state after)
    (kept : QueuesKept state) : QueuesKept after := by
  cases moved with
  | stays => exact kept
  | refuses datagram here | accepts datagram here | scans here | exhausts here
  | claims buffer here free | fills now here | shares here | findsFull here =>
    exact kept.of_loop (by rw [here]; rfl) rfl rfl rfl rfl
  | findsRoom at_check room =>
    refine ⟨?_, ?_, ?_, kept.front⟩
    · intro index
      have before := kept.permits index
      rw [at_check] at before
      exact before
    · rintro push (at_store | never)
      · cases at_store
        exact room
      · cases never
    · intro push never
      cases never
  | stores at_store => exact kept.stores at_store
  | publishes at_publish => exact kept.publishes at_publish
  | releases at_release => exact kept.releases at_release
  | @loopCompletes push _ _ rest at_complete completes =>
    exact kept.of_loop (by rw [at_complete]; rfl) (push.after_pushing rest) rfl rfl rfl
  | acquires at_wait permit => exact kept.acquires at_wait permit
  | misses at_pop none_left =>
    have some_left := kept.some_left (by rw [at_pop]; rfl)
    rw [none_left] at some_left
    cases some_left
  | takes at_take =>
    refine kept.of_worker rfl rfl rfl rfl (by rw [at_take]; rfl) ?_
    intro slot same
    cases same
    rfl
  | advances at_advance => exact kept.advances at_advance
  | hits here | finishes here ended | skips here listed | expires here | sends here listed other =>
    refine kept.of_worker rfl rfl rfl rfl (by rw [here]; rfl) ?_
    intro slot same
    cases same
  | @workerCompletes _ task _ _ rest at_complete completes =>
    refine kept.of_worker rfl rfl rfl rfl ?_ ?_
    · rw [at_complete, (Worker.after_consumed task rest).1]
      rfl
    · intro slot same
      exact absurd same ((Worker.after_consumed task rest).2 slot)

end Sesivo.FanOut
