import Sesivo.Server.FanOutBuffers

set_option autoImplicit false

/- The tasks that are outstanding. A buffer is not rewritten while a task refers to
it, so every task finds the bytes of its datagram, and a completion never waits on a
counter that belongs to somebody else. -/

namespace Sesivo.FanOut

open Octets ShareCount Function

/-- The task the event loop has yet to push to some worker or to complete itself. -/
def EventLoop.task? : EventLoop → Option FanOutTask
  | .checking push | .storing push | .publishing push => some push.task
  | .releasing push => if push.worker.val + 1 < mediaWorkerCount then some push.task else none
  | .completing push completion =>
    if push.worker.val + 1 < mediaWorkerCount ∨ completion.shares = 1 then some push.task
    else none
  | _ => none

def Worker.task? : Worker → Option FanOutTask
  | .sending task _ => some task
  | .completing task completion => if completion.shares = 1 then some task else none
  | _ => none

/-- The task is neither completed nor given up by the event loop. -/
def Outstanding (state : FanOut) (task : FanOutTask) : Prop :=
  state.eventLoop.task? = some task ∨
    ∃ index, some task ∈ (state.queues index).contents ∨ (state.workers index).task? = some task

/-- A completion stands for a task or owns the buffer. -/
theorem Completion.shares_add_owners (completion : Completion) :
    completion.shares + completion.owners = 1 := by
  cases completion with
  | _ => rfl

/-- Who has no task has no share. -/
theorem no_share (buffer : BufferIndex) :
    (1 ≤ 0) ↔ ∃ task : FanOutTask, none = some task ∧ task.buffer = buffer := by
  constructor
  · intro positive
    omega
  · rintro ⟨task, never, -⟩
    cases never

theorem Push.share_iff {push : Push} {buffer : BufferIndex} {left : Nat} {held : Option FanOutTask}
    (whole : held = if 1 ≤ left then some push.task else none) :
    (1 ≤ if push.buffer = buffer then left else 0) ↔
      ∃ task, held = some task ∧ task.buffer = buffer := by
  subst whole
  by_cases own : push.buffer = buffer
  · rw [if_pos own]
    by_cases more : 1 ≤ left
    · rw [if_pos more]
      exact ⟨fun _ => ⟨push.task, rfl, own⟩, fun _ => more⟩
    · rw [if_neg more, ← no_share, iff_false_right (by decide)]
      exact more
  · rw [if_neg own]
    constructor
    · intro positive
      omega
    rintro ⟨task, found, same⟩
    split at found
    · cases found
      exact absurd same own
    · cases found

theorem EventLoop.share_iff (eventLoop : EventLoop) (buffer : BufferIndex) :
    1 ≤ eventLoop.shares buffer ↔ ∃ task, eventLoop.task? = some task ∧ task.buffer = buffer := by
  cases eventLoop with
  | idle | scanning | filling | sharing => exact no_share buffer
  | checking push | storing push | publishing push => exact Push.share_iff (if_pos (by omega)).symm
  | releasing push =>
    apply Push.share_iff
    simp only [EventLoop.task?]
    congr 1
    apply propext
    omega
  | completing push completion =>
    apply Push.share_iff
    have left : (push.worker.val + 1 < mediaWorkerCount ∨ completion.shares = 1) ↔
        1 ≤ mediaWorkerCount - (push.worker.val + 1) + completion.shares := by
      have one := completion.shares_add_owners
      omega
    simp only [EventLoop.task?, left]

theorem Worker.share_iff (worker : Worker) (buffer : BufferIndex) :
    1 ≤ worker.shares buffer ↔ ∃ task, worker.task? = some task ∧ task.buffer = buffer := by
  have held : ∀ task : FanOutTask, (1 ≤ if task.buffer = buffer then 1 else 0) ↔
      ∃ other, some task = some other ∧ other.buffer = buffer := by
    intro task
    by_cases own : task.buffer = buffer
    · rw [if_pos own]
      exact ⟨fun _ => ⟨task, rfl, own⟩, fun _ => le_refl 1⟩
    rw [if_neg own]
    constructor
    · intro positive
      omega
    rintro ⟨other, same, found⟩
    cases same
    exact absurd found own
  cases worker with
  | waiting | popping | taking | advancing => exact no_share buffer
  | sending task position => exact held task
  | completing task completion =>
    cases completion with
    | load | loop pending => exact held task
    | clear | release =>
      rw [Worker.shares, Completion.shares, ite_self]
      exact no_share buffer

theorem queueShares_iff (queue : MediaTaskQueue) (buffer : BufferIndex) :
    1 ≤ queueShares buffer queue ↔ ∃ task, some task ∈ queue.contents ∧ task.buffer = buffer := by
  show 0 < queue.contents.countP (refersTo buffer) ↔ _
  rw [List.countP_pos_iff]
  constructor
  · rintro ⟨slot, queued, refers⟩
    cases slot with
    | none => cases refers
    | some task => exact ⟨task, queued, of_decide_eq_true refers⟩
  · rintro ⟨task, queued, own⟩
    exact ⟨some task, queued, decide_eq_true own⟩

/-- The buffers that are counted are those of the outstanding tasks. -/
theorem share_iff (state : FanOut) (buffer : BufferIndex) :
    1 ≤ shares buffer state ↔ ∃ task, Outstanding state task ∧ task.buffer = buffer := by
  constructor
  · intro held
    by_cases loop : 1 ≤ state.eventLoop.shares buffer
    · obtain ⟨task, found, own⟩ := (state.eventLoop.share_iff buffer).mp loop
      exact ⟨task, .inl found, own⟩
    have rest : 1 ≤ total fun index => queueShares buffer (state.queues index) +
        (state.workers index).shares buffer := by
      rw [shares] at held
      omega
    obtain ⟨index, part⟩ := exists_of_total rest
    by_cases queued : 1 ≤ queueShares buffer (state.queues index)
    · obtain ⟨task, found, own⟩ := (queueShares_iff _ buffer).mp queued
      exact ⟨task, .inr ⟨index, .inl found⟩, own⟩
    have in_hand : 1 ≤ (state.workers index).shares buffer := by omega
    obtain ⟨task, found, own⟩ := ((state.workers index).share_iff buffer).mp in_hand
    exact ⟨task, .inr ⟨index, .inr found⟩, own⟩
  · rintro ⟨task, held | ⟨index, queued | held⟩, own⟩
    · have part := (state.eventLoop.share_iff buffer).mpr ⟨task, held, own⟩
      rw [shares]
      omega
    · have part := (queueShares_iff _ buffer).mpr ⟨task, queued, own⟩
      have bound := @share_le buffer state index
      omega
    have part := ((state.workers index).share_iff buffer).mpr ⟨task, held, own⟩
    have bound := @share_le buffer state index
    omega

theorem Outstanding.share {state : FanOut} {task : FanOutTask}
    (task_left : Outstanding state task) : 1 ≤ shares task.buffer state :=
  (share_iff state task.buffer).mpr ⟨task, task_left, rfl⟩

/- Where outstanding tasks come from. -/

/-- What a completion that goes on stands for, it stood for before. -/
theorem Completes.share {before after : FanOutBuffer} {completion : Completion}
    {rest : Option Completion} (completes : Completes before completion after rest)
    (left : sharesLeft rest = 1) : completion.shares = 1 := by
  cases completes with
  | load | retry pending | spin pending foreign => rfl
  | drop several | last single | clear | release => cases left

theorem Push.next_task (push : Push) : push.next.task? =
    if push.worker.val + 1 < mediaWorkerCount then some push.task else none := by
  unfold Push.next
  split <;> rfl

theorem Push.after_task (push : Push) (rest : Option Completion) : (push.after rest).task? =
    if push.worker.val + 1 < mediaWorkerCount ∨ sharesLeft rest = 1 then some push.task
    else none := by
  cases rest with
  | none => simp [Push.after, push.next_task, sharesLeft]
  | some later => rfl

theorem Worker.after_task (task : FanOutTask) (rest : Option Completion) :
    (Worker.after task rest).task? = if sharesLeft rest = 1 then some task else none := by
  cases rest with
  | none => rfl
  | some later => rfl

variable {state after : FanOut}

variable {buffer : BufferIndex} {index : WorkerIndex} {task : FanOutTask} {push : Push}
variable {before now : FanOutBuffer} {completion : Completion} {rest : Option Completion}
variable {ticket : Nat} {datagram : AudioDatagram} {worker : Worker}

/-- A move of the event loop that leaves the queues and the workers alone. -/
theorem Outstanding.of_loop (task_left : Outstanding after task)
    (queues : after.queues = state.queues) (workers : after.workers = state.workers)
    (held : after.eventLoop.task? = some task → state.eventLoop.task? = some task) :
    Outstanding state task := by
  rcases task_left with in_loop | elsewhere
  · exact .inl (held in_loop)
  · rw [queues, workers] at elsewhere
    exact .inr elsewhere

/-- A move of a worker that leaves the queues and the event loop alone. -/
theorem Outstanding.of_worker (task_left : Outstanding after task)
    (queues : after.queues = state.queues) (eventLoop : after.eventLoop = state.eventLoop)
    (workers : after.workers = update state.workers index worker)
    (held : worker.task? = some task → (state.workers index).task? = some task) :
    Outstanding state task := by
  rcases task_left with in_loop | ⟨other, queued | in_hand⟩
  · rw [eventLoop] at in_loop
    exact .inl in_loop
  · rw [queues] at queued
    exact .inr ⟨other, .inl queued⟩
  rw [workers, update_apply] at in_hand
  split at in_hand
  · exact .inr ⟨index, .inr (held in_hand)⟩
  · exact .inr ⟨other, .inr in_hand⟩

/-- A move of the event loop that replaces one queue. -/
theorem Outstanding.of_queue (task_left : Outstanding after task) {queue : MediaTaskQueue}
    (queues : after.queues = update state.queues index queue)
    (workers : after.workers = state.workers)
    (held : after.eventLoop.task? = some task → state.eventLoop.task? = some task)
    (queued : some task ∈ queue.contents → Outstanding state task) : Outstanding state task := by
  rcases task_left with in_loop | ⟨other, in_queue | in_hand⟩
  · exact .inl (held in_loop)
  · rw [queues, update_apply] at in_queue
    split at in_queue
    · exact queued in_queue
    · exact .inr ⟨other, .inl in_queue⟩
  · rw [workers] at in_hand
    exact .inr ⟨other, .inr in_hand⟩

/-- A worker takes the oldest task off its queue. -/
theorem Outstanding.of_advance (kept : QueuesKept state)
    {slot : Option FanOutTask} (at_advance : state.workers index = .advancing slot)
    (task_left : Outstanding ((state.setQueue index
      (state.queues index).advance).setWorker index (.popped index slot)) task) :
    Outstanding state task := by
  have some_left := @QueuesKept.some_left state kept index (by rw [at_advance]; rfl)
  have contents := SlotRing.contents_advance _ some_left
  rcases task_left with in_loop | ⟨other, queued | in_hand⟩
  · exact .inl in_loop
  · simp only [setWorker, setQueue, update_apply] at queued
    split at queued
    · refine .inr ⟨index, .inl ?_⟩
      rw [contents]
      exact List.mem_cons_of_mem _ queued
    · exact .inr ⟨other, .inl queued⟩
  · simp only [setWorker, setQueue, update_apply] at in_hand
    split at in_hand
    · have popped : slot = some task := by
        cases slot with
        | none => cases in_hand
        | some popped => exact in_hand
      refine .inr ⟨index, .inl ?_⟩
      rw [contents, ← kept.front index slot at_advance, popped]
      exact List.mem_cons_self
    · exact .inr ⟨other, .inr in_hand⟩

/-- A task that is outstanding was so before, or its buffer has just been shared. -/
theorem moved_outstanding (moved : Moved state after) (kept : QueuesKept state)
    (task_left : Outstanding after task) :
    Outstanding state task ∨ ∃ ticket datagram buffer,
      state.eventLoop = .sharing ticket datagram buffer ∧
        task = ⟨buffer, datagram.endpoints, datagram.sender, ticket⟩ ∧
        (after.buffers buffer).bytes = (state.buffers buffer).bytes ∧
        (after.buffers buffer).size = (state.buffers buffer).size := by
  cases moved with
  | stays => exact .inl task_left
  | refuses datagram at_idle | accepts datagram at_idle | scans at_scan | exhausts at_scan
  | claims buffer at_scan free | fills now at_fill =>
    exact .inl (task_left.of_loop rfl rfl (fun never => by cases never))
  | @shares ticket datagram buffer at_share =>
    rcases task_left with in_loop | elsewhere
    · refine .inr ⟨ticket, datagram, buffer, at_share, (Option.some.inj in_loop).symm, ?_⟩
      simp [setLoop, setBuffer]
    · exact .inl (.inr elsewhere)
  | findsFull at_check =>
    refine .inl (task_left.of_loop rfl rfl (fun held => ?_))
    rw [at_check]
    exact (if_pos (.inr rfl)).symm.trans held
  | findsRoom at_check room =>
    refine .inl (task_left.of_loop rfl rfl (fun held => ?_))
    rw [at_check]
    exact held
  | stores at_store =>
    refine .inl (task_left.of_queue rfl rfl (fun held => ?_) (fun queued => ?_))
    · rw [at_store]
      exact held
    · rw [SlotRing.contents_store] at queued
      exact .inr ⟨_, .inl queued⟩
  | @publishes push at_publish =>
    refine .inl (task_left.of_queue rfl rfl (fun held => ?_) (fun queued => ?_))
    · rw [at_publish]
      simp only [setLoop, EventLoop.task?] at held
      split at held
      · exact held
      · cases held
    · rw [SlotRing.contents_publish _ (kept.room push (.inr at_publish)),
        kept.stored push at_publish, List.mem_append, List.mem_singleton] at queued
      rcases queued with older | newest
      · exact .inr ⟨_, .inl older⟩
      refine .inl ?_
      rw [at_publish, newest]
      rfl
  | @releases push at_release =>
    refine .inl (task_left.of_loop rfl rfl (fun held => ?_))
    rw [at_release]
    exact push.next_task.symm.trans held
  | @loopCompletes push completion _ rest at_complete completes =>
    refine .inl (task_left.of_loop rfl rfl (fun held => ?_))
    have goes_on : (push.after rest).task? = some task := held
    rw [push.after_task] at goes_on
    split at goes_on
    next left =>
      rw [at_complete, ← goes_on]
      exact if_pos (left.imp_right completes.share)
    · cases goes_on
  | acquires at_wait permit | misses at_pop none_left | hits at_pop | takes at_take =>
    exact .inl (task_left.of_worker rfl rfl rfl (fun never => by cases never))
  | advances at_advance => exact .inl (.of_advance kept at_advance task_left)
  | finishes at_send ended | skips at_send listed | expires at_send | sends at_send listed other =>
    exact .inl (task_left.of_worker rfl rfl rfl (fun held => by rw [at_send]; exact held))
  | workerCompletes at_complete completes =>
    refine .inl (task_left.of_worker rfl rfl rfl (fun held => ?_))
    rw [Worker.after_task] at held
    split at held
    next left =>
      rw [at_complete, ← held]
      exact if_pos (completes.share left)
    · cases held

/- The bytes the tasks find. -/

/-- The buffer holds what the task's datagram holds, and the task is addressed like it. -/
def Carries (state : FanOut) (task : FanOutTask) : Prop :=
  ∃ datagram, state.accepted[task.ticket]? = some datagram ∧
    task.endpoints = datagram.endpoints ∧ task.sender = datagram.sender ∧
    (state.buffers task.buffer).bytes.take (state.buffers task.buffer).size = datagram.bytes

/-- A completion that does not own the buffer leaves its contents alone. -/
theorem Completes.contents (completes : Completes before completion now rest)
    (unowned : completion.owners = 0) : now.bytes = before.bytes ∧ now.size = before.size := by
  cases completes with
  | clear => cases unowned
  | _ => exact ⟨rfl, rfl⟩

/-- The event loop is at work on the buffer. -/
theorem loop_owner_le (state : FanOut) (buffer : BufferIndex) :
    state.eventLoop.owners buffer ≤ owners buffer state :=
  Nat.le_add_right _ _

/-- A buffer is not rewritten while a task that refers to it is outstanding. -/
theorem moved_contents (moved : Moved state after) (counted : BuffersCounted state)
    (held : 1 ≤ shares buffer state) :
    (after.buffers buffer).bytes = (state.buffers buffer).bytes ∧
      (after.buffers buffer).size = (state.buffers buffer).size := by
  obtain ⟨unowned, -⟩ := (counted buffer).of_share held
  have loop_unowned := loop_owner_le state buffer
  have replaced : ∀ (other : BufferIndex) (now : FanOutBuffer),
      (other = buffer → now.bytes = (state.buffers other).bytes ∧
        now.size = (state.buffers other).size) →
      (update state.buffers other now buffer).bytes = (state.buffers buffer).bytes ∧
        (update state.buffers other now buffer).size = (state.buffers buffer).size := by
    intro other now same_contents
    by_cases same : other = buffer
    · subst same
      rw [update_self]
      exact same_contents rfl
    · rw [update_of_ne (Ne.symm same)]
      exact ⟨rfl, rfl⟩
  cases moved with
  | claims other at_scan free => exact replaced other _ (fun _ => ⟨rfl, rfl⟩)
  | fills now at_fill =>
    apply replaced
    intro same
    rw [at_fill, EventLoop.owners, if_pos same] at loop_unowned
    omega
  | shares at_share => exact replaced _ _ (fun _ => ⟨rfl, rfl⟩)
  | @loopCompletes push completion _ _ at_complete completes =>
    apply replaced
    intro same
    rw [at_complete, EventLoop.owners, if_pos same] at loop_unowned
    exact completes.contents (by omega)
  | @workerCompletes index task completion _ _ at_complete completes =>
    apply replaced
    intro same
    have bound := @owner_le buffer state index
    rw [at_complete, Worker.owners, if_pos same] at bound
    exact completes.contents (by omega)
  | _ => exact ⟨rfl, rfl⟩

def EventLoop.datagram? : EventLoop → Option (Nat × AudioDatagram)
  | .idle => none
  | .scanning ticket datagram _ | .filling ticket datagram _ | .sharing ticket datagram _ =>
    some (ticket, datagram)
  | .checking push | .storing push | .publishing push | .releasing push | .completing push _ =>
    some (push.ticket, push.datagram)

/-- Every outstanding task finds its datagram, and the event loop is at work on the
last one that was accepted. -/
structure TasksCarried (state : FanOut) : Prop where
  current : ∀ ticket datagram, state.eventLoop.datagram? = some (ticket, datagram) →
    state.accepted[ticket]? = some datagram ∧ ticket + 1 = state.accepted.length
  filled : ∀ ticket datagram buffer, state.eventLoop = .sharing ticket datagram buffer →
    (state.buffers buffer).bytes.take (state.buffers buffer).size = datagram.bytes
  tasks : ∀ task, Outstanding state task → Carries state task

theorem initial_tasksCarried : TasksCarried initial where
  current := fun _ _ never => nomatch never
  filled := fun _ _ _ never => nomatch never
  tasks := by rintro task (never | ⟨index, never | never⟩) <;> cases never

/-- Accepted datagrams keep their number. -/
theorem moved_accepted (moved : Moved state after) :
    after.accepted = state.accepted ∨ ∃ datagram, after.accepted = state.accepted ++ [datagram] := by
  cases moved with
  | refuses datagram at_idle | accepts datagram at_idle => exact .inr ⟨datagram, rfl⟩
  | _ => exact .inl rfl

theorem moved_accepted_of_some (moved : Moved state after)
    (found : state.accepted[ticket]? = some datagram) :
    after.accepted[ticket]? = some datagram := by
  rcases moved_accepted moved with same | ⟨newest, longer⟩
  · rw [same]
    exact found
  obtain ⟨inside, -⟩ := List.getElem?_eq_some_iff.mp found
  rw [longer, List.getElem?_append_left inside]
  exact found

theorem Push.next_datagram (working : push.next.datagram? = some (ticket, datagram)) :
    (push.ticket, push.datagram) = (ticket, datagram) := by
  unfold Push.next at working
  split at working
  · exact Option.some.inj working
  · cases working

theorem Push.after_datagram (working : (push.after rest).datagram? = some (ticket, datagram)) :
    (push.ticket, push.datagram) = (ticket, datagram) := by
  cases rest with
  | none => exact Push.next_datagram working
  | some later => exact Option.some.inj working

/-- A datagram the event loop is at work on after a move has just been accepted, or
the loop was at work on it already and nothing else was accepted. -/
theorem moved_datagram (moved : Moved state after)
    (working : after.eventLoop.datagram? = some (ticket, datagram)) :
    (after.accepted = state.accepted ++ [datagram] ∧ ticket = state.accepted.length) ∨
      (after.accepted = state.accepted ∧
        state.eventLoop.datagram? = some (ticket, datagram)) := by
  cases moved with
  | refuses | exhausts => cases working
  | accepts =>
    cases working
    exact .inl ⟨rfl, rfl⟩
  | scans here | claims buffer here free | fills now here | shares here | findsFull here
  | findsRoom here room | stores here | publishes here =>
    exact .inr ⟨rfl, by rw [here]; exact working⟩
  | releases at_release =>
    refine .inr ⟨rfl, ?_⟩
    rw [at_release]
    exact congrArg some (Push.next_datagram working)
  | loopCompletes at_complete completes =>
    refine .inr ⟨rfl, ?_⟩
    rw [at_complete]
    exact congrArg some (Push.after_datagram working)
  | _ => exact .inr ⟨rfl, working⟩

theorem Push.after_ne_sharing (push : Push) (rest : Option Completion) (ticket : Nat)
    (datagram : AudioDatagram) (buffer : BufferIndex) :
    push.after rest ≠ .sharing ticket datagram buffer := by
  intro same
  cases rest with
  | none =>
    simp only [Push.after, Push.next] at same
    split at same <;> cases same
  | some later => cases same

/-- While the event loop owns a buffer, no worker completes a task of it. -/
theorem BuffersCounted.worker_apart (counted : BuffersCounted state)
    (owned : state.eventLoop.owners buffer = 1)
    (at_complete : state.workers index = .completing task completion) :
    task.buffer ≠ buffer := by
  intro same
  have most := (counted buffer).owners_le
  have one := completion.shares_add_owners
  have owner_part := le_total (fun index => (state.workers index).owners buffer) index
  have owner : (state.workers index).owners buffer = completion.owners := by
    rw [at_complete]
    exact if_pos same
  have share_part := @share_le buffer state index
  have share : (state.workers index).shares buffer = completion.shares := by
    rw [at_complete]
    exact if_pos same
  have all : owners buffer state =
      state.eventLoop.owners buffer + total fun index => (state.workers index).owners buffer := rfl
  obtain ⟨none_left, -⟩ := (counted buffer).owned (by omega)
  omega

theorem moved_filled (moved : Moved state after) (counted : BuffersCounted state)
    (carried : TasksCarried state) (sharing : after.eventLoop = .sharing ticket datagram buffer) :
    (after.buffers buffer).bytes.take (after.buffers buffer).size = datagram.bytes := by
  cases moved with
  | fills now at_fill =>
    cases sharing
    simp only [setLoop, setBuffer, update_self]
    exact List.take_left
  | refuses | accepts | scans | exhausts | claims | shares | findsFull | findsRoom | stores
  | publishes => cases sharing
  | @releases push at_release => exact absurd sharing (push.after_ne_sharing none _ _ _)
  | @loopCompletes push _ _ rest at_complete completes =>
    exact absurd sharing (push.after_ne_sharing rest _ _ _)
  | workerCompletes at_complete completes =>
    have before : state.eventLoop = .sharing ticket datagram buffer := sharing
    have owned : state.eventLoop.owners buffer = 1 := by
      rw [before]
      exact if_pos rfl
    have apart := counted.worker_apart owned at_complete
    simp only [setWorker, setBuffer, update_of_ne (Ne.symm apart)]
    exact carried.filled ticket datagram buffer before
  | _ => exact carried.filled ticket datagram buffer sharing

theorem moved_tasksCarried (moved : Moved state after) (kept : QueuesKept state)
    (counted : BuffersCounted state) (carried : TasksCarried state) : TasksCarried after where
  current := by
    intro ticket datagram working
    rcases moved_datagram moved working with ⟨longer, newest⟩ | ⟨same, before⟩
    · subst newest
      rw [longer, List.getElem?_concat_length, List.length_append]
      exact ⟨rfl, rfl⟩
    · rw [same]
      exact carried.current ticket datagram before
  filled := fun _ _ _ sharing => moved_filled moved counted carried sharing
  tasks := by
    intro task task_left
    rcases moved_outstanding moved kept task_left with
      before | ⟨ticket, datagram, buffer, sharing, rfl, same_bytes, same_size⟩
    · obtain ⟨datagram, found, endpoints, sender, bytes⟩ := carried.tasks task before
      obtain ⟨same_bytes, same_size⟩ := moved_contents moved counted before.share
      refine ⟨datagram, moved_accepted_of_some moved found, endpoints, sender, ?_⟩
      rw [same_bytes, same_size]
      exact bytes
    · have working : state.eventLoop.datagram? = some (ticket, datagram) := by
        rw [sharing]
        rfl
      have found := (carried.current ticket datagram working).1
      refine ⟨datagram, moved_accepted_of_some moved found, rfl, rfl, ?_⟩
      rw [same_bytes, same_size]
      exact carried.filled ticket datagram buffer sharing

/- The completions. -/

/-- The value a completion compares with has not fallen behind the counter: every
retry finds a smaller one. -/
structure LoopsSound (state : FanOut) : Prop where
  eventLoop : ∀ push pending, state.eventLoop = .completing push (.loop pending) →
    (state.buffers push.buffer).pendingWorkers ≤ pending ∧ pending.toNat ≤ mediaWorkerCount
  workers : ∀ index task pending, state.workers index = .completing task (.loop pending) →
    (state.buffers task.buffer).pendingWorkers ≤ pending ∧ pending.toNat ≤ mediaWorkerCount

theorem initial_loopsSound : LoopsSound initial where
  eventLoop := fun _ _ never => nomatch never
  workers := fun _ _ _ never => nomatch never

/-- A completion does not raise the counter of a buffer that stays shared. -/
theorem Completes.counter_le (completes : Completes before completion now rest)
    {shares_before shares_now owners_before owners_now : Nat}
    (counted : Counted mediaWorkerCount before.pendingWorkers shares_before owners_before)
    (counted_now : Counted mediaWorkerCount now.pendingWorkers shares_now owners_now)
    (left : 1 ≤ shares_now) (unowned : completion.owners ≤ owners_before)
    (held : 1 ≤ shares_before) : now.pendingWorkers ≤ before.pendingWorkers := by
  cases completes with
  | drop several =>
    rw [UInt32.lt_iff_toNat_lt] at several
    rw [UInt32.le_iff_toNat_le, UInt32.toNat_sub_of_le _ _ (UInt32.le_iff_toNat_le.mpr (by omega))]
    omega
  | last single =>
    obtain ⟨-, same⟩ := counted_now.of_share left
    have bound := counted_now.shares_le
    have large : exclusive.toNat = 4294967295 := rfl
    have few : mediaWorkerCount = 4 := rfl
    simp only at same
    omega
  | release =>
    obtain ⟨none_owns, -⟩ := counted.of_share held
    simp only [Completion.owners] at unowned
    omega
  | _ => exact UInt32.le_refl _

/-- The counter of a buffer does not rise while it is shared. -/
theorem moved_counter_le (moved : Moved state after) (counted : BuffersCounted state)
    (counted_now : BuffersCounted after)
    (held : 1 ≤ shares buffer state) (left : 1 ≤ shares buffer after) :
    (after.buffers buffer).pendingWorkers ≤ (state.buffers buffer).pendingWorkers := by
  obtain ⟨unowned, same⟩ := (counted buffer).of_share held
  have loop_unowned := loop_owner_le state buffer
  have replaced : ∀ (other : BufferIndex) (now : FanOutBuffer),
      (other = buffer → now.pendingWorkers ≤ (state.buffers other).pendingWorkers) →
      (update state.buffers other now buffer).pendingWorkers ≤
        (state.buffers buffer).pendingWorkers := by
    intro other now lower
    by_cases own : other = buffer
    · subst own
      rw [update_self]
      exact lower rfl
    · rw [update_of_ne (Ne.symm own)]
      exact UInt32.le_refl _
  have now_counted := counted_now buffer
  cases moved with
  | claims other at_scan free =>
    apply replaced
    intro own
    subst own
    have zero : (0 : UInt32).toNat = 0 := rfl
    rw [free] at same
    omega
  | fills now at_fill => exact replaced _ _ (fun _ => UInt32.le_refl _)
  | shares at_share =>
    apply replaced
    intro own
    rw [at_share, EventLoop.owners, if_pos own] at loop_unowned
    omega
  | @loopCompletes push completion _ _ at_complete completes =>
    apply replaced
    intro own
    subst own
    rw [at_complete, EventLoop.owners, if_pos rfl] at loop_unowned
    simp only [setLoop, setBuffer, update_self] at now_counted
    exact completes.counter_le (counted _) now_counted left loop_unowned held
  | @workerCompletes index task completion _ _ at_complete completes =>
    apply replaced
    intro own
    subst own
    have bound := @owner_le task.buffer state index
    rw [at_complete, Worker.owners, if_pos rfl] at bound
    simp only [setWorker, setBuffer, update_self] at now_counted
    exact completes.counter_le (counted _) now_counted left bound held
  | _ => exact UInt32.le_refl _

/-- A completion compares with the value it compared with before or with the counter. -/
theorem Completes.pending {pending : UInt32}
    (completes : Completes before completion now (some (.loop pending))) :
    completion = .loop pending ∨ now.pendingWorkers = pending := by
  cases completes with
  | load => exact .inr rfl
  | retry other => exact .inr rfl
  | spin other foreign => exact .inl rfl

theorem Push.after_completing {other : Push} {rest : Option Completion}
    {completion : Completion} (same : push.after rest = .completing other completion) :
    push = other ∧ rest = some completion := by
  cases rest with
  | none =>
    simp only [Push.after, Push.next] at same
    split at same <;> cases same
  | some later =>
    cases same
    exact ⟨rfl, rfl⟩

theorem Worker.after_completing {other : FanOutTask} {rest : Option Completion}
    {completion : Completion} (same : Worker.after task rest = .completing other completion) :
    task = other ∧ rest = some completion := by
  cases rest with
  | none => cases same
  | some later =>
    cases same
    exact ⟨rfl, rfl⟩

theorem moved_loop_pending (moved : Moved state after) {pending : UInt32}
    (looping : after.eventLoop = .completing push (.loop pending)) :
    state.eventLoop = .completing push (.loop pending) ∨
      (after.buffers push.buffer).pendingWorkers = pending := by
  cases moved with
  | refuses | accepts | scans | exhausts | claims | fills | shares | findsFull | findsRoom | stores
  | publishes => cases looping
  | @releases released at_release =>
    obtain ⟨-, never⟩ := @Push.after_completing released push none _ looping
    cases never
  | loopCompletes at_complete completes =>
    obtain ⟨rfl, rfl⟩ := Push.after_completing looping
    rcases completes.pending with rfl | found
    · exact .inl at_complete
    refine .inr ?_
    simp only [setLoop, setBuffer, update_self]
    exact found
  | _ => exact .inl looping

/-- A worker that stands where the one that moves does not stand has not moved. -/
theorem worker_of_update {other : WorkerIndex} {now : Worker}
    (found : update state.workers index worker other = now) (different : worker ≠ now) :
    state.workers other = now := by
  rw [update_apply] at found
  split at found
  · exact absurd found different
  · exact found

theorem moved_worker_pending (moved : Moved state after)
    {pending : UInt32} (looping : after.workers index = .completing task (.loop pending)) :
    state.workers index = .completing task (.loop pending) ∨
      (after.buffers task.buffer).pendingWorkers = pending := by
  cases moved with
  | acquires at_wait permit | misses at_pop none_left | hits at_pop | takes at_take
  | finishes at_send ended | skips at_send listed | expires at_send | sends at_send listed other =>
    exact .inl (worker_of_update looping (fun never => by cases never))
  | @advances _ slot at_advance =>
    exact .inl (worker_of_update looping (fun never => by cases slot <;> cases never))
  | @workerCompletes mover other _ _ rest at_complete completes =>
    by_cases goes_on : Worker.after other rest = .completing task (.loop pending)
    · obtain ⟨rfl, rfl⟩ := Worker.after_completing goes_on
      by_cases same : index = mover
      · subst same
        rcases completes.pending with rfl | found
        · exact .inl at_complete
        refine .inr ?_
        simp only [setWorker, setBuffer, update_self]
        exact found
      · exact .inl ((update_of_ne same _ _).symm.trans looping)
    · exact .inl (worker_of_update looping goes_on)
  | _ => exact .inl looping

/-- The counter a process with an outstanding task reads is the number of those left. -/
theorem BuffersCounted.counter_le (counted : BuffersCounted state)
    (held : 1 ≤ shares buffer state) :
    (state.buffers buffer).pendingWorkers.toNat ≤ mediaWorkerCount := by
  obtain ⟨-, same⟩ := (counted buffer).of_share held
  have bound := (counted buffer).shares_le
  omega

theorem moved_loopsSound (moved : Moved state after) (counted : BuffersCounted state)
    (counted_now : BuffersCounted after) (sound : LoopsSound state) : LoopsSound after where
  eventLoop := by
    intro push pending looping
    have left : 1 ≤ shares push.buffer after := by
      apply @Outstanding.share after push.task
      refine .inl ?_
      rw [looping]
      exact if_pos (.inr rfl)
    rcases moved_loop_pending moved looping with before | found
    · have held : 1 ≤ shares push.buffer state := by
        apply @Outstanding.share state push.task
        refine .inl ?_
        rw [before]
        exact if_pos (.inr rfl)
      obtain ⟨behind, few⟩ := sound.eventLoop push pending before
      exact ⟨UInt32.le_trans (moved_counter_le moved counted counted_now held left) behind, few⟩
    · rw [← found]
      exact ⟨UInt32.le_refl _, counted_now.counter_le left⟩
  workers := by
    intro index task pending looping
    have left : 1 ≤ shares task.buffer after := by
      apply Outstanding.share
      refine .inr ⟨index, .inr ?_⟩
      rw [looping]
      rfl
    rcases moved_worker_pending moved looping with before | found
    · have held : 1 ≤ shares task.buffer state := by
        apply Outstanding.share
        refine .inr ⟨index, .inr ?_⟩
        rw [before]
        rfl
      obtain ⟨behind, few⟩ := sound.workers index task pending before
      exact ⟨UInt32.le_trans (moved_counter_le moved counted counted_now held left) behind, few⟩
    · rw [← found]
      exact ⟨UInt32.le_refl _, counted_now.counter_le left⟩

end Sesivo.FanOut
