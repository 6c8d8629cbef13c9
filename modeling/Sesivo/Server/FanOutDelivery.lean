import Sesivo.Server.FanOutTasks
import Sesivo.Server.Relay

set_option autoImplicit false

/- What the media workers send. The tickets on the way to a worker increase, so no
datagram is sent to an endpoint twice; every endpoint of a room snapshot belongs to
one worker, which passes over none of them but the sender and what is too old. -/

namespace Sesivo.FanOut

open Octets ShareCount

/- The order of the tickets. -/

/-- The tickets pushed to the worker so far are below this one. -/
def EventLoop.bound (accepted : Nat) (index : WorkerIndex) : EventLoop → Nat
  | .idle => accepted
  | .scanning ticket _ _ | .filling ticket _ _ | .sharing ticket _ _ => ticket
  | .checking push | .storing push | .publishing push =>
    if push.worker.val ≤ index.val then push.ticket else push.ticket + 1
  | .releasing push | .completing push _ =>
    if push.worker.val < index.val then push.ticket else push.ticket + 1

def bound (state : FanOut) (index : WorkerIndex) : Nat :=
  state.eventLoop.bound state.accepted.length index

def queueTickets (queue : MediaTaskQueue) : List Nat :=
  queue.contents.filterMap fun slot => slot.map FanOutTask.ticket

def Worker.tickets : Worker → List Nat
  | .sending task _ => [task.ticket]
  | _ => []

/-- The tickets queued for the worker, and the bound of those to come. -/
def ahead (state : FanOut) (index : WorkerIndex) : List Nat :=
  queueTickets (state.queues index) ++ [bound state index]

/-- A worker takes the tickets in order, and what it has sent lies behind them. -/
structure SendingsOrdered (state : FanOut) : Prop where
  increasing : ∀ index,
    ((state.workers index).tickets ++ ahead state index).Pairwise (· < ·)
  past : ∀ sending ∈ state.sent, ∀ ticket ∈ ahead state sending.worker, sending.ticket < ticket
  present : ∀ sending ∈ state.sent, ∀ task position,
    state.workers sending.worker = .sending task position →
      sending.ticket < task.ticket ∨ (sending.ticket = task.ticket ∧ sending.index < position)
  residue : ∀ index task position, state.workers index = .sending task position →
    position % mediaWorkerCount = index.val
  own : ∀ sending ∈ state.sent, sending.index % mediaWorkerCount = sending.worker.val
  once : (state.sent.map fun sending => (sending.ticket, sending.index)).Nodup

theorem initial_sendingsOrdered : SendingsOrdered initial where
  increasing := by
    intro index
    exact List.pairwise_singleton _ _
  past := fun _ never => nomatch never
  present := fun _ never => nomatch never
  residue := fun _ _ _ never => nomatch never
  own := fun _ never => nomatch never
  once := List.nodup_nil

variable {state after : FanOut}

/-- Only the bound of the tickets to come is raised. -/
theorem increasing_raise {front : List Nat} {low high : Nat}
    (increasing : (front ++ [low]).Pairwise (· < ·)) (raised : low ≤ high) :
    (front ++ [high]).Pairwise (· < ·) := by
  rw [List.pairwise_append] at increasing ⊢
  refine ⟨increasing.1, List.pairwise_singleton _ _, ?_⟩
  intro ticket member other last
  have below := increasing.2.2 ticket member low List.mem_cons_self
  rw [List.mem_singleton.mp last]
  omega

theorem SendingsOrdered.of_loop (ordered : SendingsOrdered state)
    (queues : ∀ index, queueTickets (after.queues index) = queueTickets (state.queues index))
    (workers : after.workers = state.workers) (sent : after.sent = state.sent)
    (raised : ∀ index, bound state index ≤ bound after index) :
    SendingsOrdered after where
  increasing := by
    intro index
    have before := ordered.increasing index
    rw [ahead, ← List.append_assoc] at before ⊢
    rw [queues, workers]
    exact increasing_raise before (raised index)
  past := by
    intro sending member ticket found
    rw [sent] at member
    rw [ahead, queues, List.mem_append, List.mem_singleton] at found
    have before := ordered.past sending member
    rcases found with queued | last
    · exact before ticket (List.mem_append_left _ queued)
    have below := before _ (List.mem_append_right _ List.mem_cons_self)
    have higher := raised sending.worker
    omega
  present := by
    rw [sent, workers]
    exact ordered.present
  residue := by
    rw [workers]
    exact ordered.residue
  own := by
    rw [sent]
    exact ordered.own
  once := by
    rw [sent]
    exact ordered.once

variable {index : WorkerIndex} {task : FanOutTask} {position : Nat} {pending : UInt32}
variable (push : Push) {accepted : Nat} (moves : List Move)

/-- A worker moves without touching its queue or sending. -/
theorem SendingsOrdered.of_worker (ordered : SendingsOrdered state)
    {worker : Worker} (queues : after.queues = state.queues)
    (same_bound : ∀ other, bound after other = bound state other)
    (workers : after.workers = Function.update state.workers index worker)
    (sent : after.sent = state.sent) (fewer : worker.tickets.Sublist (state.workers index).tickets)
    (further : ∀ task position, worker = .sending task position →
      ∃ before, state.workers index = .sending task before ∧ before ≤ position ∧
        position % mediaWorkerCount = before % mediaWorkerCount) : SendingsOrdered after where
  increasing := by
    intro other
    have before := ordered.increasing other
    rw [ahead, queues, workers, same_bound]
    by_cases same : other = index
    · subst same
      rw [Function.update_self]
      exact before.sublist (fewer.append_right _)
    · rw [Function.update_of_ne same]
      exact before
  past := by
    intro sending member ticket found
    rw [sent] at member
    rw [ahead, queues, same_bound] at found
    exact ordered.past sending member ticket found
  present := by
    intro sending member task position at_send
    rw [sent] at member
    rw [workers, Function.update_apply] at at_send
    split at at_send
    next same =>
      obtain ⟨before, at_before, behind, -⟩ := further task position at_send
      rw [← same] at at_before
      have earlier := ordered.present sending member task before at_before
      omega
    · exact ordered.present sending member task position at_send
  residue := by
    intro other task position at_send
    rw [workers, Function.update_apply] at at_send
    split at at_send
    next same =>
      obtain ⟨before, at_before, -, congruent⟩ := further task position at_send
      rw [congruent, same]
      exact ordered.residue index task before at_before
    · exact ordered.residue other task position at_send
  own := by
    rw [sent]
    exact ordered.own
  once := by
    rw [sent]
    exact ordered.once

/-- The newest ticket goes to the end of the queue. -/
theorem SendingsOrdered.publishes (ordered : SendingsOrdered state) (kept : QueuesKept state)
    {push : Push} (at_publish : state.eventLoop = .publishing push) :
    SendingsOrdered ((state.setQueue push.worker (state.queues push.worker).publish).setLoop
      (.releasing push)) := by
  -- what is ahead of the worker, and what is ahead of the others
  have own_before : ahead state push.worker =
      queueTickets (state.queues push.worker) ++ [push.ticket] := by
    rw [ahead, bound, at_publish]
    simp only [EventLoop.bound, if_pos (Nat.le_refl _)]
  have own_after : ahead ((state.setQueue push.worker (state.queues push.worker).publish).setLoop
      (.releasing push)) push.worker = ahead state push.worker ++ [push.ticket + 1] := by
    rw [own_before]
    simp only [ahead, bound, setLoop, setQueue, Function.update_self, EventLoop.bound,
      if_neg (Nat.lt_irrefl _), queueTickets]
    rw [SlotRing.contents_publish _ (kept.room push (.inr at_publish)),
      kept.stored push at_publish, List.filterMap_append]
    rfl
  have others : ∀ index, index ≠ push.worker → ahead ((state.setQueue push.worker
      (state.queues push.worker).publish).setLoop (.releasing push)) index = ahead state index := by
    intro index different
    have apart : push.worker.val ≠ index.val := fun same => different (Fin.ext same.symm)
    have bounds : push.worker.val < index.val ↔ push.worker.val ≤ index.val := by omega
    simp only [ahead, bound, setLoop, setQueue, Function.update_of_ne different, at_publish,
      EventLoop.bound, bounds]
  refine ⟨?_, ?_, ordered.present, ordered.residue, ordered.own, ordered.once⟩
  · intro index
    have before := ordered.increasing index
    by_cases same : index = push.worker
    · subst same
      rw [own_after, own_before]
      rw [own_before, ← List.append_assoc] at before
      rw [← List.append_assoc, ← List.append_assoc, List.pairwise_append]
      refine ⟨before, List.pairwise_singleton _ _, ?_⟩
      intro ticket member last found
      rw [List.mem_singleton.mp found]
      rw [List.pairwise_append] at before
      rcases List.mem_append.mp member with earlier | newest
      · have below := before.2.2 ticket earlier push.ticket List.mem_cons_self
        omega
      · rw [List.mem_singleton.mp newest]
        omega
    · rw [others index same]
      exact before
  · intro sending member ticket found
    have before := ordered.past sending member
    by_cases same : sending.worker = push.worker
    · rw [same, own_after, List.mem_append, List.mem_singleton] at found
      rcases found with earlier | last
      · rw [← same] at earlier
        exact before ticket earlier
      have below := before push.ticket (by
        rw [same, own_before]
        exact List.mem_append_right _ List.mem_cons_self)
      omega
    · rw [others _ same] at found
      exact before ticket found

/-- The worker begins with the oldest ticket of its queue. -/
theorem SendingsOrdered.advances (ordered : SendingsOrdered state) (kept : QueuesKept state)
    {index : WorkerIndex} {slot : Option FanOutTask}
    (at_advance : state.workers index = .advancing slot) :
    SendingsOrdered ((state.setQueue index (state.queues index).advance).setWorker index
      (.popped index slot)) := by
  have some_left := @QueuesKept.some_left state kept index (by rw [at_advance]; rfl)
  have contents := SlotRing.contents_advance _ some_left
  rw [← kept.front index slot at_advance] at contents
  -- the popped ticket stays in front of the rest
  have moved_on : (Worker.popped index slot).tickets ++ ahead ((state.setQueue index
      (state.queues index).advance).setWorker index (.popped index slot)) index =
      ahead state index := by
    simp only [ahead, bound, setWorker, setQueue, Function.update_self, queueTickets, contents]
    cases slot with
    | none => rfl
    | some task => rfl
  have others : ∀ other, other ≠ index → ahead ((state.setQueue index
      (state.queues index).advance).setWorker index (.popped index slot)) other =
      ahead state other := by
    intro other different
    simp only [ahead, bound, setWorker, setQueue, Function.update_of_ne different]
  refine ⟨?_, ?_, ?_, ?_, ordered.own, ordered.once⟩
  · intro other
    have before := ordered.increasing other
    by_cases same : other = index
    · subst same
      rw [at_advance] at before
      have worker : ((state.setQueue other (state.queues other).advance).setWorker other
          (.popped other slot)).workers other = .popped other slot := Function.update_self ..
      rw [worker, moved_on]
      exact before
    · have worker : ((state.setQueue index (state.queues index).advance).setWorker index
          (.popped index slot)).workers other = state.workers other :=
        Function.update_of_ne same _ _
      rw [worker, others other same]
      exact before
  · intro sending member ticket found
    have before := ordered.past sending member
    by_cases same : sending.worker = index
    · rw [same] at found before
      rw [← moved_on] at before
      exact before ticket (List.mem_append_right _ found)
    · rw [others _ same] at found
      exact before ticket found
  · intro sending member task position at_send
    simp only [setWorker, setQueue, Function.update_apply] at at_send
    split at at_send
    next same =>
      have before := ordered.past sending member
      rw [same, ← moved_on] at before
      refine .inl (before task.ticket (List.mem_append_left _ ?_))
      rw [at_send]
      exact List.mem_cons_self
    · exact ordered.present sending member task position at_send
  · intro other task position at_send
    simp only [setWorker, setQueue, Function.update_apply] at at_send
    split at at_send
    next same =>
      cases slot with
      | none => cases at_send
      | some popped =>
        cases at_send
        rw [same]
        exact Nat.mod_eq_of_lt index.isLt
    · exact ordered.residue other task position at_send

/-- The worker goes on to its next endpoint. -/
theorem SendingsOrdered.steps (ordered : SendingsOrdered state)
    (queues : after.queues = state.queues)
    (same_bound : ∀ other, bound after other = bound state other)
    (at_send : state.workers index = .sending task position)
    (workers : after.workers = Function.update state.workers index
      (.sending task (position + mediaWorkerCount)))
    (sent : after.sent = state.sent) : SendingsOrdered after := by
  refine ordered.of_worker queues same_bound workers sent ?_ ?_
  · rw [at_send]
    exact List.Sublist.refl _
  intro other later same
  cases same
  exact ⟨position, at_send, Nat.le_add_right _ _, Nat.add_mod_right _ _⟩

/-- What a worker sends lies behind what it sends next. -/
theorem SendingsOrdered.sends (ordered : SendingsOrdered state) {index : WorkerIndex}
    {task : FanOutTask} {position : Nat} (at_send : state.workers index = .sending task position)
    (endpoint : Endpoint) (bytes : Octets) :
    SendingsOrdered (({ state with
      sent := state.sent ++ [⟨index, task.ticket, position, endpoint, bytes⟩] }
      : FanOut).setWorker index (.sending task (position + mediaWorkerCount))) := by
  have moved_on : SendingsOrdered (state.setWorker index
      (.sending task (position + mediaWorkerCount))) :=
    ordered.steps rfl (fun _ => rfl) at_send rfl rfl
  have behind := ordered.increasing index
  rw [at_send] at behind
  refine ⟨moved_on.increasing, ?_, ?_, moved_on.residue, ?_, ?_⟩
  · intro sending member ticket found
    rcases List.mem_append.mp member with earlier | newest
    · exact moved_on.past sending earlier ticket found
    · obtain rfl := List.mem_singleton.mp newest
      exact (List.pairwise_append.mp behind).2.2 task.ticket List.mem_cons_self ticket found
  · intro sending member other later at_later
    rcases List.mem_append.mp member with earlier | newest
    · exact moved_on.present sending earlier other later at_later
    obtain rfl := List.mem_singleton.mp newest
    have now : (state.setWorker index (.sending task (position + mediaWorkerCount))).workers
        index = .sending task (position + mediaWorkerCount) := Function.update_self ..
    have four : mediaWorkerCount = 4 := rfl
    cases now.symm.trans at_later
    refine .inr ⟨rfl, ?_⟩
    show position < position + mediaWorkerCount
    omega
  · exact List.forall_mem_append.mpr
      ⟨ordered.own, List.forall_mem_singleton.mpr (ordered.residue index task position at_send)⟩
  · simp only [setWorker, List.map_append, List.map_singleton]
    rw [List.nodup_append]
    refine ⟨ordered.once, List.nodup_singleton _, ?_⟩
    intro sent found newest last
    obtain ⟨sending, earlier, rfl⟩ := List.mem_map.mp found
    rw [List.mem_singleton.mp last]
    intro same
    obtain ⟨same_ticket, same_index⟩ := Prod.mk.inj same
    -- the same index belongs to the same worker, which is past it
    have worker : sending.worker = index := by
      apply Fin.ext
      rw [← ordered.own sending earlier, same_index]
      exact ordered.residue index task position at_send
    have past := ordered.present sending earlier task position (worker ▸ at_send)
    omega

theorem Worker.after_tickets (task : FanOutTask) (rest : Option Completion) :
    (Worker.after task rest).tickets = [] ∧
      ∀ other position, Worker.after task rest ≠ .sending other position := by
  cases rest with
  | none | some later => exact ⟨rfl, fun _ _ same => nomatch same⟩

theorem Push.next_bound (index : WorkerIndex)
    (last : push.ticket + 1 = accepted) : push.next.bound accepted index =
      if push.worker.val < index.val then push.ticket else push.ticket + 1 := by
  unfold Push.next
  split
  · rfl
  next ends => rw [if_neg (by omega), EventLoop.bound, last]

theorem Push.after_bound (rest : Option Completion) (index : WorkerIndex)
    (last : push.ticket + 1 = accepted) : (push.after rest).bound accepted index =
      if push.worker.val < index.val then push.ticket else push.ticket + 1 := by
  cases rest with
  | none => exact push.next_bound index last
  | some later => rfl

theorem moved_sendingsOrdered (moved : Moved state after) (kept : QueuesKept state)
    (carried : TasksCarried state) (ordered : SendingsOrdered state) : SendingsOrdered after := by
  cases moved with
  | stays => exact ordered
  | refuses datagram at_idle =>
    refine ordered.of_loop (fun _ => rfl) rfl rfl (fun index => ?_)
    rw [bound, bound, at_idle, List.length_append]
    exact Nat.le_add_right _ _
  | accepts datagram here | scans here | claims buffer here free | fills now here
  | findsRoom here room =>
    refine ordered.of_loop (fun _ => rfl) rfl rfl (fun index => ?_)
    rw [bound, bound, here]
    exact Nat.le_refl _
  | @exhausts ticket datagram _ at_scan =>
    have last := (carried.current ticket datagram (by rw [at_scan]; rfl)).2
    refine ordered.of_loop (fun _ => rfl) rfl rfl (fun index => ?_)
    rw [bound, bound, at_scan]
    show ticket ≤ state.accepted.length
    omega
  | shares at_share =>
    refine ordered.of_loop (fun _ => rfl) rfl rfl (fun index => ?_)
    rw [bound, bound, at_share]
    simp [setLoop, setBuffer, EventLoop.bound]
  | @findsFull push at_check =>
    refine ordered.of_loop (fun _ => rfl) rfl rfl (fun index => ?_)
    rw [bound, bound, at_check]
    simp only [setLoop, EventLoop.bound]
    split <;> split <;> omega
  | @stores push at_store =>
    refine ordered.of_loop (fun index => ?_) rfl rfl (fun index => ?_)
    · simp only [setLoop, setQueue]
      by_cases same : index = push.worker
      · rw [same, Function.update_self, queueTickets, SlotRing.contents_store, queueTickets]
      · rw [Function.update_of_ne same]
    · rw [bound, bound, at_store]
      exact Nat.le_refl _
  | publishes at_publish => exact ordered.publishes kept at_publish
  | @releases push at_release =>
    have last := (carried.current push.ticket push.datagram (by rw [at_release]; rfl)).2
    refine ordered.of_loop (fun _ => rfl) rfl rfl (fun index => ?_)
    rw [bound, bound, at_release]
    exact le_of_eq (push.next_bound index last).symm
  | @loopCompletes push _ _ rest at_complete completes =>
    have last := (carried.current push.ticket push.datagram (by rw [at_complete]; rfl)).2
    refine ordered.of_loop (fun _ => rfl) rfl rfl (fun index => ?_)
    rw [bound, bound, at_complete]
    exact le_of_eq (push.after_bound rest index last).symm
  | acquires at_wait permit | misses at_pop none_left | hits at_pop | takes at_take
  | finishes at_send ended =>
    refine ordered.of_worker rfl (fun _ => rfl) rfl rfl (List.nil_sublist _) ?_
    intro task position never
    cases never
  | advances at_advance => exact ordered.advances kept at_advance
  | skips at_send listed | expires at_send => exact ordered.steps rfl (fun _ => rfl) at_send rfl rfl
  | sends at_send listed other => exact ordered.sends at_send _ _
  | @workerCompletes _ task _ _ rest at_complete completes =>
    have idle := Worker.after_tickets task rest
    refine ordered.of_worker rfl (fun _ => rfl) rfl rfl ?_ ?_
    · rw [idle.1]
      exact List.nil_sublist _
    · intro other position never
      exact absurd never (idle.2 other position)

/- What is sent. -/

/-- If the position belongs to the worker and is not the sender's, the task's datagram
was sent to the endpoint there or was too old for it. -/
def Handled (state : FanOut) (index : WorkerIndex) (task : FanOutTask) (position : Nat) : Prop :=
  position % mediaWorkerCount = index.val → ∀ endpoint, task.endpoints[position]? = some endpoint →
    endpoint ≠ task.sender →
      (∃ sending ∈ state.sent, sending.worker = index ∧ sending.ticket = task.ticket ∧
        sending.index = position ∧ sending.endpoint = endpoint) ∨
      (task.ticket, position) ∈ state.expired

/-- What was sent is a datagram on its way to somebody else in the room, and a worker
passes over none of its endpoints. -/
structure SendingsFaithful (state : FanOut) : Prop where
  sent : ∀ sending ∈ state.sent, ∃ datagram, state.accepted[sending.ticket]? = some datagram ∧
    datagram.endpoints[sending.index]? = some sending.endpoint ∧
    sending.endpoint ≠ datagram.sender ∧ sending.bytes = datagram.bytes
  covered : ∀ index task position, state.workers index = .sending task position →
    ∀ earlier < position, Handled state index task earlier
  finished : ∀ index task, (index, task) ∈ state.finished →
    (∃ datagram, state.accepted[task.ticket]? = some datagram ∧
      task.endpoints = datagram.endpoints ∧ task.sender = datagram.sender) ∧
    ∀ position, Handled state index task position

theorem initial_sendingsFaithful : SendingsFaithful initial where
  sent := fun _ never => nomatch never
  covered := fun _ _ _ never => nomatch never
  finished := fun _ _ never => nomatch never

theorem moved_logs (moved : Moved state after) :
    state.sent ⊆ after.sent ∧ state.expired ⊆ after.expired := by
  cases moved with
  | expires at_send => exact ⟨List.Subset.refl _, List.subset_append_left _ _⟩
  | sends at_send listed other => exact ⟨List.subset_append_left _ _, List.Subset.refl _⟩
  | _ => exact ⟨List.Subset.refl _, List.Subset.refl _⟩

theorem Handled.moved (handled : Handled state index task position) (moved : Moved state after) :
    Handled after index task position := by
  obtain ⟨sent, expired⟩ := moved_logs moved
  intro own endpoint listed other
  rcases handled own endpoint listed other with ⟨sending, member, facts⟩ | late
  · exact .inl ⟨sending, sent member, facts⟩
  · exact .inr (expired late)

/-- A worker that goes on has handled the endpoint it stood at. -/
theorem sending_of_steps {mover : WorkerIndex} {other : FanOutTask} {before : Nat}
    (at_before : state.workers mover = .sending other before)
    (at_send : Function.update state.workers mover (.sending other (before + mediaWorkerCount))
      index = .sending task position) (handled : Handled after mover other before) :
    state.workers index = .sending task position ∨ position = index.val ∨
      ∃ before, state.workers index = .sending task before ∧
        position = before + mediaWorkerCount ∧ Handled after index task before := by
  rw [Function.update_apply] at at_send
  split at at_send
  next same =>
    cases at_send
    subst same
    exact .inr (.inr ⟨before, at_before, rfl, handled⟩)
  · exact .inl at_send

/-- What a worker is sending after a move: nothing new, the first endpoint of a task,
or the next one after an endpoint that has been handled. -/
theorem moved_sending (moved : Moved state after)
    (at_send : after.workers index = .sending task position) :
    state.workers index = .sending task position ∨ position = index.val ∨
      ∃ before, state.workers index = .sending task before ∧
        position = before + mediaWorkerCount ∧ Handled after index task before := by
  cases moved with
  | acquires at_wait permit | misses at_pop none_left | hits at_pop | takes at_take
  | finishes at_before ended => exact .inl (worker_of_update at_send (fun never => by cases never))
  | @advances mover slot at_advance =>
    simp only [setWorker, Function.update_apply] at at_send
    split at at_send
    next same =>
      cases slot with
      | none => cases at_send
      | some popped =>
        cases at_send
        exact .inr (.inl (congrArg Fin.val same.symm))
    · exact .inl at_send
  | skips at_before listed =>
    refine sending_of_steps at_before at_send ?_
    intro own endpoint found not_sender
    rw [listed] at found
    exact absurd (Option.some.inj found).symm not_sender
  | expires at_before =>
    refine sending_of_steps at_before at_send ?_
    intro own endpoint found not_sender
    exact .inr (List.mem_append_right _ List.mem_cons_self)
  | sends at_before listed not_own =>
    refine sending_of_steps at_before at_send ?_
    intro own endpoint found not_sender
    rw [listed] at found
    exact .inl ⟨_, List.mem_append_right _ List.mem_cons_self, rfl, rfl, rfl, Option.some.inj found⟩
  | @workerCompletes _ other _ _ rest at_complete completes =>
    exact .inl (worker_of_update at_send ((Worker.after_tickets other rest).2 _ _))
  | _ => exact .inl at_send

theorem moved_finished (moved : Moved state after) (finished : (index, task) ∈ after.finished) :
    (index, task) ∈ state.finished ∨ ∃ position, state.workers index = .sending task position ∧
      task.endpoints[position]? = none := by
  cases moved with
  | finishes at_send ended =>
    rcases List.mem_append.mp finished with earlier | newest
    · exact .inl earlier
    · cases List.mem_singleton.mp newest
      exact .inr ⟨_, at_send, ended⟩
  | _ => exact .inl finished

theorem moved_sent (moved : Moved state after) {sending : Sending} (sent : sending ∈ after.sent) :
    sending ∈ state.sent ∨ ∃ task,
      state.workers sending.worker = .sending task sending.index ∧
      sending.ticket = task.ticket ∧ task.endpoints[sending.index]? = some sending.endpoint ∧
      sending.endpoint ≠ task.sender ∧
      sending.bytes = (state.buffers task.buffer).bytes.take (state.buffers task.buffer).size := by
  cases moved with
  | @sends index task position endpoint at_send listed other =>
    rcases List.mem_append.mp sent with earlier | newest
    · exact .inl earlier
    · obtain rfl := List.mem_singleton.mp newest
      exact .inr ⟨task, at_send, rfl, listed, other, rfl⟩
  | _ => exact .inl sent

theorem moved_sendingsFaithful (moved : Moved state after) (carried : TasksCarried state)
    (ordered : SendingsOrdered state) (faithful : SendingsFaithful state) :
    SendingsFaithful after where
  sent := by
    intro sending member
    rcases moved_sent moved member with earlier | ⟨task, at_send, ticket, listed, other, bytes⟩
    · obtain ⟨datagram, found, facts⟩ := faithful.sent sending earlier
      exact ⟨datagram, moved_accepted_of_some moved found, facts⟩
    have task_left : Outstanding state task := .inr ⟨sending.worker, .inr (by rw [at_send]; rfl)⟩
    obtain ⟨datagram, found, endpoints, sender, held⟩ := carried.tasks task task_left
    rw [endpoints] at listed
    rw [sender] at other
    rw [← ticket] at found
    exact ⟨datagram, moved_accepted_of_some moved found, listed, other, bytes.trans held⟩
  covered := by
    intro index task position at_send earlier behind
    rcases moved_sending moved at_send with same | rfl | ⟨before, at_before, rfl, handled⟩
    · exact (faithful.covered index task position same earlier behind).moved moved
    · intro own
      rw [Nat.mod_eq_of_lt (by omega)] at own
      omega
    by_cases older : earlier < before
    · exact (faithful.covered index task before at_before earlier older).moved moved
    intro own
    -- the next position of the worker is a whole round away
    have here : before % 4 = index.val := ordered.residue index task before at_before
    have there : earlier % 4 = index.val := own
    have round : earlier < before + 4 := behind
    have same : earlier = before := by omega
    subst same
    exact handled own
  finished := by
    intro index task member
    rcases moved_finished moved member with earlier | ⟨position, at_send, ended⟩
    · obtain ⟨⟨datagram, found, facts⟩, handled⟩ := faithful.finished index task earlier
      exact ⟨⟨datagram, moved_accepted_of_some moved found, facts⟩,
        fun position => (handled position).moved moved⟩
    have task_left : Outstanding state task := .inr ⟨index, .inr (by rw [at_send]; rfl)⟩
    obtain ⟨datagram, found, endpoints, sender, -⟩ := carried.tasks task task_left
    refine ⟨⟨datagram, moved_accepted_of_some moved found, endpoints, sender⟩, ?_⟩
    intro other
    by_cases behind : other < position
    · exact (faithful.covered index task position at_send other behind).moved moved
    intro own endpoint listed
    have outside := List.getElem?_eq_none_iff.mp ended
    have inside := (List.getElem?_eq_some_iff.mp listed).1
    omega

/- Every run. -/

/-- The invariants together. -/
structure Sound (state : FanOut) : Prop where
  kept : QueuesKept state
  counted : BuffersCounted state
  carried : TasksCarried state
  loops : LoopsSound state
  ordered : SendingsOrdered state
  faithful : SendingsFaithful state

theorem initial_sound : Sound initial where
  kept := initial_queuesKept
  counted := initial_buffersCounted
  carried := initial_tasksCarried
  loops := initial_loopsSound
  ordered := initial_sendingsOrdered
  faithful := initial_sendingsFaithful

theorem step_sound (state : FanOut) (move : Move) (sound : Sound state) :
    Sound (state.step move) := by
  have moved := step_moved state move
  have counted := moved_buffersCounted moved sound.kept sound.counted
  exact {
    kept := moved_queuesKept moved sound.kept
    counted := counted
    carried := moved_tasksCarried moved sound.kept sound.counted sound.carried
    loops := moved_loopsSound moved sound.counted counted sound.loops
    ordered := moved_sendingsOrdered moved sound.kept sound.carried sound.ordered
    faithful := moved_sendingsFaithful moved sound.carried sound.ordered sound.faithful }

theorem run_sound : Sound (Run.run step initial moves) :=
  Run.invariant step Sound step_sound initial moves initial_sound

/-- A snapshot lists an endpoint once, so its position identifies it. -/
theorem Sound.once (sound : Sound state) :
    (state.sent.map fun sending => (sending.ticket, sending.endpoint)).Nodup := by
  have once := sound.ordered.once
  apply List.Nodup.map_on _ (List.Nodup.of_map _ once)
  intro sending member other other_member same
  apply List.inj_on_of_nodup_map once member other_member
  obtain ⟨ticket, endpoint⟩ := Prod.mk.inj same
  obtain ⟨datagram, found, listed, -⟩ := sound.faithful.sent sending member
  obtain ⟨datagram', found', listed', -⟩ := sound.faithful.sent other other_member
  rw [ticket, found'] at found
  cases found
  rw [endpoint, ← listed'] at listed
  have inside := (List.getElem?_eq_some_iff.mp (listed.trans listed')).1
  exact Prod.ext ticket ((List.getElem?_inj inside datagram.distinct).mp listed)

/-- A process compares the counter with the value, to complete the task. -/
def Completing (state : FanOut) (task : FanOutTask) (pending : UInt32) : Prop :=
  (∃ push, state.eventLoop = .completing push (.loop pending) ∧ push.task = task) ∨
    ∃ index, state.workers index = .completing task (.loop pending)

theorem Completing.outstanding
    (completing : Completing state task pending) : Outstanding state task := by
  rcases completing with ⟨push, looping, same⟩ | ⟨index, looping⟩
  · refine .inl ?_
    rw [looping, ← same]
    exact if_pos (.inr rfl)
  refine .inr ⟨index, .inr ?_⟩
  rw [looping]
  rfl

theorem Sound.completing (sound : Sound state) (completing : Completing state task pending) :
    1 ≤ (state.buffers task.buffer).pendingWorkers.toNat ∧
      (state.buffers task.buffer).pendingWorkers ≤ pending ∧
      pending.toNat ≤ mediaWorkerCount := by
  have held := completing.outstanding.share
  have same := ((sound.counted task.buffer).of_share held).2
  refine ⟨by omega, ?_⟩
  rcases completing with ⟨push, looping, rfl⟩ | ⟨index, looping⟩
  · exact sound.loops.eventLoop push pending looping
  · exact sound.loops.workers index task pending looping

/-- A weak exchange that fails although nothing interferes apart, every further round
compares with a smaller value. -/
theorem Completion.retry_lt {buffer : FanOutBuffer} {fewer : UInt32}
    (positive : 1 ≤ buffer.pendingWorkers.toNat) (behind : buffer.pendingWorkers ≤ pending)
    (few : pending.toNat ≤ mediaWorkerCount)
    (again : ((Completion.loop pending).step buffer false).2 = some (.loop fewer)) :
    fewer < pending := by
  -- a retry has read the counter, which differs from the value compared with
  have differs : ¬(buffer.pendingWorkers = pending ∧ True) → buffer.pendingWorkers < pending := by
    intro apart
    rw [UInt32.le_iff_toNat_le] at behind
    rw [UInt32.lt_iff_toNat_lt]
    have different : buffer.pendingWorkers.toNat ≠ pending.toNat :=
      fun same => apart ⟨UInt32.toNat_inj.mp same, trivial⟩
    omega
  simp only [Completion.step] at again
  split at again
  · split at again
    · cases again
    next apart =>
      cases again
      exact differs apart
  next outside =>
    split at again
    · split at again
      · cases again
      next apart =>
        cases again
        exact differs apart
    next several =>
      have one : (1 : UInt32).toNat = 1 := rfl
      have large : exclusive.toNat = 4294967295 := rfl
      have four : mediaWorkerCount = 4 := rfl
      rw [UInt32.le_iff_toNat_le] at behind
      have not_one : pending.toNat ≠ 1 := fun same => several (UInt32.toNat_inj.mp same)
      refine absurd ⟨UInt32.lt_iff_toNat_lt.mpr (by omega), ?_⟩ outside
      intro same
      rw [same] at few
      omega

theorem Sound.free (sound : Sound state) (buffer : BufferIndex) :
    (state.buffers buffer).pendingWorkers = 0 ↔
      (∀ task, Outstanding state task → task.buffer ≠ buffer) ∧ owners buffer state = 0 := by
  rw [(sound.counted buffer).zero_iff]
  have counted := share_iff state buffer
  constructor
  · rintro ⟨none_left, unowned⟩
    refine ⟨?_, unowned⟩
    intro task task_left same
    have held := counted.mpr ⟨task, task_left, same⟩
    omega
  · rintro ⟨none_left, unowned⟩
    refine ⟨?_, unowned⟩
    by_contra positive
    obtain ⟨task, task_left, same⟩ := counted.mp (by omega)
    exact none_left task task_left same

/-- An empty semaphore means an empty queue, so at rest nothing is outstanding. -/
theorem Sound.atRest (sound : Sound state) (idle : state.eventLoop = .idle)
    (waiting : ∀ index, state.workers index = .waiting ∧ state.ready index = 0)
    (buffer : BufferIndex) : (state.buffers buffer).pendingWorkers = 0 := by
  rw [sound.free]
  constructor
  · rintro task (in_loop | ⟨index, queued | in_hand⟩)
    · rw [idle] at in_loop
      cases in_loop
    · have permits := sound.kept.permits index
      rw [idle, (waiting index).1, (waiting index).2] at permits
      rw [List.length_eq_zero_iff.mp permits] at queued
      cases queued
    · rw [(waiting index).1] at in_hand
      cases in_hand
  · have nobody : ¬1 ≤ total fun index => (state.workers index).owners buffer := by
      intro some_owner
      obtain ⟨index, part⟩ := exists_of_total some_owner
      rw [(waiting index).1] at part
      exact absurd part (Nat.not_succ_le_zero 0)
    have loop : state.eventLoop.owners buffer = 0 := by
      rw [idle]
      rfl
    rw [owners]
    omega

/-- What the fan-out guarantees in a state. -/
structure FansOut (state : FanOut) : Prop where
  /-- What is sent is an accepted datagram, to an endpoint of its room snapshot other
  than the sender, by the worker the endpoint's index belongs to. -/
  sent : ∀ sending ∈ state.sent, ∃ datagram, state.accepted[sending.ticket]? = some datagram ∧
    datagram.endpoints[sending.index]? = some sending.endpoint ∧
    sending.endpoint ≠ datagram.sender ∧ sending.bytes = datagram.bytes ∧
    sending.worker.val = sending.index % mediaWorkerCount
  /-- No datagram is sent to an endpoint twice. -/
  once : (state.sent.map fun sending => (sending.ticket, sending.endpoint)).Nodup
  /-- A worker that is done with a datagram has passed over none of its endpoints. -/
  finished : ∀ index task, (index, task) ∈ state.finished →
    (∃ datagram, state.accepted[task.ticket]? = some datagram ∧
      task.endpoints = datagram.endpoints ∧ task.sender = datagram.sender) ∧
    ∀ position, Handled state index task position
  /-- An outstanding task finds its datagram, and no move rewrites the buffer. -/
  unaltered : ∀ task, Outstanding state task → Carries state task ∧ ∀ move,
    ((state.step move).buffers task.buffer).bytes = (state.buffers task.buffer).bytes ∧
      ((state.step move).buffers task.buffer).size = (state.buffers task.buffer).size
  /-- A buffer is free when no task of it is outstanding and no process is filling it
  or about to free it, and only then. -/
  free : ∀ buffer, (state.buffers buffer).pendingWorkers = 0 ↔
    (∀ task, Outstanding state task → task.buffer ≠ buffer) ∧ owners buffer state = 0
  /-- A completion compares with the number of tasks left or with a larger one. -/
  counts : ∀ task pending, Completing state task pending →
    1 ≤ (state.buffers task.buffer).pendingWorkers.toNat ∧
      (state.buffers task.buffer).pendingWorkers ≤ pending ∧ pending.toNat ≤ mediaWorkerCount
  /-- So unless the weak exchange fails by itself, a further round compares with less. -/
  retries : ∀ task pending, Completing state task pending → ∀ fewer,
    ((Completion.loop pending).step (state.buffers task.buffer) false).2 = some (.loop fewer) →
      fewer < pending
  /-- When nobody has anything left to do, every buffer is free. -/
  atRest : state.eventLoop = .idle →
    (∀ index, state.workers index = .waiting ∧ state.ready index = 0) →
      ∀ buffer, (state.buffers buffer).pendingWorkers = 0

/-- In every interleaving of the event loop and the workers. -/
theorem run_fansOut (moves : List Move) : FansOut (Run.run step initial moves) := by
  have sound := run_sound moves
  exact {
    sent := by
      intro sending member
      obtain ⟨datagram, found, listed, other, bytes⟩ := sound.faithful.sent sending member
      exact ⟨datagram, found, listed, other, bytes, (sound.ordered.own sending member).symm⟩
    once := sound.once
    finished := sound.faithful.finished
    unaltered := by
      intro task task_left
      refine ⟨sound.carried.tasks task task_left, ?_⟩
      intro move
      exact moved_contents (step_moved _ move) sound.counted task_left.share
    free := sound.free
    counts := fun task pending => sound.completing
    retries := by
      intro task pending completing fewer again
      obtain ⟨positive, behind, few⟩ := sound.completing completing
      exact Completion.retry_lt positive behind few again
    atRest := sound.atRest }

/-- The task the event loop of the server makes of the datagram. -/
def AudioDatagram.mediaTask (datagram : AudioDatagram) : MediaTask where
  packet := datagram.bytes
  endpoints := datagram.endpoints
  sender := datagram.sender

/-- What a worker sends is what the handlers of the server leave to it. -/
theorem run_sent_targets :
    ∀ sending ∈ (Run.run step initial moves).sent, ∃ datagram ∈ (Run.run step initial moves).accepted,
      sending.bytes = datagram.mediaTask.packet ∧
        sending.endpoint ∈ datagram.mediaTask.targets sending.worker.val := by
  have sound := run_sound moves
  intro sending member
  obtain ⟨datagram, found, listed, other, bytes⟩ := sound.faithful.sent sending member
  refine ⟨datagram, List.mem_of_getElem? found, bytes, ?_⟩
  rw [MediaTask.targets, List.mem_map]
  refine ⟨(sending.endpoint, sending.index), ?_, rfl⟩
  rw [List.mem_filter]
  refine ⟨List.mk_mem_zipIdx_iff_getElem?.mpr listed, ?_⟩
  simp only [sound.ordered.own sending member, decide_true, Bool.true_and]
  exact decide_eq_true other

end Sesivo.FanOut

namespace Sesivo.Server

variable {server : Server}

/-- A room snapshot lists every endpoint once. -/
theorem cachedRoomEndpoints_nodup (coherent : server.clientManager.Coherent)
    (sender : Endpoint) : (server.cachedRoomEndpoints sender).1.Nodup := by
  cases found : server.clientManager.clients.lookup sender with
  | none =>
    simp only [cachedRoomEndpoints, ClientManager.getCachedRoomEndpoints, found]
    exact List.nodup_nil
  | some info =>
    exact (ClientManager.getCachedRoomEndpoints_listsRoom coherent sender info found).nodup

/-- The datagram a reachable server hands to the workers. -/
def forwarded (server : Server) (coherent : server.clientManager.Coherent) (sender : Endpoint)
    (packet : Octets) : FanOut.AudioDatagram where
  bytes := packet
  endpoints := (server.cachedRoomEndpoints sender).1
  sender := sender
  distinct := cachedRoomEndpoints_nodup coherent sender

/-- The handler leaves the datagram's task to every worker whose queue has room. -/
theorem forwardAudioToOthers_forwarded
    (coherent : server.clientManager.Coherent) (sender : Endpoint) (packet : Octets)
    (ambient : Ambient) (worker : Nat) (task : MediaTask)
    (queued : (worker, task) ∈ (server.forwardAudioToOthers sender packet ambient).mediaTasks)
    (fresh : (worker, task) ∉ server.mediaTasks) :
    task = (server.forwarded coherent sender packet).mediaTask := by
  rcases List.mem_append.mp queued with earlier | newest
  · exact absurd earlier fresh
  · obtain ⟨index, -, same⟩ := List.mem_map.mp newest
    exact (Prod.mk.inj same).2.symm

end Sesivo.Server
