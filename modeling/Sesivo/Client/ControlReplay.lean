import Mathlib.Data.List.Nodup
import Sesivo.Client.JoinKeys
import Sesivo.Client.ReplayWindow

set_option autoImplicit false

/- Replayed secure control packets. A window never accepts a number twice while its
numbers stay within half the circle; a client keeps a sender's window as long as
the sender is not announced to have left. -/

namespace Sesivo

open Octets JoinToken SessionCrypto Serial List

namespace ReplayWindow

/-- The window as seen from a base far enough behind: the accepted numbers lie between
the base and the highest one, and the recent ones are marked. -/
structure Covers (base : UInt32) (window : ReplayWindow) (accepted : List UInt32) : Prop where
  initialized : window.initialized = true
  room : 64 ≤ distance base window.highestSequence
  half : distance base window.highestSequence < 2 ^ 31
  behind : ∀ sequence ∈ accepted, distance base sequence ≤ distance base window.highestSequence
  marked : ∀ sequence ∈ accepted, distance sequence window.highestSequence < 64 →
    window.marked (distance sequence window.highestSequence) = true

/-- How far the highest number moves while the given numbers come in. -/
def travel (highest : UInt32) : List UInt32 → Nat
  | [] => 0
  | sequence :: rest =>
    if Before highest sequence then distance highest sequence + travel sequence rest
    else travel highest rest

/-- The total advance of accepted numbers. -/
def advance : List UInt32 → Nat
  | [] => 0
  | first :: rest => travel first rest

def Accepts (window : ReplayWindow) (sequence : UInt32) : Prop := (window.accept sequence).1 = true

def absorb (window : ReplayWindow) (sequence : UInt32) : ReplayWindow := (window.accept sequence).2

variable {base : UInt32} {window : ReplayWindow} {accepted : List UInt32} {sequence : UInt32}

/-- A number ahead of the highest one is new and becomes the highest. -/
theorem covers_later (covers : window.Covers base accepted) (accepts : window.Accepts sequence)
    (later : Before window.highestSequence sequence)
    (short : distance base window.highestSequence + distance window.highestSequence sequence <
      2 ^ 31) :
    sequence ∉ accepted ∧ (window.absorb sequence).highestSequence = sequence ∧
      (window.absorb sequence).Covers base (accepted ++ [sequence]) := by
  have nonzero : sequence ≠ 0 := by
    rintro rfl
    cases accepts
  have moved := @distance_trans base window.highestSequence sequence (by omega)
  have after : sequenceAfter sequence window.highestSequence = true :=
    (sequenceAfter_iff _ _).mpr later
  have result : window.absorb sequence = { window with
      highestSequence := sequence
      seen := if windowBits ≤ sequence - window.highestSequence then 1
        else (window.seen <<< (sequence - window.highestSequence).toUInt64) ||| 1 } := by
    simp [absorb, accept, nonzero, covers.initialized, after]
  have positive := later.1
  have room := covers.room
  refine ⟨?_, by rw [result], ?_⟩
  · intro old
    have behind := covers.behind sequence old
    omega
  rw [result]
  refine ⟨covers.initialized, ?_, ?_, ?_, ?_⟩
  · show 64 ≤ distance base sequence
    omega
  · show distance base sequence < 2 ^ 31
    omega
  · intro other member
    show distance base other ≤ distance base sequence
    rcases mem_append.mp member with old | new
    · have behind := covers.behind other old
      omega
    · rw [mem_singleton.mp new]
  · intro other member near
    change distance other sequence < 64 at near
    rcases mem_append.mp member with old | new
    · -- Both distances are measured from the base, so the ages add up.
      have behind := covers.behind other old
      have age := distance_of_le behind
      have newAge := @distance_of_le base other sequence (by omega)
      have step : (sequence - window.highestSequence).toNat =
          distance window.highestSequence sequence := rfl
      have close : ¬ windowBits ≤ sequence - window.highestSequence := by
        rw [UInt32.le_iff_toNat_le, step]
        have bits : windowBits.toNat = 64 := rfl
        omega
      have seen := covers.marked other old (by omega)
      unfold marked at seen ⊢
      rw [if_neg close, marked_shift _ _ (by omega), step]
      have earlier : distance other sequence - distance window.highestSequence sequence =
          distance other window.highestSequence := by omega
      have ordered : distance window.highestSequence sequence ≤ distance other sequence := by omega
      simp [earlier, seen, near, ordered]
    · rw [mem_singleton.mp new]
      unfold marked
      simp only [distance_self]
      split
      · rfl
      rename_i close
      simp

/-- A number behind the highest one is accepted only while its mark is clear. -/
theorem accept_behind (initialized : window.initialized = true)
    (accepts : window.Accepts sequence) (behind : ¬ Before window.highestSequence sequence) :
    distance sequence window.highestSequence < 64 ∧
      window.marked (distance sequence window.highestSequence) = false ∧
      window.absorb sequence = { window with
        seen := window.seen ||| (1 <<< (window.highestSequence - sequence).toUInt64) } := by
  have notAfter : ¬ sequenceAfter sequence window.highestSequence = true :=
    fun after => behind ((sequenceAfter_iff _ _).mp after)
  have age : (window.highestSequence - sequence).toNat = distance sequence window.highestSequence :=
    rfl
  have bits : windowBits.toNat = 64 := rfl
  unfold Accepts at accepts
  simp only [absorb, accept, initialized, Bool.true_eq_false, notAfter, ↓reduceIte] at accepts ⊢
  split at accepts
  · cases accepts
  rename_i nonzero
  rw [if_neg nonzero]
  simp only [Bool.false_eq_true, ↓reduceIte] at accepts ⊢
  split at accepts
  · cases accepts
  rename_i recent
  rw [if_neg recent]
  rw [UInt32.le_iff_toNat_le, bits, age, Nat.not_le] at recent
  split at accepts
  · cases accepts
  rename_i clear
  rw [if_neg clear]
  refine ⟨recent, ?_, rfl⟩
  have unset := congrArg (fun word : UInt64 => word.toNat.testBit
    (distance sequence window.highestSequence)) (not_not.mp clear)
  simp only [UInt64.toNat_and, Nat.testBit_and, bit_testBit _ recent, age, decide_true,
    Bool.and_true, UInt64.toNat_zero, Nat.zero_testBit] at unset
  exact unset

theorem covers_behind (covers : window.Covers base accepted) (accepts : window.Accepts sequence)
    (behind : ¬ Before window.highestSequence sequence) :
    sequence ∉ accepted ∧ (window.absorb sequence).highestSequence = window.highestSequence ∧
      (window.absorb sequence).Covers base (accepted ++ [sequence]) := by
  obtain ⟨recent, clear, result⟩ := accept_behind covers.initialized accepts behind
  have age : (window.highestSequence - sequence).toNat = distance sequence window.highestSequence :=
    rfl
  have room := covers.room
  refine ⟨?_, by rw [result], ?_⟩
  · intro old
    rw [covers.marked sequence old recent] at clear
    cases clear
  rw [result]
  refine ⟨covers.initialized, covers.room, covers.half, ?_, ?_⟩
  · intro other member
    show distance base other ≤ distance base window.highestSequence
    rcases mem_append.mp member with old | new
    · exact covers.behind other old
    rw [mem_singleton.mp new]
    by_contra ahead
    have past := distance_of_lt (Nat.lt_of_not_le ahead)
    have bound := distance_lt base sequence
    omega
  · intro other member near
    show (window.seen ||| (1 <<< (window.highestSequence - sequence).toUInt64)).toNat.testBit
      (distance other window.highestSequence) = true
    rw [UInt64.toNat_or, Nat.testBit_or]
    rcases mem_append.mp member with old | new
    · have seen := covers.marked other old near
      unfold marked at seen
      rw [seen, Bool.true_or]
    · rw [mem_singleton.mp new, bit_testBit _ recent, age]
      simp

theorem absorb_of_refused (refused : (window.accept sequence).1 = false) :
    window.absorb sequence = window := by
  unfold absorb
  unfold accept at refused ⊢
  split at refused
  next zero => rw [if_pos zero]
  rename_i nonzero
  rw [if_neg nonzero]
  split at refused
  · cases refused
  rename_i initialized
  rw [if_neg initialized]
  split at refused
  · cases refused
  rename_i behind
  rw [if_neg behind]
  simp only at refused ⊢
  split at refused
  next old => rw [if_pos old]
  rename_i recent
  rw [if_neg recent]
  split at refused
  next seen => rw [if_pos seen]
  · cases refused

/-- Numbers that a window accepts one after the other are different, as long as the
highest one moves less than half the circle. -/
theorem accepted_nodup_from (rest : List UInt32) (covers : window.Covers base accepted)
    (distinct : accepted.Nodup) (accepts : Run.Allowed absorb Accepts window rest)
    (short : distance base window.highestSequence + travel window.highestSequence rest < 2 ^ 31) :
    (accepted ++ rest).Nodup := by
  induction rest generalizing window accepted with
  | nil => rwa [append_nil]
  | cons sequence rest ih =>
    obtain ⟨first, others⟩ := accepts
    rw [travel] at short
    have step : sequence ∉ accepted ∧ (window.absorb sequence).Covers base
        (accepted ++ [sequence]) ∧ distance base (window.absorb sequence).highestSequence +
          travel (window.absorb sequence).highestSequence rest < 2 ^ 31 := by
      by_cases later : Before window.highestSequence sequence
      · rw [if_pos later] at short
        obtain ⟨new, highest, covered⟩ := covers_later covers first later (by omega)
        have moved := @distance_trans base window.highestSequence sequence (by omega)
        exact ⟨new, covered, by rw [highest]; omega⟩
      rw [if_neg later] at short
      obtain ⟨new, highest, covered⟩ := covers_behind covers first later
      exact ⟨new, covered, by rw [highest]; exact short⟩
    obtain ⟨new, covered, left⟩ := step
    have both : (accepted ++ [sequence]).Nodup := by
      refine nodup_append.mpr ⟨distinct, nodup_singleton sequence, ?_⟩
      intro old member other same
      rw [mem_singleton.mp same]
      rintro rfl
      exact new member
    have all := ih covered both others left
    rwa [append_assoc] at all

theorem accepted_nodup (sequences : List UInt32) (accepts : Run.Allowed absorb Accepts {} sequences)
    (short : advance sequences < 2 ^ 31 - 64) : sequences.Nodup := by
  cases sequences with
  | nil => exact nodup_nil
  | cons first rest =>
    obtain ⟨accepted, others⟩ := accepts
    have nonzero : first ≠ 0 := by
      rintro rfl
      cases accepted
    have result : ({} : ReplayWindow).absorb first =
        { initialized := true, highestSequence := first, seen := 1 } := by
      simp [absorb, accept, nonzero]
    rw [result] at others
    have start : distance (first - 64) first = 64 := by
      rw [distance_eq, UInt32.toNat_sub]
      have sixtyFour : (64 : UInt32).toNat = 64 := rfl
      omega
    refine @accepted_nodup_from (first - 64) _ [first] rest ?_ (nodup_singleton first) others ?_
    · refine ⟨rfl, by rw [start], by rw [start]; decide, ?_, ?_⟩
      · intro sequence member
        rw [mem_singleton.mp member]
      intro sequence member _
      rw [mem_singleton.mp member, distance_self]
      show (1 : UInt64).toNat.testBit 0 = true
      decide
    · rw [start]
      change travel first rest < 2 ^ 31 - 64 at short
      show 64 + travel first rest < 2 ^ 31
      omega

end ReplayWindow

/-- A secure control packet that a client accepted, and the session key that opened it. -/
structure AcceptedControl where
  key : Octets
  senderId : UInt32
  sequence : UInt32
deriving DecidableEq

def AcceptedControl.numbers (senderId : UInt32) (accepted : List AcceptedControl) : List UInt32 :=
  (accepted.filter fun packet => packet.senderId = senderId).map AcceptedControl.sequence

namespace KeyState

variable (sodium : Sodium)

/-- The windows are those that the accepted numbers leave behind, and there is a key
once a packet was accepted. -/
structure Guarded (accepted : List AcceptedControl) (state : KeyState) : Prop where
  settled : state.Settled sodium
  keyed : state.sessionKey = none → accepted = []
  windows : ∀ senderId, state.window senderId =
    Run.run ReplayWindow.absorb {} (AcceptedControl.numbers senderId accepted)

variable {sodium} {accepted : List AcceptedControl} {state : KeyState}

/-- Deriving the key again drops the windows only if nothing was accepted. -/
theorem Guarded.refresh (windows : ∀ senderId, state.window senderId =
      Run.run ReplayWindow.absorb {} (AcceptedControl.numbers senderId accepted))
    (underived : state.derivedKey sodium = none → accepted = []) :
    Guarded sodium accepted (state.refresh sodium) := by
  refine ⟨refresh_settled sodium state, ?_, ?_⟩
  · rw [refresh_sessionKey]
    exact underived
  intro senderId
  unfold KeyState.refresh
  split
  next none =>
    rw [underived none]
    rfl
  · exact windows senderId

theorem Guarded.offer (guarded : Guarded sodium accepted state) (mediaSecret : Octets)
    (accessEpoch : UInt32) (commitment : Octets) :
    Guarded sodium accepted (state.offer sodium mediaSecret accessEpoch commitment) := by
  unfold KeyState.offer
  split
  · exact guarded
  rename_i taken
  simp only [Refuses, not_or, Bool.not_eq_false] at taken
  refine Guarded.refresh guarded.windows ?_
  intro underived
  apply guarded.keyed
  by_contra keyed
  -- The old key shows that the ticket can be used, so the offered secret has a key too.
  obtain ⟨key, held⟩ := Option.ne_none_iff_exists'.mp keyed
  obtain ⟨claims, signature, parsed, room, -, -⟩ := guarded.settled.source sodium held
  have committed := mediaSecretMatchesCommitment_iff.mp taken.2.1
  obtain ⟨next, derived⟩ := deriveMediaKey_of_committed committed claims.roomId
    claims.roomInstanceId
  have found : derivedKey sodium { state with
      mediaSecret := mediaSecret
      accessEpoch := accessEpoch
      mediaKeyCommitment := commitment } = some next :=
    Client.mediaKeyFromSecret_eq_some.mpr ⟨claims, signature, parsed, room, committed, derived⟩
  rw [found] at underived
  cases underived

/-- While traffic stays on, a key event keeps the windows in order. -/
theorem Guarded.step (guarded : state.outboundEnabled = true → Guarded sodium accepted state)
    (event : KeyEvent) :
    (state.step sodium event).outboundEnabled = true →
      Guarded sodium accepted (state.step sodium event) := by
  intro on
  have before := guarded ((step_advances sodium state event) on).1
  cases event with
  | refresh =>
    refine Guarded.refresh before.windows ?_
    intro underived
    apply before.keyed
    rcases before.settled with none | derived
    · exact none
    · exact derived.trans underived
  | offer mediaSecret accessEpoch commitment => exact before.offer mediaSecret accessEpoch commitment
  | close => cases on

theorem Guarded.leave (guarded : Guarded sodium accepted state) {participantId : UInt32}
    (unknown : state.secureControlReplayWindows.lookup participantId = none) :
    Guarded sodium accepted (state.receive (.leave participantId)) := by
  refine ⟨receive_settled sodium state _ guarded.settled, guarded.keyed, ?_⟩
  intro senderId
  rw [← guarded.windows senderId]
  simp only [window, receive, Store.lookup_erase]
  split
  next same => rw [same, unknown]
  · rfl

/-- Whether the sender's window accepts the number. -/
def accepts (state : KeyState) (senderId sequence : UInt32) : Bool :=
  senderId ≠ 0 && sequence ≠ 0 && ((state.window senderId).accept sequence).1

/-- Only the sender's own window takes in the number, and only if it accepts it. -/
theorem receive_control_window (senderId sequence other : UInt32) :
    (state.receive (.control senderId sequence)).window other =
      if state.accepts senderId sequence = true ∧ other = senderId then
        (state.window senderId).absorb sequence
      else state.window other := by
  by_cases numbered : senderId = 0 ∨ sequence = 0
  · have refused : ¬ (state.accepts senderId sequence = true ∧ other = senderId) := by
      simp only [accepts, Bool.and_eq_true, decide_eq_true_eq]
      tauto
    rw [if_neg refused, receive, if_pos numbered]
  have stored : (state.receive (.control senderId sequence)).window other =
      if other = senderId then (state.window senderId).absorb sequence
      else state.window other := by
    rw [receive, if_neg numbered]
    simp only [window, Store.lookup_insert]
    split <;> rfl
  rw [stored]
  obtain ⟨sender, nonzero⟩ := not_or.mp numbered
  by_cases same : other = senderId
  · subst same
    cases answer : ((state.window other).accept sequence).1 with
    | true => simp [accepts, sender, nonzero, answer]
    | false =>
      rw [if_pos rfl, if_neg (by simp [accepts, answer]), ReplayWindow.absorb_of_refused answer]
  · rw [if_neg same, if_neg (fun both => same both.2)]

/-- The packets recorded after a secure control packet came in. -/
def record (state : KeyState) (accepted : List AcceptedControl) (key : Octets)
    (senderId sequence : UInt32) : List AcceptedControl :=
  accepted ++ if state.accepts senderId sequence then [⟨key, senderId, sequence⟩] else []

theorem numbers_record (key : Octets) (senderId sequence other : UInt32) :
    AcceptedControl.numbers other (state.record accepted key senderId sequence) =
      AcceptedControl.numbers other accepted ++
        if state.accepts senderId sequence = true ∧ other = senderId then [sequence] else [] := by
  unfold record AcceptedControl.numbers
  by_cases accepts : state.accepts senderId sequence = true
  · by_cases same : other = senderId
    · subst same
      simp [accepts]
    · simp [accepts, same, Ne.symm same]
  · simp [accepts]

theorem Guarded.control (guarded : Guarded sodium accepted state) {key : Octets}
    (keyed : state.sessionKey = some key) (senderId sequence : UInt32) :
    Guarded sodium (state.record accepted key senderId sequence)
      (state.receive (.control senderId sequence)) := by
  obtain ⟨-, sameKey, -⟩ := receive_frame state (.control senderId sequence)
  refine ⟨receive_settled sodium state _ guarded.settled, ?_, ?_⟩
  · rw [sameKey, keyed]
    intro none
    cases none
  intro other
  rw [receive_control_window, numbers_record, Run.run_append, ← guarded.windows other]
  split
  next both =>
    rw [both.2]
    rfl
  · rfl

/-- The numbers recorded for each sender are accepted one after the other. -/
theorem Guarded.record_accepts (guarded : Guarded sodium accepted state)
    (allowed : ∀ senderId, Run.Allowed ReplayWindow.absorb ReplayWindow.Accepts {}
      (AcceptedControl.numbers senderId accepted)) (key : Octets) (senderId sequence : UInt32) :
    ∀ other, Run.Allowed ReplayWindow.absorb ReplayWindow.Accepts {}
      (AcceptedControl.numbers other (state.record accepted key senderId sequence)) := by
  intro other
  rw [numbers_record, Run.allowed_append]
  refine ⟨allowed other, ?_⟩
  split
  next both =>
    obtain ⟨accepts, rfl⟩ := both
    rw [← guarded.windows other]
    simp only [KeyState.accepts, Bool.and_eq_true] at accepts
    exact ⟨accepts.2, trivial⟩
  · trivial

end KeyState

namespace Client

variable (sodium : Sodium) (client : Client) (event : ClientEvent)

/-- The secure control packet that an event makes the client accept. -/
def acceptedControl : Option AcceptedControl :=
  match client.eventSignals sodium event, client.sessionKey with
  | [.control senderId sequence], some key =>
    if (client.acceptSecureControlSequence senderId sequence).1 then
      some ⟨key, senderId, sequence⟩
    else none
  | _, _ => none

theorem acceptSecureControl_accepts (senderId sequence : UInt32) :
    (client.acceptSecureControlSequence senderId sequence).1 =
      client.keyState.accepts senderId sequence := by
  simp only [acceptSecureControlSequence, KeyState.accepts]
  split
  next zero => rcases zero with zero | zero <;> simp [zero]
  rename_i nonzero
  obtain ⟨sender, number⟩ := not_or.mp nonzero
  simp only [ne_eq, sender, number, not_false_eq_true, decide_true, Bool.true_and]
  rfl

/-- A datagram signals nothing, a departure, or a packet that the session key opens. -/
theorem eventSignals_cases :
    client.eventSignals sodium event = [] ∨
      (∃ participantId, client.eventSignals sodium event = [.leave participantId]) ∨
      ∃ senderId sequence, client.eventSignals sodium event = [.control senderId sequence] ∧
        client.sessionKey ≠ none := by
  cases event with
  | act action => exact .inl rfl
  | receive datagram =>
    simp only [eventSignals, signals]
    split
    · exact .inl rfl
    split
    · unfold ctrlSignals
      split
      · exact .inr (.inl ⟨_, rfl⟩)
      · exact .inl rfl
    split
    · unfold openedControl
      cases keyed : client.sessionKey with
      | none => exact .inl rfl
      | some key =>
        rw [Option.bind_some]
        cases openControlPacket sodium key (datagram.take clientPacketBytes) 512 with
        | none => exact .inl rfl
        | some opened => exact .inr (.inr ⟨_, _, rfl, by simp⟩)
    · exact .inl rfl

theorem startConnection_guarded (ambient : ClientAmbient) (resolved : Bool) :
    (client.startConnectionOnIoContext sodium ambient resolved).keyState.outboundEnabled = true →
      (client.startConnectionOnIoContext sodium ambient resolved).keyState.Guarded sodium [] := by
  simp only [startConnectionOnIoContext]
  split
  · intro on
    cases on
  refine (sendJoin_follows sodium _ ambient).preserves
    (fun state => state.outboundEnabled = true → state.Guarded sodium [])
    (fun state event guarded => KeyState.Guarded.step guarded event) ?_
  intro _
  refine ⟨.inl rfl, fun _ => rfl, ?_⟩
  intro senderId
  rfl

/-- A signal that takes no sender's window away. -/
def Spares : KeySignal → Prop
  | .control _ _ => True
  | .leave participantId => client.secureControlReplayWindows.lookup participantId = none

instance (client : Client) : DecidablePred client.Spares
  | .control _ _ => isTrue trivial
  | .leave participantId =>
    inferInstanceAs (Decidable (client.secureControlReplayWindows.lookup participantId = none))

end Client

/-- A client and the secure control packets it has accepted in this connection. -/
structure ControlLog where
  client : Client
  accepted : List AcceptedControl

namespace ControlLog

variable (sodium : Sodium)

def step (log : ControlLog) (event : ClientAmbient × ClientEvent) : ControlLog where
  client := log.client.step sodium event
  accepted := log.accepted ++ (log.client.acceptedControl sodium event.2).toList

/-- The connection lasts, and nobody with a replay window is announced to leave. -/
structure KeepsWindows (log : ControlLog) (event : ClientAmbient × ClientEvent) : Prop where
  within : ¬ event.2.Opens
  on : log.client.outboundEnabled = true
  spares : ∀ signal ∈ log.client.eventSignals sodium event.2, log.client.Spares signal

instance (log : ControlLog) (event : ClientAmbient × ClientEvent) :
    Decidable (log.KeepsWindows sodium event) :=
  decidable_of_iff (¬ event.2.Opens ∧ log.client.outboundEnabled = true ∧
      ∀ signal ∈ log.client.eventSignals sodium event.2, log.client.Spares signal)
    ⟨fun ⟨within, on, spares⟩ => ⟨within, on, spares⟩, fun ⟨within, on, spares⟩ => ⟨within, on, spares⟩⟩

/-- What a connection keeps up: windows in order while traffic is on, and accepted
numbers that each sender's window took one after the other. -/
structure InOrder (log : ControlLog) : Prop where
  guarded : log.client.keyState.outboundEnabled = true →
    log.client.keyState.Guarded sodium log.accepted
  allowed : ∀ senderId, Run.Allowed ReplayWindow.absorb ReplayWindow.Accepts {}
    (AcceptedControl.numbers senderId log.accepted)

variable {sodium}

theorem step_inOrder {log : ControlLog} {event : ClientAmbient × ClientEvent}
    (inOrder : log.InOrder sodium) (keeps : log.KeepsWindows sodium event) :
    (log.step sodium event).InOrder sodium := by
  have guarded := inOrder.guarded keeps.on
  have follows := Client.step_follows sodium log.client event keeps.within
  -- What holds after the signal holds after the whole event.
  have lift {accepted : List AcceptedControl}
      (received : (Run.run KeyState.receive log.client.keyState
        (log.client.eventSignals sodium event.2)).Guarded sodium accepted) :
      (log.client.step sodium event).keyState.outboundEnabled = true →
        (log.client.step sodium event).keyState.Guarded sodium accepted :=
    follows.preserves (fun state => state.outboundEnabled = true → state.Guarded sodium accepted)
      (fun state keyEvent guarded => KeyState.Guarded.step guarded keyEvent) (fun _ => received)
  unfold step
  rcases Client.eventSignals_cases sodium log.client event.2 with
    quiet | ⟨participantId, leaves⟩ | ⟨senderId, sequence, arrives, keyed⟩
  · rw [quiet] at lift
    simp only [Client.acceptedControl, quiet, Option.toList_none, append_nil]
    exact ⟨lift guarded, inOrder.allowed⟩
  · rw [leaves] at lift
    have unknown := keeps.spares (.leave participantId) (by rw [leaves]; exact mem_singleton_self _)
    simp only [Client.acceptedControl, leaves, Option.toList_none, append_nil]
    exact ⟨lift (guarded.leave unknown), inOrder.allowed⟩
  rw [arrives] at lift
  obtain ⟨key, held⟩ := Option.ne_none_iff_exists'.mp keyed
  have recorded : log.accepted ++ (log.client.acceptedControl sodium event.2).toList =
      log.client.keyState.record log.accepted key senderId sequence := by
    simp only [Client.acceptedControl, arrives, held, Client.acceptSecureControl_accepts,
      KeyState.record]
    split <;> rfl
  rw [recorded]
  exact ⟨lift (guarded.control held senderId sequence),
    guarded.record_accepts inOrder.allowed key senderId sequence⟩

/-- Equal packets would give their sender a number twice. -/
theorem nodup_of_numbers {accepted : List AcceptedControl}
    (numbers : ∀ senderId, (AcceptedControl.numbers senderId accepted).Nodup) :
    accepted.Nodup := by
  rw [nodup_iff_sublist]
  intro packet twice
  have projected : List.Sublist [packet.sequence, packet.sequence]
      (AcceptedControl.numbers packet.senderId accepted) := by
    have kept := (twice.filter fun other => decide (other.senderId = packet.senderId)).map
      AcceptedControl.sequence
    simpa [AcceptedControl.numbers] using kept
  exact nodup_iff_sublist.mp (numbers packet.senderId) packet.sequence projected

/-- In a connection that never takes a window away, no packet is accepted twice. -/
theorem control_not_replayed (client : Client) (ambient : ClientAmbient) (opening : ClientAction)
    (opens : opening.Opens) (events : List (ClientAmbient × ClientEvent))
    (meets : Run.Allowed (step sodium) (KeepsWindows sodium)
      ⟨client.step sodium (ambient, .act opening), []⟩ events)
    (short : ∀ senderId, ReplayWindow.advance (AcceptedControl.numbers senderId
      (Run.run (step sodium) ⟨client.step sodium (ambient, .act opening), []⟩ events).accepted) <
        2 ^ 31 - 64) :
    (Run.run (step sodium) ⟨client.step sodium (ambient, .act opening), []⟩
      events).accepted.Nodup := by
  have inOrder : (Run.run (step sodium) ⟨client.step sodium (ambient, .act opening), []⟩
      events).InOrder sodium := by
    refine Run.invariant_of_allowed (step sodium) (KeepsWindows sodium) (InOrder sodium) _ events ?_
      ?_ meets
    · intro log event _ inOrder keeps
      exact step_inOrder inOrder keeps
    obtain ⟨configured, resolved, started⟩ := Client.step_of_opens sodium client ambient opens
    rw [started]
    exact ⟨Client.startConnection_guarded sodium configured ambient resolved, fun _ => trivial⟩
  apply nodup_of_numbers
  intro senderId
  exact ReplayWindow.accepted_nodup _ (inOrder.allowed senderId) (short senderId)

/-- Participant 5 sends a secure control packet under the room's key. -/
def controlByFive (sequence : UInt32) : ClientAmbient × ClientEvent :=
  (Client.quietAmbient, .receive ((sealControlPacket .framing
    ((Client.member [Client.tuneAck]).sessionKey.getD [])
    ⟨5, 0, sequence, 1, 1, (mediaKeyCommitment .framing Client.tuneSecret).getD []⟩ [9] 512
    []).getD []))

def departureOf (participantId : UInt32) : ClientAmbient × ClientEvent :=
  (Client.quietAmbient, .receive (ctrlDatagram 4 participantId))

/-- The log of a client that has just asked to join. -/
def joining : ControlLog :=
  ⟨(Client.initial {} (some (ascii "ann", ascii "ann"))).step .framing
    (Client.quietAmbient, .act Client.tuneJoin), []⟩

def joined (events : List (ClientAmbient × ClientEvent)) : ControlLog :=
  Run.run (step .framing) joining events

/-- Two packets are accepted, the first one comes again, and someone else leaves. -/
def replayedVisit : List (ClientAmbient × ClientEvent) :=
  [Client.tuneAck, controlByFive 1, controlByFive 2, controlByFive 1, departureOf 7]

theorem control_not_replayed_visit :
    (joined replayedVisit).accepted.length = 2 ∧ (joined replayedVisit).accepted.Nodup := by
  have facts : (joined replayedVisit).accepted =
      [⟨(Client.member [Client.tuneAck]).sessionKey.getD [], 5, 1⟩,
        ⟨(Client.member [Client.tuneAck]).sessionKey.getD [], 5, 2⟩] ∧
      Run.Allowed (step .framing) (KeepsWindows .framing) joining replayedVisit := by
    decide +kernel
  obtain ⟨accepted, meets⟩ := facts
  refine ⟨by rw [accepted]; rfl, control_not_replayed _ Client.quietAmbient Client.tuneJoin trivial
    replayedVisit meets ?_⟩
  intro senderId
  change ReplayWindow.advance (AcceptedControl.numbers senderId (joined replayedVisit).accepted) < _
  rw [accepted]
  by_cases same : 5 = senderId
  · subst same
    decide
  · simp [AcceptedControl.numbers, same, ReplayWindow.advance]

/-- Participant 5 is announced to leave between two copies of its packet. -/
def departedVisit : List (ClientAmbient × ClientEvent) :=
  [Client.tuneAck, controlByFive 1, departureOf 5, controlByFive 1]

/-- Both copies are accepted, under the same key, in one connection. -/
theorem control_replayed :
    Run.Allowed (step .framing)
        (fun log event => ¬ event.2.Opens ∧ log.client.outboundEnabled = true)
        joining departedVisit ∧
      (∀ senderId, ReplayWindow.advance
        (AcceptedControl.numbers senderId (joined departedVisit).accepted) < 2 ^ 31 - 64) ∧
      (joined departedVisit).accepted.length = 2 ∧ ¬ (joined departedVisit).accepted.Nodup := by
  have facts : (joined departedVisit).accepted =
      [⟨(Client.member [Client.tuneAck]).sessionKey.getD [], 5, 1⟩,
        ⟨(Client.member [Client.tuneAck]).sessionKey.getD [], 5, 1⟩] ∧
      Run.Allowed (step .framing)
        (fun log event => ¬ event.2.Opens ∧ log.client.outboundEnabled = true)
        joining departedVisit := by
    decide +kernel
  obtain ⟨accepted, meets⟩ := facts
  refine ⟨meets, ?_, by rw [accepted]; rfl, by rw [accepted]; simp⟩
  intro senderId
  rw [accepted]
  by_cases same : 5 = senderId
  · subst same
    decide
  · simp [AcceptedControl.numbers, same, ReplayWindow.advance]

end ControlLog

end Sesivo
