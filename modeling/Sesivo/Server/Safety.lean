import Mathlib.Data.List.Induction
import Sesivo.TicketEncoding
import Sesivo.Server.Relay

set_option autoImplicit false

/- The admission properties of the directory, carried down to every reachable
state of the server. -/

namespace Sesivo.Server

open Relation Octets JoinToken SessionCrypto List

variable {moment : Directory.Moment}

theorem Evolves.consistent {before after : Server} (evolves : Evolves moment before after)
    (consistent : before.view.Consistent) : after.view.Consistent :=
  Run.invariant_of_steps Directory.Consistent (fun _ _ step => step.consistent) evolves.directory
    consistent

theorem reachable_consistent (sodium : Sodium) (options : ServerOptions) (inputs : List Input) :
    (run sodium options inputs).view.Consistent := by
  refine Run.invariant (step sodium options) (fun server => server.view.Consistent) ?_ initial
    inputs ?_
  · intro server input consistent
    exact (step_evolves sodium options server input).consistent consistent
  · intro endpoint session found
    cases found

/-- After any events every registered client's room exists, at the instance and
epoch of the client's record. -/
theorem clients_match_rooms (sodium : Sodium) (options : ServerOptions) (inputs : List Input)
    (endpoint : Endpoint) (info : ClientInfo)
    (found : (run sodium options inputs).clientManager.clients.lookup endpoint = some info) :
    ∃ room, (run sodium options inputs).roomRegistry.rooms.lookup info.roomId = some room ∧
      room.roomId = info.roomId ∧ room.roomInstanceId = info.roomInstanceId ∧
      room.accessEpoch = info.accessEpoch := by
  have registered : (run sodium options inputs).view.sessions endpoint = some info.session := by
    simp [view, ClientManager.sessions, found]
  obtain ⟨current, located, sameInstance, sameEpoch⟩ :=
    reachable_consistent sodium options inputs endpoint info.session registered
  obtain ⟨room, held, rfl⟩ := Option.map_eq_some_iff.mp located
  exact ⟨room, held, (run sodium options inputs).roomRegistry.keyed _ room held, sameInstance,
    sameEpoch⟩

/-- Both JOINs succeed. -/
theorem jam_members : ((run .framing jamOptions jamJoins).clientManager.clients.pairs.map fun entry =>
      (entry.1, entry.2.tokenNonceKey)) =
    [(loopback 2, nonceReplayKey (jamClaims (ascii "bob") (ascii "n2"))),
      (loopback 1, nonceReplayKey (jamClaims (ascii "ann") (ascii "n1")))] := by
  decide +kernel

variable {sodium : Sodium} {options : ServerOptions} {nowMs : Int} {claims : Claims}
variable {endpoint : Endpoint}

theorem jam_registered {key : Octets}
    (member : (endpoint, key) ∈ [(loopback 2, nonceReplayKey (jamClaims (ascii "bob")
    (ascii "n2"))),
      (loopback 1, nonceReplayKey (jamClaims (ascii "ann") (ascii "n1")))]) :
    ∃ info, (run .framing jamOptions jamJoins).clientManager.clients.lookup endpoint = some info ∧
      info.tokenNonceKey = key := by
  rw [← jam_members] at member
  obtain ⟨entry, inside, same⟩ := mem_map.mp member
  obtain ⟨rfl, rfl⟩ := Prod.mk.inj same
  exact ⟨entry.2, (Store.mem_pairs _ entry.1 entry.2).mp inside, rfl⟩

theorem clients_match_rooms_jam :
    ∃ info, (run .framing jamOptions jamJoins).clientManager.clients.lookup (loopback 2) =
        some info ∧
      ∃ room, (run .framing jamOptions jamJoins).roomRegistry.rooms.lookup info.roomId = some room ∧
        room.roomId = info.roomId ∧ room.roomInstanceId = info.roomInstanceId ∧
        room.accessEpoch = info.accessEpoch := by
  obtain ⟨info, found, -⟩ := jam_registered mem_cons_self
  exact ⟨info, found, clients_match_rooms .framing jamOptions jamJoins (loopback 2) info found⟩

/-- The wall clock never goes back, and every accepted ticket was issued. -/
structure Orderly (sodium : Sodium) (options : ServerOptions) (issued : Claims → Prop)
    (inputs : List Input) : Prop where
  clock : (inputs.map fun input => input.ambient.nowMs).Pairwise (· ≤ ·)
  tickets : ∀ input ∈ inputs, ∀ claims, input.ticket sodium options = some claims → issued claims

theorem Orderly.left {issued : Claims → Prop}
    {first second : List Input} (orderly : Orderly sodium options issued (first ++ second)) :
    Orderly sodium options issued first := by
  have clock := orderly.clock
  rw [map_append, pairwise_append] at clock
  exact ⟨clock.1, fun input member => orderly.tickets input (mem_append_left _ member)⟩

theorem validateWithClaims_live {token secret serverId roomId
    profileId instanceId : Octets} {epoch : UInt32}
    (accepted : validateWithClaims sodium nowMs token secret serverId roomId profileId instanceId
      epoch = .ok claims) : nowMs ≤ claims.expiresAtMs := by
  obtain ⟨signature, -, -, live, -⟩ := validateWithClaims_passed accepted
  exact live

theorem joinClaims_live {join : JoinHdr}
    (accepted : joinClaims sodium options join nowMs = some claims) :
    nowMs ≤ claims.expiresAtMs := by
  unfold joinClaims at accepted
  split at accepted
  · cases accepted
  split at accepted
  · cases accepted
  split at accepted
  next => cases accepted
  next validated valid =>
    obtain rfl := Option.some.inj accepted
    exact validateWithClaims_live valid

theorem ticket_live {input : Input} (presented : input.ticket sodium options = some claims) :
    input.ambient.nowMs ≤ claims.expiresAtMs := by
  cases input with
  | datagram remote bytes ambient =>
    simp only [Input.ticket, Option.ite_none_right_eq_some] at presented
    exact joinClaims_live presented.2
  | aliveCheck ambient => cases presented

theorem reachable_keyed (sodium : Sodium) (options : ServerOptions) (inputs : List Input) :
    (run sodium options inputs).view.Keyed := by
  refine Run.invariant (step sodium options) (fun server => server.view.Keyed) ?_ initial inputs ?_
  · intro server input keyed
    exact Run.invariant_of_steps Directory.Keyed (fun _ _ step => step.keyed)
      (step_evolves sodium options server input).directory keyed
  · intro endpoint session found
    cases found

/-- Up to any moment after its last event, an orderly run leaves the nonces guarded. -/
theorem reachable_guarded {issued : Claims → Prop}
    (distinct : Directory.DistinctNonces issued) (inputs : List Input)
    (orderly : Orderly sodium options issued inputs) (nowMs : Int)
    (past : ∀ input ∈ inputs, input.ambient.nowMs ≤ nowMs) :
    (run sodium options inputs).view.Guarded issued nowMs := by
  induction inputs using reverseRecOn generalizing nowMs with
  | nil =>
    refine ⟨?_, ?_⟩
    · intro endpoint session key found
      cases found
    · intro left right first second key found
      cases found
  | append_singleton inputs input ih =>
    have clock := orderly.clock
    rw [map_append, pairwise_append] at clock
    have earlier (other : Input) (member : other ∈ inputs) :
        other.ambient.nowMs ≤ input.ambient.nowMs :=
      clock.2.2 _ (mem_map_of_mem member) _ (mem_map_of_mem (mem_singleton_self _))
    have before := ih orderly.left input.ambient.nowMs earlier
    have member : input ∈ inputs ++ [input] := mem_append_right _ (mem_singleton_self _)
    have after : (run sodium options (inputs ++ [input])).view.Guarded issued
        input.ambient.nowMs := by
      rw [run, Run.run_append]
      refine Run.invariant_of_steps (Directory.Guarded issued input.ambient.nowMs) ?_
        (step_evolves sodium options (run sodium options inputs) input).directory before
      intro first second step
      refine Directory.Step.guarded distinct step ?_
      intro claims presented
      exact ⟨orderly.tickets input member claims presented, ticket_live presented⟩
    exact after.later (past input member)

/-- An event with an acceptable ticket is a JOIN. -/
theorem step_join {remote : Endpoint} {bytes : Octets} {ambient : Ambient}
    (presented : (Input.datagram remote bytes ambient).ticket sodium options = some claims)
    (server : Server) :
    joinClaims sodium options (JoinHdr.read (bytes.take recvBufSize)) ambient.nowMs = some claims ∧
      step sodium options server (.datagram remote bytes ambient) =
        handleJoin sodium options { server with outbox := [], mediaTasks := [] } remote
          (bytes.take recvBufSize) ambient := by
  simp only [Input.ticket, Option.ite_none_right_eq_some] at presented
  obtain ⟨⟨magic, type, long⟩, accepted⟩ := presented
  refine ⟨accepted, ?_⟩
  have notShort : ¬(bytes.take recvBufSize).length < msgHdrBytes := by
    simp only [msgHdrBytes, joinHdrBytes] at long ⊢
    omega
  have notShortCtrl : ¬(bytes.take recvBufSize).length < ctrlHdrBytes := by
    simp only [ctrlHdrBytes, joinHdrBytes] at long ⊢
    omega
  simp +decide only [step, onReceive, notShort, magic, ↓reduceIte, handleCtrlMessage,
    notShortCtrl, type, dispatchCtrl]

/-- A JOIN with a nonce that a registered other endpoint holds changes no
registration and sends nothing. -/
theorem handleJoin_held {server : Server}
    {remote holder : Endpoint} {packet : Octets} {ambient : Ambient} {claims : Claims}
    (accepted : joinClaims sodium options (JoinHdr.read packet) ambient.nowMs = some claims)
    (other : holder ≠ remote) (registered : server.clientManager.exists holder = true)
    (held : server.view.nonces (nonceReplayKey claims) = some (holder, claims.expiresAtMs)) :
    (server.handleJoin sodium options remote packet ambient).clientManager =
        server.clientManager ∧
      (server.handleJoin sodium options remote packet ambient).outbox = server.outbox := by
  obtain ⟨used, found, same⟩ := Option.map_eq_some_iff.mp held
  obtain ⟨rfl, expiry⟩ := Prod.mk.inj same
  have live : ¬used.expiresAtMs < ambient.nowMs := by
    have bound := joinClaims_live accepted
    omega
  have refused (registry : RoomRegistry) :
      ({ server with roomRegistry := registry } : Server).reserveTokenNonce claims remote
          ambient.nowMs =
        (false, { server with roomRegistry := registry }.cleanupUsedTokenNonces ambient.nowMs) := by
    have kept : (server.usedTokenNonces.keep fun _ used =>
        !decide (used.expiresAtMs < ambient.nowMs)).lookup (nonceReplayKey claims) = some used := by
      simp [found, Option.filter_some, live]
    simp [reserveTokenNonce, cleanupUsedTokenNonces, kept, other, registered]
  unfold handleJoin
  split
  · exact ⟨rfl, rfl⟩
  simp only [accepted]
  split
  next => exact ⟨rfl, rfl⟩
  next room registry admitted =>
    simp only [refused registry, ↓reduceIte]
    exact ⟨rfl, rfl⟩

theorem session_of_lookup {inputs : List Input} {info : ClientInfo}
    (found : (run sodium options inputs).clientManager.clients.lookup endpoint = some info) :
    (run sodium options inputs).view.sessions endpoint = some info.session ∧
      info.session.nonceKey = some info.tokenNonceKey := by
  have registered : (run sodium options inputs).view.sessions endpoint = some info.session := by
    simp [view, ClientManager.sessions, found]
  refine ⟨registered, ?_⟩
  obtain ⟨key, keyed⟩ := Option.isSome_iff_exists.mp
    (reachable_keyed sodium options inputs endpoint info.session registered)
  rw [keyed, ((session_nonceKey_iff info key).mp keyed).2.2]

theorem clock_bounded (inputs : List Input) :
    ∃ bound : Int, ∀ input ∈ inputs, input.ambient.nowMs ≤ bound := by
  induction inputs with
  | nil => exact ⟨0, fun _ member => nomatch member⟩
  | cons input inputs ih =>
    obtain ⟨bound, past⟩ := ih
    refine ⟨max input.ambient.nowMs bound, ?_⟩
    intro other member
    rcases mem_cons.mp member with rfl | later
    · exact Int.le_max_left _ _
    · exact Int.le_trans (past other later) (Int.le_max_right _ _)

/-- In every orderly run no two endpoints are registered with one nonce, and a
JOIN with the nonce of another registered endpoint is not acknowledged and
changes no registration. -/
theorem ticket_not_hijacked (sodium : Sodium) (options : ServerOptions) (issued : Claims → Prop)
    (distinct : Directory.DistinctNonces issued) (inputs : List Input)
    (orderly : Orderly sodium options issued inputs) :
    (∀ left right first second,
      (run sodium options inputs).clientManager.clients.lookup left = some first →
      (run sodium options inputs).clientManager.clients.lookup right = some second →
      first.tokenNonceKey = second.tokenNonceKey → left = right) ∧
    ∀ remote bytes ambient claims holder info,
      Orderly sodium options issued (inputs ++ [.datagram remote bytes ambient]) →
      (Input.datagram remote bytes ambient).ticket sodium options = some claims →
      (run sodium options inputs).clientManager.clients.lookup holder = some info →
      info.tokenNonceKey = nonceReplayKey claims → holder ≠ remote →
      (step sodium options (run sodium options inputs) (.datagram remote bytes ambient)).clientManager
          = (run sodium options inputs).clientManager ∧
        ∀ endpoint participantId capabilities, (endpoint, .joinAck participantId capabilities) ∉
          (step sodium options (run sodium options inputs)
            (.datagram remote bytes ambient)).outbox := by
  refine ⟨?_, ?_⟩
  · intro left right first second foundLeft foundRight same
    obtain ⟨bound, past⟩ := clock_bounded inputs
    have guarded := reachable_guarded distinct inputs orderly bound past
    obtain ⟨heldLeft, keyLeft⟩ := session_of_lookup foundLeft
    obtain ⟨heldRight, keyRight⟩ := session_of_lookup foundRight
    rw [← same] at keyRight
    exact guarded.unique left right _ _ _ heldLeft heldRight keyLeft keyRight
  · intro remote bytes ambient claims holder info extended presented found keyed other
    have clock := extended.clock
    rw [map_append, pairwise_append] at clock
    have guarded := reachable_guarded distinct inputs orderly ambient.nowMs fun input member =>
      clock.2.2 _ (mem_map_of_mem member) _ (mem_singleton_self _)
    have valid : issued claims := extended.tickets _
      (mem_append_right _ (mem_singleton_self _)) claims presented
    obtain ⟨held, key⟩ := session_of_lookup found
    rw [keyed] at key
    have nonce := guarded.holder distinct valid (ticket_live presented) held key
    obtain ⟨accepted, joined⟩ := step_join presented (run sodium options inputs)
    have registered : (run sodium options inputs).clientManager.exists holder = true := by
      simp [ClientManager.exists, found]
    obtain ⟨clients, outbox⟩ := @handleJoin_held sodium options
      { run sodium options inputs with outbox := [], mediaTasks := [] } remote holder _ ambient
      claims accepted other registered nonce
    rw [joined, clients, outbox]
    exact ⟨rfl, fun _ _ _ => not_mem_nil⟩

def jamTickets : List Claims :=
  [jamClaims (ascii "ann") (ascii "n1"), jamClaims (ascii "bob") (ascii "n2")]

/-- A third endpoint presents the first member's ticket. -/
def secondUse : Input := joinFrom 3 (jamClaims (ascii "ann") (ascii "n1"))

theorem jamTickets_distinct : Directory.DistinctNonces (· ∈ jamTickets) := by
  intro left right first second same
  simp only [jamTickets, mem_cons, not_mem_nil, or_false] at first second
  rcases first with rfl | rfl <;> rcases second with rfl | rfl
  · rfl
  · exact absurd same (by decide)
  · exact absurd same (by decide)
  · rfl

theorem jam_orderly : Orderly .framing jamOptions (· ∈ jamTickets) (jamJoins ++ [secondUse]) := by
  refine ⟨by decide, ?_⟩
  have tickets : (jamJoins ++ [secondUse]).all (fun input =>
      (input.ticket .framing jamOptions).all (fun claims => decide (claims ∈ jamTickets))) = true := by
    decide +kernel
  intro input member claims presented
  have valid := all_eq_true.mp tickets input member
  rw [presented] at valid
  exact of_decide_eq_true valid

theorem ticket_not_hijacked_jam :
    (step .framing jamOptions (run .framing jamOptions jamJoins) secondUse).clientManager =
      (run .framing jamOptions jamJoins).clientManager := by
  obtain ⟨info, found, keyed⟩ := jam_registered (mem_cons_of_mem _ mem_cons_self)
  have safe := ticket_not_hijacked .framing jamOptions (· ∈ jamTickets) jamTickets_distinct jamJoins
    jam_orderly.left
  exact (safe.2 (loopback 3) _ jamAmbient (jamClaims (ascii "ann") (ascii "n1")) (loopback 1) info
    jam_orderly (by decide +kernel) found keyed (by decide)).1

end Sesivo.Server
