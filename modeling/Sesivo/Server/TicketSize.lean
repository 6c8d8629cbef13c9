import Sesivo.Client.JoinSession
import Sesivo.Server.History
import Sesivo.Server.Options
import Sesivo.TicketEncoding

set_option autoImplicit false

/- The size of join tickets. Every claim of a ticket comes from a checked option, a field
of a request or a draw of fixed length, so that the ticket fits its field on the wire. -/

namespace Sesivo

open Octets JoinToken List

namespace JoinToken

theorem drainSextets_size (buffer : UInt32) (bits : Nat) :
    (drainSextets buffer bits).1.length = bits / 6 ∧ (drainSextets buffer bits).2 = bits % 6 := by
  fun_induction drainSextets buffer bits with
  | case1 bits rest ih =>
    show rest.1.length + 1 = (bits + 6) / 6 ∧ rest.2 = (bits + 6) % 6
    have emitted : rest.1.length = bits / 6 := ih.1
    have left : rest.2 = bits % 6 := ih.2
    omega
  | case2 bits few =>
    have below : bits < 6 := by
      by_contra many
      exact few (bits - 6) (by omega)
    rw [length_nil]
    omega

/-- Six bits a character, the last one filled up. -/
theorem base64urlEncodeFrom_length (input : Octets) (buffer : UInt32) {bits : Nat}
    (few : bits < 6) :
    (base64urlEncodeFrom buffer bits input).length = (8 * input.length + bits + 5) / 6 := by
  induction input generalizing buffer bits with
  | nil =>
    unfold base64urlEncodeFrom
    split
    · rw [length_singleton, length_nil]
      omega
    · rw [length_nil]
      omega
  | cons byte input ih =>
    rw [base64urlEncodeFrom, length_append, length_cons]
    obtain ⟨emitted, left⟩ :=
      drainSextets_size ((buffer <<< 8) ||| byte.toUInt32) (bits + 8)
    rw [ih _ (by omega), emitted, left]
    omega

theorem decimal_length_le {value digits : Nat} (positive : 0 < digits)
    (bound : value < 10 ^ digits) : (decimal value).length ≤ digits := by
  rw [decimal, length_map, Nat.length_toDigits_le_iff (by decide) positive]
  exact bound

theorem tagged_length_le {value : Octets} (short : value.length < 100) :
    (tagged value).length ≤ value.length + 3 := by
  have digits : (decimal value.length).length ≤ 2 := decimal_length_le (by decide) short
  rw [tagged, length_append, length_cons]
  omega

/-- Claims as the server puts them into its tickets. -/
structure Claims.Short (claims : Claims) : Prop where
  expiry : claims.expiresAtMs.natAbs < 10 ^ 19
  serverId : claims.serverId.length ≤ maxServerIdBytes
  roomId : claims.roomId.length ≤ 64
  profileId : claims.profileId.length ≤ 64
  roomInstanceId : claims.roomInstanceId.length = 32
  nonce : claims.nonce.length = 32

variable {claims : Claims}

theorem claimsPayload_length_le (short : claims.Short)
    (commitment : claims.mediaKeyCommitment.length = 64) : (claimsPayload claims).length ≤ 373 := by
  have expiryDigits : (signedDecimal claims.expiresAtMs).length ≤ 20 := by
    have digits : (decimal claims.expiresAtMs.natAbs).length ≤ 19 :=
      decimal_length_le (by decide) short.expiry
    unfold signedDecimal
    split
    · rw [length_cons]
      omega
    · omega
  have epochDigits : (decimal claims.accessEpoch.toNat).length ≤ 10 :=
    decimal_length_le (by decide) (Nat.lt_trans claims.accessEpoch.toNat_lt (by decide))
  have sixtyThree : maxServerIdBytes = 63 := rfl
  have serverBytes := short.serverId
  have roomBytes := short.roomId
  have profileBytes := short.profileId
  have instanceBytes := short.roomInstanceId
  have nonceBytes := short.nonce
  have expiry := @tagged_length_le (signedDecimal claims.expiresAtMs) (by omega)
  have serverId := @tagged_length_le claims.serverId (by omega)
  have roomId := @tagged_length_le claims.roomId (by omega)
  have profileId := @tagged_length_le claims.profileId (by omega)
  have roomInstanceId := @tagged_length_le claims.roomInstanceId (by omega)
  have epoch := @tagged_length_le (decimal claims.accessEpoch.toNat) (by omega)
  have digest := @tagged_length_le claims.mediaKeyCommitment (by omega)
  have nonce := @tagged_length_le claims.nonce (by omega)
  simp only [claimsPayload, length_append]
  omega

theorem create_length {sodium : Sodium} {secret ticket : Octets}
    (short : claims.Short) (created : create sodium claims secret = some ticket) :
    ticket.length < 576 := by
  unfold create at created
  split at created
  · cases created
  rename_i signature signed
  split at created
  next valid =>
    obtain rfl := Option.some.inj created
    have payload := claimsPayload_length_le short (length_of_validSha256Hex valid)
    have encoded : (base64urlEncode (claimsPayload claims)).length =
        (8 * (claimsPayload claims).length + 0 + 5) / 6 :=
      base64urlEncodeFrom_length (claimsPayload claims) 0 (by decide)
    have hashed : signature.length = 64 := by
      unfold trySign tryHmacSha256Hex at signed
      split at signed
      · obtain rfl := Option.some.inj signed
        rw [length_hex, sodium.hmacSha256_length]
      · cases signed
    have version : (ascii "v3.").length = 3 := by decide
    have dot : (ascii ".").length = 1 := by decide
    simp only [length_append, encoded, hashed, version, dot]
    omega
  · cases created

end JoinToken

/-- What is drawn while an event is handled, and an expiry of at most 19 digits. -/
structure Ambient.Generated (ambient : Ambient) : Prop where
  instanceNonce : ambient.instanceNonce.length = 32
  ticketNonce : ambient.ticketNonce.length = 32
  expiry : (ambient.nowMs + Server.roomJoinTicketTtlMs).natAbs < 10 ^ 19

/-- The ticket fits the field of every message that carries one. -/
structure TicketFits (ticket : Octets) : Prop where
  documented : ticket.length < 576
  written : writeFixedChecked joinTokenWireBytes ticket = some ticket
  joins : ∀ session : ClientJoinSession, session.options.joinToken = ticket →
    session.makeJoinHeader ≠ none

theorem ticketFits_of_length {ticket : Octets} (short : ticket.length < 576) :
    TicketFits ticket := by
  have written : writeFixedChecked joinTokenWireBytes ticket = some ticket := by
    have wire : joinTokenWireBytes = 640 := rfl
    rw [writeFixedChecked, if_neg (by omega)]
  refine ⟨short, written, ?_⟩
  intro session carried
  rw [ClientJoinSession.makeJoinHeader, carried, written]
  exact Option.some_ne_none _

/-- The answer is not the one of a ticket too long, and the ticket in it fits. -/
structure RoomTicketResponse.Fits (response : RoomTicketResponse) : Prop where
  reason : response.reason ≠ "join token exceeds wire limit"
  ticket : TicketFits response.joinToken

theorem fixedString_length_le (packet : Octets) (offset count : Nat) :
    (fixedString (slice packet offset count)).length ≤ count := by
  have taken : (slice packet offset count).length ≤ count := length_take_le _ _
  exact Nat.le_trans (takeWhile_sublist _).length_le taken

namespace Server

variable {sodium : Sodium} {options : ServerOptions} {server : Server} {ambient : Ambient}

/-- The instances of all rooms have ids as they are drawn. -/
def DrawnInstances (rooms : Rooms) : Prop :=
  ∀ roomId room, rooms roomId = some room → room.roomInstanceId.length = 32

theorem drawnInstances_run {inputs : List Input}
    (generated : ∀ input ∈ inputs, input.ambient.Generated) :
    DrawnInstances (run sodium options inputs).rooms := by
  refine Run.invariant_of_mem (step sodium options) (fun server => DrawnInstances server.rooms)
    (fun input => input.ambient.Generated) ?_ initial inputs ?_ generated
  · intro server input drawn fresh roomId room found
    have change := step_roomsChange sodium options server input roomId
    rw [found] at change
    generalize before : server.rooms roomId = old at change
    cases change with
    | same => exact drawn roomId room before
    | created commitment => exact fresh.instanceNonce
    | rotated past commitment present => exact drawn roomId past (before.trans present)
  · intro roomId room found
    cases found

/-- A room as a ticket is issued for it. -/
structure Issuable (room : RoomSnapshot) : Prop where
  roomId : room.roomId.length ≤ 64
  roomInstanceId : room.roomInstanceId.length = 32

variable {remote endpoint : Endpoint} {packet : Octets} {response : RoomTicketResponse}
variable {roomId passwordHash : Octets} {now : Time} {room : RoomSnapshot} {profileId : Octets}
variable (registry : RoomRegistry)

theorem createUdpRoomJoinTicket_fits {ticket : Octets}
    (serverId : options.serverId.length ≤ maxServerIdBytes) (issuable : Issuable room)
    (profile : profileId.length ≤ 64) (drawn : ambient.Generated)
    (issued : createUdpRoomJoinTicket sodium options room profileId ambient.nowMs
      ambient.ticketNonce = some ticket) : TicketFits ticket := by
  unfold createUdpRoomJoinTicket at issued
  split at issued
  · cases issued
  apply ticketFits_of_length
  refine create_length ?_ issued
  exact ⟨drawn.expiry, serverId, issuable.roomId, profile, issuable.roomInstanceId,
    drawn.ticketNonce⟩

theorem fits_without_ticket (reason : response.reason ≠ "join token exceeds wire limit")
    (empty : response.joinToken = []) : response.Fits := by
  refine ⟨reason, ?_⟩
  rw [empty]
  exact ticketFits_of_length (by decide)

theorem withTicket_fits
    (serverId : options.serverId.length ≤ maxServerIdBytes) (issuable : Issuable room)
    (profile : profileId.length ≤ 64) (drawn : ambient.Generated) (fits : response.Fits)
    (empty : response.joinToken = []) :
    (∀ refused, withTicket sodium options response room profileId ambient = .error refused →
        refused.Fits) ∧
      ∀ ticketed, withTicket sodium options response room profileId ambient = .ok ticketed →
        ticketed.Fits := by
  unfold withTicket
  cases issued : createUdpRoomJoinTicket sodium options room profileId ambient.nowMs
      ambient.ticketNonce with
  | none =>
    constructor
    · intro refused answered
      obtain rfl := Except.error.inj answered
      exact fits_without_ticket (by simp) empty
    · intro ticketed answered
      cases answered
  | some ticket =>
    have fitting := createUdpRoomJoinTicket_fits serverId issuable profile drawn issued
    simp only [fitting.written]
    constructor
    · intro refused answered
      cases answered
    intro ticketed answered
    obtain rfl := Except.ok.inj answered
    exact ⟨fits.reason, fitting⟩

theorem createRoom_reason (roomId roomName passwordHash : Octets)
    (accessMode : UInt8) (commitment : Octets) (now : Time) (adminToken nonce : Octets) :
    (registry.createRoom sodium roomId roomName passwordHash accessMode commitment now adminToken
      nonce).1.reason ≠ "join token exceeds wire limit" := by
  unfold RoomRegistry.createRoom
  split
  · simp
  split
  · simp
  split
  · simp
  split
  · simp
  split
  · simp
  split <;> simp

theorem authorizeJoin_reason (roomId passwordHash : Octets)
    (now : Time) : (registry.authorizeJoin roomId passwordHash now).1.reason ≠
      "join token exceeds wire limit" := by
  unfold RoomRegistry.authorizeJoin
  split
  · simp
  split <;> simp

theorem authorizeJoin_roomId {registry : RoomRegistry}
    (ok : (registry.authorizeJoin roomId passwordHash now).1.ok = true) :
    (registry.authorizeJoin roomId passwordHash now).1.room.roomId = roomId := by
  unfold RoomRegistry.authorizeJoin at ok ⊢
  split at ok
  · cases ok
  rename_i room found
  split at ok
  · cases ok
  next checked =>
    rw [if_neg checked]
    exact registry.keyed roomId room found

theorem createRoom_issuable {registry : RoomRegistry} {roomId roomName passwordHash : Octets}
    {accessMode : UInt8} {commitment : Octets} {now : Time} {adminToken nonce : Octets}
    (named : roomId.length ≤ 64) (drawn : nonce.length = 32)
    (ok : (registry.createRoom sodium roomId roomName passwordHash accessMode commitment now
      adminToken nonce).1.ok ≠ false) :
    Issuable (registry.createRoom sodium roomId roomName passwordHash accessMode commitment now
      adminToken nonce).1.room := by
  have view := registry.createRoom_view sodium roomId roomName passwordHash accessMode commitment
    now adminToken nonce
  generalize registry.createRoom sodium _ _ _ _ _ _ _ _ = result at ok view ⊢
  rcases view with ⟨failed, -⟩ | ⟨-, -, same, instanced, -⟩
  · exact absurd failed ok
  have roomInstanceId : result.1.room.roomInstanceId = nonce :=
    congrArg RoomView.roomInstanceId instanced
  refine ⟨?_, ?_⟩
  · rw [same]
    exact named
  · rw [roomInstanceId]
    exact drawn

theorem authorizeJoin_issuable
    (named : roomId.length ≤ 64) (instances : DrawnInstances server.rooms)
    (ok : (server.roomRegistry.authorizeJoin roomId passwordHash now).1.ok ≠ false) :
    Issuable (server.roomRegistry.authorizeJoin roomId passwordHash now).1.room := by
  have accepted := Bool.eq_true_of_not_eq_false ok
  refine ⟨?_, ?_⟩
  · rw [authorizeJoin_roomId accepted]
    exact named
  · exact instances _ _ ((server.roomRegistry.authorizeJoin_view roomId passwordHash now).2 accepted)

/-- The one message a quiet server sends is the one it is given. -/
theorem eq_of_mem_send {sent message : ServerMessage} (quiet : server.outbox = [])
    (member : (endpoint, message) ∈ (server.send remote sent).outbox) : message = sent := by
  simp only [send, quiet, nil_append, mem_singleton, Prod.mk.injEq] at member
  exact member.2

theorem handleRoomCreateRequest_fits
    (serverId : options.serverId.length ≤ maxServerIdBytes) (drawn : ambient.Generated)
    (quiet : server.outbox = []) (answered : (endpoint, .roomCreated response) ∈
      (server.handleRoomCreateRequest sodium options remote packet ambient).outbox) :
    response.Fits := by
  unfold handleRoomCreateRequest at answered
  split at answered
  · rw [quiet] at answered
    cases answered
  simp only at answered
  split at answered
  · obtain rfl := ServerMessage.roomCreated.inj (eq_of_mem_send quiet answered)
    exact fits_without_ticket (by simp) rfl
  split at answered
  · obtain rfl := ServerMessage.roomCreated.inj (eq_of_mem_send quiet answered)
    exact fits_without_ticket (by simp) rfl
  have issuable := @createRoom_issuable sodium server.roomRegistry
    (fixedString (RoomCreateRequestHdr.read packet).roomId)
    (fixedString (RoomCreateRequestHdr.read packet).roomName)
    (fixedString (RoomCreateRequestHdr.read packet).passwordHash)
    (RoomCreateRequestHdr.read packet).accessMode
    (fixedString (RoomCreateRequestHdr.read packet).mediaKeyCommitment) ambient.now
    ambient.adminToken ambient.instanceNonce (fixedString_length_le packet 13 64)
    drawn.instanceNonce
  have refused := @createRoom_reason sodium server.roomRegistry
    (fixedString (RoomCreateRequestHdr.read packet).roomId)
    (fixedString (RoomCreateRequestHdr.read packet).roomName)
    (fixedString (RoomCreateRequestHdr.read packet).passwordHash)
    (RoomCreateRequestHdr.read packet).accessMode
    (fixedString (RoomCreateRequestHdr.read packet).mediaKeyCommitment) ambient.now
    ambient.adminToken ambient.instanceNonce
  generalize server.roomRegistry.createRoom sodium _ _ _ _ _ _ _ _ = result at answered issuable refused
  split at answered
  · obtain rfl := ServerMessage.roomCreated.inj (eq_of_mem_send (by exact quiet) answered)
    exact fits_without_ticket refused rfl
  rename_i ok
  obtain ⟨failing, ticketing⟩ := @withTicket_fits sodium options ambient
    { requestId := (RoomCreateRequestHdr.read packet).requestId } result.1.room
    (fixedString (RoomCreateRequestHdr.read packet).profileId) serverId (issuable ok)
    (fixedString_length_le packet 141 64) drawn (fits_without_ticket (by simp) rfl) rfl
  split at answered
  next declined denied =>
    obtain rfl := ServerMessage.roomCreated.inj (eq_of_mem_send (by exact quiet) answered)
    exact failing _ denied
  rename_i ticketed granted
  obtain rfl := ServerMessage.roomCreated.inj (eq_of_mem_send (by exact quiet) answered)
  have fits := ticketing ticketed granted
  exact ⟨fits.reason, fits.ticket⟩

theorem handleRoomJoinTokenRequest_fits
    (serverId : options.serverId.length ≤ maxServerIdBytes) (drawn : ambient.Generated)
    (instances : DrawnInstances server.rooms) (quiet : server.outbox = [])
    (answered : (endpoint, .roomJoinToken response) ∈
      (server.handleRoomJoinTokenRequest sodium options remote packet ambient).outbox) :
    response.Fits := by
  unfold handleRoomJoinTokenRequest at answered
  split at answered
  · rw [quiet] at answered
    cases answered
  simp only at answered
  split at answered
  · obtain rfl := ServerMessage.roomJoinToken.inj (eq_of_mem_send quiet answered)
    exact fits_without_ticket (by simp) rfl
  split at answered
  · obtain rfl := ServerMessage.roomJoinToken.inj (eq_of_mem_send quiet answered)
    exact fits_without_ticket (by simp) rfl
  have refused := authorizeJoin_reason server.roomRegistry
    (fixedString (RoomJoinTokenRequestHdr.read packet).roomId)
    (fixedString (RoomJoinTokenRequestHdr.read packet).passwordHash) ambient.now
  have issuable := @authorizeJoin_issuable server
    (fixedString (RoomJoinTokenRequestHdr.read packet).roomId)
    (fixedString (RoomJoinTokenRequestHdr.read packet).passwordHash) ambient.now
    (fixedString_length_le packet 13 64) instances
  generalize server.roomRegistry.authorizeJoin _ _ _ = result at answered refused issuable
  split at answered
  · obtain rfl := ServerMessage.roomJoinToken.inj (eq_of_mem_send (by exact quiet) answered)
    exact fits_without_ticket refused rfl
  rename_i ok
  obtain ⟨failing, ticketing⟩ := @withTicket_fits sodium options ambient
    { requestId := (RoomJoinTokenRequestHdr.read packet).requestId } result.1.room
    (fixedString (RoomJoinTokenRequestHdr.read packet).profileId) serverId (issuable ok)
    (fixedString_length_le packet 77 64) drawn (fits_without_ticket (by simp) rfl) rfl
  split at answered
  next declined denied =>
    obtain rfl := ServerMessage.roomJoinToken.inj (eq_of_mem_send (by exact quiet) answered)
    exact failing _ denied
  rename_i ticketed granted
  obtain rfl := ServerMessage.roomJoinToken.inj (eq_of_mem_send (by exact quiet) answered)
  have fits := ticketing ticketed granted
  exact ⟨fits.reason, fits.ticket⟩

/-- After any run of a server with accepted options, a ticket for a room that `create_room`
admits fits its field, and so does every ticket in the answers to requests. -/
theorem issued_tickets_fit (sodium : Sodium) (environment : OptionsAmbient)
    (arguments : List Octets) (options : ServerOptions)
    (parsed : parseServerOptions environment arguments = .ok options) (inputs : List Input)
    (generated : ∀ input ∈ inputs, input.ambient.Generated) (limiter : RateLimiter)
    (remote : Endpoint) (packet : Octets) (ambient : Ambient) (drawn : ambient.Generated) :
    let server : Server :=
      { run sodium options inputs with outbox := [], mediaTasks := [], rateLimiter := limiter }
    (∀ roomId room profileId ticket, server.roomRegistry.rooms.lookup roomId = some room →
      validRoomId roomId = true → profileId.length ≤ 64 →
      createUdpRoomJoinTicket sodium options room.snapshot profileId ambient.nowMs
        ambient.ticketNonce = some ticket → TicketFits ticket) ∧
    (∀ endpoint response, (endpoint, .roomCreated response) ∈
      (server.handleRoomCreateRequest sodium options remote packet ambient).outbox →
        response.Fits) ∧
    ∀ endpoint response, (endpoint, .roomJoinToken response) ∈
      (server.handleRoomJoinTokenRequest sodium options remote packet ambient).outbox →
        response.Fits := by
  intro server
  have serverId := (parseServerOptions_serverId parsed).2
  have instances : DrawnInstances server.rooms := drawnInstances_run generated
  refine ⟨?_, ?_, ?_⟩
  · intro roomId room profileId ticket found valid profile issued
    have named := server.roomRegistry.keyed roomId room found
    have bounded : roomId.length ≤ maxRoomIdBytes := by
      simp only [validRoomId, Bool.and_eq_true, decide_eq_true_eq] at valid
      exact valid.1.2
    refine createUdpRoomJoinTicket_fits serverId ⟨?_, ?_⟩ profile drawn issued
    · show room.roomId.length ≤ 64
      rw [named]
      exact Nat.le_trans bounded (by decide)
    · exact instances roomId room.view (RoomRegistry.view_of_lookup found)
  · intro endpoint response answered
    exact handleRoomCreateRequest_fits serverId drawn rfl answered
  · intro endpoint response answered
    exact handleRoomJoinTokenRequest_fits serverId drawn instances rfl answered

def jamArguments : List Octets :=
  [ascii "--server-id", ascii "srv", ascii "--join-secret", ascii "secret"]

def noFiles : OptionsAmbient where
  file := fun _ => none
  ephemeralSecret := none

def jamServerOptions : ServerOptions where
  joinSecret := ascii "secret"
  serverId := ascii "srv"

def jamDraws : Ambient where
  now := 1
  nowMs := 0
  instanceNonce := replicate 32 (ofChar 'a')
  adminToken := ascii "admin"
  ticketNonce := replicate 32 (ofChar 'b')
  bufferFree := true
  queueAccepts := fun _ => true

def createJamRequest : Octets :=
  u32Bytes ctrlMagic ++ [13] ++ u32Bytes 0 ++ u32Bytes 1 ++ padded 64 (ascii "jam") ++
    padded 64 [] ++ padded 64 (ascii "ann") ++ padded 64 [] ++ padded 128 [] ++
    padded 65 (replicate 64 (ofChar 'c')) ++ [roomAccessOpen, 0, 0, 0]

def jamTicketRequest : Octets :=
  u32Bytes ctrlMagic ++ [15] ++ u32Bytes 0 ++ u32Bytes 2 ++ padded 64 (ascii "jam") ++
    padded 64 (ascii "bob") ++ padded 64 [] ++ padded 128 []

def createsJam : List Input := [.datagram (loopback 1) createJamRequest jamDraws]

/-- The server after the creation of the room, when the request for a ticket comes. -/
def jamServer : Server :=
  { run .framing jamServerOptions createsJam with
    outbox := []
    mediaTasks := []
    rateLimiter := {} }

def joinTokenAnswer (entry : Endpoint × ServerMessage) : Option RoomTicketResponse :=
  match entry.2 with
  | .roomJoinToken response => some response
  | _ => none

def jamAnswers : List RoomTicketResponse :=
  (jamServer.handleRoomJoinTokenRequest .framing jamServerOptions (loopback 2) jamTicketRequest
    jamDraws).outbox.filterMap joinTokenAnswer

theorem jamDraws_generated : jamDraws.Generated := ⟨by decide, by decide, by decide⟩

theorem issued_tickets_fit_jam :
    parseServerOptions noFiles jamArguments = .ok jamServerOptions ∧
      jamAnswers.map (fun response => (response.reason, response.joinToken.length)) =
        [("", 286)] ∧
      ∀ response ∈ jamAnswers, response.Fits := by
  have parsed : parseServerOptions noFiles jamArguments = .ok jamServerOptions := by rfl
  have generated : ∀ input ∈ createsJam, input.ambient.Generated := by
    intro input member
    rw [mem_singleton.mp member]
    exact jamDraws_generated
  refine ⟨parsed, by decide +kernel, ?_⟩
  intro response member
  obtain ⟨entry, sent, answered⟩ := mem_filterMap.mp member
  obtain ⟨endpoint, message⟩ := entry
  cases message with
  | roomJoinToken other =>
    obtain rfl := Option.some.inj answered
    exact (issued_tickets_fit .framing noFiles jamArguments jamServerOptions parsed createsJam
      generated {} (loopback 2) jamTicketRequest jamDraws jamDraws_generated).2.2 endpoint other
      sent
  | _ => cases answered

end Server

end Sesivo
