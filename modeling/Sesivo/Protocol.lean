import Sesivo.Lib.Octets

set_option autoImplicit false

/- The wire protocol: packet identification, limits, and the packed
little-endian headers that the server and the client copy out of datagrams. -/

namespace Sesivo

open Octets

def pingMagic : UInt32 := 0x50494E47
def ctrlMagic : UInt32 := 0x4354524C
def audioV3Magic : UInt32 := 0x41553349
def audioRedundantMagic : UInt32 := 0x41555244
def secureAudioMagic : UInt32 := 0x53454341
def secureControlMagic : UInt32 := 0x53454343
def e2eKeyEnvelopeMagic : UInt32 := 0x4532454B

def audioBufSize : Nat := 512
def maxRoomParticipants : Nat := 32
def audioRedundantTargetBytes : Nat := 1200
def maxAudioRedundantPackets : Nat := 12

def audioCapRedundancy : UInt32 := 1
def audioCapSecureAudio : UInt32 := 4
def audioCapDeliveryReports : UInt32 := 8

def audioSupportedCapabilities : UInt32 :=
  audioCapRedundancy ||| audioCapSecureAudio ||| audioCapDeliveryReports

def securePacketNonceBytes : Nat := 12
def securePacketTagBytes : Nat := 16
def mediaSecretMaxBytes : Nat := 128
def mediaKeyCommitmentHexBytes : Nat := 64
def joinTokenWireBytes : Nat := 640
def e2ePublicKeyBytes : Nat := 32
def e2eKeyEnvelopeMaxBytes : Nat := 256
def roomChatRetainedMessages : Nat := 10
def roomChatPlaintextMaxBytes : Nat := 512
def roomChatCiphertextMaxBytes : Nat := 1024

def roomFlagLocked : UInt8 := 1
def roomFlagCreated : UInt8 := 2
def roomAccessOpen : UInt8 := 1
def roomAccessPassword : UInt8 := 2
def roomAccessApprove : UInt8 := 3
def roomStatusOk : UInt8 := 0
def roomStatusBadRequest : UInt8 := 1
def roomStatusNotFound : UInt8 := 2
def roomStatusForbidden : UInt8 := 3
def roomStatusConflict : UInt8 := 4
def roomStatusServerError : UInt8 := 5
def roomAdminChangePassword : UInt8 := 1
def roomAdminKickParticipant : UInt8 := 2
def roomAdminCloseRoom : UInt8 := 3
def roomAdminRotateMediaKey : UInt8 := 4
def roomAdminChangeAccess : UInt8 := 5
def roomChatHistoryDone : UInt8 := 1
def roomChatHistoryTruncated : UInt8 := 2
def maxRoomStatusSummaries : Nat := 8
def secureControlRotateMediaKey : UInt8 := 1
def secureControlAudioDeliveryReport : UInt8 := 2

/-- The codec byte of an Opus payload, the only member of the source's codec enumeration. -/
def audioCodecOpus : UInt8 := 1

/-- A transport address: IP address bytes and UDP port. -/
structure Endpoint where
  address : Octets
  port : UInt16
deriving DecidableEq

def loopback (port : UInt16) : Endpoint := ⟨[127, 0, 0, 1], port⟩

/-- Readings of a monotonic or wall clock, in the clock's own ticks. -/
abbrev Time : Type := Int

/-- The text of a fixed-size field, up to its first zero byte. -/
def fixedString (field : Octets) : Octets := field.takeWhile (· != 0)

variable (size : Nat)

/-- What `write_fixed` leaves readable in a field of `size` bytes. -/
def writeFixed (value : Octets) : Octets := value.take (size - 1)

/-- `write_fixed_checked` refuses a value that leaves no room for the final zero. -/
def writeFixedChecked (value : Octets) : Option Octets :=
  if size ≤ value.length then none else some value

inductive Cmd where
  | join
  | leave
  | alive
  | participantLeave
  | participantInfo
  | metronomeSync
  | joinAck
  | joinRequired
  | audioPathStats
  | serverStatusRequest
  | serverStatusResponse
  | roomCreateRequest
  | roomCreateResponse
  | roomJoinTokenRequest
  | roomJoinTokenResponse
  | roomAdminRequest
  | roomAdminResponse
  | roomRemoved
  | roomChatSend
  | roomChatEvent
  | roomChatSendRejected
  | roomChatHistoryRequest
  | roomChatHistoryResponse
  | joinDenied
  | roomKeyHandoffAck
deriving DecidableEq

/-- The command of a control header's type byte; `none` for a value the
source's enumeration does not name. -/
def Cmd.ofByte (byte : UInt8) : Option Cmd :=
  match byte.toNat with
  | 1 => some .join
  | 2 => some .leave
  | 3 => some .alive
  | 4 => some .participantLeave
  | 6 => some .participantInfo
  | 7 => some .metronomeSync
  | 8 => some .joinAck
  | 9 => some .joinRequired
  | 10 => some .audioPathStats
  | 11 => some .serverStatusRequest
  | 12 => some .serverStatusResponse
  | 13 => some .roomCreateRequest
  | 14 => some .roomCreateResponse
  | 15 => some .roomJoinTokenRequest
  | 16 => some .roomJoinTokenResponse
  | 17 => some .roomAdminRequest
  | 18 => some .roomAdminResponse
  | 19 => some .roomRemoved
  | 20 => some .roomChatSend
  | 21 => some .roomChatEvent
  | 22 => some .roomChatSendRejected
  | 23 => some .roomChatHistoryRequest
  | 24 => some .roomChatHistoryResponse
  | 25 => some .joinDenied
  | 26 => some .roomKeyHandoffAck
  | _ => none

def msgHdrBytes : Nat := 4
def syncHdrBytes : Nat := 32
def ctrlHdrBytes : Nat := 9
def joinHdrBytes : Nat := 941
def e2eKeyEnvelopeHdrBytes : Nat := 340
def securePacketHeaderBytes : Nat := 46
def secureControlHeaderBytes : Nat := 102
def roomKeyHandoffAckHdrBytes : Nat := 81
def serverStatusRequestHdrBytes : Nat := 17
def roomCreateRequestHdrBytes : Nat := 466
def roomJoinTokenRequestHdrBytes : Nat := 333
def roomAdminRequestHdrBytes : Nat := 406
def roomChatSendHdrBytes : Nat := 1185
def roomChatHistoryRequestHdrBytes : Nat := 153
def roomChatEventHdrBytes : Nat := 1201
def roomChatSendRejectedHdrBytes : Nat := 157
def roomChatHistoryResponseHdrBytes : Nat := 1205
def metronomeSyncHdrBytes : Nat := 38

variable (packet : Octets)

/-- The magic number every packet starts with. -/
def magicOf : UInt32 := u32At packet 0

structure SyncHdr where
  seq : UInt32
  t1ClientSend : Int
  t2ServerRecv : Int
  t3ServerSend : Int
deriving DecidableEq

def SyncHdr.read : SyncHdr where
  seq := u32At packet 4
  t1ClientSend := i64At packet 8
  t2ServerRecv := i64At packet 16
  t3ServerSend := i64At packet 24

structure CtrlHdr where
  type : Option Cmd
  participantId : UInt32

def CtrlHdr.read : CtrlHdr where
  type := Cmd.ofByte (u8At packet 4)
  participantId := u32At packet 5

structure JoinHdr where
  roomId : Octets
  profileId : Octets
  displayName : Octets
  joinToken : Octets
  capabilities : UInt32
  keyPublic : Octets

def JoinHdr.read : JoinHdr where
  roomId := slice packet 9 64
  profileId := slice packet 137 64
  displayName := slice packet 201 64
  joinToken := slice packet 265 640
  capabilities := u32At packet 905
  keyPublic := slice packet 909 32

structure E2EKeyEnvelopeHdr where
  senderId : UInt32
  targetId : UInt32
  accessEpoch : UInt32
  encryptedBytes : UInt16
  reserved : UInt16
  mediaKeyCommitment : Octets
  encrypted : Octets

def E2EKeyEnvelopeHdr.read : E2EKeyEnvelopeHdr where
  senderId := u32At packet 4
  targetId := u32At packet 8
  accessEpoch := u32At packet 12
  encryptedBytes := u16At packet 16
  reserved := u16At packet 18
  mediaKeyCommitment := slice packet 20 64
  encrypted := slice packet 84 256

structure SecureAudioHdr where
  magic : UInt32
  senderId : UInt32
  sequence : UInt32
  sampleRate : UInt32
  frameCount : UInt16
  plaintextBytes : UInt16
  encryptedBytes : UInt16
  reserved : UInt16
  channels : UInt8
  codec : UInt8
  captureServerTimeNs : Int
  nonce : Octets

def SecureAudioHdr.read : SecureAudioHdr where
  magic := u32At packet 0
  senderId := u32At packet 4
  sequence := u32At packet 8
  sampleRate := u32At packet 12
  frameCount := u16At packet 16
  plaintextBytes := u16At packet 18
  encryptedBytes := u16At packet 20
  reserved := u16At packet 22
  channels := u8At packet 24
  codec := u8At packet 25
  captureServerTimeNs := i64At packet 26
  nonce := slice packet 34 12

structure SecureControlHdr where
  magic : UInt32
  senderId : UInt32
  targetId : UInt32
  sequence : UInt32
  accessEpoch : UInt32
  plaintextBytes : UInt16
  encryptedBytes : UInt16
  reserved : UInt16
  mediaKeyCommitment : Octets
  nonce : Octets

def SecureControlHdr.read : SecureControlHdr where
  magic := u32At packet 0
  senderId := u32At packet 4
  targetId := u32At packet 8
  sequence := u32At packet 12
  accessEpoch := u32At packet 16
  plaintextBytes := u16At packet 20
  encryptedBytes := u16At packet 22
  reserved := u16At packet 24
  mediaKeyCommitment := slice packet 26 64
  nonce := slice packet 90 12

structure RoomKeyHandoffAckHdr where
  participantId : UInt32
  targetId : UInt32
  accessEpoch : UInt32
  mediaKeyCommitment : Octets

def RoomKeyHandoffAckHdr.read : RoomKeyHandoffAckHdr where
  participantId := u32At packet 5
  targetId := u32At packet 9
  accessEpoch := u32At packet 13
  mediaKeyCommitment := slice packet 17 64

structure ServerStatusRequestHdr where
  requestId : UInt32
  roomOffset : UInt16
  roomLimit : UInt8

def ServerStatusRequestHdr.read : ServerStatusRequestHdr where
  requestId := u32At packet 9
  roomOffset := u16At packet 13
  roomLimit := u8At packet 15

structure RoomCreateRequestHdr where
  requestId : UInt32
  roomId : Octets
  roomName : Octets
  profileId : Octets
  passwordHash : Octets
  mediaKeyCommitment : Octets
  accessMode : UInt8

def RoomCreateRequestHdr.read : RoomCreateRequestHdr where
  requestId := u32At packet 9
  roomId := slice packet 13 64
  roomName := slice packet 77 64
  profileId := slice packet 141 64
  passwordHash := slice packet 269 128
  mediaKeyCommitment := slice packet 397 65
  accessMode := u8At packet 462

structure RoomJoinTokenRequestHdr where
  requestId : UInt32
  roomId : Octets
  profileId : Octets
  passwordHash : Octets

def RoomJoinTokenRequestHdr.read : RoomJoinTokenRequestHdr where
  requestId := u32At packet 9
  roomId := slice packet 13 64
  profileId := slice packet 77 64
  passwordHash := slice packet 205 128

structure RoomAdminRequestHdr where
  requestId : UInt32
  command : UInt8
  accessMode : UInt8
  targetParticipantId : UInt32
  roomId : Octets
  adminToken : Octets
  passwordHash : Octets
  mediaKeyCommitment : Octets

def RoomAdminRequestHdr.read : RoomAdminRequestHdr where
  requestId := u32At packet 9
  command := u8At packet 13
  accessMode := u8At packet 14
  targetParticipantId := u32At packet 17
  roomId := slice packet 21 64
  adminToken := slice packet 85 128
  passwordHash := slice packet 213 128
  mediaKeyCommitment := slice packet 341 65

structure RoomChatSendHdr where
  participantId : UInt32
  requestId : UInt32
  accessEpoch : UInt32
  ciphertextBytes : UInt16
  roomId : Octets
  roomInstanceId : Octets
  nonce : Octets
  ciphertext : Octets

def RoomChatSendHdr.read : RoomChatSendHdr where
  participantId := u32At packet 5
  requestId := u32At packet 9
  accessEpoch := u32At packet 13
  ciphertextBytes := u16At packet 17
  roomId := slice packet 21 64
  roomInstanceId := slice packet 85 64
  nonce := slice packet 149 12
  ciphertext := slice packet 161 1024

structure RoomChatHistoryRequestHdr where
  requestId : UInt32
  accessEpoch : UInt32
  afterSequence : UInt64
  roomId : Octets
  roomInstanceId : Octets

def RoomChatHistoryRequestHdr.read : RoomChatHistoryRequestHdr where
  requestId := u32At packet 9
  accessEpoch := u32At packet 13
  afterSequence := u64At packet 17
  roomId := slice packet 25 64
  roomInstanceId := slice packet 89 64

structure RoomChatEventHdr where
  participantId : UInt32
  requestId : UInt32
  accessEpoch : UInt32
  chatSequence : UInt64
  serverTimeMs : Int
  ciphertextBytes : UInt16
  roomId : Octets
  roomInstanceId : Octets
  nonce : Octets
  ciphertext : Octets

def RoomChatEventHdr.read : RoomChatEventHdr where
  participantId := u32At packet 5
  requestId := u32At packet 9
  accessEpoch := u32At packet 13
  chatSequence := u64At packet 17
  serverTimeMs := i64At packet 25
  ciphertextBytes := u16At packet 33
  roomId := slice packet 37 64
  roomInstanceId := slice packet 101 64
  nonce := slice packet 165 12
  ciphertext := slice packet 177 1024

structure RoomChatSendRejectedHdr where
  nonce : Octets
  reason : Octets

def RoomChatSendRejectedHdr.read : RoomChatSendRejectedHdr where
  nonce := slice packet 17 12
  reason := slice packet 29 128

/-- A history response: its verdict and the event it carries unless it closes the history. -/
structure RoomChatHistoryResponseHdr where
  status : UInt8
  flags : UInt8
  event : RoomChatEventHdr

def RoomChatHistoryResponseHdr.read : RoomChatHistoryResponseHdr where
  status := u8At packet 13
  flags := u8At packet 14
  event :=
    { participantId := u32At packet 5
      requestId := u32At packet 9
      accessEpoch := u32At packet 17
      chatSequence := u64At packet 21
      serverTimeMs := i64At packet 29
      ciphertextBytes := u16At packet 37
      roomId := slice packet 41 64
      roomInstanceId := slice packet 105 64
      nonce := slice packet 169 12
      ciphertext := slice packet 181 1024 }

structure MetronomeSyncHdr where
  participantId : UInt32
  bpmMilli : UInt32
  beatNumber : UInt32
  flags : UInt8
  senderTimeNs : Int
  effectiveServerTimeNs : Int
  sequence : UInt32
deriving DecidableEq

def MetronomeSyncHdr.read : MetronomeSyncHdr where
  participantId := u32At packet 5
  bpmMilli := u32At packet 9
  beatNumber := u32At packet 13
  flags := u8At packet 17
  senderTimeNs := i64At packet 18
  effectiveServerTimeNs := i64At packet 26
  sequence := u32At packet 34

/-- The participant a relayed packet names as its sender, at the place its
receivers read it from. -/
def packetSender : Option UInt32 :=
  if magicOf packet = e2eKeyEnvelopeMagic then some (E2EKeyEnvelopeHdr.read packet).senderId
  else if magicOf packet = ctrlMagic then some (RoomKeyHandoffAckHdr.read packet).participantId
  else if magicOf packet = secureControlMagic then some (SecureControlHdr.read packet).senderId
  else if magicOf packet = secureAudioMagic then some (SecureAudioHdr.read packet).senderId
  else none

/-- The epoch and media key commitment a relayed packet is for, if its kind carries them. -/
def packetKey : Option (UInt32 × Octets) :=
  if magicOf packet = e2eKeyEnvelopeMagic then
    some ((E2EKeyEnvelopeHdr.read packet).accessEpoch,
      (E2EKeyEnvelopeHdr.read packet).mediaKeyCommitment)
  else if magicOf packet = ctrlMagic then
    some ((RoomKeyHandoffAckHdr.read packet).accessEpoch,
      (RoomKeyHandoffAckHdr.read packet).mediaKeyCommitment)
  else if magicOf packet = secureControlMagic then
    some ((SecureControlHdr.read packet).accessEpoch,
      (SecureControlHdr.read packet).mediaKeyCommitment)
  else none

end Sesivo
