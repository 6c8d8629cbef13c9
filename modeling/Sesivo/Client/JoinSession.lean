import Sesivo.JoinToken

set_option autoImplicit false

/- The room a client asks for and how far its JOIN has got,
`client_join_session.cpp` and `join_reliability.h`. -/

namespace Sesivo

open Octets JoinToken

structure PerformerJoinOptions where
  roomId : Octets := []
  roomInstanceId : Octets := []
  roomHandle : Octets := []
  userId : Octets := []
  displayName : Octets := []
  joinToken : Octets := []
  mediaSecret : Octets := []
  mediaKeyCommitment : Octets := []
  accessEpoch : UInt32 := 0
  accessMode : UInt8 := roomAccessOpen
  keyPublic : Octets := List.replicate e2ePublicKeyBytes 0

/-- `join_reliability::State`; a `lastJoinSent` of zero stands for no JOIN sent. -/
structure JoinState where
  joinConfirmed : Bool := false
  participantId : UInt32 := 0
  serverCapabilities : UInt32 := 0
  lastJoinSent : Time := 0

structure ClientJoinSession where
  options : PerformerJoinOptions := {}
  state : JoinState := {}

/-- One second, in the ticks of the steady clock. -/
def joinRetryInterval : Time := 1000000000

/-- Take over what a readable ticket for the same room says, without checking its signature. -/
def applyUnverifiedTokenClaims (options : PerformerJoinOptions) : PerformerJoinOptions :=
  if options.joinToken = [] then options
  else
    match parseUnverified options.joinToken with
    | .error _ => options
    | .ok (claims, _) =>
      if claims.roomId = options.roomId then
        { options with
          roomInstanceId := claims.roomInstanceId
          accessEpoch := claims.accessEpoch
          mediaKeyCommitment := claims.mediaKeyCommitment }
      else options

namespace ClientJoinSession

def create (options : PerformerJoinOptions) : ClientJoinSession where
  options := applyUnverifiedTokenClaims options

variable (session : ClientJoinSession)

def hasJoinToken : Bool := session.options.joinToken ≠ []

def hasMediaSecret : Bool := session.options.mediaSecret ≠ []

def reset : ClientJoinSession := { session with state := {} }

/-- Every earlier option is replaced, and the join starts over. -/
def configure (_ : ClientJoinSession) (options : PerformerJoinOptions) : ClientJoinSession :=
  create options

def setAccessMode (accessMode : UInt8) : ClientJoinSession :=
  { session with options := { session.options with accessMode := accessMode } }

/-- `set_media_secret`, `set_access_epoch` and `set_media_key_commitment` in one go. -/
def setMediaKey (mediaSecret : Octets) (accessEpoch : UInt32)
    (mediaKeyCommitment : Octets) : ClientJoinSession :=
  { session with
    options := { session.options with
      mediaSecret := mediaSecret
      accessEpoch := accessEpoch
      mediaKeyCommitment := mediaKeyCommitment } }

/-- The JOIN datagram; a ticket that does not fit its field makes the source throw. -/
def makeJoinHeader : Option Octets :=
  (writeFixedChecked joinTokenWireBytes session.options.joinToken).map fun joinToken =>
    u32Bytes ctrlMagic ++ [1] ++ u32Bytes 0 ++
      padded 64 (writeFixed 64 session.options.roomId) ++
      padded 64 (writeFixed 64 session.options.roomHandle) ++
      padded 64 (writeFixed 64 session.options.userId) ++
      padded 64 (writeFixed 64 session.options.displayName) ++
      padded joinTokenWireBytes joinToken ++ u32Bytes audioSupportedCapabilities ++
      padded e2ePublicKeyBytes session.options.keyPublic

def isJoinConfirmed : Bool := session.state.joinConfirmed

def canSendAudio : Bool := session.isJoinConfirmed

variable (now : Time)

def shouldSendJoin : Bool :=
  if session.isJoinConfirmed then false
  else session.state.lastJoinSent = 0 || joinRetryInterval ≤ now - session.state.lastJoinSent

def markJoinSent : ClientJoinSession :=
  { session with state := { session.state with lastJoinSent := now } }

def markJoinAck (participantId serverCapabilities : UInt32) : ClientJoinSession :=
  { session with
    state := { session.state with
      joinConfirmed := true
      participantId := participantId
      serverCapabilities := serverCapabilities } }

/-- The same changes as `reset`. -/
def markJoinRequired : ClientJoinSession := session.reset

def participantId : UInt32 := session.state.participantId

def serverSupports (capability : UInt32) : Bool :=
  session.state.serverCapabilities &&& capability ≠ 0

end ClientJoinSession

end Sesivo
