import Sesivo.Client.AudioSealing
import Sesivo.SealedPackets

set_option autoImplicit false

/- The datagrams that are taken for the acknowledgement of a key handoff: of what a client
writes, only its acknowledgements are. -/

namespace Sesivo

open Octets JoinToken SessionCrypto AudioPacket RoomKeyHandoffAckHdr

/-- A datagram that both the server and a client take for a handoff acknowledgement. -/
structure IsHandoffAck (bytes : Octets) : Prop where
  magic : magicOf bytes = ctrlMagic
  type : (CtrlHdr.read bytes).type = some .roomKeyHandoffAck
  long : roomKeyHandoffAckHdrBytes ≤ bytes.length

instance : DecidablePred IsHandoffAck := fun bytes =>
  decidable_of_iff (magicOf bytes = ctrlMagic ∧
      (CtrlHdr.read bytes).type = some .roomKeyHandoffAck ∧
      roomKeyHandoffAckHdrBytes ≤ bytes.length)
    ⟨fun all => ⟨all.1, all.2.1, all.2.2⟩, fun ack => ⟨ack.magic, ack.type, ack.long⟩⟩

/-- The header is all that counts, whatever follows it. -/
theorem handoffAck_of_beginning {packet bytes : Octets} (beginning : packet <+: bytes)
    (ack : IsHandoffAck packet) :
    IsHandoffAck bytes ∧ read bytes = read packet := by
  obtain ⟨rest, rfl⟩ := beginning
  have long := ack.long
  have field (offset count : Nat) (inside : offset + count ≤ 81) :
      slice (packet ++ rest) offset count = slice packet offset count :=
    slice_append_left packet rest offset count (inside.trans long)
  refine ⟨⟨?_, ?_, ?_⟩, ?_⟩
  · rw [magicOf, u32At, field 0 4 (by decide)]
    exact ack.magic
  · simp only [CtrlHdr.read, u8At, field 4 1 (by decide)]
    exact ack.type
  · rw [List.length_append]
    exact ack.long.trans (Nat.le_add_right _ _)
  · simp only [RoomKeyHandoffAckHdr.read, u32At, field 5 4 (by decide), field 9 4 (by decide),
      field 13 4 (by decide), field 17 64 (by decide)]

variable (type : UInt8) (participantId : UInt32) (rest : Octets)

theorem type_ctrlDatagram :
    (CtrlHdr.read (ctrlDatagram type participantId ++ rest)).type = Cmd.ofByte type := by
  have fifth : slice (ctrlDatagram type participantId ++ rest) 4 1 =
      slice (type :: (u32Bytes participantId ++ rest)) 0 1 := by
    rfl
  simp only [CtrlHdr.read, u8At, fifth, leNat_byte, UInt8.ofNat_toNat]

theorem ctrlDatagram_not_ack (other : Cmd.ofByte type ≠ some .roomKeyHandoffAck) :
    ¬ IsHandoffAck (ctrlDatagram type participantId ++ rest) := by
  intro ack
  have found := ack.type
  rw [type_ctrlDatagram] at found
  exact other found

theorem read_keyHandoffAckBytes (targetId accessEpoch : UInt32) {commitment : Octets}
    (size : commitment.length = mediaKeyCommitmentHexBytes) :
    read (keyHandoffAckBytes participantId targetId accessEpoch commitment) =
      { participantId := participantId
        targetId := targetId
        accessEpoch := accessEpoch
        mediaKeyCommitment := commitment } := by
  have sixtyFour : commitment.length = 64 := size
  have text := slice_whole commitment [] 64 sixtyFour
  rw [List.append_nil] at text
  simp only [RoomKeyHandoffAckHdr.read, keyHandoffAckBytes, padded_of_length size,
    List.append_assoc, List.cons_append, List.nil_append, u32At, slice_after_u32Bytes,
    slice_after_byte, leNat_u32Bytes, UInt32.ofNat_toNat, text]

namespace Client

/-- What is sent between the two states has no handoff acknowledgement in it. -/
def NoAck (before after : Client) : Prop :=
  ∀ datagram ∈ after.outbox, IsHandoffAck datagram.bytes → datagram ∈ before.outbox

theorem NoAck.of_same {before after : Client} (outbox : after.outbox = before.outbox) :
    NoAck before after :=
  fun _ member _ => outbox ▸ member

variable (client : Client)

theorem NoAck.refl : NoAck client client := .of_same rfl

theorem NoAck.trans {first second third : Client} (earlier : NoAck first second)
    (later : NoAck second third) : NoAck first third :=
  fun datagram member ack => earlier datagram (later datagram member ack) ack

variable {datagram : Datagram}

theorem append_noAck
    (other : ¬ IsHandoffAck datagram.bytes) :
    NoAck client { client with outbox := client.outbox ++ [datagram] } := by
  intro sent member ack
  rcases List.mem_append.mp member with old | new
  · exact old
  · rw [List.mem_singleton.mp new] at ack
    exact absurd ack other

theorem send_noAck (other : ¬ IsHandoffAck datagram.bytes) :
    NoAck client (client.send datagram) := by
  unfold send
  split
  · exact append_noAck client other
  · exact .refl client

theorem leaveDatagram_not_ack : ¬ IsHandoffAck leaveDatagram.bytes :=
  ctrlDatagram_not_ack 2 0 [] (by decide)

theorem aliveDatagram_not_ack : ¬ IsHandoffAck aliveDatagram.bytes :=
  ctrlDatagram_not_ack 3 0 [] (by decide)

theorem makeJoinHeader_not_ack {session : ClientJoinSession} {join : Octets}
    (built : session.makeJoinHeader = some join) : ¬ IsHandoffAck join := by
  obtain ⟨joinToken, -, rfl⟩ := Option.map_eq_some_iff.mp built
  have header := ctrlDatagram_not_ack 1 0
  exact header _ (by decide)

theorem not_ack_of_magic {bytes : Octets} {magic : UInt32} (found : magicOf bytes = magic)
    (other : magic ≠ ctrlMagic) : ¬ IsHandoffAck bytes :=
  fun ack => other (found.symm.trans ack.magic)

theorem keyEnvelopeBytes_not_ack (senderId targetId accessEpoch : UInt32)
    (commitment encrypted : Octets) :
    ¬ IsHandoffAck (keyEnvelopeBytes senderId targetId accessEpoch commitment encrypted) := by
  refine @not_ack_of_magic _ e2eKeyEnvelopeMagic ?_ (by decide)
  simp only [magicOf, keyEnvelopeBytes, List.append_assoc, u32At_u32Bytes]

theorem sealControlPacket_not_ack {sodium : Sodium} {key plaintext nonce bytes : Octets}
    {metadata : SecureControlMetadata} {outCapacity : Nat}
    (written : sealControlPacket sodium key metadata plaintext outCapacity nonce = some bytes) :
    ¬ IsHandoffAck bytes := by
  refine @not_ack_of_magic _ secureControlMagic ?_ (by decide)
  rw [(sealControlPacket_some written).2]
  simp only [magicOf, secureControlHeader, List.append_assoc, u32At_u32Bytes]

end Client

end Sesivo
