import Sesivo.RedundantParser

set_option autoImplicit false

/- Writing redundant packets, `audio_packet.h`. Both writers take the longest leading
part of the packets that fits the byte budget. -/

namespace Sesivo.AudioPacket

open Octets List

/-- The selecting loop of `create_redundant_audio_packet`, which has no buffer to fit. -/
def selectUnbounded (maxPacketBytes : Nat) : Nat → Nat → List Octets → Option (List Octets)
  | _, _, [] => some []
  | total, selected, packet :: packets =>
    match validateAudioPacketBytes packet with
    | .error _ => none
    | .ok _ =>
      if 0 < maxPacketBytes ∧ maxPacketBytes < total + packet.length then
        if selected = 0 then none else some []
      else
        (selectUnbounded maxPacketBytes (total + packet.length) (selected + 1) packets).map
          (packet :: ·)

/-- The selected packets are written into a buffer of their size. -/
def createRedundantAudioPacket (packets : List Octets) (maxPacketBytes : Nat) : Option Octets :=
  if packets = [] ∨ maxAudioRedundantPackets < packets.length then none
  else
    match selectUnbounded maxPacketBytes redundantHeaderSize 0 packets with
    | none => none
    | some selected =>
      writeRedundantAudioPacket selected (redundantHeaderSize + selected.flatten.length)
        maxPacketBytes

/-- With `total` bytes before them the packets fit the budget; zero means there is none. -/
def Fits (maxPacketBytes total : Nat) (packets : List Octets) : Prop :=
  maxPacketBytes = 0 ∨ total + packets.flatten.length ≤ maxPacketBytes

/-- The longest leading part of the packets that fits. -/
structure LongestFitting (maxPacketBytes total : Nat) (packets chosen : List Octets) : Prop where
  leading : ∃ count, chosen = packets.take count
  fits : chosen ≠ [] → Fits maxPacketBytes total chosen
  longest : ∀ count, count ≤ packets.length → Fits maxPacketBytes total (packets.take count) →
    count ≤ chosen.length

variable {maxPacketBytes outCapacity total selected : Nat} {packets chosen : List Octets}

/-- The buffer only decides whether what was selected is written. -/
theorem selectPackets_eq (packets : List Octets) (total selected : Nat)
    (room : total ≤ outCapacity) :
    selectPackets outCapacity maxPacketBytes total selected packets =
      (selectUnbounded maxPacketBytes total selected packets).filter
        fun chosen => total + chosen.flatten.length ≤ outCapacity := by
  induction packets generalizing total selected with
  | nil =>
    rw [selectPackets, selectUnbounded, Option.filter_some, if_pos]
    exact decide_eq_true room
  | cons packet packets ih =>
    rw [selectPackets, selectUnbounded]
    cases validateAudioPacketBytes packet with
    | error reason => rfl
    | ok accepted =>
      simp only
      by_cases beyond : 0 < maxPacketBytes ∧ maxPacketBytes < total + packet.length
      · rw [if_pos beyond, if_pos beyond]
        by_cases first : selected = 0
        · rw [if_pos first]
          rfl
        · rw [if_neg first, Option.filter_some, if_pos]
          exact decide_eq_true room
      · rw [if_neg beyond, if_neg beyond]
        by_cases full : outCapacity < total + packet.length
        · rw [if_pos full]
          cases selectUnbounded maxPacketBytes (total + packet.length) (selected + 1) packets with
          | none => rfl
          | some rest =>
            rw [Option.map_some, Option.filter_some, if_neg]
            rw [flatten_cons, length_append, decide_eq_true_iff]
            omega
        · rw [if_neg full, ih _ _ (Nat.le_of_not_lt full)]
          cases selectUnbounded maxPacketBytes (total + packet.length) (selected + 1) packets with
          | none => rfl
          | some rest =>
            rw [Option.map_some, Option.filter_some, Option.filter_some, flatten_cons,
              length_append, Nat.add_assoc]
            split <;> rfl

theorem selectUnbounded_longest
    (taken : selectUnbounded maxPacketBytes total selected packets = some chosen) :
    LongestFitting maxPacketBytes total packets chosen ∧
      (selected = 0 → packets ≠ [] → chosen ≠ []) ∧
      ∀ packet ∈ chosen, validateAudioPacketBytes packet = .ok () := by
  induction packets generalizing total selected chosen with
  | nil =>
    obtain rfl := Option.some.inj taken
    refine ⟨⟨⟨0, rfl⟩, fun never => absurd rfl never, fun _ none _ => none⟩,
      fun _ never => absurd rfl never, ?_⟩
    intro packet member
    cases member
  | cons packet packets ih =>
    rw [selectUnbounded] at taken
    split at taken
    · cases taken
    rename_i valid
    by_cases beyond : 0 < maxPacketBytes ∧ maxPacketBytes < total + packet.length
    · rw [if_pos beyond] at taken
      by_cases first : selected = 0
      · rw [if_pos first] at taken
        cases taken
      rw [if_neg first] at taken
      obtain rfl := Option.some.inj taken
      refine ⟨⟨⟨0, rfl⟩, fun never => absurd rfl never, ?_⟩, fun none => absurd none first, ?_⟩
      · intro count _ fits
        cases count with
        | zero => exact Nat.le_refl 0
        | succ count =>
          rw [Fits, take_succ_cons, flatten_cons, length_append] at fits
          omega
      · intro packet member
        cases member
    · rw [if_neg beyond] at taken
      obtain ⟨rest, more, rfl⟩ := Option.map_eq_some_iff.mp taken
      obtain ⟨longest, -, others⟩ := ih more
      obtain ⟨count, leading⟩ := longest.leading
      refine ⟨⟨⟨count + 1, by rw [take_succ_cons, leading]⟩, ?_, ?_⟩,
        fun _ _ => cons_ne_nil packet rest, forall_mem_cons.mpr ⟨valid, others⟩⟩
      · intro _
        rw [Fits, flatten_cons, length_append]
        by_cases last : rest = []
        · rw [last, flatten_nil, length_nil]
          omega
        have fits := longest.fits last
        rw [Fits] at fits
        omega
      · intro count within fits
        cases count with
        | zero => exact Nat.zero_le _
        | succ count =>
          rw [Fits, take_succ_cons, flatten_cons, length_append] at fits
          have bound := longest.longest count (Nat.le_of_succ_le_succ within) (by rw [Fits]; omega)
          rw [length_cons]
          omega

/-- A selection that fits is selected again as a whole. -/
theorem selectUnbounded_again (valid : ∀ packet ∈ chosen, validateAudioPacketBytes packet = .ok ())
    (fits : Fits maxPacketBytes total chosen) (selected : Nat) :
    selectUnbounded maxPacketBytes total selected chosen = some chosen := by
  induction chosen generalizing total selected with
  | nil => rfl
  | cons packet rest ih =>
    obtain ⟨first, others⟩ := forall_mem_cons.mp valid
    rw [Fits, flatten_cons, length_append] at fits
    have later : Fits maxPacketBytes (total + packet.length) rest := by
      rw [Fits]
      omega
    rw [selectUnbounded, first]
    rw [if_neg (by omega), ih others later]
    rfl

/-- What is written for the selected packets. -/
def encoded (chosen : List Octets) : Octets := redundantHeaderBytes chosen.length ++ chosen.flatten

theorem encoded_length (chosen : List Octets) :
    (encoded chosen).length = redundantHeaderSize + chosen.flatten.length := by
  rw [encoded, length_append]
  rfl

/-- The selection of a list that either writer accepts. -/
def selection (packets : List Octets) (maxPacketBytes : Nat) : Option (List Octets) :=
  if packets = [] ∨ maxAudioRedundantPackets < packets.length then none
  else selectUnbounded maxPacketBytes redundantHeaderSize 0 packets

theorem writeRedundantAudioPacket_eq (packets : List Octets) (outCapacity maxPacketBytes : Nat) :
    writeRedundantAudioPacket packets outCapacity maxPacketBytes =
      ((selection packets maxPacketBytes).map encoded).filter
        fun out => out.length ≤ outCapacity := by
  unfold writeRedundantAudioPacket selection
  by_cases refused : packets = [] ∨ maxAudioRedundantPackets < packets.length
  · rw [if_pos refused, if_pos (by rw [← or_assoc]; exact .inl refused)]
    rfl
  rw [if_neg refused]
  by_cases small : outCapacity < redundantHeaderSize
  · rw [if_pos (.inr (.inr small))]
    cases selectUnbounded maxPacketBytes redundantHeaderSize 0 packets with
    | none => rfl
    | some chosen =>
      rw [Option.map_some, Option.filter_some, if_neg]
      rw [encoded_length, decide_eq_true_iff]
      omega
  · rw [if_neg (by rw [← or_assoc]; exact not_or.mpr ⟨refused, small⟩),
      selectPackets_eq packets redundantHeaderSize 0 (Nat.le_of_not_lt small)]
    cases selectUnbounded maxPacketBytes redundantHeaderSize 0 packets with
    | none => rfl
    | some chosen =>
      rw [Option.map_some, Option.filter_some, Option.filter_some, encoded_length]
      split <;> rfl

theorem selection_spec (taken : selection packets maxPacketBytes = some chosen) :
    LongestFitting maxPacketBytes redundantHeaderSize packets chosen ∧ chosen ≠ [] ∧
      chosen.length ≤ maxAudioRedundantPackets ∧
      ∀ packet ∈ chosen, validateAudioPacketBytes packet = .ok () := by
  unfold selection at taken
  split at taken
  · cases taken
  rename_i accepted
  have parts := not_or.mp accepted
  obtain ⟨longest, nonempty, valid⟩ := selectUnbounded_longest taken
  obtain ⟨count, leading⟩ := longest.leading
  refine ⟨longest, nonempty rfl parts.1, ?_, valid⟩
  have fewer : chosen.length ≤ packets.length := by
    rw [leading]
    exact length_take_le' count packets
  exact Nat.le_trans fewer (Nat.le_of_not_lt parts.2)

theorem createRedundantAudioPacket_eq (packets : List Octets) (maxPacketBytes : Nat) :
    createRedundantAudioPacket packets maxPacketBytes =
      (selection packets maxPacketBytes).map encoded := by
  cases taken : selection packets maxPacketBytes with
  | none =>
    unfold selection at taken
    unfold createRedundantAudioPacket
    split at taken
    next refused => rw [if_pos refused]; rfl
    next accepted => rw [if_neg accepted, taken]; rfl
  | some chosen =>
    obtain ⟨longest, nonempty, few, valid⟩ := selection_spec taken
    have again : selection chosen maxPacketBytes = some chosen := by
      rw [selection, if_neg (not_or.mpr ⟨nonempty, Nat.not_lt.mpr few⟩)]
      exact selectUnbounded_again valid (longest.fits nonempty) 0
    unfold selection at taken
    unfold createRedundantAudioPacket
    split at taken
    · cases taken
    rename_i accepted
    rw [if_neg accepted, taken]
    simp only
    rw [writeRedundantAudioPacket_eq, again, Option.map_some, Option.filter_some, if_pos]
    rw [encoded_length]
    exact decide_eq_true (Nat.le_refl _)

/-- A packet that is written validates, carries the longest leading part of the packets
that fits the budget, and fits budget and buffer. The writer that makes its own buffer
does the same as the other one with a buffer that is large enough. -/
theorem redundant_written (packets : List Octets) (outCapacity maxPacketBytes : Nat) :
    (∀ out, writeRedundantAudioPacket packets outCapacity maxPacketBytes = some out →
      validateRedundantAudioPacketBytes out = .ok () ∧
        (∃ chosen, LongestFitting maxPacketBytes redundantHeaderSize packets chosen ∧
          chosen ≠ [] ∧ ∀ (σ : Type) (func : σ → Octets → Nat → σ) (state : σ),
            forEachRedundantAudioChild out func state =
                chosen.zipIdx.foldl (fun current entry => func current entry.1 entry.2) state ∧
              forEachRedundantAudioChildReverse out func state =
                chosen.zipIdx.reverse.foldl (fun current entry => func current entry.1 entry.2)
                  state) ∧
        (0 < maxPacketBytes → out.length ≤ maxPacketBytes) ∧ out.length ≤ outCapacity) ∧
      ((∀ out, createRedundantAudioPacket packets maxPacketBytes = some out →
          out.length ≤ outCapacity) →
        createRedundantAudioPacket packets maxPacketBytes =
          writeRedundantAudioPacket packets outCapacity maxPacketBytes) := by
  constructor
  · intro out written
    rw [writeRedundantAudioPacket_eq] at written
    obtain ⟨made, within⟩ := Option.filter_eq_some_iff.mp written
    obtain ⟨chosen, taken, rfl⟩ := Option.map_eq_some_iff.mp made
    obtain ⟨longest, nonempty, few, valid⟩ := selection_spec taken
    obtain ⟨accepted, -, listed⟩ := children_encoded valid nonempty few
    refine ⟨accepted, ⟨chosen, longest, nonempty, ?_⟩, ?_, of_decide_eq_true within⟩
    · intro σ func state
      rw [forEachRedundantAudioChild, forEachRedundantAudioChildReverse, encoded, listed]
      exact ⟨rfl, rfl⟩
    intro limited
    have fits := longest.fits nonempty
    rw [Fits] at fits
    rw [encoded_length]
    omega
  · intro enough
    rw [writeRedundantAudioPacket_eq, ← createRedundantAudioPacket_eq]
    cases made : createRedundantAudioPacket packets maxPacketBytes with
    | none => rfl
    | some out =>
      rw [Option.filter_some, if_pos]
      exact decide_eq_true (enough out made)

end Sesivo.AudioPacket
