import Sesivo.Lib.Run
import Sesivo.Lib.Store
import Sesivo.SessionCrypto

set_option autoImplicit false

/- The client's list of the other participants, `participant_manager.h`: who is shown, and
under which name and key. An announcement may come before the first packet of the
participant it is about; it is then parked until there is an entry to put it into. The
objects that wait to be destroyed are left out. -/

namespace Sesivo

open SessionCrypto Option Store

structure ParticipantMetadata where
  profileId : Octets := []
  displayName : Octets := []
  keyPublic : Octets := List.replicate e2ePublicKeyBytes 0
  hasKeyPublic : Bool := false
deriving DecidableEq

/-- An entry of the list. -/
structure ManagedParticipant where
  metadata : ParticipantMetadata := {}
  lastPacketTime : Time

structure ParticipantManager where
  participants : Store UInt32 ManagedParticipant := ∅
  pendingMetadata : Store UInt32 ParticipantMetadata := ∅
  infoParticipantSnapshot : List UInt32 := []
  metadataSnapshot : List (UInt32 × ParticipantMetadata) := []

inductive ManagerOp where
  /-- The decoder can be created or it cannot. -/
  | registerParticipant (id : UInt32) (created : Bool) (now : Time)
  | setParticipantMetadata (id : UInt32) (metadata : ParticipantMetadata)
  | removeParticipant (id : UInt32)
  | removeTimedOutParticipants (now : Time) (timeoutSeconds : Int)
  | clear
  /-- A packet of the participant arrives. -/
  | touch (id : UInt32) (now : Time)
deriving DecidableEq

namespace ParticipantManager

variable (manager : ParticipantManager)

def publishMetadataSnapshot : ParticipantManager :=
  { manager with
    metadataSnapshot := manager.participants.pairs.map fun entry => (entry.1, entry.2.metadata) }

def publishAllSnapshots : ParticipantManager :=
  { manager with
    infoParticipantSnapshot := manager.participants.pairs.map Prod.fst
    : ParticipantManager }.publishMetadataSnapshot

variable (id : UInt32)

def registerParticipant (created : Bool) (now : Time) : ParticipantManager :=
  if (manager.participants.lookup id).isSome = true ∨ created = false then manager
  else
    { manager with
      participants := manager.participants.insert id
        ⟨(manager.pendingMetadata.lookup id).getD {}, now⟩
      pendingMetadata := manager.pendingMetadata.erase id
      : ParticipantManager }.publishAllSnapshots

def setParticipantMetadata (metadata : ParticipantMetadata) : ParticipantManager :=
  if (manager.participants.lookup id).isSome = true then
    { manager with
      participants := manager.participants.adjust id fun participant =>
        { participant with metadata := metadata }
      : ParticipantManager }.publishMetadataSnapshot
  else { manager with pendingMetadata := manager.pendingMetadata.insert id metadata }

def removeParticipant : ParticipantManager :=
  if (manager.participants.lookup id).isSome = true then
    { manager with participants := manager.participants.erase id : ParticipantManager }.publishAllSnapshots
  else manager

variable (now : Time)

def removeTimedOutParticipants (timeoutSeconds : Int) : ParticipantManager :=
  let timedOut (participant : ManagedParticipant) : Bool :=
    timeoutSeconds < (now - participant.lastPacketTime).tdiv 1000000000
  if manager.participants.pairs.any fun entry => timedOut entry.2 then
    { manager with
      participants := manager.participants.keep fun _ participant => !timedOut participant
      : ParticipantManager }.publishAllSnapshots
  else manager

/-- What is parked stays. -/
def clear : ParticipantManager :=
  { manager with participants := ∅ : ParticipantManager }.publishAllSnapshots

def touch : ParticipantManager :=
  { manager with
    participants := manager.participants.adjust id fun participant =>
      { participant with lastPacketTime := now } }

/-- What the user is shown. -/
def getAllInfo : List (UInt32 × ParticipantMetadata) :=
  manager.infoParticipantSnapshot.map fun id =>
    (id, ((manager.metadataSnapshot.find? fun entry => entry.1 = id).map Prod.snd).getD {})

def perform : ManagerOp → ParticipantManager
  | .registerParticipant id created now => manager.registerParticipant id created now
  | .setParticipantMetadata id metadata => manager.setParticipantMetadata id metadata
  | .removeParticipant id => manager.removeParticipant id
  | .removeTimedOutParticipants now timeoutSeconds =>
    manager.removeTimedOutParticipants now timeoutSeconds
  | .clear => manager.clear
  | .touch id now => manager.touch id now

end ParticipantManager

/-- The list, with what has been announced of each participant since it last left and since
the list was last cleared. -/
structure ManagerLog where
  manager : ParticipantManager := {}
  announced : List (UInt32 × ParticipantMetadata) := []

namespace ManagerLog

def step (log : ManagerLog) (op : ManagerOp) : ManagerLog where
  manager := log.manager.perform op
  announced :=
    match op with
    | .setParticipantMetadata id metadata => log.announced ++ [(id, metadata)]
    | .removeParticipant id => log.announced.filter fun entry => entry.1 ≠ id
    | .clear => []
    | _ => log.announced

/-- Whoever is shown with a name or a key was announced with them in this session. -/
def Current (log : ManagerLog) : Prop :=
  ∀ shown ∈ log.manager.getAllInfo, shown.2 = {} ∨ shown ∈ log.announced

instance (log : ManagerLog) : Decidable log.Current :=
  inferInstanceAs (Decidable (∀ _ ∈ _, _))

/-- Nothing is parked for those who leave. -/
def NothingParked (log : ManagerLog) : ManagerOp → Prop
  | .clear => ∀ parked ∈ log.manager.pendingMetadata.pairs, parked.2 = {}
  | .removeParticipant id => ∀ parked ∈ log.manager.pendingMetadata.lookup id, parked = {}
  | _ => True

/-- A session's announcement is shown to the next. -/
theorem metadata_outlives_session :
    ¬ (Run.run step {} [.setParticipantMetadata 5 { displayName := [65] }, .clear,
      .registerParticipant 5 true 0]).Current := by
  decide +kernel

/-- What is published is what is stored, and nothing is parked for those who have an entry. -/
structure Sound (log : ManagerLog) : Prop where
  info : log.manager.infoParticipantSnapshot = log.manager.participants.pairs.map Prod.fst
  metadata : log.manager.metadataSnapshot =
    log.manager.participants.pairs.map fun entry => (entry.1, entry.2.metadata)
  apart : ∀ id, (log.manager.participants.lookup id).isSome = true →
    log.manager.pendingMetadata.lookup id = none

variable {log : ManagerLog}

theorem mem_getAllInfo (sound : log.Sound) (id : UInt32) (metadata : ParticipantMetadata) :
    (id, metadata) ∈ log.manager.getAllInfo ↔
      ∃ participant, log.manager.participants.lookup id = some participant ∧
        participant.metadata = metadata := by
  rw [ParticipantManager.getAllInfo, List.mem_map, sound.info, sound.metadata]
  constructor
  · rintro ⟨other, listed, same⟩
    obtain ⟨participant, found⟩ := (mem_pairs_fst _ _).mp listed
    rw [find_pairs, found] at same
    obtain ⟨rfl, rfl⟩ := Prod.mk.inj same
    exact ⟨participant, found, rfl⟩
  · rintro ⟨participant, found, rfl⟩
    refine ⟨id, (mem_pairs_fst _ _).mpr ⟨participant, found⟩, ?_⟩
    rw [find_pairs, found]
    rfl

/-- Nothing that is stored or parked is from an earlier session. -/
structure Fresh (log : ManagerLog) : Prop where
  stored : ∀ id participant, log.manager.participants.lookup id = some participant →
    participant.metadata = {} ∨ (id, participant.metadata) ∈ log.announced
  parked : ∀ id metadata, log.manager.pendingMetadata.lookup id = some metadata →
    metadata = {} ∨ (id, metadata) ∈ log.announced

theorem current_iff (sound : log.Sound) :
    log.Current ↔ ∀ id participant, log.manager.participants.lookup id = some participant →
      participant.metadata = {} ∨ (id, participant.metadata) ∈ log.announced := by
  constructor
  · intro current id participant found
    exact current (id, participant.metadata)
      ((mem_getAllInfo sound id participant.metadata).mpr ⟨participant, found, rfl⟩)
  rintro stored ⟨id, metadata⟩ shown
  obtain ⟨participant, found, rfl⟩ := (mem_getAllInfo sound id metadata).mp shown
  exact stored id participant found

theorem sound_initial : Sound {} where
  info := rfl
  metadata := rfl
  apart := fun _ _ => rfl

/-- Publishing everything makes the snapshots agree with the entries. -/
theorem sound_published {manager : ParticipantManager}
    (apart : ∀ id, (manager.participants.lookup id).isSome = true →
      manager.pendingMetadata.lookup id = none) (announced : List (UInt32 × ParticipantMetadata)) :
    Sound ⟨manager.publishAllSnapshots, announced⟩ :=
  ⟨rfl, rfl, apart⟩

variable (participants : Store UInt32 ManagedParticipant)

/-- The entries of the list do not change but for their contents. -/
theorem pairs_adjust_fst (id : UInt32)
    (update : ManagedParticipant → ManagedParticipant) :
    (participants.adjust id update).pairs.map Prod.fst = participants.pairs.map Prod.fst := by
  rw [adjust, pairs_mapValues, List.map_map]
  rfl

theorem isSome_adjust (id other : UInt32)
    (update : ManagedParticipant → ManagedParticipant) :
    ((participants.adjust id update).lookup other).isSome = (participants.lookup other).isSome := by
  rw [adjust, lookup_mapValues, isSome_map]

theorem step_sound (sound : log.Sound) (op : ManagerOp) : (log.step op).Sound := by
  have info := sound.info
  have metadata := sound.metadata
  have apart := sound.apart
  cases op with
  | registerParticipant id created now =>
    dsimp only [step, ParticipantManager.perform, ParticipantManager.registerParticipant]
    split
    · exact ⟨info, metadata, apart⟩
    refine sound_published ?_ _
    intro other known
    simp only [lookup_insert, lookup_erase] at known ⊢
    by_cases same : other = id
    · rw [if_pos same]
    · rw [if_neg same] at known ⊢
      exact apart other known
  | setParticipantMetadata id announcement =>
    dsimp only [step, ParticipantManager.perform, ParticipantManager.setParticipantMetadata]
    split
    · refine ⟨?_, rfl, ?_⟩
      · exact info.trans (pairs_adjust_fst log.manager.participants id _).symm
      · intro other known
        exact apart other ((isSome_adjust log.manager.participants id other _).symm.trans known)
    rename_i unknown
    refine ⟨info, metadata, ?_⟩
    intro other known
    rw [lookup_insert, if_neg]
    · exact apart other known
    · rintro rfl
      exact unknown known
  | removeParticipant id =>
    dsimp only [step, ParticipantManager.perform, ParticipantManager.removeParticipant]
    split
    · refine sound_published ?_ _
      intro other known
      rw [lookup_erase] at known
      split at known
      · cases known
      · exact apart other known
    · exact ⟨info, metadata, apart⟩
  | removeTimedOutParticipants now timeoutSeconds =>
    dsimp only [step, ParticipantManager.perform, ParticipantManager.removeTimedOutParticipants]
    split
    · refine sound_published ?_ _
      intro other known
      rw [lookup_keep] at known
      exact apart other (isSome_of_isSome_filter _ _ known)
    · exact ⟨info, metadata, apart⟩
  | clear =>
    refine sound_published ?_ _
    intro other known
    cases known
  | touch id now =>
    refine ⟨info.trans (pairs_adjust_fst log.manager.participants id _).symm, metadata.trans ?_, ?_⟩
    · unfold step
      simp only [ParticipantManager.perform, ParticipantManager.touch, adjust,
        pairs_mapValues, List.map_map]
      apply List.map_congr_left
      intro entry _
      simp only [Function.comp_apply]
      split <;> rfl
    · intro other known
      exact apart other ((isSome_adjust log.manager.participants id other _).symm.trans known)

/-- Whoever is shown, and whoever registers next, is shown as announced in this session. -/
def ShownCurrent (log : ManagerLog) : Prop :=
  log.Current ∧ ∀ id now, (log.step (.registerParticipant id true now)).Current

/-- An entry comes with what was parked for it, so it is current if that is. -/
theorem Fresh.registered (fresh : log.Fresh) (id : UInt32) (created : Bool) (now : Time) :
    (log.step (.registerParticipant id created now)).Fresh := by
  dsimp only [step, ParticipantManager.perform, ParticipantManager.registerParticipant]
  split
  · exact ⟨fresh.stored, fresh.parked⟩
  refine ⟨?_, ?_⟩
  · intro other participant found
    simp only [ParticipantManager.publishAllSnapshots, ParticipantManager.publishMetadataSnapshot,
      lookup_insert] at found
    by_cases same : other = id
    · rw [if_pos same] at found
      rw [← some.inj found, same]
      cases parked : log.manager.pendingMetadata.lookup id with
      | none => exact .inl rfl
      | some metadata => exact fresh.parked id metadata parked
    · rw [if_neg same] at found
      exact fresh.stored other participant found
  · intro other metadata found
    simp only [ParticipantManager.publishAllSnapshots, ParticipantManager.publishMetadataSnapshot,
      lookup_erase] at found
    split at found
    · cases found
    · exact fresh.parked other metadata found

theorem fresh_iff (sound : log.Sound) : log.ShownCurrent ↔ log.Fresh := by
  constructor
  · rintro ⟨current, next⟩
    refine ⟨(current_iff sound).mp current, ?_⟩
    intro id metadata parked
    have unknown : ¬ ((log.manager.participants.lookup id).isSome = true ∨ true = false) := by
      rintro (known | impossible)
      · rw [sound.apart id known] at parked
        cases parked
      · cases impossible
    have shown := (current_iff (step_sound sound _)).mp (next id 0) id ⟨metadata, 0⟩
    apply shown
    unfold step
    simp only [ParticipantManager.perform, ParticipantManager.registerParticipant,
      if_neg unknown, ParticipantManager.publishAllSnapshots,
      ParticipantManager.publishMetadataSnapshot, lookup_insert, if_pos, parked,
      getD_some]
  · intro fresh
    refine ⟨(current_iff sound).mpr fresh.stored, fun id now => ?_⟩
    exact (current_iff (step_sound sound _)).mpr (fresh.registered id true now).stored

theorem fresh_removed (fresh : log.Fresh) (id : UInt32) :
    (log.step (.removeParticipant id)).Fresh ↔ log.NothingParked (.removeParticipant id) := by
  have others {other : UInt32} {metadata : ParticipantMetadata} (different : other ≠ id)
      (known : metadata = {} ∨ (other, metadata) ∈ log.announced) :
      metadata = {} ∨ (other, metadata) ∈ log.announced.filter fun entry => entry.1 ≠ id := by
    refine known.imp_right fun member => List.mem_filter.mpr ⟨member, ?_⟩
    exact decide_eq_true different
  have gone {metadata : ParticipantMetadata} :
      (id, metadata) ∉ log.announced.filter fun entry => entry.1 ≠ id := by
    intro member
    exact of_decide_eq_true (List.mem_filter.mp member).2 rfl
  have removed : (log.step (.removeParticipant id)).manager.pendingMetadata =
      log.manager.pendingMetadata ∧ ∀ other,
      (log.step (.removeParticipant id)).manager.participants.lookup other =
        if other = id then none else log.manager.participants.lookup other := by
    dsimp only [step, ParticipantManager.perform, ParticipantManager.removeParticipant]
    split
    · exact ⟨rfl, fun other => lookup_erase _ _ _⟩
    rename_i unknown
    refine ⟨rfl, fun other => ?_⟩
    split
    next same =>
      rw [same]
      exact not_isSome_iff_eq_none.mp unknown
    · rfl
  constructor
  · intro after metadata parked
    exact (after.parked id metadata (removed.1 ▸ parked)).resolve_right gone
  intro nothing
  refine ⟨?_, ?_⟩
  · intro other participant found
    rw [removed.2] at found
    split at found
    · cases found
    next different => exact others different (fresh.stored other participant found)
  · intro other metadata found
    rw [removed.1] at found
    by_cases same : other = id
    · exact .inl (nothing metadata (same ▸ found))
    · exact others same (fresh.parked other metadata found)

/-- What is stored and parked stays current unless something parked is left behind. -/
theorem step_fresh_iff (fresh : log.Fresh) (op : ManagerOp) :
    (log.step op).Fresh ↔ log.NothingParked op := by
  cases op with
  | registerParticipant id created now =>
    exact iff_of_true (fresh.registered id created now) trivial
  | removeParticipant id => exact fresh_removed fresh id
  | setParticipantMetadata id announcement =>
    refine iff_of_true ?_ trivial
    have earlier {other : UInt32} {metadata : ParticipantMetadata}
        (known : metadata = {} ∨ (other, metadata) ∈ log.announced) :
        metadata = {} ∨ (other, metadata) ∈ log.announced ++ [(id, announcement)] :=
      known.imp_right (List.mem_append_left _)
    have newest : (id, announcement) ∈ log.announced ++ [(id, announcement)] :=
      List.mem_append_right _ (List.mem_singleton_self _)
    dsimp only [step, ParticipantManager.perform, ParticipantManager.setParticipantMetadata]
    split
    · refine ⟨?_, fun other metadata found => earlier (fresh.parked other metadata found)⟩
      intro other participant found
      simp only [ParticipantManager.publishMetadataSnapshot, adjust, lookup_mapValues] at found
      obtain ⟨before, held, rfl⟩ := map_eq_some_iff.mp found
      split
      next same => exact .inr (same ▸ newest)
      · exact earlier (fresh.stored other before held)
    · refine ⟨fun other participant found => earlier (fresh.stored other participant found), ?_⟩
      intro other metadata found
      simp only [lookup_insert] at found
      split at found
      next same =>
        rw [← some.inj found, same]
        exact .inr newest
      · exact earlier (fresh.parked other metadata found)
  | removeTimedOutParticipants now timeoutSeconds =>
    refine iff_of_true ?_ trivial
    dsimp only [step, ParticipantManager.perform, ParticipantManager.removeTimedOutParticipants]
    split
    · refine ⟨?_, fresh.parked⟩
      intro other participant found
      simp only [ParticipantManager.publishAllSnapshots,
        ParticipantManager.publishMetadataSnapshot, lookup_keep] at found
      exact fresh.stored other participant (eq_some_of_filter_eq_some found)
    · exact ⟨fresh.stored, fresh.parked⟩
  | clear =>
    constructor
    · rintro after ⟨id, metadata⟩ parked
      have found := (mem_pairs _ id metadata).mp parked
      exact (after.parked id metadata found).resolve_right List.not_mem_nil
    intro nothing
    refine ⟨?_, fun id metadata found => .inl (nothing (id, metadata) ?_)⟩
    · intro id participant found
      unfold step at found
      simp only [ParticipantManager.perform, ParticipantManager.clear,
        ParticipantManager.publishAllSnapshots, ParticipantManager.publishMetadataSnapshot,
        lookup_empty, reduceCtorEq] at found
    · exact (mem_pairs _ id metadata).mpr found
  | touch id now =>
    refine iff_of_true ⟨?_, fresh.parked⟩ trivial
    intro other participant found
    unfold step at found
    simp only [ParticipantManager.perform, ParticipantManager.touch, adjust,
      lookup_mapValues] at found
    obtain ⟨before, held, rfl⟩ := map_eq_some_iff.mp found
    have known := fresh.stored other before held
    split <;> exact known

/-- In every state of a run the participants that are shown, and whoever registers next, are
shown with what was announced of them in this session, just in those runs in which nothing
is parked for a participant who is removed, and for nobody when the list is cleared. So in
those runs everybody is always shown as announced in this session. -/
theorem metadata_current_iff (ops : List ManagerOp) :
    ((∀ front, front <+: ops → (Run.run step {} front).ShownCurrent) ↔
      Run.Allowed step NothingParked {} ops) ∧
    (Run.Allowed step NothingParked {} ops →
      ∀ front, front <+: ops → (Run.run step {} front).Current) := by
  have shown : (∀ front, front <+: ops → (Run.run step {} front).ShownCurrent) ↔
      Run.Allowed step NothingParked {} ops := by
    refine Run.always_iff_allowed step NothingParked ShownCurrent Sound
      (fun log op sound => step_sound sound op) ?_ {} ops sound_initial ?_
    · intro log op sound shown
      rw [fresh_iff (step_sound sound op)]
      exact step_fresh_iff ((fresh_iff sound).mp shown) op
    refine (fresh_iff sound_initial).mpr ⟨fun id participant found => ?_, fun id _ found => ?_⟩ <;>
      cases found
  exact ⟨shown, fun meets front part => (shown.mpr meets front part).1⟩

end ManagerLog

end Sesivo
