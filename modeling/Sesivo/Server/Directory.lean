import Mathlib.Logic.Relation
import Sesivo.Server.RoomView
import Sesivo.SessionCrypto

set_option autoImplicit false

/- What the server is for, apart from packets: who is registered where, which
rooms exist, and which ticket nonces are taken. Seven kinds of steps change
this directory; the safety properties of admission are proved here. -/

namespace Sesivo

open JoinToken SessionCrypto Option Function

/-- A registered endpoint: its place and the ticket nonce it was admitted with. -/
structure Session where
  roomId : Octets
  roomInstanceId : Octets
  accessEpoch : UInt32
  nonceKey : Option Octets

structure Directory where
  sessions : Endpoint → Option Session
  rooms : Rooms
  nonces : Octets → Option (Endpoint × Int)

namespace Directory

/-- What an event brings along: the wall clock, the ticket it presents, if it
is a JOIN with an acceptable one, and the instance id it would draw. -/
structure Moment where
  nowMs : Int
  ticket : Option Claims
  instanceNonce : Octets

inductive Step (moment : Moment) : Directory → Directory → Prop where
  /-- Nonces of expired tickets are forgotten. -/
  | expire (directory : Directory) :
      Step moment directory { directory with
        nonces := fun key => (directory.nonces key).filter fun used => !(used.2 < moment.nowMs) }
  /-- The presented ticket's nonce goes to its presenter, unless somebody else holds it. -/
  | reserve (directory : Directory) (endpoint : Endpoint) (claims : Claims)
      (presented : moment.ticket = some claims)
      (free : ∀ holder expiry, directory.nonces (nonceReplayKey claims) = some (holder, expiry) →
        holder ≠ endpoint → directory.sessions holder = none) :
      Step moment directory { directory with
        nonces := update directory.nonces (nonceReplayKey claims)
          (some (endpoint, claims.expiresAtMs)) }
  /-- The holder of the presented ticket's nonce enters a room as it currently is. -/
  | register (directory : Directory) (endpoint : Endpoint) (claims : Claims) (session : Session)
      (room : RoomView) (presented : moment.ticket = some claims)
      (reserved : directory.nonces (nonceReplayKey claims) = some (endpoint, claims.expiresAtMs))
      (keyed : session.nonceKey = some (nonceReplayKey claims))
      (present : directory.rooms session.roomId = some room)
      (sameInstance : room.roomInstanceId = session.roomInstanceId)
      (sameEpoch : room.accessEpoch = session.accessEpoch) :
      Step moment directory { directory with
        sessions := update directory.sessions endpoint (some session) }
  /-- Some sessions end; only nonces they were admitted with may be freed. -/
  | depart (directory : Directory) (kept : Endpoint → Bool)
      (nonces : Octets → Option (Endpoint × Int))
      (freed : ∀ key, nonces key = directory.nonces key ∨
        (nonces key = none ∧ ∃ endpoint session, kept endpoint = false ∧
          directory.sessions endpoint = some session ∧ session.nonceKey = some key)) :
      Step moment directory { directory with
        sessions := fun endpoint => if kept endpoint then directory.sessions endpoint else none
        nonces := nonces }
  /-- A room takes its next epoch, and so do the sessions of its instance. -/
  | rotate (directory : Directory) (roomId : Octets) (room : RoomView) (commitment : Octets)
      (present : directory.rooms roomId = some room) :
      Step moment directory { directory with
        rooms := update directory.rooms roomId
          (some ⟨room.roomInstanceId, room.accessEpoch + 1, commitment⟩)
        sessions := fun endpoint => (directory.sessions endpoint).map fun session =>
          if session.roomId = roomId ∧ session.roomInstanceId = room.roomInstanceId then
            { session with accessEpoch := room.accessEpoch + 1 }
          else session }
  /-- A room comes into being under the drawn instance id. -/
  | create (directory : Directory) (roomId commitment : Octets)
      (absent : directory.rooms roomId = none) :
      Step moment directory { directory with
        rooms := update directory.rooms roomId
          (some ⟨moment.instanceNonce, 1, commitment⟩) }
  /-- Rooms without sessions go away. -/
  | sweep (directory : Directory) (kept : Octets → Bool)
      (occupied : ∀ endpoint session, directory.sessions endpoint = some session →
        kept session.roomId = true) :
      Step moment directory { directory with
        rooms := fun roomId => if kept roomId then directory.rooms roomId else none }

/-- Every session is in an existing room, at that room's instance and epoch. -/
def Consistent (directory : Directory) : Prop :=
  ∀ endpoint session, directory.sessions endpoint = some session →
    ∃ room, directory.rooms session.roomId = some room ∧
      room.roomInstanceId = session.roomInstanceId ∧ room.accessEpoch = session.accessEpoch

variable {moment : Moment} {before after : Directory} {nowMs : Int} {directory : Directory}

theorem Step.consistent
    (step : Step moment before after) (consistent : Consistent before) : Consistent after := by
  cases step with
  | expire => exact consistent
  | reserve endpoint claims presented free => exact consistent
  | register endpoint claims session room presented reserved keyed present sameInstance sameEpoch =>
    intro other found held
    simp only [update_apply] at held
    split at held
    next =>
      obtain rfl := some.inj held
      exact ⟨room, present, sameInstance, sameEpoch⟩
    next => exact consistent other found held
  | depart kept nonces freed =>
    intro endpoint session held
    exact consistent endpoint session (ite_none_right_eq_some.mp held).2
  | rotate roomId room commitment present =>
    intro endpoint session held
    obtain ⟨old, found, rfl⟩ := map_eq_some_iff.mp held
    obtain ⟨current, located, sameInstance, sameEpoch⟩ := consistent endpoint old found
    by_cases here : old.roomId = roomId
    · -- The session's room is the rotated one, so its instance matches and it is updated.
      rw [here, present] at located
      obtain rfl := some.inj located
      rw [if_pos ⟨here, sameInstance.symm⟩]
      refine ⟨⟨room.roomInstanceId, room.accessEpoch + 1, commitment⟩, ?_, sameInstance, rfl⟩
      simp [here]
    · rw [if_neg fun both => here both.1]
      refine ⟨current, ?_, sameInstance, sameEpoch⟩
      simp only [update_of_ne here, located]
  | create roomId commitment absent =>
    intro endpoint session held
    obtain ⟨room, located, same⟩ := consistent endpoint session held
    have elsewhere : session.roomId ≠ roomId := by
      intro equal
      rw [equal, absent] at located
      cases located
    exact ⟨room, by simp only [update_of_ne elsewhere, located], same⟩
  | sweep kept occupied =>
    intro endpoint session held
    obtain ⟨room, located, same⟩ := consistent endpoint session held
    refine ⟨room, ?_, same⟩
    simp [occupied endpoint session held, located]

/-- Every session was admitted with some ticket. -/
def Keyed (directory : Directory) : Prop :=
  ∀ endpoint session, directory.sessions endpoint = some session → session.nonceKey.isSome

theorem Step.keyed (step : Step moment before after) (keyed : Keyed before) : Keyed after := by
  cases step with
  | expire => exact keyed
  | reserve endpoint claims presented free => exact keyed
  | register endpoint claims session room presented reserved admitted present sameInstance
      sameEpoch =>
      intro other found held
      simp only [update_apply] at held
      split at held
      next =>
        obtain rfl := some.inj held
        rw [admitted, isSome_some]
      next => exact keyed other found held
  | depart kept nonces freed =>
    intro endpoint session held
    exact keyed endpoint session (ite_none_right_eq_some.mp held).2
  | rotate roomId room commitment present =>
    intro endpoint session held
    obtain ⟨old, found, rfl⟩ := map_eq_some_iff.mp held
    have admitted := keyed endpoint old found
    split <;> exact admitted
  | create roomId commitment absent => exact keyed
  | sweep kept occupied => exact keyed

/-- Issued tickets have pairwise distinct nonces. -/
def DistinctNonces (issued : Claims → Prop) : Prop :=
  ∀ left right, issued left → issued right → left.nonce = right.nonce → left = right

/-- Every nonce a session was admitted with is still held by that session's
endpoint, or belongs to a ticket that has expired; and no two sessions share one. -/
structure Guarded (issued : Claims → Prop) (nowMs : Int) (directory : Directory) : Prop where
  held : ∀ endpoint session key, directory.sessions endpoint = some session →
    session.nonceKey = some key → ∃ claims, issued claims ∧ nonceReplayKey claims = key ∧
      (directory.nonces key = some (endpoint, claims.expiresAtMs) ∨ claims.expiresAtMs < nowMs)
  unique : ∀ left right first second key, directory.sessions left = some first →
    directory.sessions right = some second → first.nonceKey = some key →
    second.nonceKey = some key → left = right

variable {issued : Claims → Prop}

theorem Guarded.later {later : Int} (guarded : Guarded issued nowMs directory)
    (clock : nowMs ≤ later) : Guarded issued later directory := by
  refine ⟨?_, guarded.unique⟩
  intro endpoint session key found keyed
  obtain ⟨claims, valid, same, held⟩ := guarded.held endpoint session key found keyed
  refine ⟨claims, valid, same, held.imp_right ?_⟩
  intro expired
  omega

/-- Among issued tickets the replay key identifies the ticket. -/
theorem DistinctNonces.of_key (distinct : DistinctNonces issued)
    {left right : Claims} (first : issued left) (second : issued right)
    (same : nonceReplayKey left = nonceReplayKey right) : left = right :=
  distinct left right first second (nonceReplayKey_inj same).2.2.2.2.2.2

variable {claims : Claims} {endpoint : Endpoint} {session : Session}

/-- While a ticket is valid, a session admitted with its nonce is the nonce's holder. -/
theorem Guarded.holder (guarded : Guarded issued nowMs directory) (distinct : DistinctNonces issued)
    (valid : issued claims) (live : nowMs ≤ claims.expiresAtMs)
    (found : directory.sessions endpoint = some session)
    (keyed : session.nonceKey = some (nonceReplayKey claims)) :
    directory.nonces (nonceReplayKey claims) = some (endpoint, claims.expiresAtMs) := by
  obtain ⟨admitted, issuedAdmitted, same, held⟩ :=
    guarded.held endpoint session (nonceReplayKey claims) found keyed
  obtain rfl := distinct.of_key issuedAdmitted valid same
  rcases held with holder | expired
  · exact holder
  · omega

/-- A step that admits nobody has to keep the nonces of those who stay. -/
theorem Guarded.inherited (guarded : Guarded issued nowMs before)
    (stays : ∀ endpoint session key, after.sessions endpoint = some session →
      session.nonceKey = some key →
        ∃ old, before.sessions endpoint = some old ∧ old.nonceKey = some key)
    (keeps : ∀ endpoint session claims, after.sessions endpoint = some session →
      session.nonceKey = some (nonceReplayKey claims) → issued claims →
      before.nonces (nonceReplayKey claims) = some (endpoint, claims.expiresAtMs) →
        after.nonces (nonceReplayKey claims) = some (endpoint, claims.expiresAtMs) ∨
          claims.expiresAtMs < nowMs) : Guarded issued nowMs after := by
  refine ⟨?_, ?_⟩
  · intro endpoint session key found keyed
    obtain ⟨old, present, same⟩ := stays endpoint session key found keyed
    obtain ⟨claims, valid, rfl, held⟩ := guarded.held endpoint old key present same
    exact ⟨claims, valid, rfl, held.elim (keeps endpoint session claims found keyed valid) .inr⟩
  · intro left right first second key foundLeft foundRight keyLeft keyRight
    obtain ⟨oldLeft, presentLeft, sameLeft⟩ := stays left first key foundLeft keyLeft
    obtain ⟨oldRight, presentRight, sameRight⟩ := stays right second key foundRight keyRight
    exact guarded.unique left right oldLeft oldRight key presentLeft presentRight sameLeft sameRight

/-- Somebody admitted with the presented ticket can only be its presenter. -/
theorem Guarded.reserve (guarded : Guarded issued nowMs before) (distinct : DistinctNonces issued)
    (valid : issued claims)
    (free : ∀ holder expiry, before.nonces (nonceReplayKey claims) = some (holder, expiry) →
      holder ≠ endpoint → before.sessions holder = none) :
    Guarded issued nowMs { before with
      nonces := update before.nonces (nonceReplayKey claims)
        (some (endpoint, claims.expiresAtMs)) } := by
  refine guarded.inherited (fun _ session _ found keyed => ⟨session, found, keyed⟩) ?_
  intro other session admitted found _ issuedAdmitted holder
  left
  by_cases sameKey : nonceReplayKey admitted = nonceReplayKey claims
  · obtain rfl := distinct.of_key issuedAdmitted valid sameKey
    have presenter : other = endpoint := by
      apply Decidable.byContradiction
      intro different
      rw [free other admitted.expiresAtMs holder different] at found
      cases found
    simp [presenter]
  · simp only [update_of_ne sameKey, holder]

/-- Nobody but the holder of its nonce has been admitted with the presented ticket. -/
theorem Guarded.register (guarded : Guarded issued nowMs before) (distinct : DistinctNonces issued)
    (valid : issued claims)
    (live : nowMs ≤ claims.expiresAtMs)
    (reserved : before.nonces (nonceReplayKey claims) = some (endpoint, claims.expiresAtMs))
    (keyed : session.nonceKey = some (nonceReplayKey claims)) :
    Guarded issued nowMs { before with
      sessions := update before.sessions endpoint (some session) } := by
  have owner (other : Endpoint) (current : Session) (key : Octets)
      (found : before.sessions other = some current) (sameKey : current.nonceKey = some key)
      (presented : session.nonceKey = some key) : other = endpoint := by
    obtain rfl := some.inj (keyed.symm.trans presented)
    have holder := guarded.holder distinct valid live found sameKey
    rw [reserved] at holder
    exact (Prod.mk.inj (some.inj holder)).1.symm
  refine ⟨?_, ?_⟩
  · intro other current key found sameKey
    simp only [update_apply] at found
    split at found
    next here =>
      obtain rfl := some.inj found
      obtain rfl := some.inj (keyed.symm.trans sameKey)
      exact ⟨claims, valid, rfl, .inl (here ▸ reserved)⟩
    next => exact guarded.held other current key found sameKey
  · intro left right first second key foundLeft foundRight keyLeft keyRight
    simp only [update_apply] at foundLeft foundRight
    split at foundLeft <;> split at foundRight
    next hereLeft hereRight => exact hereLeft.trans hereRight.symm
    next hereLeft _ =>
      obtain rfl := some.inj foundLeft
      exact hereLeft.trans (owner right second key foundRight keyRight keyLeft).symm
    next _ hereRight =>
      obtain rfl := some.inj foundRight
      exact (owner left first key foundLeft keyLeft keyRight).trans hereRight.symm
    next => exact guarded.unique left right first second key foundLeft foundRight keyLeft keyRight

/-- A freed nonce that a remaining session was admitted with would be the departed session's
too. -/
theorem Guarded.depart (guarded : Guarded issued nowMs before) {kept : Endpoint → Bool}
    {nonces : Octets → Option (Endpoint × Int)}
    (freed : ∀ key, nonces key = before.nonces key ∨
      (nonces key = none ∧ ∃ endpoint session, kept endpoint = false ∧
        before.sessions endpoint = some session ∧ session.nonceKey = some key)) :
    Guarded issued nowMs { before with
      sessions := fun endpoint => if kept endpoint then before.sessions endpoint else none
      nonces := nonces } := by
  refine guarded.inherited (fun _ session _ found keyed =>
    ⟨session, (ite_none_right_eq_some.mp found).2, keyed⟩) ?_
  intro endpoint session claims found keyed _ holder
  left
  obtain ⟨stays, found⟩ := ite_none_right_eq_some.mp found
  rcases freed (nonceReplayKey claims) with same | ⟨-, gone, departed, removed, foundGone, keyGone⟩
  · exact same.trans holder
  have sameEndpoint :=
    guarded.unique endpoint gone session departed _ found foundGone keyed keyGone
  rw [← sameEndpoint, stays] at removed
  cases removed

theorem Step.guarded (distinct : DistinctNonces issued)
    (step : Step moment before after) (acceptable : ∀ claims, moment.ticket = some claims →
      issued claims ∧ moment.nowMs ≤ claims.expiresAtMs)
    (guarded : Guarded issued moment.nowMs before) : Guarded issued moment.nowMs after := by
  cases step with
  | expire =>
    refine guarded.inherited (fun _ session _ found keyed => ⟨session, found, keyed⟩) ?_
    intro endpoint session claims _ _ _ holder
    by_cases expired : claims.expiresAtMs < moment.nowMs
    · exact .inr expired
    · simp [holder, filter_some, expired]
  | reserve endpoint claims presented free =>
    exact guarded.reserve distinct (acceptable claims presented).1 free
  | register endpoint claims session room presented reserved keyed present sameInstance sameEpoch =>
    obtain ⟨valid, live⟩ := acceptable claims presented
    exact guarded.register distinct valid live reserved keyed
  | depart kept nonces freed => exact guarded.depart freed
  | rotate roomId room commitment present =>
    refine guarded.inherited (fun endpoint session key found keyed => ?_)
      fun _ _ _ _ _ _ holder => .inl holder
    obtain ⟨old, held, rfl⟩ := map_eq_some_iff.mp found
    refine ⟨old, held, ?_⟩
    rw [← keyed]
    split <;> rfl
  | create roomId commitment absent | sweep kept occupied => exact ⟨guarded.held, guarded.unique⟩

end Directory

end Sesivo
