import Sesivo.Lib.Recency
import Sesivo.Lib.Run
import Sesivo.Server.RateLimiter

set_option autoImplicit false

/- The rate limiter's table of endpoints as a cache that gives up the endpoint
used the longest time ago. -/

namespace Sesivo

open List

inductive LimiterCall where
  | allowUnknown (endpoint : Endpoint) (now : Time)
  | allowStrict (endpoint : Endpoint) (now : Time)
  | allowControl (endpoint : Endpoint) (now : Time)
  | allowStatus (endpoint : Endpoint) (now : Time)
  | allowRoomControl (endpoint : Endpoint) (now : Time)
  | allowChatSend (endpoint : Endpoint) (now : Time)
  | allowAuthenticatedSecureControl (endpoint : Endpoint) (now : Time)
  | allowAuthenticatedAudio (endpoint : Endpoint) (sampleRate : UInt32) (frameCount : UInt16)
      (now : Time)
  | erase (endpoint : Endpoint)
  | expire (now ttl : Time)

/-- When the call is made; to erase an endpoint the clock is not read. -/
def LimiterCall.time : LimiterCall → Option Time
  | .allowUnknown _ now | .allowStrict _ now | .allowControl _ now | .allowStatus _ now
  | .allowRoomControl _ now | .allowChatSend _ now | .allowAuthenticatedSecureControl _ now
  | .allowAuthenticatedAudio _ _ _ now | .expire now _ => some now
  | .erase _ => none

namespace RateLimiter

def perform (limiter : RateLimiter) : LimiterCall → RateLimiter
  | .allowUnknown endpoint now => (limiter.allowUnknown endpoint now).2
  | .allowStrict endpoint now => (limiter.allowStrict endpoint now).2
  | .allowControl endpoint now => (limiter.allowControl endpoint now).2
  | .allowStatus endpoint now => (limiter.allowStatus endpoint now).2
  | .allowRoomControl endpoint now => (limiter.allowRoomControl endpoint now).2
  | .allowChatSend endpoint now => (limiter.allowChatSend endpoint now).2
  | .allowAuthenticatedSecureControl endpoint now =>
    (limiter.allowAuthenticatedSecureControl endpoint now).2
  | .allowAuthenticatedAudio endpoint sampleRate frameCount now =>
    (limiter.allowAuthenticatedAudio endpoint sampleRate frameCount now).2
  | .erase endpoint => limiter.erase endpoint
  | .expire now ttl => limiter.expire now ttl

/-- The endpoint whose buckets the call asks. An endpoint that nothing is known of is not
looked at when there are too many of them. -/
def used (limiter : RateLimiter) : LimiterCall → List (Endpoint × Time)
  | .allowUnknown endpoint now =>
    if (limiter.unknownGlobal.allow now 2000 4000 1).1 = false then [] else [(endpoint, now)]
  | .allowStrict endpoint now | .allowControl endpoint now | .allowStatus endpoint now
  | .allowRoomControl endpoint now | .allowChatSend endpoint now
  | .allowAuthenticatedSecureControl endpoint now
  | .allowAuthenticatedAudio endpoint _ _ now => [(endpoint, now)]
  | .erase _ | .expire _ _ => []

/-- Nothing but the global buckets differs. -/
structure SameTable (before after : RateLimiter) : Prop where
  recency : after.recency = before.recency
  endpoints : after.endpoints = before.endpoints
  nextNode : after.nextNode = before.nextNode

/-- What a call does to the table. -/
inductive Performed (limiter : RateLimiter) : RateLimiter → List (Endpoint × Time) → Prop
  | refused (after : RateLimiter) (same : SameTable limiter after) : Performed limiter after []
  | asked (base after : RateLimiter) (same : SameTable limiter base) (endpoint : Endpoint)
      (now : Time) (kind : BucketKind) (rate burst : ℚ)
      (settled : SameTable (base.allow endpoint now kind rate burst).2 after) :
      Performed limiter after [(endpoint, now)]
  | erased (endpoint : Endpoint) : Performed limiter (limiter.erase endpoint) []
  | expired (now ttl : Time) : Performed limiter (limiter.expire now ttl) []

variable (limiter : RateLimiter)

theorem SameTable.refl : SameTable limiter limiter := ⟨rfl, rfl, rfl⟩

theorem performed_allow (endpoint : Endpoint) (now : Time) (kind : BucketKind) (rate burst : ℚ) :
    Performed limiter (limiter.allow endpoint now kind rate burst).2 [(endpoint, now)] :=
  .asked limiter _ (.refl limiter) endpoint now kind rate burst (.refl _)

variable (call : LimiterCall)

theorem performed :
    Performed limiter (limiter.perform call) (limiter.used call) := by
  cases call with
  | allowUnknown endpoint now =>
    simp only [perform, used, allowUnknown]
    split
    · exact .refused _ ⟨rfl, rfl, rfl⟩
    have same : SameTable limiter
        { limiter with unknownGlobal := (limiter.unknownGlobal.allow now 2000 4000 1).2 } :=
      ⟨rfl, rfl, rfl⟩
    exact .asked _ _ same endpoint now .unknown 20 20 (.refl _)
  | allowStrict endpoint now => exact limiter.performed_allow endpoint now .strict 20 20
  | allowControl endpoint now => exact limiter.performed_allow endpoint now .control 120 240
  | allowStatus endpoint now => exact limiter.performed_allow endpoint now .status (4 / 5) 8
  | allowRoomControl endpoint now => exact limiter.performed_allow endpoint now .roomControl 2 8
  | allowChatSend endpoint now => exact limiter.performed_allow endpoint now .chatSend 5 10
  | allowAuthenticatedSecureControl endpoint now =>
    simp only [perform, used, allowAuthenticatedSecureControl]
    split
    · exact limiter.performed_allow endpoint now .secureControl 64 128
    · exact .asked _ _ (.refl limiter) endpoint now .secureControl 64 128 ⟨rfl, rfl, rfl⟩
  | allowAuthenticatedAudio endpoint sampleRate frameCount now =>
    simp only [perform, used, allowAuthenticatedAudio]
    split
    · exact limiter.performed_allow endpoint now .strict 20 20
    · exact limiter.performed_allow endpoint now .audio _ _
  | erase endpoint => exact .erased endpoint
  | expire now ttl => exact .expired now ttl

theorem used_time :
    ((limiter.used call).map Prod.snd).Sublist call.time.toList := by
  cases call with
  | allowUnknown endpoint now =>
    simp only [used]
    split
    · exact nil_sublist _
    · exact List.Sublist.refl _
  | expire now ttl => exact nil_sublist _
  | _ => exact List.Sublist.refl _

/-- The list and the table hold the same endpoints, each once, and each entry of the table
knows its own node of the list. -/
structure Coherent : Prop where
  held : ∀ node ∈ limiter.recency,
    ∃ entry, limiter.endpoints.lookup node.2 = some entry ∧ entry.recency = node.1
  listed : ∀ endpoint entry, limiter.endpoints.lookup endpoint = some entry →
    (entry.recency, endpoint) ∈ limiter.recency
  once : (limiter.recency.map Prod.snd).Nodup
  apart : (limiter.recency.map Prod.fst).Nodup
  fresh : ∀ node ∈ limiter.recency, node.1 < limiter.nextNode

def lastSeenOf (endpoint : Endpoint) : Time :=
  match limiter.endpoints.lookup endpoint with
  | some entry => entry.lastSeen
  | none => 0

/-- The tracked endpoints with the times of their last uses, in the order of the list. -/
def uses : List (Endpoint × Time) :=
  limiter.recency.map fun node => (node.2, limiter.lastSeenOf node.2)

variable {limiter}

theorem uses_fst : limiter.uses.map Prod.fst = limiter.recency.map Prod.snd := by
  rw [uses, map_map]
  rfl

theorem Coherent.same {after : RateLimiter} (coherent : limiter.Coherent)
    (same : SameTable limiter after) : after.Coherent := by
  refine ⟨?_, ?_, ?_, ?_, ?_⟩
  · rw [same.recency, same.endpoints]
    exact coherent.held
  · rw [same.recency, same.endpoints]
    exact coherent.listed
  · rw [same.recency]
    exact coherent.once
  · rw [same.recency]
    exact coherent.apart
  · rw [same.recency, same.nextNode]
    exact coherent.fresh

theorem SameTable.uses {after : RateLimiter} (same : SameTable limiter after) :
    after.uses = limiter.uses := by
  simp only [RateLimiter.uses, lastSeenOf, same.recency, same.endpoints]

/-- The state without an endpoint. -/
structure Without (endpoint : Endpoint) (limiter after : RateLimiter) : Prop where
  recency : after.recency = limiter.recency.filter fun node => node.2 ≠ endpoint
  lookup : ∀ other, after.endpoints.lookup other =
    if other = endpoint then none else limiter.endpoints.lookup other
  nextNode : after.nextNode = limiter.nextNode

namespace Coherent

variable (coherent : limiter.Coherent)
include coherent

theorem tracked_iff (endpoint : Endpoint) :
    endpoint ∈ limiter.recency.map Prod.snd ↔
      ∃ entry, limiter.endpoints.lookup endpoint = some entry := by
  constructor
  · intro member
    obtain ⟨node, inside, rfl⟩ := mem_map.mp member
    obtain ⟨entry, found, _⟩ := coherent.held node inside
    exact ⟨entry, found⟩
  · rintro ⟨entry, found⟩
    exact mem_map.mpr ⟨_, coherent.listed endpoint entry found, rfl⟩

theorem count : limiter.endpoints.pairs.length = limiter.recency.length := by
  have same : (limiter.endpoints.pairs.map Prod.fst).Perm (limiter.recency.map Prod.snd) := by
    apply (perm_ext_iff_of_nodup limiter.endpoints.pairs_fst_nodup coherent.once).mpr
    intro endpoint
    rw [coherent.tracked_iff, Store.mem_pairs_fst]
  have lengths := same.length_eq
  rw [length_map, length_map] at lengths
  exact lengths

/-- The node of an endpoint is found by its number and by the endpoint alike. -/
theorem node_iff {endpoint : Endpoint} {entry : EndpointBuckets}
    (found : limiter.endpoints.lookup endpoint = some entry) {node : Nat × Endpoint}
    (member : node ∈ limiter.recency) : node.1 = entry.recency ↔ node.2 = endpoint := by
  constructor
  · intro same
    have one := inj_on_of_nodup_map coherent.apart member
      (coherent.listed endpoint entry found) same
    rw [one]
  intro same
  have one := inj_on_of_nodup_map coherent.once member (coherent.listed endpoint entry found) same
  rw [one]

theorem filter_node {endpoint : Endpoint} {entry : EndpointBuckets}
    (found : limiter.endpoints.lookup endpoint = some entry) :
    (limiter.recency.filter fun node => node.1 ≠ entry.recency) =
      limiter.recency.filter fun node => node.2 ≠ endpoint := by
  apply filter_congr
  intro node member
  exact decide_eq_decide.mpr (not_congr (coherent.node_iff found member))

theorem erase_without (endpoint : Endpoint) : Without endpoint limiter (limiter.erase endpoint) := by
  cases found : limiter.endpoints.lookup endpoint with
  | none =>
    simp only [erase, found]
    refine ⟨?_, ?_, rfl⟩
    · apply Eq.symm
      apply filter_eq_self.mpr
      intro node member
      obtain ⟨entry, other, _⟩ := coherent.held node member
      apply decide_eq_true
      intro same
      rw [same, found] at other
      cases other
    · intro other
      by_cases same : other = endpoint
      · rw [if_pos same, same, found]
      · rw [if_neg same]
  | some entry =>
    simp only [erase, found]
    exact ⟨coherent.filter_node found, Store.lookup_erase limiter.endpoints endpoint, rfl⟩

theorem front_without {front : Nat × Endpoint} {rest : List (Nat × Endpoint)}
    (starts : limiter.recency = front :: rest) :
    Without front.2 limiter
      { limiter with recency := rest, endpoints := limiter.endpoints.erase front.2 } := by
  have once := coherent.once
  rw [starts, map_cons] at once
  refine ⟨?_, Store.lookup_erase limiter.endpoints front.2, rfl⟩
  rw [starts, filter_cons_of_neg (by simp only [ne_eq, not_true, decide_false]; decide)]
  apply Eq.symm
  apply filter_eq_self.mpr
  intro node member
  apply decide_eq_true
  intro same
  exact (nodup_cons.mp once).1 (mem_map.mpr ⟨node, member, same⟩)

end Coherent

namespace Without

variable {endpoint : Endpoint} {after : RateLimiter} (gone : Without endpoint limiter after)
include gone

theorem mem_iff (node : Nat × Endpoint) :
    node ∈ after.recency ↔ node ∈ limiter.recency ∧ node.2 ≠ endpoint := by
  rw [gone.recency, mem_filter, decide_eq_true_iff]

theorem coherent (before : limiter.Coherent) : after.Coherent := by
  have kept : after.recency.Sublist limiter.recency := by
    rw [gone.recency]
    exact filter_sublist
  refine ⟨?_, ?_, before.once.sublist (kept.map _), before.apart.sublist (kept.map _), ?_⟩
  · intro node member
    have parts := (gone.mem_iff node).mp member
    rw [gone.lookup, if_neg parts.2]
    exact before.held node parts.1
  · intro other entry found
    rw [gone.lookup] at found
    by_cases same : other = endpoint
    · rw [if_pos same] at found
      cases found
    · rw [if_neg same] at found
      exact (gone.mem_iff _).mpr ⟨before.listed other entry found, same⟩
  · intro node member
    rw [gone.nextNode]
    exact before.fresh node (kept.subset member)

theorem uses : after.uses = Recency.without endpoint limiter.uses := by
  rw [RateLimiter.uses, RateLimiter.uses, Recency.without, filter_map, gone.recency]
  apply map_congr_left
  intro node member
  have other := of_decide_eq_true (mem_filter.mp member).2
  rw [lastSeenOf, lastSeenOf, gone.lookup, if_neg other]

end Without

/-- An endpoint that is not tracked has been put at the end of the list. -/
structure Appended (endpoint : Endpoint) (now : Time) (base after : RateLimiter)
    (entry : EndpointBuckets) : Prop where
  absent : base.endpoints.lookup endpoint = none
  recency : after.recency = base.recency ++ [(entry.recency, endpoint)]
  lookup : ∀ other, after.endpoints.lookup other =
    if other = endpoint then some entry else base.endpoints.lookup other
  seen : entry.lastSeen = now
  apart : entry.recency ∉ base.recency.map Prod.fst
  fresh : entry.recency < after.nextNode
  nextNode : base.nextNode ≤ after.nextNode

namespace Appended

variable {endpoint : Endpoint} {now : Time} {base after : RateLimiter} {entry : EndpointBuckets}
  (added : Appended endpoint now base after entry) (coherent : base.Coherent)
include added coherent

theorem other {node : Nat × Endpoint} (member : node ∈ base.recency) : node.2 ≠ endpoint := by
  intro same
  obtain ⟨old, found, _⟩ := coherent.held node member
  rw [same, added.absent] at found
  cases found

theorem after_coherent : after.Coherent := by
  refine ⟨?_, ?_, ?_, ?_, ?_⟩
  · intro node member
    rw [added.lookup]
    rw [added.recency] at member
    cases mem_append.mp member with
    | inl old =>
      rw [if_neg (added.other coherent old)]
      exact coherent.held node old
    | inr new =>
      rw [mem_singleton.mp new]
      exact ⟨entry, if_pos rfl, rfl⟩
  · intro other found isFound
    rw [added.recency]
    rw [added.lookup] at isFound
    by_cases same : other = endpoint
    · rw [if_pos same] at isFound
      rw [same, ← Option.some.inj isFound]
      exact mem_append_right _ mem_cons_self
    · rw [if_neg same] at isFound
      exact mem_append_left _ (coherent.listed other found isFound)
  · rw [added.recency, map_append, map_singleton]
    apply List.Nodup.append coherent.once (nodup_singleton _)
    intro other old new
    obtain ⟨node, member, same⟩ := mem_map.mp old
    exact added.other coherent member (same.trans (mem_singleton.mp new))
  · rw [added.recency, map_append, map_singleton]
    apply List.Nodup.append coherent.apart (nodup_singleton _)
    intro number old new
    rw [mem_singleton.mp new] at old
    exact added.apart old
  · intro node member
    rw [added.recency] at member
    cases mem_append.mp member with
    | inl old =>
      have bound := coherent.fresh node old
      have more := added.nextNode
      omega
    | inr new =>
      rw [mem_singleton.mp new]
      exact added.fresh

theorem after_uses : after.uses = base.uses ++ [(endpoint, now)] := by
  rw [uses, uses, added.recency, map_append, map_singleton]
  have newest : after.lastSeenOf endpoint = now := by
    rw [lastSeenOf, added.lookup, if_pos rfl]
    exact added.seen
  rw [newest]
  congr 1
  apply map_congr_left
  intro node member
  rw [lastSeenOf, lastSeenOf, added.lookup, if_neg (added.other coherent member)]

end Appended

/-- The buckets of an endpoint after one of them was asked. -/
def charged (entry : EndpointBuckets) (now : Time) (kind : BucketKind) (rate burst : ℚ) :
    EndpointBuckets :=
  { entry with
    buckets := fun other =>
      if other = kind then ((entry.buckets kind).allow now rate burst 1).2 else entry.buckets other
    lastSeen := now }

/-- Room is made for a new endpoint by dropping the one at the front. -/
def spare (limiter : RateLimiter) : RateLimiter :=
  if maxTrackedEndpoints ≤ limiter.endpoints.pairs.length then limiter.dropOldest else limiter

namespace Coherent

variable (coherent : limiter.Coherent)
include coherent

theorem fresh_notMem : limiter.nextNode ∉ limiter.recency.map Prod.fst := by
  intro member
  obtain ⟨node, inside, same⟩ := mem_map.mp member
  have bound := coherent.fresh node inside
  omega

theorem dropOldest_without {front : Nat × Endpoint} {rest : List (Nat × Endpoint)}
    (starts : limiter.recency = front :: rest) : Without front.2 limiter limiter.dropOldest := by
  rw [dropOldest, starts]
  exact coherent.front_without starts

theorem dropOldest_coherent : limiter.dropOldest.Coherent := by
  cases starts : limiter.recency with
  | nil =>
    rw [dropOldest, starts]
    exact coherent
  | cons front rest => exact (coherent.dropOldest_without starts).coherent coherent

variable {endpoint : Endpoint} {entry : EndpointBuckets} {now : Time} {kind : BucketKind}
variable {rate burst : ℚ}

theorem dropOldest_lookup_none (absent : limiter.endpoints.lookup endpoint = none) :
    limiter.dropOldest.endpoints.lookup endpoint = none := by
  cases starts : limiter.recency with
  | nil =>
    rw [dropOldest, starts]
    exact absent
  | cons front rest =>
    rw [(coherent.dropOldest_without starts).lookup]
    split
    · rfl
    · exact absent

theorem spare_coherent : limiter.spare.Coherent := by
  rw [spare]
  split
  · exact coherent.dropOldest_coherent
  · exact coherent

theorem spare_length (bounded : limiter.recency.length ≤ maxTrackedEndpoints) :
    limiter.spare.recency.length < maxTrackedEndpoints := by
  rw [spare, coherent.count]
  split
  next full =>
    cases starts : limiter.recency with
    | nil =>
      rw [starts] at full
      exact absurd full (by decide)
    | cons front rest =>
      rw [dropOldest, starts]
      rw [starts, length_cons] at bounded
      exact bounded
  next room => exact Nat.lt_of_not_le room

theorem allow_untracked (absent : limiter.endpoints.lookup endpoint = none) :
    Appended endpoint now limiter.spare (limiter.allow endpoint now kind rate burst).2
      (charged { recency := limiter.spare.nextNode } now kind rate burst) := by
  have untracked : limiter.spare.endpoints.lookup endpoint = none := by
    rw [spare]
    split
    · exact coherent.dropOldest_lookup_none absent
    · exact absent
  simp only [allow, track, absent]
  refine ⟨untracked, rfl, fun other => Store.lookup_insert _ endpoint other _, rfl,
    coherent.spare_coherent.fresh_notMem, ?_, ?_⟩
  · exact Nat.lt_succ_self limiter.spare.nextNode
  · exact Nat.le_succ limiter.spare.nextNode

theorem filter_own {endpoint : Endpoint} {entry : EndpointBuckets}
    (found : limiter.endpoints.lookup endpoint = some entry) :
    (limiter.recency.filter fun node => node.1 = entry.recency) = [(entry.recency, endpoint)] := by
  have inside := coherent.listed endpoint entry found
  have same : (limiter.recency.filter fun node => node.1 = entry.recency) =
      limiter.recency.filter fun node => node = (entry.recency, endpoint) := by
    apply filter_congr
    intro node member
    apply decide_eq_decide.mpr
    constructor
    · intro number
      exact inj_on_of_nodup_map coherent.apart member inside number
    · intro one
      rw [one]
  rw [same, filter_eq, count_eq_one_of_mem coherent.apart.of_map inside]
  rfl

theorem allow_tracked (found : limiter.endpoints.lookup endpoint = some entry) :
    Appended endpoint now (limiter.erase endpoint) (limiter.allow endpoint now kind rate burst).2
      (charged entry now kind rate burst) := by
  have gone := coherent.erase_without endpoint
  simp only [allow, track, found, coherent.filter_own found, coherent.filter_node found]
  refine ⟨?_, ?_, ?_, rfl, ?_, ?_, ?_⟩
  · rw [gone.lookup, if_pos rfl]
  · rw [gone.recency]
    rfl
  · intro other
    rw [Store.lookup_insert, gone.lookup]
    by_cases same : other = endpoint
    · rw [if_pos same, if_pos same]
      rfl
    · rw [if_neg same, if_neg same, if_neg same]
  · intro member
    obtain ⟨node, inside, number⟩ := mem_map.mp member
    have parts := (gone.mem_iff node).mp inside
    exact parts.2 ((coherent.node_iff found parts.1).mp number)
  · exact coherent.fresh _ (coherent.listed endpoint entry found)
  · rw [gone.nextNode]

/-- Any call that asks an endpoint's bucket puts the endpoint at the end. -/
theorem allow_appended (endpoint : Endpoint) (now : Time) (kind : BucketKind) (rate burst : ℚ) :
    ∃ base entry, base.Coherent ∧
      base.uses.Sublist (Recency.without endpoint limiter.uses) ∧
      (limiter.recency.length ≤ maxTrackedEndpoints →
        base.recency.length < maxTrackedEndpoints) ∧
      Appended endpoint now base (limiter.allow endpoint now kind rate burst).2 entry := by
  cases found : limiter.endpoints.lookup endpoint with
  | some entry =>
    have gone := coherent.erase_without endpoint
    refine ⟨_, _, gone.coherent coherent, ?_, ?_, coherent.allow_tracked found⟩
    · rw [gone.uses]
    intro bounded
    have shorter : (limiter.erase endpoint).recency.length < limiter.recency.length := by
      rw [gone.recency]
      apply length_filter_lt_length_iff_exists.mpr
      refine ⟨_, coherent.listed endpoint entry found, ?_⟩
      simp
    omega
  | none =>
    refine ⟨_, _, coherent.spare_coherent, ?_, coherent.spare_length,
      coherent.allow_untracked found⟩
    have absent : endpoint ∉ limiter.uses.map Prod.fst := by
      rw [uses_fst, coherent.tracked_iff, found]
      rintro ⟨entry, never⟩
      cases never
    rw [Recency.without_of_notMem absent, spare]
    split
    · cases starts : limiter.recency with
      | nil => rw [dropOldest, starts]
      | cons front rest =>
        rw [(coherent.dropOldest_without starts).uses]
        exact filter_sublist
    · exact List.Sublist.refl _

theorem expire_erases (now ttl : Time) :
    (limiter.expire now ttl).Coherent ∧
      (limiter.expire now ttl).uses = limiter.uses.dropWhile (fun use => ttl < now - use.2) ∧
      ∀ endpoint entry, (limiter.expire now ttl).endpoints.lookup endpoint = some entry →
        limiter.endpoints.lookup endpoint = some entry := by
  generalize walked : limiter.recency = nodes
  induction nodes generalizing limiter with
  | nil =>
    have same : SameTable limiter (limiter.expire now ttl) := by
      simp only [expire, walked, expireFrom]
      exact ⟨walked.symm, rfl, rfl⟩
    refine ⟨coherent.same same, ?_, ?_⟩
    · rw [same.uses, uses, walked]
      rfl
    · rw [same.endpoints]
      exact fun _ _ found => found
  | cons front rest ih =>
    obtain ⟨entry, found, _⟩ := coherent.held front (by rw [walked]; exact mem_cons_self)
    have first : limiter.uses = (front.2, entry.lastSeen) ::
        rest.map fun node => (node.2, limiter.lastSeenOf node.2) := by
      rw [uses, walked, map_cons]
      simp only [lastSeenOf, found]
    by_cases recent : now - entry.lastSeen ≤ ttl
    · have same : SameTable limiter (limiter.expire now ttl) := by
        simp only [expire, walked, expireFrom, found, if_pos recent]
        exact ⟨walked.symm, rfl, rfl⟩
      refine ⟨coherent.same same, ?_, ?_⟩
      · rw [same.uses, first, dropWhile_cons_of_neg]
        simp only [decide_eq_true_eq, not_lt]
        exact recent
      · rw [same.endpoints]
        exact fun _ _ found => found
    · have gone := coherent.front_without walked
      have next : limiter.expire now ttl =
          expire { limiter with recency := rest, endpoints := limiter.endpoints.erase front.2 }
            now ttl := by
        simp only [expire, walked, expireFrom, found, if_neg recent]
      obtain ⟨kept, remaining, sublookup⟩ := ih (gone.coherent coherent) rfl
      rw [next]
      refine ⟨kept, ?_, ?_⟩
      · have tail : Recency.without front.2 limiter.uses =
            rest.map fun node => (node.2, limiter.lastSeenOf node.2) := by
          have once := coherent.once
          rw [walked, map_cons, nodup_cons] at once
          rw [first]
          apply Recency.without_cons_self
          rw [map_map]
          exact once.1
        rw [remaining, gone.uses, tail, first, dropWhile_cons_of_pos]
        exact decide_eq_true (Int.not_le.mp recent)
      · intro endpoint entry held
        have before := sublookup endpoint entry held
        rw [gone.lookup] at before
        split at before
        · cases before
        · exact before

/-- A new endpoint for which there is no room costs the first one of the list its place. -/
theorem allow_evicts (absent : limiter.endpoints.lookup endpoint = none)
    (full : limiter.endpoints.pairs.length = maxTrackedEndpoints) :
    ∃ oldest rest, limiter.recency = oldest :: rest ∧ ∀ other, other ≠ endpoint →
      (limiter.allow endpoint now kind rate burst).2.endpoints.lookup other =
        if other = oldest.2 then none else limiter.endpoints.lookup other := by
  cases starts : limiter.recency with
  | nil =>
    rw [coherent.count, starts] at full
    exact absurd full (by decide)
  | cons oldest rest =>
    refine ⟨oldest, rest, rfl, ?_⟩
    intro other different
    rw [(coherent.allow_untracked absent).lookup, if_neg different, spare,
      if_pos (Nat.le_of_eq full.symm), (coherent.dropOldest_without starts).lookup]

/-- Otherwise all other endpoints keep their places. -/
theorem allow_keeps (room : limiter.endpoints.pairs.length < maxTrackedEndpoints ∨
      limiter.endpoints.lookup endpoint ≠ none) {other : Endpoint} (different : other ≠ endpoint) :
    (limiter.allow endpoint now kind rate burst).2.endpoints.lookup other =
      limiter.endpoints.lookup other := by
  cases found : limiter.endpoints.lookup endpoint with
  | some entry =>
    rw [(coherent.allow_tracked found).lookup, if_neg different,
      (coherent.erase_without endpoint).lookup, if_neg different]
  | none =>
    have fits : ¬maxTrackedEndpoints ≤ limiter.endpoints.pairs.length := by
      cases room with
      | inl fewer => exact Nat.not_le.mpr fewer
      | inr tracked => exact absurd found tracked
    rw [(coherent.allow_untracked found).lookup, if_neg different, spare,
      if_neg fits]

theorem lastSeen_mem_uses {endpoint : Endpoint} {entry : EndpointBuckets}
    (found : limiter.endpoints.lookup endpoint = some entry) :
    (endpoint, entry.lastSeen) ∈ limiter.uses := by
  apply mem_map.mpr
  refine ⟨_, coherent.listed endpoint entry found, ?_⟩
  simp only [lastSeenOf, found]

/-- Since the list is ordered by time, what is too old is gone and nothing else. -/
theorem expire_exact (ordered : (limiter.uses.map Prod.snd).Pairwise (· ≤ ·)) (now ttl : Time)
    (endpoint : Endpoint) :
    (limiter.expire now ttl).endpoints.lookup endpoint =
      (limiter.endpoints.lookup endpoint).filter fun entry => now - entry.lastSeen ≤ ttl := by
  obtain ⟨kept, remaining, sublookup⟩ := coherent.expire_erases now ttl
  rw [Recency.dropWhile_eq_filter] at remaining
  · cases held : (limiter.expire now ttl).endpoints.lookup endpoint with
    | some entry =>
      have before := sublookup endpoint entry held
      have member := kept.lastSeen_mem_uses held
      rw [remaining] at member
      have recent := (mem_filter.mp member).2
      rw [before, Option.filter_some, if_pos]
      simp only [Bool.not_eq_true', decide_eq_false_iff_not, not_lt] at recent
      exact decide_eq_true recent
    | none =>
      cases before : limiter.endpoints.lookup endpoint with
      | none => rfl
      | some entry =>
        rw [Option.filter_some, if_neg]
        intro recent
        have member : (endpoint, entry.lastSeen) ∈ (limiter.expire now ttl).uses := by
          rw [remaining]
          apply mem_filter.mpr
          refine ⟨coherent.lastSeen_mem_uses before, ?_⟩
          simp only [Bool.not_eq_true', decide_eq_false_iff_not, not_lt]
          exact of_decide_eq_true recent
        have tracked : endpoint ∈ (limiter.expire now ttl).recency.map Prod.snd := by
          rw [← uses_fst]
          exact mem_map.mpr ⟨_, member, rfl⟩
        obtain ⟨other, found⟩ := (kept.tracked_iff endpoint).mp tracked
        rw [held] at found
        cases found
  · refine (pairwise_map.mp ordered).imp ?_
    intro first second earlier stale
    have late : ttl < now - second.2 := of_decide_eq_true stale
    apply decide_eq_true
    exact lt_of_lt_of_le late (Int.sub_le_sub_left earlier now)

end Coherent

end RateLimiter

/-- The limiter with the history of the endpoints it was asked about. -/
structure LimiterLog where
  limiter : RateLimiter := {}
  history : List (Endpoint × Time) := []

namespace LimiterLog

open RateLimiter

def step (log : LimiterLog) (call : LimiterCall) : LimiterLog :=
  ⟨log.limiter.perform call, log.history ++ log.limiter.used call⟩

structure Cached (log : LimiterLog) : Prop where
  coherent : log.limiter.Coherent
  recent : log.limiter.uses.Sublist (Recency.lastUses log.history)
  bounded : log.limiter.recency.length ≤ maxTrackedEndpoints

theorem initial_cached : Cached {} := by
  refine ⟨⟨?_, ?_, nodup_nil, nodup_nil, ?_⟩, List.Sublist.refl _, Nat.zero_le _⟩
  · intro node member
    cases member
  · intro endpoint entry found
    cases found
  · intro node member
    cases member

variable {log : LimiterLog}

theorem Cached.performed {after : RateLimiter} {used : List (Endpoint × Time)}
    (cached : log.Cached) (performed : log.limiter.Performed after used) :
    Cached ⟨after, log.history ++ used⟩ := by
  have coherent := cached.coherent
  cases performed with
  | refused _ same =>
    refine ⟨coherent.same same, ?_, ?_⟩
    · rw [append_nil, same.uses]
      exact cached.recent
    · rw [same.recency]
      exact cached.bounded
  | asked base _ same endpoint now kind rate burst settled =>
    obtain ⟨kept, entry, keptCoherent, keptUses, keptLength, added⟩ :=
      (coherent.same same).allow_appended endpoint now kind rate burst
    refine ⟨(added.after_coherent keptCoherent).same settled, ?_, ?_⟩
    · rw [settled.uses, added.after_uses keptCoherent]
      rw [same.uses] at keptUses
      exact (keptUses.append (List.Sublist.refl _)).trans
        (Recency.touched_sublist endpoint now cached.recent)
    rw [settled.recency, added.recency, length_append, length_singleton]
    rw [same.recency] at keptLength
    exact keptLength cached.bounded
  | erased endpoint =>
    have gone := coherent.erase_without endpoint
    refine ⟨gone.coherent coherent, ?_, ?_⟩
    · rw [append_nil, gone.uses]
      exact filter_sublist.trans cached.recent
    · rw [gone.recency]
      exact le_trans (length_filter_le _ _) cached.bounded
  | expired now ttl =>
    obtain ⟨kept, remaining, _⟩ := coherent.expire_erases now ttl
    have shorter : (log.limiter.expire now ttl).uses.Sublist log.limiter.uses := by
      rw [remaining]
      exact dropWhile_sublist _
    refine ⟨kept, ?_, ?_⟩
    · rw [append_nil]
      exact shorter.trans cached.recent
    have fewer := shorter.length_le
    rw [uses, uses, length_map, length_map] at fewer
    exact le_trans fewer cached.bounded

theorem step_cached (call : LimiterCall) (cached : log.Cached) : (log.step call).Cached :=
  cached.performed (log.limiter.performed call)

variable (calls : List LimiterCall)

theorem run_history :
    ((Run.run step log calls).history.map Prod.snd).Sublist
      (log.history.map Prod.snd ++ calls.filterMap LimiterCall.time) := by
  induction calls generalizing log with
  | nil =>
    rw [filterMap_nil, append_nil]
    exact List.Sublist.refl _
  | cons call calls ih =>
    have rest := @ih (log.step call)
    have own := log.limiter.used_time call
    rw [step, map_append, append_assoc] at rest
    apply rest.trans
    apply (List.Sublist.refl _).append
    cases clock : call.time with
    | none =>
      rw [clock] at own
      rw [filterMap_cons_none clock]
      exact own.append (List.Sublist.refl _)
    | some now =>
      rw [clock] at own
      rw [filterMap_cons_some clock]
      exact own.append (List.Sublist.refl _)

theorem run_cached : (Run.run step {} calls).Cached :=
  Run.invariant step Cached (fun _ call cached => step_cached call cached) {} calls initial_cached

/-- What the table of endpoints is: a list of them by their last uses, to which the endpoint
asked about goes last, and of which the first one goes when there is no room. -/
structure LeastRecentlyUsed (log : LimiterLog) : Prop where
  tracked : ∀ endpoint, endpoint ∈ log.limiter.recency.map Prod.snd ↔
    ∃ entry, log.limiter.endpoints.lookup endpoint = some entry
  once : (log.limiter.recency.map Prod.snd).Nodup
  recent : log.limiter.uses.Sublist (Recency.lastUses log.history)
  ordered : (log.limiter.uses.map Prod.snd).Pairwise (· ≤ ·)
  pointing : ∀ endpoint entry, log.limiter.endpoints.lookup endpoint = some entry →
    (log.limiter.recency.filter fun node => node.1 = entry.recency) = [(entry.recency, endpoint)]
  bounded : log.limiter.endpoints.pairs.length ≤ maxTrackedEndpoints
  latest : ∀ call endpoint now, log.limiter.used call = [(endpoint, now)] →
    (log.limiter.perform call).uses.getLast? = some (endpoint, now) ∧
      ∃ entry, (log.limiter.perform call).endpoints.lookup endpoint = some entry ∧
        entry.lastSeen = now
  evicts : ∀ call endpoint now, log.limiter.used call = [(endpoint, now)] →
    log.limiter.endpoints.lookup endpoint = none →
    log.limiter.endpoints.pairs.length = maxTrackedEndpoints →
    ∃ oldest rest, log.limiter.recency = oldest :: rest ∧ ∀ other, other ≠ endpoint →
      (log.limiter.perform call).endpoints.lookup other =
        if other = oldest.2 then none else log.limiter.endpoints.lookup other
  keeps : ∀ call endpoint now, log.limiter.used call = [(endpoint, now)] →
    log.limiter.endpoints.pairs.length < maxTrackedEndpoints ∨
      log.limiter.endpoints.lookup endpoint ≠ none →
    ∀ other, other ≠ endpoint → (log.limiter.perform call).endpoints.lookup other =
      log.limiter.endpoints.lookup other
  erases : ∀ endpoint, (log.limiter.perform (.erase endpoint)).uses =
      Recency.without endpoint log.limiter.uses ∧
    ∀ other, (log.limiter.perform (.erase endpoint)).endpoints.lookup other =
      if other = endpoint then none else log.limiter.endpoints.lookup other
  expires : ∀ now ttl endpoint, (log.limiter.expire now ttl).endpoints.lookup endpoint =
    (log.limiter.endpoints.lookup endpoint).filter fun entry => now - entry.lastSeen ≤ ttl

/-- A call that asks about an endpoint does what it does to the table by `allow`. -/
theorem used_allow {limiter : RateLimiter} {call : LimiterCall} {endpoint : Endpoint} {now : Time}
    (used : limiter.used call = [(endpoint, now)]) :
    ∃ base kind rate burst, SameTable limiter base ∧
      SameTable (base.allow endpoint now kind rate burst).2 (limiter.perform call) := by
  have performed := limiter.performed call
  rw [used] at performed
  generalize limiter.perform call = after at performed ⊢
  cases performed with
  | asked base _ same _ _ kind rate burst settled =>
    exact ⟨base, kind, rate, burst, same, settled⟩

/-- If the times of the calls do not decrease, the table is such a cache. -/
theorem run_leastRecentlyUsed
    (forward : (calls.filterMap LimiterCall.time).Pairwise (· ≤ ·)) :
    (Run.run step {} calls).LeastRecentlyUsed := by
  have cached := run_cached calls
  have coherent := cached.coherent
  have ordered : ((Run.run step {} calls).limiter.uses.map Prod.snd).Pairwise (· ≤ ·) := by
    have recent := cached.recent.trans (Recency.lastUses_sublist _)
    exact forward.sublist ((recent.map Prod.snd).trans (run_history calls))
  refine ⟨coherent.tracked_iff, coherent.once, cached.recent, ordered, ?_, ?_, ?_, ?_, ?_, ?_, ?_⟩
  · intro endpoint entry found
    exact coherent.filter_own found
  · rw [coherent.count]
    exact cached.bounded
  · intro call endpoint now used
    obtain ⟨base, kind, rate, burst, same, settled⟩ := used_allow used
    obtain ⟨kept, entry, keptCoherent, -, -, added⟩ :=
      (coherent.same same).allow_appended endpoint now kind rate burst
    rw [settled.uses, settled.endpoints, added.after_uses keptCoherent, added.lookup, if_pos rfl]
    exact ⟨getLast?_concat, entry, rfl, added.seen⟩
  · intro call endpoint now used absent full
    obtain ⟨base, kind, rate, burst, same, settled⟩ := used_allow used
    rw [← same.endpoints] at absent full ⊢
    rw [← same.recency, settled.endpoints]
    exact (coherent.same same).allow_evicts absent full
  · intro call endpoint now used room other different
    obtain ⟨base, kind, rate, burst, same, settled⟩ := used_allow used
    rw [← same.endpoints] at room ⊢
    rw [settled.endpoints]
    exact (coherent.same same).allow_keeps room different
  · intro endpoint
    exact ⟨(coherent.erase_without endpoint).uses, (coherent.erase_without endpoint).lookup⟩
  · intro now ttl endpoint
    exact coherent.expire_exact ordered now ttl endpoint

/-- Two endpoints, of which the first one is used again. -/
def twoEndpoints : List LimiterCall :=
  [.allowStrict (loopback 1) 1, .allowChatSend (loopback 2) 2, .allowControl (loopback 1) 3]

theorem run_leastRecentlyUsed_twoEndpoints :
    (Run.run step {} twoEndpoints).limiter.uses = [(loopback 2, 2), (loopback 1, 3)] ∧
      (Run.run step {} twoEndpoints).LeastRecentlyUsed := by
  refine ⟨by decide +kernel, run_leastRecentlyUsed twoEndpoints (by decide)⟩

end LimiterLog

end Sesivo
