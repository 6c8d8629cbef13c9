import Mathlib.Algebra.Order.Ring.Rat
import Sesivo.Lib.Store
import Sesivo.Protocol

set_option autoImplicit false

/- Admission by token buckets per endpoint, `server_rate_limiter.h`. Bucket
contents are exact rationals where the source uses doubles; times are
nanoseconds. -/

namespace Sesivo

structure TokenBucket where
  tokens : ℚ := 0
  lastRefill : Time := 0

variable (bucket : TokenBucket)

/-- Refill for the time that passed since the last refill; a bucket never used starts full. -/
def TokenBucket.refill (now : Time) (ratePerSecond burstTokens : ℚ) :
    TokenBucket :=
  if bucket.lastRefill = 0 then { tokens := burstTokens, lastRefill := now }
  else if bucket.lastRefill < now then
    { tokens := min burstTokens
        (bucket.tokens + ((now - bucket.lastRefill : Int) : ℚ) / 1000000000 * ratePerSecond)
      lastRefill := now }
  else bucket

def TokenBucket.allow (now : Time) (ratePerSecond burstTokens cost : ℚ) :
    Bool × TokenBucket :=
  let refilled := bucket.refill now (max 0 ratePerSecond) (max 0 burstTokens)
  if refilled.tokens + 1 / 1000000000 < max 0 cost then (false, refilled)
  else (true, { refilled with tokens := refilled.tokens - max 0 cost })

/-- The buckets an endpoint has, one per kind of traffic. -/
inductive BucketKind where
  | unknown
  | strict
  | control
  | status
  | roomControl
  | chatSend
  | secureControl
  | audio
deriving DecidableEq

/-- An endpoint's buckets, with the recency-list node it is tracked by. -/
structure EndpointBuckets where
  buckets : BucketKind → TokenBucket := fun _ => {}
  lastSeen : Time := 0
  recency : Nat

/-- The recency list holds one node per tracked endpoint, oldest first; nodes
are numbered in the order of their allocation. -/
structure RateLimiter where
  unknownGlobal : TokenBucket := {}
  secureControlGlobal : TokenBucket := {}
  recency : List (Nat × Endpoint) := []
  endpoints : Store Endpoint EndpointBuckets := ∅
  nextNode : Nat := 0

namespace RateLimiter

def maxTrackedEndpoints : Nat := 4096

variable (limiter : RateLimiter)

/-- Make room for one more endpoint by dropping the one at the front of the list. -/
def dropOldest : RateLimiter :=
  match limiter.recency with
  | [] => limiter
  | front :: rest =>
    { limiter with recency := rest, endpoints := limiter.endpoints.erase front.2 }

variable (endpoint : Endpoint)

/-- Track a new endpoint at the back of the list, or move a tracked one there. -/
def track : EndpointBuckets × RateLimiter :=
  match limiter.endpoints.lookup endpoint with
  | none =>
    let spared :=
      if maxTrackedEndpoints ≤ limiter.endpoints.pairs.length then limiter.dropOldest
      else limiter
    ({ recency := spared.nextNode },
      { spared with
        recency := spared.recency ++ [(spared.nextNode, endpoint)]
        nextNode := spared.nextNode + 1 })
  | some entry =>
    (entry,
      { limiter with
        recency := limiter.recency.filter (fun node => node.1 ≠ entry.recency) ++
          limiter.recency.filter (fun node => node.1 = entry.recency) })

variable (now : Time)

def allow (kind : BucketKind)
    (ratePerSecond burstTokens : ℚ) : Bool × RateLimiter :=
  let (entry, tracked) := limiter.track endpoint
  let (allowed, bucket) := (entry.buckets kind).allow now ratePerSecond burstTokens 1
  (allowed,
    { tracked with
      endpoints := tracked.endpoints.insert endpoint
        { entry with
          buckets := fun other => if other = kind then bucket else entry.buckets other
          lastSeen := now } })

def allowUnknown : Bool × RateLimiter :=
  let (allowed, bucket) := limiter.unknownGlobal.allow now 2000 4000 1
  let charged := { limiter with unknownGlobal := bucket }
  if allowed = false then (false, charged) else charged.allow endpoint now .unknown 20 20

def allowStrict : Bool × RateLimiter :=
  limiter.allow endpoint now .strict 20 20

def allowControl : Bool × RateLimiter :=
  limiter.allow endpoint now .control 120 240

def allowStatus : Bool × RateLimiter :=
  limiter.allow endpoint now .status (4 / 5) 8

def allowRoomControl : Bool × RateLimiter :=
  limiter.allow endpoint now .roomControl 2 8

def allowChatSend : Bool × RateLimiter :=
  limiter.allow endpoint now .chatSend 5 10

/-- The endpoint's own bucket is charged before the global one is asked. -/
def allowAuthenticatedSecureControl : Bool × RateLimiter :=
  let (allowed, charged) := limiter.allow endpoint now .secureControl 64 128
  if allowed = false then (false, charged)
  else
    let (granted, bucket) := charged.secureControlGlobal.allow now 2048 4096 1
    (granted, { charged with secureControlGlobal := bucket })

def allowAuthenticatedAudio (sampleRate : UInt32)
    (frameCount : UInt16) (now : Time) : Bool × RateLimiter :=
  if sampleRate = 0 ∨ frameCount = 0 then limiter.allowStrict endpoint now
  else
    let packetRate : ℚ := (((sampleRate.toNat : ℚ) / (frameCount.toNat : ℚ)).ceil : ℚ)
    let allowedRate := max 600 (packetRate * 2)
    limiter.allow endpoint now .audio allowedRate (allowedRate * 2)

def erase : RateLimiter :=
  match limiter.endpoints.lookup endpoint with
  | none => limiter
  | some entry =>
    { limiter with
      recency := limiter.recency.filter fun node => node.1 ≠ entry.recency
      endpoints := limiter.endpoints.erase endpoint }

/-- Walk the recency list from the front until an endpoint seen within `ttl`. -/
def expireFrom (now ttl : Time) : List (Nat × Endpoint) → Store Endpoint EndpointBuckets →
    List (Nat × Endpoint) × Store Endpoint EndpointBuckets
  | [], endpoints => ([], endpoints)
  | front :: rest, endpoints =>
    match endpoints.lookup front.2 with
    | none => expireFrom now ttl rest endpoints
    | some entry =>
      if now - entry.lastSeen ≤ ttl then (front :: rest, endpoints)
      else expireFrom now ttl rest (endpoints.erase front.2)

def expire (now ttl : Time) : RateLimiter :=
  let (recency, endpoints) := expireFrom now ttl limiter.recency limiter.endpoints
  { limiter with recency := recency, endpoints := endpoints }

end RateLimiter

end Sesivo
