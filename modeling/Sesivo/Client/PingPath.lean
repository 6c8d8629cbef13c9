import Mathlib.Algebra.Group.Nat.Defs
import Sesivo.Lib.Run
import Mathlib.Data.List.Nodup

set_option autoImplicit false

/- The loss the client reads from its ping replies. A reply is compared with the reply
before it only, so the count is right while replies that skip a sequence follow the
highest one. -/

namespace Sesivo

open List

structure PingPath where
  haveReplySequence : Bool := false
  lastReplySequence : UInt32 := 0
  watchStartSequence : UInt32 := 0
  intervalReceived : UInt32 := 0
  intervalMissing : UInt32 := 0
  totalReceived : UInt32 := 0
  totalMissing : UInt32 := 0
  consecutiveMissing : UInt32 := 0

namespace PingPath

def pingFeedbackMinReplies : UInt32 := 8

def resetPingPathFeedback (_ : PingPath) (watchStartSequence : UInt32) : PingPath :=
  { watchStartSequence := watchStartSequence }

def pingReplyIsWithinWatchWindow (replySequence watchStartSequence : UInt32) : Bool :=
  watchStartSequence ≤ replySequence

variable (path : PingPath) (replySequence : UInt32)

def missingReplies : UInt32 :=
  if path.haveReplySequence = true ∧ path.lastReplySequence + 1 < replySequence then
    replySequence - path.lastReplySequence - 1
  else 0

/-- The path after a reply, and the received and missing replies of an interval that is
handed to the congestion policy. -/
def observePingPathFeedback : PingPath × Option (UInt32 × UInt32) :=
  if pingReplyIsWithinWatchWindow replySequence path.watchStartSequence = false then (path, none)
  else
    let observed := { path with
      haveReplySequence := true
      lastReplySequence := replySequence
      totalReceived := path.totalReceived + 1
      totalMissing := path.totalMissing + path.missingReplies replySequence
      consecutiveMissing := 0
      intervalReceived := path.intervalReceived + 1
      intervalMissing := path.intervalMissing + path.missingReplies replySequence }
    if observed.intervalReceived + observed.intervalMissing < pingFeedbackMinReplies then
      (observed, none)
    else
      ({ observed with intervalReceived := 0, intervalMissing := 0 },
        some (observed.intervalReceived, observed.intervalMissing))

/-- The sequences a reply counts as missing. -/
def passedOver : List Nat :=
  range' (path.lastReplySequence.toNat + 1) (path.missingReplies replySequence).toNat

variable {path replySequence}

theorem observe_within (within : path.watchStartSequence ≤ replySequence) :
    let after := (path.observePingPathFeedback replySequence).1
    after.haveReplySequence = true ∧ after.lastReplySequence = replySequence ∧
      after.watchStartSequence = path.watchStartSequence ∧
      after.totalReceived = path.totalReceived + 1 ∧
      after.totalMissing = path.totalMissing + path.missingReplies replySequence := by
  simp only [observePingPathFeedback, pingReplyIsWithinWatchWindow, within, decide_true,
    Bool.true_eq_false, ↓reduceIte]
  split <;> exact ⟨rfl, rfl, rfl, rfl, rfl⟩

theorem missingReplies_toNat (room : path.lastReplySequence.toNat + 1 < 2 ^ 32) :
    (path.missingReplies replySequence).toNat =
      if path.haveReplySequence = true ∧
          path.lastReplySequence.toNat + 1 < replySequence.toNat then
        replySequence.toNat - (path.lastReplySequence.toNat + 1)
      else 0 := by
  have next : (path.lastReplySequence + 1).toNat = path.lastReplySequence.toNat + 1 := by
    rw [UInt32.toNat_add, UInt32.toNat_one, Nat.mod_eq_of_lt room]
  simp only [missingReplies, UInt32.lt_iff_toNat_lt, next]
  split
  next skips =>
    have gap := UInt32.toNat_sub_of_le replySequence path.lastReplySequence
      (UInt32.le_iff_toNat_le.mpr (by omega))
    have one : (1 : UInt32).toNat = 1 := rfl
    rw [UInt32.toNat_sub_of_le _ _ (UInt32.le_iff_toNat_le.mpr (by omega)), gap, one, Nat.sub_sub]
  · rfl

end PingPath

/-- A watch of the path with what arrived in it, newest first; no step looks at that. -/
structure PingLog where
  path : PingPath
  replies : List Nat := []
  /-- The sequences that were counted as missing. -/
  counted : List Nat := []
  /-- Those of them whose reply had arrived before. -/
  answered : List Nat := []
  outOfOrder : Nat := 0

namespace PingLog

open PingPath

variable (watchStartSequence : UInt32)

def opened : PingLog where
  path := resetPingPathFeedback {} watchStartSequence

/-- The highest reply seen. -/
def highest (log : PingLog) : Nat := log.replies.foldr max 0

def step (log : PingLog) (reply : UInt32) : PingLog where
  path := (log.path.observePingPathFeedback reply).1
  replies := reply.toNat :: log.replies
  counted := log.path.passedOver reply ++ log.counted
  answered := (log.path.passedOver reply).filter (· ∈ log.replies) ++ log.answered
  outOfOrder := log.outOfOrder + if reply.toNat < log.highest then 1 else 0

/-- Every unit of the total stands for another sequence without a reply, and the totals stay
within the pings up to the highest reply and the replies out of order. -/
structure Sound (log : PingLog) : Prop where
  units : log.path.totalMissing.toNat = log.counted.length
  below : ∀ sequence ∈ log.counted, sequence < log.highest
  unanswered : log.answered = []
  once : log.counted.Nodup
  totals : log.path.totalReceived.toNat + log.path.totalMissing.toNat ≤
    log.highest + 1 - log.path.watchStartSequence.toNat + log.outOfOrder

/-- The reply to another ping of the watch, of fewer than `2 ^ 32` pings. -/
def Expected (log : PingLog) (reply : UInt32) : Prop :=
  reply.toNat ∉ log.replies ∧ log.path.watchStartSequence ≤ reply ∧ reply.toNat + 1 < 2 ^ 32

/-- A reply that skips a sequence follows the highest reply so far. -/
def SkipsFromHighest (log : PingLog) (reply : UInt32) : Prop :=
  log.path.lastReplySequence.toNat + 1 < reply.toNat →
    log.path.lastReplySequence.toNat = log.highest

instance (log : PingLog) (reply : UInt32) : Decidable (Expected log reply) :=
  inferInstanceAs (Decidable (_ ∧ _))

instance (log : PingLog) (reply : UInt32) : Decidable (SkipsFromHighest log reply) :=
  inferInstanceAs (Decidable (_ → _))

/-- A reply arrives late, and the next one counts a sequence as missing that was answered. -/
theorem late_reply_recounts : ¬ Sound (Run.run step (opened 1) [1, 3, 2, 4]) :=
  fun sound => absurd sound.unanswered (by decide)

/-- What the watch keeps while replies that skip a sequence follow the highest one. -/
structure Watched (log : PingLog) : Prop extends Sound log where
  first : log.path.haveReplySequence = true ↔ log.replies ≠ []
  none_yet : log.replies = [] → log.path.totalReceived = 0 ∧ log.counted = [] ∧ log.highest = 0
  last_le : log.path.lastReplySequence.toNat ≤ log.highest
  all_le : ∀ reply ∈ log.replies, reply ≤ log.highest
  reached : log.replies ≠ [] → log.highest ∈ log.replies ∧
    log.path.watchStartSequence.toNat ≤ log.highest
  small : log.highest + 1 < 2 ^ 32
  few : log.counted.length ≤ log.highest

theorem opened_watched : Watched (opened watchStartSequence) where
  units := rfl
  below := fun _ never => nomatch never
  unanswered := rfl
  once := nodup_nil
  totals := Nat.zero_le _
  first := iff_of_false Bool.false_ne_true (not_not.mpr rfl)
  none_yet := fun _ => ⟨rfl, rfl, rfl⟩
  last_le := Nat.le_refl _
  all_le := fun _ never => nomatch never
  reached := fun some_reply => absurd rfl some_reply
  small := Nat.one_lt_two_pow (by decide)
  few := Nat.le_refl _

variable {log : PingLog} {reply : UInt32}

/-- A reply skips nothing, or it skips what lies between the highest reply and itself. -/
theorem Watched.skips (watched : log.Watched) (meets : log.SkipsFromHighest reply) :
    let missing := (log.path.missingReplies reply).toNat
    (missing = 0 ∧ (log.replies ≠ [] → reply.toNat ≤ log.highest + 1)) ∨
      (log.replies ≠ [] ∧ reply.toNat = log.highest + 1 + missing ∧
        log.path.passedOver reply = range' (log.highest + 1) missing) := by
  intro missing
  have last := watched.last_le
  have small := watched.small
  have count : missing = _ := @missingReplies_toNat log.path reply (by omega)
  by_cases skipped : log.path.haveReplySequence = true ∧
      log.path.lastReplySequence.toNat + 1 < reply.toNat
  · rw [if_pos skipped] at count
    have top := meets skipped.2
    refine .inr ⟨watched.first.mp skipped.1, by omega, ?_⟩
    rw [passedOver, top]
  rw [if_neg skipped] at count
  refine .inl ⟨count, fun some_reply => ?_⟩
  have behind : ¬ log.path.lastReplySequence.toNat + 1 < reply.toNat :=
    fun skips => skipped ⟨watched.first.mpr some_reply, skips⟩
  omega

/-- What a reply counts as missing lies between the highest reply and itself. -/
theorem Watched.passedOver_between (watched : log.Watched) (meets : log.SkipsFromHighest reply) :
    ∀ sequence ∈ log.path.passedOver reply, log.highest < sequence ∧ sequence < reply.toNat := by
  intro sequence member
  rcases watched.skips meets with ⟨nothing, -⟩ | ⟨-, reach, passed⟩
  · rw [passedOver, nothing] at member
    cases member
  · rw [passed, mem_range'_1] at member
    omega

theorem step_watched (watched : log.Watched) (expected : log.Expected reply)
    (meets : log.SkipsFromHighest reply) : (log.step reply).Watched := by
  obtain ⟨fresh, within, small⟩ := expected
  obtain ⟨have_, last, start, received, missing⟩ := @observe_within log.path reply within
  have skips := watched.skips meets
  have between := watched.passedOver_between meets
  have highest : (log.step reply).highest = max reply.toNat log.highest := rfl
  have inside : log.path.watchStartSequence.toNat ≤ reply.toNat := UInt32.le_iff_toNat_le.mp within
  have units := watched.units
  have few := watched.few
  have bound := watched.small
  have length : (log.path.passedOver reply).length = (log.path.missingReplies reply).toNat :=
    length_range'
  have total : (log.path.totalMissing + log.path.missingReplies reply).toNat =
      (log.path.missingReplies reply).toNat + log.counted.length := by
    rw [UInt32.toNat_add, units, Nat.mod_eq_of_lt (by omega), Nat.add_comm]
  refine ⟨⟨?_, ?_, ?_, ?_, ?_⟩, iff_of_true have_ (cons_ne_nil _ _),
    fun none => absurd none (cons_ne_nil _ _), ?_, ?_, ?_, by omega, ?_⟩
  · simp [step, missing, total, length]
  · intro sequence member
    rcases mem_append.mp member with newly | before
    · have place := between sequence newly
      omega
    · have place := watched.below sequence before
      omega
  · have none : (log.path.passedOver reply).filter (· ∈ log.replies) = [] := by
      refine filter_eq_nil_iff.mpr fun sequence newly answered => ?_
      have place := between sequence newly
      have low := watched.all_le sequence (of_decide_eq_true answered)
      omega
    simp [step, none, watched.unanswered]
  · refine nodup_append.mpr ⟨nodup_range' 1 (by decide), watched.once, ?_⟩
    rintro sequence newly _ before rfl
    have place := between sequence newly
    have low := watched.below sequence before
    omega
  · have totals := watched.totals
    have more : (log.path.totalReceived + 1).toNat ≤ log.path.totalReceived.toNat + 1 := by
      exact Nat.mod_le _ _
    rw [highest]
    simp only [step, received, missing, total, start]
    by_cases none : log.replies = []
    · obtain ⟨zero, empty, -⟩ := watched.none_yet none
      rw [zero] at more ⊢
      simp only [none, ne_eq, not_true_eq_false, false_and, or_false] at skips
      rw [skips.1, empty, length_nil]
      have nothing : (0 : UInt32).toNat = 0 := rfl
      omega
    · obtain ⟨member, begun⟩ := watched.reached none
      have other : reply.toNat ≠ log.highest := fun same => fresh (same ▸ member)
      split <;> omega
  · simp only [step, last]
    exact Nat.le_max_left _ _
  · rintro _ (_ | ⟨_, before⟩)
    · exact Nat.le_max_left _ _
    · exact Nat.le_trans (watched.all_le _ before) (Nat.le_max_right _ _)
  · intro _
    rw [highest]
    refine ⟨?_, by simp only [step, start]; omega⟩
    by_cases higher : log.highest ≤ reply.toNat
    · rw [Nat.max_eq_left higher]
      exact mem_cons_self
    rw [Nat.max_eq_right (by omega)]
    have begun : log.replies ≠ [] := fun none => by
      have zero := (watched.none_yet none).2.2
      omega
    exact mem_cons_of_mem _ (watched.reached begun).1
  · rw [highest]
    simp only [step, length_append, length]
    omega

/-- In every order of arrival of distinct replies, the ping loss is counted soundly as long as
replies that skip a sequence follow the highest one. -/
theorem ping_loss_sound (replies : List UInt32)
    (meets : Run.Allowed step (fun log reply => log.Expected reply ∧ log.SkipsFromHighest reply)
      (opened watchStartSequence) replies) :
    Sound (Run.run step (opened watchStartSequence) replies) := by
  have watched : Watched (Run.run step (opened watchStartSequence) replies) := by
    apply Run.invariant_of_allowed step _ Watched _ replies _ (opened_watched _) meets
    intro log reply _ watched allowed
    exact step_watched watched allowed.1 allowed.2
  exact watched.toSound

theorem ping_loss_sound_late : Sound (Run.run step (opened 1) [2, 5, 4, 3]) :=
  ping_loss_sound 1 [2, 5, 4, 3] (by decide)

end PingLog

end Sesivo
