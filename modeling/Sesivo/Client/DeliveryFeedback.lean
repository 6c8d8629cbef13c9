import Mathlib.Algebra.BigOperators.Group.List.Basic
import Mathlib.Algebra.Order.Ring.Rat
import Mathlib.Data.List.Sort
import Sesivo.Lib.Run
import Sesivo.Lib.Store
import Sesivo.Client.Sequences
import Sesivo.SessionCrypto

set_option autoImplicit false

/- What a sender makes of the delivery reports of its listeners:
`delivery_report_feedback.h`, and the branch of `client_runtime.cpp` that takes a
report apart once it has been decrypted and its sender is known. A reporter may claim
anything; it is held to the number of packets that were generated at all. -/

namespace Sesivo

open Octets SessionCrypto UInt64

namespace DeliveryReportFeedback

def maxIntervalPackets : UInt64 := 1024
def minReporterOutcomes : UInt64 := 8

/-- What a reporter's last accepted report said. -/
structure State where
  reportEpoch : UInt32 := 0
  sequence : UInt32 := 0
  totalDelivered : UInt64 := 0
  totalLost : UInt64 := 0
  initialized : Bool := false
deriving DecidableEq

inductive Status where
  | applied
  | rebaseline
  | stale
  | implausible
deriving DecidableEq

structure Delta where
  status : Status := .stale
  delivered : UInt64 := 0
  lost : UInt64 := 0
deriving DecidableEq

structure ResolvedOutcomes where
  delivered : UInt64 := 0
  lost : UInt64 := 0
deriving DecidableEq

namespace ResolvedOutcomes

variable (reporter : ResolvedOutcomes)

def resolved : UInt64 := reporter.delivered + reporter.lost

/-- The reporter has seen enough to be heard. -/
def eligible : Bool := minReporterOutcomes ≤ reporter.resolved

def lossRate : ℚ :=
  (reporter.lost.toNat : ℚ) / (reporter.resolved.toNat : ℚ)

/-- The number of outcomes, without a wrap. -/
def total (outcomes : ResolvedOutcomes) : Nat := outcomes.delivered.toNat + outcomes.lost.toNat

end ResolvedOutcomes

/-- The median of what the reporters say; the lower one of two. -/
def robustLossRate (reporters : List ResolvedOutcomes) : Option ℚ :=
  let rates := (reporters.filter ResolvedOutcomes.eligible).map ResolvedOutcomes.lossRate
  if rates = [] then none
  else (rates.insertionSort (· ≤ ·))[(rates.length - 1) / 2]?

def claimedOutcomesPlausible (alreadyClaimed newlyClaimed generated : UInt64) : Bool :=
  alreadyClaimed ≤ generated && newlyClaimed ≤ generated - alreadyClaimed

variable (state : State)

def observe (reportEpoch sequence : UInt32) (totalDelivered totalLost : UInt64) :
    Delta × State :=
  let next : State := ⟨reportEpoch, sequence, totalDelivered, totalLost, true⟩
  if reportEpoch = 0 ∨ sequence = 0 then ({ status := Status.implausible }, state)
  else if state.initialized = false then ({ status := .rebaseline }, next)
  else if sequenceNumberAfter sequence state.sequence = false then ({}, state)
  else if state.reportEpoch ≠ reportEpoch then
    if sequenceNumberAfter reportEpoch state.reportEpoch = false then ({}, state)
    else ({ status := .rebaseline }, next)
  else if totalDelivered < state.totalDelivered ∨ totalLost < state.totalLost then
    ({ status := Status.implausible }, state)
  else
    let delivered := totalDelivered - state.totalDelivered
    let lost := totalLost - state.totalLost
    -- too much at once says nothing about the present
    (⟨if maxIntervalPackets < delivered ∨ maxIntervalPackets - delivered < lost then .rebaseline
      else .applied, delivered, lost⟩, next)

/-- An accepted report is remembered as it is. It counts only if it is a later one of the
same epoch and does not say too much at once. -/
theorem observe_cases (reportEpoch sequence : UInt32)
    (totalDelivered totalLost : UInt64) :
    let observed := observe state reportEpoch sequence totalDelivered totalLost
    observed.1.status = .stale ∨ observed.1.status = Status.implausible ∨
      observed.2 = ⟨reportEpoch, sequence, totalDelivered, totalLost, true⟩ ∧
        (observed.1.status = .rebaseline ∨
          observed.1.status = .applied ∧ state.initialized = true ∧
            sequenceNumberAfter sequence state.sequence = true ∧
            state.reportEpoch = reportEpoch ∧
            observed.1.delivered.toNat + observed.1.lost.toNat ≤ maxIntervalPackets.toNat) := by
  unfold observe
  split
  · exact .inr (.inl rfl)
  split
  · exact .inr (.inr ⟨rfl, .inl rfl⟩)
  rename_i initialized
  split
  · exact .inl rfl
  rename_i after
  split
  · split
    · exact .inl rfl
    · exact .inr (.inr ⟨rfl, .inl rfl⟩)
  rename_i sameEpoch
  split
  · exact .inr (.inl rfl)
  refine .inr (.inr ⟨rfl, ?_⟩)
  by_cases much : maxIntervalPackets < totalDelivered - state.totalDelivered ∨
      maxIntervalPackets - (totalDelivered - state.totalDelivered) <
        totalLost - state.totalLost
  · exact .inl (if_pos much)
  refine .inr ⟨if_neg much, by simpa using initialized, by simpa using after,
    not_not.mp sameEpoch, ?_⟩
  obtain ⟨delivered, lost⟩ := not_or.mp much
  rw [UInt64.not_lt] at delivered lost
  have room := UInt64.toNat_sub_of_le _ _ delivered
  rw [le_iff_toNat_le] at delivered lost
  show (totalDelivered - state.totalDelivered).toNat + (totalLost - state.totalLost).toNat ≤ _
  omega

end DeliveryReportFeedback

open DeliveryReportFeedback

theorem sequenceNumberBefore_self (number : UInt32) : sequenceNumberBefore number number = false := by
  simp [sequenceNumberBefore]

structure AudioDeliveryReportPayload where
  command : UInt8
  reserved : Octets
  reportEpoch : UInt32
  totalDelivered : UInt64
  totalLost : UInt64

def audioDeliveryReportPayloadBytes : Nat := 24

def AudioDeliveryReportPayload.read (plaintext : Octets) : AudioDeliveryReportPayload where
  command := u8At plaintext 0
  reserved := slice plaintext 1 3
  reportEpoch := u32At plaintext 4
  totalDelivered := u64At plaintext 8
  totalLost := u64At plaintext 16

structure DownstreamDeliveryReporter where
  report : DeliveryReportFeedback.State := {}
  claimedOutcomes : UInt64 := 0
deriving DecidableEq

structure DownstreamFeedback where
  outcomes : ResolvedOutcomes
  updatedAt : Time
deriving DecidableEq

/-- What becomes of an authenticated control message. -/
inductive ReportOutcome where
  /-- It is something else than a delivery report. -/
  | otherCommand
  | malformed
  | stale
  | rebaselined (reporter : DownstreamDeliveryReporter)
  | feedback (reporter : DownstreamDeliveryReporter) (outcomes : ResolvedOutcomes)
deriving DecidableEq

namespace DownstreamDeliveryReporter

/-- What the reporter is taken to have claimed. At the first report, nothing is left to it
of what was generated long ago. -/
def claimedBefore (candidate : DownstreamDeliveryReporter) (generated : UInt64) : UInt64 :=
  if candidate.report.initialized = false ∧ maxIntervalPackets < generated then
    generated - maxIntervalPackets
  else candidate.claimedOutcomes

/-- What the report adds to that; the totals of another epoch are all new. -/
def newlyClaimed (candidate : DownstreamDeliveryReporter) (report : AudioDeliveryReportPayload)
    (delta : Delta) : UInt64 :=
  if candidate.report.initialized = false ∨ candidate.report.reportEpoch ≠ report.reportEpoch then
    report.totalDelivered + report.totalLost
  else delta.delivered + delta.lost

/-- Hold the report against what the reporter has said before and against the number
of packets generated since the room was joined. -/
def judge (candidate : DownstreamDeliveryReporter) (generated : UInt64) (sequence : UInt32)
    (report : AudioDeliveryReportPayload) : ReportOutcome :=
  let observed := observe candidate.report report.reportEpoch sequence report.totalDelivered
    report.totalLost
  let claimed := candidate.claimedBefore generated
  let added := candidate.newlyClaimed report observed.1
  let credible := claimedOutcomesPlausible claimed added generated
  match observed.1.status with
  | .stale => .stale
  | Status.implausible => .malformed
  | .rebaseline =>
    .rebaselined ⟨observed.2, if credible then claimed + added else generated⟩
  | .applied =>
    if credible then
      .feedback ⟨observed.2, claimed + added⟩ ⟨observed.1.delivered, observed.1.lost⟩
    else .malformed

theorem claimedBefore_of_initialized {candidate : DownstreamDeliveryReporter}
    (initialized : candidate.report.initialized = true) (generated : UInt64) :
    candidate.claimedBefore generated = candidate.claimedOutcomes := by
  simp [claimedBefore, initialized]

theorem newlyClaimed_of_same {candidate : DownstreamDeliveryReporter}
    {report : AudioDeliveryReportPayload} (initialized : candidate.report.initialized = true)
    (epoch : candidate.report.reportEpoch = report.reportEpoch) (delta : Delta) :
    candidate.newlyClaimed report delta = delta.delivered + delta.lost := by
  simp [newlyClaimed, initialized, epoch]

/-- What has been claimed stays below what was generated, without a wrap of the sum. -/
theorem toNat_add_of_claimed {claimed newlyClaimed generated : UInt64}
    (credible : claimedOutcomesPlausible claimed newlyClaimed generated = true) :
    (claimed + newlyClaimed).toNat = claimed.toNat + newlyClaimed.toNat ∧
      claimed + newlyClaimed ≤ generated := by
  simp only [claimedOutcomesPlausible, Bool.and_eq_true, decide_eq_true_iff] at credible
  obtain ⟨below, fits⟩ := credible
  have room := UInt64.toNat_sub_of_le _ _ below
  have bound := generated.toNat_lt
  rw [le_iff_toNat_le] at below fits ⊢
  rw [UInt64.toNat_add]
  omega

section

variable {candidate next : DownstreamDeliveryReporter} {generated : UInt64} {sequence : UInt32}
  {report : AudioDeliveryReportPayload}

/-- What a new record says, and that it claims no more than was generated. -/
structure Succeeds (next : DownstreamDeliveryReporter) (generated : UInt64) (sequence : UInt32)
    (report : AudioDeliveryReportPayload) : Prop where
  report : next.report =
    ⟨report.reportEpoch, sequence, report.totalDelivered, report.totalLost, true⟩
  bounded : next.claimedOutcomes ≤ generated

theorem judge_rebaselined
    (rebaselined : candidate.judge generated sequence report = .rebaselined next) :
    Succeeds next generated sequence report ∧
      (candidate.report.initialized = true → candidate.claimedOutcomes ≤ generated →
        candidate.claimedOutcomes ≤ next.claimedOutcomes) := by
  unfold judge at rebaselined
  rcases observe_cases candidate.report report.reportEpoch sequence report.totalDelivered
      report.totalLost with stale | refused | ⟨stored, status | ⟨status, _⟩⟩
  · simp [stale] at rebaselined
  · simp [refused] at rebaselined
  · simp only [status, ReportOutcome.rebaselined.injEq] at rebaselined
    subst rebaselined
    split
    next credible =>
      obtain ⟨sum, bounded⟩ := toNat_add_of_claimed credible
      refine ⟨⟨stored, bounded⟩, ?_⟩
      intro initialized _
      rw [le_iff_toNat_le, sum, claimedBefore_of_initialized initialized]
      exact Nat.le_add_right _ _
    next => exact ⟨⟨stored, UInt64.le_refl generated⟩, fun _ below => below⟩
  · simp only [status] at rebaselined
    split at rebaselined <;> cases rebaselined

theorem judge_feedback {outcomes : ResolvedOutcomes}
    (fed : candidate.judge generated sequence report = .feedback next outcomes) :
    Succeeds next generated sequence report ∧
      candidate.report.initialized = true ∧
      sequenceNumberAfter sequence candidate.report.sequence = true ∧
      candidate.report.reportEpoch = report.reportEpoch ∧
      outcomes.total ≤ maxIntervalPackets.toNat ∧
      next.claimedOutcomes.toNat = candidate.claimedOutcomes.toNat + outcomes.total := by
  unfold judge at fed
  rcases observe_cases candidate.report report.reportEpoch sequence report.totalDelivered
      report.totalLost with
    stale | refused | ⟨stored, status | ⟨status, initialized, after, epoch, short⟩⟩
  · simp [stale] at fed
  · simp [refused] at fed
  · simp [status] at fed
  · simp only [status, claimedBefore_of_initialized initialized,
      newlyClaimed_of_same initialized epoch] at fed
    split at fed
    next credible =>
      obtain ⟨rfl, rfl⟩ := ReportOutcome.feedback.inj fed
      obtain ⟨sum, bounded⟩ := toNat_add_of_claimed credible
      refine ⟨⟨stored, bounded⟩, initialized, after, epoch, short, ?_⟩
      have most : maxIntervalPackets.toNat = 1024 := rfl
      simp only [sum, UInt64.toNat_add, ResolvedOutcomes.total]
      omega
    next => cases fed

end

end DownstreamDeliveryReporter

/-- The sender's records about its listeners. -/
structure DownstreamDelivery where
  audioPacketsGenerated : UInt64 := 0
  deliveryReportGeneratedBaseline : UInt64 := 0
  byReporter : Store UInt32 DownstreamDeliveryReporter := ∅
  lastActivity : Store UInt32 Time := ∅
  tombstoneSince : Store UInt32 Time := ∅
  feedbackByReporter : Store UInt32 DownstreamFeedback := ∅
  feedbackPending : Bool := false
  inboundMalformedAudioDrops : Nat := 0

def deliveryReportStateRetention : Time := 300000000000
def downstreamFeedbackRetention : Time := 3000000000

/-- An event that concerns the records. The counter of generated packets belongs to
another thread; all that is known of it is that it does not go down. -/
inductive DeliveryEvent where
  | control (participantId : UInt32) (metadata : SecureControlMetadata) (plaintext : Octets)
      (now : Time)
  | generate (count : UInt64)
  | clearRoom
  | removeParticipant (participantId : UInt32)
  | cleanup (now : Time)
  | applyFeedback (now : Time)

namespace DownstreamDelivery

variable (delivery : DownstreamDelivery)

/-- The packets generated since the room was joined. -/
def generated : UInt64 :=
  delivery.audioPacketsGenerated - delivery.deliveryReportGeneratedBaseline

/-- The client is `participantId`; the message is for it and from another. -/
def outcome (participantId : UInt32) (metadata : SecureControlMetadata) (plaintext : Octets) :
    ReportOutcome :=
  let report := AudioDeliveryReportPayload.read plaintext
  if plaintext = [] then .malformed
  else if report.command ≠ secureControlAudioDeliveryReport then .otherCommand
  else if metadata.targetId ≠ participantId ∨ metadata.senderId = metadata.targetId ∨
      plaintext.length ≠ audioDeliveryReportPayloadBytes then
    .malformed
  else if report.reserved ≠ [0, 0, 0] then .malformed
  else if 0xFFFFFFFFFFFFFFFF - report.totalLost < report.totalDelivered then .malformed
  else
    ((delivery.byReporter.lookup metadata.senderId).getD {}).judge delivery.generated
      metadata.sequence report

variable (senderId : UInt32)

def accept (reporter : DownstreamDeliveryReporter) (now : Time) :
    DownstreamDelivery :=
  { delivery with
    byReporter := delivery.byReporter.insert senderId reporter
    lastActivity := delivery.lastActivity.insert senderId now
    tombstoneSince := delivery.tombstoneSince.erase senderId }

def handleDeliveryReport (participantId : UInt32) (metadata : SecureControlMetadata)
    (plaintext : Octets) (now : Time) : DownstreamDelivery :=
  match delivery.outcome participantId metadata plaintext with
  | .otherCommand => delivery
  | .malformed =>
    { delivery with inboundMalformedAudioDrops := delivery.inboundMalformedAudioDrops + 1 }
  | .stale => delivery
  | .rebaselined reporter => delivery.accept metadata.senderId reporter now
  | .feedback reporter outcomes =>
    { delivery.accept metadata.senderId reporter now with
      feedbackByReporter :=
        delivery.feedbackByReporter.insert metadata.senderId ⟨outcomes, now⟩
      feedbackPending := true }

/-- Another room is joined, or the room is left. -/
def clearRoom : DownstreamDelivery :=
  { delivery with
    byReporter := ∅
    lastActivity := ∅
    tombstoneSince := ∅
    feedbackByReporter := ∅
    feedbackPending := false
    deliveryReportGeneratedBaseline := delivery.audioPacketsGenerated }

def removeParticipant (participantId : UInt32) : DownstreamDelivery :=
  { delivery with
    byReporter := delivery.byReporter.erase participantId
    lastActivity := delivery.lastActivity.erase participantId
    tombstoneSince := delivery.tombstoneSince.erase participantId
    feedbackByReporter := delivery.feedbackByReporter.erase participantId }

/-- A reporter that has been silent is marked, and forgotten when the mark is old. -/
def cleanup (now : Time) : DownstreamDelivery :=
  let silent := delivery.lastActivity.pairs.filter fun entry =>
    deliveryReportStateRetention ≤ now - entry.2
  let marked := silent.foldl (fun marks entry => marks.insert entry.1 now) delivery.tombstoneSince
  let old := marked.pairs.filter fun entry => deliveryReportStateRetention ≤ now - entry.2
  { delivery with
    lastActivity := delivery.lastActivity.keep fun _ time => !(deliveryReportStateRetention ≤ now - time)
    tombstoneSince := marked.keep fun _ time => !(deliveryReportStateRetention ≤ now - time)
    byReporter := old.foldl (fun reporters entry => reporters.erase entry.1) delivery.byReporter }

/-- The loss rate that the congestion policy is told, if there is news. -/
def applyDownstreamDeliveryFeedback (now : Time) : Option ℚ × DownstreamDelivery :=
  if delivery.feedbackPending = false then (none, delivery)
  else
    let recent := delivery.feedbackByReporter.keep fun _ feedback =>
      !(downstreamFeedbackRetention < now - feedback.updatedAt)
    (robustLossRate (recent.pairs.map fun entry => entry.2.outcomes),
      { delivery with feedbackByReporter := recent, feedbackPending := false })

@[simp] theorem accept_lookup (reporter : DownstreamDeliveryReporter) (now : Time)
    (id : UInt32) :
    (delivery.accept senderId reporter now).byReporter.lookup id =
      if id = senderId then some reporter else delivery.byReporter.lookup id := by
  rw [accept, Store.lookup_insert]

/-- A message that is neither something else nor malformed is held against the record. -/
theorem outcome_cases (participantId : UInt32) (metadata : SecureControlMetadata)
    (plaintext : Octets) :
    delivery.outcome participantId metadata plaintext = .otherCommand ∨
      delivery.outcome participantId metadata plaintext = .malformed ∨
      delivery.outcome participantId metadata plaintext =
        ((delivery.byReporter.lookup metadata.senderId).getD {}).judge delivery.generated
          metadata.sequence (AudioDeliveryReportPayload.read plaintext) := by
  simp only [outcome]
  split
  · exact .inr (.inl rfl)
  split
  · exact .inl rfl
  split
  · exact .inr (.inl rfl)
  split
  · exact .inr (.inl rfl)
  split
  · exact .inr (.inl rfl)
  · exact .inr (.inr rfl)

theorem handleDeliveryReport_counts (participantId : UInt32) (metadata : SecureControlMetadata)
    (plaintext : Octets) (now : Time) :
    let after := delivery.handleDeliveryReport participantId metadata plaintext now
    after.deliveryReportGeneratedBaseline = delivery.deliveryReportGeneratedBaseline ∧
      after.audioPacketsGenerated = delivery.audioPacketsGenerated := by
  simp only [handleDeliveryReport]
  split
  all_goals exact ⟨rfl, rfl⟩

/-- The message is a report that is accepted, with the record that is then kept. -/
def Accepts (participantId : UInt32) (metadata : SecureControlMetadata) (plaintext : Octets)
    (next : DownstreamDeliveryReporter) : Prop :=
  delivery.outcome participantId metadata plaintext = .rebaselined next ∨
    ∃ outcomes, delivery.outcome participantId metadata plaintext = .feedback next outcomes

theorem handleDeliveryReport_stores {participantId : UInt32} {metadata : SecureControlMetadata}
    {plaintext : Octets} {next : DownstreamDeliveryReporter}
    (accepts : delivery.Accepts participantId metadata plaintext next) (now : Time) :
    (delivery.handleDeliveryReport participantId metadata plaintext now).byReporter.lookup
      metadata.senderId = some next := by
  rcases accepts with judged | ⟨outcomes, judged⟩ <;>
    simp [handleDeliveryReport, judged, accept_lookup]

variable {id : UInt32}

/-- A message does not change anybody else's record. -/
theorem handleDeliveryReport_other (participantId : UInt32) (metadata : SecureControlMetadata)
    (plaintext : Octets) (now : Time) (other : id ≠ metadata.senderId) :
    (delivery.handleDeliveryReport participantId metadata plaintext now).byReporter.lookup id =
      delivery.byReporter.lookup id := by
  unfold handleDeliveryReport
  split
  · rfl
  · rfl
  · rfl
  · rw [accept_lookup, if_neg other]
  · exact (accept_lookup delivery _ _ now id).trans (if_neg other)

theorem handleDeliveryReport_keeps (participantId : UInt32) (metadata : SecureControlMetadata)
    (plaintext : Octets) (now : Time) (known : delivery.byReporter.lookup id ≠ none) :
    (delivery.handleDeliveryReport participantId metadata plaintext now).byReporter.lookup id ≠
      none := by
  by_cases other : id ≠ metadata.senderId
  · rw [handleDeliveryReport_other _ _ _ _ _ other]
    exact known
  obtain rfl := not_not.mp other
  unfold handleDeliveryReport
  split
  · exact known
  · exact known
  · exact known
  · simp [accept_lookup]
  · simp [accept_lookup]

theorem erase_all_lookup {α : Type} (entries : List (UInt32 × α))
    (reporters : Store UInt32 DownstreamDeliveryReporter) (id : UInt32) :
    (entries.foldl (fun reporters entry => reporters.erase entry.1) reporters).lookup id = none ∨
      (entries.foldl (fun reporters entry => reporters.erase entry.1) reporters).lookup id =
        reporters.lookup id := by
  induction entries generalizing reporters with
  | nil => exact .inr rfl
  | cons entry entries ih =>
    rcases ih (reporters.erase entry.1) with gone | same
    · exact .inl gone
    rw [Store.lookup_erase] at same
    split at same
    · exact .inl same
    · exact .inr same

def step : DeliveryEvent → DownstreamDelivery
  | .control participantId metadata plaintext now =>
    delivery.handleDeliveryReport participantId metadata plaintext now
  | .generate count =>
    if delivery.audioPacketsGenerated ≤ count then
      { delivery with audioPacketsGenerated := count }
    else delivery
  | .clearRoom => delivery.clearRoom
  | .removeParticipant participantId => delivery.removeParticipant participantId
  | .cleanup now => delivery.cleanup now
  | .applyFeedback now => (delivery.applyDownstreamDeliveryFeedback now).2

/-- Telling the congestion policy changes nothing about the reporters. -/
theorem applyDownstreamDeliveryFeedback_same (now : Time) :
    let after := (delivery.applyDownstreamDeliveryFeedback now).2
    after.byReporter = delivery.byReporter ∧
      after.deliveryReportGeneratedBaseline = delivery.deliveryReportGeneratedBaseline ∧
      after.audioPacketsGenerated = delivery.audioPacketsGenerated := by
  simp only [applyDownstreamDeliveryFeedback]
  split <;> exact ⟨rfl, rfl, rfl⟩

end DownstreamDelivery

structure AcceptedReport where
  sequence : UInt32
  reportEpoch : UInt32
deriving DecidableEq

/-- The records, with what one reporter's reports have come to since there are records
about it. -/
structure ReporterLog where
  delivery : DownstreamDelivery := {}
  accepted : List AcceptedReport := []
  feedback : List ResolvedOutcomes := []

namespace ReporterLog

/-- Note what becomes of the reporter's message. -/
def note (log : ReporterLog) (after : DownstreamDelivery) (report : AcceptedReport) :
    ReportOutcome → ReporterLog
  | .rebaselined _ => ⟨after, log.accepted ++ [report], log.feedback⟩
  | .feedback _ outcomes => ⟨after, log.accepted ++ [report], log.feedback ++ [outcomes]⟩
  | _ => { log with delivery := after }

def step (reporterId : UInt32) (log : ReporterLog) (event : DeliveryEvent) : ReporterLog :=
  let after := log.delivery.step event
  if after.byReporter.lookup reporterId = none then { delivery := after }
  else
    match event with
    | .control participantId metadata plaintext _ =>
      if metadata.senderId = reporterId then
        log.note after ⟨metadata.sequence, (AudioDeliveryReportPayload.read plaintext).reportEpoch⟩
          (log.delivery.outcome participantId metadata plaintext)
      else { log with delivery := after }
    | _ => { log with delivery := after }

/-- The record that is kept of a reporter stands for its reports. -/
structure Backed (log : ReporterLog) (reporter : DownstreamDeliveryReporter) : Prop where
  bounded : reporter.claimedOutcomes ≤ log.delivery.generated
  covered : (log.feedback.map ResolvedOutcomes.total).sum ≤ reporter.claimedOutcomes.toNat
  initialized : reporter.report.initialized = true
  last : log.accepted.getLast? = some ⟨reporter.report.sequence, reporter.report.reportEpoch⟩

structure Sound (reporterId : UInt32) (log : ReporterLog) : Prop where
  counted : log.delivery.deliveryReportGeneratedBaseline ≤ log.delivery.audioPacketsGenerated
  forgotten : log.delivery.byReporter.lookup reporterId = none → log.accepted = [] ∧ log.feedback = []
  known : ∀ reporter, log.delivery.byReporter.lookup reporterId = some reporter → log.Backed reporter
  short : ∀ outcomes ∈ log.feedback, outcomes.total ≤ maxIntervalPackets.toNat

variable {reporterId : UInt32} {log : ReporterLog} {after : DownstreamDelivery}

theorem Sound.forget
    (counted : after.deliveryReportGeneratedBaseline ≤ after.audioPacketsGenerated)
    (gone : after.byReporter.lookup reporterId = none) :
    Sound reporterId { delivery := after } where
  counted := counted
  forgotten _ := ⟨rfl, rfl⟩
  known reporter found := by
    rw [gone] at found
    cases found
  short _ member := absurd member List.not_mem_nil

/-- Nothing happens to the reporter's record. -/
theorem Sound.keep (sound : Sound reporterId log)
    (counted : after.deliveryReportGeneratedBaseline ≤ after.audioPacketsGenerated)
    (grown : log.delivery.generated ≤ after.generated)
    (same : after.byReporter.lookup reporterId = log.delivery.byReporter.lookup reporterId) :
    Sound reporterId { log with delivery := after } where
  counted := counted
  forgotten gone := sound.forgotten (same.symm.trans gone)
  known reporter found := by
    have backed := sound.known reporter (same.symm.trans found)
    exact ⟨UInt64.le_trans backed.bounded grown, backed.covered, backed.initialized, backed.last⟩
  short := sound.short

/-- The reporter's next record stands for the reports that were accepted, the new one last. -/
theorem Sound.replace (sound : Sound reporterId log)
    {next : DownstreamDeliveryReporter} {sequence : UInt32} {report : AudioDeliveryReportPayload}
    {feedback : List ResolvedOutcomes}
    (baseline : after.deliveryReportGeneratedBaseline = log.delivery.deliveryReportGeneratedBaseline)
    (count : after.audioPacketsGenerated = log.delivery.audioPacketsGenerated)
    (stored : after.byReporter.lookup reporterId = some next)
    (succeeds : next.Succeeds log.delivery.generated sequence report)
    (covered : (feedback.map ResolvedOutcomes.total).sum ≤ next.claimedOutcomes.toNat)
    (short : ∀ outcomes ∈ feedback, outcomes.total ≤ maxIntervalPackets.toNat) :
    Sound reporterId ⟨after, log.accepted ++ [⟨sequence, report.reportEpoch⟩], feedback⟩ where
  counted := by
    rw [baseline, count]
    exact sound.counted
  forgotten gone := by
    rw [stored] at gone
    cases gone
  known reporter found := by
    rw [stored] at found
    obtain rfl := Option.some.inj found
    have same : after.generated = log.delivery.generated := by
      rw [DownstreamDelivery.generated, DownstreamDelivery.generated, baseline, count]
    refine ⟨?_, covered, ?_, ?_⟩
    · rw [same]
      exact succeeds.bounded
    · rw [succeeds.report]
    · rw [List.getLast?_concat, succeeds.report]
  short := short

/-- The feedback that has been given is covered by the record a new report is held against. -/
theorem Sound.covered (sound : Sound reporterId log) :
    (log.feedback.map ResolvedOutcomes.total).sum ≤
      ((log.delivery.byReporter.lookup reporterId).getD {}).claimedOutcomes.toNat := by
  cases found : log.delivery.byReporter.lookup reporterId with
  | none =>
    rw [(sound.forgotten found).2]
    exact Nat.zero_le _
  | some reporter => exact (sound.known reporter found).covered

/-- Starting anew takes nothing back. -/
theorem Sound.covered_of_rebaselined (sound : Sound reporterId log) {sequence : UInt32}
    {report : AudioDeliveryReportPayload} {next : DownstreamDeliveryReporter}
    (rebaselined : ((log.delivery.byReporter.lookup reporterId).getD {}).judge
      log.delivery.generated sequence report = .rebaselined next) :
    (log.feedback.map ResolvedOutcomes.total).sum ≤ next.claimedOutcomes.toNat := by
  cases found : log.delivery.byReporter.lookup reporterId with
  | none =>
    rw [(sound.forgotten found).2]
    exact Nat.zero_le _
  | some reporter =>
    have backed := sound.known reporter found
    rw [found] at rebaselined
    have raised := (DownstreamDeliveryReporter.judge_rebaselined rebaselined).2 backed.initialized
      backed.bounded
    exact backed.covered.trans (le_iff_toNat_le.mp raised)

theorem Sound.note (sound : Sound reporterId log) {participantId : UInt32}
    {metadata : SecureControlMetadata} {plaintext : Octets} {now : Time}
    (own : metadata.senderId = reporterId) :
    Sound reporterId
      (log.note (log.delivery.handleDeliveryReport participantId metadata plaintext now)
        ⟨metadata.sequence, (AudioDeliveryReportPayload.read plaintext).reportEpoch⟩
        (log.delivery.outcome participantId metadata plaintext)) := by
  subst own
  have judgement := log.delivery.outcome_cases participantId metadata plaintext
  unfold DownstreamDelivery.handleDeliveryReport
  cases judged : log.delivery.outcome participantId metadata plaintext with
  | otherCommand | malformed | stale => exact sound.keep sound.counted (UInt64.le_refl _) rfl
  | rebaselined next =>
    simp only [judged, reduceCtorEq, false_or] at judgement
    refine sound.replace rfl rfl ?_ (DownstreamDeliveryReporter.judge_rebaselined judgement.symm).1
      (sound.covered_of_rebaselined judgement.symm) sound.short
    rw [DownstreamDelivery.accept_lookup, if_pos rfl]
  | feedback next outcomes =>
    simp only [judged, reduceCtorEq, false_or] at judgement
    obtain ⟨succeeds, _, _, _, short, raised⟩ :=
      DownstreamDeliveryReporter.judge_feedback judgement.symm
    have covered := sound.covered
    refine sound.replace rfl rfl ?_ succeeds ?_ ?_
    · exact (DownstreamDelivery.accept_lookup _ _ _ now _).trans (if_pos rfl)
    · rw [List.map_append, List.sum_append, List.map_singleton, List.sum_singleton, raised]
      omega
    exact List.forall_mem_append.mpr ⟨sound.short, List.forall_mem_singleton.mpr short⟩

/-- A step keeps the counter above the baseline, and the packets generated since, unless
the room is left. -/
theorem step_counted (delivery : DownstreamDelivery) (event : DeliveryEvent)
    (counted : delivery.deliveryReportGeneratedBaseline ≤ delivery.audioPacketsGenerated) :
    (delivery.step event).deliveryReportGeneratedBaseline ≤
        (delivery.step event).audioPacketsGenerated ∧
      (event ≠ .clearRoom → delivery.generated ≤ (delivery.step event).generated) := by
  cases event with
  | control participantId metadata plaintext now =>
    obtain ⟨baseline, count⟩ :=
      delivery.handleDeliveryReport_counts participantId metadata plaintext now
    simp only [DownstreamDelivery.step, DownstreamDelivery.generated, baseline, count]
    exact ⟨counted, fun _ => UInt64.le_refl _⟩
  | generate count =>
    simp only [DownstreamDelivery.step]
    split
    next raised =>
      have after := UInt64.le_trans counted raised
      refine ⟨after, fun _ => ?_⟩
      simp only [DownstreamDelivery.generated]
      rw [le_iff_toNat_le, UInt64.toNat_sub_of_le _ _ counted, UInt64.toNat_sub_of_le _ _ after]
      exact Nat.sub_le_sub_right (le_iff_toNat_le.mp raised) _
    next => exact ⟨counted, fun _ => UInt64.le_refl _⟩
  | clearRoom => exact ⟨UInt64.le_refl _, fun other => absurd rfl other⟩
  | removeParticipant participantId | cleanup now => exact ⟨counted, fun _ => UInt64.le_refl _⟩
  | applyFeedback now =>
    obtain ⟨_, baseline, count⟩ := delivery.applyDownstreamDeliveryFeedback_same now
    simp only [DownstreamDelivery.step, DownstreamDelivery.generated, baseline, count]
    exact ⟨counted, fun _ => UInt64.le_refl _⟩

theorem step_sound (sound : Sound reporterId log) (event : DeliveryEvent) :
    Sound reporterId (log.step reporterId event) := by
  obtain ⟨counted, grown⟩ := step_counted log.delivery event sound.counted
  simp only [step]
  split
  next gone => exact .forget counted gone
  rename_i present
  cases event with
  | control participantId metadata plaintext now =>
    simp only
    split
    next own => exact sound.note own
    rename_i other
    exact sound.keep counted (grown nofun)
      (log.delivery.handleDeliveryReport_other participantId metadata plaintext now
        (Ne.symm other))
  | generate count =>
    refine sound.keep counted (grown nofun) ?_
    simp only [DownstreamDelivery.step]
    split <;> rfl
  | clearRoom => exact absurd (Store.lookup_empty reporterId) present
  | removeParticipant participantId =>
    refine sound.keep counted (grown nofun) ?_
    have erased := log.delivery.byReporter.lookup_erase participantId reporterId
    by_cases same : reporterId = participantId
    · rw [if_pos same] at erased
      exact absurd erased present
    · rw [if_neg same] at erased
      exact erased
  | cleanup now =>
    refine sound.keep counted (grown nofun) ?_
    exact (DownstreamDelivery.erase_all_lookup _ log.delivery.byReporter reporterId).resolve_left
      present
  | applyFeedback now =>
    refine sound.keep counted (grown nofun) ?_
    exact congrArg (Store.lookup · reporterId)
      (log.delivery.applyDownstreamDeliveryFeedback_same now).1

theorem sound_run (reporterId : UInt32) (events : List DeliveryEvent) :
    Sound reporterId (Run.run (step reporterId) {} events) := by
  refine Run.invariant (step reporterId) (Sound reporterId) (fun _ event sound => step_sound sound event)
    {} events ?_
  exact .forget (UInt64.le_refl _) (Store.lookup_empty reporterId)

/-- The log is kept beside the records. -/
theorem step_delivery (log : ReporterLog) (reporterId : UInt32) (event : DeliveryEvent) :
    (log.step reporterId event).delivery = log.delivery.step event := by
  simp only [step]
  split
  · rfl
  split
  · split
    · unfold note
      split
      all_goals rfl
    · rfl
  · rfl

section

variable {participantId : UInt32} {metadata : SecureControlMetadata} {plaintext : Octets} {now : Time}

/-- A message that leaves a record of its sender behind is noted. -/
theorem step_own (own : metadata.senderId = reporterId)
    (present : (log.delivery.handleDeliveryReport participantId metadata plaintext
      now).byReporter.lookup reporterId ≠ none) :
    log.step reporterId (.control participantId metadata plaintext now) =
      log.note (log.delivery.handleDeliveryReport participantId metadata plaintext now)
        ⟨metadata.sequence, (AudioDeliveryReportPayload.read plaintext).reportEpoch⟩
        (log.delivery.outcome participantId metadata plaintext) :=
  (if_neg present).trans (if_pos own)

/-- An accepted report is among the accepted ones from then on. -/
theorem step_accepted (own : metadata.senderId = reporterId) {next : DownstreamDeliveryReporter}
    (accepts : log.delivery.Accepts participantId metadata plaintext next) :
    (log.step reporterId (.control participantId metadata plaintext now)).accepted ≠
      log.accepted := by
  have stored := log.delivery.handleDeliveryReport_stores accepts now
  rw [own] at stored
  rw [step_own own (by rw [stored]; nofun)]
  rcases accepts with judged | ⟨outcomes, judged⟩ <;> simp [judged, note]

theorem step_of_rejected (own : metadata.senderId = reporterId)
    (rejected : (log.step reporterId (.control participantId metadata plaintext now)).accepted =
      log.accepted) :
    (log.step reporterId (.control participantId metadata plaintext now)).delivery.byReporter =
      log.delivery.byReporter := by
  rw [step_delivery]
  simp only [DownstreamDelivery.step, DownstreamDelivery.handleDeliveryReport]
  cases judged : log.delivery.outcome participantId metadata plaintext with
  | otherCommand => rfl
  | malformed => rfl
  | stale => rfl
  | rebaselined next => exact absurd rejected (step_accepted own (.inl judged))
  | feedback next outcomes => exact absurd rejected (step_accepted own (.inr ⟨outcomes, judged⟩))

/-- A report that is not later than the last accepted one gives no feedback. -/
theorem step_of_late (sound : Sound reporterId log) {last : AcceptedReport}
    (own : metadata.senderId = reporterId) (before : log.accepted.getLast? = some last)
    (late : sequenceNumberAfter metadata.sequence last.sequence = false ∨
      sequenceNumberBefore (AudioDeliveryReportPayload.read plaintext).reportEpoch
        last.reportEpoch = true) :
    (log.step reporterId (.control participantId metadata plaintext now)).feedback = log.feedback ∧
      (log.step reporterId (.control participantId metadata plaintext now)).delivery.feedbackByReporter =
        log.delivery.feedbackByReporter := by
  cases found : log.delivery.byReporter.lookup reporterId with
  | none =>
    rw [(sound.forgotten found).1] at before
    cases before
  | some reporter =>
    have backed := sound.known reporter found
    obtain rfl := Option.some.inj (backed.last.symm.trans before)
    have judgement := log.delivery.outcome_cases participantId metadata plaintext
    rw [own, found, Option.getD_some] at judgement
    have present : (log.delivery.handleDeliveryReport participantId metadata plaintext
        now).byReporter.lookup reporterId ≠ none :=
      log.delivery.handleDeliveryReport_keeps _ _ _ now (by rw [found]; nofun)
    rw [step_own own present]
    unfold DownstreamDelivery.handleDeliveryReport
    cases judged : log.delivery.outcome participantId metadata plaintext with
    | otherCommand => exact ⟨rfl, rfl⟩
    | malformed => exact ⟨rfl, rfl⟩
    | stale => exact ⟨rfl, rfl⟩
    | rebaselined next => exact ⟨rfl, rfl⟩
    | feedback next outcomes =>
      simp only [judged, reduceCtorEq, false_or] at judgement
      obtain ⟨_, _, after, epoch, _⟩ :=
        DownstreamDeliveryReporter.judge_feedback judgement.symm
      rcases late with notAfter | earlier
      · rw [after] at notAfter
        cases notAfter
      · rw [← epoch, sequenceNumberBefore_self] at earlier
        cases earlier

end

/-- A reporter's claims never exceed the packets generated since the room was joined, and
neither do the outcomes that are taken over from it; a report that is not later than the last
accepted one has no effect on them, and a rejected one has none at all. -/
theorem delivery_reports_cannot_overclaim (reporterId : UInt32) (events : List DeliveryEvent) :
    let log := Run.run (step reporterId) {} events
    (∀ reporter, log.delivery.byReporter.lookup reporterId = some reporter →
        reporter.claimedOutcomes ≤ log.delivery.generated) ∧
      (log.feedback.map ResolvedOutcomes.total).sum ≤ log.delivery.generated.toNat ∧
      (∀ outcomes ∈ log.feedback, outcomes.total ≤ maxIntervalPackets.toNat) ∧
      ∀ participantId metadata plaintext now, metadata.senderId = reporterId →
        let next := log.step reporterId (.control participantId metadata plaintext now)
        (∀ last, log.accepted.getLast? = some last →
          sequenceNumberAfter metadata.sequence last.sequence = false ∨
            sequenceNumberBefore (AudioDeliveryReportPayload.read plaintext).reportEpoch
              last.reportEpoch = true →
          next.feedback = log.feedback ∧
            next.delivery.feedbackByReporter = log.delivery.feedbackByReporter) ∧
        (next.accepted = log.accepted → next.delivery.byReporter = log.delivery.byReporter) := by
  have sound := sound_run reporterId events
  refine ⟨fun reporter found => (sound.known reporter found).bounded, ?_, sound.short, ?_⟩
  · cases found : (Run.run (step reporterId) {} events).delivery.byReporter.lookup reporterId with
    | none =>
      rw [(sound.forgotten found).2]
      exact Nat.zero_le _
    | some reporter =>
      have backed := sound.known reporter found
      exact backed.covered.trans (le_iff_toNat_le.mp backed.bounded)
  · intro participantId metadata plaintext now own
    exact ⟨fun last before late => step_of_late sound own before late, step_of_rejected own⟩

end ReporterLog

end Sesivo
