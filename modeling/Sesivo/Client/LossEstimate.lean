import Sesivo.Lib.Rank
import Sesivo.Client.DeliveryFeedback

set_option autoImplicit false

/- The loss rate that is made of the reports, `robust_loss_rate`: what a lying minority
of reporters can do to it. The reports it is made of never claim so much that their sum
would wrap. -/

namespace Sesivo

namespace DeliveryReportFeedback

variable (reporters : List ResolvedOutcomes)

/-- The loss rates of the reporters that are heard. -/
def rates : List ℚ :=
  (reporters.filter ResolvedOutcomes.eligible).map ResolvedOutcomes.lossRate

@[simp] theorem rates_append (first second : List ResolvedOutcomes) :
    rates (first ++ second) = rates first ++ rates second := by
  simp [rates]

theorem rates_cons {reporter : ResolvedOutcomes} (eligible : reporter.eligible = true)
    (reporters : List ResolvedOutcomes) :
    rates (reporter :: reporters) = reporter.lossRate :: rates reporters := by
  simp [rates, List.filter_cons_of_pos eligible]

theorem rates_perm {reporters others : List ResolvedOutcomes} (perm : reporters.Perm others) :
    (rates reporters).Perm (rates others) :=
  (perm.filter _).map _

theorem length_rates : (rates reporters).length = reporters.countP ResolvedOutcomes.eligible := by
  rw [rates, List.length_map, List.countP_eq_length_filter]

theorem mem_rates {reporters : List ResolvedOutcomes} {rate : ℚ} :
    rate ∈ rates reporters ↔
      ∃ reporter ∈ reporters, reporter.eligible = true ∧ reporter.lossRate = rate := by
  simp [rates, and_assoc]

theorem robustLossRate_eq_ranked :
    robustLossRate reporters =
      Rank.ranked (rates reporters) (((rates reporters).length - 1) / 2) := by
  simp only [robustLossRate]
  split
  next empty =>
    have none : rates reporters = [] := empty
    rw [none]
    rfl
  next => rfl

theorem robustLossRate_perm {reporters others : List ResolvedOutcomes}
    (perm : reporters.Perm others) : robustLossRate reporters = robustLossRate others := by
  have rated := rates_perm perm
  rw [robustLossRate_eq_ranked, robustLossRate_eq_ranked, Rank.ranked_perm rated, rated.length_eq]

/-- Someone who is heard gives the estimate a value. -/
theorem robustLossRate_isSome
    (heard : 0 < (rates reporters).length) : ∃ rate, robustLossRate reporters = some rate := by
  rw [robustLossRate_eq_ranked]
  apply Rank.ranked_isSome
  omega

theorem robustLossRate_between {reporters honest dishonest : List ResolvedOutcomes}
    (partition : reporters.Perm (honest ++ dishonest))
    (minority : 2 * dishonest.countP ResolvedOutcomes.eligible <
      reporters.countP ResolvedOutcomes.eligible) :
    ∃ rate, robustLossRate reporters = some rate ∧
      (∃ low ∈ honest, low.eligible = true ∧ low.lossRate ≤ rate) ∧
      ∃ high ∈ honest, high.eligible = true ∧ rate ≤ high.lossRate := by
  have rated := rates_perm partition
  rw [rates_append] at rated
  rw [← length_rates, ← length_rates] at minority
  obtain ⟨rate, found⟩ := robustLossRate_isSome reporters (by omega)
  refine ⟨rate, found, ?_⟩
  rw [robustLossRate_eq_ranked] at found
  obtain ⟨⟨low, lowMember, below⟩, high, highMember, above⟩ :=
    Rank.ranked_between rated found (by omega) (by omega)
  obtain ⟨reporter, member, eligible, rfl⟩ := mem_rates.mp lowMember
  obtain ⟨other, otherMember, otherEligible, rfl⟩ := mem_rates.mp highMember
  exact ⟨⟨reporter, member, eligible, below⟩, other, otherMember, otherEligible, above⟩

theorem robustLossRate_mono (before after : List ResolvedOutcomes)
    {reporter raised : ResolvedOutcomes} (eligible : reporter.eligible = true)
    (still : raised.eligible = true) (higher : reporter.lossRate ≤ raised.lossRate) :
    ∃ low high, robustLossRate (before ++ reporter :: after) = some low ∧
      robustLossRate (before ++ raised :: after) = some high ∧ low ≤ high := by
  have split (one : ResolvedOutcomes) (heard : one.eligible = true) :
      rates (before ++ one :: after) = rates before ++ one.lossRate :: rates after := by
    rw [rates_append, rates_cons heard]
  have size (one : ResolvedOutcomes) (heard : one.eligible = true) :
      (rates (before ++ one :: after)).length = (rates before).length + (rates after).length + 1 := by
    rw [split one heard, List.length_append, List.length_cons, Nat.add_assoc]
  have first := size reporter eligible
  have second := size raised still
  obtain ⟨low, found⟩ := robustLossRate_isSome (before ++ reporter :: after) (by omega)
  obtain ⟨high, other⟩ := robustLossRate_isSome (before ++ raised :: after) (by omega)
  refine ⟨low, high, found, other, ?_⟩
  rw [robustLossRate_eq_ranked, first] at found
  rw [robustLossRate_eq_ranked, second] at other
  refine Rank.ranked_mono ?_ found other
  intro bound
  rw [split _ eligible, split _ still, List.countP_append, List.countP_append, List.countP_cons,
    List.countP_cons]
  by_cases under : raised.lossRate ≤ bound
  · simp [under, higher.trans under]
  · simp only [under, decide_false, Bool.false_eq_true, if_false]
    omega

/-- While less than half of the reporters that are heard lie, the estimate stays between the
rates of two that do not. It does not fall when one of them reports more loss, and the order
of the reporters does not matter. -/
theorem robust_loss_rate_withstands_minority :
    (∀ reporters honest dishonest : List ResolvedOutcomes, reporters.Perm (honest ++ dishonest) →
        2 * dishonest.countP ResolvedOutcomes.eligible <
          reporters.countP ResolvedOutcomes.eligible →
        ∃ rate, robustLossRate reporters = some rate ∧
          (∃ low ∈ honest, low.eligible = true ∧ low.lossRate ≤ rate) ∧
          ∃ high ∈ honest, high.eligible = true ∧ rate ≤ high.lossRate) ∧
      (∀ (before after : List ResolvedOutcomes) (reporter raised : ResolvedOutcomes),
        reporter.eligible = true → raised.eligible = true → reporter.lossRate ≤ raised.lossRate →
        ∃ low high, robustLossRate (before ++ reporter :: after) = some low ∧
          robustLossRate (before ++ raised :: after) = some high ∧ low ≤ high) ∧
      ∀ reporters others : List ResolvedOutcomes, reporters.Perm others →
        robustLossRate reporters = robustLossRate others :=
  ⟨fun _ _ _ => robustLossRate_between,
    fun before after _ _ => robustLossRate_mono before after, fun _ _ => robustLossRate_perm⟩

/-- Two listeners that lose nothing outvote one that claims to lose everything. -/
theorem robust_loss_rate_withstands_minority_alarm :
    ∃ rate, robustLossRate [⟨0, 1024⟩, ⟨100, 0⟩, ⟨50, 0⟩] = some rate ∧
      (∃ low ∈ [(⟨100, 0⟩ : ResolvedOutcomes), ⟨50, 0⟩], low.eligible = true ∧ low.lossRate ≤ rate) ∧
      ∃ high ∈ [(⟨100, 0⟩ : ResolvedOutcomes), ⟨50, 0⟩],
        high.eligible = true ∧ rate ≤ high.lossRate :=
  robust_loss_rate_withstands_minority.1 [⟨0, 1024⟩, ⟨100, 0⟩, ⟨50, 0⟩] [⟨100, 0⟩, ⟨50, 0⟩] [⟨0, 1024⟩]
    (by decide) (by decide)

end DeliveryReportFeedback

open DeliveryReportFeedback SessionCrypto

namespace DownstreamDelivery

/-- All feedback that is kept is short. -/
def Short (delivery : DownstreamDelivery) : Prop :=
  ∀ id feedback, delivery.feedbackByReporter.lookup id = some feedback →
    feedback.outcomes.total ≤ maxIntervalPackets.toNat

variable {delivery : DownstreamDelivery}

theorem handleDeliveryReport_short (short : delivery.Short)
    (participantId : UInt32) (metadata : SecureControlMetadata) (plaintext : Octets) (now : Time) :
    (delivery.handleDeliveryReport participantId metadata plaintext now).Short := by
  have judgement := delivery.outcome_cases participantId metadata plaintext
  unfold handleDeliveryReport
  cases judged : delivery.outcome participantId metadata plaintext with
  | otherCommand => exact short
  | malformed => exact short
  | stale => exact short
  | rebaselined next => exact short
  | feedback next outcomes =>
    simp only [judged, reduceCtorEq, false_or] at judgement
    obtain ⟨_, _, _, _, few, _⟩ := DownstreamDeliveryReporter.judge_feedback judgement.symm
    intro id feedback found
    rw [Store.lookup_insert] at found
    split at found
    · obtain rfl := Option.some.inj found
      exact few
    · exact short id feedback found

theorem step_short (short : delivery.Short) (event : DeliveryEvent) :
    (delivery.step event).Short := by
  cases event with
  | control participantId metadata plaintext now =>
    exact handleDeliveryReport_short short participantId metadata plaintext now
  | generate count =>
    simp only [step]
    split <;> exact short
  | clearRoom =>
    intro id feedback found
    cases (Store.lookup_empty id).symm.trans found
  | removeParticipant participantId =>
    intro id feedback found
    have erased := (delivery.feedbackByReporter.lookup_erase participantId id).symm.trans found
    split at erased
    · cases erased
    · exact short id feedback erased
  | cleanup now => exact short
  | applyFeedback now =>
    simp only [step, applyDownstreamDeliveryFeedback]
    split
    · exact short
    intro id feedback found
    rw [Store.lookup_keep, Option.filter_eq_some_iff] at found
    exact short id feedback found.1

/-- The sum of the outcomes that a loss rate is made of does not wrap. -/
theorem feedback_resolved (events : List DeliveryEvent) (id : UInt32) (feedback : DownstreamFeedback)
    (found : (Run.run step {} events).feedbackByReporter.lookup id = some feedback) :
    feedback.outcomes.resolved.toNat = feedback.outcomes.total := by
  have short : (Run.run step {} events).Short := by
    refine Run.invariant step Short (fun _ event short => step_short short event) {} events ?_
    intro other kept empty
    cases (Store.lookup_empty other).symm.trans empty
  have few := short id feedback found
  have most : maxIntervalPackets.toNat = 1024 := rfl
  simp only [ResolvedOutcomes.total, ResolvedOutcomes.resolved, UInt64.toNat_add] at few ⊢
  omega

/-- Participant 2 tells participant 1 how many packets it has had. -/
def delivered (sequence : UInt32) (count : UInt8) : DeliveryEvent :=
  .control 1 ⟨2, 1, sequence, 1, 24, []⟩
    ([secureControlAudioDeliveryReport, 0, 0, 0, 1, 0, 0, 0, count] ++ List.replicate 15 0) 0

theorem feedback_resolved_five : (⟨5, 0⟩ : ResolvedOutcomes).resolved.toNat = 5 :=
  feedback_resolved [.generate 9, delivered 1 1, delivered 2 6] 2 ⟨⟨5, 0⟩, 0⟩ (by decide +kernel)

end DownstreamDelivery

end Sesivo
