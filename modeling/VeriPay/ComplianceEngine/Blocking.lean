import VeriPay.ComplianceEngine.Service

/-!
When a rejection or a challenge blocks. A rejection always does; a challenge is passed over
where other evidence is unavailable and the caller lets that not block, so that withholding
evidence can lift a block.
-/

namespace VeriPay.ComplianceEngine

open Lib Common

/-- Some finding rejects or challenges the transaction. -/
def HardFinding (response : ComplianceResponse) : Prop :=
  ∃ finding ∈ response.findings, finding.outcome = .reject ∨ finding.outcome = .challenge

/-- The payment is not tokenized or the network failed its check. -/
def Rejected (request : ComplianceRequest) : Prop :=
  request.tokenized = false ∨ request.networkTrusted = some false

/-- Nothing is known about the network, or about a device whose signal is required. -/
def EvidenceMissing (request : ComplianceRequest) : Prop :=
  request.networkTrusted = none ∨
    request.deviceSignalRequired = true ∧ request.deviceTrustState = .unknown

/-- Authentication is due, or a required device is not trusted. -/
def Challenged (request : ComplianceRequest) : Prop :=
  ¬ ScaSatisfied request ∧ request.lowValueThresholdMinor < request.amountMinor ∨
    request.deviceSignalRequired = true ∧ request.deviceTrustState = .untrusted

/-- A challenge that is passed over: evidence is missing and the caller fails open. -/
structure ChallengeMasked (request : ComplianceRequest) : Prop where
  notRejected : ¬ Rejected request
  missing : EvidenceMissing request
  challenged : Challenged request
  failsOpen : request.failClosedOnUnavailable = false

/-- The same request without evidence on the network, on a required device, or on both. -/
def Withholds (request withheld : ComplianceRequest) : Prop :=
  ∃ network device,
    withheld = { request with networkTrusted := network, deviceTrustState := device } ∧
      (network = request.networkTrusted ∨ request.networkTrusted = some true ∧ network = none) ∧
      (device = request.deviceTrustState ∨
        request.deviceSignalRequired = true ∧ device = .unknown)

section Outcomes

variable (request : ComplianceRequest)

theorem mem_outcomes_iff (outcome : ComplianceOutcome) :
    outcome ∈ (findings request).map ComplianceFinding.outcome ↔
      (tokenizationFinding request).outcome = outcome ∨ (scaFinding request).outcome = outcome ∨
        (networkFinding request).outcome = outcome ∨
          ∃ finding ∈ deviceFindings request, finding.outcome = outcome := by
  simp only [findings, List.map_cons, List.mem_cons, List.mem_map, eq_comm]

/-- The outcome of the customer authentication is a challenge or a pass. -/
theorem sca_outcome :
    (scaFinding request).outcome =
      if ¬ ScaSatisfied request ∧ request.lowValueThresholdMinor < request.amountMinor then
        .challenge
      else .pass := by
  unfold scaFinding
  by_cases hsatisfied : ScaSatisfied request
  · rw [if_pos hsatisfied, if_neg fun h => h.1 hsatisfied]
  · by_cases hlarge : request.lowValueThresholdMinor < request.amountMinor
    · rw [if_neg hsatisfied, if_pos hlarge, if_pos ⟨hsatisfied, hlarge⟩]
    · rw [if_neg hsatisfied, if_neg hlarge, if_neg fun h => hlarge h.2]

theorem network_outcome (outcome : ComplianceOutcome) :
    (networkFinding request).outcome = outcome ↔
      request.networkTrusted = some false ∧ outcome = .reject ∨
        request.networkTrusted = none ∧ outcome = .unavailable ∨
          request.networkTrusted = some true ∧ outcome = .pass := by
  unfold networkFinding
  split
  next h => simp [h, eq_comm]
  next h => simp [h, eq_comm]
  next h => simp [h, eq_comm]

theorem device_outcome (outcome : ComplianceOutcome) :
    (∃ finding ∈ deviceFindings request, finding.outcome = outcome) ↔
      request.deviceSignalRequired = true ∧
        (request.deviceTrustState = .untrusted ∧ outcome = .challenge ∨
          request.deviceTrustState = .unknown ∧ outcome = .unavailable) := by
  unfold deviceFindings
  split_ifs with huntrusted hunknown
  · simp [huntrusted, eq_comm]
  · simp [hunknown, eq_comm]
  · refine iff_of_false (by simp) ?_
    rintro ⟨hrequired, ⟨hstate, -⟩ | ⟨hstate, -⟩⟩
    · exact huntrusted ⟨hrequired, hstate⟩
    · exact hunknown ⟨hrequired, hstate⟩

theorem reject_mem_outcomes_iff :
    .reject ∈ (findings request).map ComplianceFinding.outcome ↔ Rejected request := by
  rw [mem_outcomes_iff, sca_outcome, network_outcome, device_outcome, Rejected,
    tokenizationFinding]
  split_ifs <;> simp_all

theorem unavailable_mem_outcomes_iff :
    .unavailable ∈ (findings request).map ComplianceFinding.outcome ↔
      EvidenceMissing request := by
  rw [mem_outcomes_iff, sca_outcome, network_outcome, device_outcome, EvidenceMissing,
    tokenizationFinding]
  split_ifs <;> simp

theorem challenge_mem_outcomes_iff :
    .challenge ∈ (findings request).map ComplianceFinding.outcome ↔ Challenged request := by
  rw [mem_outcomes_iff, sca_outcome, network_outcome, device_outcome, Challenged,
    tokenizationFinding]
  split_ifs <;> simp_all

theorem hardFinding_iff :
    HardFinding (evaluateCompliance request) ↔ Rejected request ∨ Challenged request := by
  rw [← reject_mem_outcomes_iff, ← challenge_mem_outcomes_iff, HardFinding]
  simp only [evaluateCompliance, List.mem_map, ← exists_or, ← and_or_left]

theorem blocking_iff :
    (evaluateCompliance request).blocking = true ↔
      Rejected request ∨
        EvidenceMissing request ∧ request.failClosedOnUnavailable = true ∨
        ¬ EvidenceMissing request ∧ Challenged request := by
  rw [← reject_mem_outcomes_iff, ← unavailable_mem_outcomes_iff, ← challenge_mem_outcomes_iff]
  exact overall_blocking_iff

/-- What rejects or challenges blocks, but for a challenge that is passed over. -/
theorem blocking_of_hardFinding_iff :
    (HardFinding (evaluateCompliance request) → (evaluateCompliance request).blocking = true) ↔
      ¬ ChallengeMasked request := by
  rw [hardFinding_iff, blocking_iff]
  constructor
  · intro h hmasked
    rcases h (Or.inr hmasked.challenged) with hreject | ⟨-, hclosed⟩ | ⟨hpresent, -⟩
    · exact hmasked.notRejected hreject
    · rw [hmasked.failsOpen] at hclosed
      cases hclosed
    · exact hpresent hmasked.missing
  · intro hmasked hhard
    by_cases hreject : Rejected request
    · exact Or.inl hreject
    have hchallenged : Challenged request := hhard.resolve_left hreject
    by_cases hmissing : EvidenceMissing request
    · refine Or.inr (Or.inl ⟨hmissing, ?_⟩)
      by_contra hopen
      exact hmasked ⟨hreject, hmissing, hchallenged, Bool.eq_false_iff.mpr hopen⟩
    · exact Or.inr (Or.inr ⟨hmissing, hchallenged⟩)

end Outcomes

section Withholding

variable {request withheld : ComplianceRequest}

/-- Withholding evidence takes no rejection and no challenge away but the device's own. -/
theorem Withholds.rejected (h : Withholds request withheld) (hreject : Rejected request) :
    Rejected withheld := by
  obtain ⟨network, device, rfl, hnetwork, -⟩ := h
  rcases hreject with htoken | hfailed
  · exact Or.inl htoken
  · rcases hnetwork with rfl | ⟨htrusted, -⟩
    · exact Or.inr hfailed
    · rw [hfailed] at htrusted
      cases htrusted

theorem Withholds.challenged (h : Withholds request withheld) (hchallenge : Challenged withheld) :
    Challenged request := by
  obtain ⟨network, device, rfl, -, hdevice⟩ := h
  rcases hchallenge with hsca | ⟨hrequired, hstate⟩
  · exact Or.inl hsca
  · rcases hdevice with rfl | ⟨-, rfl⟩
    · exact Or.inr ⟨hrequired, hstate⟩
    · cases hstate

theorem Withholds.failClosed (h : Withholds request withheld) :
    withheld.failClosedOnUnavailable = request.failClosedOnUnavailable := by
  obtain ⟨network, device, rfl, -, -⟩ := h
  rfl

/-- Withholding lifts a block off a challenge exactly where the challenge is then passed over
and nothing was missing before. -/
theorem Withholds.blocking_iff (h : Withholds request withheld) :
    ((evaluateCompliance request).blocking = true → HardFinding (evaluateCompliance withheld) →
        (evaluateCompliance withheld).blocking = true) ↔
      ¬ ChallengeMasked withheld ∨ EvidenceMissing request := by
  constructor
  · intro hkeeps
    by_contra hneither
    obtain ⟨hmasked, hpresent⟩ := not_or.mp hneither
    have hmasked := not_not.mp hmasked
    refine (blocking_of_hardFinding_iff withheld).mp (hkeeps ?_) hmasked
    rw [ComplianceEngine.blocking_iff]
    exact Or.inr (Or.inr ⟨hpresent, h.challenged hmasked.challenged⟩)
  · rintro (hunmasked | hmissing) hblocking hhard
    · exact (blocking_of_hardFinding_iff withheld).mpr hunmasked hhard
    · refine (blocking_of_hardFinding_iff withheld).mpr ?_ hhard
      intro hmasked
      rw [ComplianceEngine.blocking_iff] at hblocking
      rcases hblocking with hreject | ⟨-, hclosed⟩ | ⟨hpresent, -⟩
      · exact hmasked.notRejected (h.rejected hreject)
      · rw [← h.failClosed, hmasked.failsOpen] at hclosed
        cases hclosed
      · exact hpresent hmissing

end Withholding

/-- Compliance fails closed, on its own and against withheld evidence, exactly where no
challenge is passed over. -/
theorem failsClosed_iff (request : ComplianceRequest) :
    ((HardFinding (evaluateCompliance request) → (evaluateCompliance request).blocking = true) ↔
      ¬ ChallengeMasked request) ∧
    ∀ withheld, Withholds request withheld →
      (((evaluateCompliance request).blocking = true →
          HardFinding (evaluateCompliance withheld) →
          (evaluateCompliance withheld).blocking = true) ↔
        ¬ ChallengeMasked withheld ∨ EvidenceMissing request) :=
  ⟨blocking_of_hardFinding_iff request, fun _ h => h.blocking_iff⟩

/-- A large payment that is not authenticated, from a caller that lets missing evidence pass. -/
def largePayment : ComplianceRequest where
  transactionId := ⟨"tx-large", by decide⟩
  amountMinor := 10000
  currency := ⟨"USD", by decide⟩
  failClosedOnUnavailable := false

/-- The same payment from a caller that lets nothing pass. -/
def strictPayment : ComplianceRequest := { largePayment with failClosedOnUnavailable := true }

/-- It blocks with the network's evidence, and without. -/
theorem blocking_strictPayment_withheld :
    (evaluateCompliance { strictPayment with networkTrusted := none }).blocking = true := by
  refine ((failsClosed_iff strictPayment).2 _
    ⟨none, .unknown, rfl, Or.inr ⟨rfl, rfl⟩, Or.inl rfl⟩).mpr (Or.inl ?_) (by decide)
    ⟨scaFinding strictPayment, List.mem_cons_of_mem _ List.mem_cons_self, Or.inr (by decide)⟩
  intro hmasked
  exact absurd hmasked.failsOpen (by decide)

/-- Where missing evidence passes, the challenge is still found and no longer blocks. -/
theorem largePayment_withheld :
    Withholds largePayment { largePayment with networkTrusted := none } ∧
      (evaluateCompliance largePayment).blocking = true ∧
      HardFinding (evaluateCompliance { largePayment with networkTrusted := none }) ∧
      (evaluateCompliance { largePayment with networkTrusted := none }).blocking = false := by
  refine ⟨⟨none, .unknown, rfl, Or.inr ⟨rfl, rfl⟩, Or.inl rfl⟩, by decide, ?_, by decide⟩
  exact ⟨scaFinding largePayment, List.mem_cons_of_mem _ List.mem_cons_self, Or.inr (by decide)⟩

end VeriPay.ComplianceEngine
