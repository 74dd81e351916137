import VeriPay.AnalystApi.Severity

/-!
The trust status a profile shows and what the verdicts do to a score. A confirmed fraud
decides the status at once, whatever the last verdicts are; the score takes the trust
discount whenever the last verdicts are benign, whatever came before them.
-/

namespace VeriPay.AnalystApi

open Lib

structure TrustStatus where
  level : String
  message : String

namespace ProfileStore

variable (store : ProfileStore) (customer window : ℕ)

def trustStatus (window : ℕ := 3) : TrustStatus :=
  if store.hasConfirmedFraud customer then
    { level := "alert"
      message := "Confirmed fraud on this account; alerts are heightened." }
  else if store.recentBenign customer window then
    { level := "boosted"
      message := "Recent false alarms confirmed as legitimate; trust boosted." }
  else
    { level := "normal"
      message := "No recent feedback; normal trust level." }

theorem level_eq_alert_iff :
    (store.trustStatus customer window).level = "alert" ↔
      store.hasConfirmedFraud customer = true := by
  unfold trustStatus
  split_ifs with hconfirmed hbenign
  · exact iff_of_true rfl hconfirmed
  · exact iff_of_false (by decide) hconfirmed
  · exact iff_of_false (by decide) hconfirmed

theorem level_eq_boosted_iff :
    (store.trustStatus customer window).level = "boosted" ↔
      store.hasConfirmedFraud customer = false ∧ store.recentBenign customer window = true := by
  unfold trustStatus
  split_ifs with hconfirmed hbenign
  · exact iff_of_false (by decide) fun h => Bool.false_ne_true (h.1.symm.trans hconfirmed)
  · exact iff_of_true rfl ⟨Bool.eq_false_of_not_eq_true hconfirmed, hbenign⟩
  · exact iff_of_false (by decide) fun h => hbenign h.2

end ProfileStore

/-- The two tests for benign last verdicts are one. -/
theorem trustBoosted_eq_recentBenign (store : ProfileStore) (customer window : ℕ) :
    trustBoosted window (store.feedbackForCustomer customer) =
      store.recentBenign customer window := by
  have hlength : window ≤ (lastItems window (store.feedbackForCustomer customer)).length ↔
      window ≤ (store.feedbackForCustomer customer).length := by
    unfold lastItems
    split_ifs with hwindow
    · exact Iff.rfl
    · rw [List.length_drop]
      omega
  rw [trustBoosted, ProfileStore.recentBenign]
  simp only [hlength]

/-- The last of the verdicts, as many as the window takes, are all benign. -/
def BenignTail (window : ℕ) (labels : List String) : Prop :=
  window ≤ labels.length ∧ ∀ label ∈ lastItems window labels, isBenign label = true

theorem recentBenign_iff {store : ProfileStore} {customer window : ℕ} :
    store.recentBenign customer window = true ↔
      BenignTail window (store.feedbackForCustomer customer) := by
  rw [ProfileStore.recentBenign, decide_eq_true_eq, BenignTail, List.all_eq_true]

theorem hasConfirmedFraud_iff {store : ProfileStore} {customer : ℕ} :
    store.hasConfirmedFraud customer = true ↔
      ∃ label ∈ store.feedbackForCustomer customer, isConfirmedFraud label = true := by
  rw [ProfileStore.hasConfirmedFraud, List.any_eq_true]

/-- The status tells what the verdicts do to a score, whatever the two constants are, and a
customer with a confirmed fraud gets no discount. -/
structure TrustAgrees (platform : Platform) (store : ProfileStore) (customer window : ℕ) :
    Prop where
  alert : ∀ trustFactor add, (feedbackAdjustment platform (store.feedbackForCustomer customer)
    window trustFactor add).fraudAdd =
      if (store.trustStatus customer window).level = "alert" then add else 0
  boosted : ∀ trustFactor add, (feedbackAdjustment platform (store.feedbackForCustomer customer)
    window trustFactor add).anomalyFactor =
      if (store.trustStatus customer window).level = "boosted" then trustFactor else 1
  no_discount : (∃ label ∈ store.feedbackForCustomer customer, isConfirmedFraud label = true) →
    ∀ trustFactor add, (feedbackAdjustment platform (store.feedbackForCustomer customer)
      window trustFactor add).anomalyFactor = 1

/-- Status and score agree but for a customer with a confirmed fraud before a window of
benign verdicts. -/
theorem trustAgrees_iff (platform : Platform) (store : ProfileStore) (customer window : ℕ) :
    TrustAgrees platform store customer window ↔
      ¬ ((∃ label ∈ store.feedbackForCustomer customer, isConfirmedFraud label = true) ∧
        BenignTail window (store.feedbackForCustomer customer)) := by
  have hboosted := trustBoosted_eq_recentBenign store customer window
  constructor
  · intro h hboth
    have hone := h.no_discount hboth.1 0 0
    rw [feedbackAdjustment, hboosted, recentBenign_iff.mpr hboth.2] at hone
    exact zero_ne_one hone
  · intro h
    constructor
    · intro trustFactor add
      simp only [ProfileStore.level_eq_alert_iff]
      rfl
    · intro trustFactor add
      simp only [ProfileStore.level_eq_boosted_iff, feedbackAdjustment, hboosted]
      cases hbenign : store.recentBenign customer window with
      | false => simp
      | true =>
        have hclean : store.hasConfirmedFraud customer = false := by
          rw [Bool.eq_false_iff]
          intro hconfirmed
          exact h ⟨hasConfirmedFraud_iff.mp hconfirmed, recentBenign_iff.mp hbenign⟩
        simp [hclean]
    · intro hconfirmed trustFactor add
      have hnot : store.recentBenign customer window = false := by
        rw [Bool.eq_false_iff]
        intro hbenign
        exact h ⟨hconfirmed, recentBenign_iff.mp hbenign⟩
      rw [feedbackAdjustment, hboosted, hnot]
      rfl

/-- A verdict on customer 7, at noon of a day in 2021. -/
def verdictOf (transactionId : NonEmptyStr) (analystDecision : String) : StoredFeedback where
  transactionId := transactionId
  ccNum := 7
  analystDecision := analystDecision
  decision := .block
  notes := ""
  timestamp := .atHour true 738000 12

/-- A confirmed fraud, and three false alarms after it. -/
def forgivenStore : ProfileStore where
  feedback := [
    verdictOf ⟨"tx-fraud", by decide⟩ "confirmed_fraud",
    verdictOf ⟨"tx-alarm", by decide⟩ "false_alarm",
    verdictOf ⟨"tx-alarm-2", by decide⟩ "false_alarm",
    verdictOf ⟨"tx-alarm-3", by decide⟩ "false_alarm"]

/-- The profile shows an alert, and the score takes the discount. -/
theorem not_trustAgrees_forgiven : ¬ TrustAgrees Platform.atNoon forgivenStore 7 3 := by
  intro h
  have hone := h.no_discount ⟨"confirmed_fraud", by decide, by decide⟩ 0 0
  have hboosted : trustBoosted 3 (forgivenStore.feedbackForCustomer 7) = true := by decide
  rw [feedbackAdjustment, hboosted] at hone
  exact zero_ne_one hone

end VeriPay.AnalystApi
