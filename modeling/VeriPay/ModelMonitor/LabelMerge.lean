import VeriPay.ModelMonitor.Dataset

/-!
The merge of fed-back labels and local ones. A fed-back label that is no verdict, such as
`NEEDS_REVIEW`, is passed over, and then the local label decides after all.
-/

namespace VeriPay.ModelMonitor

open Lib Common

/-- The labels a dataset can use. -/
def verdictLabels : List String := ["CONFIRMED_FRAUD", "LEGITIMATE", "FALSE_POSITIVE"]

theorem labelToFlag_isSome_iff (label : Option String) :
    (labelToFlag label).isSome ↔ ∃ text ∈ verdictLabels, label = some text := by
  unfold labelToFlag verdictLabels
  split_ifs with hfraud hgenuine
  · exact ⟨fun _ => ⟨_, by simp, hfraud⟩, fun _ => rfl⟩
  · refine ⟨fun _ => ?_, fun _ => rfl⟩
    rcases hgenuine with h | h
    · exact ⟨_, by simp, h⟩
    · exact ⟨_, by simp, h⟩
  · push Not at hgenuine
    simp [hfraud, hgenuine.1, hgenuine.2]

theorem labelToFlag_eq_none_iff (label : Option String) :
    labelToFlag label = none ↔ ∀ text ∈ verdictLabels, label ≠ some text := by
  rw [← Option.not_isSome_iff_eq_none, labelToFlag_isSome_iff]
  push Not
  rfl

namespace StoredObservation

/-- The flag the local label alone would give. -/
def localFlag (observation : StoredObservation) : Option ℕ :=
  labelToFlag (observation.label.map ReviewLabel.value)

/-- The observation without its label. -/
def unlabelled (observation : StoredObservation) : StoredObservation :=
  { observation with label := none }

/-- The observation with another local label. -/
def relabelled (observation : StoredObservation) (label : Option ReviewLabel) :
    StoredObservation :=
  { observation with label := label }

theorem unlabelled_relabelled (observation : StoredObservation) (label : Option ReviewLabel) :
    (observation.relabelled label).unlabelled = observation.unlabelled := rfl

/-- One of the two labels of an observation is a verdict. -/
def Usable (feedbackLabels : LocalLabels) (observation : StoredObservation) : Prop :=
  ∃ text ∈ verdictLabels, feedbackLabels observation.transactionId.val = some text ∨
    observation.label.map ReviewLabel.value = some text

instance (feedbackLabels : LocalLabels) :
    DecidablePred (Usable feedbackLabels) :=
  fun _ => inferInstanceAs (Decidable (∃ text ∈ verdictLabels, _ ∨ _))

end StoredObservation

/-- What a collection says of its observations, their own labels left out. -/
def flagged (labeled : List (StoredObservation × ℕ)) : List (StoredObservation × ℕ) :=
  labeled.map fun pair => (pair.1.unlabelled, pair.2)

theorem labelFlag_eq_or (feedbackLabels : LocalLabels) (observation : StoredObservation) :
    labelFlag feedbackLabels observation =
      (labelToFlag (feedbackLabels observation.transactionId.val)).or observation.localFlag := by
  unfold labelFlag
  cases labelToFlag (feedbackLabels observation.transactionId.val) <;> rfl

/-- An observation has a flag iff one of its labels is a verdict. -/
theorem labelFlag_isSome_iff (feedbackLabels : LocalLabels) (observation : StoredObservation) :
    (labelFlag feedbackLabels observation).isSome ↔ observation.Usable feedbackLabels := by
  rw [labelFlag_eq_or, Option.isSome_or, Bool.or_eq_true, labelToFlag_isSome_iff,
    StoredObservation.localFlag, labelToFlag_isSome_iff]
  constructor
  · rintro (⟨text, hverdict, h⟩ | ⟨text, hverdict, h⟩)
    · exact ⟨text, hverdict, Or.inl h⟩
    · exact ⟨text, hverdict, Or.inr h⟩
  · rintro ⟨text, hverdict, h | h⟩
    · exact Or.inl ⟨text, hverdict, h⟩
    · exact Or.inr ⟨text, hverdict, h⟩

/-- The collection keeps the usable observations, once each and in order. -/
theorem map_fst_collectLabeled (observations : List StoredObservation)
    (feedbackLabels : LocalLabels) :
    (collectLabeled observations feedbackLabels).map Prod.fst =
      observations.filter fun observation => observation.Usable feedbackLabels := by
  unfold collectLabeled
  induction observations with
  | nil => rfl
  | cons observation rest ih =>
    by_cases husable : observation.Usable feedbackLabels
    · obtain ⟨flag, hflag⟩ :=
        Option.isSome_iff_exists.mp ((labelFlag_isSome_iff _ _).mpr husable)
      rw [List.filterMap_cons_some (b := (observation, flag)) (by rw [hflag]; rfl),
        List.filter_cons, if_pos (decide_eq_true husable), List.map_cons, ih]
    · have hflag : labelFlag feedbackLabels observation = none := by
        rw [← Option.not_isSome_iff_eq_none, labelFlag_isSome_iff]
        exact husable
      rw [List.filterMap_cons_none (by rw [hflag]; rfl),
        List.filter_cons, if_neg (by rwa [decide_eq_true_eq]), ih]

theorem flagged_collectLabeled_append (observations others : List StoredObservation)
    (feedbackLabels : LocalLabels) :
    flagged (collectLabeled (observations ++ others) feedbackLabels) =
      flagged (collectLabeled observations feedbackLabels) ++
        flagged (collectLabeled others feedbackLabels) := by
  rw [flagged, collectLabeled, List.filterMap_append, List.map_append]
  rfl

theorem flagged_collectLabeled_cons (observation : StoredObservation)
    (rest : List StoredObservation) (feedbackLabels : LocalLabels) :
    flagged (collectLabeled (observation :: rest) feedbackLabels) =
      ((labelFlag feedbackLabels observation).map
        fun flag => (observation.unlabelled, flag)).toList ++
          flagged (collectLabeled rest feedbackLabels) := by
  unfold collectLabeled
  cases hflag : labelFlag feedbackLabels observation with
  | none =>
    rw [List.filterMap_cons_none (by rw [hflag]; rfl)]
    rfl
  | some flag =>
    rw [List.filterMap_cons_some (b := (observation, flag)) (by rw [hflag]; rfl)]
    rfl

/-- Within a list, only the flag of the relabelled observation can make a difference. -/
theorem flagged_relabelled_iff (feedbackLabels : LocalLabels)
    (before after : List StoredObservation) (observation : StoredObservation)
    (label : Option ReviewLabel) :
    flagged (collectLabeled (before ++ observation.relabelled label :: after) feedbackLabels) =
        flagged (collectLabeled (before ++ observation :: after) feedbackLabels) ↔
      labelFlag feedbackLabels (observation.relabelled label) =
        labelFlag feedbackLabels observation := by
  rw [flagged_collectLabeled_append, flagged_collectLabeled_append, List.append_right_inj,
    flagged_collectLabeled_cons, flagged_collectLabeled_cons, List.append_left_inj,
    StoredObservation.unlabelled_relabelled]
  constructor
  · intro h
    refine Option.map_injective ?_ (by simpa using congrArg List.head? h)
    intro flag other hpair
    exact congrArg Prod.snd hpair
  · intro h
    rw [h]

/-- A local label makes no difference iff the fed-back one is a verdict, or the change of the
local label is none to the dataset. -/
theorem labelFlag_relabelled_iff {feedbackLabels : LocalLabels}
    {observation : StoredObservation} {text : String}
    (hfed : feedbackLabels observation.transactionId.val = some text)
    (label : Option ReviewLabel) :
    labelFlag feedbackLabels (observation.relabelled label) =
        labelFlag feedbackLabels observation ↔
      text ∈ verdictLabels ∨
        (observation.relabelled label).localFlag = observation.localFlag := by
  rw [labelFlag_eq_or, labelFlag_eq_or]
  show (labelToFlag (feedbackLabels observation.transactionId.val)).or _ = _ ↔ _
  rw [hfed]
  by_cases hverdict : text ∈ verdictLabels
  · obtain ⟨flag, hflag⟩ := Option.isSome_iff_exists.mp
      ((labelToFlag_isSome_iff (some text)).mpr ⟨text, hverdict, rfl⟩)
    rw [hflag, Option.some_or, Option.some_or]
    exact ⟨fun _ => Or.inl hverdict, fun _ => rfl⟩
  · have hnone : labelToFlag (some text) = none := by
      rw [labelToFlag_eq_none_iff]
      intro other hother hsame
      rw [Option.some.injEq] at hsame
      exact hverdict (hsame ▸ hother)
    rw [hnone, Option.none_or, Option.none_or, or_iff_right hverdict]

/-- Changing the local label of an observation that has a fed-back one leaves the collection
as it is iff the fed-back label is a verdict or both local labels say the same. What is kept
are the usable observations, in order, in any case. -/
theorem collectLabeled_feedback_wins_iff (feedbackLabels : LocalLabels)
    (before after : List StoredObservation) (observation : StoredObservation)
    (label : Option ReviewLabel) {text : String}
    (hfed : feedbackLabels observation.transactionId.val = some text) :
    (flagged (collectLabeled (before ++ observation.relabelled label :: after) feedbackLabels) =
          flagged (collectLabeled (before ++ observation :: after) feedbackLabels) ∧
        ∀ observations, (collectLabeled observations feedbackLabels).map Prod.fst =
          observations.filter fun observation => observation.Usable feedbackLabels) ↔
      text ∈ verdictLabels ∨
        (observation.relabelled label).localFlag = observation.localFlag := by
  rw [flagged_relabelled_iff, labelFlag_relabelled_iff hfed]
  constructor
  · exact And.left
  · intro h
    exact ⟨h, fun observations => map_fst_collectLabeled observations feedbackLabels⟩

/-- An observation of the window, reviewed locally. -/
def reviewedObservation (label : ReviewLabel) : StoredObservation where
  features := ∅
  transactionId := ⟨"tx_reviewed", by decide⟩
  label := some label

theorem collectLabeled_fraud_wins :
    flagged (collectLabeled [(reviewedObservation .confirmedFraud).relabelled (some .legitimate)]
        fun _ => some "CONFIRMED_FRAUD") =
      flagged (collectLabeled [reviewedObservation .confirmedFraud]
        fun _ => some "CONFIRMED_FRAUD") :=
  ((collectLabeled_feedback_wins_iff (fun _ => some "CONFIRMED_FRAUD") [] []
    (reviewedObservation .confirmedFraud) (some .legitimate) rfl).mpr (Or.inl (by decide))).1

/-- With `NEEDS_REVIEW` fed back, the local label decides the flag. -/
theorem collectLabeled_local_wins :
    flagged (collectLabeled [(reviewedObservation .confirmedFraud).relabelled (some .legitimate)]
        fun _ => some "NEEDS_REVIEW") ≠
      flagged (collectLabeled [reviewedObservation .confirmedFraud]
        fun _ => some "NEEDS_REVIEW") := by
  intro h
  have hflags : [0] = [1] := congrArg (List.map Prod.snd) h
  exact absurd hflags (by decide)

end VeriPay.ModelMonitor
