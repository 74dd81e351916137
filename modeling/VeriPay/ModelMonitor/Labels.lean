import VeriPay.Lib.KeyedLog
import VeriPay.FeedbackLoop.Service

/-!
The two label sources of the model monitor: the map `record_feedback` fills, and
the labels its feedback provider folds out of the feedback log's export. In both
a later label of a transaction replaces an earlier one.
-/

namespace VeriPay.ModelMonitor

open Lib Common FeedbackLoop

/-- `local_labels`, by transaction id. -/
abbrev LocalLabels := String → Option String

def recordFeedback (transactionId : String) (label : ReviewLabel) (labels : LocalLabels) :
    LocalLabels :=
  Function.update labels transactionId (some label.value)

/-- `{str(value) for value in MonitorLabel}`. -/
def monitorLabels : List String :=
  ["CONFIRMED_FRAUD", "LEGITIMATE", "NEEDS_REVIEW", "FALSE_POSITIVE"]

theorem value_mem_monitorLabels (label : ReviewLabel) : label.value ∈ monitorLabels := by
  cases label <;> decide

/-- The fold of `HttpFeedbackProvider.labeled_transactions` over the export. -/
def labeledTransactions (records : List FeedbackRecord) : LocalLabels :=
  records.foldl
    (fun result record =>
      if record.label.value ∈ monitorLabels then
        Function.update result record.transactionId.val (some record.label.value)
      else result)
    (fun _ => none)

/-- A record as a label of its transaction. -/
def labelEntry (record : FeedbackRecord) : String × ReviewLabel :=
  (record.transactionId.val, record.label)

/-- Every feedback label is a monitor label, so no record is skipped. -/
theorem labeledTransactions_concat (records : List FeedbackRecord) (record : FeedbackRecord) :
    labeledTransactions (records ++ [record]) =
      Function.update (labeledTransactions records) record.transactionId.val
        (some record.label.value) := by
  rw [labeledTransactions, List.foldl_append]
  exact if_pos (value_mem_monitorLabels record.label)

theorem labeledTransactions_eq (records : List FeedbackRecord) (transactionId : String) :
    labeledTransactions records transactionId =
      (lastWins (records.map labelEntry) transactionId).map ReviewLabel.value := by
  induction records using List.reverseRecOn with
  | nil => rfl
  | append_singleton records record ih =>
    rw [labeledTransactions_concat, List.map_append, List.map_singleton, lastWins_concat,
      labelEntry]
    by_cases hid : transactionId = record.transactionId.val
    · rw [hid, Function.update_self, Function.update_self]
      rfl
    · rw [Function.update_of_ne hid, Function.update_of_ne hid, ih]

end VeriPay.ModelMonitor
