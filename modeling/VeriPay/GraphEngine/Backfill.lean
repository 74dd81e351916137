import VeriPay.Lib.Effect
import VeriPay.Lib.FirstPerKey
import VeriPay.Lib.PyText
import VeriPay.GraphEngine.Windows

/-!
The backfill of the graph from the labeled dataset. A row is skipped when its timestamp does
not parse; a customer number that does not parse stops the loop, and whoever asked for the
store is handed the part loaded by then.
-/

namespace VeriPay.GraphEngine

open Lib

/-- What a backfill calls on the text of a cell: `int`, with the message of its `ValueError`,
`float`, as an exact number, and `datetime.fromisoformat`. -/
structure CellReaders where
  int : String → Except String ℤ
  float : String → Option ℚ
  fromisoformat : String → Option DateTime

/-- What `csv.reader` yields: the cells of a row, or a raise where it cannot read on. -/
abbrev CsvRows := List (Py (List String))

/-- A row as `csv.DictReader` yields it, the last column first: a cell missing at the end is
`None`, and of several columns of one name the last counts. -/
abbrev CsvRecord := List (String × Option String)

def requiredBackfillColumns : List String := ["transaction_id", "cc_num", "merchant", "timestamp"]

def csvRecord (fieldnames cells : List String) : CsvRecord :=
  (fieldnames.zip (cells.map some ++ List.replicate fieldnames.length none)).reverse

/-- `reader.fieldnames or []`. -/
def fieldnames : CsvRows → Py (List String)
  | [] => .ok []
  | header :: _ => header

/-- `row.get(column)`. -/
def getCell (row : CsvRecord) (column : String) : Option String := (row.lookup column).join

/-- `str(cell)`. -/
def cellText (cell : Option String) : String := cell.getD "None"

/-- `text.replace("Z", "+00:00")`. -/
def zuluOffset (text : String) : String :=
  String.ofList (text.toList.flatMap fun c => if c = 'Z' then "+00:00".toList else [c])

namespace CellReaders

variable (readers : CellReaders)

/-- `int(cell)`. -/
def intOf : Option String → Py ℤ
  | none => .error (.typeError
      "int() argument must be a string, a bytes-like object or a real number, not 'NoneType'")
  | some text =>
    match readers.int text with
    | .ok value => .ok value
    | .error message => .error (.valueError message)

/-- The amount of a row in major units, and nothing where it does not parse. -/
def amountOf (row : CsvRecord) : ℚ :=
  let isTruthy := fun text : String => text ≠ ""
  match (getCell row "amount_minor").filter isTruthy <|> (getCell row "amount").filter isTruthy with
  | none => 0
  | some text =>
    match readers.float text with
    | some value => value / 100
    | none => 0

def timestampOf (row : CsvRecord) : Option DateTime :=
  readers.fromisoformat (zuluOffset (cellText (getCell row "timestamp")))

def flaggedOf (row : CsvRecord) : Bool :=
  strip (cellText ((row.lookup "is_fraud").getD (some ""))) ∈ ["1", "True", "true"]

/-- The transaction of a row, none where the timestamp does not parse. -/
def transactionOf (row : CsvRecord) : Py (Option ObservedTransaction) :=
  match readers.timestampOf row with
  | none => return none
  | some timestamp => do
    let ccNum ← readers.intOf (getCell row "cc_num")
    return some {
      transactionId := cellText (getCell row "transaction_id")
      ccNum := ccNum
      merchant := cellText (getCell row "merchant")
      amount := readers.amountOf row
      timestamp := timestamp
      flagged := flaggedOf row }

end CellReaders

/-- The loop over the rows; `csv.DictReader` skips a blank one. -/
def observeRows (readers : CellReaders) (fieldnames : List String) (limit : Option ℤ) :
    CsvRows → ℕ → Effect GraphStore ℕ
  | [], observed => return observed
  | row :: rest, observed => do
    let cells ← (liftM row : Effect GraphStore (List String))
    if cells = [] then observeRows readers fieldnames limit rest observed
    else if limit.any (fun most => most ≤ (observed : ℤ)) then return observed
    else
      match ← (liftM (readers.transactionOf (csvRecord fieldnames cells)) :
        Effect GraphStore (Option ObservedTransaction)) with
      | none => observeRows readers fieldnames limit rest observed
      | some tx =>
        modify (fun store => store.observe tx)
        observeRows readers fieldnames limit rest (observed + 1)

/-- `open(path)` yields the rows, or raises. -/
def backfillFromCsv (readers : CellReaders) (path : Py CsvRows) (limit : Option ℤ := none) :
    Effect GraphStore ℕ := do
  let rows ← (liftM path : Effect GraphStore CsvRows)
  let header ← (liftM (fieldnames rows) : Effect GraphStore (List String))
  let missing := requiredBackfillColumns.filter (fun column => column ∉ header)
  if missing ≠ [] then
    throw (.valueError ("Backfill CSV missing required columns: [" ++
      ", ".intercalate (missing.map fun column => "'" ++ column ++ "'") ++ "]"))
  observeRows readers header limit rows.tail 0

/-- `contextlib.suppress(FileNotFoundError, ValueError)`. -/
def isSuppressed (e : PyErr) : Bool := e.isValueError || e = .other "FileNotFoundError"

/-- The store of the process, made and backfilled on first access. It is kept before the
backfill runs, so it stays whatever becomes of that. -/
def getStore (readers : CellReaders) (seedCsv : Option (Py CsvRows)) :
    Effect (Option GraphStore) GraphStore := do
  match ← (get : Effect (Option GraphStore) (Option GraphStore)) with
  | some store => return store
  | none =>
    match seedCsv with
    | none =>
      set (some ({} : GraphStore))
      return {}
    | some path =>
      let (answer, store) := Effect.exec (backfillFromCsv readers path) {}
      set (some store)
      match answer with
      | .ok _ => return store
      | .error e => if isSuppressed e then return store else throw e

/-- A backfill that returns leaves its store as that of the process. -/
theorem getStore_ok {readers : CellReaders} {path : Py CsvRows} {observed : ℕ}
    {store : GraphStore}
    (h : Effect.exec (backfillFromCsv readers path) {} = (.ok observed, store)) :
    Effect.exec (getStore readers (some path)) none = (.ok store, some store) := by
  rw [getStore, Effect.exec_bind_ok (Effect.exec_get none)]
  dsimp only
  rw [h]
  rfl

/-- A backfill that raises leaves what it loaded, whether or not the raise gets through. -/
theorem getStore_error {readers : CellReaders} {path : Py CsvRows} {e : PyErr}
    {store : GraphStore}
    (h : Effect.exec (backfillFromCsv readers path) {} = (.error e, store)) :
    Effect.exec (getStore readers (some path)) none =
      (if isSuppressed e then .ok store else .error e, some store) := by
  rw [getStore, Effect.exec_bind_ok (Effect.exec_get none)]
  dsimp only
  rw [h]
  dsimp only
  cases hsuppressed : isSuppressed e with
  | true => rfl
  | false => rfl

/-- The rows that can be read, blank ones apart. -/
def csvRecords (fieldnames : List String) (rows : CsvRows) : List CsvRecord :=
  ((rows.filterMap Except.toOption).filter (fun cells => cells ≠ [])).map (csvRecord fieldnames)

namespace CellReaders

variable (readers : CellReaders) {fieldnames : List String} {rest : CsvRows}

/-- The timestamp parses. -/
def isDated (row : CsvRecord) : Bool := (readers.timestampOf row).isSome

/-- The customer number is an integer, and there is a merchant. -/
def isAttributed (row : CsvRecord) : Bool :=
  (readers.intOf (getCell row "cc_num")).toOption.isSome &&
    (getCell row "merchant").any (fun merchant => merchant ≠ "")

/-- The transaction of a row, where it has one. -/
def transaction? (row : CsvRecord) : Option ObservedTransaction :=
  (readers.transactionOf row).toOption.join

/-- What a seed is to hold: the first transaction of each id, of the rows whose timestamp
parses, whose customer number is an integer and that name a merchant. -/
def seedTransactions (fieldnames : List String) (rows : CsvRows) : List ObservedTransaction :=
  firstPerKey ObservedTransaction.transactionId
    ((((csvRecords fieldnames rows).filter readers.isDated).filter readers.isAttributed).filterMap
      readers.transaction?)

theorem transactionOf_undated {row : CsvRecord} (h : readers.isDated row = false) :
    readers.transactionOf row = .ok none := by
  rw [isDated, Option.isSome_eq_false_iff, Option.isNone_iff_eq_none] at h
  rw [transactionOf, h]
  rfl

/-- A row with a timestamp loads where its customer number is an integer. -/
theorem transactionOf_dated {row : CsvRecord} (h : readers.isDated row = true) :
    (∃ e, readers.intOf (getCell row "cc_num") = .error e ∧
        readers.transactionOf row = .error e) ∨
      (readers.intOf (getCell row "cc_num")).toOption.isSome = true ∧
        ∃ tx, readers.transactionOf row = .ok (some tx) ∧
          tx.transactionId = cellText (getCell row "transaction_id") := by
  obtain ⟨timestamp, htimestamp⟩ := Option.isSome_iff_exists.mp h
  rw [transactionOf, htimestamp]
  cases hint : readers.intOf (getCell row "cc_num") with
  | error e => exact Or.inl ⟨e, rfl, rfl⟩
  | ok ccNum => exact Or.inr ⟨rfl, _, rfl, rfl⟩

end CellReaders

section Rows

variable {readers : CellReaders} {header : List String} {rest rows : CsvRows}

theorem csvRecords_blank : csvRecords header (.ok [] :: rest) = csvRecords header rest := rfl

theorem csvRecords_cells {cells : List String} (h : cells ≠ []) :
    csvRecords header (.ok cells :: rest) = csvRecord header cells :: csvRecords header rest := by
  simp [csvRecords, Except.toOption, h]

variable {cells : List String} {observed : ℕ} {store : GraphStore}

theorem observeRows_raises (hcells : cells ≠ []) {e : PyErr}
    (h : readers.transactionOf (csvRecord header cells) = .error e) :
    Effect.exec (observeRows readers header none (.ok cells :: rest) observed) store =
      (.error e, store) := by
  rw [observeRows, Effect.exec_bind_ok (Effect.exec_lift _ _), if_neg hcells, h]
  rfl

theorem observeRows_skips (hcells : cells ≠ [])
    (h : readers.transactionOf (csvRecord header cells) = .ok none) :
    Effect.exec (observeRows readers header none (.ok cells :: rest) observed) store =
      Effect.exec (observeRows readers header none rest observed) store := by
  rw [observeRows, Effect.exec_bind_ok (Effect.exec_lift _ _), if_neg hcells, h]
  rfl

theorem observeRows_observes (hcells : cells ≠ []) {tx : ObservedTransaction}
    (h : readers.transactionOf (csvRecord header cells) = .ok (some tx)) :
    Effect.exec (observeRows readers header none (.ok cells :: rest) observed) store =
      Effect.exec (observeRows readers header none rest (observed + 1)) (store.observe tx) := by
  rw [observeRows, Effect.exec_bind_ok (Effect.exec_lift _ _), if_neg hcells, h]
  rfl

/-- Every row is read, and none of them raises. -/
def AllLoad (readers : CellReaders) (header : List String) (rows : CsvRows) : Prop :=
  (∀ row ∈ rows, ∃ cells, row = .ok cells) ∧
    ∀ record ∈ csvRecords header rows, ∃ found, readers.transactionOf record = .ok found

/-- The transactions of all rows that load, in their order. -/
def loaded (readers : CellReaders) (header : List String) (rows : CsvRows) :
    List ObservedTransaction :=
  (csvRecords header rows).filterMap readers.transaction?

theorem allLoad_nil : AllLoad readers header [] := by
  constructor
  · intro row hrow
    cases hrow
  · intro record hrecord
    cases hrecord

theorem not_allLoad_raise (e : PyErr) : ¬ AllLoad readers header (.error e :: rest) := by
  intro h
  obtain ⟨cells, hcells⟩ := h.1 _ List.mem_cons_self
  cases hcells

theorem allLoad_blank :
    AllLoad readers header (.ok [] :: rest) ↔ AllLoad readers header rest := by
  unfold AllLoad
  rw [csvRecords_blank, List.forall_mem_cons]
  exact and_congr_left fun _ => and_iff_right ⟨[], rfl⟩

theorem allLoad_cells (hcells : cells ≠ []) :
    AllLoad readers header (.ok cells :: rest) ↔
      (∃ found, readers.transactionOf (csvRecord header cells) = .ok found) ∧
        AllLoad readers header rest := by
  unfold AllLoad
  rw [csvRecords_cells hcells, List.forall_mem_cons, List.forall_mem_cons]
  constructor
  · intro h
    exact ⟨h.2.1, h.1.2, h.2.2⟩
  · intro h
    exact ⟨⟨⟨cells, rfl⟩, h.2.1⟩, h.1, h.2.2⟩

theorem loaded_skips (hcells : cells ≠ [])
    (h : readers.transactionOf (csvRecord header cells) = .ok none) :
    loaded readers header (.ok cells :: rest) = loaded readers header rest := by
  have hnone : readers.transaction? (csvRecord header cells) = none := by
    rw [CellReaders.transaction?, h]
    rfl
  rw [loaded, csvRecords_cells hcells, List.filterMap_cons_none hnone]
  rfl

theorem loaded_observes (hcells : cells ≠ []) {tx : ObservedTransaction}
    (h : readers.transactionOf (csvRecord header cells) = .ok (some tx)) :
    loaded readers header (.ok cells :: rest) = tx :: loaded readers header rest := by
  have hsome : readers.transaction? (csvRecord header cells) = some tx := by
    rw [CellReaders.transaction?, h]
    rfl
  rw [loaded, csvRecords_cells hcells, List.filterMap_cons_some hsome]
  rfl

/-- Where every row loads, the loop returns and has observed all of them. -/
theorem observeRows_ok (h : AllLoad readers header rows) (observed : ℕ) (store : GraphStore) :
    Effect.exec (observeRows readers header none rows observed) store =
      (.ok (observed + (loaded readers header rows).length),
        (loaded readers header rows).foldl GraphStore.observe store) := by
  induction rows generalizing observed store with
  | nil => rfl
  | cons row rest ih =>
    cases row with
    | error e => exact absurd h (not_allLoad_raise e)
    | ok cells =>
      by_cases hcells : cells = []
      · subst hcells
        exact ih (allLoad_blank.mp h) observed store
      · obtain ⟨⟨found, hfound⟩, hrest⟩ := (allLoad_cells hcells).mp h
        cases found with
        | none =>
          rw [observeRows_skips hcells hfound, loaded_skips hcells hfound]
          exact ih hrest observed store
        | some tx =>
          rw [observeRows_observes hcells hfound, loaded_observes hcells hfound,
            ih hrest, List.length_cons, List.foldl_cons, Nat.add_right_comm, Nat.add_assoc]

/-- A row that raises ends the loop, whatever comes after it. -/
theorem allLoad_of_observeRows_ok {observed count : ℕ} {store left : GraphStore}
    (h : Effect.exec (observeRows readers header none rows observed) store = (.ok count, left)) :
    AllLoad readers header rows := by
  induction rows generalizing observed store with
  | nil => exact allLoad_nil
  | cons row rest ih =>
    cases row with
    | error e => cases h
    | ok cells =>
      by_cases hcells : cells = []
      · subst hcells
        exact allLoad_blank.mpr (ih h)
      · rw [allLoad_cells hcells]
        cases hfound : readers.transactionOf (csvRecord header cells) with
        | error e =>
          rw [observeRows_raises hcells hfound] at h
          cases h
        | ok found =>
          refine ⟨⟨found, rfl⟩, ?_⟩
          cases found with
          | none =>
            rw [observeRows_skips hcells hfound] at h
            exact ih h
          | some tx =>
            rw [observeRows_observes hcells hfound] at h
            exact ih h

end Rows

namespace GraphStore

theorem knows_observe_new {store : GraphStore} {tx : ObservedTransaction}
    (h : store.knows tx.transactionId = false) (id : String) :
    (store.observe tx).knows id = (store.knows id || decide (tx.transactionId = id)) := by
  rw [knows, observe_new h, List.any_append]
  simp [knows]

/-- Observing records the first transaction of each id that is not known yet. -/
theorem txns_foldl_observe (store : GraphStore) (txs : List ObservedTransaction) :
    (txs.foldl observe store).txns = store.txns ++
      (firstPerKey ObservedTransaction.transactionId txs).filter
        (fun tx => !store.knows tx.transactionId) := by
  induction txs generalizing store with
  | nil => exact (List.append_nil _).symm
  | cons tx rest ih =>
    rw [List.foldl_cons, ih, firstPerKey]
    cases hknown : store.knows tx.transactionId with
    | true =>
      rw [observe_known hknown, List.filter_cons_of_neg (by simp [hknown]), List.filter_filter]
      congr 1
      apply List.filter_congr
      intro other _
      by_cases hid : other.transactionId = tx.transactionId
      · simp [hid, hknown]
      · simp [hid]
    | false =>
      rw [observe_new hknown, List.filter_cons_of_pos (by simp [hknown]), List.filter_filter,
        List.append_assoc, List.singleton_append]
      congr 2
      apply List.filter_congr
      intro other _
      rw [knows_observe_new hknown]
      simp [eq_comm]

theorem txns_observing (txs : List ObservedTransaction) :
    (observing txs).txns = firstPerKey ObservedTransaction.transactionId txs := by
  rw [observing, txns_foldl_observe]
  exact List.filter_eq_self.mpr fun _ _ => rfl

end GraphStore

/-- `str(row["transaction_id"])`. -/
def idOf (row : CsvRecord) : String := cellText (getCell row "transaction_id")

/-- The backfill and the first access to the store load the whole seed, and the backfill
returns the number of transactions it added. -/
structure LoadsSeed (readers : CellReaders) (header : List String) (rows : CsvRows) : Prop where
  backfilled : ∃ observed store,
    Effect.exec (backfillFromCsv readers (.ok (.ok header :: rows))) {} = (.ok observed, store) ∧
      store.txns = readers.seedTransactions header rows ∧ observed = store.txns.length
  seeded : ∃ store,
    Effect.exec (getStore readers (some (.ok (.ok header :: rows)))) none =
        (.ok store, some store) ∧
      store.txns = readers.seedTransactions header rows

/-- Every row can be read; whatever has a timestamp has a customer number and a merchant too,
and an id of its own. -/
structure CleanSeed (readers : CellReaders) (header : List String) (rows : CsvRows) : Prop where
  readable : ∀ row ∈ rows, ∃ cells, row = .ok cells
  attributed : ∀ record ∈ csvRecords header rows,
    readers.isDated record = true → readers.isAttributed record = true
  distinct : (((csvRecords header rows).filter readers.isDated).map idOf).Nodup

section Records

variable {readers : CellReaders} {header : List String} {rows : CsvRows}
  {records : List CsvRecord}

theorem transactionOf_attributed {row : CsvRecord}
    (h : readers.isDated row = true → readers.isAttributed row = true) :
    ∃ found, readers.transactionOf row = .ok found := by
  cases hdated : readers.isDated row with
  | false => exact ⟨none, readers.transactionOf_undated hdated⟩
  | true =>
    have hint := (Bool.and_eq_true_iff.mp (h hdated)).1
    rcases readers.transactionOf_dated hdated with ⟨e, herror, -⟩ | ⟨-, tx, htx, -⟩
    · rw [herror] at hint
      cases hint
    · exact ⟨some tx, htx⟩

/-- The rows that have a transaction are those with a timestamp. -/
theorem map_transactionId_filterMap
    (h : ∀ record ∈ records, ∃ found, readers.transactionOf record = .ok found) :
    (records.filterMap readers.transaction?).map ObservedTransaction.transactionId =
      (records.filter readers.isDated).map idOf := by
  induction records with
  | nil => rfl
  | cons record rest ih =>
    obtain ⟨hrecord, hrest⟩ := List.forall_mem_cons.mp h
    cases hdated : readers.isDated record with
    | false =>
      have hnone : readers.transaction? record = none := by
        rw [CellReaders.transaction?, readers.transactionOf_undated hdated]
        rfl
      rw [List.filterMap_cons_none hnone, List.filter_cons_of_neg (by simp [hdated]), ih hrest]
    | true =>
      obtain ⟨found, hfound⟩ := hrecord
      rcases readers.transactionOf_dated hdated with ⟨e, -, herror⟩ | ⟨-, tx, htx, hid⟩
      · rw [hfound] at herror
        cases herror
      · have hsome : readers.transaction? record = some tx := by
          rw [CellReaders.transaction?, htx]
          rfl
        rw [List.filterMap_cons_some hsome, List.filter_cons_of_pos hdated, List.map_cons,
          List.map_cons, ih hrest, hid, idOf]

theorem filterMap_filter_dated :
    (records.filter readers.isDated).filterMap readers.transaction? =
      records.filterMap readers.transaction? := by
  rw [List.filterMap_filter]
  apply List.filterMap_congr
  intro record _
  cases hdated : readers.isDated record with
  | true => rfl
  | false =>
    rw [CellReaders.transaction?, readers.transactionOf_undated hdated]
    rfl

theorem length_loaded (h : AllLoad readers header rows) :
    (loaded readers header rows).length =
      ((csvRecords header rows).filter readers.isDated).length := by
  have hids := congrArg List.length (map_transactionId_filterMap h.2)
  rwa [List.length_map, List.length_map] at hids

/-- Only rows with a timestamp, a customer number and a merchant are to be held. -/
theorem length_seedTransactions_le (readers : CellReaders) (header : List String)
    (rows : CsvRows) : (readers.seedTransactions header rows).length ≤
      (((csvRecords header rows).filter readers.isDated).filter readers.isAttributed).length :=
  (firstPerKey_sublist _ _).length_le.trans (List.length_filterMap_le _ _)

theorem seedTransactions_of_attributed (h : ∀ record ∈ csvRecords header rows,
    readers.isDated record = true → readers.isAttributed record = true) :
    readers.seedTransactions header rows =
      firstPerKey ObservedTransaction.transactionId (loaded readers header rows) := by
  have hall : ((csvRecords header rows).filter readers.isDated).filter readers.isAttributed =
      (csvRecords header rows).filter readers.isDated := by
    rw [List.filter_eq_self]
    intro record hrecord
    exact h record (List.mem_filter.mp hrecord).1 (List.mem_filter.mp hrecord).2
  rw [CellReaders.seedTransactions, hall, filterMap_filter_dated, loaded]

end Records

theorem backfillFromCsv_eq (readers : CellReaders) {header : List String} (rows : CsvRows)
    (hcolumns : ∀ column ∈ requiredBackfillColumns, column ∈ header) (store : GraphStore) :
    Effect.exec (backfillFromCsv readers (.ok (.ok header :: rows))) store =
      Effect.exec (observeRows readers header none rows 0) store := by
  have hmissing : requiredBackfillColumns.filter (fun column => column ∉ header) = [] := by
    rw [List.filter_eq_nil_iff]
    intro column hcolumn
    rw [decide_eq_true_eq]
    exact not_not.mpr (hcolumns column hcolumn)
  have hheader : Effect.exec (liftM (fieldnames (.ok header :: rows))) store =
      (.ok header, store) := rfl
  rw [backfillFromCsv, Effect.exec_bind_ok (Effect.exec_lift _ _), Effect.exec_bind_ok hheader]
  dsimp only
  rw [hmissing]
  rfl

/-- A CSV with the required columns loads whole exactly where every row can be read and every
row with a timestamp has a customer number, a merchant and an id of its own. -/
theorem loadsSeed_iff_clean (readers : CellReaders) {header : List String} (rows : CsvRows)
    (hcolumns : ∀ column ∈ requiredBackfillColumns, column ∈ header) :
    LoadsSeed readers header rows ↔ CleanSeed readers header rows := by
  have hrun := backfillFromCsv_eq readers rows hcolumns {}
  constructor
  · intro h
    obtain ⟨observed, store, hexec, htxns, hobserved⟩ := h.backfilled
    rw [hrun] at hexec
    have hload := allLoad_of_observeRows_ok hexec
    rw [observeRows_ok hload, Prod.mk.injEq, Nat.zero_add] at hexec
    have hcount : (loaded readers header rows).length = observed := Except.ok.inj hexec.1
    have hstore : store = GraphStore.observing (loaded readers header rows) := hexec.2.symm
    rw [hstore, GraphStore.txns_observing] at htxns hobserved
    rw [← hcount] at hobserved
    -- the seed is no longer than the rows it is taken from, and the count is of all rows dated
    have hfew := length_seedTransactions_le readers header rows
    rw [← htxns, ← hobserved, length_loaded hload] at hfew
    have hall := List.length_filter_eq_length_iff.mp (hfew.antisymm' (List.length_filter_le _ _))
    refine ⟨hload.1, ?_, ?_⟩
    · intro record hrecord hdated
      exact hall record (List.mem_filter.mpr ⟨hrecord, hdated⟩)
    · rw [← map_transactionId_filterMap hload.2]
      exact length_firstPerKey_eq_iff.mp hobserved.symm
  · intro h
    have hload : AllLoad readers header rows :=
      ⟨h.readable, fun record hrecord => transactionOf_attributed (h.attributed record hrecord)⟩
    have hids : ((loaded readers header rows).map ObservedTransaction.transactionId).Nodup := by
      rw [loaded, map_transactionId_filterMap hload.2]
      exact h.distinct
    have hseed := (GraphStore.txns_observing (loaded readers header rows)).trans
      (seedTransactions_of_attributed h.attributed).symm
    rw [observeRows_ok hload, Nat.zero_add] at hrun
    refine ⟨⟨_, _, hrun, hseed, ?_⟩, ⟨_, getStore_ok hrun, hseed⟩⟩
    exact ((congrArg List.length (GraphStore.txns_observing _)).trans
      (length_firstPerKey_eq_iff.mpr hids)).symm

/-- Readers that know a few texts. -/
def plainReaders : CellReaders where
  int text :=
    if text = "1" then .ok 1
    else if text = "2" then .ok 2
    else .error ("invalid literal for int() with base 10: '" ++ text ++ "'")
  float _ := none
  fromisoformat text :=
    if text = "2021-07-30T12:00:00+00:00" then some (.atHour true 738000 12) else none

/-- Two rows of a market, and between them one whose customer number is not a number. -/
def malformedSeed : CsvRows :=
  [.ok ["tx-1", "1", "market", "2021-07-30T12:00:00Z"],
    .ok ["tx-2", "abc", "market", "2021-07-30T12:00:00Z"],
    .ok ["tx-3", "2", "market", "2021-07-30T12:00:00Z"]]

theorem loadsSeed_iff_clean_malformed :
    LoadsSeed plainReaders requiredBackfillColumns malformedSeed ↔
      CleanSeed plainReaders requiredBackfillColumns malformedSeed :=
  loadsSeed_iff_clean plainReaders malformedSeed fun _ hcolumn => hcolumn

def firstSeeded : ObservedTransaction where
  transactionId := "tx-1"
  ccNum := 1
  merchant := "market"
  amount := 0
  timestamp := .atHour true 738000 12

theorem backfillFromCsv_malformed :
    Effect.exec (backfillFromCsv plainReaders
        (.ok (.ok requiredBackfillColumns :: malformedSeed))) {} =
      (.error (.valueError "invalid literal for int() with base 10: 'abc'"),
        GraphStore.observing [firstSeeded]) := by
  have hfirst : plainReaders.transactionOf (csvRecord requiredBackfillColumns
      ["tx-1", "1", "market", "2021-07-30T12:00:00Z"]) = .ok (some firstSeeded) := by decide
  have hsecond : plainReaders.transactionOf (csvRecord requiredBackfillColumns
      ["tx-2", "abc", "market", "2021-07-30T12:00:00Z"]) =
        .error (.valueError "invalid literal for int() with base 10: 'abc'") := by decide
  rw [backfillFromCsv_eq plainReaders malformedSeed fun _ hcolumn => hcolumn, malformedSeed,
    observeRows_observes (List.cons_ne_nil _ _) hfirst,
    observeRows_raises (List.cons_ne_nil _ _) hsecond]
  rfl

/-- The backfill raises on the second row. The first access to the store swallows that, and
the process goes on with one transaction of two. -/
theorem not_loadsSeed_malformed :
    ¬ LoadsSeed plainReaders requiredBackfillColumns malformedSeed ∧
      (plainReaders.seedTransactions requiredBackfillColumns malformedSeed).length = 2 ∧
      Effect.exec (getStore plainReaders
          (some (.ok (.ok requiredBackfillColumns :: malformedSeed)))) none =
        (.ok (GraphStore.observing [firstSeeded]), some (GraphStore.observing [firstSeeded])) := by
  refine ⟨?_, by decide, getStore_error backfillFromCsv_malformed⟩
  intro h
  obtain ⟨observed, store, hexec, -⟩ := h.backfilled
  rw [backfillFromCsv_malformed] at hexec
  cases hexec

end VeriPay.GraphEngine
