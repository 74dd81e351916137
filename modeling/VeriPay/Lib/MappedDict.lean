import VeriPay.Lib.PyDict

/-!
A dict read through a function of its values. Reading keeps the keys and their order and goes
along with lookups and sets, so two dicts that read as one stay so when both are set.
-/

namespace VeriPay.Lib.PyDict

variable {K V W : Type*}

theorem map_fst_map (f : V → W) (items : List (K × V)) :
    (items.map (Prod.map id f)).map Prod.fst = items.map Prod.fst := by
  rw [List.map_map]
  rfl

/-- `{key: f(value) for key, value in dict.items()}`. -/
def mapValues (f : V → W) (dict : PyDict K V) : PyDict K W where
  items := dict.items.map (Prod.map id f)
  nodup := by
    rw [map_fst_map]
    exact dict.nodup

theorem values_mapValues (f : V → W) (dict : PyDict K V) :
    (dict.mapValues f).values = dict.values.map f := by
  rw [values, values, mapValues, List.map_map, List.map_map]
  rfl

variable [DecidableEq K]

theorem get?_mapValues (f : V → W) (dict : PyDict K V) (key : K) :
    (dict.mapValues f).get? key = (dict.get? key).map f := by
  rw [get?, get?, mapValues, List.find?_map, Option.map_map, Option.map_map]
  rfl

theorem mapValues_set (f : V → W) (dict : PyDict K V) (key : K) (value : V) :
    (dict.set key value).mapValues f = (dict.mapValues f).set key (f value) := by
  have hitems : (setItems key value dict.items).map (Prod.map id f) =
      setItems key (f value) (dict.items.map (Prod.map id f)) := by
    unfold setItems
    rw [map_fst_map]
    split_ifs with hknown
    · rw [replaced, replaced, List.map_map, List.map_map]
      refine List.map_congr_left ?_
      intro item _
      by_cases h : item.1 = key
      · simp [h]
      · simp [h]
    · rw [List.map_append]
      rfl
  simp only [mapValues, set, hitems]

/-- Setting a key to what it has changes nothing. -/
theorem set_of_get? {dict : PyDict K V} {key : K} {value : V} (h : dict.get? key = some value) :
    dict.set key value = dict := by
  have hmem := (get?_eq_some_iff dict).mp h
  have hitems : setItems key value dict.items = dict.items := by
    rw [setItems, if_pos (List.mem_map_of_mem hmem), replaced]
    refine (List.map_congr_left ?_).trans (List.map_id dict.items)
    intro item hitem
    split_ifs with hkey
    · exact List.inj_on_of_nodup_map dict.nodup hmem hitem hkey.symm
    · rfl
  simp only [set, hitems]

end VeriPay.Lib.PyDict
