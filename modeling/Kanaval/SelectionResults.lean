import Mathlib.Data.List.Perm.Subperm
import Kanaval.CustomSelections
import Kanaval.Inputs.Details

namespace Kanaval.CustomSelections
set_option autoImplicit true

def statistics : List String := ["means", "detected"] ++ effects

/-- Every statistic is a float dataset of the given dimensions. -/
def StatisticsPresent (shandle : Node) (dims : List Nat) : Prop :=
  ∀ stat ∈ statistics, ∃ d, checkAndOpenDatasetDims shandle stat .float dims = .ok d

/-- The selections: the children of `parameters/selections`, each a one-dimensional integer
dataset whose stored indices all lie in `[0, num_cells)`. -/
def SelectionsInRange (mhandle : Node) (numCells : CInt) (selections : List String) : Prop :=
  ∃ phandle shandle, checkAndOpenGroup mhandle "parameters" = .ok phandle ∧
    checkAndOpenGroup phandle "selections" = .ok shandle ∧ shandle.names = selections ∧
    ∀ name ∈ selections, ∃ d, shandle.child? name = some (.dataset d) ∧
      d.data.typeClass = .integer ∧ d.dims.length = 1 ∧ ∀ i ∈ d.integers, 0 ≤ i ∧ i < numCells.val

def resultGroup (version : Int) : String :=
  if 2000000 ≤ version then "per_selection" else "markers"

/-- A selection's result group: since 2.0 a child per modality whose statistics have one entry
per feature of that modality, before 2.0 the statistics sized to `num_features[0]`. -/
def SelectionStatistics (version : Int) (modalities : List String) (numFeatures : List CInt)
    (shandle : Node) : Prop :=
  if 2000000 ≤ version then
    ∀ a (ha : a < modalities.length), ∃ ahandle,
      checkAndOpenGroup shandle modalities[a] = .ok ahandle ∧
      StatisticsPresent ahandle [(numFeatures.getD a 0).toSize]
  else StatisticsPresent shandle [(numFeatures.getD 0 0).toSize]

/-- What `custom_selections` must hold: selections of cells, a result group whose children are
exactly the selections, and every selection's statistics. -/
def CustomSelectionsValid (handle : Node) (numCells : CInt) (modalities : List String)
    (numFeatures : List CInt) (version : Int) : Prop :=
  ∃ mhandle selections rhandle rg, checkAndOpenGroup handle "custom_selections" = .ok mhandle ∧
    SelectionsInRange mhandle numCells selections ∧
    checkAndOpenGroup mhandle "results" = .ok rhandle ∧
    checkAndOpenGroup rhandle (resultGroup version) = .ok rg ∧ rg.names.Perm selections ∧
    ∀ s ∈ selections, ∃ shandle, checkAndOpenGroup rg s = .ok shandle ∧
      SelectionStatistics version modalities numFeatures shandle

section Spec

variable {handle mhandle shandle : Node} {numCells : CInt} {selections modalities : List String}
  {numFeatures : List CInt}

theorem openStatistic_eq_ok :
    openStatistic shandle dims name = .ok () ↔
      ∃ d, checkAndOpenDatasetDims shandle name .float dims = .ok d := by
  simp only [openStatistic, bind_eq_ok, pure_eq_ok, and_true]

theorem validateCustomMarkers_eq_ok :
    validateCustomMarkers shandle n = .ok () ↔ StatisticsPresent shandle [n.toSize] := by
  simp only [validateCustomMarkers, bind_eq_ok, exists_punit, forM_eq_ok, openStatistic_eq_ok,
    StatisticsPresent, statistics, List.cons_append, List.nil_append, List.forall_mem_cons]

theorem loadIntegerVector_cells_iff :
    (∃ idx, loadIntegerVector shandle name = .ok idx ∧
      ∀ i ∈ idx, 0 ≤ i.val ∧ i.val < numCells.val) ↔
    ∃ d, shandle.child? name = some (.dataset d) ∧ d.data.typeClass = .integer ∧
      d.dims.length = 1 ∧ ∀ i ∈ d.integers, 0 ≤ i ∧ i < numCells.val := by
  simp only [loadIntegerVector_eq_ok]
  constructor
  · rintro ⟨_, ⟨d, h1, h2, h3, rfl⟩, hin⟩
    exact ⟨d, h1, h2, h3, fun i hi =>
      (CInt.clamp_mem_range_iff numCells.lt).1 (hin _ (List.mem_map_of_mem _ hi))⟩
  · rintro ⟨d, h1, h2, h3, hin⟩
    refine ⟨_, ⟨d, h1, h2, h3, rfl⟩, ?_⟩
    simpa only [List.forall_mem_map, CInt.clamp_mem_range_iff numCells.lt] using hin

theorem validateParameters_eq_ok : validateParameters mhandle numCells = .ok selections ↔
    SelectionsInRange mhandle numCells selections := by
  simp only [validateParameters, bind_eq_ok, exists_punit, forM_eq_ok, Except.ok.injEq,
    ite_throwRuntime_eq_ok, pure_eq_ok, and_true, List.any_eq_true, decide_eq_true_eq,
    not_exists, not_and, not_or, not_lt, not_le, loadIntegerVector_cells_iff, SelectionsInRange,
    exists_and_left]
  refine exists_congr fun phandle => and_congr_right fun _ => exists_congr fun shandle =>
    and_congr_right fun _ => ⟨fun ⟨hall, h⟩ => ⟨h, h ▸ hall⟩, fun ⟨h, hall⟩ => ⟨h ▸ hall, h⟩⟩

theorem validateSelectionResults_eq_ok {check : Node → Result Unit} :
    validateSelectionResults handle group selections check = .ok () ↔
      ∃ rhandle rg, checkAndOpenGroup handle "results" = .ok rhandle ∧
        checkAndOpenGroup rhandle group = .ok rg ∧ rg.getNumObjs = selections.length ∧
        ∀ s ∈ selections, ∃ sh, checkAndOpenGroup rg s = .ok sh ∧ check sh = .ok () := by
  simp only [validateSelectionResults, bind_eq_ok, pure_bind, throwRuntime_bind,
    ite_throwRuntime_eq_ok, not_not, forM_eq_ok, combineErrors_eq_ok, exists_and_left]

theorem names_perm_iff {rg : Node} (hnd : selections.Nodup)
    (hsub : ∀ s ∈ selections, s ∈ rg.names) :
    rg.getNumObjs = selections.length ↔ rg.names.Perm selections := by
  have hlen : rg.getNumObjs = rg.names.length := by simp [Node.names, Node.getNumObjs]
  refine ⟨fun h => ((hnd.subperm hsub).perm_of_length_le (by omega)).symm, fun h => ?_⟩
  rw [hlen, h.length_eq]

theorem validateModality_eq_ok (ha : a < modalities.length) (hn : a < numFeatures.length) :
    validateModality shandle modalities numFeatures a = .ok () ↔
      ∃ ahandle, checkAndOpenGroup shandle modalities[a] = .ok ahandle ∧
        StatisticsPresent ahandle [(numFeatures.getD a 0).toSize] := by
  simp only [validateModality, elementAt_of_lt ha, elementAt_of_lt hn, ok_bind,
    combineErrors_eq_ok, bind_eq_ok, validateCustomMarkers_eq_ok, List.getD_eq_getElem?_getD,
    List.getElem?_eq_getElem hn, Option.getD_some]

theorem selectionCheck_eq_ok (hlen : modalities.length ≤ numFeatures.length)
    (hne : version < 2000000 → numFeatures ≠ []) :
    (if 2000000 ≤ version then
      validateResultsPerSelection mhandle selections modalities numFeatures
    else do
      let nf ← elementAt numFeatures 0
      validateResultsMarkers mhandle selections nf) = .ok () ↔
    ∃ rhandle rg, checkAndOpenGroup mhandle "results" = .ok rhandle ∧
      checkAndOpenGroup rhandle (resultGroup version) = .ok rg ∧
      rg.getNumObjs = selections.length ∧
      ∀ s ∈ selections, ∃ shandle, checkAndOpenGroup rg s = .ok shandle ∧
        SelectionStatistics version modalities numFeatures shandle := by
  split_ifs with hv
  · have hmods (shandle : Node) :
        (List.range modalities.length).forM (validateModality shandle modalities numFeatures) =
          .ok () ↔ SelectionStatistics version modalities numFeatures shandle := by
      simp only [forM_eq_ok, List.mem_range, SelectionStatistics, hv, if_true]
      exact forall_congr' fun a => forall_congr' fun ha =>
        validateModality_eq_ok ha (lt_of_lt_of_le ha hlen)
    simp only [validateResultsPerSelection, validateSelectionResults_eq_ok, hmods, resultGroup,
      hv, if_true]
  · have h0 : 0 < numFeatures.length := List.length_pos.2 (hne (by omega))
    simp only [elementAt_of_lt h0, ok_bind, validateResultsMarkers,
      validateSelectionResults_eq_ok, validateCustomMarkers_eq_ok, SelectionStatistics,
      resultGroup, hv, if_false, List.getD_eq_getElem?_getD, List.getElem?_eq_getElem h0,
      Option.getD_some]

theorem SelectionsInRange.nodup (hw : mhandle.WellFormed)
    (h : SelectionsInRange mhandle numCells selections) : selections.Nodup := by
  obtain ⟨phandle, shandle, hp, hs, rfl, -⟩ := h
  exact ((hw.child (checkAndOpenGroup_eq_ok.1 hp).1).child
    (checkAndOpenGroup_eq_ok.1 hs).1).names_nodup

theorem count_and_children_iff {rg : Node} {P : Node → Prop} (hnd : selections.Nodup) :
    (rg.getNumObjs = selections.length ∧
      ∀ s ∈ selections, ∃ shandle, checkAndOpenGroup rg s = .ok shandle ∧ P shandle) ↔
    (rg.names.Perm selections ∧
      ∀ s ∈ selections, ∃ shandle, checkAndOpenGroup rg s = .ok shandle ∧ P shandle) :=
  and_congr_left fun hall => names_perm_iff hnd fun s hs =>
    checkAndOpenGroup_mem_names (hall s hs).choose_spec.1

end Spec

section Validate

theorem validate_accepts_iff_valid (handle : Node) (hw : handle.WellFormed) (numCells : CInt)
    (modalities : List String) (numFeatures : List CInt) (version : Int)
    (hlen : modalities.length ≤ numFeatures.length) (hne : version < 2000000 → numFeatures ≠ []) :
    validate handle numCells modalities numFeatures version = .ok () ↔
      CustomSelectionsValid handle numCells modalities numFeatures version := by
  simp only [validate, bind_eq_ok, combineErrors_eq_ok, validateParameters_eq_ok,
    selectionCheck_eq_ok hlen hne, CustomSelectionsValid, exists_and_left]
  refine exists_congr fun mhandle => and_congr_right fun hm => exists_congr fun selections =>
    and_congr_right fun hsel => exists_congr fun _ => and_congr_right fun _ =>
    exists_congr fun _ => and_congr_right fun _ => count_and_children_iff ?_
  exact hsel.nodup (hw.child (checkAndOpenGroup_eq_ok.1 hm).1)

/-- On a well-formed file, with a feature count for every modality (and at least one before
2.0), `custom_selections::validate` accepts exactly the files whose selections hold cells,
whose result group has exactly the selections as children, and whose statistics have one
entry per feature, the count read through its cast to `size_t`. -/
theorem validate_eq_ok_iff (c : Container) (numCells : CInt) (modalities : List String)
    (numFeatures : List CInt) (version : Int) (hlen : modalities.length ≤ numFeatures.length)
    (hne : version < 2000000 → numFeatures ≠ []) :
    validate c.root numCells modalities numFeatures version = .ok () ↔
      CustomSelectionsValid c.root numCells modalities numFeatures version :=
  validate_accepts_iff_valid c.root c.wellFormed numCells modalities numFeatures version hlen hne

open Node in
def twoModalitySelection : Node :=
  .group [("custom_selections", .group [
    ("parameters", .group [("selections", .group [("s", intArray [0, 2])])]),
    ("results", .group [("per_selection", .group [("s", .group [
      ("ADT", .group (statistics.map fun stat => (stat, floatArray [2]))),
      ("RNA", .group (statistics.map fun stat => (stat, floatArray [3])))])])])])]

theorem validate_two_modality_selection :
    CustomSelectionsValid twoModalitySelection 5 ["ADT", "RNA"] [2, 3] 2000000 :=
  (validate_eq_ok_iff ⟨twoModalitySelection, by decide⟩ 5 ["ADT", "RNA"] [2, 3] 2000000
    (by decide) (by decide)).1 (by decide)

open Node in
def hugeStatisticsSelection : Node :=
  .group [("custom_selections", .group [
    ("parameters", .group [("selections", .group [("s", intArray [0])])]),
    ("results", .group [("markers", .group [("s", .group
      (statistics.map fun stat => (stat, floatArray [2^64 - 2])))])])])]

/-- A negative feature count is cast to `size_t`: with `num_features = [-2]` the validator
accepts statistics of `2^64 - 2` entries. -/
theorem validate_accepts_negative_feature_count :
    validate hugeStatisticsSelection 1 ["RNA"] [CInt.wrap (-2)] 1000000 = .ok () ∧
    (CInt.wrap (-2)).val = -2 := by
  decide

end Validate

section AfterInputs

/-- Handed the `Details` that `inputs::validate` read from the same file,
`custom_selections::validate` accepts exactly the files whose custom selections are valid
against them: the inputs validator meets every precondition of that characterization. -/
theorem validate_after_inputs (c : Container) (embedded : Bool) (version : Int)
    (d : Inputs.Details) (h : Inputs.validate c.root embedded version = .ok d) :
    validate c.root d.numCells d.modalities d.numFeatures version = .ok () ↔
      CustomSelectionsValid c.root d.numCells d.modalities d.numFeatures version :=
  validate_accepts_iff_valid c.root c.wellFormed _ _ _ _ (Inputs.validate_lengths h).1.ge fun _ =>
    Inputs.validate_numFeatures_ne_nil h

def twoModalityFile : Node :=
  .group (Inputs.twoModalityInputs.children ++ twoModalitySelection.children)

theorem validate_after_two_modality_inputs :
    Inputs.validate twoModalityFile false 2000000 = .ok ⟨["ADT", "RNA"], [2, 3], 5, 1⟩ ∧
    (validate twoModalityFile 5 ["ADT", "RNA"] [2, 3] 2000000 = .ok () ↔
      CustomSelectionsValid twoModalityFile 5 ["ADT", "RNA"] [2, 3] 2000000) :=
  ⟨by decide, validate_after_inputs ⟨twoModalityFile, by decide⟩ false 2000000
    ⟨["ADT", "RNA"], [2, 3], 5, 1⟩ (by decide)⟩

end AfterInputs

end Kanaval.CustomSelections
