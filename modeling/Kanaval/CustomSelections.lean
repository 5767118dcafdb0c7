import Kanaval.Utils

namespace Kanaval.CustomSelections
set_option autoImplicit true

/-- Modelled from the spec: `markers::effects` (misc.hpp is not under src/), the effect sizes
of the fixed statistic set after `means` and `detected`. -/
def effects : List String := ["lfc", "delta_detected", "cohen", "auc"]

/-- Each child of `parameters/selections` is an index vector with values in `[0, num_cells)`. -/
def validateParameters (handle : Node) (numCells : CInt) : Result (List String) := do
  let phandle ← checkAndOpenGroup handle "parameters"
  let shandle ← checkAndOpenGroup phandle "selections"
  shandle.names.forM fun name => do
    let involved ← loadIntegerVector shandle name
    if involved.any fun i => i.val < 0 ∨ numCells.val ≤ i.val then
      throwRuntime ("indices out of range for selection '" ++ name ++ "'")
  .ok shandle.names

def openStatistic (shandle : Node) (dims : List Nat) (name : String) : Result Unit := do
  let _ ← checkAndOpenDatasetDims shandle name .float dims

def validateCustomMarkers (shandle : Node) (numFeatures : CInt) : Result Unit := do
  let dims := [numFeatures.toSize]
  openStatistic shandle dims "means"
  openStatistic shandle dims "detected"
  effects.forM (openStatistic shandle dims)

/-- The shape both `validate_results` overloads share: `results/<group>` holds as many
children as there are selections, and each selection's child passes `check`. -/
def validateSelectionResults (handle : Node) (group : String) (selections : List String)
    (check : Node → Result Unit) : Result Unit := do
  let rhandle ← checkAndOpenGroup handle "results"
  let mhandle ← checkAndOpenGroup rhandle group
  if mhandle.getNumObjs ≠ selections.length then
    throwRuntime ("number of groups in '" ++ group ++
      "' is not consistent with the expected number of selections")
  selections.forM fun s =>
    combineErrors ("failed to retrieve statistics for selection '" ++ s ++ "' in 'results/" ++
      group ++ "'") do
      let shandle ← checkAndOpenGroup mhandle s
      check shandle

/-- `validate_results` for versions before 2.0: one `markers` group per selection. -/
def validateResultsMarkers (handle : Node) (selections : List String) (numFeatures : CInt) :
    Result Unit :=
  validateSelectionResults handle "markers" selections fun shandle =>
    validateCustomMarkers shandle numFeatures

/-- The statistics of modality `a` under a selection's `per_selection` group. -/
def validateModality (shandle : Node) (modalities : List String) (numFeatures : List CInt)
    (a : Nat) : Result Unit := do
  let modality ← elementAt modalities a
  combineErrors ("failed to retrieve statistics for modality '" ++ modality ++ "'") do
    let ahandle ← checkAndOpenGroup shandle modality
    let nf ← elementAt numFeatures a
    validateCustomMarkers ahandle nf

/-- `validate_results` since 2.0: one `per_selection` group per selection, one child per
modality. -/
def validateResultsPerSelection (handle : Node) (selections modalities : List String)
    (numFeatures : List CInt) : Result Unit :=
  validateSelectionResults handle "per_selection" selections fun shandle =>
    (List.range modalities.length).forM (validateModality shandle modalities numFeatures)

def validate (handle : Node) (numCells : CInt) (modalities : List String)
    (numFeatures : List CInt) (version : Int) : Result Unit := do
  let mhandle ← checkAndOpenGroup handle "custom_selections"
  let collected ← combineErrors "failed to retrieve parameters from 'custom_selections'"
    (validateParameters mhandle numCells)
  combineErrors "failed to retrieve results from 'custom_selections'"
    (if 2000000 ≤ version then validateResultsPerSelection mhandle collected modalities numFeatures
    else do
      let nf ← elementAt numFeatures 0
      validateResultsMarkers mhandle collected nf)

section InBounds

variable {handle : Node} {numCells : CInt} {modalities selections : List String}
  {numFeatures : List CInt}

theorem inBounds_validateParameters : InBounds (validateParameters handle numCells) :=
  inBounds_checkAndOpenGroup.bind fun _ _ => inBounds_checkAndOpenGroup.bind fun _ _ =>
    (inBounds_forM fun _ _ => inBounds_loadIntegerVector.bind fun _ _ => by
      split <;> trivial).bind fun _ _ => trivial

theorem inBounds_validateCustomMarkers : InBounds (validateCustomMarkers handle n) := by
  have hstat : ∀ dims name, InBounds (openStatistic handle dims name) := fun _ _ =>
    inBounds_checkAndOpenDatasetDims.bind fun _ _ => trivial
  exact (hstat _ _).bind fun _ _ => (hstat _ _).bind fun _ _ =>
    inBounds_forM fun _ _ => hstat _ _

theorem inBounds_validateSelectionResults {check : Node → Result Unit}
    (h : ∀ shandle, InBounds (check shandle)) :
    InBounds (validateSelectionResults handle group selections check) :=
  inBounds_checkAndOpenGroup.bind fun _ _ => inBounds_checkAndOpenGroup.bind fun _ _ => by
    simp only [inBounds_ite_throwRuntime, throwRuntime_bind, pure_bind]
    exact fun _ => inBounds_forM fun _ _ => by
      simp only [inBounds_combineErrors]
      exact inBounds_checkAndOpenGroup.bind fun _ _ => h _

theorem inBounds_validateModality (ha : a < modalities.length)
    (hn : a < numFeatures.length) : InBounds (validateModality handle modalities numFeatures a) :=
  (inBounds_elementAt ha).bind fun _ _ => by
    simp only [inBounds_combineErrors]
    exact inBounds_checkAndOpenGroup.bind fun _ _ =>
      (inBounds_elementAt hn).bind fun _ _ => inBounds_validateCustomMarkers

theorem inBounds_validate
    (hlen : 2000000 ≤ version → modalities.length ≤ numFeatures.length)
    (hne : version < 2000000 → numFeatures ≠ []) :
    InBounds (validate handle numCells modalities numFeatures version) := by
  refine inBounds_checkAndOpenGroup.bind fun _ _ => ?_
  refine (inBounds_combineErrors.2 inBounds_validateParameters).bind fun _ _ => ?_
  rw [inBounds_combineErrors]
  split_ifs with hv
  · exact inBounds_validateSelectionResults fun _ => inBounds_forM fun a ha =>
      inBounds_validateModality (List.mem_range.1 ha)
        (lt_of_lt_of_le (List.mem_range.1 ha) (hlen hv))
  · exact (inBounds_elementAt (List.length_pos.2 (hne (by omega)))).bind fun _ _ =>
      inBounds_validateSelectionResults fun _ => inBounds_validateCustomMarkers

end InBounds

end Kanaval.CustomSelections
