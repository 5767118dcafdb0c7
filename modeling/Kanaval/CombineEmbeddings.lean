import Kanaval.Utils

namespace Kanaval.CombineEmbeddings
set_option autoImplicit true

/-- An integer `approximate` flag, and a `weights` group that, when it has any child, holds a
float scalar for every modality. -/
def validateParameters (handle : Node) (modalities : List String) : Result Unit := do
  let phandle ← checkAndOpenGroup handle "parameters"
  let _ ← checkAndOpenScalar phandle "approximate" .integer
  let whandle ← checkAndOpenGroup phandle "weights"
  if whandle.getNumObjs ≠ 0 then
    modalities.forM fun m => do
      let _ ← checkAndOpenScalar whandle m .float
  else .ok ()

/-- The `combined` embedding, one row per cell, needed only with several modalities. -/
def validateResults (handle : Node) (numCells : CInt) (modalities : List String)
    (totalDims : CInt) : Result Unit := do
  let rhandle ← checkAndOpenGroup handle "results"
  if 1 < modalities.length then
    let _ ← checkAndOpenDatasetDims rhandle "combined" .float [numCells.toSize, totalDims.toSize]
  else .ok ()

/-- `combine_embeddings::validate`: nothing before version 2.0. -/
def validate (handle : Node) (numCells : CInt) (modalities : List String) (totalDims : CInt)
    (version : Int) : Result Unit :=
  if version < 2000000 then .ok ()
  else do
    let phandle ← checkAndOpenGroup handle "combine_embeddings"
    combineErrors "failed to retrieve parameters from 'combine_embeddings'"
      (validateParameters phandle modalities)
    combineErrors "failed to retrieve results from 'combine_embeddings'"
      (validateResults phandle numCells modalities totalDims)

section Spec

variable {handle phandle : Node} {numCells totalDims : CInt} {modalities : List String}

theorem validateParameters_eq_ok : validateParameters phandle modalities = .ok () ↔
    ∃ params whandle, checkAndOpenGroup phandle "parameters" = .ok params ∧
      (∃ d, checkAndOpenScalar params "approximate" .integer = .ok d) ∧
      checkAndOpenGroup params "weights" = .ok whandle ∧
      (whandle.getNumObjs ≠ 0 →
        ∀ m ∈ modalities, ∃ d, checkAndOpenScalar whandle m .float = .ok d) := by
  simp only [validateParameters, bind_eq_ok, ite_ok_eq_ok, forM_eq_ok, pure_eq_ok, and_true,
    exists_and_left, exists_and_right]

theorem validateResults_eq_ok : validateResults phandle numCells modalities totalDims = .ok () ↔
    ∃ rhandle, checkAndOpenGroup phandle "results" = .ok rhandle ∧
      (1 < modalities.length → ∃ d, checkAndOpenDatasetDims rhandle "combined" .float
        [numCells.toSize, totalDims.toSize] = .ok d) := by
  simp only [validateResults, bind_eq_ok, ite_ok_eq_ok, pure_eq_ok, and_true]

end Spec

end Kanaval.CombineEmbeddings
