import Kanaval.Utils

namespace Kanaval.Pca
set_option autoImplicit true

/-- Modelled from the spec: `check_block_method(method, version)` (misc.hpp is not under src/),
which accepts `none`, `regress` or `mnn`. The version is passed as `pca.hpp` passes it; the spec
names one set for every version from 1.1, where the code calls it, and its message is not in
src/. -/
def checkBlockMethod (method : String) (_version : Int) : Result Unit :=
  if method ∈ ["none", "regress", "mnn"] then .ok ()
  else throwRuntime ("unknown 'block_method' value '" ++ method ++ "'")

/-- Modelled from the spec: `check_pca_contents` (misc.hpp is not under src/). `pcs` is a
float matrix with one row per cell whose column count, the observed number of PCs, is at most
`max_pcs`; `var_exp` holds one value per observed PC. Returns the observed count. -/
def checkPcaContents (rhandle : Node) (maxPcs numCells : CInt) : Result CInt := do
  let pcs ← checkAndOpenDataset rhandle "pcs" .float
  match pcs.dims with
  | [cells, obs] =>
    if cells = numCells.toSize ∧ (obs : Int) ≤ maxPcs.val then do
      let _ ← checkAndOpenDatasetDims rhandle "var_exp" .float [obs]
      .ok (CInt.wrap obs)
    else .error (.thrown (.shapeMismatch "pcs"))
  | _ => .error (.thrown (.shapeMismatch "pcs"))

/-- `block_method`, read and checked since version 1.1, and empty before. -/
def loadBlockMethod (phandle : Node) (version : Int) : Result String :=
  if 1001000 ≤ version then do
    let method ← loadString phandle "block_method"
    checkBlockMethod method version
    .ok method
  else .ok ""

/-- Positive `num_hvgs` and `num_pcs`, and the block method; returns the requested number of
PCs with the method. -/
def validateParameters (handle : Node) (version : Int) : Result (CInt × String) := do
  let phandle ← checkAndOpenGroup handle "parameters"
  let nhvgs ← loadIntegerScalar CInt.clamp phandle "num_hvgs"
  if nhvgs.val ≤ 0 then throwRuntime "number of HVGs must be positive in 'num_hvgs'"
  let npcs ← loadIntegerScalar CInt.clamp phandle "num_pcs"
  if npcs.val ≤ 0 then throwRuntime "number of PCs must be positive in 'num_pcs'"
  let method ← loadBlockMethod phandle version
  .ok (npcs, method)

/-- The MNN-corrected PCs, kept between versions 1.1 and 2.0 with the shape of `pcs`. -/
def checkCorrected (rhandle : Node) (blockMethod : String) (numCells obsPcs : CInt)
    (version : Int) : Result Unit :=
  if 1001000 ≤ version ∧ version < 2000000 ∧ blockMethod = "mnn" then do
    let _ ← checkAndOpenDatasetDims rhandle "corrected" .float [numCells.toSize, obsPcs.toSize]
  else .ok ()

def validateResults (handle : Node) (maxPcs : CInt) (blockMethod : String) (numCells : CInt)
    (version : Int) : Result CInt := do
  let rhandle ← checkAndOpenGroup handle "results"
  let obsPcs ← checkPcaContents rhandle maxPcs numCells
  checkCorrected rhandle blockMethod numCells obsPcs version
  .ok obsPcs

/-- `pca::validate`: returns the observed number of PCs. -/
def validate (handle : Node) (numCells : CInt) (version : Int := 1001000) : Result CInt := do
  let phandle ← checkAndOpenGroup handle "pca"
  let pout ← combineErrors "failed to retrieve parameters from 'pca'"
    (validateParameters phandle version)
  combineErrors "failed to retrieve results from 'pca'"
    (validateResults phandle pout.1 pout.2 numCells version)

end Kanaval.Pca
