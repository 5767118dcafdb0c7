import Kanaval.Inputs.Parameters

namespace Kanaval.Inputs
set_option autoImplicit true

/-- Details about the dataset, handed to every later stage. -/
structure Details where
  modalities : List String
  numFeatures : List CInt
  numCells : CInt
  numSamples : CInt
  deriving DecidableEq

/-- Modalities, feature counts and cell count: `dimensions` before version 2.0, then
`num_cells` and one `num_features` entry per modality. -/
def loadDimensions (rhandle : Node) (version : Int) :
    Result (List String × List CInt × CInt) :=
  if version < 2000000 then do
    let dims ← loadIntegerVector rhandle "dimensions"
    if dims.length ≠ 2 then
      throwRuntime "'dimensions' should be a dataset of length 2"
    let d0 ← elementAt dims 0
    let d1 ← elementAt dims 1
    if d0.val < 0 ∨ d1.val < 0 then
      throwRuntime "'dimensions' should contain non-negative integers"
    .ok (["RNA"], [d0], d1)
  else do
    let numCells ← loadIntegerScalar CInt.clamp rhandle "num_cells"
    let fhandle ← checkAndOpenGroup rhandle "num_features"
    if fhandle.getNumObjs = 0 then
      throwRuntime "number of modalities should be positive"
    let numFeatures ← fhandle.names.mapM (loadIntegerScalar CInt.clamp fhandle)
    .ok (fhandle.names, numFeatures, numCells)

def readNumSamples (rhandle : Node) : Result CInt :=
  if rhandle.exists "num_samples" then loadIntegerScalar CInt.clamp rhandle "num_samples"
  else .ok 1

def checkNumSamples (paramInfo : ParamDump) (numSamples : CInt) : Result Unit :=
  if paramInfo.multiMatrix then
    if numSamples ≠ paramInfo.numMatrices then
      throwRuntime "'num_samples' should be equal to the number of matrices"
    else .ok ()
  else if !paramInfo.multiSample && numSamples ≠ 1 then
    throwRuntime "'num_samples' should be 1 for single matrix inputs without 'sample_factor'"
  else .ok ()

/-- `num_samples`, 1 when absent, against the number of matrices and `sample_factor`. -/
def loadNumSamples (rhandle : Node) (paramInfo : ParamDump) : Result CInt := do
  let numSamples ← readNumSamples rhandle
  checkNumSamples paramInfo numSamples
  .ok numSamples

/-- The `check_unique` scan; `used` holds the values seen so far. -/
def checkUniqueLoop (msg : String) (used : List CInt) : List CInt → Result Unit
  | [] => .ok ()
  | i :: rest =>
    if i.val < 0 then throwRuntime (msg ++ " contains negative values")
    else if i ∈ used then throwRuntime (msg ++ " contains duplicate values")
    else checkUniqueLoop msg (i :: used) rest

def checkUnique (idx : List CInt) (msg : String) : Result Unit := checkUniqueLoop msg [] idx

/-- One row-identity array (`identities` or `indices`): its length against entry `m` of
`num_features`, then `check_unique`. -/
def checkIdentityArray (handle : Node) (name : String) (numFeatures : List CInt) (m : Nat)
    (lengthMsg uniqueMsg : String) : Result Unit := do
  let idx ← loadIntegerVector handle name
  let nf ← elementAt numFeatures m
  if idx.length ≠ nf.toSize then throwRuntime lengthMsg
  checkUnique idx uniqueMsg

/-- The `used` scan of `permutation`, whose values index a vector of `size` flags. -/
def checkPermutationLoop (size : Nat) : List Bool → List CInt → Result Unit
  | _, [] => .ok ()
  | used, p :: rest =>
    if p.val < 0 ∨ size ≤ p.toSize then
      throwRuntime "'permutation' contains out-of-range values"
    else do
      let seen ← elementAt used p.toSize
      if seen then throwRuntime "duplicated index in 'permutation'"
      checkPermutationLoop size (used.set p.toSize true) rest

def checkPermutation (perms : List CInt) (numFeatures : List CInt) : Result Unit := do
  let nf ← elementAt numFeatures 0
  if perms.length ≠ nf.toSize then
    throwRuntime "'permutation' should have length equal to the number of genes"
  checkPermutationLoop perms.length (List.replicate perms.length false) perms

/-- The row identities of each modality under `identities`, one array per modality. -/
def checkModalityIdentities (ihandle : Node) (modalities : List String)
    (numFeatures : List CInt) : Result Unit :=
  (List.range modalities.length).forM fun m => do
    let modality ← elementAt modalities m
    checkIdentityArray ihandle modality numFeatures m
      ("'identities' for modality '" ++ modality ++
        "' should have length equal to its number of features")
      ("'identities' for modality '" ++ modality ++ "'")

/-- The row identities: per modality since 2.0, one `identities` array since 1.2, and
before that `indices` for multiple matrices or a `permutation`. -/
def checkIdentities (rhandle : Node) (paramInfo : ParamDump) (version : Int)
    (modalities : List String) (numFeatures : List CInt) : Result Unit :=
  if 2000000 ≤ version then do
    let ihandle ← checkAndOpenGroup rhandle "identities"
    checkModalityIdentities ihandle modalities numFeatures
  else if 1002000 ≤ version then
    checkIdentityArray rhandle "identities" numFeatures 0
      "'identities' should have length equal to the number of genes" "'identities'"
  else if paramInfo.multiMatrix then
    checkIdentityArray rhandle "indices" numFeatures 0
      "'indices' should have length equal to the number of genes" "'indices'"
  else do
    let perms ← loadIntegerVector rhandle "permutation"
    checkPermutation perms numFeatures

def validateResults (handle : Node) (paramInfo : ParamDump) (version : Int) :
    Result Details := do
  let rhandle ← checkAndOpenGroup handle "results"
  let dims ← loadDimensions rhandle version
  let numSamples ← loadNumSamples rhandle paramInfo
  checkIdentities rhandle paramInfo version dims.1 dims.2.1
  .ok ⟨dims.1, dims.2.1, dims.2.2, numSamples⟩

/-- `inputs::validate`: the `inputs` group's parameters, then its results. -/
def validate (handle : Node) (embedded : Bool) (version : Int) : Result Details := do
  let ihandle ← checkAndOpenGroup handle "inputs"
  let dump ← combineErrors "failed to retrieve parameters from 'inputs'"
    (validateParameters ihandle embedded version)
  combineErrors "failed to retrieve results from 'inputs'" (validateResults ihandle dump version)

end Kanaval.Inputs
