import Kanaval.Utils

namespace Kanaval.Inputs
set_option autoImplicit true

/-- What `validate_parameters` hands on to `validate_results`. -/
structure ParamDump where
  numMatrices : CInt
  multiMatrix : Bool
  multiSample : Bool
  deriving DecidableEq

/-- `format`: a scalar string for one matrix, or since version 1.1 one string per matrix. -/
def loadFormats (phandle : Node) (version : Int) : Result (List String × Bool) := do
  let fhandle ← checkAndOpenDataset phandle "format" .string
  if fhandle.dims = [] then
    .ok ([fhandle.loadString], false)
  else if version < 1001000 then
    throwRuntime "'format' should be a scalar string in version 1.0"
  else
    .ok (fhandle.loadStringVector, true)

/-- `std::accumulate` of `int`s, wrapping on overflow. -/
def accumulate (runs : List CInt) (init : CInt) : CInt :=
  runs.foldl (fun total g => CInt.wrap (total.val + g.val)) init

/-- The scan of `sample_names`; `stuff` holds the names seen so far. -/
def checkSampleNames (stuff : List String) : List String → Result Unit
  | [] => .ok ()
  | s :: rest =>
    if s ∈ stuff then throwRuntime ("duplicated sample name '" ++ s ++ "' in 'sample_names'")
    else checkSampleNames (s :: stuff) rest

/-- The multi-matrix runs: `sample_groups` and `sample_names` against `format` and `files`. -/
def loadSampleGroups (phandle : Node) (formats : List String) (nfiles : Nat) :
    Result (List CInt) := do
  let runs ← loadIntegerVector phandle "sample_groups"
  if runs.length ≠ formats.length then
    throwRuntime "'sample_groups' and 'format' should have the same length"
  if accumulate runs 0 ≠ CInt.wrap nfiles then
    throwRuntime "sum of 'sample_groups' is not equal to the length of 'files'"
  let names ← loadStringVector phandle "sample_names"
  if names.length ≠ formats.length then
    throwRuntime "'sample_names' and 'format' should have the same length"
  checkSampleNames [] names
  .ok runs

/-- One entry of `files`: its `name` and `type`, then `offset` and `size`, or an `id`. -/
def loadFile (fihandle : Node) (embedded : Bool) (current : String) :
    Result (String × Option (Nat × Nat)) :=
  combineErrors ("failed to retrieve information for file " ++ current) do
    let curfihandle ← checkAndOpenGroup fihandle current
    let _ ← checkAndOpenDatasetDims curfihandle "name" .string []
    let type ← loadString curfihandle "type"
    if embedded then
      let offset ← loadIntegerScalar hsizeOfStored curfihandle "offset"
      let size ← loadIntegerScalar hsizeOfStored curfihandle "size"
      .ok (type, some (offset, size))
    else
      let _ ← checkAndOpenDatasetDims curfihandle "id" .string []
      .ok (type, none)

/-- State of the loop over runs: the `int` counter `sofar` and the `(offset, size)` pairs. -/
structure LoopState where
  sofar : CInt
  bytes : List (Nat × Nat)

/-- `for (int s = 0; s < runs[r]; ++s, ++sofar)`: `count` files from `sofar`, and their types. -/
def loadRunFiles (fihandle : Node) (embedded : Bool) :
    Nat → LoopState → Result (List String × LoopState)
  | 0, st => .ok ([], st)
  | count + 1, st => do
    let file ← loadFile fihandle embedded (toString st.sofar.val)
    let rest ← loadRunFiles fihandle embedded count
      ⟨st.sofar.succ, st.bytes ++ file.2.toList⟩
    .ok (file.1 :: rest.1, rest.2)

/-- The `expected` map of a `MatrixMarket` run, one `int` count per known type. -/
structure TypeCounts where
  mtx : CInt
  genes : CInt
  annotations : CInt

def countTypes (expected : TypeCounts) : List String → Result TypeCounts
  | [] => .ok expected
  | t :: rest =>
    if t = "mtx" then countTypes { expected with mtx := expected.mtx.succ } rest
    else if t = "genes" then countTypes { expected with genes := expected.genes.succ } rest
    else if t = "annotations" then
      countTypes { expected with annotations := expected.annotations.succ } rest
    else throwRuntime ("unknown file type '" ++ t ++ "' when format is 'MatrixMarket'")

def checkMatrixMarket (types : List String) : Result Unit := do
  let expected ← countTypes ⟨0, 0, 0⟩ types
  if expected.mtx ≠ 1 then
    throwRuntime "expected exactly one 'mtx' file when format is 'MatrixMarket'"
  if 1 < expected.genes.val then
    throwRuntime "expected no more than one 'genes' file when format is 'MatrixMarket'"
  if 1 < expected.annotations.val then
    throwRuntime "expected no more than one 'annotation' file when format is 'MatrixMarket'"

/-- The rule shared by `10X` and `H5AD`: exactly one file, of type `h5`. -/
def checkSingleH5 (format : String) (types : List String) : Result Unit :=
  if types.length ≠ 1 ∨ types.head? ≠ some "h5" then
    throwRuntime ("expected exactly one 'h5' file when format is '" ++ format ++ "'")
  else .ok ()

def checkTypes (curf : String) (types : List String) : Result Unit :=
  if curf = "MatrixMarket" then checkMatrixMarket types
  else if curf = "10X" then checkSingleH5 "10X" types
  else if curf = "H5AD" then checkSingleH5 "H5AD" types
  else .ok ()

/-- The loop over runs, from run `r`: each run's files, then the rule of its format. -/
def checkRuns (fihandle : Node) (embedded : Bool) (formats : List String) :
    Nat → List CInt → LoopState → Result LoopState
  | _, [], st => .ok st
  | r, g :: gs, st => do
    let curf ← elementAt formats r
    let run ← loadRunFiles fihandle embedded g.val.toNat st
    checkTypes curf run.1
    checkRuns fihandle embedded formats (r + 1) gs run.2

/-- The `embedded` check: each offset is the running `hsize_t` total of the sizes before it. -/
def checkContiguity (sofar : Nat) : List (Nat × Nat) → Result Unit
  | [] => .ok ()
  | b :: rest =>
    if b.1 ≠ sofar then throwRuntime "offsets and sizes of 'files' are not sorted and contiguous"
    else checkContiguity ((sofar + b.2) % 2^64) rest

/-- The runs: `sample_groups` for several matrices, otherwise one run of all files. -/
def loadRuns (phandle : Node) (formats : List String × Bool) (nfiles : Nat) :
    Result (List CInt) :=
  if formats.2 then loadSampleGroups phandle formats.1 nfiles else .ok [CInt.wrap nfiles]

def checkEmbedded (embedded : Bool) (bytes : List (Nat × Nat)) : Result Unit :=
  if embedded then checkContiguity 0 bytes else .ok ()

/-- A single matrix holds several samples when `parameters` has a `sample_factor`. -/
def loadMultiSample (phandle : Node) (multiMatrix : Bool) : Result Bool :=
  if !multiMatrix && phandle.exists "sample_factor" then do
    let _ ← checkAndOpenDatasetDims phandle "sample_factor" .string []
    .ok true
  else .ok multiMatrix

def validateParameters (handle : Node) (embedded : Bool) (version : Int) :
    Result ParamDump := do
  let phandle ← checkAndOpenGroup handle "parameters"
  let formats ← loadFormats phandle version
  let fihandle ← checkAndOpenGroup phandle "files"
  let runs ← loadRuns phandle formats fihandle.getNumObjs
  let st ← checkRuns fihandle embedded formats.1 0 runs ⟨0, []⟩
  checkEmbedded embedded st.bytes
  let multiSample ← loadMultiSample phandle formats.2
  .ok ⟨CInt.wrap formats.1.length, formats.2, multiSample⟩

end Kanaval.Inputs
