import Kanaval.Inputs.Runs

namespace Kanaval.Inputs
set_option autoImplicit true

def fileBytes (files : List (String × Option (Nat × Nat))) : List (Nat × Nat) :=
  (files.map fun f => f.2.toList).flatten

/-- The bounds under which no `int` or `hsize_t` sum of `validate_parameters` wraps: fewer than
`2^32` files, non-negative run sizes summing below `2^31`, and file sizes summing below
`2^64`. -/
def ParametersBounded (inputs : Node) (embedded : Bool) (version : Int) : Prop :=
  ∀ phandle formats fihandle runs,
    checkAndOpenGroup inputs "parameters" = .ok phandle →
    loadFormats phandle version = .ok formats →
    checkAndOpenGroup phandle "files" = .ok fihandle →
    loadRuns phandle formats fihandle.getNumObjs = .ok runs →
    fihandle.getNumObjs < 2^32 ∧ (∀ g ∈ runs, 0 ≤ g.val) ∧ (runs.map CInt.val).sum < 2^31 ∧
    ∀ files, loadBlock fihandle embedded (List.range fihandle.getNumObjs) = .ok files →
      ((fileBytes files).map Prod.snd).sum < 2^64

/-- A `parameters` group as the format describes it: the runs cover the files `0, …, n - 1`
exactly, every file loads, the files of each run obey the rule of its format, embedded files
abut from offset 0, and the dump reports the formats and whether the samples are split. -/
def ParametersSpec (inputs : Node) (embedded : Bool) (version : Int) (dump : ParamDump) :
    Prop :=
  ∃ phandle formats fihandle runs files,
    checkAndOpenGroup inputs "parameters" = .ok phandle ∧
    loadFormats phandle version = .ok formats ∧
    checkAndOpenGroup phandle "files" = .ok fihandle ∧
    loadRuns phandle formats fihandle.getNumObjs = .ok runs ∧
    (runs.map fun g => g.val.toNat).sum = fihandle.getNumObjs ∧
    loadBlock fihandle embedded (List.range fihandle.getNumObjs) = .ok files ∧
    RunsObeyFormats fihandle embedded formats.1 runs ∧
    (embedded = true → Contiguous 0 (fileBytes files)) ∧
    ∃ multiSample, loadMultiSample phandle formats.2 = .ok multiSample ∧
      dump = ⟨CInt.wrap formats.1.length, formats.2, multiSample⟩

section Blocks

variable {fihandle : Node} {embedded : Bool} {formats : List String}

theorem loadBlock_append :
    loadBlock fihandle embedded (ps ++ qs) =
      loadBlock fihandle embedded ps >>= fun a =>
        loadBlock fihandle embedded qs >>= fun b => pure (a ++ b) := by
  simp only [loadBlock, List.mapM_append]

theorem checkBlocks_loadBlock (h : checkBlocks fihandle embedded formats r blocks = .ok files) :
    loadBlock fihandle embedded blocks.flatten = .ok files := by
  induction blocks generalizing r files with
  | nil =>
    cases h
    rfl
  | cons b bs ih =>
    simp only [checkBlocks, bind_eq_ok, exists_punit, Except.ok.injEq] at h
    obtain ⟨_, -, fs, hfs, -, rest, hrest, rfl⟩ := h
    rw [List.flatten_cons, loadBlock_append, hfs, ok_bind, ih hrest]
    rfl

theorem checkEmbedded_afterFiles :
    checkEmbedded embedded (afterFiles ⟨0, []⟩ files).bytes = .ok () ↔
      (embedded = true → checkContiguity 0 (fileBytes files) = .ok ()) := by
  cases embedded <;> simp [checkEmbedded, afterFiles, fileBytes]

end Blocks

section Spec

variable {inputs : Node} {embedded : Bool} {version : Int} {dump : ParamDump}

theorem validateParameters_spec (hb : ParametersBounded inputs embedded version)
    (h : validateParameters inputs embedded version = .ok dump) :
    ParametersSpec inputs embedded version dump := by
  obtain ⟨phandle, formats, fihandle, runs, st, ms, hph, hfmt, hfi, hruns, hcheck, hemb, hms,
    rfl⟩ := validateParameters_eq_ok.1 h
  obtain ⟨hn, hg, hsum, hsizes⟩ := hb phandle formats fihandle runs hph hfmt hfi hruns
  rw [checkRuns_eq_checkBlocks (show (0 : CInt).val = ((0 : Nat) : Int) from rfl) hg
    (by simpa using hsum), map_eq_ok] at hcheck
  obtain ⟨files, hfiles, rfl⟩ := hcheck
  -- the 32-bit check of the sum against the number of files is exact here
  have hcover : (runs.map fun g => g.val.toNat).sum = fihandle.getNumObjs := by
    have hmod := loadRuns_sum_mod hruns
    have hnat := sum_toNat hg
    omega
  have hall : loadBlock fihandle embedded (List.range fihandle.getNumObjs) = .ok files := by
    simpa [runBlocks_flatten, hcover, List.range_eq_range'] using checkBlocks_loadBlock hfiles
  refine ⟨phandle, formats, fihandle, runs, files, hph, hfmt, hfi, hruns, hcover, hall,
    (checkBlocks_runBlocks_isOk_iff hg hsum).1 ⟨files, hfiles⟩, fun he => ?_, ms, hms, rfl⟩
  exact (checkContiguity_eq_ok_of_lt (by simpa using hsizes files hall)).1
    (checkEmbedded_afterFiles.1 hemb he)

theorem validateParameters_of_spec (hb : ParametersBounded inputs embedded version)
    (hs : ParametersSpec inputs embedded version dump) :
    validateParameters inputs embedded version = .ok dump := by
  obtain ⟨phandle, formats, fihandle, runs, files, hph, hfmt, hfi, hruns, hcover, hall, hobey,
    hcont, ms, hms, rfl⟩ := hs
  obtain ⟨-, hg, hsum, hsizes⟩ := hb phandle formats fihandle runs hph hfmt hfi hruns
  obtain ⟨files', hfiles'⟩ := (checkBlocks_runBlocks_isOk_iff hg hsum).2 hobey
  obtain rfl : files' = files := by
    have h1 := checkBlocks_loadBlock hfiles'
    rw [runBlocks_flatten, hcover, ← List.range_eq_range', hall] at h1
    exact (Except.ok.inj h1).symm
  refine validateParameters_eq_ok.2 ⟨phandle, formats, fihandle, runs, afterFiles ⟨0, []⟩ files',
    ms, hph, hfmt, hfi, hruns, ?_, checkEmbedded_afterFiles.2 fun he =>
      (checkContiguity_eq_ok_of_lt (by simpa using hsizes _ hall)).2 (hcont he), hms, rfl⟩
  rw [checkRuns_eq_checkBlocks (show (0 : CInt).val = ((0 : Nat) : Int) from rfl) hg
    (by simpa using hsum), hfiles']
  rfl

end Spec

/-- Outside `int` and `hsize_t` overflow, `validate_parameters` accepts a `parameters` group,
returning a dump, exactly when the group is as the format describes it and the dump reports
its formats and samples. -/
theorem validateParameters_iff_spec (inputs : Node) (embedded : Bool) (version : Int)
    (dump : ParamDump) (hb : ParametersBounded inputs embedded version) :
    validateParameters inputs embedded version = .ok dump ↔
      ParametersSpec inputs embedded version dump :=
  ⟨validateParameters_spec hb, validateParameters_of_spec hb⟩

theorem validateParameters_iff_spec_two_embedded :
    ParametersBounded (embeddedInputs [(0, 2), (2, 3)]) true 1000000 ∧
    (validateParameters (embeddedInputs [(0, 2), (2, 3)]) true 1000000 = .ok ⟨1, false, false⟩ ↔
      ParametersSpec (embeddedInputs [(0, 2), (2, 3)]) true 1000000 ⟨1, false, false⟩) := by
  have hb : ParametersBounded (embeddedInputs [(0, 2), (2, 3)]) true 1000000 := by
    intro phandle formats fihandle runs h1 h2 h3 h4
    cases h1
    cases h2
    cases h3
    cases h4
    refine ⟨by decide, by decide, by decide, fun files hf => ?_⟩
    cases hf
    decide
  exact ⟨hb, validateParameters_iff_spec _ _ _ _ hb⟩

end Kanaval.Inputs
