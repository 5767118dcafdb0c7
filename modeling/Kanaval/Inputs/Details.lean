import Kanaval.Inputs.Identities
import Kanaval.CustomSelections

namespace Kanaval.Inputs
set_option autoImplicit true

theorem validate_eq_ok : validate handle embedded version = .ok d ↔
    ∃ inputs dump, checkAndOpenGroup handle "inputs" = .ok inputs ∧
      validateParameters inputs embedded version = .ok dump ∧
      validateResults inputs dump version = .ok d := by
  simp only [validate, bind_eq_ok, combineErrors_eq_ok, exists_and_left]

theorem validateParameters_eq_ok : validateParameters inputs embedded version = .ok dump ↔
    ∃ phandle formats fihandle runs st multiSample,
      checkAndOpenGroup inputs "parameters" = .ok phandle ∧
      loadFormats phandle version = .ok formats ∧
      checkAndOpenGroup phandle "files" = .ok fihandle ∧
      loadRuns phandle formats fihandle.getNumObjs = .ok runs ∧
      checkRuns fihandle embedded formats.1 0 runs ⟨0, []⟩ = .ok st ∧
      checkEmbedded embedded st.bytes = .ok () ∧
      loadMultiSample phandle formats.2 = .ok multiSample ∧
      dump = ⟨CInt.wrap formats.1.length, formats.2, multiSample⟩ := by
  simp only [validateParameters, bind_eq_ok, exists_punit, Except.ok.injEq, exists_and_left,
    @eq_comm _ dump]

theorem validateResults_eq_ok : validateResults inputs dump version = .ok d ↔
    ∃ rhandle dims numSamples, checkAndOpenGroup inputs "results" = .ok rhandle ∧
      loadDimensions rhandle version = .ok dims ∧
      loadNumSamples rhandle dump = .ok numSamples ∧
      checkIdentities rhandle dump version dims.1 dims.2.1 = .ok () ∧
      d = ⟨dims.1, dims.2.1, dims.2.2, numSamples⟩ := by
  simp only [validateResults, bind_eq_ok, exists_punit, Except.ok.injEq, exists_and_left,
    @eq_comm _ d]

theorem loadFormats_eq_ok : loadFormats phandle version = .ok formats ↔
    ∃ fmt, phandle.child? "format" = some (.dataset fmt) ∧ fmt.data.typeClass = .string ∧
      formats = (if fmt.dims = [] then ([fmt.loadString], false)
        else (fmt.loadStringVector, true)) ∧ (fmt.dims ≠ [] → 1001000 ≤ version) := by
  simp only [loadFormats, bind_eq_ok, checkAndOpenDataset_eq_ok, and_assoc]
  refine exists_congr fun fmt => and_congr_right fun _ => and_congr_right fun _ => ?_
  split_ifs with h1 h2
  · simp [h1, eq_comm]
  · simp [throwRuntime, h1, show ¬1001000 ≤ version by omega]
  · simp [h1, show 1001000 ≤ version by omega, eq_comm]

theorem loadMultiSample_spec (h : loadMultiSample phandle multiMatrix = .ok multiSample) :
    multiMatrix = false → phandle.exists "sample_factor" = false → multiSample = false := by
  rintro rfl hs
  simpa [loadMultiSample, hs] using h.symm

theorem loadNumSamples_spec (h : loadNumSamples rhandle dump = .ok numSamples) :
    (dump.multiMatrix = true → numSamples = dump.numMatrices) ∧
    (dump.multiMatrix = false → dump.multiSample = false → numSamples = 1) := by
  simp only [loadNumSamples, bind_eq_ok, exists_punit, Except.ok.injEq] at h
  obtain ⟨n, -, hc, rfl⟩ := h
  unfold checkNumSamples at hc
  constructor
  · intro hm
    simpa [hm] using hc
  · intro hm hs
    simpa [hm, hs] using hc

theorem loadDimensions_legacy (hv : version < 2000000)
    (h : loadDimensions rhandle version = .ok (modalities, numFeatures, numCells)) :
    ∃ d0, modalities = ["RNA"] ∧ numFeatures = [d0] ∧ 0 ≤ d0.val ∧ 0 ≤ numCells.val := by
  simp only [loadDimensions, hv, if_true, bind_eq_ok, pure_bind, throwRuntime_bind,
    ite_throwRuntime_eq_ok, not_not, not_or, not_lt] at h
  obtain ⟨dims, -, -, d0, -, d1, -, ⟨h0, h1⟩, heq⟩ := h
  simp only [Except.ok.injEq, Prod.mk.injEq] at heq
  obtain ⟨rfl, rfl, rfl⟩ := heq
  exact ⟨d0, rfl, rfl, h0, h1⟩

theorem loadDimensions_current (hv : ¬version < 2000000)
    (h : loadDimensions rhandle version = .ok (modalities, numFeatures, numCells)) :
    ∃ fhandle, checkAndOpenGroup rhandle "num_features" = .ok fhandle ∧
      modalities = fhandle.names ∧ numFeatures.length = modalities.length ∧
      0 < modalities.length := by
  simp only [loadDimensions, hv, if_false, bind_eq_ok, pure_bind, throwRuntime_bind,
    ite_throwRuntime_eq_ok] at h
  obtain ⟨cells, -, fhandle, hf, hpos, nfs, hnfs, heq⟩ := h
  simp only [Except.ok.injEq, Prod.mk.injEq] at heq
  obtain ⟨rfl, rfl, rfl⟩ := heq
  exact ⟨fhandle, hf, rfl, mapM_length hnfs,
    by simpa [Node.names, Node.getNumObjs, List.length_pos] using hpos⟩

theorem loadDimensions_length
    (h : loadDimensions rhandle version = .ok (modalities, numFeatures, numCells)) :
    numFeatures.length = modalities.length ∧ 0 < modalities.length := by
  by_cases hv : version < 2000000
  · obtain ⟨d0, rfl, rfl, -⟩ := loadDimensions_legacy hv h
    simp
  · obtain ⟨-, -, -, hlen, hpos⟩ := loadDimensions_current hv h
    exact ⟨hlen, hpos⟩

theorem loadDimensions_spec (hw : rhandle.WellFormed)
    (h : loadDimensions rhandle version = .ok (modalities, numFeatures, numCells)) :
    numFeatures.length = modalities.length ∧ 0 < modalities.length ∧ modalities.Nodup := by
  refine ⟨(loadDimensions_length h).1, (loadDimensions_length h).2, ?_⟩
  by_cases hv : version < 2000000
  · obtain ⟨d0, rfl, -⟩ := loadDimensions_legacy hv h
    simp
  · obtain ⟨fhandle, hf, rfl, -⟩ := loadDimensions_current hv h
    exact (hw.child (checkAndOpenGroup_eq_ok.1 hf).1).names_nodup

theorem validate_lengths (h : validate handle embedded version = .ok d) :
    d.numFeatures.length = d.modalities.length ∧ 0 < d.modalities.length := by
  obtain ⟨inputs, dump, -, -, hr⟩ := validate_eq_ok.1 h
  obtain ⟨rhandle, ⟨mods, nf, cells⟩, ns, -, hdims, -, -, rfl⟩ := validateResults_eq_ok.1 hr
  exact loadDimensions_length hdims

theorem validate_numFeatures_ne_nil (h : validate handle embedded version = .ok d) :
    d.numFeatures ≠ [] := by
  obtain ⟨hlen, hpos⟩ := validate_lengths h
  exact List.ne_nil_of_length_pos (hlen ▸ hpos)

theorem inBounds_customSelections (h : validate handle embedded version = .ok d) (handle' : Node) :
    InBounds (CustomSelections.validate handle' d.numCells d.modalities d.numFeatures version) :=
  CustomSelections.inBounds_validate (fun _ => (validate_lengths h).1.ge) fun _ =>
    validate_numFeatures_ne_nil h

/-- What `inputs::validate` guarantees of the counts it returns: cells are non-negative
before 2.0; samples match an array `format`, and are 1 for a scalar one without
`sample_factor`. -/
def SampleCountsConsistent (handle : Node) (version : Int) (d : Details) : Prop :=
  ∃ inputs phandle fmt, handle.child? "inputs" = some inputs ∧
    inputs.child? "parameters" = some phandle ∧ phandle.child? "format" = some (.dataset fmt) ∧
    (version < 2000000 → 0 ≤ d.numCells.val) ∧
    (fmt.dims ≠ [] → d.numSamples = CInt.wrap fmt.loadStringVector.length) ∧
    (fmt.dims = [] → phandle.exists "sample_factor" = false → d.numSamples = 1)

theorem validate_sample_counts (handle : Node) (embedded : Bool) (version : Int) (d : Details)
    (h : validate handle embedded version = .ok d) : SampleCountsConsistent handle version d := by
  obtain ⟨inputs, dump, hin, hp, hr⟩ := validate_eq_ok.1 h
  obtain ⟨phandle, formats, -, -, -, ms, hph, hfmt, -, -, -, -, hms, rfl⟩ :=
    validateParameters_eq_ok.1 hp
  obtain ⟨fmt, hfc, -, rfl, -⟩ := loadFormats_eq_ok.1 hfmt
  obtain ⟨rhandle, ⟨mods, nf, cells⟩, ns, -, hdims, hns, -, rfl⟩ := validateResults_eq_ok.1 hr
  obtain ⟨hnm, hns1⟩ := loadNumSamples_spec hns
  refine ⟨inputs, phandle, fmt, (checkAndOpenGroup_eq_ok.1 hin).1,
    (checkAndOpenGroup_eq_ok.1 hph).1, hfc, fun hv => ?_, fun hd => ?_, fun hd hsf => ?_⟩
  · obtain ⟨_, -, -, -, h1⟩ := loadDimensions_legacy hv hdims
    exact h1
  · simpa [hd] using hnm (by simp [hd])
  · exact hns1 (by simp [hd]) (loadMultiSample_spec hms (by simp [hd]) hsf)

open Node in
def twoModalityInputs : Node :=
  .group [("inputs", .group [
    ("parameters", .group [("format", stringScalar "10X"),
      ("files", .group [("0", .group [("name", stringScalar "f"), ("type", stringScalar "h5"),
        ("id", stringScalar "i")])])]),
    ("results", .group [("num_cells", intScalar 5),
      ("num_features", .group [("ADT", intScalar 2), ("RNA", intScalar 3)]),
      ("identities", .group [("ADT", intArray [1, 0]), ("RNA", intArray [4, 0, 2])])])])]

theorem validate_sample_counts_two_modalities :
    validate twoModalityInputs false 2000000 = .ok ⟨["ADT", "RNA"], [2, 3], 5, 1⟩ ∧
    SampleCountsConsistent twoModalityInputs 2000000 ⟨["ADT", "RNA"], [2, 3], 5, 1⟩ :=
  ⟨by decide, validate_sample_counts _ false _ _ (by decide)⟩

open Node in
def sampleFactorInputs : Node :=
  .group [("inputs", .group [
    ("parameters", .group [("format", stringScalar "x"), ("files", .group []),
      ("sample_factor", stringScalar "batch")]),
    ("results", .group [("dimensions", intArray [0, 0]), ("num_samples", intScalar 0),
      ("permutation", intArray [])])])]

theorem validate_accepts_zero_samples :
    validate sampleFactorInputs false 1000000 = .ok ⟨["RNA"], [0], 0, 0⟩ ∧
    ¬ 1 ≤ (0 : CInt).val := by
  decide

/-- Where the row identities of a modality live under `results`, by version. -/
def rowIdentities (rhandle : Node) (version : Int) (multiMatrix : Bool) (modality : String) :
    Result (List CInt) :=
  if 2000000 ≤ version then do
    let ihandle ← checkAndOpenGroup rhandle "identities"
    loadIntegerVector ihandle modality
  else if 1002000 ≤ version then loadIntegerVector rhandle "identities"
  else if multiMatrix then loadIntegerVector rhandle "indices"
  else loadIntegerVector rhandle "permutation"

theorem checkIdentities_lengths
    (h : checkIdentities rhandle dump version modalities numFeatures = .ok ())
    (hlen : numFeatures.length = modalities.length)
    (hlegacy : version < 2000000 → ∃ d0, modalities = ["RNA"] ∧ numFeatures = [d0] ∧ 0 ≤ d0.val)
    (m : Nat) (hm : m < modalities.length) :
    ∃ n idx, numFeatures[m]? = some n ∧ 0 ≤ n.val ∧
      rowIdentities rhandle version dump.multiMatrix modalities[m] = .ok idx ∧
      (idx.length : Int) = n.val := by
  by_cases hv : 2000000 ≤ version
  · simp only [checkIdentities, hv, if_true, bind_eq_ok, checkModalityIdentities_eq_ok] at h
    obtain ⟨ih, hih, hall⟩ := h
    obtain ⟨idx, n, hidx, hn, hl, -⟩ := hall m hm
    exact ⟨n, idx, hn, by omega, by simp [rowIdentities, hv, hih, hidx], hl⟩
  obtain ⟨d0, rfl, rfl, h0⟩ := hlegacy (by omega)
  obtain rfl : m = 0 := by simpa using hm
  have harray (name : String) (lm um : String)
      (ha : checkIdentityArray rhandle name [d0] 0 lm um = .ok ()) :
      ∃ idx, loadIntegerVector rhandle name = .ok idx ∧ (idx.length : Int) = d0.val := by
    obtain ⟨idx, n, hidx, hn, hl, -⟩ := checkIdentityArray_eq_ok.1 ha
    simp only [List.getElem?_cons_zero, Option.some.injEq] at hn
    exact ⟨idx, hidx, hn ▸ hl⟩
  refine ⟨d0, ?_⟩
  simp only [checkIdentities, rowIdentities, hv, if_false] at h ⊢
  split_ifs at h ⊢ with h1 hmm
  · simpa [h0] using harray _ _ _ h
  · simpa [h0] using harray _ _ _ h
  · simp only [bind_eq_ok] at h
    obtain ⟨perms, hperms, hcheck⟩ := h
    exact ⟨perms, rfl, h0, hperms, ((checkPermutation_eq_ok h0).1 hcheck).1⟩

/-- What every `Details` returned by `inputs::validate` satisfies, against the `results` group
it was read from and whether `format` listed several matrices. -/
structure DetailsConsistent (rhandle : Node) (version : Int) (multiMatrix : Bool)
    (d : Details) : Prop where
  lengths : d.numFeatures.length = d.modalities.length
  nonempty : 0 < d.modalities.length
  nodup : d.modalities.Nodup
  rna : version < 2000000 → d.modalities = ["RNA"]
  identities : ∀ m (hm : m < d.modalities.length), ∃ n idx, d.numFeatures[m]? = some n ∧
    0 ≤ n.val ∧ rowIdentities rhandle version multiMatrix d.modalities[m] = .ok idx ∧
    (idx.length : Int) = n.val

theorem DetailsConsistent.nonneg (hd : DetailsConsistent rhandle version multiMatrix d) :
    ∀ n ∈ d.numFeatures, 0 ≤ n.val := by
  intro n hn
  obtain ⟨m, hm, rfl⟩ := List.getElem_of_mem hn
  obtain ⟨n', -, hn', h0, -⟩ := hd.identities m (hd.lengths ▸ hm)
  rw [List.getElem?_eq_getElem hm, Option.some.injEq] at hn'
  exact hn' ▸ h0

/-- Every `Details` that `inputs::validate` returns has one non-negative feature count per
modality, distinct modality names, and row identities of matching lengths; handed to
`custom_selections::validate` it causes no access past the end of a vector and no negative
count cast to `size_t`. -/
theorem validate_details_consistent (c : Container) (embedded : Bool) (version : Int)
    (d : Details) (h : validate c.root embedded version = .ok d) :
    (∃ inputs rhandle dump, c.root.child? "inputs" = some inputs ∧
      inputs.child? "results" = some rhandle ∧
      validateParameters inputs embedded version = .ok dump ∧
      DetailsConsistent rhandle version dump.multiMatrix d) ∧
    (∀ handle, InBounds
      (CustomSelections.validate handle d.numCells d.modalities d.numFeatures version)) ∧
    ∀ n ∈ d.numFeatures, n.toSize = n.val.toNat := by
  obtain ⟨inputs, dump, hin, hp, hr⟩ := validate_eq_ok.1 h
  obtain ⟨hinc, -⟩ := checkAndOpenGroup_eq_ok.1 hin
  obtain ⟨rhandle, ⟨mods, nf, cells⟩, ns, hrh, hdims, -, hid, rfl⟩ := validateResults_eq_ok.1 hr
  obtain ⟨hrc, -⟩ := checkAndOpenGroup_eq_ok.1 hrh
  obtain ⟨hlen, hpos, hnd⟩ := loadDimensions_spec ((c.wellFormed.child hinc).child hrc) hdims
  have hlegacy (hv : version < 2000000) :
      ∃ d0, mods = ["RNA"] ∧ nf = [d0] ∧ 0 ≤ d0.val := by
    obtain ⟨d0, h1, h2, h3, -⟩ := loadDimensions_legacy hv hdims
    exact ⟨d0, h1, h2, h3⟩
  have hd : DetailsConsistent rhandle version dump.multiMatrix ⟨mods, nf, cells, ns⟩ :=
    ⟨hlen, hpos, hnd, fun hv => (hlegacy hv).choose_spec.1,
      checkIdentities_lengths hid hlen hlegacy⟩
  exact ⟨⟨inputs, rhandle, dump, hinc, hrc, hp, hd⟩, inBounds_customSelections h,
    fun n hn => n.toSize_of_nonneg (hd.nonneg n hn)⟩

theorem validate_details_two_modalities :
    validate twoModalityInputs false 2000000 = .ok ⟨["ADT", "RNA"], [2, 3], 5, 1⟩ ∧
    (∃ inputs rhandle dump, twoModalityInputs.child? "inputs" = some inputs ∧
      inputs.child? "results" = some rhandle ∧
      validateParameters inputs false 2000000 = .ok dump ∧
      DetailsConsistent rhandle 2000000 dump.multiMatrix ⟨["ADT", "RNA"], [2, 3], 5, 1⟩) ∧
    (∀ handle, InBounds (CustomSelections.validate handle 5 ["ADT", "RNA"] [2, 3] 2000000)) ∧
    ∀ n ∈ ([2, 3] : List CInt), n.toSize = n.val.toNat :=
  ⟨by decide, validate_details_consistent ⟨twoModalityInputs, by decide⟩ false 2000000 _
    (by decide)⟩

end Kanaval.Inputs
