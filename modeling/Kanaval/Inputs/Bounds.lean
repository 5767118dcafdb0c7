import Kanaval.Inputs.Files
import Kanaval.Inputs.Details

namespace Kanaval.Inputs
set_option autoImplicit true

section InBounds

variable {phandle fihandle rhandle inputs handle : Node}

theorem inBounds_loadFormats : InBounds (loadFormats phandle version) :=
  inBounds_checkAndOpenDataset.bind fun _ _ => by split_ifs <;> trivial

theorem inBounds_checkSampleNames : InBounds (checkSampleNames stuff names) := by
  induction names generalizing stuff with
  | nil => trivial
  | cons s rest ih =>
    simp only [checkSampleNames]
    split_ifs
    · trivial
    · exact ih

theorem inBounds_loadSampleGroups : InBounds (loadSampleGroups phandle formats nfiles) := by
  refine inBounds_loadIntegerVector.bind fun _ _ => ?_
  simp only [throwRuntime_bind, pure_bind, inBounds_ite_throwRuntime]
  exact fun _ _ => inBounds_loadStringVector.bind fun _ _ => by
    simp only [inBounds_ite_throwRuntime]
    exact fun _ => inBounds_checkSampleNames.bind fun _ _ => trivial

theorem inBounds_loadFile : InBounds (loadFile fihandle embedded current) := by
  refine inBounds_combineErrors.2 (inBounds_checkAndOpenGroup.bind fun _ _ =>
    inBounds_checkAndOpenDatasetDims.bind fun _ _ => inBounds_loadString.bind fun _ _ => ?_)
  split
  · exact inBounds_loadIntegerScalar.bind fun _ _ => inBounds_loadIntegerScalar.bind fun _ _ =>
      trivial
  · exact inBounds_checkAndOpenDatasetDims.bind fun _ _ => trivial

theorem inBounds_loadRunFiles : InBounds (loadRunFiles fihandle embedded count st) := by
  induction count generalizing st with
  | zero => trivial
  | succ count ih => exact inBounds_loadFile.bind fun _ _ => ih.bind fun _ _ => trivial

theorem inBounds_countTypes : InBounds (countTypes expected types) := by
  induction types generalizing expected with
  | nil => trivial
  | cons t rest ih =>
    simp only [countTypes]
    split_ifs
    · exact ih
    · exact ih
    · exact ih
    · trivial

theorem inBounds_checkTypes : InBounds (checkTypes curf types) := by
  unfold checkTypes checkMatrixMarket checkSingleH5
  split_ifs
  · refine inBounds_countTypes.bind fun _ _ => ?_
    simp only [throwRuntime_bind, pure_bind, inBounds_ite_throwRuntime]
    exact fun _ _ _ => trivial
  all_goals trivial

theorem inBounds_checkRuns (h : r + runs.length ≤ formats.length) :
    InBounds (checkRuns fihandle embedded formats r runs st) := by
  induction runs generalizing r st with
  | nil => trivial
  | cons g gs ih =>
    simp only [List.length_cons] at h
    exact (inBounds_elementAt (by omega)).bind fun _ _ => inBounds_loadRunFiles.bind fun _ _ =>
      inBounds_checkTypes.bind fun _ _ => ih (by omega)

theorem inBounds_checkContiguity : InBounds (checkContiguity sofar bytes) := by
  induction bytes generalizing sofar with
  | nil => trivial
  | cons b rest ih =>
    simp only [checkContiguity]
    split_ifs
    · trivial
    · exact ih

theorem loadRuns_length (hf : loadFormats phandle version = .ok formats)
    (h : loadRuns phandle formats nfiles = .ok runs) : runs.length = formats.1.length := by
  obtain ⟨fmt, -, -, rfl, -⟩ := loadFormats_eq_ok.1 hf
  by_cases hd : fmt.dims = []
  · simp only [loadRuns, hd, if_true, Bool.false_eq_true, if_false, Except.ok.injEq] at h ⊢
    simp [← h]
  · simp only [loadRuns, hd, if_false, if_true] at h ⊢
    exact (loadSampleGroups_length_sum h).1

theorem inBounds_loadRuns : InBounds (loadRuns phandle formats nfiles) := by
  unfold loadRuns
  split
  · exact inBounds_loadSampleGroups
  · trivial

theorem inBounds_checkEmbedded : InBounds (checkEmbedded embedded bytes) := by
  unfold checkEmbedded
  split
  · exact inBounds_checkContiguity
  · trivial

theorem inBounds_loadMultiSample : InBounds (loadMultiSample phandle multiMatrix) := by
  unfold loadMultiSample
  split
  · exact inBounds_checkAndOpenDatasetDims.bind fun _ _ => trivial
  · trivial

theorem inBounds_validateParameters : InBounds (validateParameters inputs embedded version) :=
  inBounds_checkAndOpenGroup.bind fun _ _ => inBounds_loadFormats.bind fun _ hf =>
    inBounds_checkAndOpenGroup.bind fun _ _ => inBounds_loadRuns.bind fun _ hr =>
      (inBounds_checkRuns (by simp [loadRuns_length hf hr])).bind fun _ _ =>
        inBounds_checkEmbedded.bind fun _ _ => inBounds_loadMultiSample.bind fun _ _ => trivial

theorem inBounds_loadDimensions : InBounds (loadDimensions rhandle version) := by
  unfold loadDimensions
  split_ifs
  · refine inBounds_loadIntegerVector.bind fun dims _ => ?_
    simp only [throwRuntime_bind, pure_bind, inBounds_ite_throwRuntime, not_not]
    exact fun hlen => (inBounds_elementAt (by omega)).bind fun _ _ =>
      (inBounds_elementAt (by omega)).bind fun _ _ => by split_ifs <;> trivial
  · refine inBounds_loadIntegerScalar.bind fun _ _ => inBounds_checkAndOpenGroup.bind fun _ _ => ?_
    simp only [throwRuntime_bind, pure_bind, inBounds_ite_throwRuntime]
    exact fun _ => (inBounds_mapM fun _ _ => inBounds_loadIntegerScalar).bind fun _ _ => trivial

theorem inBounds_loadNumSamples : InBounds (loadNumSamples rhandle dump) := by
  have hread : InBounds (readNumSamples rhandle) := by
    unfold readNumSamples
    split
    · exact inBounds_loadIntegerScalar
    · trivial
  have hcheck (n : CInt) : InBounds (checkNumSamples dump n) := by
    unfold checkNumSamples
    split_ifs <;> trivial
  exact hread.bind fun n _ => (hcheck n).bind fun _ _ => trivial

theorem inBounds_checkIdentityArray (hm : m < numFeatures.length) :
    InBounds (checkIdentityArray handle name numFeatures m lengthMsg uniqueMsg) :=
  inBounds_loadIntegerVector.bind fun _ _ => (inBounds_elementAt hm).bind fun _ _ => by
    simp only [throwRuntime_bind, pure_bind, inBounds_ite_throwRuntime]
    exact fun _ => inBounds_checkUniqueLoop

theorem inBounds_checkIdentities (hlen : modalities.length ≤ numFeatures.length)
    (hpos : 0 < numFeatures.length) :
    InBounds (checkIdentities rhandle dump version modalities numFeatures) := by
  unfold checkIdentities
  split_ifs
  · exact inBounds_checkAndOpenGroup.bind fun _ _ => inBounds_forM fun m hm =>
      (inBounds_elementAt (List.mem_range.1 hm)).bind fun _ _ =>
        inBounds_checkIdentityArray (lt_of_lt_of_le (List.mem_range.1 hm) hlen)
  · exact inBounds_checkIdentityArray hpos
  · exact inBounds_checkIdentityArray hpos
  · obtain ⟨n, rest, rfl⟩ := List.exists_cons_of_length_pos hpos
    exact inBounds_loadIntegerVector.bind fun _ _ => inBounds_checkPermutation

theorem inBounds_validateResults : InBounds (validateResults inputs dump version) := by
  refine inBounds_checkAndOpenGroup.bind fun _ _ => inBounds_loadDimensions.bind
    fun ⟨modalities, numFeatures, numCells⟩ hd => inBounds_loadNumSamples.bind fun _ _ => ?_
  obtain ⟨hlen, hpos⟩ := loadDimensions_length hd
  exact (inBounds_checkIdentities hlen.ge (hlen ▸ hpos)).bind fun _ _ => trivial

/-- `inputs::validate` never indexes a vector past its end, whatever the file holds: every
`operator[]` it makes is guarded by an earlier length check. -/
theorem validate_reads_in_bounds (handle : Node) (embedded : Bool) (version : Int) :
    InBounds (validate handle embedded version) :=
  inBounds_checkAndOpenGroup.bind fun _ _ =>
    (inBounds_combineErrors.2 inBounds_validateParameters).bind fun _ _ =>
      inBounds_combineErrors.2 inBounds_validateResults

end InBounds

end Kanaval.Inputs

namespace Kanaval.CustomSelections

/-- `inputs::validate` followed by `custom_selections::validate` on the same file, handed the
details the first returns, never indexes a vector past its end, whatever the file holds. -/
theorem validate_in_bounds_after_inputs (handle : Node) (embedded : Bool) (version : Int) :
    InBounds (Inputs.validate handle embedded version >>= fun d =>
      validate handle d.numCells d.modalities d.numFeatures version) :=
  (inBounds_checkAndOpenGroup.bind fun _ _ =>
    (inBounds_combineErrors.2 Inputs.inBounds_validateParameters).bind fun _ _ =>
      inBounds_combineErrors.2 Inputs.inBounds_validateResults).bind fun _ h =>
    Inputs.inBounds_customSelections h handle

end Kanaval.CustomSelections
