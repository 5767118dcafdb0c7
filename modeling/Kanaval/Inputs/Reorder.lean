import Kanaval.Inputs.Range
import Kanaval.Reorder

namespace Kanaval.Inputs
set_option autoImplicit true

/-- Two `Details` that pair the same modalities with the same feature counts, possibly listed
in another order, with the same cell and sample counts. -/
structure Details.Reordered (d d' : Details) : Prop where
  pairs : (d.modalities.zip d.numFeatures).Perm (d'.modalities.zip d'.numFeatures)
  numCells : d.numCells = d'.numCells
  numSamples : d.numSamples = d'.numSamples

section Parameters

variable {a b : Node}

theorem loadFormats_reorder (h : a.Equiv b) (hw : a.WellFormed) :
    loadFormats a version = loadFormats b version := by
  simp only [loadFormats, h.checkAndOpenDataset_eq hw]

theorem loadRuns_reorder (h : a.Equiv b) (hw : a.WellFormed) :
    loadRuns a formats nfiles = loadRuns b formats nfiles := by
  simp only [loadRuns, loadSampleGroups, h.loadIntegerVector_eq hw, h.loadStringVector_eq hw]

theorem loadFile_reorder (h : a.Equiv b) (hw : a.WellFormed) :
    loadFile a embedded current = loadFile b embedded current := by
  unfold loadFile
  congr 1
  exact h.checkAndOpenGroup_bind hw fun n n' hwn hn => by
    simp only [hn.checkAndOpenDatasetDims_eq hwn, hn.loadString_eq hwn,
      hn.loadIntegerScalar_eq hwn]

theorem loadRunFiles_reorder (h : a.Equiv b) (hw : a.WellFormed) :
    loadRunFiles a embedded count st = loadRunFiles b embedded count st := by
  induction count generalizing st with
  | zero => rfl
  | succ count ih => simp only [loadRunFiles, loadFile_reorder h hw, ih]

theorem checkRuns_reorder (h : a.Equiv b) (hw : a.WellFormed) :
    checkRuns a embedded formats r runs st = checkRuns b embedded formats r runs st := by
  induction runs generalizing r st with
  | nil => rfl
  | cons g gs ih => simp only [checkRuns, loadRunFiles_reorder h hw, ih]

theorem loadMultiSample_reorder (h : a.Equiv b) (hw : a.WellFormed) :
    loadMultiSample a multiMatrix = loadMultiSample b multiMatrix := by
  simp only [loadMultiSample, h.exists_eq hw, h.checkAndOpenDatasetDims_eq hw]

theorem validateParameters_reorder (h : a.Equiv b) (hw : a.WellFormed) :
    validateParameters a embedded version = validateParameters b embedded version := by
  refine h.checkAndOpenGroup_bind hw fun p p' hwp hp => ?_
  rw [loadFormats_reorder hp hwp]
  refine bind_congr fun formats => hp.checkAndOpenGroup_bind hwp fun fi fi' hwfi hfi => ?_
  simp only [loadRuns_reorder hp hwp, hfi.getNumObjs_eq, checkRuns_reorder hfi hwfi,
    loadMultiSample_reorder hp hwp]

end Parameters

section Results

variable {a b : Node}

theorem loadNumSamples_reorder (h : a.Equiv b) (hw : a.WellFormed) :
    loadNumSamples a paramInfo = loadNumSamples b paramInfo := by
  simp only [loadNumSamples, readNumSamples, h.exists_eq hw, h.loadIntegerScalar_eq hw]

theorem loadDimensions_reorder (h : a.Equiv b) (hw : a.WellFormed)
    (hl : loadDimensions a version = .ok (modalities, numFeatures, numCells)) :
    ∃ modalities' numFeatures',
      loadDimensions b version = .ok (modalities', numFeatures', numCells) ∧
      (modalities.zip numFeatures).Perm (modalities'.zip numFeatures') ∧
      (version < 2000000 → modalities' = modalities ∧ numFeatures' = numFeatures) := by
  by_cases hv : version < 2000000
  · refine ⟨modalities, numFeatures, ?_, .refl _, fun _ => ⟨rfl, rfl⟩⟩
    rw [← hl]
    simp only [loadDimensions, if_pos hv, h.loadIntegerVector_eq hw]
  · simp only [loadDimensions, if_neg hv, bind_eq_ok, pure_bind, throwRuntime_bind,
      ite_throwRuntime_eq_ok] at hl
    obtain ⟨cells, hcells, fh, hfh, hpos, nfs, hnfs, heq⟩ := hl
    simp only [Except.ok.injEq, Prod.mk.injEq] at heq
    obtain ⟨rfl, rfl, rfl⟩ := heq
    obtain ⟨fh', hfh', he, hwf⟩ := h.checkAndOpenGroup_ok hw hfh
    obtain ⟨nfs', hnfs', hp⟩ := mapM_perm he.names_perm hnfs
    have hload : loadIntegerScalar CInt.clamp fh' = loadIntegerScalar CInt.clamp fh :=
      funext fun _ => (he.loadIntegerScalar_eq hwf).symm
    refine ⟨fh'.names, nfs', ?_, hp, fun hv' => absurd hv' hv⟩
    simp only [loadDimensions, if_neg hv, ← h.loadIntegerScalar_eq hw, hcells, hfh', ok_bind,
      ← he.getNumObjs_eq, hpos, if_false, hload, hnfs']
    rfl

theorem checkIdentities_reorder (h : a.Equiv b) (hw : a.WellFormed)
    (hp : (modalities.zip numFeatures).Perm (modalities'.zip numFeatures'))
    (hlen : numFeatures.length = modalities.length)
    (hlen' : numFeatures'.length = modalities'.length)
    (hlegacy : version < 2000000 → modalities' = modalities ∧ numFeatures' = numFeatures)
    (hc : checkIdentities a paramInfo version modalities numFeatures = .ok ()) :
    checkIdentities b paramInfo version modalities' numFeatures' = .ok () := by
  by_cases hv : 2000000 ≤ version
  · simp only [checkIdentities, if_pos hv, bind_eq_ok] at hc ⊢
    obtain ⟨ih, hih, hc⟩ := hc
    obtain ⟨ih', hih', he, hwi⟩ := h.checkAndOpenGroup_ok hw hih
    refine ⟨ih', hih', (checkModalityIdentities_eq_ok_zip hlen').2 fun p hmem => ?_⟩
    obtain ⟨idx, hidx, hrest⟩ := (checkModalityIdentities_eq_ok_zip hlen).1 hc p
      (hp.mem_iff.2 hmem)
    exact ⟨idx, (he.loadIntegerVector_eq hwi).symm.trans hidx, hrest⟩
  · obtain ⟨rfl, rfl⟩ := hlegacy (by omega)
    rw [← hc]
    simp only [checkIdentities, if_neg hv, checkIdentityArray, h.loadIntegerVector_eq hw]

theorem validateResults_reorder (h : a.Equiv b) (hw : a.WellFormed)
    (hd : validateResults a paramInfo version = .ok d) :
    ∃ d', validateResults b paramInfo version = .ok d' ∧ d.Reordered d' := by
  obtain ⟨rh, ⟨modalities, numFeatures, numCells⟩, numSamples, hrh, hdims, hns, hid, rfl⟩ :=
    validateResults_eq_ok.1 hd
  obtain ⟨rh', hrh', hr, hwr⟩ := h.checkAndOpenGroup_ok hw hrh
  obtain ⟨modalities', numFeatures', hdims', hp, hlegacy⟩ := loadDimensions_reorder hr hwr hdims
  refine ⟨⟨modalities', numFeatures', numCells, numSamples⟩, validateResults_eq_ok.2
    ⟨rh', _, numSamples, hrh', hdims', (loadNumSamples_reorder hr hwr).symm.trans hns, ?_, rfl⟩,
    ⟨hp, rfl, rfl⟩⟩
  exact checkIdentities_reorder hr hwr hp (loadDimensions_length hdims).1
    (loadDimensions_length hdims').1 hlegacy hid

theorem validate_reorder (h : a.Equiv b) (hw : a.WellFormed)
    (hd : validate a embedded version = .ok d) :
    ∃ d', validate b embedded version = .ok d' ∧ d.Reordered d' := by
  obtain ⟨i, dump, hi, hdump, hres⟩ := validate_eq_ok.1 hd
  obtain ⟨i', hi', he, hwi⟩ := h.checkAndOpenGroup_ok hw hi
  obtain ⟨d', hres', hr⟩ := validateResults_reorder he hwi hres
  exact ⟨d', validate_eq_ok.2 ⟨i', dump, hi', (validateParameters_reorder he hwi).symm.trans hdump,
    hres'⟩, hr⟩

end Results

theorem validate_modalities_names (hd : validate handle embedded version = .ok d)
    (hv : 2000000 ≤ version) :
    ∃ ih rh fh, checkAndOpenGroup handle "inputs" = .ok ih ∧
      checkAndOpenGroup ih "results" = .ok rh ∧ checkAndOpenGroup rh "num_features" = .ok fh ∧
      d.modalities = fh.names := by
  obtain ⟨ih, dump, hi, -, hr⟩ := validate_eq_ok.1 hd
  obtain ⟨rh, ⟨mods, nf, cells⟩, ns, hrh, hdims, -, -, rfl⟩ := validateResults_eq_ok.1 hr
  obtain ⟨fh, hfh, rfl, -⟩ := loadDimensions_current (by omega) hdims
  exact ⟨ih, rh, fh, hi, hrh, hfh, rfl⟩

/-- `inputs::validate` does not depend on the order in which groups list their links. On a
file whose groups list the same links in another order, its parameters phase returns the same
result, failures included; and whenever it accepts the original, it accepts the reordered file
and returns the same modalities with the same feature counts and the same cell and sample
counts, since 2.0 listed in the order of the reordered `num_features` group. -/
theorem validate_reorder_links (a b : Container) (h : a.root.Equiv b.root) (embedded : Bool)
    (version : Int) :
    (checkAndOpenGroup a.root "inputs" >>= fun i => validateParameters i embedded version) =
      (checkAndOpenGroup b.root "inputs" >>= fun i => validateParameters i embedded version) ∧
    ∀ d, validate a.root embedded version = .ok d →
      ∃ d', validate b.root embedded version = .ok d' ∧ d.Reordered d' ∧
        (2000000 ≤ version → ∃ ih rh fh, checkAndOpenGroup b.root "inputs" = .ok ih ∧
          checkAndOpenGroup ih "results" = .ok rh ∧
          checkAndOpenGroup rh "num_features" = .ok fh ∧ d'.modalities = fh.names) := by
  refine ⟨h.checkAndOpenGroup_bind a.wellFormed fun i _ hwi hi => validateParameters_reorder hi hwi,
    fun d hd => ?_⟩
  obtain ⟨d', hd', hr⟩ := validate_reorder h a.wellFormed hd
  exact ⟨d', hd', hr, validate_modalities_names hd'⟩

theorem validate_reorder_links_swapped_modalities :
    (layout 2000000 ⟨["RNA", "ADT"], [3, 2], 5, 1⟩).Equiv
      (layout 2000000 ⟨["ADT", "RNA"], [2, 3], 5, 1⟩) ∧
    validate (layout 2000000 ⟨["RNA", "ADT"], [3, 2], 5, 1⟩) false 2000000 =
      .ok ⟨["RNA", "ADT"], [3, 2], 5, 1⟩ ∧
    (checkAndOpenGroup (layout 2000000 ⟨["RNA", "ADT"], [3, 2], 5, 1⟩) "inputs" >>= fun i =>
        validateParameters i false 2000000) =
      (checkAndOpenGroup (layout 2000000 ⟨["ADT", "RNA"], [2, 3], 5, 1⟩) "inputs" >>= fun i =>
        validateParameters i false 2000000) ∧
    ∃ d', validate (layout 2000000 ⟨["ADT", "RNA"], [2, 3], 5, 1⟩) false 2000000 = .ok d' ∧
      (⟨["RNA", "ADT"], [3, 2], 5, 1⟩ : Details).Reordered d' ∧
      (2000000 ≤ (2000000 : Int) → ∃ ih rh fh,
        checkAndOpenGroup (layout 2000000 ⟨["ADT", "RNA"], [2, 3], 5, 1⟩) "inputs" = .ok ih ∧
        checkAndOpenGroup ih "results" = .ok rh ∧
        checkAndOpenGroup rh "num_features" = .ok fh ∧ d'.modalities = fh.names) := by
  have h : (layout 2000000 ⟨["RNA", "ADT"], [3, 2], 5, 1⟩).Equiv
      (layout 2000000 ⟨["ADT", "RNA"], [2, 3], 5, 1⟩) :=
    .group (.cons (.group (.cons (.refl _) (.cons (.group (.cons (.refl _) (.cons (.group .swap)
      (.cons (.refl _) (.cons (.group .swap) .nil))))) .nil))) .nil)
  have hd : validate (layout 2000000 ⟨["RNA", "ADT"], [3, 2], 5, 1⟩) false 2000000 =
      .ok ⟨["RNA", "ADT"], [3, 2], 5, 1⟩ := by decide
  have hs := validate_reorder_links ⟨_, by decide⟩ ⟨_, by decide⟩ h false 2000000
  exact ⟨h, hd, hs.1, hs.2 _ hd⟩

end Kanaval.Inputs
