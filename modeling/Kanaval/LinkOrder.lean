import Kanaval.Inputs.Range
import Kanaval.Inputs.Reorder
import Kanaval.SelectionResults
import Kanaval.Pca
import Kanaval.CombineEmbeddings

namespace Kanaval
set_option autoImplicit true

namespace Pca

variable {a b : Node}

theorem validateParameters_reorder (h : a.Equiv b) (hw : a.WellFormed) :
    validateParameters a version = validateParameters b version :=
  h.checkAndOpenGroup_bind hw fun p _ hwp hp => by
    simp only [loadBlockMethod, hp.loadIntegerScalar_eq hwp, hp.loadString_eq hwp]

theorem validateResults_reorder (h : a.Equiv b) (hw : a.WellFormed) :
    validateResults a maxPcs blockMethod numCells version =
      validateResults b maxPcs blockMethod numCells version :=
  h.checkAndOpenGroup_bind hw fun r _ hwr hr => by
    simp only [checkPcaContents, checkCorrected, hr.checkAndOpenDataset_eq hwr,
      hr.checkAndOpenDatasetDims_eq hwr]

theorem validate_reorder (h : a.Equiv b) (hw : a.WellFormed) :
    validate a numCells version = validate b numCells version := by
  unfold validate
  exact h.checkAndOpenGroup_bind hw fun p _ hwp hp => by
    rw [validateParameters_reorder hp hwp]
    exact bind_congr fun _ => by rw [validateResults_reorder hp hwp]

end Pca

namespace CombineEmbeddings

variable {a b : Node}

theorem validateParameters_reorder (h : a.Equiv b) (hw : a.WellFormed) :
    validateParameters a modalities = validateParameters b modalities :=
  h.checkAndOpenGroup_bind hw fun p _ hwp hp => by
    rw [hp.checkAndOpenScalar_eq hwp]
    exact bind_congr fun _ => hp.checkAndOpenGroup_bind hwp fun w _ hww he => by
      simp only [he.getNumObjs_eq, he.checkAndOpenScalar_eq hww]

theorem validateResults_reorder (h : a.Equiv b) (hw : a.WellFormed) :
    validateResults a numCells modalities totalDims =
      validateResults b numCells modalities totalDims :=
  h.checkAndOpenGroup_bind hw fun r _ hwr hr => by
    simp only [hr.checkAndOpenDatasetDims_eq hwr]

theorem validate_reorder (h : a.Equiv b) (hw : a.WellFormed) :
    validate a numCells modalities totalDims version =
      validate b numCells modalities totalDims version := by
  unfold validate
  split_ifs
  · rfl
  · exact h.checkAndOpenGroup_bind hw fun p _ hwp hp => by
      simp only [validateParameters_reorder hp hwp, validateResults_reorder hp hwp]

theorem validate_perm_modalities (hp : modalities.Perm modalities') :
    validate handle numCells modalities totalDims version = .ok () ↔
      validate handle numCells modalities' totalDims version = .ok () := by
  unfold validate
  split_ifs
  · rfl
  · simp only [bind_eq_ok, exists_punit, combineErrors_eq_ok, validateParameters_eq_ok,
      validateResults_eq_ok, hp.length_eq, hp.mem_iff]

end CombineEmbeddings

namespace CustomSelections

variable {a b sh sh' : Node}

theorem statisticsPresent_reorder (h : a.Equiv b) (hw : a.WellFormed) :
    StatisticsPresent a dims ↔ StatisticsPresent b dims := by
  simp only [StatisticsPresent, h.checkAndOpenDatasetDims_eq hw]

theorem selectionStatistics_zip (hv : 2000000 ≤ version)
    (hlen : numFeatures.length = modalities.length) :
    SelectionStatistics version modalities numFeatures sh ↔
      ∀ p ∈ modalities.zip numFeatures, ∃ ah, checkAndOpenGroup sh p.1 = .ok ah ∧
        StatisticsPresent ah [p.2.toSize] := by
  rw [SelectionStatistics, if_pos hv]
  refine Iff.trans ?_ (forall_mem_zip_iff hlen (P := fun modality n =>
    ∃ ah, checkAndOpenGroup sh modality = .ok ah ∧ StatisticsPresent ah [n.toSize])).symm
  exact forall_congr' fun m => forall_congr' fun hm => by
    rw [List.getD_eq_getElem?_getD, List.getElem?_eq_getElem (hlen ▸ hm), Option.getD_some]

theorem selectionStatistics_reorder (h : sh.Equiv sh') (hw : sh.WellFormed)
    (hp : (modalities.zip numFeatures).Perm (modalities'.zip numFeatures'))
    (hlen : numFeatures.length = modalities.length)
    (hlen' : numFeatures'.length = modalities'.length)
    (hlegacy : version < 2000000 → modalities' = modalities ∧ numFeatures' = numFeatures)
    (hs : SelectionStatistics version modalities numFeatures sh) :
    SelectionStatistics version modalities' numFeatures' sh' := by
  by_cases hv : 2000000 ≤ version
  · rw [selectionStatistics_zip hv hlen] at hs
    rw [selectionStatistics_zip hv hlen']
    intro p hmem
    obtain ⟨ah, hah, hstat⟩ := hs p (hp.mem_iff.2 hmem)
    obtain ⟨ah', hah', he, hwa⟩ := h.checkAndOpenGroup_ok hw hah
    exact ⟨ah', hah', (statisticsPresent_reorder he hwa).1 hstat⟩
  · obtain ⟨rfl, rfl⟩ := hlegacy (by omega)
    simp only [SelectionStatistics, if_neg hv] at hs ⊢
    exact (statisticsPresent_reorder h hw).1 hs

theorem selectionsInRange_reorder (h : a.Equiv b) (hw : a.WellFormed)
    (hs : SelectionsInRange a numCells selections) :
    ∃ selections', SelectionsInRange b numCells selections' ∧ selections.Perm selections' := by
  obtain ⟨ph, sh, hph, hsh, rfl, hin⟩ := hs
  obtain ⟨ph', hph', hp, hwp⟩ := h.checkAndOpenGroup_ok hw hph
  obtain ⟨sh', hsh', hs, hws⟩ := hp.checkAndOpenGroup_ok hwp hsh
  refine ⟨sh'.names, ⟨ph', sh', hph', hsh', rfl, fun name hn => ?_⟩, hs.names_perm⟩
  obtain ⟨d, hd, hrest⟩ := hin name (hs.names_perm.mem_iff.2 hn)
  exact ⟨d, hs.child?_dataset hws.names_nodup hd, hrest⟩

theorem customSelectionsValid_reorder (h : a.Equiv b) (hw : a.WellFormed)
    (hp : (modalities.zip numFeatures).Perm (modalities'.zip numFeatures'))
    (hlen : numFeatures.length = modalities.length)
    (hlen' : numFeatures'.length = modalities'.length)
    (hlegacy : version < 2000000 → modalities' = modalities ∧ numFeatures' = numFeatures)
    (hv : CustomSelectionsValid a numCells modalities numFeatures version) :
    CustomSelectionsValid b numCells modalities' numFeatures' version := by
  obtain ⟨mh, sels, rh, rg, hmh, hsel, hrh, hrg, hperm, hstats⟩ := hv
  obtain ⟨mh', hmh', hm, hwm⟩ := h.checkAndOpenGroup_ok hw hmh
  obtain ⟨sels', hsel', hsp⟩ := selectionsInRange_reorder hm hwm hsel
  obtain ⟨rh', hrh', hr, hwr⟩ := hm.checkAndOpenGroup_ok hwm hrh
  obtain ⟨rg', hrg', hg, hwg⟩ := hr.checkAndOpenGroup_ok hwr hrg
  refine ⟨mh', sels', rh', rg', hmh', hsel', hrh', hrg',
    hg.names_perm.symm.trans (hperm.trans hsp), fun s hs => ?_⟩
  obtain ⟨sh, hsh, hstat⟩ := hstats s (hsp.mem_iff.2 hs)
  obtain ⟨sh', hsh', he, hws⟩ := hg.checkAndOpenGroup_ok hwg hsh
  exact ⟨sh', hsh', selectionStatistics_reorder he hws hp hlen hlen' hlegacy hstat⟩

end CustomSelections

section Stages

theorem Inputs.Details.Reordered.legacy {c c' : Container} {d d' : Inputs.Details}
    (hd : Inputs.validate c.root embedded version = .ok d)
    (hd' : Inputs.validate c'.root embedded version = .ok d') (hr : d.Reordered d')
    (hv : version < 2000000) : d'.modalities = d.modalities ∧ d'.numFeatures = d.numFeatures := by
  have ha := Inputs.validate_admissible c hd
  have ha' := Inputs.validate_admissible c' hd'
  obtain ⟨n0, hnf, -⟩ := ha.legacy_features hv
  obtain ⟨n1, hnf', -⟩ := ha'.legacy_features hv
  have hp := hr.pairs
  rw [(ha.legacy hv).1, (ha'.legacy hv).1, hnf, hnf'] at hp
  simp only [List.zip_cons_cons, List.zip_nil_right, List.perm_singleton, List.cons.injEq,
    Prod.mk.injEq, true_and, and_true] at hp
  rw [(ha.legacy hv).1, (ha'.legacy hv).1, hnf, hnf', hp]
  exact ⟨rfl, rfl⟩

/-- Reordering the links of a file changes the verdict of no later validator, each handed the
details that `inputs::validate` returns on that file: `custom_selections` and
`combine_embeddings` accept the one file exactly when they accept the other, and `pca` returns
the same result, failures included. -/
theorem stages_reorder_links (a b : Container) (h : a.root.Equiv b.root) (embedded : Bool)
    (version : Int) (d : Inputs.Details) (hd : Inputs.validate a.root embedded version = .ok d) :
    ∃ d', Inputs.validate b.root embedded version = .ok d' ∧
      (CustomSelections.validate a.root d.numCells d.modalities d.numFeatures version = .ok () ↔
        CustomSelections.validate b.root d'.numCells d'.modalities d'.numFeatures version =
          .ok ()) ∧
      (∀ totalDims,
        CombineEmbeddings.validate a.root d.numCells d.modalities totalDims version = .ok () ↔
          CombineEmbeddings.validate b.root d'.numCells d'.modalities totalDims version = .ok ()) ∧
      Pca.validate a.root d.numCells version = Pca.validate b.root d'.numCells version := by
  obtain ⟨d', hd', hr⟩ := Inputs.validate_reorder h a.wellFormed hd
  have hlen := (Inputs.validate_lengths hd).1
  have hlen' := (Inputs.validate_lengths hd').1
  have hlegacy := hr.legacy hd hd'
  have hmods : d.modalities.Perm d'.modalities := by
    simpa only [List.map_fst_zip _ _ hlen.ge, List.map_fst_zip _ _ hlen'.ge] using
      hr.pairs.map Prod.fst
  refine ⟨d', hd', ?_, fun totalDims => ?_, ?_⟩
  · rw [← hr.numCells, CustomSelections.validate_accepts_iff_valid a.root a.wellFormed _ _ _ _
      hlen.ge fun _ => Inputs.validate_numFeatures_ne_nil hd,
      CustomSelections.validate_accepts_iff_valid b.root b.wellFormed _ _ _ _ hlen'.ge fun _ =>
        Inputs.validate_numFeatures_ne_nil hd']
    exact ⟨CustomSelections.customSelectionsValid_reorder h a.wellFormed hr.pairs hlen hlen'
      hlegacy, CustomSelections.customSelectionsValid_reorder h.symm b.wellFormed hr.pairs.symm
      hlen' hlen fun hv => (hlegacy hv).imp Eq.symm Eq.symm⟩
  · rw [← hr.numCells, CombineEmbeddings.validate_reorder h a.wellFormed]
    exact CombineEmbeddings.validate_perm_modalities hmods
  · rw [← hr.numCells]
    exact Pca.validate_reorder h a.wellFormed

def reorderedTwoModalityFile : Node :=
  .group (CustomSelections.twoModalitySelection.children ++ Inputs.twoModalityInputs.children)

theorem stages_reorder_links_two_modality_file :
    CustomSelections.twoModalityFile.Equiv reorderedTwoModalityFile ∧
    Inputs.validate CustomSelections.twoModalityFile false 2000000 =
      .ok ⟨["ADT", "RNA"], [2, 3], 5, 1⟩ ∧
    ∃ d', Inputs.validate reorderedTwoModalityFile false 2000000 = .ok d' ∧
      (CustomSelections.validate CustomSelections.twoModalityFile 5 ["ADT", "RNA"] [2, 3]
          2000000 = .ok () ↔
        CustomSelections.validate reorderedTwoModalityFile d'.numCells d'.modalities
          d'.numFeatures 2000000 = .ok ()) ∧
      (∀ totalDims, CombineEmbeddings.validate CustomSelections.twoModalityFile 5
          ["ADT", "RNA"] totalDims 2000000 = .ok () ↔
        CombineEmbeddings.validate reorderedTwoModalityFile d'.numCells d'.modalities totalDims
          2000000 = .ok ()) ∧
      Pca.validate CustomSelections.twoModalityFile 5 2000000 =
        Pca.validate reorderedTwoModalityFile d'.numCells 2000000 := by
  have h : CustomSelections.twoModalityFile.Equiv reorderedTwoModalityFile :=
    .group (Node.Links.of_perm List.perm_append_comm)
  have hd : Inputs.validate CustomSelections.twoModalityFile false 2000000 =
      .ok ⟨["ADT", "RNA"], [2, 3], 5, 1⟩ := by decide
  have hs := stages_reorder_links ⟨_, by decide⟩ ⟨_, by decide⟩ h false 2000000 _ hd
  exact ⟨h, hd, hs⟩

end Stages

end Kanaval
