import Kanaval.Inputs.Details

namespace Kanaval.Inputs
set_option autoImplicit true

/-- The `Details` that a kana file can hold: at least one modality, no modality twice, a
non-negative feature count for each, and before 2.0 the RNA modality alone with a
non-negative cell count. -/
structure Admissible (version : Int) (d : Details) : Prop where
  nonempty : d.modalities ≠ []
  nodup : d.modalities.Nodup
  lengths : d.numFeatures.length = d.modalities.length
  nonneg : ∀ n ∈ d.numFeatures, 0 ≤ n.val
  legacy : version < 2000000 → d.modalities = ["RNA"] ∧ 0 ≤ d.numCells.val

theorem validate_admissible (c : Container) (h : validate c.root embedded version = .ok d) :
    Admissible version d := by
  obtain ⟨inputs, dump, hin, -, hr⟩ := validate_eq_ok.1 h
  obtain ⟨hinc, -⟩ := checkAndOpenGroup_eq_ok.1 hin
  obtain ⟨rhandle, ⟨mods, nf, cells⟩, ns, hrh, hdims, -, hid, rfl⟩ := validateResults_eq_ok.1 hr
  obtain ⟨hrc, -⟩ := checkAndOpenGroup_eq_ok.1 hrh
  obtain ⟨hlen, hpos, hnd⟩ := loadDimensions_spec ((c.wellFormed.child hinc).child hrc) hdims
  have hlegacy (hv : version < 2000000) : ∃ d0, mods = ["RNA"] ∧ nf = [d0] ∧ 0 ≤ d0.val := by
    obtain ⟨d0, h1, h2, h3, -⟩ := loadDimensions_legacy hv hdims
    exact ⟨d0, h1, h2, h3⟩
  refine ⟨List.ne_nil_of_length_pos hpos, hnd, hlen, fun n hn => ?_, fun hv => ?_⟩
  · obtain ⟨m, hm, rfl⟩ := List.getElem_of_mem hn
    obtain ⟨n', -, hn', h0, -⟩ := checkIdentities_lengths hid hlen hlegacy m (hlen ▸ hm)
    rw [List.getElem?_eq_getElem hm, Option.some.injEq] at hn'
    exact hn' ▸ h0
  · obtain ⟨-, h1, -, -, h4⟩ := loadDimensions_legacy hv hdims
    exact ⟨h1, h4⟩

section Layout

open Node

def rowsInOrder (n : CInt) : Node := intArray ((List.range n.val.toNat).map Int.ofNat)

def perModality (d : Details) (entry : CInt → Node) : List (String × Node) :=
  (d.modalities.zip d.numFeatures).map fun p => (p.1, entry p.2)

def layoutParameters : Node :=
  .group [("format", stringScalar "x"), ("files", .group []), ("sample_factor", stringScalar "s")]

def currentResults (d : Details) : Node :=
  .group [("num_cells", intScalar d.numCells.val),
    ("num_features", .group (perModality d fun n => intScalar n.val)),
    ("num_samples", intScalar d.numSamples.val),
    ("identities", .group (perModality d rowsInOrder))]

def legacyResults (d : Details) : Node :=
  .group [("dimensions", intArray [(d.numFeatures.headD 0).val, d.numCells.val]),
    ("num_samples", intScalar d.numSamples.val),
    ("identities", rowsInOrder (d.numFeatures.headD 0)),
    ("permutation", rowsInOrder (d.numFeatures.headD 0))]

def layoutResults (version : Int) (d : Details) : Node :=
  if 2000000 ≤ version then currentResults d else legacyResults d

/-- A kana file whose `inputs` hold `d`. -/
def layout (version : Int) (d : Details) : Node :=
  .group [("inputs", .group [("parameters", layoutParameters),
    ("results", layoutResults version d)])]

end Layout

section Reading

open Node

variable {h : Node} {name : String} {n : CInt}

theorem Admissible.legacy_features (hd : Admissible version d) (hv : version < 2000000) :
    ∃ n0, d.numFeatures = [n0] ∧ d.numFeatures.headD 0 = n0 ∧ 0 ≤ n0.val := by
  obtain ⟨n0, hnf⟩ := List.length_eq_one.1 (by rw [hd.lengths, (hd.legacy hv).1]; rfl)
  exact ⟨n0, hnf, by rw [hnf]; rfl, hd.nonneg _ (by simp [hnf])⟩

end Reading

example : validate (layout 2000000 ⟨["RNA"], [3], CInt.wrap (-5), 7⟩) false 2000000 =
    .ok ⟨["RNA"], [3], CInt.wrap (-5), 7⟩ := by
  decide

end Kanaval.Inputs
