import Mathlib.Data.Int.Interval
import Kanaval.Inputs.Results

namespace Kanaval.Inputs
set_option autoImplicit true

theorem CInt.val_injective : Function.Injective CInt.val := fun _ _ h => CInt.ext h

theorem nodup_map_val {xs : List CInt} : (xs.map CInt.val).Nodup ↔ xs.Nodup :=
  List.nodup_map_iff CInt.val_injective

theorem length_le_of_nonneg_nodup {xs : List CInt} (hneg : ∀ i ∈ xs, 0 ≤ i.val)
    (hnd : xs.Nodup) : xs.length ≤ 2^31 := by
  have hsub : (xs.map CInt.val).toFinset ⊆ Finset.Ico 0 (2^31) := by
    intro v hv
    simp only [List.mem_toFinset, List.mem_map] at hv
    obtain ⟨i, hi, rfl⟩ := hv
    simpa using And.intro (hneg i hi) i.lt
  have hcard := Finset.card_le_card hsub
  rw [List.toFinset_card_of_nodup (nodup_map_val.2 hnd), Int.card_Ico] at hcard
  simpa using hcard

section Unique

variable {msg : String} {used idx : List CInt}

theorem checkUniqueLoop_eq_ok :
    checkUniqueLoop msg used idx = .ok () ↔ (∀ i ∈ idx, 0 ≤ i.val ∧ i ∉ used) ∧ idx.Nodup := by
  induction idx generalizing used with
  | nil => simp [checkUniqueLoop]
  | cons i rest ih =>
    simp only [checkUniqueLoop, List.forall_mem_cons, List.nodup_cons]
    split_ifs with hneg hused
    · simp only [throwRuntime_ne_ok, false_iff, not_and]
      omega
    · simp [hused]
    · simp only [ih, List.mem_cons, not_or]
      constructor
      · rintro ⟨hrest, hnd⟩
        exact ⟨⟨⟨by omega, hused⟩, fun j hj => ⟨(hrest j hj).1, (hrest j hj).2.2⟩⟩,
          fun hi => (hrest i hi).2.1 rfl, hnd⟩
      · rintro ⟨⟨-, hrest⟩, hi, hnd⟩
        exact ⟨fun j hj => ⟨(hrest j hj).1, fun he => hi (he ▸ hj), (hrest j hj).2⟩, hnd⟩

theorem checkUnique_eq_ok : checkUnique idx msg = .ok () ↔ (∀ i ∈ idx, 0 ≤ i.val) ∧ idx.Nodup := by
  simp [checkUnique, checkUniqueLoop_eq_ok]

theorem inBounds_checkUniqueLoop : InBounds (checkUniqueLoop msg used idx) := by
  induction idx generalizing used with
  | nil => trivial
  | cons i rest ih =>
    simp only [checkUniqueLoop]
    split_ifs <;> simp [ih]

end Unique

/-- A row-identity array as the format asks for it: present, one value per feature of entry
`m` of `num_features`, non-negative and without repeats. -/
def IdentityArrayOk (handle : Node) (name : String) (numFeatures : List CInt) (m : Nat) :
    Prop :=
  ∃ idx n, loadIntegerVector handle name = .ok idx ∧ numFeatures[m]? = some n ∧
    (idx.length : Int) = n.val ∧ (∀ i ∈ idx, 0 ≤ i.val) ∧ idx.Nodup

theorem checkIdentityArray_eq_ok :
    checkIdentityArray handle name numFeatures m lm um = .ok () ↔
      IdentityArrayOk handle name numFeatures m := by
  simp only [checkIdentityArray, bind_eq_ok, elementAt_eq_ok, pure_bind, throwRuntime_bind,
    ite_throwRuntime_eq_ok, not_not, IdentityArrayOk, checkUnique_eq_ok]
  constructor
  · rintro ⟨idx, hidx, n, hn, hlen, hneg, hnd⟩
    have hshort := length_le_of_nonneg_nodup hneg hnd
    exact ⟨idx, n, hidx, hn, (n.toSize_eq_iff idx.length (by omega)).1 hlen, hneg, hnd⟩
  · rintro ⟨idx, n, hidx, hn, hlen, hneg, hnd⟩
    have hshort := length_le_of_nonneg_nodup hneg hnd
    exact ⟨idx, hidx, n, hn, (n.toSize_eq_iff idx.length (by omega)).2 hlen, hneg, hnd⟩

theorem checkModalityIdentities_eq_ok :
    checkModalityIdentities ihandle modalities numFeatures = .ok () ↔
      ∀ m (hm : m < modalities.length), IdentityArrayOk ihandle modalities[m] numFeatures m := by
  simp only [checkModalityIdentities, forM_eq_ok, List.mem_range, bind_eq_ok,
    checkIdentityArray_eq_ok]
  refine forall_congr' fun m => ⟨fun h hm => ?_, fun h hm => ⟨_, elementAt_of_lt hm, h hm⟩⟩
  obtain ⟨modality, hmod, hok⟩ := h hm
  rw [elementAt_of_lt hm, Except.ok.injEq] at hmod
  exact hmod ▸ hok

def ModalityIdentitiesOk (ihandle : Node) (modality : String) (n : CInt) : Prop :=
  ∃ idx, loadIntegerVector ihandle modality = .ok idx ∧ (idx.length : Int) = n.val ∧
    (∀ i ∈ idx, 0 ≤ i.val) ∧ idx.Nodup

theorem checkModalityIdentities_eq_ok_zip (hlen : numFeatures.length = modalities.length) :
    checkModalityIdentities ihandle modalities numFeatures = .ok () ↔
      ∀ p ∈ modalities.zip numFeatures, ModalityIdentitiesOk ihandle p.1 p.2 := by
  rw [checkModalityIdentities_eq_ok, forall_mem_zip_iff hlen]
  refine forall_congr' fun m => forall_congr' fun hm => ?_
  simp only [IdentityArrayOk, ModalityIdentitiesOk, List.getElem?_eq_getElem (hlen ▸ hm),
    Option.some.injEq]
  exact ⟨fun ⟨idx, _, hidx, hn, hrest⟩ => ⟨idx, hidx, hn ▸ hrest⟩,
    fun ⟨idx, hidx, hrest⟩ => ⟨idx, _, hidx, rfl, hrest⟩⟩

/-- The row identities the format asks for, by version: one array per modality since 2.0,
one `identities` array since 1.2, and one `indices` array before that. -/
def IdentitiesAccepted (rhandle : Node) (version : Int) (modalities : List String)
    (numFeatures : List CInt) : Prop :=
  if 2000000 ≤ version then
    ∃ ihandle, checkAndOpenGroup rhandle "identities" = .ok ihandle ∧
      ∀ m (hm : m < modalities.length), IdentityArrayOk ihandle modalities[m] numFeatures m
  else if 1002000 ≤ version then IdentityArrayOk rhandle "identities" numFeatures 0
  else IdentityArrayOk rhandle "indices" numFeatures 0

theorem checkIdentities_eq_ok_iff (hv : 1002000 ≤ version ∨ paramInfo.multiMatrix = true) :
    (checkIdentities rhandle paramInfo version modalities numFeatures = .ok () ↔
      IdentitiesAccepted rhandle version modalities numFeatures) ∧
    (∀ (idx : List CInt) (msg : String),
      checkUnique idx msg = .ok () ↔ (∀ i ∈ idx, 0 ≤ i.val) ∧ idx.Nodup) ∧
    ∀ (idx idx' : List CInt) (msg : String), idx.Perm idx' →
      (checkUnique idx msg = .ok () ↔ checkUnique idx' msg = .ok ()) := by
  refine ⟨?_, fun _ _ => checkUnique_eq_ok, fun idx idx' msg hp => ?_⟩
  · unfold checkIdentities IdentitiesAccepted
    split_ifs with h2 h1 hm
    · simp only [bind_eq_ok, checkModalityIdentities_eq_ok]
    · exact checkIdentityArray_eq_ok
    · exact checkIdentityArray_eq_ok
    · exact absurd (hv.resolve_left h1) hm
  · simp only [checkUnique_eq_ok, hp.nodup_iff]
    exact and_congr_left' ⟨fun h i hi => h i (hp.mem_iff.2 hi), fun h i hi => h i (hp.mem_iff.1 hi)⟩

theorem checkIdentities_indices_eq_ok_iff :
    (1002000 ≤ (1001000 : Int) ∨ (⟨2, true, false⟩ : ParamDump).multiMatrix = true) ∧
    checkIdentities (.group [("indices", Node.intArray [1, 0, 2])]) ⟨2, true, false⟩ 1001000
      ["RNA"] [3] = .ok () ∧
    ((checkIdentities (.group [("indices", Node.intArray [1, 0, 2])]) ⟨2, true, false⟩ 1001000
        ["RNA"] [3] = .ok () ↔
      IdentitiesAccepted (.group [("indices", Node.intArray [1, 0, 2])]) 1001000 ["RNA"] [3]) ∧
    (∀ (idx : List CInt) (msg : String),
      checkUnique idx msg = .ok () ↔ (∀ i ∈ idx, 0 ≤ i.val) ∧ idx.Nodup) ∧
    ∀ (idx idx' : List CInt) (msg : String), idx.Perm idx' →
      (checkUnique idx msg = .ok () ↔ checkUnique idx' msg = .ok ())) :=
  ⟨by decide, by decide, checkIdentities_eq_ok_iff (by decide)⟩

/-- `perms` lists each of `0, …, n - 1` exactly once. -/
def IsPermutation (perms : List CInt) (n : Nat) : Prop :=
  (perms.map CInt.val).Perm ((List.range n).map Nat.cast)

theorem nodup_range_cast (n : Nat) : ((List.range n).map (Nat.cast : Nat → Int)).Nodup :=
  (List.nodup_range n).map Nat.cast_injective

theorem mem_range_cast {n : Nat} {a : Int} :
    a ∈ (List.range n).map (Nat.cast : Nat → Int) ↔ 0 ≤ a ∧ a < n := by
  simp only [List.mem_map, List.mem_range]
  constructor
  · rintro ⟨k, hk, rfl⟩
    omega
  · rintro ⟨h0, hn⟩
    exact ⟨a.toNat, by omega, by omega⟩

theorem isPermutation_iff {perms : List CInt} :
    IsPermutation perms perms.length ↔
      (∀ p ∈ perms, 0 ≤ p.val ∧ p.val < perms.length) ∧ perms.Nodup := by
  unfold IsPermutation
  constructor
  · intro hp
    refine ⟨fun p hp' => mem_range_cast.1 (hp.mem_iff.1 (List.mem_map_of_mem _ hp')), ?_⟩
    exact nodup_map_val.1 (hp.nodup_iff.2 (nodup_range_cast _))
  · rintro ⟨hrange, hnd⟩
    have hnd' := nodup_map_val.2 hnd
    rw [List.perm_ext_iff_of_nodup hnd' (nodup_range_cast _)]
    have hsub : (perms.map CInt.val).toFinset ⊆ Finset.Ico 0 perms.length := by
      intro v hv
      simp only [List.mem_toFinset, List.mem_map] at hv
      obtain ⟨p, hp, rfl⟩ := hv
      simpa using hrange p hp
    have heq := Finset.eq_of_subset_of_card_le hsub (by
      rw [List.toFinset_card_of_nodup hnd', Int.card_Ico]
      simp)
    intro a
    rw [mem_range_cast, ← List.mem_toFinset, heq]
    simp

theorem getElem?_set_true {used : List Bool} (h : i < used.length) :
    (used.set i true)[j]? = some false ↔ i ≠ j ∧ used[j]? = some false := by
  rw [List.getElem?_set]
  split_ifs <;> simp_all

theorem checkPermutationLoop_eq_ok {used : List Bool} (hlen : used.length = size) :
    checkPermutationLoop size used perms = .ok () ↔
      (∀ p ∈ perms, 0 ≤ p.val ∧ p.val < size ∧ used[p.val.toNat]? = some false) ∧
        perms.Nodup := by
  induction perms generalizing used with
  | nil => simp [checkPermutationLoop]
  | cons p rest ih =>
    simp only [checkPermutationLoop, List.forall_mem_cons, List.nodup_cons]
    split_ifs with hr
    · simp only [throwRuntime_ne_ok, false_iff, not_and]
      have := p.toSize_of_nonneg
      omega
    · have hp0 : 0 ≤ p.val := by omega
      have hts := p.toSize_of_nonneg hp0
      have hlt : p.val.toNat < used.length := by omega
      simp only [hts]
      simp only [elementAt_of_lt hlt, ok_bind, pure_bind, throwRuntime_bind,
        ite_throwRuntime_eq_ok, @ih (used.set p.val.toNat true) (by simp [hlen]),
        getElem?_set_true hlt, Bool.not_eq_true,
        List.getElem?_eq_getElem hlt, Option.some.injEq]
      constructor
      · rintro ⟨hu, hrest, hnd⟩
        refine ⟨⟨⟨hp0, by omega, hu⟩, fun q hq => ?_⟩, fun hq => ?_, hnd⟩
        · exact ⟨(hrest q hq).1, (hrest q hq).2.1, (hrest q hq).2.2.2⟩
        · exact (hrest p hq).2.2.1 rfl
      · rintro ⟨⟨⟨-, -, hu⟩, hrest⟩, hnotin, hnd⟩
        refine ⟨hu, fun q hq => ⟨(hrest q hq).1, (hrest q hq).2.1, fun he => ?_, (hrest q hq).2.2⟩,
          hnd⟩
        have hq0 := (hrest q hq).1
        have hqp : q = p := CInt.ext (by omega)
        exact hnotin (hqp ▸ hq)

theorem inBounds_checkPermutationLoop {used : List Bool} (hlen : used.length = size) :
    InBounds (checkPermutationLoop size used perms) := by
  induction perms generalizing used with
  | nil => trivial
  | cons p rest ih =>
    simp only [checkPermutationLoop]
    split_ifs with hr
    · trivial
    · have hlt : p.toSize < used.length := by omega
      simp [elementAt_of_lt hlt, ih (by simp [hlen] : (used.set p.toSize true).length = size)]

theorem checkPermutation_eq_ok {perms rest : List CInt} {n : CInt} (hn : 0 ≤ n.val) :
    checkPermutation perms (n :: rest) = .ok () ↔
      (perms.length : Int) = n.val ∧ IsPermutation perms n.val.toNat := by
  have hn' := n.toSize_of_nonneg hn
  simp only [checkPermutation, elementAt_of_lt (List.length_pos.2 (List.cons_ne_nil n rest)),
    List.getElem_cons_zero, ok_bind, pure_bind, throwRuntime_bind, ite_throwRuntime_eq_ok,
    not_not, checkPermutationLoop_eq_ok (List.length_replicate _ _), List.getElem?_replicate]
  constructor
  · rintro ⟨hlen, hall, hnd⟩
    have hl : perms.length = n.val.toNat := by omega
    refine ⟨by omega, hl ▸ isPermutation_iff.2 ⟨fun p hp => ?_, hnd⟩⟩
    exact ⟨(hall p hp).1, (hall p hp).2.1⟩
  · rintro ⟨hlen, hperm⟩
    have hl : perms.length = n.val.toNat := by omega
    obtain ⟨hall, hnd⟩ := isPermutation_iff.1 (hl ▸ hperm)
    refine ⟨by omega, fun p hp => ?_, hnd⟩
    have := hall p hp
    exact ⟨this.1, this.2, by simp; omega⟩

theorem inBounds_checkPermutation {perms rest : List CInt} {n : CInt} :
    InBounds (checkPermutation perms (n :: rest)) := by
  simp [checkPermutation, elementAt_of_lt (List.length_pos.2 (List.cons_ne_nil n rest)),
    inBounds_checkPermutationLoop (List.length_replicate _ _)]

/-- The legacy single-matrix branch accepts exactly a permutation of `[0, n)`, and never
reads `used` past its end. -/
theorem checkPermutation_eq_ok_iff (perms rest : List CInt) (n : CInt) (hn : 0 ≤ n.val) :
    (checkPermutation perms (n :: rest) = .ok () ↔
      (perms.length : Int) = n.val ∧ IsPermutation perms n.val.toNat) ∧
    InBounds (checkPermutation perms (n :: rest)) :=
  ⟨checkPermutation_eq_ok hn, inBounds_checkPermutation⟩

theorem checkPermutation_swap :
    0 ≤ (2 : CInt).val ∧
    ((checkPermutation [1, 0] [2] = .ok () ↔
      (([1, 0] : List CInt).length : Int) = (2 : CInt).val ∧
        IsPermutation [1, 0] (2 : CInt).val.toNat) ∧
    InBounds (checkPermutation [1, 0] [2])) :=
  ⟨by decide, checkPermutation_eq_ok_iff [1, 0] [] 2 (by decide)⟩

end Kanaval.Inputs
