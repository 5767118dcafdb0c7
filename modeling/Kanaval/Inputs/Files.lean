import Mathlib.Algebra.Order.Ring.Int
import Mathlib.Algebra.Order.Ring.Nat
import Kanaval.Inputs.Parameters

namespace Kanaval.Inputs
set_option autoImplicit true

open Node in
def linkedFiles (types : List String) : Node :=
  .group ((List.range types.length).zip types |>.map fun (p, t) =>
    (toString p, .group [("name", stringScalar "f"), ("type", stringScalar t),
      ("id", stringScalar "i")]))

open Node in
def wrappedGroupsInputs (groups : List Int) (formats types : List String) : Node :=
  .group [("parameters", .group [
    ("format", stringArray formats),
    ("files", linkedFiles types),
    ("sample_groups", intArray groups),
    ("sample_names", stringArray ["a", "b", "c"])])]

/-- `sample_groups = [INT_MIN, INT_MIN, 3]` over three files passes: the groups need not be
non-negative, nor sum to the number of files outside 32-bit arithmetic. -/
theorem validateParameters_accepts_wrapped_groups :
    validateParameters (wrappedGroupsInputs [-2^31, -2^31, 3] ["x", "x", "x"] ["a", "b", "c"])
      false 1001000 = .ok ⟨3, true, true⟩ ∧
    ([-2^31, -2^31, 3] : List Int).sum ≠ 3 ∧ ∃ g ∈ ([-2^31, -2^31, 3] : List Int), g < 0 := by
  decide

/-- The types of the files a partition by `groups` puts in run `r`: the positions of `files`
from `Σ_{j<r} g_j` to `Σ_{j≤r} g_j - 1`. -/
def partitionTypes (fihandle : Node) (groups : List Int) (r : Nat) : List String :=
  ((List.range fihandle.getNumObjs).filter fun p =>
      (groups.take r).sum ≤ p ∧ (p : Int) < (groups.take (r + 1)).sum).filterMap fun p =>
    match checkAndOpenGroup fihandle (toString p) >>= fun f => loadString f "type" with
    | .ok t => some t
    | .error _ => none

/-- With `sample_groups = [INT_MIN, INT_MIN, 1]` the one `h5` file is checked as the run of the
third format `10X`, although the partition by the groups' sums gives that run no file. -/
theorem validateParameters_accepts_wrapped_run :
    validateParameters (wrappedGroupsInputs [-2^31, -2^31, 1] ["x", "x", "10X"] ["h5"])
      false 1001000 = .ok ⟨3, true, true⟩ ∧
    partitionTypes (linkedFiles ["h5"]) [-2^31, -2^31, 1] 2 = [] ∧
    checkTypes "10X" [] ≠ .ok () := by
  decide

section SampleGroups

variable {phandle : Node} {formats : List String} {runs : List CInt} {init : CInt}

theorem checkSampleNames_eq_ok :
    checkSampleNames stuff names = .ok () ↔ (∀ s ∈ names, s ∉ stuff) ∧ names.Nodup := by
  induction names generalizing stuff with
  | nil => simp [checkSampleNames]
  | cons s rest ih =>
    simp only [checkSampleNames, ite_throwRuntime_eq_ok, ih, List.nodup_cons]
    rw [List.forall_mem_cons]
    simp only [List.mem_cons, not_or]
    constructor
    · rintro ⟨hs, hrest, hnd⟩
      exact ⟨⟨hs, fun x hx => (hrest x hx).2⟩, fun hx => (hrest s hx).1 rfl, hnd⟩
    · rintro ⟨⟨hs, hrest⟩, hnotin, hnd⟩
      exact ⟨hs, fun x hx => ⟨fun he => hnotin (he ▸ hx), hrest x hx⟩, hnd⟩

theorem accumulate_eq_wrap :
    accumulate runs init = CInt.wrap (init.val + (runs.map CInt.val).sum) := by
  induction runs generalizing init with
  | nil => simp [accumulate]
  | cons g gs ih =>
    show accumulate gs (CInt.wrap (init.val + g.val)) = _
    rw [ih, CInt.wrap_wrap_add, List.map_cons, List.sum_cons, add_assoc]

theorem loadSampleGroups_length_sum (h : loadSampleGroups phandle formats nfiles = .ok runs) :
    runs.length = formats.length ∧ (runs.map CInt.val).sum % 2^32 = nfiles % 2^32 := by
  simp only [loadSampleGroups, bind_eq_ok, pure_bind, throwRuntime_bind, ite_throwRuntime_eq_ok,
    not_not, exists_punit, Except.ok.injEq, accumulate_eq_wrap, CInt.wrap_eq_wrap_iff,
    CInt.val_zero, zero_add] at h
  obtain ⟨_, -, hl, hs, -, -, -, -, rfl⟩ := h
  exact ⟨hl, hs⟩

/-- The multi-matrix check of `sample_groups` and `sample_names` returns the groups exactly
when both have one entry per format, the sample names are distinct, and the groups sum to the
number of files modulo `2^32`. -/
theorem loadSampleGroups_accepts_iff :
    loadSampleGroups phandle formats nfiles = .ok runs ↔
      loadIntegerVector phandle "sample_groups" = .ok runs ∧ runs.length = formats.length ∧
      (runs.map CInt.val).sum % 2^32 = nfiles % 2^32 ∧
      ∃ names, loadStringVector phandle "sample_names" = .ok names ∧
        names.length = formats.length ∧ names.Nodup := by
  simp only [loadSampleGroups, bind_eq_ok, pure_bind, throwRuntime_bind, ite_throwRuntime_eq_ok,
    not_not, exists_punit, checkSampleNames_eq_ok, accumulate_eq_wrap, CInt.wrap_eq_wrap_iff,
    CInt.val_zero, zero_add, List.not_mem_nil, not_false_eq_true, implies_true, true_and,
    Except.ok.injEq]
  constructor
  · rintro ⟨_, hg, hl, hs, names, hn, hnl, hnd, rfl⟩
    exact ⟨hg, hl, hs, names, hn, hnl, hnd⟩
  · rintro ⟨hg, hl, hs, names, hn, hnl, hnd⟩
    exact ⟨runs, hg, hl, hs, names, hn, hnl, hnd, rfl⟩

end SampleGroups

/-- Offsets follow the exact running total of the sizes: consecutive files abut. -/
def Contiguous : Nat → List (Nat × Nat) → Prop
  | _, [] => True
  | sofar, b :: rest => b.1 = sofar ∧ Contiguous (sofar + b.2) rest

instance decContiguous : (sofar : Nat) → (bytes : List (Nat × Nat)) →
    Decidable (Contiguous sofar bytes)
  | _, [] => isTrue trivial
  | sofar, b :: rest =>
    haveI := decContiguous (sofar + b.2) rest
    inferInstanceAs (Decidable (b.1 = sofar ∧ _))

open Node in
def embeddedInputs (bytes : List (Int × Int)) : Node :=
  .group [("parameters", .group [
    ("format", stringScalar "x"),
    ("files", .group ((List.range bytes.length).zip bytes |>.map fun (p, b) =>
      (toString p, .group [("name", stringScalar "f"), ("type", stringScalar "t"),
        ("offset", intScalar b.1), ("size", intScalar b.2)])))])]

/-- A first file of `2^64 - 1` bytes brings the `hsize_t` total back to 0, so a third file
at offset 0 overlapping the first is accepted. -/
theorem validateParameters_accepts_wrapped_offsets :
    validateParameters (embeddedInputs [(0, 2^64 - 1), (2^64 - 1, 1), (0, 5)]) true 1000000 =
      .ok ⟨1, false, false⟩ ∧
    ¬ Contiguous 0 [(0, 2^64 - 1), (2^64 - 1, 1), (0, 5)] := by
  decide

theorem checkContiguity_eq_ok_of_lt (h : sofar + (bytes.map Prod.snd).sum < 2^64) :
    checkContiguity sofar bytes = .ok () ↔ Contiguous sofar bytes := by
  induction bytes generalizing sofar with
  | nil => simp [checkContiguity, Contiguous]
  | cons b rest ih =>
    simp only [List.map_cons, List.sum_cons] at h
    simp only [checkContiguity, Contiguous, ite_throwRuntime_eq_ok, not_not]
    rw [Nat.mod_eq_of_lt (by omega), ih (by omega)]

/-- When the sizes add up within `hsize_t`, the contiguity check accepts exactly the layouts
whose offsets follow the exact running total of the sizes. -/
theorem checkContiguity_eq_ok_iff (h : (bytes.map Prod.snd).sum < 2^64) :
    checkContiguity 0 bytes = .ok () ↔ Contiguous 0 bytes :=
  checkContiguity_eq_ok_of_lt (by simpa using h)

theorem checkContiguity_eq_ok_iff_small :
    ([(0, 2), (2, 3)].map Prod.snd).sum < 2^64 ∧
    (checkContiguity 0 [(0, 2), (2, 3)] = .ok () ↔ Contiguous 0 [(0, 2), (2, 3)]) :=
  ⟨by decide, checkContiguity_eq_ok_iff (by decide)⟩

theorem Contiguous.le_offset (h : Contiguous sofar bytes) : ∀ b ∈ bytes, sofar ≤ b.1 := by
  induction bytes generalizing sofar with
  | nil => simp
  | cons c rest ih =>
    intro b hb
    rcases List.mem_cons.1 hb with rfl | hb
    · exact h.1.ge
    · have := ih h.2 b hb
      omega

theorem Contiguous.tiles (h : Contiguous sofar bytes) :
    (∀ i j (_ : i < j) (_ : j < bytes.length), bytes[i].1 + bytes[i].2 ≤ bytes[j].1) ∧
    ∀ x, (sofar ≤ x ∧ x < sofar + (bytes.map Prod.snd).sum) ↔
      ∃ b ∈ bytes, b.1 ≤ x ∧ x < b.1 + b.2 := by
  induction bytes generalizing sofar with
  | nil => simp
  | cons c rest ih =>
    obtain ⟨hc, hrest⟩ := h
    obtain ⟨hord, hcov⟩ := ih hrest
    refine ⟨fun i j hij hj => ?_, fun x => ?_⟩
    · obtain ⟨j, rfl⟩ : ∃ j', j = j' + 1 := ⟨j - 1, by omega⟩
      cases i with
      | zero =>
        have := hrest.le_offset _ (List.getElem_mem (by simpa using hj))
        simpa [hc] using this
      | succ i => simpa using hord i j (by omega) (by simpa using hj)
    · simp only [List.map_cons, List.sum_cons, List.mem_cons, exists_eq_or_imp]
      rw [← hcov x]
      omega

/-- With sizes summing below `2^64`, the byte ranges that the contiguity check accepts come in
order, do not overlap, and cover exactly `[0, Σ size)`. -/
theorem checkContiguity_tiles (hsum : (bytes.map Prod.snd).sum < 2^64)
    (h : checkContiguity 0 bytes = .ok ()) :
    (∀ i j (_ : i < j) (_ : j < bytes.length), bytes[i].1 + bytes[i].2 ≤ bytes[j].1) ∧
    ∀ x, x < (bytes.map Prod.snd).sum ↔ ∃ b ∈ bytes, b.1 ≤ x ∧ x < b.1 + b.2 := by
  obtain ⟨hord, hcov⟩ := ((checkContiguity_eq_ok_of_lt (by simpa using hsum)).1 h).tiles
  exact ⟨hord, fun x => by simpa using hcov x⟩

theorem checkContiguity_tiles_two_files :
    ([(0, 2), (2, 3)].map Prod.snd).sum < 2^64 ∧ checkContiguity 0 [(0, 2), (2, 3)] = .ok () ∧
    ((∀ i j (_ : i < j) (_ : j < [(0, 2), (2, 3)].length),
      [(0, 2), (2, 3)][i].1 + [(0, 2), (2, 3)][i].2 ≤ [(0, 2), (2, 3)][j].1) ∧
    ∀ x, x < ([(0, 2), (2, 3)].map Prod.snd).sum ↔
      ∃ b ∈ [(0, 2), (2, 3)], b.1 ≤ x ∧ x < b.1 + b.2) :=
  ⟨by decide, by decide, checkContiguity_tiles (by decide) (by decide)⟩

end Kanaval.Inputs
