import Mathlib.Data.Nat.Digits
import Mathlib.Algebra.Order.BigOperators.Group.List
import Kanaval.Inputs.Files
import Kanaval.Inputs.Details

namespace Kanaval.Inputs
set_option autoImplicit true

/-- The files at the given positions, in order, each opened under its decimal name. -/
def loadBlock (fihandle : Node) (embedded : Bool) (block : List Nat) :
    Result (List (String × Option (Nat × Nat))) :=
  block.mapM fun p => loadFile fihandle embedded (toString p)

/-- The positions of each run's files: consecutive blocks of the run sizes, from `start`. -/
def runBlocks : Nat → List Nat → List (List Nat)
  | _, [] => []
  | start, g :: gs => List.range' start g :: runBlocks (start + g) gs

/-- The run loop as the format describes it, with no counter: run `r` reads the files at its
block of positions, then its format's rule is checked against their types. Returns every file
read, in order. -/
def checkBlocks (fihandle : Node) (embedded : Bool) (formats : List String) :
    Nat → List (List Nat) → Result (List (String × Option (Nat × Nat)))
  | _, [] => .ok []
  | r, block :: blocks => do
    let curf ← elementAt formats r
    let files ← loadBlock fihandle embedded block
    checkTypes curf (files.map Prod.fst)
    let rest ← checkBlocks fihandle embedded formats (r + 1) blocks
    .ok (files ++ rest)

def afterFiles (st : LoopState) (files : List (String × Option (Nat × Nat))) : LoopState :=
  ⟨CInt.wrap (st.sofar.val + files.length), st.bytes ++ (files.map fun f => f.2.toList).flatten⟩

theorem runBlocks_flatten (start : Nat) (gs : List Nat) :
    (runBlocks start gs).flatten = List.range' start gs.sum := by
  induction gs generalizing start with
  | nil => rfl
  | cons g gs ih =>
    rw [runBlocks, List.flatten_cons, ih, List.range'_append_1, List.sum_cons, Nat.add_comm g]

theorem getElem?_runBlocks (start : Nat) (gs : List Nat) (k : Nat) :
    (runBlocks start gs)[k]? = gs[k]?.map fun g => List.range' (start + (gs.take k).sum) g := by
  induction gs generalizing start k with
  | nil => rfl
  | cons g gs ih =>
    cases k with
    | zero => simp [runBlocks]
    | succ k => simp [runBlocks, ih, Nat.add_assoc]

section Loop

variable {fihandle : Node} {embedded : Bool} {st : LoopState} {start count : Nat}

@[simp] theorem afterFiles_nil : afterFiles st [] = st := by
  obtain ⟨sofar, bytes⟩ := st
  simp [afterFiles, CInt.ext_iff, CInt.wrap_val_of_range sofar.le sofar.lt]

theorem afterFiles_cons :
    afterFiles st (file :: files) = afterFiles ⟨st.sofar.succ, st.bytes ++ file.2.toList⟩ files := by
  simp only [afterFiles, CInt.succ, CInt.wrap_wrap_add, List.length_cons, List.map_cons,
    List.flatten_cons, List.append_assoc, LoopState.mk.injEq, and_true]
  congr 1
  omega

theorem loadBlock_cons :
    loadBlock fihandle embedded (p :: ps) =
      loadFile fihandle embedded (toString p) >>= fun file =>
        loadBlock fihandle embedded ps >>= fun rest => pure (file :: rest) := by
  simp only [loadBlock, List.mapM_cons]

theorem loadRunFiles_eq (hs : st.sofar.val = start) (h : start + count < 2^31) :
    loadRunFiles fihandle embedded count st =
      (fun files => (files.map Prod.fst, afterFiles st files)) <$>
        loadBlock fihandle embedded (List.range' start count) := by
  induction count generalizing st start with
  | zero =>
    simp only [loadRunFiles, loadBlock, List.range'_zero, List.mapM_nil, map_pure,
      List.map_nil, afterFiles_nil]
    rfl
  | succ count ih =>
    have hsucc : st.sofar.succ.val = ↑(start + 1) := by
      rw [CInt.succ, CInt.wrap_val_of_range (by omega) (by omega), hs]
      omega
    have hname : toString st.sofar.val = toString start := by rw [hs]; rfl
    simp only [loadRunFiles, List.range'_succ, loadBlock_cons, hname, map_bind]
    refine bind_congr fun file => ?_
    rw [@ih ⟨st.sofar.succ, st.bytes ++ file.2.toList⟩ (start + 1) hsucc (by omega)]
    simp only [bind_map_left, map_pure]
    refine bind_congr fun files => ?_
    rw [afterFiles_cons]
    rfl

theorem afterFiles_append :
    afterFiles (afterFiles st files) rest = afterFiles st (files ++ rest) := by
  simp only [afterFiles, CInt.wrap_wrap_add, List.length_append, List.map_append,
    List.flatten_append, List.append_assoc, LoopState.mk.injEq, and_true]
  congr 1
  omega

theorem afterFiles_sofar (hs : st.sofar.val = start) (h : start + files.length < 2^31) :
    (afterFiles st files).sofar.val = ↑(start + files.length) := by
  rw [afterFiles, hs, CInt.wrap_val_of_range (by omega) (by omega)]
  omega

theorem length_of_loadBlock (h : loadBlock fihandle embedded block = .ok files) :
    files.length = block.length :=
  mapM_length h

theorem checkRuns_eq_checkBlocks (hs : st.sofar.val = start) (hg : ∀ g ∈ runs, 0 ≤ g.val)
    (h : (start : Int) + (runs.map CInt.val).sum < 2^31) :
    checkRuns fihandle embedded formats r runs st =
      afterFiles st <$>
        checkBlocks fihandle embedded formats r (runBlocks start (runs.map fun g => g.val.toNat)) := by
  induction runs generalizing r st start with
  | nil =>
    show Except.ok st = Except.ok (afterFiles st [])
    rw [afterFiles_nil]
  | cons g gs ih =>
    simp only [List.forall_mem_cons, List.map_cons, List.sum_cons] at hg h
    have hsum : 0 ≤ (gs.map CInt.val).sum := List.sum_nonneg (List.forall_mem_map.2 hg.2)
    simp only [checkRuns, checkBlocks, runBlocks, List.map_cons, map_bind, map_ok]
    rw [loadRunFiles_eq hs (by omega)]
    simp only [bind_map_left]
    refine bind_congr fun curf => bind_congr_ok fun files hb => bind_congr fun _ => ?_
    have hlen : files.length = g.val.toNat := by simpa using length_of_loadBlock hb
    have hs' := afterFiles_sofar hs (by omega : start + files.length < 2^31)
    rw [hlen] at hs'
    rw [ih hs' hg.2 (by omega), map_eq_pure_bind]
    exact bind_congr fun rest => congrArg pure afterFiles_append

/-- Without overflow of the `int` counter, the run loop with its running `sofar` reads the same
files, in the same order, as the loop over each run's block of positions, and these blocks cover
the positions from `sofar` on, each once and in increasing order. -/
theorem checkRuns_eq (hs : st.sofar.val = start) (hg : ∀ g ∈ runs, 0 ≤ g.val)
    (h : (start : Int) + (runs.map CInt.val).sum < 2^31) :
    (runBlocks start (runs.map fun g => g.val.toNat)).flatten =
        List.range' start (runs.map fun g => g.val.toNat).sum ∧
      checkRuns fihandle embedded formats r runs st =
        afterFiles st <$> checkBlocks fihandle embedded formats r
          (runBlocks start (runs.map fun g => g.val.toNat)) :=
  ⟨runBlocks_flatten _ _, checkRuns_eq_checkBlocks hs hg h⟩

theorem checkRuns_eq_three_files :
    (0 : CInt).val = ((0 : Nat) : Int) ∧ (∀ g ∈ ([1, 2] : List CInt), 0 ≤ g.val) ∧
    ((0 : Nat) : Int) + (([1, 2] : List CInt).map CInt.val).sum < 2^31 ∧
    (runBlocks 0 (([1, 2] : List CInt).map fun g => g.val.toNat)).flatten =
        List.range' 0 (([1, 2] : List CInt).map fun g => g.val.toNat).sum ∧
      checkRuns (linkedFiles ["h5", "mtx", "genes"]) false ["10X", "MatrixMarket"] 0 [1, 2]
          ⟨0, []⟩ =
        afterFiles ⟨0, []⟩ <$> checkBlocks (linkedFiles ["h5", "mtx", "genes"]) false
          ["10X", "MatrixMarket"] 0 (runBlocks 0 (([1, 2] : List CInt).map fun g => g.val.toNat)) :=
  ⟨by decide, by decide, by decide, checkRuns_eq (by decide) (by decide) (by decide)⟩

theorem loadFile_mem_names (h : loadFile fihandle embedded current = .ok file) :
    current ∈ fihandle.names := by
  simp only [loadFile, combineErrors_eq_ok, bind_eq_ok] at h
  obtain ⟨_, hg, -⟩ := h
  exact checkAndOpenGroup_mem_names hg

theorem loadBlock_mem_names (h : loadBlock fihandle embedded block = .ok files) (hp : p ∈ block) :
    toString p ∈ fihandle.names := by
  induction block generalizing files with
  | nil => simp at hp
  | cons q qs ih =>
    simp only [loadBlock_cons, bind_eq_ok, pure_eq_ok] at h
    obtain ⟨_, hf, _, hr, -⟩ := h
    rcases List.mem_cons.1 hp with rfl | hp
    · exact loadFile_mem_names hf
    · exact ih hr hp

theorem checkBlocks_mem_names (h : checkBlocks fihandle embedded formats r blocks = .ok files)
    (hp : p ∈ blocks.flatten) : toString p ∈ fihandle.names := by
  induction blocks generalizing r files with
  | nil => simp at hp
  | cons b bs ih =>
    simp only [checkBlocks, bind_eq_ok, exists_punit] at h
    obtain ⟨_, -, _, hfs, -, _, hrest, -⟩ := h
    rcases List.mem_append.1 (List.flatten_cons ▸ hp) with hp | hp
    · exact loadBlock_mem_names hfs hp
    · exact ih hrest hp

end Loop

section Names

def digitValue (c : Char) : Nat := c.toNat - '0'.toNat

theorem digitValue_digitChar : ∀ d < 10, digitValue (Nat.digitChar d) = d := by decide

theorem toDigitsCore_ten {n fuel : Nat} {ds : List Char} (hn : 0 < n) (hf : n < fuel) :
    Nat.toDigitsCore 10 fuel n ds = ((Nat.digits 10 n).map Nat.digitChar).reverse ++ ds := by
  induction fuel generalizing n ds with
  | zero => omega
  | succ fuel ih =>
    rw [Nat.toDigitsCore, Nat.digits_def' (by decide) hn]
    by_cases h0 : n / 10 = 0
    · simp [h0]
    · simp only [h0, if_false]
      rw [ih (Nat.pos_of_ne_zero h0) (by omega)]
      simp

theorem ofDigits_toDigits (n : Nat) :
    Nat.ofDigits 10 ((Nat.toDigits 10 n).reverse.map digitValue) = n := by
  rcases Nat.eq_zero_or_pos n with rfl | hn
  · rfl
  · rw [Nat.toDigits, toDigitsCore_ten hn (by omega), List.append_nil, List.reverse_reverse,
      List.map_map]
    conv_rhs => rw [← Nat.ofDigits_digits 10 n]
    congr 1
    exact (List.map_congr_left fun d hd =>
      digitValue_digitChar d (Nat.digits_lt_base (by decide) hd)).trans (List.map_id _)

theorem toString_injective : Function.Injective (toString : Nat → String) := by
  intro n m h
  have : Nat.toDigits 10 n = Nat.toDigits 10 m := congrArg String.data h
  rw [← ofDigits_toDigits n, ← ofDigits_toDigits m, this]

end Names

section Partition

variable {phandle fihandle : Node} {formats : List String × Bool} {runs : List CInt}

theorem loadRuns_sum_mod (h : loadRuns phandle formats nfiles = .ok runs) :
    (runs.map CInt.val).sum % 2^32 = nfiles % 2^32 := by
  unfold loadRuns at h
  split at h
  · exact (loadSampleGroups_length_sum h).2
  · cases h
    rw [List.map_singleton, List.sum_singleton]
    exact CInt.wrap_val_emod _

theorem sum_toNat (hg : ∀ g ∈ runs, 0 ≤ g.val) :
    (((runs.map fun g => g.val.toNat).sum : Nat) : Int) = (runs.map CInt.val).sum := by
  induction runs with
  | nil => rfl
  | cons g gs ih =>
    simp only [List.forall_mem_cons] at hg
    simp [ih hg.2, Int.toNat_of_nonneg hg.1]

theorem checkBlocks_names_subperm
    (h : checkBlocks fihandle embedded curfs r (runBlocks 0 gs) = .ok files) :
    ((List.range gs.sum).map toString).Subperm fihandle.names :=
  ((List.nodup_range gs.sum).map toString_injective).subperm fun _ hq => by
    obtain ⟨p, hp, rfl⟩ := List.mem_map.1 hq
    exact checkBlocks_mem_names h (by simpa [runBlocks_flatten, List.mem_range'] using hp)

/-- The format's reading of the file loop of an `inputs` group: when the run sizes are
non-negative and sum below `2^31`, and `files` has fewer than `2^32` entries, the sizes sum to
the number of files, the files are named exactly `"0"`, …, `"nfiles-1"`, and the loop over
each run's block of positions accepts. -/
def FilesPartitioned (inputs : Node) (embedded : Bool) (version : Int) : Prop :=
  ∃ phandle fihandle formats runs, checkAndOpenGroup inputs "parameters" = .ok phandle ∧
    checkAndOpenGroup phandle "files" = .ok fihandle ∧
    loadFormats phandle version = .ok formats ∧
    loadRuns phandle formats fihandle.getNumObjs = .ok runs ∧
    ((∀ g ∈ runs, 0 ≤ g.val) → (runs.map CInt.val).sum < 2^31 →
      fihandle.getNumObjs < 2^32 →
      (runs.map CInt.val).sum = fihandle.getNumObjs ∧
      fihandle.names.Perm ((List.range fihandle.getNumObjs).map toString) ∧
      ∃ files, checkBlocks fihandle embedded formats.1 0
        (runBlocks 0 (runs.map fun g => g.val.toNat)) = .ok files)

/-- Outside 32-bit overflow, the file loop of an accepted `parameters` group is the partition
the format describes. -/
theorem validateParameters_partitions_files
    (h : validateParameters inputs embedded version = .ok dump) :
    FilesPartitioned inputs embedded version := by
  obtain ⟨phandle, formats, fihandle, runs, st, -, hph, hfmt, hfi, hruns, hcheck, -⟩ :=
    validateParameters_eq_ok.1 h
  refine ⟨phandle, fihandle, formats, runs, hph, hfi, hfmt, hruns, fun hg hsum hn => ?_⟩
  rw [checkRuns_eq_checkBlocks (show (0 : CInt).val = ((0 : Nat) : Int) from rfl) hg
    (by simpa using hsum), map_eq_ok] at hcheck
  obtain ⟨files, hfiles, -⟩ := hcheck
  have hsub := checkBlocks_names_subperm hfiles
  have hle := hsub.length_le
  -- the 32-bit check of the sum against the number of files
  have hmod := loadRuns_sum_mod hruns
  simp only [List.length_map, List.length_range, Node.names] at hle
  have hnat := sum_toNat hg
  have heq : (runs.map fun g => g.val.toNat).sum = fihandle.getNumObjs := by
    simp only [Node.getNumObjs] at hmod hn ⊢
    omega
  refine ⟨by omega, ?_, files, hfiles⟩
  rw [← heq]
  exact (hsub.perm_of_length_le (by simp [Node.names, heq, Node.getNumObjs])).symm

theorem validateParameters_partitions_three_runs :
    validateParameters (wrappedGroupsInputs [1, 1, 1] ["x", "x", "x"] ["a", "b", "c"]) false
      1001000 = .ok ⟨3, true, true⟩ ∧
    FilesPartitioned (wrappedGroupsInputs [1, 1, 1] ["x", "x", "x"] ["a", "b", "c"]) false
      1001000 :=
  ⟨by decide, validateParameters_partitions_files
    (show _ = .ok (⟨3, true, true⟩ : ParamDump) by decide)⟩

end Partition

section Types

variable {types types' : List String} {expected e : TypeCounts}

theorem countTypes_eq_ok : countTypes expected types = .ok e ↔
    (∀ t ∈ types, t = "mtx" ∨ t = "genes" ∨ t = "annotations") ∧
    e = ⟨CInt.wrap (expected.mtx.val + types.count "mtx"),
      CInt.wrap (expected.genes.val + types.count "genes"),
      CInt.wrap (expected.annotations.val + types.count "annotations")⟩ := by
  induction types generalizing expected with
  | nil => simp [countTypes, eq_comm]
  | cons t rest ih =>
    simp only [countTypes]
    split_ifs with h1 h2 h3
    · subst h1
      rw [ih]
      simp [List.count_cons, CInt.wrap_succ_add]
    · subst h2
      rw [ih]
      simp [List.count_cons, CInt.wrap_succ_add]
    · subst h3
      rw [ih]
      simp [List.count_cons, CInt.wrap_succ_add]
    · simp [h1, h2, h3]

theorem checkMatrixMarket_eq_ok (hlen : types.length < 2^31) :
    checkMatrixMarket types = .ok () ↔
      (∀ t ∈ types, t = "mtx" ∨ t = "genes" ∨ t = "annotations") ∧
      types.count "mtx" = 1 ∧ types.count "genes" ≤ 1 ∧ types.count "annotations" ≤ 1 := by
  have hcount (name : String) :
      (CInt.wrap ((0 : CInt).val + ↑(types.count name))).val = types.count name := by
    have := List.count_le_length name types
    rw [CInt.val_zero, zero_add, CInt.wrap_val_of_range (by omega) (by omega)]
  simp only [checkMatrixMarket, bind_eq_ok, countTypes_eq_ok, pure_bind, throwRuntime_bind,
    ite_throwRuntime_eq_ok, and_assoc, exists_and_left, exists_eq_left, not_not, CInt.ext_iff,
    hcount, CInt.val_one, not_lt, pure_eq_ok, and_true]
  exact and_congr_right fun _ => by omega

theorem checkSingleH5_eq_ok : checkSingleH5 format types = .ok () ↔ types = ["h5"] := by
  unfold checkSingleH5
  rcases types with _ | ⟨t, _ | ⟨u, rest⟩⟩ <;> simp

/-- A run's type rule: a `MatrixMarket` run holds one `mtx` file and at most one `genes` and
one `annotations` file and nothing else, a `10X` or `H5AD` run holds one `h5` file, and any
other format takes any files. -/
def FormatRule (curf : String) (types : List String) : Prop :=
  (curf = "MatrixMarket" → (∀ t ∈ types, t = "mtx" ∨ t = "genes" ∨ t = "annotations") ∧
    types.count "mtx" = 1 ∧ types.count "genes" ≤ 1 ∧ types.count "annotations" ≤ 1) ∧
  (curf = "10X" ∨ curf = "H5AD" → types = ["h5"])

instance : Decidable (FormatRule curf types) := inferInstanceAs (Decidable (_ ∧ _))

theorem checkTypes_eq_ok_iff_formatRule (hlen : types.length < 2^31) :
    checkTypes curf types = .ok () ↔ FormatRule curf types := by
  unfold checkTypes FormatRule
  split_ifs with h1 h2 h3
  · subst h1
    simp [checkMatrixMarket_eq_ok hlen]
  · subst h2
    simp [checkSingleH5_eq_ok]
  · subst h3
    simp [checkSingleH5_eq_ok]
  · simp [h1, h2, h3]

theorem formatRule_perm (hp : types'.Perm types) : FormatRule curf types' ↔ FormatRule curf types := by
  have h5 : types' = ["h5"] ↔ types = ["h5"] := by
    simp only [← List.perm_singleton]
    exact ⟨hp.symm.trans, hp.trans⟩
  simp only [FormatRule, hp.mem_iff, hp.count_eq, h5]

/-- The per-run type check of `validate_parameters` accepts exactly the runs that obey their
format's rule, whatever the order of the run's files. -/
theorem checkTypes_eq_ok (hlen : types.length < 2^31) :
    (checkTypes curf types = .ok () ↔
      (curf = "MatrixMarket" → (∀ t ∈ types, t = "mtx" ∨ t = "genes" ∨ t = "annotations") ∧
        types.count "mtx" = 1 ∧ types.count "genes" ≤ 1 ∧ types.count "annotations" ≤ 1) ∧
      (curf = "10X" ∨ curf = "H5AD" → types = ["h5"])) ∧
    ∀ types', types'.Perm types → (checkTypes curf types' = .ok () ↔ checkTypes curf types = .ok ()) :=
  ⟨checkTypes_eq_ok_iff_formatRule hlen, fun _ hp => by
    rw [checkTypes_eq_ok_iff_formatRule (hp.length_eq ▸ hlen), checkTypes_eq_ok_iff_formatRule hlen,
      formatRule_perm hp]⟩

theorem checkTypes_matrixMarket_two_files :
    (["mtx", "genes"] : List String).length < 2^31 ∧
    (checkTypes "MatrixMarket" ["mtx", "genes"] = .ok () ↔
      ("MatrixMarket" = "MatrixMarket" →
        (∀ t ∈ ["mtx", "genes"], t = "mtx" ∨ t = "genes" ∨ t = "annotations") ∧
        ["mtx", "genes"].count "mtx" = 1 ∧ ["mtx", "genes"].count "genes" ≤ 1 ∧
        ["mtx", "genes"].count "annotations" ≤ 1) ∧
      ("MatrixMarket" = "10X" ∨ "MatrixMarket" = "H5AD" → ["mtx", "genes"] = ["h5"])) ∧
    ∀ types', types'.Perm ["mtx", "genes"] →
      (checkTypes "MatrixMarket" types' = .ok () ↔ checkTypes "MatrixMarket" ["mtx", "genes"] = .ok ()) :=
  ⟨by decide, checkTypes_eq_ok (by decide)⟩

end Types

section Acceptance

variable {fihandle : Node} {embedded : Bool} {formats : List String} {runs : List CInt}

theorem checkBlocks_isOk_iff :
    (∃ files, checkBlocks fihandle embedded formats r blocks = .ok files) ↔
      ∀ k b, blocks[k]? = some b → ∃ curf files, formats[r + k]? = some curf ∧
        loadBlock fihandle embedded b = .ok files ∧ checkTypes curf (files.map Prod.fst) = .ok () := by
  induction blocks generalizing r with
  | nil => simp [checkBlocks]
  | cons b bs ih =>
    have hidx (k : Nat) : r + (k + 1) = r + 1 + k := by omega
    constructor
    · rintro ⟨_, h⟩
      simp only [checkBlocks, bind_eq_ok, exists_punit, elementAt_eq_ok] at h
      obtain ⟨curf, hf, fs, hfs, hty, rest, hrest, -⟩ := h
      rintro (_ | k) b' hb
      · obtain rfl : b = b' := by simpa using hb
        exact ⟨curf, fs, hf, hfs, hty⟩
      · rw [hidx]
        exact (@ih (r + 1)).1 ⟨rest, hrest⟩ k b' (by simpa using hb)
    · intro h
      obtain ⟨curf, fs, hf, hfs, hty⟩ := h 0 b (by simp)
      obtain ⟨rest, hrest⟩ := (@ih (r + 1)).2 fun k b' hb => hidx k ▸ h (k + 1) b' (by simpa using hb)
      rw [Nat.add_zero] at hf
      refine ⟨fs ++ rest, ?_⟩
      simp only [checkBlocks, elementAt_eq_ok.2 hf, hfs, hty, hrest, ok_bind]

/-- Every run `r` of size `g` has a format, and the `g` files from position `Σ_{j<r} g_j` on
load and obey that format's rule. -/
def RunsObeyFormats (fihandle : Node) (embedded : Bool) (formats : List String)
    (runs : List CInt) : Prop :=
  ∀ r g, runs[r]? = some g → ∃ curf files, formats[r]? = some curf ∧
    loadBlock fihandle embedded
      (List.range' ((runs.take r).map fun g => g.val.toNat).sum g.val.toNat) = .ok files ∧
    FormatRule curf (files.map Prod.fst)

theorem checkBlocks_runBlocks_isOk_iff (hg : ∀ g ∈ runs, 0 ≤ g.val)
    (h : (runs.map CInt.val).sum < 2^31) :
    (∃ files, checkBlocks fihandle embedded formats 0
        (runBlocks 0 (runs.map fun g => g.val.toNat)) = .ok files) ↔
      RunsObeyFormats fihandle embedded formats runs := by
  simp only [checkBlocks_isOk_iff, getElem?_runBlocks, List.getElem?_map, Option.map_map,
    Option.map_eq_some', forall_exists_index, and_imp, forall_apply_eq_imp_iff₂,
    Function.comp_apply, Nat.zero_add, List.map_take, RunsObeyFormats, exists_and_left]
  refine forall_congr' fun r => forall_congr' fun g => forall_congr' fun hr =>
    exists_congr fun curf => and_congr_right fun _ => exists_congr fun files =>
      and_congr_right fun hfs => checkTypes_eq_ok_iff_formatRule ?_
  have hle : g.val.toNat ≤ (runs.map fun g => g.val.toNat).sum :=
    List.le_sum_of_mem (List.mem_map_of_mem _ (List.getElem?_mem hr))
  have := sum_toNat hg
  rw [List.length_map, length_of_loadBlock hfs, List.length_range']
  omega

/-- Outside 32-bit overflow, the loop over runs of `validate_parameters` accepts exactly when
every run `r` of size `g` has a format, and the `g` files from position `Σ_{j<r} g_j` on load
and obey that format's rule. -/
theorem checkRuns_accepts_iff (hg : ∀ g ∈ runs, 0 ≤ g.val) (h : (runs.map CInt.val).sum < 2^31) :
    (∃ st, checkRuns fihandle embedded formats 0 runs ⟨0, []⟩ = .ok st) ↔
      ∀ r g, runs[r]? = some g → ∃ curf files, formats[r]? = some curf ∧
        loadBlock fihandle embedded
          (List.range' ((runs.take r).map fun g => g.val.toNat).sum g.val.toNat) = .ok files ∧
        FormatRule curf (files.map Prod.fst) := by
  rw [checkRuns_eq_checkBlocks (show (0 : CInt).val = ((0 : Nat) : Int) from rfl) hg
    (by simpa using h)]
  refine Iff.trans ?_ (checkBlocks_runBlocks_isOk_iff hg h)
  simp only [map_eq_ok]
  rw [exists_comm]
  simp only [exists_and_left, exists_eq', and_true]

theorem checkRuns_accepts_three_files :
    (∀ g ∈ ([1, 2] : List CInt), 0 ≤ g.val) ∧ (([1, 2] : List CInt).map CInt.val).sum < 2^31 ∧
    ((∃ st, checkRuns (linkedFiles ["h5", "mtx", "genes"]) false ["10X", "MatrixMarket"] 0 [1, 2]
        ⟨0, []⟩ = .ok st) ↔
      ∀ r g, ([1, 2] : List CInt)[r]? = some g → ∃ curf files,
        ["10X", "MatrixMarket"][r]? = some curf ∧
        loadBlock (linkedFiles ["h5", "mtx", "genes"]) false
          (List.range' ((([1, 2] : List CInt).take r).map fun g => g.val.toNat).sum
            g.val.toNat) = .ok files ∧
        FormatRule curf (files.map Prod.fst)) :=
  ⟨by decide, by decide, checkRuns_accepts_iff (by decide) (by decide)⟩

end Acceptance

end Kanaval.Inputs
