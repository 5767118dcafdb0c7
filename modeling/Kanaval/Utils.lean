import Kanaval.Hdf5

namespace Kanaval
set_option autoImplicit true

/-- A C++ `int`: a 32-bit two's complement value. -/
@[ext] structure CInt where
  val : Int
  le : -2^31 ≤ val
  lt : val < 2^31
  deriving DecidableEq

namespace CInt

/-- `static_cast<int>` of a wider integer; also the wrap-around of `int` arithmetic. -/
def wrap (x : Int) : CInt := ⟨(x + 2^31) % 2^32 - 2^31, by omega, by omega⟩

/-- HDF5 converts a stored integer to `int` by saturating at the type's bounds. -/
def clamp (x : Int) : CInt := ⟨max (-2^31) (min x (2^31 - 1)), by omega, by omega⟩

instance : OfNat CInt n := ⟨wrap n⟩

def succ (x : CInt) : CInt := wrap (x.val + 1)

/-- `static_cast<size_t>` of an `int`. -/
def toSize (x : CInt) : Nat := (x.val % 2^64).toNat

theorem wrap_val_of_range (h1 : -2^31 ≤ x) (h2 : x < 2^31) : (wrap x).val = x := by
  simp only [wrap]
  omega

theorem clamp_mem_range_iff (hn : n < 2^31) :
    (0 ≤ (clamp x).val ∧ (clamp x).val < n) ↔ (0 ≤ x ∧ x < n) := by
  simp only [clamp]
  omega

@[simp] theorem wrap_val (x : CInt) : wrap x.val = x :=
  CInt.ext (wrap_val_of_range x.le x.lt)

theorem wrap_wrap_add (x y : Int) : wrap ((wrap x).val + y) = wrap (x + y) := by
  ext
  simp only [wrap]
  omega

theorem wrap_eq_wrap_iff {x y : Int} : wrap x = wrap y ↔ x % 2^32 = y % 2^32 := by
  simp only [CInt.ext_iff, wrap]
  omega

theorem wrap_val_emod (x : Int) : (wrap x).val % 2^32 = x % 2^32 := by
  show ((x + 2^31) % 2^32 - 2^31) % 2^32 = x % 2^32
  omega

theorem wrap_succ_add (x : CInt) (c : Int) : wrap (x.succ.val + c) = wrap (x.val + (c + 1)) := by
  rw [succ, wrap_wrap_add]
  congr 1
  omega

@[simp] theorem val_one : (1 : CInt).val = 1 := rfl

@[simp] theorem val_zero : (0 : CInt).val = 0 := rfl

theorem toSize_of_nonneg (x : CInt) (h : 0 ≤ x.val) : x.toSize = x.val.toNat := by
  have := x.lt
  simp only [toSize]
  omega

theorem toSize_of_neg (x : CInt) (h : x.val < 0) : 2^64 - 2^31 ≤ x.toSize := by
  have := x.le
  simp only [toSize]
  omega

theorem toSize_eq_iff (x : CInt) (n : Nat) (hn : n < 2^64 - 2^31) :
    n = x.toSize ↔ (n : Int) = x.val := by
  rcases lt_or_le x.val 0 with h | h
  · have := x.toSize_of_neg h
    omega
  · rw [x.toSize_of_nonneg h]
    omega

end CInt

/-- HDF5 converts a stored integer to `hsize_t` by saturating at the type's bounds. -/
def hsizeOfStored (x : Int) : Nat := (max 0 (min x (2^64 - 1))).toNat

theorem hsizeOfStored_lt (x : Int) : hsizeOfStored x < 2^64 := by
  simp only [hsizeOfStored]
  omega

/-- An exception: a storage fault raised by `utils`, a validator's own `std::runtime_error`,
or one of these rethrown under a description of the enclosing scope. -/
inductive ValidationError where
  | missingEntry (name : String)
  | typeMismatch (name : String)
  | shapeMismatch (name : String)
  | runtime (message : String)
  | combined (context : String) (inner : ValidationError)
  deriving DecidableEq, Repr

/-- How a validator stops early: by throwing, or by reading a vector past its end. -/
inductive Fault where
  | thrown (e : ValidationError)
  | outOfBounds (index size : Nat)
  deriving DecidableEq, Repr

abbrev Result := Except Fault

instance [DecidableEq α] : DecidableEq (Result α) := fun a b =>
  match a, b with
  | .ok x, .ok y => if h : x = y then isTrue (h ▸ rfl) else isFalse (by simp [h])
  | .error e, .error f => if h : e = f then isTrue (h ▸ rfl) else isFalse (by simp [h])
  | .ok _, .error _ => isFalse (by simp)
  | .error _, .ok _ => isFalse (by simp)

def throwRuntime (message : String) : Result α := .error (.thrown (.runtime message))

/-- `utils::combine_errors`, applied in each `catch` block; faults that are not exceptions
pass through unchanged. -/
def combineErrors (context : String) : Result α → Result α
  | .error (.thrown e) => .error (.thrown (.combined context e))
  | r => r

/-- `std::vector::operator[]`. -/
def elementAt (xs : List α) (i : Nat) : Result α :=
  match xs[i]? with
  | some a => .ok a
  | none => .error (.outOfBounds i xs.length)

/-- The result was reached without reading any vector past its end. -/
def InBounds : Result α → Prop
  | .error (.outOfBounds _ _) => False
  | _ => True

section Result

variable {x : Result α} {f : α → Result β}

theorem bind_eq_ok : x >>= f = .ok b ↔ ∃ a, x = .ok a ∧ f a = .ok b := by
  cases x <;> simp [bind, Except.bind]

theorem bind_congr_ok {g : α → Result β} (h : ∀ a, x = .ok a → f a = g a) :
    x >>= f = x >>= g := by
  rcases x with e | a
  · rfl
  · exact h a rfl

@[simp] theorem exists_punit {p : PUnit → Prop} : (∃ u, p u) ↔ p () :=
  ⟨fun ⟨⟨⟩, h⟩ => h, fun h => ⟨(), h⟩⟩

@[simp] theorem pure_eq_ok : (pure a : Result α) = .ok b ↔ a = b := by
  simp [pure, Except.pure]

theorem mapM_length {xs : List α} {f : α → Result β} (h : xs.mapM f = .ok ys) :
    ys.length = xs.length := by
  induction xs generalizing ys with
  | nil =>
    rw [List.mapM_nil, pure_eq_ok] at h
    simp [← h]
  | cons x rest ih =>
    simp only [List.mapM_cons, bind_eq_ok, pure_eq_ok] at h
    obtain ⟨y, -, ys', hrest, rfl⟩ := h
    simp [ih hrest]

@[simp] theorem throwRuntime_ne_ok : throwRuntime m ≠ (.ok a : Result α) := by
  simp [throwRuntime]

@[simp] theorem combineErrors_eq_ok : combineErrors c x = .ok a ↔ x = .ok a := by
  rcases x with (e | e) | a <;> simp [combineErrors]

@[simp] theorem throwRuntime_bind {k : α → Result β} :
    throwRuntime m >>= k = throwRuntime m := rfl

@[simp] theorem ok_bind {k : α → Result β} : (Except.ok a : Result α) >>= k = k a := rfl

@[simp] theorem map_ok {g : α → β} : g <$> (Except.ok a : Result α) = .ok (g a) := rfl

theorem map_eq_ok {g : α → β} : g <$> x = .ok b ↔ ∃ a, x = .ok a ∧ g a = b := by
  rcases x with e | a
  · simp [Functor.map, Except.map]
  · simp

@[simp] theorem ite_throwRuntime_eq_ok [Decidable c] :
    (if c then throwRuntime m else x) = .ok a ↔ ¬c ∧ x = .ok a := by
  split <;> simp_all

@[simp] theorem ite_throwRuntime_eq_ok' [Decidable c] :
    (if c then x else throwRuntime m) = .ok a ↔ c ∧ x = .ok a := by
  split <;> simp_all

@[simp] theorem ite_ok_eq_ok [Decidable c] : (if c then x else .ok a) = .ok a ↔ (c → x = .ok a) := by
  split <;> simp_all

theorem elementAt_of_lt {xs : List α} (h : i < xs.length) : elementAt xs i = .ok xs[i] := by
  simp [elementAt, List.getElem?_eq_getElem h]

theorem elementAt_eq_ok {xs : List α} : elementAt xs i = .ok a ↔ xs[i]? = some a := by
  cases h : xs[i]? <;> simp [elementAt, h]

theorem forM_eq_ok {xs : List α} {f : α → Result PUnit} :
    xs.forM f = .ok () ↔ ∀ x ∈ xs, f x = .ok () := by
  induction xs with
  | nil => simp [List.forM, pure, Except.pure]
  | cons x rest ih =>
    simp only [List.forM, bind_eq_ok, ih, List.forall_mem_cons]
    exact ⟨fun ⟨⟨⟩, h1, h2⟩ => ⟨h1, h2⟩, fun ⟨h1, h2⟩ => ⟨(), h1, h2⟩⟩

theorem forall_mem_zip_iff {xs : List α} {ys : List β} (hlen : ys.length = xs.length)
    {P : α → β → Prop} :
    (∀ p ∈ xs.zip ys, P p.1 p.2) ↔ ∀ m (hm : m < xs.length), P xs[m] ys[m] := by
  constructor
  · intro h m hm
    have hm' : m < (xs.zip ys).length := by simp [hlen, hm]
    simpa using h _ (List.getElem_mem hm')
  · intro h p hp
    obtain ⟨i, hi, rfl⟩ := List.getElem_of_mem hp
    rw [List.length_zip] at hi
    simpa using h i (by omega)

theorem InBounds.bind (hx : InBounds x) (hf : ∀ a, x = .ok a → InBounds (f a)) :
    InBounds (x >>= f) := by
  rcases x with (e | e) | a
  · trivial
  · exact hx.elim
  · exact hf a rfl

@[simp] theorem inBounds_ok : InBounds (.ok a : Result α) := trivial

@[simp] theorem inBounds_pure : InBounds (pure a : Result α) := trivial

@[simp] theorem inBounds_throwRuntime : InBounds (throwRuntime m : Result α) := trivial

@[simp] theorem inBounds_combineErrors : InBounds (combineErrors c x) ↔ InBounds x := by
  rcases x with (e | e) | a <;> simp [combineErrors, InBounds]

@[simp] theorem inBounds_ite_throwRuntime [Decidable c] :
    InBounds (if c then throwRuntime m else x) ↔ (¬c → InBounds x) := by
  split <;> simp_all

@[simp] theorem inBounds_ite_throwRuntime' [Decidable c] :
    InBounds (if c then x else throwRuntime m) ↔ (c → InBounds x) := by
  split <;> simp_all

theorem inBounds_forM {xs : List α} {f : α → Result PUnit}
    (h : ∀ x ∈ xs, InBounds (f x)) : InBounds (xs.forM f) := by
  induction xs with
  | nil => trivial
  | cons x rest ih =>
    simp only [List.forall_mem_cons] at h
    exact h.1.bind fun _ _ => ih h.2

theorem inBounds_mapM {xs : List α} {f : α → Result β} (h : ∀ x ∈ xs, InBounds (f x)) :
    InBounds (xs.mapM f) := by
  induction xs with
  | nil => trivial
  | cons x rest ih =>
    simp only [List.forall_mem_cons] at h
    rw [List.mapM_cons]
    exact h.1.bind fun _ _ => (ih h.2).bind fun _ _ => trivial

theorem inBounds_elementAt {xs : List α} (h : i < xs.length) : InBounds (elementAt xs i) := by
  simp [elementAt_of_lt h]

end Result

/-- Modelled from the spec: `utils::check_and_open_group` (utils.hpp is not under src/);
a missing child, or one that is not a group, is a missing entry. -/
def checkAndOpenGroup (handle : Node) (name : String) : Result Node :=
  match handle.child? name with
  | some (.group cs) => .ok (.group cs)
  | _ => .error (.thrown (.missingEntry name))

/-- Modelled from the spec: `utils::check_and_open_dataset` without an expected shape. -/
def checkAndOpenDataset (handle : Node) (name : String) (type : TypeClass) : Result Dataset :=
  match handle.child? name with
  | some (.dataset d) =>
    if d.data.typeClass = type then .ok d else .error (.thrown (.typeMismatch name))
  | _ => .error (.thrown (.missingEntry name))

/-- Modelled from the spec: `utils::check_and_open_dataset` with expected dimensions. -/
def checkAndOpenDatasetDims (handle : Node) (name : String) (type : TypeClass)
    (dims : List Nat) : Result Dataset := do
  let d ← checkAndOpenDataset handle name type
  if d.dims = dims then .ok d else .error (.thrown (.shapeMismatch name))

/-- Modelled from the spec: `utils::check_and_open_scalar`. -/
def checkAndOpenScalar (handle : Node) (name : String) (type : TypeClass) : Result Dataset :=
  checkAndOpenDatasetDims handle name type []

/-- Modelled from the spec: `utils::load_string` of an open scalar dataset. -/
def Dataset.loadString (d : Dataset) : String := d.strings.headD ""

/-- Modelled from the spec: `utils::load_string_vector` of an open dataset. -/
def Dataset.loadStringVector (d : Dataset) : List String := d.strings

/-- Modelled from the spec: `utils::load_string`. -/
def loadString (handle : Node) (name : String) : Result String := do
  let d ← checkAndOpenScalar handle name .string
  .ok d.loadString

/-- Modelled from the spec: `utils::load_string_vector`, a one-dimensional string dataset. -/
def loadStringVector (handle : Node) (name : String) : Result (List String) := do
  let d ← checkAndOpenDataset handle name .string
  if d.dims.length = 1 then .ok d.loadStringVector else .error (.thrown (.shapeMismatch name))

/-- Modelled from the spec: `utils::load_integer_vector<int>`, a one-dimensional integer
dataset. -/
def loadIntegerVector (handle : Node) (name : String) : Result (List CInt) := do
  let d ← checkAndOpenDataset handle name .integer
  if d.dims.length = 1 then .ok (d.integers.map CInt.clamp)
  else .error (.thrown (.shapeMismatch name))

/-- Modelled from the spec: `utils::load_integer_scalar<T>`, where `conv` converts the stored
value to `T`. -/
def loadIntegerScalar (conv : Int → α) (handle : Node) (name : String) : Result α := do
  let d ← checkAndOpenScalar handle name .integer
  .ok (conv (d.integers.headD 0))

section Accessors

variable {handle g : Node} {name : String} {d : Dataset}

theorem checkAndOpenGroup_eq_ok :
    checkAndOpenGroup handle name = .ok g ↔ handle.child? name = some g ∧ ∃ cs, g = .group cs := by
  unfold checkAndOpenGroup
  rcases handle.child? name with _ | (cs | d) <;> simp [eq_comm]
  · exact fun h => ⟨cs, h⟩
  · rintro rfl
    simp

theorem checkAndOpenDataset_eq_ok :
    checkAndOpenDataset handle name type = .ok d ↔
      handle.child? name = some (.dataset d) ∧ d.data.typeClass = type := by
  unfold checkAndOpenDataset
  rcases handle.child? name with _ | (cs | d') <;> simp
  by_cases ht : d'.data.typeClass = type <;> simp [ht, eq_comm]
  · rintro rfl
    exact ht.symm
  · rintro rfl
    exact fun h => ht h.symm

theorem checkAndOpenDatasetDims_eq_ok :
    checkAndOpenDatasetDims handle name type dims = .ok d ↔
      handle.child? name = some (.dataset d) ∧ d.data.typeClass = type ∧ d.dims = dims := by
  simp only [checkAndOpenDatasetDims, bind_eq_ok, checkAndOpenDataset_eq_ok]
  constructor
  · rintro ⟨d', ⟨h1, h2⟩, h3⟩
    split at h3 <;> simp_all
  · rintro ⟨h1, h2, h3⟩
    exact ⟨d, ⟨h1, h2⟩, by simp [h3]⟩

theorem loadIntegerVector_eq_ok :
    loadIntegerVector handle name = .ok xs ↔ ∃ d, handle.child? name = some (.dataset d) ∧
      d.data.typeClass = .integer ∧ d.dims.length = 1 ∧ xs = d.integers.map CInt.clamp := by
  simp only [loadIntegerVector, bind_eq_ok, checkAndOpenDataset_eq_ok]
  constructor
  · rintro ⟨d, ⟨h1, h2⟩, h3⟩
    split at h3 <;> simp_all
  · rintro ⟨d, h1, h2, h3, rfl⟩
    exact ⟨d, ⟨h1, h2⟩, by simp [h3]⟩

theorem checkAndOpenGroup_mem_names (h : checkAndOpenGroup handle name = .ok g) :
    name ∈ handle.names :=
  Node.child?_isSome_iff.1 (by simp [(checkAndOpenGroup_eq_ok.1 h).1])

theorem inBounds_checkAndOpenDataset : InBounds (checkAndOpenDataset handle name type) := by
  unfold checkAndOpenDataset
  split
  · split <;> trivial
  · trivial

theorem inBounds_checkAndOpenGroup : InBounds (checkAndOpenGroup handle name) := by
  unfold checkAndOpenGroup
  split <;> trivial

theorem inBounds_checkAndOpenDatasetDims :
    InBounds (checkAndOpenDatasetDims handle name type dims) :=
  inBounds_checkAndOpenDataset.bind fun _ _ => by split <;> trivial

theorem inBounds_loadIntegerVector : InBounds (loadIntegerVector handle name) :=
  inBounds_checkAndOpenDataset.bind fun _ _ => by split <;> trivial

theorem inBounds_loadStringVector : InBounds (loadStringVector handle name) :=
  inBounds_checkAndOpenDataset.bind fun _ _ => by split <;> trivial

theorem inBounds_loadString : InBounds (loadString handle name) :=
  inBounds_checkAndOpenDatasetDims.bind fun _ _ => trivial

theorem inBounds_loadIntegerScalar : InBounds (loadIntegerScalar conv handle name) :=
  inBounds_checkAndOpenDatasetDims.bind fun _ _ => trivial

end Accessors

end Kanaval
