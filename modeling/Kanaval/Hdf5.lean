import Mathlib.Algebra.BigOperators.Group.List

namespace Kanaval
set_option autoImplicit true

/-- The HDF5 type classes the validators ask for: `H5T_INTEGER`, `H5T_FLOAT`, `H5T_STRING`. -/
inductive TypeClass where
  | integer
  | float
  | string
  deriving DecidableEq, Repr

/-- Stored contents of a dataset in row-major order; float values are never read. -/
inductive Data where
  | integers (values : List Int)
  | floats
  | strings (values : List String)
  deriving DecidableEq, Repr

def Data.typeClass : Data → TypeClass
  | .integers _ => .integer
  | .floats => .float
  | .strings _ => .string

structure Dataset where
  dims : List Nat
  data : Data
  deriving DecidableEq, Repr

def Dataset.integers (d : Dataset) : List Int :=
  match d.data with
  | .integers values => values
  | _ => []

def Dataset.strings (d : Dataset) : List String :=
  match d.data with
  | .strings values => values
  | _ => []

def Dataset.numElements (d : Dataset) : Nat := d.dims.foldr (· * ·) 1

/-- A dataset holds one stored value per element of its dataspace. -/
def Dataset.sized (d : Dataset) : Bool :=
  match d.data with
  | .integers values => values.length == d.numElements
  | .floats => true
  | .strings values => values.length == d.numElements

/-- An HDF5 object: a group with its links in enumeration order, or a dataset. -/
inductive Node where
  | group (children : List (String × Node))
  | dataset (d : Dataset)

namespace Node

def children : Node → List (String × Node)
  | .group cs => cs
  | .dataset _ => []

def names (h : Node) : List String := h.children.map Prod.fst

def getNumObjs (h : Node) : Nat := h.children.length

def child? (h : Node) (name : String) : Option Node := h.children.lookup name

def «exists» (h : Node) (name : String) : Bool := (h.child? name).isSome

def stringScalar (s : String) : Node := .dataset ⟨[], .strings [s]⟩

def stringArray (xs : List String) : Node := .dataset ⟨[xs.length], .strings xs⟩

def intScalar (x : Int) : Node := .dataset ⟨[], .integers [x]⟩

def intArray (xs : List Int) : Node := .dataset ⟨[xs.length], .integers xs⟩

def floatArray (dims : List Nat) : Node := .dataset ⟨dims, .floats⟩

def wellFormed : Node → Bool
  | .group cs => decide (cs.map Prod.fst).Nodup && wellFormedChildren cs
  | .dataset d => d.sized
where wellFormedChildren : List (String × Node) → Bool
  | [] => true
  | (_, n) :: rest => n.wellFormed && wellFormedChildren rest

/-- What the HDF5 library guarantees of every object it hands out. -/
def WellFormed (h : Node) : Prop := h.wellFormed = true

instance (h : Node) : Decidable h.WellFormed := inferInstanceAs (Decidable (_ = true))

@[simp] theorem children_dataset (d : Dataset) : (dataset d).children = [] := rfl

theorem WellFormed.names_nodup {h : Node} (hw : h.WellFormed) : h.names.Nodup := by
  cases h with
  | group cs =>
    simp only [WellFormed, wellFormed, Bool.and_eq_true, decide_eq_true_eq] at hw
    exact hw.1
  | dataset d => exact List.nodup_nil

theorem wellFormedChildren_lookup {cs : List (String × Node)}
    (hw : wellFormed.wellFormedChildren cs = true) (hc : cs.lookup name = some c) :
    c.WellFormed := by
  induction cs with
  | nil => simp at hc
  | cons p rest ih =>
    obtain ⟨k, n⟩ := p
    simp only [wellFormed.wellFormedChildren, Bool.and_eq_true] at hw
    by_cases hk : name = k
    · subst hk
      simp only [List.lookup_cons_self, Option.some.injEq] at hc
      exact hc ▸ hw.1
    · simp only [List.lookup_cons, beq_false_of_ne hk] at hc
      exact ih hw.2 hc

variable {h c : Node} {name : String}

theorem WellFormed.child (hw : h.WellFormed) (hc : h.child? name = some c) :
    c.WellFormed := by
  cases h with
  | group cs =>
    simp only [WellFormed, wellFormed, Bool.and_eq_true] at hw
    exact wellFormedChildren_lookup hw.2 hc
  | dataset d => simp [child?] at hc

theorem child?_isSome_iff : (h.child? name).isSome ↔ name ∈ h.names := by
  simp only [child?, names, List.lookup_isSome_iff, beq_iff_eq, List.mem_map]
  exact ⟨fun ⟨p, hp, he⟩ => ⟨p, hp, he.symm⟩, fun ⟨p, hp, he⟩ => ⟨p, hp, he.symm⟩⟩

end Node

/-- An HDF5 file or group as the library presents it: well formed by construction. -/
structure Container where
  root : Node
  wellFormed : root.WellFormed

end Kanaval
