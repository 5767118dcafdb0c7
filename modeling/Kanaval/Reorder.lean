import Kanaval.Utils

namespace Kanaval
set_option autoImplicit true

mutual
/-- Two HDF5 objects with the same contents, whose groups may list their links in another
order: the order in which `getObjnameByIdx` enumerates them. -/
inductive Node.Equiv : Node → Node → Prop
  | dataset (d : Dataset) : Node.Equiv (.dataset d) (.dataset d)
  | group {cs cs' : List (String × Node)} : Node.Links cs cs' → Node.Equiv (.group cs) (.group cs')

/-- The same links in another order, each to an equivalent object. -/
inductive Node.Links : List (String × Node) → List (String × Node) → Prop
  | nil : Node.Links [] []
  | cons {k : String} {n n' : Node} {cs cs' : List (String × Node)} :
      Node.Equiv n n' → Node.Links cs cs' → Node.Links ((k, n) :: cs) ((k, n') :: cs')
  | swap {a b : String × Node} {cs : List (String × Node)} :
      Node.Links (a :: b :: cs) (b :: a :: cs)
  | trans {l₁ l₂ l₃ : List (String × Node)} :
      Node.Links l₁ l₂ → Node.Links l₂ l₃ → Node.Links l₁ l₃
end

namespace Node

mutual
theorem Equiv.refl : ∀ n : Node, n.Equiv n
  | .dataset d => .dataset d
  | .group cs => .group (Links.refl cs)
theorem Links.refl : ∀ cs : List (String × Node), Links cs cs
  | [] => .nil
  | (_, n) :: cs => .cons (Equiv.refl n) (Links.refl cs)
end

theorem Links.induction {P : ∀ cs cs' : List (String × Node), Links cs cs' → Prop}
    (nil : P [] [] .nil)
    (cons : ∀ {k n n' cs cs'} (he : Equiv n n') (hl : Links cs cs'), P cs cs' hl →
      P ((k, n) :: cs) ((k, n') :: cs') (.cons he hl))
    (swap : ∀ {a b cs}, P (a :: b :: cs) (b :: a :: cs) .swap)
    (trans : ∀ {l₁ l₂ l₃} (h₁ : Links l₁ l₂) (h₂ : Links l₂ l₃), P l₁ l₂ h₁ → P l₂ l₃ h₂ →
      P l₁ l₃ (.trans h₁ h₂))
    {cs cs' : List (String × Node)} (h : Links cs cs') : P cs cs' h :=
  @Links.rec (fun _ _ _ => True) P (fun _ => trivial) (fun _ _ => trivial) nil
    (fun he hl _ ih => cons he hl ih) swap trans cs cs' h

theorem Equiv.symm {a b : Node} (h : a.Equiv b) : b.Equiv a :=
  @Equiv.rec (fun a b _ => Equiv b a) (fun cs cs' _ => Links cs' cs) .dataset
    (fun _ ih => .group ih) .nil (fun _ _ ih1 ih2 => .cons ih1 ih2) .swap
    (fun _ _ ih1 ih2 => .trans ih2 ih1) a b h

theorem Equiv.trans {a b c : Node} (h1 : a.Equiv b) (h2 : b.Equiv c) : a.Equiv c := by
  cases h1 with
  | dataset => exact h2
  | group hl =>
    cases h2 with
    | group hl' => exact .group (hl.trans hl')

theorem Links.names_perm {cs cs' : List (String × Node)} (h : Links cs cs') :
    (cs.map Prod.fst).Perm (cs'.map Prod.fst) := by
  induction h using Links.induction with
  | nil => exact .nil
  | cons _ _ ih => exact ih.cons _
  | swap => exact .swap _ _ _
  | trans _ _ ih1 ih2 => exact ih1.trans ih2

theorem optionRel_refl : ∀ o : Option Node, Option.Rel Equiv o o
  | none => .none
  | some n => .some (Equiv.refl n)

theorem optionRel_trans {o₁ o₂ o₃ : Option Node} (h1 : Option.Rel Equiv o₁ o₂)
    (h2 : Option.Rel Equiv o₂ o₃) : Option.Rel Equiv o₁ o₃ := by
  cases h1 with
  | none => exact h2
  | some he =>
    cases h2 with
    | some he' => exact .some (he.trans he')

theorem Links.lookup {cs cs' : List (String × Node)} (h : Links cs cs')
    (hnd : (cs.map Prod.fst).Nodup) : Option.Rel Equiv (cs.lookup k) (cs'.lookup k) := by
  induction h using Links.induction with
  | nil => exact .none
  | @cons k' n n' _ _ he _ ih =>
    simp only [List.map_cons, List.nodup_cons] at hnd
    by_cases hk : k = k'
    · subst hk
      simp only [List.lookup_cons_self]
      exact .some he
    · simp only [List.lookup_cons, beq_false_of_ne hk]
      exact ih hnd.2
  | @swap a b cs =>
    obtain ⟨ka, na⟩ := a
    obtain ⟨kb, nb⟩ := b
    simp only [List.map_cons, List.nodup_cons, List.mem_cons, not_or] at hnd
    by_cases ha : k = ka
    · subst ha
      simp only [List.lookup_cons_self, List.lookup_cons, beq_false_of_ne hnd.1.1]
      exact .some (Equiv.refl _)
    · by_cases hb : k = kb
      · subst hb
        simp only [List.lookup_cons_self, List.lookup_cons, beq_false_of_ne ha]
        exact .some (Equiv.refl _)
      · simp only [List.lookup_cons, beq_false_of_ne ha, beq_false_of_ne hb]
        exact optionRel_refl _
  | trans h1 _ ih1 ih2 => exact optionRel_trans (ih1 hnd) (ih2 (hnd.perm h1.names_perm))

theorem Links.of_perm {cs cs' : List (String × Node)} (hp : cs.Perm cs') : Links cs cs' := by
  induction hp with
  | nil => exact .nil
  | cons p _ ih => exact .cons (Equiv.refl p.2) ih
  | swap => exact .swap
  | trans _ _ ih1 ih2 => exact ih1.trans ih2

end Node

theorem mapM_perm {xs xs' : List α} {f : α → Result β} (hp : xs.Perm xs')
    (h : xs.mapM f = .ok ys) : ∃ ys', xs'.mapM f = .ok ys' ∧ (xs.zip ys).Perm (xs'.zip ys') := by
  induction hp generalizing ys with
  | nil =>
    rw [List.mapM_nil, pure_eq_ok] at h
    exact ⟨[], rfl, by simp [← h]⟩
  | cons x _ ih =>
    simp only [List.mapM_cons, bind_eq_ok, pure_eq_ok] at h
    obtain ⟨y, hy, ys, hys, rfl⟩ := h
    obtain ⟨ys', hys', hp⟩ := ih hys
    exact ⟨y :: ys', by simp only [List.mapM_cons, hy, hys', ok_bind]; rfl, hp.cons _⟩
  | swap x y l =>
    simp only [List.mapM_cons, bind_eq_ok, pure_eq_ok] at h
    obtain ⟨b, hb, _, ⟨a, ha, ys, hys, rfl⟩, rfl⟩ := h
    exact ⟨a :: b :: ys, by simp only [List.mapM_cons, ha, hb, hys, ok_bind]; rfl, .swap _ _ _⟩
  | trans _ _ ih1 ih2 =>
    obtain ⟨ys₁, h₁, hp₁⟩ := ih1 h
    obtain ⟨ys₂, h₂, hp₂⟩ := ih2 h₁
    exact ⟨ys₂, h₂, hp₁.trans hp₂⟩

section Accessors

variable {a b : Node} {name : String} {type : TypeClass}

theorem Node.Equiv.getNumObjs_eq (h : a.Equiv b) : a.getNumObjs = b.getNumObjs := by
  cases h with
  | dataset => rfl
  | group hl => simpa [Node.getNumObjs] using hl.names_perm.length_eq

theorem Node.Equiv.names_perm (h : a.Equiv b) : a.names.Perm b.names := by
  cases h with
  | dataset => exact .nil
  | group hl => exact hl.names_perm

theorem Node.Equiv.child?_cases (h : a.Equiv b) (hnd : a.names.Nodup) (name : String) :
    (a.child? name = none ∧ b.child? name = none) ∨
    (∃ d, a.child? name = some (.dataset d) ∧ b.child? name = some (.dataset d)) ∨
    ∃ cs cs', a.child? name = some (.group cs) ∧ b.child? name = some (.group cs') ∧
      Node.Links cs cs' := by
  have hr : Option.Rel Node.Equiv (a.child? name) (b.child? name) := by
    cases h with
    | dataset => exact .none
    | group hl => exact hl.lookup hnd
  generalize a.child? name = o, b.child? name = o' at hr ⊢
  rcases hr with ⟨he⟩ | _
  · cases he with
    | dataset d => exact .inr (.inl ⟨d, rfl, rfl⟩)
    | group hl => exact .inr (.inr ⟨_, _, rfl, rfl, hl⟩)
  · exact .inl ⟨rfl, rfl⟩

theorem Node.Equiv.child?_dataset (h : a.Equiv b) (hnd : a.names.Nodup)
    (hc : a.child? name = some (.dataset d)) : b.child? name = some (.dataset d) := by
  rcases h.child?_cases hnd name with ⟨ha, -⟩ | ⟨d', ha, hb⟩ | ⟨cs, cs', ha, -, -⟩
  · simp [ha] at hc
  · rw [ha, Option.some.injEq, Node.dataset.injEq] at hc
    exact hc ▸ hb
  · simp [ha] at hc

theorem Node.Equiv.exists_eq (h : a.Equiv b) (hw : a.WellFormed) :
    a.exists name = b.exists name := by
  rcases h.child?_cases hw.names_nodup name with ⟨ha, hb⟩ | ⟨d, ha, hb⟩ | ⟨cs, cs', ha, hb, -⟩ <;>
    simp only [Node.exists, ha, hb, Option.isSome]

theorem Node.Equiv.checkAndOpenDataset_eq (h : a.Equiv b) (hw : a.WellFormed) :
    checkAndOpenDataset a name type = checkAndOpenDataset b name type := by
  rcases h.child?_cases hw.names_nodup name with ⟨ha, hb⟩ | ⟨d, ha, hb⟩ | ⟨cs, cs', ha, hb, -⟩ <;>
    simp only [checkAndOpenDataset, ha, hb]

theorem Node.Equiv.checkAndOpenDatasetDims_eq (h : a.Equiv b) (hw : a.WellFormed) :
    checkAndOpenDatasetDims a name type dims = checkAndOpenDatasetDims b name type dims := by
  simp only [checkAndOpenDatasetDims, h.checkAndOpenDataset_eq hw]

theorem Node.Equiv.checkAndOpenScalar_eq (h : a.Equiv b) (hw : a.WellFormed) :
    checkAndOpenScalar a name type = checkAndOpenScalar b name type :=
  h.checkAndOpenDatasetDims_eq hw

theorem Node.Equiv.loadString_eq (h : a.Equiv b) (hw : a.WellFormed) :
    loadString a name = loadString b name := by
  simp only [loadString, h.checkAndOpenScalar_eq hw]

theorem Node.Equiv.loadStringVector_eq (h : a.Equiv b) (hw : a.WellFormed) :
    loadStringVector a name = loadStringVector b name := by
  simp only [loadStringVector, h.checkAndOpenDataset_eq hw]

theorem Node.Equiv.loadIntegerVector_eq (h : a.Equiv b) (hw : a.WellFormed) :
    loadIntegerVector a name = loadIntegerVector b name := by
  simp only [loadIntegerVector, h.checkAndOpenDataset_eq hw]

theorem Node.Equiv.loadIntegerScalar_eq (h : a.Equiv b) (hw : a.WellFormed) :
    loadIntegerScalar conv a name = loadIntegerScalar conv b name := by
  simp only [loadIntegerScalar, h.checkAndOpenScalar_eq hw]

theorem Node.Equiv.checkAndOpenGroup_bind (h : a.Equiv b) (hw : a.WellFormed)
    {f g : Node → Result β} (hfg : ∀ n n', n.WellFormed → n.Equiv n' → f n = g n') :
    checkAndOpenGroup a name >>= f = checkAndOpenGroup b name >>= g := by
  rcases h.child?_cases hw.names_nodup name with ⟨ha, hb⟩ | ⟨d, ha, hb⟩ | ⟨cs, cs', ha, hb, hl⟩
  · simp only [checkAndOpenGroup, ha, hb]; rfl
  · simp only [checkAndOpenGroup, ha, hb]; rfl
  · simp only [checkAndOpenGroup, ha, hb, ok_bind]
    exact hfg _ _ (hw.child ha) (.group hl)

theorem Node.Equiv.checkAndOpenGroup_ok (h : a.Equiv b) (hw : a.WellFormed)
    (hg : checkAndOpenGroup a name = .ok g) :
    ∃ g', checkAndOpenGroup b name = .ok g' ∧ g.Equiv g' ∧ g.WellFormed := by
  obtain ⟨hc, cs, rfl⟩ := checkAndOpenGroup_eq_ok.1 hg
  rcases h.child?_cases hw.names_nodup name with ⟨ha, -⟩ | ⟨d, ha, -⟩ | ⟨cs₁, cs', ha, hb, hl⟩
  · simp [ha] at hc
  · simp [ha] at hc
  · rw [ha, Option.some.injEq, Node.group.injEq] at hc
    subst hc
    exact ⟨_, checkAndOpenGroup_eq_ok.2 ⟨hb, _, rfl⟩, .group hl, hw.child ha⟩

end Accessors

end Kanaval
