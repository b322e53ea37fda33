import ListField.Ids
/-!
# Selections

A selection is the list of choice ids submitted for a field, in the order given.
`noneId` in a selection means "no value"; a selection of `noneId` alone, or an empty
one, asks for the field to be empty.

`normalize` is the form in which a selection is stored: `noneId` is dropped and each
id is kept at its first place only. `changes` tells whether two selections differ:
it compares their `comparable` forms, the normal forms sorted in increasing order.
-/

namespace ListField
namespace Selection

/-- The ids of `ids` in order, each at its first place only, skipping those in `seen`. -/
def keepFirst : List ValueId → List ValueId → List ValueId
  | _, [] => []
  | seen, a :: rest =>
    if a ∈ seen then keepFirst seen rest else a :: keepFirst (a :: seen) rest

/-- A selection without `noneId` and with each id at its first place only. -/
def normalize (ids : List ValueId) : List ValueId :=
  keepFirst [] (ids.filter (· != noneId))

/-- Whether a selection asks for no value: every id in it is `noneId`. -/
def isNone (ids : List ValueId) : Bool :=
  ids.all (· == noneId)

/-- Whether two lists hold the same ids, in any order and number. -/
def sameSet (a b : List ValueId) : Bool :=
  a.all (· ∈ b) && b.all (· ∈ a)

/-- A selection as the writer compares it: its normal form in increasing order. -/
def comparable (ids : List ValueId) : List ValueId :=
  (normalize ids).mergeSort

/-- Whether two selections ask for different sets of values: their comparable forms
differ. -/
def changes (previous next : List ValueId) : Bool :=
  comparable previous != comparable next

theorem keepFirst_nil (seen : List ValueId) : keepFirst seen [] = [] := rfl

theorem normalize_nil : normalize [] = [] := rfl

theorem isNone_nil : isNone [] = true := rfl

/-- An id is kept when it is in the list and was not seen before. -/
theorem mem_keepFirst {seen l : List ValueId} {x : ValueId} :
    x ∈ keepFirst seen l ↔ x ∈ l ∧ x ∉ seen := by
  induction l generalizing seen with
  | nil => simp [keepFirst]
  | cons a rest ih =>
    by_cases h : a ∈ seen
    · simp only [keepFirst, h, if_true, ih, List.mem_cons]
      constructor
      · rintro ⟨hx, hs⟩
        exact ⟨Or.inr hx, hs⟩
      · rintro ⟨hx | hx, hs⟩
        · subst hx
          exact absurd h hs
        · exact ⟨hx, hs⟩
    · simp only [keepFirst, h, if_false, List.mem_cons, ih]
      constructor
      · rintro (rfl | ⟨hx, hs⟩)
        · exact ⟨Or.inl rfl, h⟩
        · exact ⟨Or.inr hx, fun hm => hs (Or.inr hm)⟩
      · rintro ⟨hx | hx, hs⟩
        · exact Or.inl hx
        · by_cases hxa : x = a
          · exact Or.inl hxa
          · exact Or.inr ⟨hx, fun hm => hm.elim hxa hs⟩

/-- No id is kept twice. -/
theorem nodup_keepFirst (seen l : List ValueId) : (keepFirst seen l).Nodup := by
  induction l generalizing seen with
  | nil => exact List.nodup_nil
  | cons a rest ih =>
    by_cases h : a ∈ seen
    · simp only [keepFirst, h, if_true]
      exact ih seen
    · simp only [keepFirst, h, if_false]
      refine List.nodup_cons.2 ⟨fun hm => ?_, ih (a :: seen)⟩
      exact (mem_keepFirst.1 hm).2 (List.mem_cons_self ..)

/-- A list without repeats and without seen ids is kept as it is. -/
theorem keepFirst_of_nodup {seen l : List ValueId} (hl : l.Nodup) (hs : ∀ x ∈ l, x ∉ seen) :
    keepFirst seen l = l := by
  induction l generalizing seen with
  | nil => rfl
  | cons a rest ih =>
    have ha : a ∉ seen := hs a (List.mem_cons_self ..)
    simp only [keepFirst, ha, if_false]
    congr 1
    apply ih (List.nodup_cons.1 hl).2
    intro x hx hm
    rcases List.mem_cons.1 hm with e | e
    · exact (List.nodup_cons.1 hl).1 (e ▸ hx)
    · exact hs x (List.mem_cons_of_mem _ hx) e

theorem idxOf_cons_of_ne {a x : ValueId} {rest : List ValueId} (h : a ≠ x) :
    (a :: rest).idxOf x = rest.idxOf x + 1 := by
  have hb : (a == x) = false := by simpa using h
  rw [List.idxOf_cons, hb]
  rfl

/-- The ids kept from a filtered list come in the order of their first places in
the whole list. -/
theorem pairwise_keepFirst_filter (p : ValueId → Bool) (xs seen : List ValueId) :
    (keepFirst seen (xs.filter p)).Pairwise (fun x y => xs.idxOf x < xs.idxOf y) := by
  induction xs generalizing seen with
  | nil => exact List.Pairwise.nil
  | cons a rest ih =>
    by_cases hp : p a = true
    · rw [List.filter_cons_of_pos hp]
      by_cases h : a ∈ seen
      · simp only [keepFirst, h, if_true]
        refine (ih seen).imp_of_mem ?_
        intro x y hx hy lt
        have hxa : a ≠ x := fun e => (mem_keepFirst.1 hx).2 (e ▸ h)
        have hya : a ≠ y := fun e => (mem_keepFirst.1 hy).2 (e ▸ h)
        rw [idxOf_cons_of_ne hxa, idxOf_cons_of_ne hya]
        omega
      · simp only [keepFirst, h, if_false]
        refine List.pairwise_cons.2 ⟨fun y hy => ?_, (ih (a :: seen)).imp_of_mem ?_⟩
        · have hya : a ≠ y := fun e => (mem_keepFirst.1 hy).2 (e ▸ List.mem_cons_self ..)
          rw [idxOf_cons_of_ne hya]
          simp
        · intro x y hx hy lt
          have hxa : a ≠ x := fun e => (mem_keepFirst.1 hx).2 (e ▸ List.mem_cons_self ..)
          have hya : a ≠ y := fun e => (mem_keepFirst.1 hy).2 (e ▸ List.mem_cons_self ..)
          rw [idxOf_cons_of_ne hxa, idxOf_cons_of_ne hya]
          omega
    · rw [List.filter_cons_of_neg hp]
      refine (ih seen).imp_of_mem ?_
      intro x y hx hy lt
      have hxa : a ≠ x := fun e => hp (e ▸ (List.mem_filter.1 (mem_keepFirst.1 hx).1).2)
      have hya : a ≠ y := fun e => hp (e ▸ (List.mem_filter.1 (mem_keepFirst.1 hy).1).2)
      rw [idxOf_cons_of_ne hxa, idxOf_cons_of_ne hya]
      omega

/-- The ids of a normalized selection are its ids other than `noneId`. -/
theorem mem_normalize {xs : List ValueId} {x : ValueId} :
    x ∈ normalize xs ↔ x ∈ xs ∧ x ≠ noneId := by
  simp [normalize, mem_keepFirst, List.mem_filter]

/-- A normalized selection has no repeats. -/
theorem nodup_normalize (xs : List ValueId) : (normalize xs).Nodup := nodup_keepFirst _ _

/-- A normalized selection lists its ids in the order of their first places. -/
theorem pairwise_normalize (xs : List ValueId) :
    (normalize xs).Pairwise (fun x y => xs.idxOf x < xs.idxOf y) :=
  pairwise_keepFirst_filter _ _ _

/-- The ids of a comparable form are the selection's ids other than `noneId`. -/
theorem mem_comparable {xs : List ValueId} {x : ValueId} :
    x ∈ comparable xs ↔ x ∈ xs ∧ x ≠ noneId := by
  rw [comparable, List.mem_mergeSort, mem_normalize]

/-- A comparable form has no repeats. -/
theorem nodup_comparable (xs : List ValueId) : (comparable xs).Nodup :=
  (List.mergeSort_perm _ _).nodup_iff.2 (nodup_normalize xs)

/-- Normalizing twice is normalizing once. -/
theorem normalize_idem (xs : List ValueId) : normalize (normalize xs) = normalize xs := by
  have hkeep : (normalize xs).filter (· != noneId) = normalize xs :=
    List.filter_eq_self.2 fun a ha => by simpa using (mem_normalize.1 ha).2
  rw [normalize, hkeep]
  exact keepFirst_of_nodup (nodup_normalize xs) fun _ _ h => List.not_mem_nil h

/-- A selection asks for no value exactly when its normal form is empty. -/
theorem isNone_iff_normalize_eq_nil (xs : List ValueId) : isNone xs = true ↔ normalize xs = [] := by
  rw [List.eq_nil_iff_forall_not_mem]
  simp [isNone, List.all_eq_true, mem_normalize]

end Selection
end ListField
