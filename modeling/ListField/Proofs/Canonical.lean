import Mathlib.Data.Finset.Basic
import Mathlib.Data.List.Sort
import ListField.Choice.Selection
/-!
# Canonical selections

A selection is read as the set of values it names: `noneId` names none, and an id
given twice is given once. `normalize` picks one list for each such set, the
canonical one (`Canonical`): the ids other than `noneId`, each once, in the order
of their first places in the selection.

Main statement: `normalize_canonical`, that `normalize` gives the canonical list,
that normalizing again changes nothing, and that a selection asks for no value
exactly when its normal form is empty.
-/

namespace ListField
namespace Selection

/-- `ys` is the canonical list of the selection `xs`: the ids of `xs` other than
`noneId`, each once, in the order of their first places in `xs`. -/
def Canonical (xs ys : List ValueId) : Prop :=
  noneId ∉ ys ∧ ys.Nodup ∧ (∀ x, x ∈ ys ↔ x ∈ xs ∧ x ≠ noneId) ∧
    ys.Pairwise (fun x y => xs.idxOf x < xs.idxOf y)

theorem normalize_canonical (xs : List ValueId) :
    Canonical xs (normalize xs) ∧ normalize (normalize xs) = normalize xs ∧
      (isNone xs = true ↔ normalize xs = []) :=
  ⟨⟨fun h => (mem_normalize.1 h).2 rfl, nodup_normalize xs, fun _ => mem_normalize, pairwise_normalize xs⟩,
    normalize_idem xs, isNone_iff_normalize_eq_nil xs⟩

/-- The values a selection names: its ids other than `noneId`. -/
def valueSet (ids : List ValueId) : Finset ValueId := ids.toFinset.erase noneId

theorem mem_valueSet {ids : List ValueId} {x : ValueId} : x ∈ valueSet ids ↔ x ∈ ids ∧ x ≠ noneId := by
  simp [valueSet, and_comm]

/-- Normalizing a selection keeps the values it names. -/
@[simp] theorem valueSet_normalize (ids : List ValueId) : valueSet (normalize ids) = valueSet ids :=
  Finset.ext fun _ => by simp only [mem_valueSet, mem_normalize, and_self_right]

@[simp] theorem valueSet_nil : valueSet [] = ∅ := rfl

/-- A selection without the `noneId` sentinel that names no value is empty. -/
theorem eq_nil_of_valueSet_eq_empty {ids : List ValueId} (hn : noneId ∉ ids) (h : valueSet ids = ∅) :
    ids = [] :=
  List.eq_nil_iff_forall_not_mem.2 fun x hx =>
    Finset.notMem_empty x (h ▸ mem_valueSet.2 ⟨hx, fun e => hn (e ▸ hx)⟩)

/-- A normal form lists exactly the values its selection names. -/
@[simp] theorem toFinset_normalize (ids : List ValueId) : (normalize ids).toFinset = valueSet ids := by
  ext x
  rw [List.mem_toFinset, mem_normalize, mem_valueSet]

theorem sameSet_iff {a b : List ValueId} : sameSet a b = true ↔ ∀ x, x ∈ a ↔ x ∈ b := by
  simp only [sameSet, Bool.and_eq_true, List.all_eq_true, decide_eq_true_eq]
  exact ⟨fun h x => ⟨h.1 x, h.2 x⟩, fun h => ⟨fun x => (h x).1, fun x => (h x).2⟩⟩

/-- Normal forms hold the same ids exactly when their selections name the same values. -/
theorem sameSet_normalize_iff {a b : List ValueId} :
    sameSet (normalize a) (normalize b) = true ↔ valueSet a = valueSet b := by
  rw [sameSet_iff, Finset.ext_iff]
  simp only [mem_normalize, mem_valueSet]

/-- Two selections have the same comparable form exactly when they name the same values: a
comparable form lists its values once each, in increasing order, so it is the only such list. -/
theorem comparable_eq_iff {a b : List ValueId} : comparable a = comparable b ↔ valueSet a = valueSet b := by
  constructor
  · intro h
    ext x
    rw [mem_valueSet, mem_valueSet, ← mem_comparable, ← mem_comparable, h]
  · intro h
    have hperm : (comparable a).Perm (comparable b) := by
      refine (List.perm_ext_iff_of_nodup (nodup_comparable a) (nodup_comparable b)).2 fun x => ?_
      rw [mem_comparable, mem_comparable, ← mem_valueSet, ← mem_valueSet, h]
    exact hperm.eq_of_sortedLE List.sortedLE_mergeSort List.sortedLE_mergeSort

/-- The writer's test of a change: two selections differ exactly when they name different
values. -/
theorem changes_iff {previous next : List ValueId} :
    changes previous next = true ↔ valueSet previous ≠ valueSet next := by
  rw [changes, bne_iff_ne, ne_eq, comparable_eq_iff]

end Selection
end ListField
