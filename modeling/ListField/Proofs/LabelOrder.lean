import ListField.Proofs.Rendering
import ListField.Proofs.ChoiceIndex

/-!
# Lists of ids are written in the field's configured order

`Change.idLabels` sorts a list of ids with the comparator `rankedLE` (rank, then id) and drops
repeated neighbours. This file states what comes out without that comparator: the distinct ids
of the list, each once, a known id before every unknown one, known ids by their place in the
field's list of choices and unknown ids by value (`Precedes`).

Two facts carry it. Two ids with the same rank are the same id (`rank?_injective`: a rank is a
place of the list, and a place holds one choice), so the comparator's tie-break by id never
decides between two known ids. And the order is strict and total on distinct ids, so there is
exactly one list in that order (`InOrder.unique`).
-/

namespace ListField
namespace Change

/-- `a` comes strictly before `b` in the field's configured order: a known id before every
unknown one, known ids by their place, unknown ids by value. -/
def Precedes (cs : Choices) (a b : ValueId) : Prop :=
  match cs.rank? a, cs.rank? b with
  | some i, some j => i < j
  | some _, none => True
  | none, some _ => False
  | none, none => a < b

/-- `order` lists the distinct ids of `xs`, each once, in the field's configured order. -/
structure InOrder (cs : Choices) (xs order : List ValueId) : Prop where
  nodup : order.Nodup
  mem_iff : ∀ x, x ∈ order ↔ x ∈ xs
  sorted : order.Pairwise (Precedes cs)

variable {cs : Choices}

/-- Two ids at the same place of the field's list are the same id. -/
theorem rank?_injective {a b : ValueId} {j : Nat} (ha : cs.rank? a = some j)
    (hb : cs.rank? b = some j) : a = b := by
  obtain ⟨c, hc, hca, -⟩ := Choices.rank?_eq_some_iff.1 ha
  obtain ⟨d, hd, hdb, -⟩ := Choices.rank?_eq_some_iff.1 hb
  have hcd : c = d := Option.some.inj (hc.symm.trans hd)
  rw [← hca, ← hdb, hcd]

theorem Precedes.asymm {a b : ValueId} (hab : Precedes cs a b) (hba : Precedes cs b a) : False := by
  unfold Precedes at hab hba
  cases ha : cs.rank? a <;> cases hb : cs.rank? b <;> simp only [ha, hb] at hab hba <;>
    exact lt_asymm hab hba

/-- The comparator `rankedLE` between distinct ids is the configured order: it breaks ties by
id only between ids of equal rank, and those are equal. -/
theorem precedes_of_rankedLE {a b : ValueId} (hle : rankedLE cs a b = true) (hne : a ≠ b) :
    Precedes cs a b := by
  unfold rankedLE at hle
  unfold Precedes
  cases ha : cs.rank? a with
  | none =>
    cases hb : cs.rank? b with
    | none =>
      simp only [ha, hb, decide_eq_true_eq] at hle
      exact lt_of_le_of_ne hle hne
    | some j => simp [ha, hb] at hle
  | some i =>
    cases hb : cs.rank? b with
    | none => trivial
    | some j =>
      simp only [ha, hb, Bool.or_eq_true, decide_eq_true_eq, Bool.and_eq_true, beq_iff_eq] at hle
      rcases hle with hlt | ⟨rfl, -⟩
      · exact hlt
      · exact absurd (rank?_injective ha hb) hne

/-- The list `idLabels` writes is in the configured order. -/
theorem inOrder_shown (cs : Choices) (xs : List ValueId) :
    InOrder cs xs (dropRepeats (xs.mergeSort (rankedLE cs))) where
  nodup := nodup_shown cs xs
  mem_iff _ := mem_shown
  sorted := ((pairwise_shown cs xs).and (nodup_shown cs xs)).imp fun h =>
    precedes_of_rankedLE h.1 h.2

/-- A strict total order leaves one way to list a set of ids. -/
theorem InOrder.unique {xs o o' : List ValueId} (h : InOrder cs xs o) (h' : InOrder cs xs o') :
    o = o' := by
  have hperm : o.Perm o' :=
    (List.perm_ext_iff_of_nodup h.nodup h'.nodup).2 fun x => by rw [h.mem_iff, h'.mem_iff]
  exact hperm.eq_of_pairwise (fun a b _ _ hab hba => (hab.asymm hba).elim) h.sorted h'.sorted

/-- **Lists of ids are written in the configured order.** There is a list of the distinct ids of
`xs`, each once, known ids by their place in the field's choices and unknown ids after them by
value; and `idLabels` writes the labels of that list, joined by the separator. -/
theorem idLabels_configured_order (cs : Choices) (sep : String) (xs : List ValueId) :
    (∃ order, InOrder cs xs order) ∧
      ∀ order, InOrder cs xs order → idLabels cs sep xs = sep.intercalate (order.map (idLabel cs)) := by
  refine ⟨⟨_, inOrder_shown cs xs⟩, fun order horder => ?_⟩
  rw [idLabels_eq, (inOrder_shown cs xs).unique horder]

end Change
end ListField
