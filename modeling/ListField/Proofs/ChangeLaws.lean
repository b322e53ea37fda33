import Mathlib.Data.Finset.Card
import ListField.Proofs.Canonical
import ListField.Change

/-!
# Laws of changes

`Change.between` compares two selections as sets of values, and so does the writer's test
`Selection.changes`, by another route: the diff compares the normal forms as sets, the writer
compares them sorted. This file shows that the two agree and what a change means.

* `between_eq_none_iff`: no change is found exactly when the selections name the same values;
* `between_least_change`: a change found is the least change between the two sets of values
  (`IsDelta`): the kind the two sets call for, each value that moved listed once; applied to the
  values named before (`Change.apply`), it gives the values named after (`apply_between`);
* `changes_eq_between_isSome`: the writer records a change exactly when the diff finds one, and
  both exactly when the sets of values differ.
-/

namespace ListField
namespace Change

open Selection

/-- What a change does to a set of values: clearing empties it, `setTo` and `changedFrom` replace
it, and `changed` takes away the removed values and adds the added ones. -/
def apply : Change → Finset ValueId → Finset ValueId
  | .cleared, _ => ∅
  | .setTo values, _ => values.toFinset
  | .changedFrom _ new, _ => {new}
  | .changed removed added, before => (before \ removed.toFinset) ∪ added.toFinset

/-- The diff finds no change exactly when the two selections name the same values. -/
theorem between_eq_none_iff {previous next : List ValueId} :
    between previous next = none ↔ valueSet previous = valueSet next := by
  rw [← sameSet_normalize_iff]
  unfold between
  simp only
  -- the first branch answers `none`; every later one, reached only when the sets differ, a change
  split_ifs with hsame
  · simp [hsame]
  · simp [hsame]
  · simp [hsame]
  · split <;> simp [hsame]

/-- The sentence for a change is missing exactly when the two selections name the same values. -/
theorem describe_eq_none_iff {cs : Choices} {sep : String} {previous next : List ValueId} :
    describe cs sep previous next = none ↔ valueSet previous = valueSet next := by
  rw [describe, Option.map_eq_none_iff, between_eq_none_iff]

/-- `d` is the least change from the set of values `P` to a different set `N`. Its kind is the one
the two sets call for, since the four cases split the pairs of sets by shape: `cleared` when `N`
is empty; `setTo`, listing each value of `N` once, when `P` is empty and `N` is not; `changedFrom`
when each set holds one value; and otherwise `changed`, listing once each the values that left and
the values that came, one of the two lists at least not empty. -/
def IsDelta (P N : Finset ValueId) : Change → Prop
  | .cleared => N = ∅
  | .setTo values => P = ∅ ∧ N ≠ ∅ ∧ values.Nodup ∧ values.toFinset = N
  | .changedFrom old new => P = {old} ∧ N = {new} ∧ old ≠ new
  | .changed removed added =>
    P ≠ ∅ ∧ N ≠ ∅ ∧ ¬(P.card = 1 ∧ N.card = 1) ∧
      removed.Nodup ∧ removed.toFinset = P \ N ∧ added.Nodup ∧ added.toFinset = N \ P ∧
      (removed ≠ [] ∨ added ≠ [])

/-- The least change from `P` to `N` leads from `P` to `N`. -/
theorem IsDelta.apply_eq {P N : Finset ValueId} {d : Change} (h : IsDelta P N d) : d.apply P = N := by
  cases d with
  | cleared => exact h.symm
  | setTo values => exact h.2.2.2
  | changedFrom old new => exact h.2.1.symm
  | changed removed added =>
    obtain ⟨-, -, -, -, hrem, -, hadd, -⟩ := h
    -- what stays is `P ∩ N`, and what comes is the rest of `N`
    rw [apply, hrem, hadd, Finset.sdiff_sdiff_self_left, Finset.inter_comm, Finset.union_comm]
    exact Finset.sdiff_union_inter N P

/-- The change the diff finds is the least change between the values named before and after. -/
theorem isDelta_between {previous next : List ValueId} {d : Change}
    (h : between previous next = some d) : IsDelta (valueSet previous) (valueSet next) d := by
  rw [← toFinset_normalize previous, ← toFinset_normalize next]
  have hbefore := nodup_normalize previous
  have hafter := nodup_normalize next
  unfold between at h
  simp only at h
  generalize normalize previous = before at h hbefore ⊢
  generalize normalize next = after at h hafter ⊢
  by_cases hsame : sameSet before after = true
  · simp [hsame] at h
  rw [if_neg hsame] at h
  have hne : before.toFinset ≠ after.toFinset := fun e =>
    hsame (sameSet_iff.2 fun x => by rw [← List.mem_toFinset, e, List.mem_toFinset])
  by_cases hempty : after.isEmpty = true
  · rw [if_pos hempty] at h
    cases h
    simp [IsDelta, List.isEmpty_iff.1 hempty]
  rw [if_neg hempty] at h
  have ha : after ≠ [] := fun e => hempty (List.isEmpty_iff.2 e)
  by_cases hnew : before.isEmpty = true
  · rw [if_pos hnew] at h
    cases h
    exact ⟨by simp [List.isEmpty_iff.1 hnew], by simpa using ha, hafter, rfl⟩
  rw [if_neg hnew] at h
  have hb : before ≠ [] := fun e => hnew (List.isEmpty_iff.2 e)
  split at h
  · next old new =>
    cases h
    refine ⟨by simp, by simp, fun e => hne ?_⟩
    simp [e]
  · next hshape =>
    cases h
    -- both sets have one value only when both lists have one id, the case matched above
    have hcard : ¬(before.toFinset.card = 1 ∧ after.toFinset.card = 1) := by
      rw [List.toFinset_card_of_nodup hbefore, List.toFinset_card_of_nodup hafter,
        List.length_eq_one_iff, List.length_eq_one_iff]
      rintro ⟨⟨old, rfl⟩, ⟨new, rfl⟩⟩
      exact hshape old new rfl rfl
    have hmoved : before.filter (· ∉ after) ≠ [] ∨ after.filter (· ∉ before) ≠ [] := by
      by_contra hnone
      simp only [ne_eq, not_or, not_not, List.filter_eq_nil_iff, decide_eq_true_eq] at hnone
      exact hne (Finset.ext fun x => by simpa using ⟨hnone.1 x, hnone.2 x⟩)
    refine ⟨by simpa using hb, by simpa using ha, hcard, hbefore.filter _, ?_, hafter.filter _, ?_,
      hmoved⟩ <;>
    · ext x
      simp

/-- **A change leads from the old values to the new ones.** -/
theorem apply_between {previous next : List ValueId} {d : Change}
    (h : between previous next = some d) : d.apply (valueSet previous) = valueSet next :=
  (isDelta_between h).apply_eq

/-- **The writer's test and the diff agree.** For any two selections, in any order and with
repeats and `noneId`, the writer's test, which compares sorted normal forms, answers `true`
exactly when the diff finds a change, and both exactly when the selections name different sets
of values. -/
theorem changes_eq_between_isSome (previous next : List ValueId) :
    Selection.changes previous next = (between previous next).isSome ∧
      (Selection.changes previous next = true ↔ valueSet previous ≠ valueSet next) := by
  have hdiff : (between previous next).isSome = true ↔ valueSet previous ≠ valueSet next := by
    rw [Option.isSome_iff_ne_none, ne_eq, between_eq_none_iff]
  exact ⟨Bool.eq_iff_iff.2 (changes_iff.trans hdiff.symm), changes_iff⟩

/-- **The diff is the least change.** For any two selections, in any order and with repeats and
`noneId`, the diff finds no change exactly when they name the same values; a change it finds is
the least change between the two sets of values (`IsDelta`: its kind is the one the sets call for,
and it lists each value once), and applying it to the values named before gives those named after. -/
theorem between_least_change (previous next : List ValueId) :
    (between previous next = none ↔ valueSet previous = valueSet next) ∧
      ∀ d, between previous next = some d →
        IsDelta (valueSet previous) (valueSet next) d ∧ d.apply (valueSet previous) = valueSet next :=
  ⟨between_eq_none_iff, fun _ h => ⟨isDelta_between h, (isDelta_between h).apply_eq⟩⟩

end Change
end ListField
