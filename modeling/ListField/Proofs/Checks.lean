import ListField.Proofs.Canonical
import ListField.Update

/-!
# What a passed check guarantees

The checks of a field answer a verdict and a request; the verdict alone says what a value that
passed satisfies. Each check gets a lemma that reads its verdict back into the property it
enforces:

* `checkRequired_passes`: a required field is not left without a value;
* `checkValue_passes`: every id other than `noneId` is a choice of the field, a single-value field
  holds one value at most, and under an enforced workflow the move passes `checkTransition`
  (`checkTransition_passes`: a first value reached from every previous one, by an actor allowed to);
* `checkSubmission_passes`: a submitted value passes the required and value checks with the needed
  access, or it is empty and the actor has no access, in which case nothing was checked;
* `judge_passes`: the same for the verdict `recordField` uses, where ids that skip the permission
  check go through the required and value checks only.
-/

namespace ListField
namespace FieldCheck

variable (fc : FieldCheck) {r : Request}

/-- The move to `target` from the previous ids `before` is one the gate allows: from every
previous value other than the target (from no value when there is none), and the actor may take
the transition that leaves the first previous value. -/
def MoveAllowed (before : List ValueId) (target : ValueId) (a : Actor) : Prop :=
  (if before.isEmpty then fc.gate.allows none target
    else (before.filter (· != target)).all fun source => fc.gate.allows (some source) target) = true ∧
  fc.gate.canTake (fc.gate.transitionId? before.head? target) a = true

theorem checkRequired_passes {v : List ValueId} (h : (fc.checkRequired r v).1 = true)
    (hreq : fc.field.required = true) : Selection.isNone v = false := by
  unfold checkRequired at h
  split at h
  · cases h
  · next hno => simpa [hreq] using hno

theorem checkTransition_passes {previous : Option (List ValueId)} {ids : List ValueId}
    (h : (fc.checkTransition r previous ids).1 = true) :
    ∃ t rest, ids = t :: rest ∧ fc.MoveAllowed (previous.getD []) t r.actor := by
  unfold checkTransition at h
  cases ids with
  | nil => cases h
  | cons t rest =>
    refine ⟨t, rest, rfl, ?_⟩
    simp only at h
    -- the two refusals come first: a missing edge, then a transition the actor may not take
    by_cases hedges : (if (previous.getD []).isEmpty then fc.gate.allows none t
        else ((previous.getD []).filter (· != t)).all fun source => fc.gate.allows (some source) t) = true
    · by_cases hauth : fc.gate.canTake (fc.gate.transitionId? (previous.getD []).head? t) r.actor = true
      · exact ⟨hedges, hauth⟩
      · rw [if_neg (by rw [hedges]; decide), if_pos (by rw [Bool.eq_false_iff.2 hauth]; rfl)] at h
        cases h
    · rw [if_pos (by rw [Bool.eq_false_iff.2 hedges]; rfl)] at h
      cases h

theorem checkValue_passes {previous : Option (List ValueId)} {v : List ValueId}
    (h : (fc.checkValue r previous v).1 = true) :
    (∀ x ∈ v, x ≠ noneId → fc.choices.contains x = true) ∧
      (fc.field.multiple = false → (Selection.normalize v).length ≤ 1) ∧
      (fc.gate.isEnabled = true → ∃ t rest, Selection.normalize v = t :: rest ∧
        fc.MoveAllowed (previous.getD []) t r.actor) := by
  unfold checkValue at h
  simp only at h
  split at h
  · cases h
  · next hknown =>
    -- no id was unknown
    have hall : ∀ x ∈ v, x ≠ noneId → fc.choices.contains x = true := by simpa using hknown
    split at h
    · cases h
    · next hsingle =>
      refine ⟨hall, fun hm => by simpa [hm] using hsingle, fun hen => ?_⟩
      split at h
      · next hoff => simp [hen] at hoff
      · exact fc.checkTransition_passes h

theorem checkRequiredAndValue_passes {previous : Option (List ValueId)} {v : List ValueId}
    (h : (fc.checkRequiredAndValue r previous v).1 = true) :
    (fc.field.required = true → Selection.isNone v = false) ∧ (fc.checkValue r previous v).1 = true := by
  unfold checkRequiredAndValue at h
  by_cases hno : (fc.field.required && Selection.isNone v) = true
  · rw [checkRequired, if_pos hno] at h
    cases h
  · rw [checkRequired, if_neg hno] at h
    exact ⟨fun hreq => by simpa [hreq] using hno, h⟩

/-- A submitted value passes the full check in one of two ways: with the needed access (submit
access on a new artifact, update access afterwards), through the required and value checks; or
empty, from an actor without that access, with nothing checked. -/
theorem checkSubmission_passes {previous : Option (List ValueId)} {v : List ValueId}
    {isSubmission : Bool} (h : (fc.checkSubmission r previous (some v) isSubmission).1 = true) :
    ((if isSubmission then r.can .submit fc.field.id else r.can .update fc.field.id) = true ∧
      (fc.checkRequiredAndValue r previous v).1 = true) ∨
    (v = [] ∧ (if isSubmission then r.can .submit fc.field.id else r.can .update fc.field.id) = false) := by
  unfold checkSubmission at h
  simp only at h
  generalize (if isSubmission = true then r.can .submit fc.field.id else r.can .update fc.field.id) =
    allowed at h ⊢
  -- an empty value from an actor without access is let through; any other value is checked
  cases v with
  | nil =>
    cases allowed with
    | false => exact .inr ⟨rfl, rfl⟩
    | true =>
      simp only [Bool.not_false, Bool.and_true, if_true] at h
      split at h
      · cases h
      · exact .inl ⟨rfl, h⟩
  | cons x rest =>
    cases allowed with
    | false => simp at h
    | true =>
      simp only [Bool.not_true, Bool.and_false, Bool.false_and, Bool.false_eq_true, if_false,
        if_true] at h
      exact .inl ⟨rfl, h⟩

/-- The verdict `recordField` takes: ids that skip the permission check pass the required and
value checks; other ids pass the full check. -/
theorem judge_passes {previous : Option (List ValueId)} {v : List ValueId}
    {skipPermission isSubmission : Bool}
    (h : (fc.judge r previous (some v) skipPermission isSubmission).1 = true) :
    (fc.checkRequiredAndValue r previous v).1 = true ∧
      (skipPermission = false →
        (if isSubmission then r.can .submit fc.field.id else r.can .update fc.field.id) = true) ∨
    (skipPermission = false ∧ v = [] ∧
      (if isSubmission then r.can .submit fc.field.id else r.can .update fc.field.id) = false) := by
  unfold judge at h
  cases skipPermission with
  | true => exact .inl ⟨h, fun e => nomatch e⟩
  | false =>
    rcases fc.checkSubmission_passes h with ⟨hal, hcheck⟩ | ⟨rfl, hal⟩
    · exact .inl ⟨hcheck, fun _ => hal⟩
    · exact .inr ⟨rfl, rfl, hal⟩

/-- Ids that are not the defaults are the submitted ones. -/
theorem idsFor_of_not_defaults {entries : List (FieldId × List ValueId)} {isSubmission : Bool}
    (h : (fc.idsFor entries isSubmission).2 = false) :
    (fc.idsFor entries isSubmission).1 = submittedFor entries fc.field.id := by
  unfold idsFor at h ⊢
  generalize (if ((submittedFor entries fc.field.id).isNone && isSubmission) = true
    then fc.submitDefaults else []) = defaults at h ⊢
  by_cases hd : defaults.isEmpty = true
  · simp only [hd, if_true]
  · simp only [hd] at h
    cases h

/-- A field named in the submission gets the ids submitted for it, never its defaults. -/
theorem idsFor_of_submitted {entries : List (FieldId × List ValueId)} {isSubmission : Bool}
    {v : List ValueId} (h : submittedFor entries fc.field.id = some v) :
    fc.idsFor entries isSubmission = (some v, false) := by
  simp [idsFor, h]

end FieldCheck
end ListField
