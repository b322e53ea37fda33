import Mathlib.Tactic.SplitIfs
import ListField.Validation

/-!
# The value check, read off what it reads

`FieldCheck.checkValue` decides a submitted selection `s` of a field over the previous ids
`before`. This file states what it decides directly on the field, its choices and the answers of
the workflow source, with each failed answer read the way the check reads it:

* every id of `s` is `noneId` or a choice of the field (`AllKnown`);
* a single-value field gets one value at most, counted on the normal form (`FitsField`);
* when the source answers that the workflow is enforced (`Enforced`; a failed read means no
  workflow), the normal form starts with a target `t`, edges lead to `t` from no value or from
  each previous id other than `t` (`EdgesTo`; a failed lookup is no edge), and the actor may
  take the edge that leaves the first previous id (`MayTake`; no edge needs no authorization,
  and a failed authorization denies).

`checkValue_matches_spec`: the check passes exactly when all of these hold (`ValueAccepted`),
leaving the request as it was; otherwise it records one error, for the checked field, whose kind
names the first condition that fails, in the order the list above gives them (`FirstFailure`).
-/

namespace ListField
namespace FieldCheck

open Selection

section Spec

variable (lookup : WorkflowLookup) (f : Field) (cs : Choices) (a : Actor) (before s : List ValueId)

/-- Every submitted id is `noneId` or a choice of the field. -/
def AllKnown : Prop := ∀ x ∈ s, x ≠ noneId → cs.contains x = true

/-- A single-value field is given one value at most, repeats and `noneId` not counted. -/
def FitsField : Prop := f.multiple = false → (normalize s).length ≤ 1

/-- The source answers that the field's workflow is enforced. -/
def Enforced : Prop := lookup.state f.id = .ok .enabled

/-- The source finds an edge of the field from `source` to `target`. -/
def HasEdge (source : Option ValueId) (target : ValueId) : Prop :=
  ∃ id, lookup.find f.id source target = .ok (some id)

/-- Edges lead to `target` from no value when there is no previous id, and otherwise from every
previous id other than `target`. -/
def EdgesTo (target : ValueId) : Prop :=
  (before = [] → HasEdge lookup f none target) ∧
    ∀ p ∈ before, p ≠ target → HasEdge lookup f (some p) target

/-- The actor may take the edge from the first previous id to `target`, if the source finds one. -/
def MayTake (target : ValueId) : Prop :=
  ∀ id, lookup.find f.id before.head? target = .ok (some id) → lookup.authorizes id a = .ok true

/-- What the value check accepts. -/
structure ValueAccepted : Prop where
  known : AllKnown cs s
  fits : FitsField f s
  workflow : Enforced lookup f →
    ∃ t rest, normalize s = t :: rest ∧ EdgesTo lookup f before t ∧ MayTake lookup f a before t

/-- The kind of error for the first condition of the value check that fails. Each case holds the
conditions checked before it. -/
inductive FirstFailure : Rejection → Prop
  | invalidValue : ¬ AllKnown cs s → FirstFailure .invalidValue
  | tooManyValues : AllKnown cs s → ¬ FitsField f s → FirstFailure .tooManyValues
  | transitionToNone : AllKnown cs s → FitsField f s → Enforced lookup f → normalize s = [] →
      FirstFailure .transitionToNone
  | invalidTransition {t : ValueId} {rest : List ValueId} : AllKnown cs s → FitsField f s →
      Enforced lookup f → normalize s = t :: rest → ¬ EdgesTo lookup f before t →
      FirstFailure .invalidTransition
  | transitionNotAuthorized {t : ValueId} {rest : List ValueId} : AllKnown cs s → FitsField f s →
      Enforced lookup f → normalize s = t :: rest → EdgesTo lookup f before t →
      ¬ MayTake lookup f a before t → FirstFailure .transitionNotAuthorized

variable {lookup f cs a before s}

/-- A value with a failing condition is not accepted. -/
theorem FirstFailure.not_accepted {k : Rejection} (h : FirstFailure lookup f cs a before s k) :
    ¬ ValueAccepted lookup f cs a before s := by
  intro hacc
  cases h with
  | invalidValue hknown => exact hknown hacc.known
  | tooManyValues _ hfits => exact hfits hacc.fits
  | transitionToNone _ _ hen hnil =>
    obtain ⟨t, rest, ht, -⟩ := hacc.workflow hen
    rw [hnil] at ht
    cases ht
  | invalidTransition _ _ hen ht hedges =>
    obtain ⟨t', rest', ht', hedges', -⟩ := hacc.workflow hen
    rw [ht] at ht'
    cases ht'
    exact hedges hedges'
  | transitionNotAuthorized _ _ hen ht _ hmay =>
    obtain ⟨t', rest', ht', -, hmay'⟩ := hacc.workflow hen
    rw [ht] at ht'
    cases ht'
    exact hmay hmay'

end Spec

/-! ## The gate's answers as the source gives them -/

section Gate

variable {lookup : WorkflowLookup} {f : Field} {cs : Choices}

@[simp] theorem make_field : (make f cs lookup).field = f := rfl

@[simp] theorem make_choices : (make f cs lookup).choices = cs := rfl

theorem isEnabled_make : (make f cs lookup).gate.isEnabled = true ↔ Enforced lookup f := by
  unfold Enforced
  cases h : lookup.state f.id with
  | error e => simp [make, Gate.make, Gate.isEnabled, h]
  | ok st => cases st <;> simp [make, Gate.make, Gate.isEnabled, h]

theorem transitionId?_make {source : Option ValueId} {target : ValueId} {id : TransitionId} :
    (make f cs lookup).gate.transitionId? source target = some id ↔
      lookup.find f.id source target = .ok (some id) := by
  simp only [Gate.transitionId?, make, Gate.make]
  cases lookup.find f.id source target <;> simp

/-- Under an enforced workflow the gate allows a move exactly when the source finds its edge. -/
theorem allows_make (hen : Enforced lookup f) (source : Option ValueId) (target : ValueId) :
    (make f cs lookup).gate.allows source target = true ↔ HasEdge lookup f source target := by
  simp only [Gate.allows, isEnabled_make.2 hen, Bool.not_true, Bool.false_or, Option.isSome_iff_exists,
    transitionId?_make, HasEdge]

theorem canTake_make {a : Actor} (source : Option ValueId) (target : ValueId) :
    (make f cs lookup).gate.canTake ((make f cs lookup).gate.transitionId? source target) a = true ↔
      ∀ id, lookup.find f.id source target = .ok (some id) → lookup.authorizes id a = .ok true := by
  cases hfind : lookup.find f.id source target with
  | error e => simp [Gate.canTake, Gate.transitionId?, make, Gate.make, hfind]
  | ok found =>
    cases found with
    | none => simp [Gate.canTake, Gate.transitionId?, make, Gate.make, hfind]
    | some id =>
      simp only [Gate.canTake, Gate.transitionId?, make, Gate.make, hfind, Except.ok.injEq,
        Option.some.injEq, forall_eq']
      cases lookup.authorizes id a <;> simp

/-- The check's test of the edges, under an enforced workflow. -/
theorem edgesExist_make (hen : Enforced lookup f) (before : List ValueId) (target : ValueId) :
    (if before.isEmpty then (make f cs lookup).gate.allows none target
      else (before.filter (· != target)).all fun source =>
        (make f cs lookup).gate.allows (some source) target) = true ↔
      EdgesTo lookup f before target := by
  cases before with
  | nil => simp [EdgesTo, allows_make hen]
  | cons p ps =>
    simp only [List.isEmpty_cons, Bool.false_eq_true, if_false, List.all_eq_true, List.mem_filter,
      bne_iff_ne, ne_eq, and_imp, allows_make hen, EdgesTo, reduceCtorEq, false_implies, true_and]

end Gate

/-! ## The check against its specification -/

section Check

variable {lookup : WorkflowLookup} {f : Field} {cs : Choices} {s : List ValueId}

theorem unknown_isEmpty_iff :
    (s.filter fun id => id != noneId && !cs.contains id).isEmpty = true ↔ AllKnown cs s := by
  simp [AllKnown, List.filter_eq_nil_iff]

theorem tooMany_iff : (!f.multiple && (normalize s).length > 1) = true ↔ ¬ FitsField f s := by
  simp [FitsField]

/-- Past the value checks, under an enforced workflow: the move checks pass with the request
untouched, or record one error of the first failing kind. -/
theorem checkTransition_cases (r : Request) (previous : Option (List ValueId))
    (hknown : AllKnown cs s) (hfits : FitsField f s) (hen : Enforced lookup f) :
    ((make f cs lookup).checkTransition r previous (normalize s) = (true, r) ∧
      ∃ t rest, normalize s = t :: rest ∧ EdgesTo lookup f (previous.getD []) t ∧
        MayTake lookup f r.actor (previous.getD []) t) ∨
    ∃ e : FieldError, (make f cs lookup).checkTransition r previous (normalize s) =
      (false, r.record f.id e) ∧ FirstFailure lookup f cs r.actor (previous.getD []) s e.kind := by
  unfold checkTransition
  cases hs : normalize s with
  | nil => exact .inr ⟨_, rfl, .transitionToNone hknown hfits hen hs⟩
  | cons t rest =>
    simp only
    have hedges := @edgesExist_make lookup f cs hen (previous.getD []) t
    have hmay := @canTake_make lookup f cs r.actor (previous.getD []).head? t
    cases hE : (if (previous.getD []).isEmpty then (make f cs lookup).gate.allows none t
        else ((previous.getD []).filter (· != t)).all fun source =>
          (make f cs lookup).gate.allows (some source) t) with
    | false =>
      -- no edge leads to the target
      rw [hE] at hedges
      exact .inr ⟨_, rfl, .invalidTransition hknown hfits hen hs fun h => Bool.false_ne_true (hedges.2 h)⟩
    | true =>
      cases hC : (make f cs lookup).gate.canTake
          ((make f cs lookup).gate.transitionId? (previous.getD []).head? t) r.actor with
      | false =>
        rw [hC] at hmay
        exact .inr ⟨_, rfl, .transitionNotAuthorized hknown hfits hen hs (hedges.1 hE)
          fun h => Bool.false_ne_true (hmay.2 h)⟩
      | true => exact .inl ⟨rfl, t, rest, rfl, hedges.1 hE, hmay.1 hC⟩

/-- The value check passes with the request untouched when the value is accepted, and otherwise
records one error, for the checked field, of the first failing kind. -/
theorem checkValue_cases (r : Request) (previous : Option (List ValueId)) :
    ((make f cs lookup).checkValue r previous s = (true, r) ∧
      ValueAccepted lookup f cs r.actor (previous.getD []) s) ∨
    ∃ e : FieldError, (make f cs lookup).checkValue r previous s = (false, r.record f.id e) ∧
      FirstFailure lookup f cs r.actor (previous.getD []) s e.kind := by
  generalize hv : (make f cs lookup).checkValue r previous s = v
  unfold checkValue at hv
  simp only at hv
  split_ifs at hv with hunknown hmany hoff <;> subst hv
  · -- an id names no choice
    refine .inr ⟨⟨.invalidValue, _⟩, rfl, .invalidValue fun h => ?_⟩
    rw [← unknown_isEmpty_iff] at h
    simp [h] at hunknown
  all_goals have hknown : AllKnown cs s := unknown_isEmpty_iff.1 (by simpa using hunknown)
  · exact .inr ⟨⟨.tooManyValues, _⟩, rfl, .tooManyValues hknown (tooMany_iff.1 (by simpa using hmany))⟩
  all_goals have hfits : FitsField f s := fun hm => by simpa [hm] using hmany
  · refine .inl ⟨rfl, hknown, hfits, fun hen => ?_⟩
    -- the workflow is read as not enforced
    rw [← @isEnabled_make lookup f cs] at hen
    simp [hen] at hoff
  · have hen : Enforced lookup f := isEnabled_make.1 (by simpa using hoff)
    exact checkTransition_cases r previous hknown hfits hen |>.imp
      (fun ⟨heq, hmove⟩ => ⟨heq, hknown, hfits, fun _ => hmove⟩) id

/-- **The value check is its specification.** For any field, choices, workflow source (whose
answers may fail), request, previous value and submitted selection, the check passes exactly when
the value is accepted (`ValueAccepted`: known ids, one value at most on a single-value field, and
under an enforced workflow a first value reached by edges the actor may take), and then leaves the
request as it was; when it fails it records exactly one error, for the checked field only, whose
kind names the first condition that fails (`FirstFailure`). -/
theorem checkValue_matches_spec (lookup : WorkflowLookup) (f : Field) (cs : Choices) (r : Request)
    (previous : Option (List ValueId)) (s : List ValueId) :
    (((make f cs lookup).checkValue r previous s).1 = true ↔
        ValueAccepted lookup f cs r.actor (previous.getD []) s) ∧
      (((make f cs lookup).checkValue r previous s).1 = true →
        ((make f cs lookup).checkValue r previous s).2 = r) ∧
      (((make f cs lookup).checkValue r previous s).1 = false →
        ∃ e : FieldError, ((make f cs lookup).checkValue r previous s).2 = r.record f.id e ∧
          FirstFailure lookup f cs r.actor (previous.getD []) s e.kind) := by
  rcases @checkValue_cases lookup f cs s r previous with
    ⟨heq, hacc⟩ | ⟨e, heq, hfail⟩
  · rw [heq]
    exact ⟨iff_of_true rfl hacc, fun _ => rfl, fun h => by cases h⟩
  · rw [heq]
    exact ⟨iff_of_false Bool.false_ne_true hfail.not_accepted, (fun h => by cases h), fun _ => ⟨e, rfl, hfail⟩⟩

end Check

end FieldCheck
end ListField
