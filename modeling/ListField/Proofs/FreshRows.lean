import Mathlib
import ListField.Proofs.Checks
import ListField.Proofs.CopyForward
import ListField.Proofs.ChoiceIndex

/-!
# What a freshly written value satisfies

A submission writes a fresh row for a field only with a value the field's checks let through,
so the row should meet every constraint of the field: its ids distinct and other than `noneId`,
each a choice of the field, one at most on a single-value field, at least one on a required
field, and under an enforced workflow a first id reached by configured transitions the actor may
take (`Store.Admissible`).

The checks let one value through unchecked: an empty list from an actor without the access the
phase needs. On a new artifact the writer then admits it for a required field that has default
choices, and the row written is empty (`Store.EmptyRequiredGap`). `submit_fresh_row` says that
this is the only exception: a fresh row of a kept changeset is admissible exactly when its field
is not in that case, and in that case it is empty.

The checks read the field's choices and workflow through `Choices` and `Gate`; the first section
reads them back as facts about the store's tables.
-/

namespace ListField
namespace Store

open Selection

/-! ## The checks' view of the store -/

variable (s : Store)

theorem contains_choicesOf {g : Field} {noneLabel : String} {x : ValueId} :
    (s.choicesOf g noneLabel).contains x = true ↔
      ∃ ch ∈ s.tables.choices, ch.field = g.id ∧ ch.id = x := by
  simp [Choices.contains_eq_any, choicesOf, loadChoices, List.mem_mergeSort, choiceOf, and_assoc]

theorem defaults_choicesOf_ne_nil {g : Field} {noneLabel : String} :
    (s.choicesOf g noneLabel).defaults ≠ [] ↔
      ∃ ch ∈ s.tables.choices, ch.field = g.id ∧ ch.isDefault = true := by
  simp [Choices.defaults, choicesOf, loadChoices, List.filter_map, List.mem_mergeSort, choiceOf,
    List.filter_eq_nil_iff]

-- a submission's turns see the store with rows and a changeset added and the old tables kept
-- for undo; choices and workflows are read from parts of the tables these leave alone
@[simp] theorem choicesOf_withRows (new : List ValueRow) (n : Int) (g : Field) (noneLabel : String) :
    (s.withRows new n).choicesOf g noneLabel = s.choicesOf g noneLabel := rfl

@[simp] theorem choicesOf_withChangeset (c : ChangesetRow) (g : Field) (noneLabel : String) :
    (s.withChangeset c).choicesOf g noneLabel = s.choicesOf g noneLabel := rfl

@[simp] theorem choicesOf_units (u : List Tables) (g : Field) (noneLabel : String) :
    ({ s with units := u } : Store).choicesOf g noneLabel = s.choicesOf g noneLabel := rfl

@[simp] theorem lookup_withRows (new : List ValueRow) (n : Int) : (s.withRows new n).lookup = s.lookup :=
  rfl

@[simp] theorem lookup_withChangeset (c : ChangesetRow) : (s.withChangeset c).lookup = s.lookup := rfl

@[simp] theorem lookup_units (u : List Tables) : ({ s with units := u } : Store).lookup = s.lookup := rfl

/-- The request a submission starts with asks the store's grants. -/
theorem can_submit_grants (a : Actor) (f : FieldId) :
    ({ actor := a, grants := s.grants } : Request).can .submit f = granted s.tables a f [.submit] :=
  rfl

/-- The workflow of field `f` lets actor `a` move a value from the ids `before` to `target`: a
configured transition leads to `target` from every previous id other than it (from no value when
there is none), and `a` is authorized for the one that leaves the first previous id. -/
def CanMove (f : FieldId) (before : List ValueId) (target : ValueId) (a : Actor) : Prop :=
  (before = [] → (findTransition s.tables f none target).isSome) ∧
  (∀ v ∈ before, v ≠ target → (findTransition s.tables f (some v) target).isSome) ∧
  (∀ tr, findTransition s.tables f before.head? target = some tr → s.lookup.authorizes tr a = .ok true)

variable {s}

theorem isEnabled_lookup {g : Field} {cs : Choices} :
    (FieldCheck.make g cs s.lookup).gate.isEnabled = (workflowState s.tables g.id == .enabled) :=
  rfl

/-- Under the store's enforced workflow, a move the gate allows is one the tables configure
and authorize. -/
theorem canMove_of_moveAllowed {g : Field} {cs : Choices} {before : List ValueId} {t : ValueId}
    {a : Actor} (hen : workflowState s.tables g.id = .enabled)
    (h : (FieldCheck.make g cs s.lookup).MoveAllowed before t a) : s.CanMove g.id before t a := by
  obtain ⟨hedges, hauth⟩ := h
  have hallows : ∀ src, (FieldCheck.make g cs s.lookup).gate.allows src t =
      (findTransition s.tables g.id src t).isSome := fun src => by
    show (!(workflowState s.tables g.id == .enabled) || (findTransition s.tables g.id src t).isSome) = _
    rw [hen]
    rfl
  refine ⟨fun hnil => ?_, fun v hv hvt => ?_, fun tr htr => ?_⟩
  · -- no previous value: the move from no value must exist
    rw [hnil, List.isEmpty_nil, if_pos rfl, hallows] at hedges
    exact hedges
  · have hne : before.isEmpty = false := List.isEmpty_eq_false_iff.2 (List.ne_nil_of_mem hv)
    rw [if_neg (by rw [hne]; decide), List.all_eq_true] at hedges
    rw [← hallows]
    exact hedges v (List.mem_filter.2 ⟨hv, bne_iff_ne.2 hvt⟩)
  · have hid : (FieldCheck.make g cs s.lookup).gate.transitionId? before.head? t = some tr := htr
    rw [hid] at hauth
    cases hl : s.lookup.authorizes tr a with
    | ok b =>
      simp only [Gate.canTake, FieldCheck.make, Gate.make, hl] at hauth
      rw [hauth]
    | error e =>
      simp only [Gate.canTake, FieldCheck.make, Gate.make, hl] at hauth
      cases hauth

/-! ## Admissible values -/

variable (s)

/-- What the checks ask of a new value `vals` of field `g`, written by actor `a` over the
previous ids `before`: distinct ids other than `noneId`, each a choice of `g`; one at most on a
single-value field and one at least on a required one; and under an enforced workflow, a first
id the actor may move to from `before`. -/
structure Admissible (g : Field) (before : List ValueId) (a : Actor) (vals : List ValueId) :
    Prop where
  nodup : vals.Nodup
  none_not_mem : noneId ∉ vals
  choice : ∀ x ∈ vals, ∃ ch ∈ s.tables.choices, ch.field = g.id ∧ ch.id = x
  single : g.multiple = false → vals.length ≤ 1
  required : g.required = true → vals ≠ []
  workflow : workflowState s.tables g.id = .enabled → ∃ t rest, vals = t :: rest ∧ s.CanMove g.id before t a

variable {s}

/-- A value that passes the required and value checks is admissible once normalized. -/
theorem admissible_of_checks {g : Field} {noneLabel : String} {r : Request}
    {previous : Option (List ValueId)} {ids : List ValueId}
    (h : ((FieldCheck.make g (s.choicesOf g noneLabel) s.lookup).checkRequiredAndValue r previous
      ids).1 = true) :
    s.Admissible g (previous.getD []) r.actor (normalize ids) := by
  obtain ⟨hreq, hval⟩ := FieldCheck.checkRequiredAndValue_passes _ h
  obtain ⟨hknown, hsingle, hflow⟩ := FieldCheck.checkValue_passes _ hval
  obtain ⟨hnone, hnodup, hmem, -⟩ := (normalize_canonical ids).1
  refine ⟨hnodup, hnone, fun x hx => ?_, hsingle, fun hr hnil => ?_, fun hen => ?_⟩
  · obtain ⟨hx, hxn⟩ := (hmem x).1 hx
    exact (contains_choicesOf s).1 (hknown x hx hxn)
  · -- a required value is not all `noneId`, so its normal form is not empty
    have hno := (isNone_iff_normalize_eq_nil ids).2 hnil
    rw [hreq hr] at hno
    cases hno
  · obtain ⟨t, rest, ht, hmove⟩ := hflow (by rw [isEnabled_lookup, hen]; rfl)
    exact ⟨t, rest, ht, canMove_of_moveAllowed hen hmove⟩

/-! ## The empty required value -/

/-- The case where a fresh row of a required field is left empty: the artifact has no changeset
yet, permissions are not bypassed, the submission names field `g` with no ids, the actor has no
submit access to `g`, and `g` is required and has a default choice. -/
structure EmptyRequiredGap (s : Store) (a : Actor) (artifact : ArtifactId)
    (entries : List (FieldId × List ValueId)) (bypass : Bool) (g : Field) : Prop where
  new_artifact : changesetsOf s.tables artifact = []
  checked : bypass = false
  submitted_empty : submittedFor entries g.id = some []
  no_submit : granted s.tables a g.id [.submit] = false
  required : g.required = true
  has_default : ∃ ch ∈ s.tables.choices, ch.field = g.id ∧ ch.isDefault = true

/-- The ids of field `g` in the last changeset of `artifact` that still name a choice: the
previous value a submission's checks compare the new one with. -/
def previousValues (s : Store) (style : HistoryStyle) (artifact : ArtifactId) (g : Field) :
    Option (List ValueId) :=
  (s.lastRow artifact g.id).map fun row => ((s.choicesOf g style.noneLabel).pick row.values).map (·.id)

end Store

/-- Without bypass, the writer admits a value the actor has no access for only on a new
artifact, for a required field with default choices. -/
theorem Writer.mayWrite_of_denied {f : Field} {cs : Choices} {r r' : Request} {sv : SaveRequest}
    (hsame : Request.SamePermissions r r') (hb : sv.bypass = false)
    (hden : (if sv.isSubmission then r.can .submit f.id else r.can .update f.id) = false)
    (h : Writer.mayWrite f cs r' sv = true) :
    sv.isSubmission = true ∧ r.can .submit f.id = false ∧ f.required = true ∧ cs.defaults ≠ [] := by
  unfold Writer.mayWrite at h
  rw [hb, Bool.false_or, hsame.can_eq, hsame.can_eq] at h
  cases hsub : sv.isSubmission with
  | false =>
    simp only [hsub, Bool.false_eq_true, if_false] at h hden
    rw [h] at hden
    cases hden
  | true =>
    simp only [hsub, if_true] at h hden
    simp only [hden, Bool.false_or, Bool.and_eq_true, Bool.not_eq_true', List.isEmpty_eq_false_iff] at h
    exact ⟨rfl, hden, h⟩

namespace Store

open Selection

variable {style : HistoryStyle} {a : Actor} {artifact : ArtifactId}
  {entries : List (FieldId × List ValueId)} {bypass : Bool} {s s' : Store} {rep : UpdateReport}

/-- **What a kept changeset writes.** Every row that a submission from a reachable store writes
freshly into the changeset it keeps is for a field `g` of the store, and its ids are admissible
for `g` (`Admissible`, over the field's previous value in the artifact) exactly when the
submission is not the empty required case (`EmptyRequiredGap`); in that case the row is empty. -/
theorem submit_fresh_row (hs : Reachable s) (h : submit style a artifact entries bypass s = .ok (rep, s'))
    {c : ChangesetRow} (hc : rep.changeset = some c) {q : ValueRow} (hq : q ∈ s'.tables.rows)
    (hqc : q.changeset = c.id) (hfresh : q.changed = true) :
    ∃ g ∈ s.tables.fields, g.id = q.field ∧
      (s.Admissible g ((s.previousValues style artifact g).getD []) a q.values ↔
        ¬ s.EmptyRequiredGap a artifact entries bypass g) ∧
      (s.EmptyRequiredGap a artifact entries bypass g → q.values = []) := by
  have hw := hs.wellFormed
  have hw' := submit_wellFormed h hw
  obtain ⟨hcid, -, -, new₀, n₀, -, rfl⟩ := submit_committed h hc
  obtain ⟨g, hg, hgq, -⟩ := hw'.row_field q hq
  replace hg : g ∈ s.tables.fields := hg
  obtain ⟨r, _, r', st', gr, -, hsame, hrun, ho, ⟨new, n, hnew, rfl⟩, hrow⟩ := submit_turn hw h hc hg
  have hq' : rowOf st'.tables c.id g.id = some q := by
    rw [← hrow, hgq, ← hqc]
    exact rowOf_of_mem hw' (mem_rowsOf.2 ⟨hq, rfl, rfl⟩)
  obtain ⟨ids, hsel, hvalid, hwrite, hvals⟩ := recordField_fresh hrun ho hq' hfresh
  -- the checks compared the value with the artifact's last changeset, as the old store has it
  rw [rowOf_turn_last hw (by rw [hcid]) hnew, hsel] at hvalid
  rw [rowOf_turn_last hw (by rw [hcid]) hnew] at hwrite
  simp only [choicesOf_withRows, choicesOf_withChangeset, choicesOf_units, lookup_withRows,
    lookup_withChangeset, lookup_units] at hvalid hwrite hsel
  have hgap_nil : s.EmptyRequiredGap a artifact entries bypass g → q.values = [] := fun hgap => by
    rw [FieldCheck.idsFor_of_submitted _ hgap.submitted_empty] at hsel
    rw [hvals, ← Option.some.inj hsel]
    rfl
  rcases FieldCheck.judge_passes _ hvalid with ⟨hcheck, -⟩ | ⟨hskip, hnil, hdenied⟩
  · -- the value went through the required and value checks
    have hadm := admissible_of_checks hcheck
    have hactor : r.actor = a := hsame.1
    rw [hactor, ← hvals] at hadm
    exact ⟨g, hg, hgq, iff_of_true hadm fun hgap => hadm.required hgap.required (hgap_nil hgap),
      hgap_nil⟩
  · -- an empty value let through without access: the writer's creation rule admitted it
    obtain ⟨hb, hdef⟩ := Bool.or_eq_false_iff.1 hskip
    obtain ⟨hcreate, hno, hreq, hdefaults⟩ :=
      Writer.mayWrite_of_denied (FieldCheck.same_judge _ _ _ _ _ _) hskip hdenied hwrite
    have hgap : s.EmptyRequiredGap a artifact entries bypass g := by
      have hgrant : granted s.tables a g.id [.submit] = false := by
        rw [← can_submit_grants, ← hsame.can_eq]
        exact hno
      refine ⟨?_, hb, ?_, hgrant, hreq, (defaults_choicesOf_ne_nil s).1 hdefaults⟩
      · simpa [List.getLast?_eq_none_iff] using hcreate
      · rw [← hnil, ← hsel]
        exact (FieldCheck.idsFor_of_not_defaults _ hdef).symm
    exact ⟨g, hg, hgq, iff_of_false (fun hadm => hadm.required hgap.required (hgap_nil hgap))
      (not_not.2 hgap), hgap_nil⟩

/-- A required field with a default choice, left empty on a new artifact by an actor without
submit access: the kept changeset gets an empty row for it, which is not admissible. -/
theorem submit_leaves_required_empty :
    ∃ s, s = replay [.admin (.createUser "alice" none),
        .admin (.createField "status" "Status" .static true false false),
        .admin (.addChoice 1 { label := "Open", isDefault := true }),
        .admin (.createArtifact "a" ⟨1, "alice", []⟩)] {} ∧
      ∃ rep s' g, submit {} ⟨1, "alice", []⟩ 1 [(1, [])] false s = .ok (rep, s') ∧
        rep.changeset = some ⟨1, 1, 1⟩ ∧ (⟨1, 1, 1, true, []⟩ : ValueRow) ∈ s'.tables.rows ∧
        g ∈ s.tables.fields ∧ s.EmptyRequiredGap ⟨1, "alice", []⟩ 1 [(1, [])] false g ∧
        ¬ s.Admissible g ((s.previousValues {} 1 g).getD []) ⟨1, "alice", []⟩ [] := by
  refine ⟨_, rfl, ?_⟩
  have hreach := Reachable.replay (.migrated true) [.admin (.createUser "alice" none),
    .admin (.createField "status" "Status" .static true false false),
    .admin (.addChoice 1 { label := "Open", isDefault := true }),
    .admin (.createArtifact "a" ⟨1, "alice", []⟩)]
  generalize hs : replay _ _ = s at hreach ⊢
  have hrun : (submit {} ⟨1, "alice", []⟩ 1 [(1, [])] false s).toOption.map
      (fun p => (p.1.changeset, p.2.tables.rows)) = some (some ⟨1, 1, 1⟩, [⟨1, 1, 1, true, []⟩]) := by
    subst hs
    cbv
  have hnew : changesetsOf s.tables 1 = [] := by subst hs; cbv
  have hgrant : granted s.tables ⟨1, "alice", []⟩ 1 [.submit] = false := by subst hs; cbv
  have hreq : s.tables.fields.all (·.required) = true := by subst hs; cbv
  have hdefault : s.tables.choices.any (fun ch => ch.field == 1 && ch.isDefault) = true := by
    subst hs
    cbv
  rcases hsub : submit {} ⟨1, "alice", []⟩ 1 [(1, [])] false s with e | ⟨rep, s'⟩
  · rw [hsub] at hrun
    cases hrun
  rw [hsub] at hrun
  simp only [Except.toOption, Option.map_some, Option.some.injEq, Prod.mk.injEq] at hrun
  obtain ⟨hc, hrows⟩ := hrun
  have hq : (⟨1, 1, 1, true, []⟩ : ValueRow) ∈ s'.tables.rows := hrows ▸ List.mem_singleton_self _
  obtain ⟨g, hg, hgid, hadm, -⟩ := submit_fresh_row hreach hsub hc hq rfl rfl
  have hgap : s.EmptyRequiredGap ⟨1, "alice", []⟩ 1 [(1, [])] false g := by
    obtain ⟨ch, hch, hdef⟩ := List.any_eq_true.1 hdefault
    simp only [Bool.and_eq_true, beq_iff_eq] at hdef
    refine ⟨hnew, rfl, by rw [hgid]; rfl, hgid ▸ hgrant, List.all_eq_true.1 hreq g hg,
      ⟨ch, hch, hgid ▸ hdef.1, hdef.2⟩⟩
  have hv : (⟨1, 1, 1, true, []⟩ : ValueRow).values = [] := ListEntry.read_numbered 0 []
  exact ⟨rep, s', g, rfl, hc, hq, hg, hgap, fun h => hadm.1 (by rw [hv]; exact h) hgap⟩

end Store
end ListField
