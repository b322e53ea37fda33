import Mathlib
import ListField.Proofs.ChoiceIds
import ListField.Proofs.Rejections
import ListField.Proofs.Failures

/-!
# Defaults on creation

On a new artifact a field that the submission leaves out gets its default choices, written
without a permission check, unless its workflow is enforced. What happens to such a field depends
on its default ids `D` (`Store.defaultsOf`, in the configured order) and its workflow only:

* the workflow is not enforced and `D` is not empty: `D` goes through the required and value checks.
  On a multiple-value field, or when `D` has one id, it is written as a change and the field is
  reported updated; on a single-value field with several defaults it is rejected with one
  `tooManyValues` error and gets no row;
* the workflow is enforced or `D` is empty: the field gets no row, and it is rejected with one
  `required` error exactly when it is required and the actor may submit it.

`recordField_untouched` is one field's turn; `submit_fills_defaults` the statement over every
reachable store, kept or rolled back. The default ids of a reachable store are distinct and not
`noneId` (`Store.defaultsOf_nodup`), so the row written is `D` itself.
-/

namespace ListField

/-- A selection that is already canonical is its own normal form. -/
theorem Selection.normalize_of_nodup {ids : List ValueId} (hnd : ids.Nodup) (hn : noneId ∉ ids) :
    Selection.normalize ids = ids := by
  have hkeep : ids.filter (· != noneId) = ids :=
    List.filter_eq_self.2 fun x hx => bne_iff_ne.2 fun e => hn (e ▸ hx)
  rw [Selection.normalize, hkeep]
  exact Selection.keepFirst_of_nodup hnd fun _ _ h => List.not_mem_nil h

namespace FieldCheck

variable (fc : FieldCheck) (r : Request)

/-- On a new artifact, a field the submission leaves out gets its defaults, if it has any. -/
theorem idsFor_untouched {entries : List (FieldId × List ValueId)}
    (h : submittedFor entries fc.field.id = none) :
    fc.idsFor entries true =
      if fc.submitDefaults = [] then (none, false) else (some fc.submitDefaults, true) := by
  simp only [idsFor, h, Option.isNone_none, Bool.and_self, if_true, List.isEmpty_iff]

/-- Nothing sent for a field without a previous value passes the full check, unless the field is
required and the actor may submit it. -/
theorem checkSubmission_nothing :
    fc.checkSubmission r none none true =
      if fc.field.required = true ∧ r.can .submit fc.field.id = true then
        (false, fc.reject r .required fc.requiredMessage)
      else (true, r) := by
  simp only [checkSubmission, if_true]
  cases fc.field.required <;> cases r.can .submit fc.field.id <;> rfl

/-- Ids that are choices of the field, distinct, other than `noneId` and not empty pass the
required and value checks of a field whose workflow is not enforced, unless there are several
for a single-value field. -/
theorem checkRequiredAndValue_of_choices {previous : Option (List ValueId)} {ids : List ValueId}
    (hne : ids ≠ []) (hnd : ids.Nodup) (hn : noneId ∉ ids)
    (hknown : ∀ x ∈ ids, fc.choices.contains x = true) (hen : fc.gate.isEnabled = false) :
    fc.checkRequiredAndValue r previous ids =
      if fc.field.multiple = false ∧ 1 < ids.length then
        (false, fc.reject r .tooManyValues ("The field " ++ fc.field.label ++ " accepts a single value."))
      else (true, r) := by
  have hnorm : Selection.normalize ids = ids := Selection.normalize_of_nodup hnd hn
  have hsome : Selection.isNone ids = false := by
    rw [Bool.eq_false_iff, ne_eq, Selection.isNone_iff_normalize_eq_nil, hnorm]
    exact hne
  have hunknown : ids.filter (fun id => id != noneId && !fc.choices.contains id) = [] :=
    List.filter_eq_nil_iff.2 fun x hx => by simp [hknown x hx]
  rw [checkRequiredAndValue, checkRequired_true fc r ids (by simp [hsome])]
  simp only [checkValue, hunknown, hnorm, hen]
  cases fc.field.multiple <;> simp

end FieldCheck

/-- Rolling a report back keeps whether a field failed. -/
theorem UpdateReport.hasFailures_discarded (r : UpdateReport) : r.discarded.hasFailures = r.hasFailures := by
  simp only [UpdateReport.hasFailures, UpdateReport.discarded_fields, List.any_map]
  congr 1
  funext f
  by_cases hu : f.outcome = .updated <;> simp [hu]

namespace Store

/-- The ids of a field's default choices name choices of the field. -/
theorem contains_of_mem_defaultsOf {s : Store} {style : HistoryStyle} {g : Field} {x : ValueId}
    (hx : x ∈ s.defaultsOf style g) : (s.choicesOf g style.noneLabel).contains x = true := by
  obtain ⟨c, hc, rfl⟩ := List.mem_map.1 hx
  rw [Choices.contains_eq_any]
  exact List.any_eq_true.2 ⟨c, (List.mem_filter.1 hc).1, beq_self_eq_true _⟩

/-- A saved field without a row in the new changeset is reported unchanged. -/
theorem reportSaved_of_no_row {style : HistoryStyle} {cs : Choices} {f : Field} {previousIds : List ValueId}
    {fresh : ChangesetId} {t : Tables} (h : rowOf t fresh f.id = none) :
    (reportSaved style cs f previousIds fresh true t).outcome = .unchanged := by
  simp [reportSaved, h]

section Turn

variable {style : HistoryStyle} {entries : List (FieldId × List ValueId)} {artifact : ArtifactId}
  {fresh : ChangesetId}

/-- A new artifact gets a field's defaults unless the field's workflow is enforced. -/
theorem submitDefaults_make {st : Store} {g : Field} :
    (FieldCheck.make g (st.choicesOf g style.noneLabel) st.lookup).submitDefaults =
      if workflowState st.tables g.id = .enabled then [] else st.defaultsOf style g := by
  simp only [FieldCheck.submitDefaults, isEnabled_lookup, beq_iff_eq]
  rfl

/-- Defaults of a field whose workflow is not enforced skip the permission check and go through the
required and value checks: they pass unless there are several for a single-value field. -/
theorem judge_defaults {r : Request} {st : Store} {g : Field} (hnd : (st.defaultsOf style g).Nodup)
    (hn : noneId ∉ st.defaultsOf style g) (hen : workflowState st.tables g.id ≠ .enabled)
    (hD : st.defaultsOf style g ≠ []) :
    (FieldCheck.make g (st.choicesOf g style.noneLabel) st.lookup).judge r none
        (some (st.defaultsOf style g)) true true =
      if g.multiple = false ∧ 1 < (st.defaultsOf style g).length then
        (false, r.record g.id ⟨.tooManyValues, "The field " ++ g.label ++ " accepts a single value."⟩)
      else (true, r) := by
  have hoff : (FieldCheck.make g (st.choicesOf g style.noneLabel) st.lookup).gate.isEnabled = false := by
    rw [isEnabled_lookup]
    simpa using hen
  simp only [FieldCheck.judge, if_true]
  rw [FieldCheck.checkRequiredAndValue_of_choices (FieldCheck.make g (st.choicesOf g style.noneLabel) st.lookup)
    r hD hnd hn (fun x hx => contains_of_mem_defaultsOf hx) hoff]
  rfl

/-- **One untouched field's turn on a new artifact.** A field that is not read-only, left out of a
submission without bypass on an artifact with no changeset yet, at a store where its row of the
new changeset may go: with defaults and no enforced workflow, the defaults are written as a change
when they fit the field and rejected as too many otherwise; without, nothing is written, and the
field is rejected as required exactly when it is required and the actor may submit it. -/
theorem recordField_untouched {r r' : Request} {g : Field} {st st' : Store} {fr : FieldReport}
    (h : (recordField style entries false artifact none fresh r g).run st = .ok ((fr, r'), st'))
    (hro : g.readOnly = false) (ho : st.tables.Open fresh g.id) (hsub : submittedFor entries g.id = none)
    (hnd : (st.defaultsOf style g).Nodup) (hn : noneId ∉ st.defaultsOf style g) :
    (workflowState st.tables g.id ≠ .enabled → st.defaultsOf style g ≠ [] →
        (g.multiple = true ∨ (st.defaultsOf style g).length = 1) →
        fr.outcome = .updated ∧
          st' = { st with tables :=
            st.tables.pushRow fresh g.id true (ListEntry.numbered 0 (st.defaultsOf style g)) }) ∧
      (workflowState st.tables g.id ≠ .enabled → g.multiple = false → 1 < (st.defaultsOf style g).length →
        fr.outcome =
            .rejected (r.errorsOf g.id ++ [⟨.tooManyValues, "The field " ++ g.label ++ " accepts a single value."⟩]) ∧
          st' = st) ∧
      (workflowState st.tables g.id = .enabled ∨ st.defaultsOf style g = [] →
        fr.outcome = (if g.required = true ∧ r.can .submit g.id = true then
            .rejected (r.errorsOf g.id ++ [⟨.required, g.displayName ++ " is required."⟩])
          else .unchanged) ∧ st' = st) := by
  rw [recordField_run] at h
  simp only [Except.ok.injEq, Prod.mk.injEq, Option.bind_none, Option.map_none, Option.isNone_none,
    Option.getD_none, Bool.false_or] at h
  obtain ⟨⟨hfr, -⟩, hst⟩ := h
  have hsel := (FieldCheck.make g (st.choicesOf g style.noneLabel) st.lookup).idsFor_untouched hsub
  rw [submitDefaults_make] at hsel
  have hverdict := judge_defaults (r := r) hnd hn
  refine ⟨fun hen hD hfits => ?_, fun hen hsingle hmany => ?_, fun hnone => ?_⟩
  · -- defaults that fit the field are written as a change
    have hfit : ¬(g.multiple = false ∧ 1 < (st.defaultsOf style g).length) := by
      rintro ⟨hm, hlen⟩
      rcases hfits with h | h
      · rw [hm] at h
        cases h
      · omega
    rw [if_neg hen, if_neg hD] at hsel
    simp only [hsel, hverdict hen hD, if_neg hfit, if_true] at hfr hst
    rw [@saveValue_of_no_previous _ _ _ _ ⟨artifact, none, fresh, some (st.defaultsOf style g), true, true⟩ hro
      rfl ho] at hfr hst
    simp only [Writer.mayWrite, Bool.true_or, if_true, Selection.normalize_of_nodup hnd hn] at hfr hst
    subst hfr hst
    exact ⟨reportSaved_pushRow ho.1, rfl⟩
  · -- several defaults for a single-value field are rejected, and nothing is written
    have hD : st.defaultsOf style g ≠ [] := List.ne_nil_of_length_pos (by omega)
    rw [if_neg hen, if_neg hD] at hsel
    simp only [hsel, hverdict hen hD, hsingle, hmany, and_self, if_true, Bool.false_eq_true, if_false]
      at hfr hst
    rw [@saveValue_of_no_previous _ _ _ _ ⟨artifact, none, fresh, none, true, true⟩ hro rfl ho] at hst
    subst hfr hst
    exact ⟨by simp [Request.errorsOf_record_self], rfl⟩
  · -- no defaults to write: the full check of nothing, and nothing to save
    have hempty : (if workflowState st.tables g.id = .enabled then [] else st.defaultsOf style g) = [] := by
      split
      · rfl
      · exact hnone.resolve_left ‹_›
    rw [hempty, if_pos rfl] at hsel
    simp only [hsel, FieldCheck.judge, FieldCheck.checkSubmission_nothing, FieldCheck.make_field, ite_self]
      at hfr hst
    rw [@saveValue_of_no_previous _ _ _ _ ⟨artifact, none, fresh, none, true, false⟩ hro rfl ho] at hfr hst
    subst hfr hst
    by_cases hreq : g.required = true ∧ r.can .submit g.id = true
    · simp [hreq, FieldCheck.reject, FieldCheck.requiredMessage, Request.errorsOf_record_self]
    · simp [hreq, reportSaved_of_no_row ho.1]

end Turn

/-! ## The statement over a submission -/

/-- What the turn of a field `g` left out of a submission on a new artifact leaves: its report
`gr`, and its row of changeset `c` in the tables `t` at the end of the run. -/
structure DefaultsTurn (s : Store) (style : HistoryStyle) (a : Actor) (g : Field) (c : ChangesetId)
    (t : Tables) (gr : FieldReport) : Prop where
  written : workflowState s.tables g.id ≠ .enabled → s.defaultsOf style g ≠ [] →
    (g.multiple = true ∨ (s.defaultsOf style g).length = 1) →
    gr.outcome = .updated ∧ ∃ q, rowOf t c g.id = some q ∧ q.values = s.defaultsOf style g ∧ q.changed = true
  tooMany : workflowState s.tables g.id ≠ .enabled → g.multiple = false → 1 < (s.defaultsOf style g).length →
    gr.outcome = .rejected [⟨.tooManyValues, "The field " ++ g.label ++ " accepts a single value."⟩] ∧
      rowOf t c g.id = none
  noDefaults : workflowState s.tables g.id = .enabled ∨ s.defaultsOf style g = [] →
    gr.outcome = (if g.required = true ∧ granted s.tables a g.id [.submit] = true then
        .rejected [⟨.required, g.displayName ++ " is required."⟩]
      else .unchanged) ∧ rowOf t c g.id = none

/-- What a submission on an artifact without changesets does with a field `g` it leaves out, by
`g`'s default ids `D` and workflow: with `D` not empty and no enforced workflow, `g` is updated to a
row of `D`, as a change, when `g` takes several values or `D` has one, and is reported unchanged only
when the changeset is rolled back because a field failed; with several defaults on a single-value
field, `g` is rejected with one `tooManyValues` error and gets no row; with an enforced workflow or
no defaults, `g` gets no row and is rejected with one `required` error exactly when it is required
and the actor may submit it, and is unchanged otherwise. -/
structure DefaultsApplied (s : Store) (style : HistoryStyle) (a : Actor) (g : Field) (rep : UpdateReport)
    (s' : Store) (fr : FieldReport) : Prop where
  written : workflowState s.tables g.id ≠ .enabled → s.defaultsOf style g ≠ [] →
    (g.multiple = true ∨ (s.defaultsOf style g).length = 1) →
    (∀ c, rep.changeset = some c → fr.outcome = .updated ∧
      ∃ q, rowsOf s'.tables c.id g.id = [q] ∧ q.values = s.defaultsOf style g ∧ q.changed = true) ∧
    (rep.changeset = none → fr.outcome = .unchanged ∧ rep.hasFailures = true)
  tooMany : workflowState s.tables g.id ≠ .enabled → g.multiple = false → 1 < (s.defaultsOf style g).length →
    fr.outcome = .rejected [⟨.tooManyValues, "The field " ++ g.label ++ " accepts a single value."⟩] ∧
      ∀ c, rep.changeset = some c → rowsOf s'.tables c.id g.id = []
  noDefaults : workflowState s.tables g.id = .enabled ∨ s.defaultsOf style g = [] →
    fr.outcome = (if g.required = true ∧ granted s.tables a g.id [.submit] = true then
        .rejected [⟨.required, g.displayName ++ " is required."⟩]
      else .unchanged) ∧
      ∀ c, rep.changeset = some c → rowsOf s'.tables c.id g.id = []

theorem rowsOf_eq_nil_of_rowOf {t : Tables} {c : ChangesetId} {f : FieldId} (h : rowOf t c f = none) :
    rowsOf t c f = [] := by
  rw [rowOf_eq_head?] at h
  exact List.head?_eq_none_iff.1 h

section Submission

variable {style : HistoryStyle} {a : Actor} {artifact : ArtifactId}
  {entries : List (FieldId × List ValueId)} {s s' : Store} {rep : UpdateReport}

/-- At its turn in a submission on a new artifact from a reachable store, a field left out of the
submission gets what `recordField_untouched` says, read in the old store: its choices, workflow and
grants are the turn's. A rejection lists one error, so the turn's request had none for it. -/
theorem FieldRecorded.defaultsTurn (hs : Reachable s) {c : ChangesetRow}
    (hcid : c.id = s.tables.last.changesets + 1) {g : Field} (hg : g ∈ s.tables.fields) {t : Tables}
    {gr : FieldReport}
    (hturn : FieldRecorded style entries false artifact none c.id { actor := a, grants := s.grants }
      ({ s with units := s.tables :: s.units }.withChangeset c) t g gr)
    (hone : ∀ es, gr.outcome = .rejected es → es.length = 1)
    (hsub : submittedFor entries g.id = none) (hro : g.readOnly = false) :
    s.DefaultsTurn style a g c.id t gr := by
  obtain ⟨r, st, r', st', hsame, hrun, ho, ⟨new, n, -, rfl⟩, hrow⟩ := hturn.turn hs.wellFormed hcid hg
  have hnum := hs.choicesNumbered
  obtain ⟨hwritten, hmany, hnone⟩ :=
    recordField_untouched hrun hro ho hsub (defaultsOf_nodup (s := s) style g hnum)
      (none_not_mem_defaultsOf (s := s) style g hnum)
  have hcan : r.can .submit g.id = granted s.tables a g.id [.submit] := by
    rw [hsame.can_eq, can_submit_grants]
  -- a rejection lists the errors the request had for the field, then the one its checks recorded
  have hclean : ∀ e, gr.outcome = .rejected (r.errorsOf g.id ++ [e]) → r.errorsOf g.id = [] :=
    fun e he => by simpa using hone _ he
  refine ⟨fun hen hD hfits => ?_, fun hen hm hlen => ?_, fun hoff => ?_⟩
  · obtain ⟨hout, rfl⟩ := hwritten hen hD hfits
    exact ⟨hout, _, hrow.trans (rowOf_pushRow_self ho.1), ListEntry.read_numbered 0 _, rfl⟩
  · obtain ⟨hout, rfl⟩ := hmany hen hm hlen
    rw [hclean _ hout] at hout
    exact ⟨hout, hrow.trans ho.1⟩
  · obtain ⟨hout, rfl⟩ := hnone hoff
    refine ⟨?_, hrow.trans ho.1⟩
    rw [hcan] at hout
    by_cases hreq : g.required = true ∧ granted s.tables a g.id [.submit] = true
    · rw [if_pos hreq] at hout ⊢
      rw [hclean _ hout] at hout
      exact hout
    · rw [if_neg hreq] at hout ⊢
      exact hout

/-- A field's report names the field. -/
theorem FieldRecorded.report_field {bypass : Bool} {previous : Option ChangesetId} {fresh : ChangesetId}
    {r₀ : Request} {s₀ : Store} {t : Tables} {g : Field} {gr : FieldReport}
    (h : FieldRecorded style entries bypass artifact previous fresh r₀ s₀ t g gr) : gr.field = g.id := by
  obtain ⟨_, _, _, _, _, -, -, -, hrun, -⟩ := h
  exact recordField_report_field hrun

/-- A relation that holds pairwise between two lists holds along with membership in the second. -/
theorem forall₂_mem_right {α β : Type} {R : α → β → Prop} {l₁ : List α} {l₂ : List β}
    (h : List.Forall₂ R l₁ l₂) : List.Forall₂ (fun x y => R x y ∧ y ∈ l₂) l₁ l₂ :=
  List.forall₂_iff_zip.2 ⟨h.length_eq, fun hxy => ⟨(List.forall₂_iff_zip.1 h).2 hxy, (List.of_mem_zip hxy).2⟩⟩

/-- In a kept changeset, the turn's row is the field's row at the end. -/
theorem DefaultsTurn.kept {g : Field} {c : ChangesetRow} {gr : FieldReport}
    (h : s.DefaultsTurn style a g c.id s'.tables gr) (hw : s'.tables.history.WellFormed)
    (hc : rep.changeset = some c) : s.DefaultsApplied style a g rep s' gr := by
  have honly : ∀ c', rep.changeset = some c' → c' = c := fun c' hc' => Option.some.inj (hc'.symm.trans hc)
  refine ⟨fun hen hD hfits => ⟨fun c' hc' => ?_, fun hnone => ?_⟩, fun hen hm hlen => ?_, fun hoff => ?_⟩
  · obtain rfl := honly c' hc'
    obtain ⟨hout, q, hq, hvals, hchanged⟩ := h.written hen hD hfits
    exact ⟨hout, q, rowsOf_eq_of_rowOf hw hq, hvals, hchanged⟩
  · rw [hc] at hnone
    cases hnone
  · obtain ⟨hout, hrow⟩ := h.tooMany hen hm hlen
    exact ⟨hout, fun c' hc' => (honly c' hc') ▸ rowsOf_eq_nil_of_rowOf hrow⟩
  · obtain ⟨hout, hrow⟩ := h.noDefaults hoff
    exact ⟨hout, fun c' hc' => (honly c' hc') ▸ rowsOf_eq_nil_of_rowOf hrow⟩

/-- In a rolled back changeset an update is reported unchanged, and any other outcome stays. -/
theorem DefaultsTurn.discarded {g : Field} {c : ChangesetId} {t : Tables} {gr : FieldReport}
    (h : s.DefaultsTurn style a g c t gr) (hc : rep.changeset = none)
    (hfail : gr.outcome = .updated → rep.hasFailures = true) :
    s.DefaultsApplied style a g rep s'
      (if gr.outcome == .updated then { gr with outcome := .unchanged, change := none } else gr) := by
  have hnone : ∀ c', rep.changeset ≠ some c' := fun c' hc' => by
    rw [hc] at hc'
    cases hc'
  refine ⟨fun hen hD hfits => ⟨fun c' hc' => absurd hc' (hnone c'), fun _ => ?_⟩,
    fun hen hm hlen => ?_, fun hoff => ?_⟩
  · have hout := (h.written hen hD hfits).1
    rw [outcome_discard, if_pos hout]
    exact ⟨rfl, hfail hout⟩
  · have hout := (h.tooMany hen hm hlen).1
    rw [outcome_discard, if_neg (by rw [hout]; simp)]
    exact ⟨hout, fun c' hc' => absurd hc' (hnone c')⟩
  · have hout := (h.noDefaults hoff).1
    rw [outcome_discard, if_neg (by rw [hout]; split <;> simp)]
    exact ⟨hout, fun c' hc' => absurd hc' (hnone c')⟩

/-- **Defaults on creation.** For every reachable store and every submission without bypass on an
artifact that has no changeset yet, the report has one entry per field of the store, in order,
naming its field; and for each field left out of the submission that is not read-only, what happens
depends on its default ids and workflow only (`DefaultsApplied`), whatever the actor's permissions
when there are defaults to write. -/
theorem submit_fills_defaults (hs : Reachable s)
    (h : submit style a artifact entries false s = .ok (rep, s'))
    (hnew : changesetsOf s.tables artifact = []) :
    List.Forall₂ (fun (g : Field) (fr : FieldReport) => fr.field = g.id ∧
        (submittedFor entries g.id = none → g.readOnly = false → s.DefaultsApplied style a g rep s' fr))
      s.tables.fields rep.fields := by
  have hw := hs.wellFormed
  obtain ⟨report, s₁, hrec, hend⟩ := submit_run h
  have hrun := record_run hrec
  simp only [hnew, List.getLast?_nil, Option.map_none] at hrun
  -- each field's turn, with the report it got
  have hturns : List.Forall₂ (fun (g : Field) (gr : FieldReport) => g ∈ s.tables.fields ∧
      gr.field = g.id ∧ (submittedFor entries g.id = none → g.readOnly = false →
        s.DefaultsTurn style a g (s.tables.last.changesets + 1) s₁.tables gr))
      s.tables.fields report.fields :=
    ((List.forall₂_and_left _ _).2 ⟨fun g hg => hg, recordFields_run hw.field_nodup hrun.1⟩).mp
      (fun g gr ⟨hg, hturn⟩ hone => ⟨hg, hturn.report_field,
        fun hsub hro => hturn.defaultsTurn (c := ⟨s.tables.last.changesets + 1, artifact, a.id⟩) hs rfl hg
          hone hsub hro⟩)
      (recordFields_rejected_single hw.field_nodup (fun _ _ => rfl) hrun.1)
  split at hend
  · -- rolled back: a field with defaults written was an update, so a field failed
    next hdiscard =>
    obtain ⟨rfl, rfl⟩ := hend
    have hc : report.discarded.changeset = none := rfl
    rw [UpdateReport.discarded_fields, List.forall₂_map_right_iff]
    refine (forall₂_mem_right hturns).imp fun g gr ⟨⟨hg, hfield, hspec⟩, hgr⟩ =>
      ⟨(UpdateReport.discard_field_failed gr).1.trans hfield, fun hsub hro => (hspec hsub hro).discarded hc fun hupd => ?_⟩
    have hupdated : report.updated ≠ [] :=
      List.ne_nil_of_mem (List.mem_filter.2 ⟨hgr, by rw [hupd]; rfl⟩)
    rw [UpdateReport.hasFailures_discarded]
    simpa [List.isEmpty_iff, hupdated] using hdiscard
  · obtain ⟨rfl, rfl⟩ := hend
    have hc : rep.changeset = some ⟨s.tables.last.changesets + 1, artifact, a.id⟩ := by
      rw [hrun.2]
    have hw' := submit_wellFormed h hw
    exact hturns.imp fun g gr ⟨_, hfield, hspec⟩ => ⟨hfield, fun hsub hro => (hspec hsub hro).kept hw' hc⟩

end Submission

/-- A field with one default choice, left out of the first submission on an artifact, is updated
to it, whatever the actor may do. -/
theorem default_written_on_creation :
    ∃ s, s = replay [.admin (.createUser "alice" none),
        .admin (.createField "status" "Status" .static false false false),
        .admin (.addChoice 1 { label := "Open", isDefault := true }),
        .admin (.createArtifact "a" ⟨1, "alice", []⟩)] {} ∧
      ∃ rep s', submit {} ⟨1, "alice", []⟩ 1 [] false s = .ok (rep, s') ∧ changesetsOf s.tables 1 = [] ∧
        List.Forall₂ (fun (g : Field) (fr : FieldReport) => fr.field = g.id ∧
            (submittedFor [] g.id = none → g.readOnly = false → s.DefaultsApplied {} ⟨1, "alice", []⟩ g rep s' fr))
          s.tables.fields rep.fields ∧
        ∃ fr ∈ rep.fields, fr.outcome = .updated := by
  refine ⟨_, rfl, ?_⟩
  have hreach := Reachable.replay (.migrated true) [.admin (.createUser "alice" none),
    .admin (.createField "status" "Status" .static false false false),
    .admin (.addChoice 1 { label := "Open", isDefault := true }),
    .admin (.createArtifact "a" ⟨1, "alice", []⟩)]
  generalize hs : replay _ _ = s at hreach ⊢
  have hrun : (submit {} ⟨1, "alice", []⟩ 1 [] false s).toOption.map
      (fun p => p.1.fields.map (·.outcome)) = some [.updated] := by
    subst hs
    cbv
  have hnew : changesetsOf s.tables 1 = [] := by subst hs; cbv
  obtain ⟨⟨rep, s'⟩, hsub, hout⟩ := except_ok_of_toOption_map hrun
  obtain ⟨fr, hfr, hupd⟩ := List.map_eq_singleton_iff.1 hout
  exact ⟨rep, s', hsub, hnew, submit_fills_defaults hreach hsub hnew, fr, hfr ▸ List.mem_singleton_self fr, hupd⟩

end Store
end ListField
