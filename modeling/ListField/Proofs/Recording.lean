import Mathlib.Tactic.SplitIfs
import Mathlib.Data.List.Forall2
import ListField.Proofs.ValueRows

/-!
# Recording a changeset

`submit` records a changeset inside a unit of work: `record` adds the changeset row, runs
`recordField` over every field of the store, and the report decides whether the unit is kept.
This file takes that run apart, so that the theorems about submissions reason about table
updates and one field at a time.

* The checks of a field only ever add errors to the request (`FieldCheck.same_judge`), so
  every field is judged with the actor's own permissions.
* `recordField_step`: one field adds at most its own row (`RowStep`); over the fields, the
  steps chain into `RowsAdded` (`recordFields_rows`), and when the field ids are distinct each
  report is the one its field got at its turn (`recordFields_run`, `FieldRecorded`).
* `submit_run`: a report with a failed field or no updated field is rolled back to the store
  the call started from, any other is kept. Hence `submit_discarded` (nothing written,
  nothing updated) and `submit_committed` (one new changeset, numbered by its counter, and
  rows of it only, with no failed field and one updated field at least).
-/

namespace ListField

/-- Two requests with the same actor and the same source of permissions: they answer every
permission question alike. -/
def Request.SamePermissions (r r' : Request) : Prop := r'.actor = r.actor ∧ r'.grants = r.grants

namespace Request

theorem SamePermissions.refl (r : Request) : SamePermissions r r := ⟨rfl, rfl⟩

theorem SamePermissions.trans {r₁ r₂ r₃ : Request} (h₁ : SamePermissions r₁ r₂)
    (h₂ : SamePermissions r₂ r₃) : SamePermissions r₁ r₃ :=
  ⟨h₂.1.trans h₁.1, h₂.2.trans h₁.2⟩

theorem SamePermissions.can_eq {r r' : Request} (h : SamePermissions r r') (acc : Access)
    (f : FieldId) : r'.can acc f = r.can acc f := by
  simp only [can, h.1, h.2]

end Request

namespace FieldCheck

open Request

variable (fc : FieldCheck) (r : Request)

/-! ## Checks only record errors -/

-- every branch of a check hands back `r` itself or `r` with one error recorded
theorem same_checkRequired (v : List ValueId) : SamePermissions r (fc.checkRequired r v).2 := by
  unfold checkRequired
  split_ifs <;> exact ⟨rfl, rfl⟩

theorem same_checkTransition (pv : Option (List ValueId)) (v : List ValueId) :
    SamePermissions r (fc.checkTransition r pv v).2 := by
  unfold checkTransition
  split
  · exact ⟨rfl, rfl⟩
  · simp only
    split_ifs <;> exact ⟨rfl, rfl⟩

theorem same_checkValue (pv : Option (List ValueId)) (v : List ValueId) :
    SamePermissions r (fc.checkValue r pv v).2 := by
  unfold checkValue
  simp only
  split_ifs
  · exact ⟨rfl, rfl⟩
  · exact ⟨rfl, rfl⟩
  · exact ⟨rfl, rfl⟩
  · exact fc.same_checkTransition r pv _

theorem same_checkRequiredAndValue (pv : Option (List ValueId)) (v : List ValueId) :
    SamePermissions r (fc.checkRequiredAndValue r pv v).2 := by
  unfold checkRequiredAndValue
  have h1 := fc.same_checkRequired r v
  split
  · rename_i r1 h
    rw [h] at h1
    exact h1.trans (fc.same_checkValue r1 pv v)
  · exact h1

theorem same_checkSubmission (pv : Option (List ValueId)) (ids : Option (List ValueId))
    (isSubmission : Bool) : SamePermissions r (fc.checkSubmission r pv ids isSubmission).2 := by
  unfold checkSubmission
  simp only
  -- the access the phase needs is one fact for the checks below, not a case split
  generalize (if isSubmission = true then r.can .submit fc.field.id
    else r.can .update fc.field.id) = allowed
  split_ifs
  · exact ⟨rfl, rfl⟩
  · exact ⟨rfl, rfl⟩
  · cases ids with
    | none => exact ⟨rfl, rfl⟩
    | some v => exact fc.same_checkRequiredAndValue r pv v
  · cases ids <;> exact ⟨rfl, rfl⟩

theorem same_judge (pv : Option (List ValueId)) (ids : Option (List ValueId))
    (skip isSubmission : Bool) : SamePermissions r (fc.judge r pv ids skip isSubmission).2 := by
  unfold judge
  split
  · split
    · exact fc.same_checkRequiredAndValue r pv _
    · exact fc.same_checkSubmission r pv _ _
  · exact fc.same_checkSubmission r pv _ _

end FieldCheck

/-- A discarded report names no updated field. -/
theorem UpdateReport.updated_discarded (r : UpdateReport) : r.discarded.updated = [] := by
  simp only [UpdateReport.discarded, UpdateReport.updated, List.filter_eq_nil_iff, List.mem_map]
  rintro _ ⟨f, -, rfl⟩
  split <;> simp_all

namespace Store

/-! ## Rows added to a store -/

/-- `s` with `new` added at the end of its value rows and the row counter at `n`. -/
def withRows (s : Store) (new : List ValueRow) (n : Int) : Store :=
  { s with tables := { s.tables with rows := s.tables.rows ++ new,
                                     last := { s.tables.last with rows := n } } }

@[simp] theorem withRows_withRows (s : Store) (a b : List ValueRow) (n m : Int) :
    (s.withRows a n).withRows b m = s.withRows (a ++ b) m := by
  simp [withRows]

@[simp] theorem withRows_nil (s : Store) : s.withRows [] s.tables.last.rows = s := by
  simp [withRows]

theorem pushRow_eq_withRows (s : Store) (c : ChangesetId) (f : FieldId) (changed : Bool)
    (es : List ListEntry) :
    { s with tables := s.tables.pushRow c f changed es } =
      s.withRows [⟨s.tables.last.rows + 1, c, f, changed, es⟩] (s.tables.last.rows + 1) := rfl

@[simp] theorem withRows_rows (s : Store) (new : List ValueRow) (n : Int) :
    (s.withRows new n).tables.rows = s.tables.rows ++ new := rfl

/-- Added rows of other changesets or fields do not change what is found. -/
theorem rowOf_withRows_of_forall {s : Store} {new : List ValueRow} {n : Int} {c : ChangesetId}
    {f : FieldId} (h : ∀ x ∈ new, x.changeset ≠ c ∨ x.field ≠ f) :
    rowOf (s.withRows new n).tables c f = rowOf s.tables c f := by
  cases hx : rowOf s.tables c f with
  | some x => exact rowOf_of_rows_append rfl hx
  | none =>
    rw [rowOf_of_rows_append_none rfl hx, List.find?_eq_none]
    intro x hx'
    rcases h x hx' with h' | h' <;> simp [h']

theorem RowStep.eq_withRows {c : ChangesetId} {f : Field} {s s' : Store} (h : RowStep c f s s') :
    ∃ new n, (∀ x ∈ new, x.changeset = c ∧ x.field = f.id) ∧ s' = s.withRows new n := by
  rcases h with rfl | ⟨-, changed, es, -, -, rfl⟩
  · exact ⟨[], _, by simp, (withRows_nil _).symm⟩
  · exact ⟨_, _, by simp, pushRow_eq_withRows _ c f.id changed es⟩

/-- The rows a run over the fields `fs` adds to changeset `c`: one `RowStep` for each field,
in order. -/
inductive RowsAdded (c : ChangesetId) : List Field → Store → Store → Prop
  | nil (s : Store) : RowsAdded c [] s s
  | cons {f : Field} {fs : List Field} {s₁ s₂ s₃ : Store} :
      RowStep c f s₁ s₂ → RowsAdded c fs s₂ s₃ → RowsAdded c (f :: fs) s₁ s₃

/-- A run over `fs` only adds rows, of changeset `c` and for fields of `fs`, and moves the row
counter. -/
theorem RowsAdded.eq_withRows {c : ChangesetId} {fs : List Field} {s s' : Store}
    (h : RowsAdded c fs s s') :
    ∃ new n, (∀ x ∈ new, x.changeset = c ∧ x.field ∈ fs.map (·.id)) ∧ s' = s.withRows new n := by
  induction h with
  | nil s => exact ⟨[], _, by simp, (withRows_nil s).symm⟩
  | cons hstep _ ih =>
    obtain ⟨new₁, n₁, h₁, rfl⟩ := hstep.eq_withRows
    obtain ⟨new₂, n₂, h₂, rfl⟩ := ih
    refine ⟨new₁ ++ new₂, n₂, ?_, withRows_withRows _ _ _ _ _⟩
    intro x hx
    rcases List.mem_append.1 hx with hx | hx
    · exact ⟨(h₁ x hx).1, List.mem_cons.2 (.inl (h₁ x hx).2)⟩
    · exact ⟨(h₂ x hx).1, List.mem_cons_of_mem _ (h₂ x hx).2⟩

theorem RowsAdded.rowOf_of_not_mem {c : ChangesetId} {fs : List Field} {s s' : Store}
    (h : RowsAdded c fs s s') {f : FieldId} (hf : f ∉ fs.map (·.id)) :
    rowOf s'.tables c f = rowOf s.tables c f := by
  obtain ⟨new, n, hnew, rfl⟩ := h.eq_withRows
  exact rowOf_withRows_of_forall fun x hx => .inr fun e => hf (e ▸ (hnew x hx).2)

/-! ## One field of a submission -/

section Fields

variable {style : HistoryStyle} {entries : List (FieldId × List ValueId)} {bypass : Bool}
  {artifact : ArtifactId} {previous : Option ChangesetId} {fresh : ChangesetId}

/-- `recordField` in its parts: the ids the field gets, the verdict on them, the writer's
request and what it wrote, and the report. -/
theorem recordField_run {r : Request} {f : Field} {s : Store} :
    (recordField style entries bypass artifact previous fresh r f).run s =
      let cs := s.choicesOf f style.noneLabel
      let prevRow := previous.bind fun c => rowOf s.tables c f.id
      let fc := FieldCheck.make f cs s.lookup
      let sel := fc.idsFor entries previous.isNone
      let verdict := fc.judge r (prevRow.map fun row => (cs.pick row.values).map (·.id)) sel.1
        (bypass || sel.2) previous.isNone
      let sv : SaveRequest :=
        { artifact := artifact, previous := previous, fresh := fresh,
          submitted := if verdict.1 then sel.1 else none, isSubmission := previous.isNone,
          bypass := bypass || sel.2 }
      let w := Writer.saveValue rowStore f cs verdict.2 sv s
      .ok ((if verdict.1 then reportSaved style cs f ((prevRow.map (·.values)).getD []) fresh w.1
              w.2.tables
            else { field := f.id, name := f.name, outcome := .rejected (verdict.2.errorsOf f.id) },
            verdict.2), w.2) := by
  simp only [recordField, StateT.run_bind, StateT.run_get, StateT.run_set, except_pure,
    except_ok_bind]
  split <;> rfl

/-- One field adds at most its own row to the new changeset, and hands on a request with
the same actor and permissions. -/
theorem recordField_step {r r' : Request} {f : Field} {s s' : Store} {rep : FieldReport}
    (h : (recordField style entries bypass artifact previous fresh r f).run s = .ok ((rep, r'), s')) :
    RowStep fresh f s s' ∧ Request.SamePermissions r r' := by
  rw [recordField_run] at h
  simp only [Except.ok.injEq, Prod.mk.injEq] at h
  obtain ⟨⟨-, rfl⟩, rfl⟩ := h
  exact ⟨saveValue_frame rfl, FieldCheck.same_judge _ _ _ _ _ _⟩

/-- A field that had a row in the previous changeset always gets a row in the new one, where
it may go: a new value, normalized, that differs from the previous one, or the previous row's
entries copied forward. -/
theorem recordField_of_previous {r r' : Request} {g : Field} {s s' : Store} {rep : FieldReport}
    {p : ValueRow}
    (h : (recordField style entries bypass artifact previous fresh r g).run s = .ok ((rep, r'), s'))
    (hro : g.readOnly = false) (ho : s.tables.Open fresh g.id)
    (hp : (previous.bind fun c => rowOf s.tables c g.id) = some p)
    (hsrc : s.tables.rows.find? (·.id == p.id) = some p) (hv : ListEntry.Valid p.entries) :
    ∃ changed es, s' = { s with tables := s.tables.pushRow fresh g.id changed es } ∧
      (changed = false ∧ es = p.entries ∨
        changed = true ∧ ∃ ids, es = ListEntry.numbered 0 (Selection.normalize ids) ∧
          Selection.changes p.values ids = true) := by
  rw [recordField_run] at h
  simp only [Except.ok.injEq, Prod.mk.injEq] at h
  obtain ⟨-, rfl⟩ := h
  rcases @saveValue_previous_cases _ _ _ _ ⟨artifact, previous, fresh, _, _, _⟩ _ hro hp ho hsrc hv
    with ⟨ids, -, -, hch, heq⟩ | ⟨-, heq⟩ <;> rw [heq]
  · exact ⟨true, _, rfl, .inr ⟨rfl, ids, rfl, hch⟩⟩
  · exact ⟨false, _, rfl, .inl ⟨rfl, rfl⟩⟩

/-- A new row of a changed value comes from ids the field was given (submitted, or its
defaults), that passed the field's checks, written by an actor the writer lets write. -/
theorem recordField_fresh {r r' : Request} {g : Field} {s s' : Store} {rep : FieldReport}
    (h : (recordField style entries bypass artifact previous fresh r g).run s = .ok ((rep, r'), s'))
    (ho : s.tables.Open fresh g.id) {q : ValueRow} (hq : rowOf s'.tables fresh g.id = some q)
    (hfresh : q.changed = true) :
    let cs := s.choicesOf g style.noneLabel
    let fc := FieldCheck.make g cs s.lookup
    let sel := fc.idsFor entries previous.isNone
    let verdict := fc.judge r ((previous.bind fun c => rowOf s.tables c g.id).map fun row =>
      (cs.pick row.values).map (·.id)) sel.1 (bypass || sel.2) previous.isNone
    ∃ ids, sel.1 = some ids ∧ verdict.1 = true ∧
      Writer.mayWrite g cs verdict.2 ⟨artifact, previous, fresh, some ids, previous.isNone,
        bypass || sel.2⟩ = true ∧ q.values = Selection.normalize ids := by
  rw [recordField_run] at h
  simp only [Except.ok.injEq, Prod.mk.injEq] at h
  obtain ⟨-, rfl⟩ := h
  obtain ⟨ids, hsub, hw, hv⟩ := saveValue_fresh rfl ho hq hfresh
  -- only a value that passed is handed to the writer
  simp only at hsub
  split at hsub
  · next hvalid => exact ⟨ids, hsub, hvalid, hw, hv⟩
  · cases hsub

variable (style entries bypass artifact previous fresh) in
/-- How field `f` got its report `rep` in a run over the fields from `s₀` that began
with request `r₀`: `recordField` ran at a store that is `s₀` with rows of the new changeset
added for other fields, with a request of `r₀`'s actor and permissions; and the row it left
for `f` is `f`'s row in the tables `tₙ` at the end of the run. -/
def FieldRecorded (r₀ : Request) (s₀ : Store) (tₙ : Tables) (f : Field) (rep : FieldReport) : Prop :=
  ∃ done r s r' s', RowsAdded fresh done s₀ s ∧ f.id ∉ done.map (·.id) ∧
    Request.SamePermissions r₀ r ∧
    (recordField style entries bypass artifact previous fresh r f).run s = .ok ((rep, r'), s') ∧
    rowOf tₙ fresh f.id = rowOf s'.tables fresh f.id

/-- A run over the fields adds one step of rows per field. -/
theorem recordFields_rows {r₀ : Request} {fs : List Field} {s₀ sₙ : Store}
    {reps : List FieldReport}
    (h : (recordFields style entries bypass artifact previous fresh r₀ fs).run s₀ =
      .ok (reps, sₙ)) :
    RowsAdded fresh fs s₀ sₙ := by
  induction fs generalizing r₀ s₀ reps with
  | nil =>
    simp only [recordFields, StateT.run_pure, except_pure] at h
    cases h
    exact .nil _
  | cons f rest ih =>
    simp only [recordFields] at h
    obtain ⟨⟨rep, r₁⟩, s₁, h₁, h⟩ := run_bind_ok h
    obtain ⟨reps', s₂, h₂, h⟩ := run_bind_ok h
    simp only [StateT.run_pure, except_pure] at h
    cases h
    exact .cons (recordField_step h₁).1 (ih h₂)

/-- **A run over the fields**, when their ids are distinct: each report is the one its field
got at its turn. -/
theorem recordFields_run {r₀ : Request} {fs : List Field} {s₀ sₙ : Store}
    {reps : List FieldReport} (hnd : (fs.map (·.id)).Nodup)
    (h : (recordFields style entries bypass artifact previous fresh r₀ fs).run s₀ =
      .ok (reps, sₙ)) :
    List.Forall₂ (FieldRecorded style entries bypass artifact previous fresh r₀ s₀ sₙ.tables) fs
      reps := by
  induction fs generalizing r₀ s₀ reps with
  | nil =>
    simp only [recordFields, StateT.run_pure, except_pure] at h
    cases h
    exact .nil
  | cons f rest ih =>
    obtain ⟨hf, hnd'⟩ := List.nodup_cons.1 (List.map_cons ▸ hnd)
    simp only [recordFields] at h
    obtain ⟨⟨rep, r₁⟩, s₁, h₁, h⟩ := run_bind_ok h
    obtain ⟨reps', s₂, h₂, h⟩ := run_bind_ok h
    simp only [StateT.run_pure, except_pure] at h
    cases h
    have hstep := (recordField_step h₁).1
    have hsame := (recordField_step h₁).2
    have hrows := recordFields_rows h₂
    refine .cons ?_ ?_
    · -- the first field ran at the start, and later fields add no row for it
      exact ⟨[], r₀, s₀, r₁, s₁, .nil _, List.not_mem_nil, .refl _, h₁,
        hrows.rowOf_of_not_mem hf⟩
    · -- a later field ran after this one's step: one more field done before it
      have hne : ∀ g ∈ rest, g.id ≠ f.id := fun g hg e => hf (e ▸ List.mem_map_of_mem hg)
      refine ((List.forall₂_and_left _ _).2 ⟨hne, ih hnd' h₂⟩).imp ?_
      rintro g rep' ⟨hg, done, r, s, r', s', hadd, hnot, hsame', hrun, hrow⟩
      refine ⟨f :: done, r, s, r', s', .cons hstep hadd, ?_, hsame.trans hsame', hrun, hrow⟩
      simp only [List.map_cons, List.mem_cons, not_or]
      exact ⟨hg, hnot⟩

end Fields

/-! ## The changeset of a submission -/

/-- `s` with changeset `c` added at the end and the changeset counter at its id. -/
def withChangeset (s : Store) (c : ChangesetRow) : Store :=
  { s with tables := { s.tables with changesets := s.tables.changesets ++ [c],
                                     last := { s.tables.last with changesets := c.id } } }

/-- A new changeset takes the next id of the changeset counter, and is the only change. -/
theorem createChangeset_run {a : ArtifactId} {author : Actor} {c : ChangesetRow} {s s' : Store}
    (h : (createChangeset a author).run s = .ok (c, s')) :
    c = ⟨s.tables.last.changesets + 1, a, author.id⟩ ∧ s' = s.withChangeset c := by
  simp only [createChangeset, artifact, current, change, StateT.run_bind, StateT.run_get,
    StateT.run_pure, except_pure, except_ok_bind] at h
  split at h
  · -- the artifact exists; the author must be a user
    simp only [StateT.run_pure, except_pure, except_ok_bind] at h
    split at h
    · simp at h
      obtain ⟨rfl, rfl⟩ := h
      exact ⟨rfl, rfl⟩
    · simp at h
  · simp at h

theorem withChangeset_grants (s : Store) (c : ChangesetRow) : (s.withChangeset c).grants = s.grants :=
  rfl

/-- `record` in its parts: the new changeset, numbered by the counter, then the run over the
fields with a request of the actor and the store's permissions. -/
theorem record_run {style : HistoryStyle} {a : Actor} {artifact : ArtifactId}
    {entries : List (FieldId × List ValueId)} {bypass : Bool} {fs : List Field} {s s' : Store}
    {rep : UpdateReport}
    (h : (record style a artifact entries bypass fs).run s = .ok (rep, s')) :
    let previous := ((changesetsOf s.tables artifact).getLast?).map (·.id)
    let c : ChangesetRow := ⟨s.tables.last.changesets + 1, artifact, a.id⟩
    (recordFields style entries bypass artifact previous c.id { actor := a, grants := s.grants } fs).run
        (s.withChangeset c) = .ok (rep.fields, s') ∧
      rep = { artifact, changeset := some c, isSubmission := previous.isNone, fields := rep.fields } := by
  simp only [record, current, StateT.run_bind, StateT.run_get, StateT.run_pure, except_pure,
    except_ok_bind] at h
  obtain ⟨⟨c, s₁⟩, hc, h⟩ := except_bind_ok h
  obtain ⟨rfl, rfl⟩ := createChangeset_run hc
  obtain ⟨⟨reps, s₂⟩, hreps, h⟩ := except_bind_ok h
  cases h
  exact ⟨hreps, rfl⟩

@[simp] theorem withRows_units (s : Store) (new : List ValueRow) (n : Int) :
    (s.withRows new n).units = s.units := rfl

@[simp] theorem withChangeset_units (s : Store) (c : ChangesetRow) :
    (s.withChangeset c).units = s.units := rfl

/-- `record` adds the new changeset and then only rows of it, for fields of `fs`. -/
theorem record_rows {style : HistoryStyle} {a : Actor} {artifact : ArtifactId}
    {entries : List (FieldId × List ValueId)} {bypass : Bool} {fs : List Field} {s s' : Store}
    {rep : UpdateReport}
    (h : (record style a artifact entries bypass fs).run s = .ok (rep, s')) :
    ∃ new n, (∀ x ∈ new, x.changeset = s.tables.last.changesets + 1 ∧ x.field ∈ fs.map (·.id)) ∧
      s' = (s.withChangeset ⟨s.tables.last.changesets + 1, artifact, a.id⟩).withRows new n :=
  (recordFields_rows (record_run h).1).eq_withRows

/-- The store a unit of work starts from: `s` with its tables saved. -/
theorem beginUnit_run (s : Store) :
    beginUnit.run s = .ok ((), { s with units := s.tables :: s.units }) := rfl

/-- **The two ends of a submission.** Past the field check, the changeset is recorded inside a
unit of work; a report with a failed field or no updated field rolls it back to the very
store it started from, any other keeps it with the unit closed. -/
theorem submit_run {style : HistoryStyle} {a : Actor} {artifact : ArtifactId}
    {entries : List (FieldId × List ValueId)} {bypass : Bool} {s s' : Store} {rep : UpdateReport}
    (h : submit style a artifact entries bypass s = .ok (rep, s')) :
    ∃ report s₁, (record style a artifact entries bypass s.tables.fields).run
        { s with units := s.tables :: s.units } = .ok (report, s₁) ∧
      if report.hasFailures || report.updated.isEmpty then rep = report.discarded ∧ s' = s
      else rep = report ∧ s' = { s₁ with units := s.units } := by
  simp only [submit] at h
  split at h
  · cases h
  · split at h
    · next result hrun =>
      cases h
      obtain ⟨⟨⟩, s₀, h₀, hrun⟩ := run_bind_ok hrun
      cases h₀
      obtain ⟨report, s₁, hrec, hrun⟩ := run_bind_ok hrun
      obtain ⟨new, n, -, rfl⟩ := record_rows hrec
      refine ⟨report, _, hrec, ?_⟩
      split at hrun
      · next hdiscard =>
        simp only [rollbackUnit, StateT.run_bind, StateT.run_get, except_ok_bind, withRows_units,
          withChangeset_units, StateT.run_modify, StateT.run_pure, except_pure] at hrun
        rw [if_pos hdiscard]
        cases hrun
        exact ⟨rfl, rfl⟩
      · next hkeep =>
        simp only [commitUnit, StateT.run_bind, StateT.run_get, except_ok_bind, withRows_units,
          withChangeset_units, StateT.run_modify, StateT.run_pure, except_pure] at hrun
        rw [if_neg hkeep]
        cases hrun
        exact ⟨rfl, rfl⟩
    · cases h

section Submission

variable {style : HistoryStyle} {a : Actor} {artifact : ArtifactId}
  {entries : List (FieldId × List ValueId)} {bypass : Bool} {s s' : Store} {rep : UpdateReport}

/-- A submission that records no changeset leaves the store as it was and reports no field as
updated. -/
theorem submit_discarded (h : submit style a artifact entries bypass s = .ok (rep, s'))
    (hc : rep.changeset = none) : s' = s ∧ rep.updated = [] := by
  obtain ⟨report, s₁, hrec, hend⟩ := submit_run h
  split at hend
  · obtain ⟨rfl, rfl⟩ := hend
    exact ⟨rfl, report.updated_discarded⟩
  · -- a kept report is the one `record` made, and that one names its changeset
    obtain ⟨rfl, -⟩ := hend
    rw [(record_run hrec).2] at hc
    cases hc

/-- A submission that records changeset `c`: `c` is the next changeset of the artifact, by the
actor, no field failed and one at least was updated, and besides `c` the store only gained
rows of `c`, for fields of the store. -/
theorem submit_committed {c : ChangesetRow}
    (h : submit style a artifact entries bypass s = .ok (rep, s')) (hc : rep.changeset = some c) :
    c = ⟨s.tables.last.changesets + 1, artifact, a.id⟩ ∧ rep.hasFailures = false ∧
      rep.updated ≠ [] ∧
      ∃ new n, (∀ x ∈ new, x.changeset = c.id ∧ x.field ∈ s.tables.fields.map (·.id)) ∧
        s' = (s.withChangeset c).withRows new n := by
  obtain ⟨report, s₁, hrec, hend⟩ := submit_run h
  split at hend
  · obtain ⟨rfl, -⟩ := hend
    cases hc
  · next hkeep =>
    obtain ⟨rfl, rfl⟩ := hend
    rw [(record_run hrec).2] at hc
    cases hc
    obtain ⟨new, n, hnew, rfl⟩ := record_rows hrec
    simp only [Bool.or_eq_true, not_or, Bool.not_eq_true, List.isEmpty_eq_false_iff] at hkeep
    exact ⟨rfl, hkeep.1, hkeep.2, new, n, hnew, rfl⟩

/-- In a recorded changeset, when the store's fields have distinct ids, each field's report is the
one it got at its turn in the run of `record`. -/
theorem submit_committed_reports {c : ChangesetRow} (hnd : (s.tables.fields.map (·.id)).Nodup)
    (h : submit style a artifact entries bypass s = .ok (rep, s')) (hc : rep.changeset = some c) :
    List.Forall₂ (FieldRecorded style entries bypass artifact
        ((changesetsOf s.tables artifact).getLast?.map (·.id)) c.id { actor := a, grants := s.grants }
        ({ s with units := s.tables :: s.units }.withChangeset c) s'.tables)
      s.tables.fields rep.fields := by
  obtain ⟨report, s₁, hrec, hend⟩ := submit_run h
  split at hend
  · obtain ⟨rfl, -⟩ := hend
    cases hc
  · obtain ⟨rfl, rfl⟩ := hend
    have hrun := record_run hrec
    rw [hrun.2] at hc
    cases hc
    have hreps := recordFields_run hnd hrun.1
    exact hreps

/-- In a recorded changeset, the rows are those of one run over the store's fields, started
from the store with the changeset added. -/
theorem submit_committed_rows {c : ChangesetRow}
    (h : submit style a artifact entries bypass s = .ok (rep, s')) (hc : rep.changeset = some c) :
    ∃ s₁, RowsAdded c.id s.tables.fields ({ s with units := s.tables :: s.units }.withChangeset c) s₁ ∧
      s'.tables = s₁.tables := by
  obtain ⟨report, s₁, hrec, hend⟩ := submit_run h
  split at hend
  · obtain ⟨rfl, -⟩ := hend
    cases hc
  · obtain ⟨rfl, rfl⟩ := hend
    have hrun := record_run hrec
    rw [hrun.2] at hc
    cases hc
    exact ⟨s₁, recordFields_rows hrun.1, rfl⟩

end Submission

end Store
end ListField
