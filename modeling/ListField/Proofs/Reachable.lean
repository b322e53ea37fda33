import Mathlib.Data.List.Nodup
import ListField.Proofs.Recording
import ListField.Proofs.Frames

/-!
# Reachable stores and the invariant of their history

The stores a project reaches are built from a fresh, migrated store by the administration
writes (`AdminWrite`) and by submissions (`Reachable`). Besides permissions and choices, a
submission reads and writes a small part of the tables, the `History`: changesets, value rows and
fields, with their counters. This file shows that this part stays well formed.

* Every administration write but the creation of a field leaves the history as it was
  (`AdminWrite.keepsHistory`): by the frame of each write (`Keeps`), none of the others touches
  the changesets, the rows or the fields.
* Creating a field appends one field, numbered by its counter (`createField_run`).
* A submission either leaves the store as it was, or adds its changeset and one run of rows
  over the fields (`submit_committed_rows`); each row goes where it may (`RowStep`).
* Hence `Reachable.wellFormed`: in every reachable store, ids are distinct and at most their
  counters, rows point at existing changesets and at fields that are not read-only, no row holds
  `noneId`, and a changeset has at most one row per field.
-/

namespace ListField

/-- The part of the tables that a submission reads and writes besides permissions and choices:
changesets, value rows, fields, and their counters. -/
structure History where
  changesets : List ChangesetRow
  rows : List ValueRow
  fields : List Field
  lastChangeset : Int
  lastRow : Int
  lastField : Int

/-- The history of the tables. -/
def Tables.history (t : Tables) : History :=
  ⟨t.changesets, t.rows, t.fields, t.last.changesets, t.last.rows, t.last.fields⟩

/-! ## The invariant of the history -/

/-- What every reachable history satisfies: ids are distinct and at most their counters, rows
point at existing changesets and at fields that are not read-only, every row's list fits a row
(no `noneId`, no position twice), and a changeset has at most one row per field. -/
structure History.WellFormed (h : History) : Prop where
  changeset_le : ∀ c ∈ h.changesets, c.id ≤ h.lastChangeset
  changeset_nodup : (h.changesets.map (·.id)).Nodup
  row_changeset : ∀ x ∈ h.rows, ∃ c ∈ h.changesets, c.id = x.changeset
  row_le : ∀ x ∈ h.rows, x.id ≤ h.lastRow
  row_nodup : (h.rows.map (·.id)).Nodup
  row_field : ∀ x ∈ h.rows, ∃ g ∈ h.fields, g.id = x.field ∧ g.readOnly = false
  row_valid : ∀ x ∈ h.rows, ListEntry.Valid x.entries
  row_pairs : h.rows.Pairwise fun x y => x.changeset ≠ y.changeset ∨ x.field ≠ y.field
  field_le : ∀ g ∈ h.fields, g.id ≤ h.lastField
  field_nodup : (h.fields.map (·.id)).Nodup

namespace History.WellFormed

variable {h : History}

/-- An id above every id of a list is not among them. -/
theorem fresh_not_mem {α : Type} {l : List α} {id : α → Int} {n : Int} (hle : ∀ x ∈ l, id x ≤ n) :
    n + 1 ∉ l.map id := by
  simp only [List.mem_map, not_exists, not_and]
  intro x hx e
  have := hle x hx
  omega

/-- No row of a well formed history holds `noneId`. -/
theorem row_none (hw : h.WellFormed) {x : ValueRow} (hx : x ∈ h.rows) : noneId ∉ x.values :=
  (hw.row_valid x hx).none_not_mem_read

theorem empty : (({} : Tables).history).WellFormed := by
  constructor <;> simp [Tables.history]

/-- A new field, numbered by the counter. -/
theorem addField (hw : h.WellFormed) {f : Field} (hid : f.id = h.lastField + 1) :
    { h with fields := h.fields ++ [f], lastField := f.id }.WellFormed where
  changeset_le := hw.changeset_le
  changeset_nodup := hw.changeset_nodup
  row_changeset := hw.row_changeset
  row_le := hw.row_le
  row_nodup := hw.row_nodup
  row_field x hx := by
    obtain ⟨g, hg, hgx⟩ := hw.row_field x hx
    exact ⟨g, List.mem_append_left _ hg, hgx⟩
  row_valid := hw.row_valid
  row_pairs := hw.row_pairs
  field_le g hg := by
    rcases List.mem_append.1 hg with hg | hg
    · exact hid ▸ Int.le_add_one (hw.field_le g hg)
    · obtain rfl := List.mem_singleton.1 hg
      exact Int.le_refl _
  field_nodup := by
    rw [List.map_append, List.nodup_append]
    refine ⟨hw.field_nodup, List.nodup_singleton _, ?_⟩
    simp only [List.map_cons, List.map_nil, List.mem_singleton]
    rintro a ha b rfl rfl
    exact fresh_not_mem hw.field_le (hid ▸ ha)

/-- A new changeset, numbered by the counter. -/
theorem addChangeset (hw : h.WellFormed) {c : ChangesetRow} (hid : c.id = h.lastChangeset + 1) :
    { h with changesets := h.changesets ++ [c], lastChangeset := c.id }.WellFormed where
  changeset_le x hx := by
    rcases List.mem_append.1 hx with hx | hx
    · exact hid ▸ Int.le_add_one (hw.changeset_le x hx)
    · obtain rfl := List.mem_singleton.1 hx
      exact Int.le_refl _
  changeset_nodup := by
    rw [List.map_append, List.nodup_append]
    refine ⟨hw.changeset_nodup, List.nodup_singleton _, ?_⟩
    simp only [List.map_cons, List.map_nil, List.mem_singleton]
    rintro a ha b rfl rfl
    exact fresh_not_mem hw.changeset_le (hid ▸ ha)
  row_changeset x hx := by
    obtain ⟨c', hc', hcx⟩ := hw.row_changeset x hx
    exact ⟨c', List.mem_append_left _ hc', hcx⟩
  row_le := hw.row_le
  row_nodup := hw.row_nodup
  row_field := hw.row_field
  row_valid := hw.row_valid
  row_pairs := hw.row_pairs
  field_le := hw.field_le
  field_nodup := hw.field_nodup

end History.WellFormed

theorem Tables.history_pushRow (t : Tables) (c : ChangesetId) (f : FieldId) (changed : Bool)
    (es : List ListEntry) :
    (t.pushRow c f changed es).history =
      { t.history with rows := t.rows ++ [⟨t.last.rows + 1, c, f, changed, es⟩],
                       lastRow := t.last.rows + 1 } := rfl

/-- A row added where it may go, for a field of the tables that is not read-only and with a
list that fits a row, keeps the history well formed. -/
theorem Tables.wellFormed_pushRow {t : Tables} (hw : t.history.WellFormed) {c : ChangesetId}
    {g : Field} {changed : Bool} {es : List ListEntry} (ho : t.Open c g.id) (hg : g ∈ t.fields)
    (hro : g.readOnly = false) (hv : ListEntry.Valid es) :
    (t.pushRow c g.id changed es).history.WellFormed := by
  obtain ⟨hnone, ⟨x, hx, hxc⟩, -⟩ := ho
  rw [history_pushRow]
  exact {
    changeset_le := hw.changeset_le
    changeset_nodup := hw.changeset_nodup
    row_changeset := fun y hy => by
      rcases List.mem_append.1 hy with hy | hy
      · exact hw.row_changeset y hy
      · obtain rfl := List.mem_singleton.1 hy
        exact ⟨x, hx, hxc⟩
    row_le := fun y hy => by
      rcases List.mem_append.1 hy with hy | hy
      · exact Int.le_add_one (hw.row_le y hy)
      · obtain rfl := List.mem_singleton.1 hy
        exact Int.le_refl _
    row_nodup := by
      rw [List.map_append, List.nodup_append]
      refine ⟨hw.row_nodup, List.nodup_singleton _, ?_⟩
      simp only [List.map_cons, List.map_nil, List.mem_singleton]
      rintro a ha b rfl rfl
      exact History.WellFormed.fresh_not_mem hw.row_le ha
    row_field := fun y hy => by
      rcases List.mem_append.1 hy with hy | hy
      · exact hw.row_field y hy
      · obtain rfl := List.mem_singleton.1 hy
        exact ⟨g, hg, rfl, hro⟩
    row_valid := fun y hy => by
      rcases List.mem_append.1 hy with hy | hy
      · exact hw.row_valid y hy
      · obtain rfl := List.mem_singleton.1 hy
        exact hv
    row_pairs := by
      -- no row of the tables is for the same changeset and field: that pair was open
      refine List.pairwise_append.2 ⟨hw.row_pairs, List.pairwise_singleton _ _, ?_⟩
      intro a ha b hb
      rw [List.mem_singleton.1 hb]
      have := List.find?_eq_none.1 hnone a ha
      simp only [Bool.and_eq_true, beq_iff_eq, not_and] at this
      by_cases hac : a.changeset = c
      · exact .inr (this hac)
      · exact .inl hac
    field_le := hw.field_le
    field_nodup := hw.field_nodup }

namespace Store

/-- A store operation that, when it succeeds, leaves the history as it was: it keeps the view
`Tables.history`. -/
def KeepsHistory {α : Type} (m : StoreM α) : Prop :=
  ∀ s a s', m.run s = .ok (a, s') → s'.tables.history = s.tables.history

theorem current_run (s : Store) : current.run s = .ok (s.tables, s) := rfl

theorem change_run (f : Tables → Tables) (s : Store) :
    (change f).run s = .ok ((), { s with tables := f s.tables }) := rfl

/-- Creating a field appends it to the fields, numbered by the field counter; nothing else of
the history changes. -/
theorem createField_run {name label : String} {source : Source} {required multiple readOnly : Bool}
    {f : Field} {s s' : Store}
    (h : (createField name label source required multiple readOnly).run s = .ok (f, s')) :
    f.id = s.tables.last.fields + 1 ∧
      s'.tables.history = { s.tables.history with fields := s.tables.fields ++ [f], lastField := f.id } := by
  simp only [createField, requireText] at h
  obtain ⟨t, s₁, ht, h⟩ := run_bind_ok h
  rw [current_run] at ht
  cases ht
  obtain ⟨_, s₂, hchk, h⟩ := run_bind_ok h
  -- the name check and the uniqueness check only throw
  split at hchk
  · cases hchk
  · cases hchk
    split at h
    · obtain ⟨_, _, hthrow, -⟩ := run_bind_ok h
      cases hthrow
    · obtain ⟨_, s₃, hc, h⟩ := run_bind_ok h
      rw [change_run] at hc
      cases hc
      cases h
      exact ⟨rfl, rfl⟩

/-! ## Administration writes -/

/-- The administration writes of the store: users, groups and memberships, fields and their
choices, grants, workflows and artifacts. Changesets and value rows are written only by
submissions. -/
inductive AdminWrite where
  | ensureMembersGroup
  | createUser (login : String) (realName : Option String)
  | createGroup (name : String)
  | addMember (g : GroupId) (u : UserId)
  | createField (name label : String) (source : Source) (required multiple readOnly : Bool)
  | addChoice (f : FieldId) (new : NewChoice)
  | grant (f : FieldId) (g : GroupId) (access : Access)
  | setWorkflow (f : FieldId) (enabled : Bool)
  | addTransition (f : FieldId) (source : Option ValueId) (target : ValueId) (groups : List GroupId)
  | createArtifact (title : String) (author : Actor)
  | deleteChoice (v : ValueId)
  | renameChoice (v : ValueId) (label : String)

/-- The write on the store, its answer dropped. -/
def AdminWrite.run : AdminWrite → StoreM Unit
  | .ensureMembersGroup => do let _ ← Store.ensureMembersGroup
  | .createUser login realName => do let _ ← Store.createUser login realName
  | .createGroup name => do let _ ← Store.createGroup name
  | .addMember g u => do let _ ← Store.addMember g u
  | .createField name label source required multiple readOnly =>
    do let _ ← Store.createField name label source required multiple readOnly
  | .addChoice f new => do let _ ← Store.addChoice f new
  | .grant f g access => do let _ ← Store.grant f g access
  | .setWorkflow f enabled => do let _ ← Store.setWorkflow f enabled
  | .addTransition f source target groups => do let _ ← Store.addTransition f source target groups
  | .createArtifact title author => do let _ ← Store.createArtifact title author
  | .deleteChoice v => do let _ ← Store.deleteChoice v
  | .renameChoice v label => do let _ ← Store.renameChoice v label

/-- Whether the write creates a field, the one administration write that touches the history. -/
def AdminWrite.createsField : AdminWrite → Bool
  | .createField .. => true
  | _ => false

open Keeps in
/-- Every administration write but the creation of a field leaves the history as it was: none of
them touches the changesets, the rows or the fields. -/
theorem AdminWrite.keepsHistory : ∀ w : AdminWrite, w.createsField = false → KeepsHistory w.run
  | .ensureMembersGroup, _ =>
    bind' (keeps_ensureMembersGroup (v := Tables.history) fun _ _ _ => rfl) fun _ => pure' _
  | .createUser .., _ =>
    bind' (keeps_createUser (v := Tables.history) (fun _ _ _ _ => rfl) _ _) fun _ => pure' _
  | .createGroup .., _ =>
    bind' (keeps_createGroup (v := Tables.history) (fun _ _ _ => rfl) _) fun _ => pure' _
  | .addMember .., _ =>
    bind' (keeps_addMember (v := Tables.history) (fun _ _ => rfl) _ _) fun _ => pure' _
  | .addChoice .., _ =>
    bind' (keeps_addChoice (v := Tables.history) (fun _ _ _ => rfl) _ _) fun _ => pure' _
  | .grant .., _ =>
    bind' (keeps_grant (v := Tables.history) (fun _ _ => rfl) _ _ _) fun _ => pure' _
  | .setWorkflow .., _ =>
    bind' (keeps_setWorkflow (v := Tables.history) (fun _ _ => rfl) _ _) fun _ => pure' _
  | .addTransition .., _ =>
    bind' (keeps_addTransition (v := Tables.history) (fun _ _ => rfl) (fun _ _ _ => rfl)
      (fun _ _ => rfl) _ _ _ _) fun _ => pure' _
  | .createArtifact .., _ =>
    bind' (keeps_createArtifact (v := Tables.history) (fun _ _ _ => rfl) _ _) fun _ => pure' _
  | .deleteChoice .., _ =>
    bind' (keeps_deleteChoice (v := Tables.history) (fun _ _ _ _ => rfl) _) fun _ => pure' _
  | .renameChoice .., _ =>
    bind' (keeps_renameChoice (v := Tables.history) (fun _ _ => rfl) _ _) fun _ => pure' _

/-- What an administration write does to the history: nothing, or one new field at the end,
numbered by the field counter. -/
theorem AdminWrite.history_run {w : AdminWrite} {s s' : Store} (h : w.run.run s = .ok ((), s')) :
    s'.tables.history = s.tables.history ∨
      ∃ f : Field, f.id = s.tables.last.fields + 1 ∧
        s'.tables.history = { s.tables.history with fields := s.tables.fields ++ [f], lastField := f.id } := by
  cases hw : w.createsField
  · exact .inl (w.keepsHistory hw s () s' h)
  · cases w
    case createField =>
      simp only [run] at h
      obtain ⟨f, s₁, hf, h⟩ := run_bind_ok h
      cases h
      exact .inr ⟨f, createField_run hf⟩
    all_goals cases hw


/-! ## Reachable stores -/

theorem RowStep.fields_eq {c : ChangesetId} {f : Field} {s s' : Store} (h : RowStep c f s s') :
    s'.tables.fields = s.tables.fields := by
  rcases h with rfl | ⟨-, -, -, -, -, rfl⟩ <;> rfl

theorem RowStep.wellFormed {c : ChangesetId} {f : Field} {s s' : Store} (h : RowStep c f s s')
    (hf : f ∈ s.tables.fields) (hw : s.tables.history.WellFormed) : s'.tables.history.WellFormed := by
  rcases h with rfl | ⟨hro, changed, es, ho, hv, rfl⟩
  · exact hw
  · exact Tables.wellFormed_pushRow hw ho hf hro hv

/-- A step keeps every row id at most the row counter. -/
theorem RowStep.rowsFresh {c : ChangesetId} {f : Field} {s s' : Store} (h : RowStep c f s s')
    (hfresh : s.tables.RowsFresh) : s'.tables.RowsFresh := by
  rcases h with rfl | ⟨-, changed, es, -, -, rfl⟩
  · exact hfresh
  · exact hfresh.pushRow _ _ changed es

theorem RowsAdded.rowsFresh {c : ChangesetId} {fs : List Field} {s s' : Store}
    (h : RowsAdded c fs s s') (hfresh : s.tables.RowsFresh) : s'.tables.RowsFresh := by
  induction h with
  | nil => exact hfresh
  | cons hstep _ ih => exact ih (hstep.rowsFresh hfresh)

/-- A run over fields of the store keeps the history well formed, one row at a time. -/
theorem RowsAdded.wellFormed {c : ChangesetId} {fs : List Field} {s s' : Store}
    (h : RowsAdded c fs s s') (hfs : ∀ f ∈ fs, f ∈ s.tables.fields)
    (hw : s.tables.history.WellFormed) : s'.tables.history.WellFormed := by
  induction h with
  | nil => exact hw
  | cons hstep _ ih =>
    refine ih (fun f hf => ?_) (hstep.wellFormed (hfs _ List.mem_cons_self) hw)
    exact hstep.fields_eq ▸ hfs f (List.mem_cons_of_mem _ hf)

/-- A submission keeps the history well formed. -/
theorem submit_wellFormed {style : HistoryStyle} {a : Actor} {artifact : ArtifactId}
    {entries : List (FieldId × List ValueId)} {bypass : Bool} {s s' : Store} {rep : UpdateReport}
    (h : submit style a artifact entries bypass s = .ok (rep, s'))
    (hw : s.tables.history.WellFormed) : s'.tables.history.WellFormed := by
  cases hc : rep.changeset with
  | none => exact (submit_discarded h hc).1 ▸ hw
  | some c =>
    obtain ⟨hcid, -⟩ := submit_committed h hc
    obtain ⟨s₁, hrows, htables⟩ := submit_committed_rows h hc
    rw [htables]
    -- the changeset comes first, numbered by its counter, then the rows of its fields
    have hw₀ : ({ s with units := s.tables :: s.units }.withChangeset c).tables.history.WellFormed :=
      hw.addChangeset (hcid ▸ rfl)
    exact hrows.wellFormed (fun _ hf => hf) hw₀

/-- An administration write keeps the history well formed. -/
theorem AdminWrite.wellFormed {w : AdminWrite} {s s' : Store} (h : w.run.run s = .ok ((), s'))
    (hw : s.tables.history.WellFormed) : s'.tables.history.WellFormed := by
  rcases w.history_run h with heq | ⟨f, hid, heq⟩
  · exact heq ▸ hw
  · exact heq ▸ hw.addField hid

/-- The stores a project can reach from a fresh, migrated store through administration writes
and submissions. A write or a submission that fails leaves the store as it was. -/
inductive Reachable : Store → Prop
  | migrated (openWhenUngrouped : Bool) : Reachable { openWhenUngrouped }
  | admin {s s' : Store} (w : AdminWrite) : Reachable s → w.run.run s = .ok ((), s') → Reachable s'
  | submit {s s' : Store} {style : HistoryStyle} {a : Actor} {artifact : ArtifactId}
      {entries : List (FieldId × List ValueId)} {bypass : Bool} {rep : UpdateReport} :
      Reachable s → submit style a artifact entries bypass s = .ok (rep, s') → Reachable s'

/-- An operation on a project store: an administration write or a submission. -/
inductive Op where
  | admin (w : AdminWrite)
  | submit (style : HistoryStyle) (a : Actor) (artifact : ArtifactId)
      (entries : List (FieldId × List ValueId)) (bypass : Bool)

/-- The store after an operation; an operation that fails leaves the store as it was. -/
def Op.apply : Op → Store → Store
  | .admin w, s =>
    match w.run.run s with
    | .ok (_, s') => s'
    | .error _ => s
  | .submit style a artifact entries bypass, s =>
    match Store.submit style a artifact entries bypass s with
    | .ok (_, s') => s'
    | .error _ => s

/-- The store after a sequence of operations. -/
def replay (ops : List Op) (s : Store) : Store := ops.foldl (fun s op => op.apply s) s

theorem Reachable.apply {s : Store} (hs : Reachable s) (op : Op) : Reachable (op.apply s) := by
  cases op with
  | admin w =>
    simp only [Op.apply]
    split
    · next hrun => exact .admin w hs hrun
    · exact hs
  | submit style a artifact entries bypass =>
    simp only [Op.apply]
    split
    · next hrun => exact .submit hs hrun
    · exact hs

/-- Every store that a sequence of operations leaves, from a reachable one, is reachable. -/
theorem Reachable.replay {s : Store} (hs : Reachable s) (ops : List Op) : Reachable (replay ops s) := by
  induction ops generalizing s with
  | nil => exact hs
  | cons op ops ih => exact ih (hs.apply op)

/-- **Every reachable history is well formed.** -/
theorem Reachable.wellFormed {s : Store} (h : Reachable s) : s.tables.history.WellFormed := by
  induction h with
  | migrated => exact History.WellFormed.empty
  | admin _ _ hrun ih => exact AdminWrite.wellFormed hrun ih
  | submit _ hrun ih => exact submit_wellFormed hrun ih

/-! ## Rows of a well formed history -/

/-- The rows of changeset `c` for field `f`. -/
def rowsOf (t : Tables) (c : ChangesetId) (f : FieldId) : List ValueRow :=
  t.rows.filter fun x => x.changeset == c && x.field == f

section Rows

variable {t : Tables} {c : ChangesetId} {f : FieldId}

theorem mem_rowsOf {x : ValueRow} : x ∈ rowsOf t c f ↔ x ∈ t.rows ∧ x.changeset = c ∧ x.field = f := by
  simp [rowsOf]

/-- `rowOf` is the first of the rows of the changeset and field. -/
theorem rowOf_eq_head? : rowOf t c f = (rowsOf t c f).head? :=
  List.head?_filter.symm

/-- In a well formed history a changeset has at most one row per field. -/
theorem rowsOf_eq_nil_or (hw : t.history.WellFormed) : rowsOf t c f = [] ∨ ∃ q, rowsOf t c f = [q] := by
  have hpair : (rowsOf t c f).Pairwise fun x y => x.changeset ≠ y.changeset ∨ x.field ≠ y.field :=
    hw.row_pairs.filter _
  match h : rowsOf t c f with
  | [] => exact .inl rfl
  | [q] => exact .inr ⟨q, rfl⟩
  | x :: y :: _ =>
    -- two rows of the same changeset and field would break `row_pairs`
    rw [h] at hpair
    have hx := (mem_rowsOf.1 (h ▸ List.mem_cons_self : x ∈ rowsOf t c f)).2
    have hy := (mem_rowsOf.1 (h ▸ List.mem_cons_of_mem _ List.mem_cons_self : y ∈ rowsOf t c f)).2
    have hxy := List.rel_of_pairwise_cons hpair List.mem_cons_self
    rw [hx.1, hx.2, hy.1, hy.2] at hxy
    simp at hxy

theorem rowsOf_eq_of_rowOf (hw : t.history.WellFormed) {q : ValueRow} (h : rowOf t c f = some q) :
    rowsOf t c f = [q] := by
  rw [rowOf_eq_head?] at h
  rcases rowsOf_eq_nil_or hw with h' | ⟨q', h'⟩ <;> rw [h'] at h ⊢
  · cases h
  · cases h
    rfl

/-- A row of a well formed history is the row of its changeset and field. -/
theorem rowOf_of_mem (hw : t.history.WellFormed) {x : ValueRow} (hx : x ∈ rowsOf t c f) :
    rowOf t c f = some x := by
  rw [rowOf_eq_head?]
  rcases rowsOf_eq_nil_or hw with h | ⟨q, h⟩ <;> rw [h] at hx ⊢
  · cases hx
  · rw [List.mem_singleton.1 hx]
    rfl

/-- Among rows with distinct ids, a row is the one its id finds. -/
theorem find?_id_of_nodup {l : List ValueRow} (hnd : (l.map (·.id)).Nodup) {x : ValueRow}
    (hx : x ∈ l) : l.find? (·.id == x.id) = some x := by
  induction l with
  | nil => cases hx
  | cons y l ih =>
    rw [List.map_cons, List.nodup_cons] at hnd
    rcases List.mem_cons.1 hx with rfl | hx
    · simp
    · have hne : y.id ≠ x.id := fun e => hnd.1 (e ▸ List.mem_map_of_mem hx)
      rw [List.find?_cons_of_neg (by simpa using hne)]
      exact ih hnd.2 hx

/-- No changeset of a well formed history has the id its counter gives next. -/
theorem ne_next_of_mem (hw : t.history.WellFormed) {c' : ChangesetRow} (hc' : c' ∈ t.changesets) :
    c'.id ≠ t.last.changesets + 1 := fun e =>
  History.WellFormed.fresh_not_mem hw.changeset_le (e ▸ List.mem_map_of_mem hc')

/-- A well formed history has no row of the changeset its counter numbers next. -/
theorem rowsOf_next (hw : t.history.WellFormed) : rowsOf t (t.last.changesets + 1) f = [] := by
  refine List.eq_nil_iff_forall_not_mem.2 fun x hx => ?_
  obtain ⟨hx, hc, -⟩ := mem_rowsOf.1 hx
  obtain ⟨c', hc', he⟩ := hw.row_changeset x hx
  exact ne_next_of_mem hw hc' (he.trans hc)

end Rows

/-! ## The turn of a field in a kept changeset -/

/-- A relation that holds pairwise between two lists relates each member of the first to some
member of the second. -/
theorem exists_of_forall₂ {α β : Type} {R : α → β → Prop} {l₁ : List α} {l₂ : List β}
    (h : List.Forall₂ R l₁ l₂) {x : α} (hx : x ∈ l₁) : ∃ y ∈ l₂, R x y := by
  induction h with
  | nil => cases hx
  | cons hxy _ ih =>
    rcases List.mem_cons.1 hx with rfl | hx
    · exact ⟨_, List.mem_cons_self, hxy⟩
    · obtain ⟨y, hy, hr⟩ := ih hx
      exact ⟨y, List.mem_cons_of_mem _ hy, hr⟩

/-- **A field's turn on a new changeset.** In a run over the fields of a well formed store, on a
changeset `c` numbered by the store's counter, the turn of a field `g` of the store ran at the
store with `c` and rows of `c` for other fields added, where a row of `g` in `c` may go. -/
theorem FieldRecorded.turn {style : HistoryStyle} {entries : List (FieldId × List ValueId)}
    {bypass : Bool} {artifact : ArtifactId} {previous : Option ChangesetId} {r₀ : Request}
    {s : Store} {tₙ : Tables} {c : ChangesetRow} {g : Field} {gr : FieldReport}
    (hw : s.tables.history.WellFormed) (hcid : c.id = s.tables.last.changesets + 1)
    (hg : g ∈ s.tables.fields)
    (h : FieldRecorded style entries bypass artifact previous c.id r₀
      ({ s with units := s.tables :: s.units }.withChangeset c) tₙ g gr) :
    ∃ r st r' st', Request.SamePermissions r₀ r ∧
      (recordField style entries bypass artifact previous c.id r g).run st = .ok ((gr, r'), st') ∧
      st.tables.Open c.id g.id ∧
      (∃ new n, (∀ x ∈ new, x.changeset = c.id) ∧
        st = ({ s with units := s.tables :: s.units }.withChangeset c).withRows new n) ∧
      rowOf tₙ c.id g.id = rowOf st'.tables c.id g.id := by
  obtain ⟨done, r, st, r', st', hadd, hnot, hsame, hrun, hrow⟩ := h
  -- the row counter stays above every row id, so the id it gives next is free
  have hfree := (hadd.rowsFresh hw.row_le).next_free
  obtain ⟨new, n, hnew, rfl⟩ := hadd.eq_withRows
  refine ⟨r, _, r', st', hsame, hrun, ⟨?_, ⟨c, ?_, rfl⟩, ⟨g, hg, rfl⟩, hfree⟩,
    ⟨new, n, fun x hx => (hnew x hx).1, rfl⟩, hrow⟩
  · -- rows of `c` so far are for fields done before `g`, and the old store has none of `c`
    have hother : ∀ x ∈ new, x.changeset ≠ c.id ∨ x.field ≠ g.id :=
      fun x hx => .inr fun e => hnot (e ▸ (hnew x hx).2)
    rw [rowOf_withRows_of_forall hother]
    show rowOf s.tables c.id g.id = none
    rw [rowOf_eq_head?, hcid, rowsOf_next hw]
    rfl
  · exact List.mem_append_right _ (List.mem_singleton_self c)

/-- **The turn of a field in a kept changeset.** When a submission on a well formed store keeps
changeset `c`, each field `g` of the store had its turn: `recordField` ran for it at a store
that is the old one with `c` and rows of `c` for other fields added, where a row of `g` in `c`
may go, with a request of the actor's permissions; its report is in the answer, and the row it
left for `g` is `g`'s row in `c` at the end. -/
theorem submit_turn {style : HistoryStyle} {a : Actor} {artifact : ArtifactId}
    {entries : List (FieldId × List ValueId)} {bypass : Bool} {s s' : Store} {rep : UpdateReport}
    {c : ChangesetRow} (hw : s.tables.history.WellFormed)
    (h : submit style a artifact entries bypass s = .ok (rep, s')) (hc : rep.changeset = some c)
    {g : Field} (hg : g ∈ s.tables.fields) :
    ∃ r st r' st' gr, gr ∈ rep.fields ∧ Request.SamePermissions { actor := a, grants := s.grants } r ∧
      (recordField style entries bypass artifact
        ((changesetsOf s.tables artifact).getLast?.map (·.id)) c.id r g).run st = .ok ((gr, r'), st') ∧
      st.tables.Open c.id g.id ∧
      (∃ new n, (∀ x ∈ new, x.changeset = c.id) ∧
        st = ({ s with units := s.tables :: s.units }.withChangeset c).withRows new n) ∧
      rowOf s'.tables c.id g.id = rowOf st'.tables c.id g.id := by
  obtain ⟨hcid, -⟩ := submit_committed h hc
  obtain ⟨gr, hgr, hrec⟩ := exists_of_forall₂ (submit_committed_reports hw.field_nodup h hc) hg
  obtain ⟨r, st, r', st', hsame, hrun, ho, hst, hrow⟩ := hrec.turn hw (by rw [hcid]) hg
  exact ⟨r, st, r', st', gr, hgr, hsame, hrun, ho, hst, hrow⟩

/-- The row of field `f` in the last changeset of `artifact`, if any: the row a submission on
the artifact copies forward or compares a new value with. -/
def lastRow (s : Store) (artifact : ArtifactId) (f : FieldId) : Option ValueRow :=
  ((changesetsOf s.tables artifact).getLast?.map (·.id)).bind fun c => rowOf s.tables c f

theorem lastRow_mem {s : Store} {artifact : ArtifactId} {f : FieldId} {p : ValueRow}
    (h : s.lastRow artifact f = some p) : p ∈ s.tables.rows := by
  obtain ⟨c, -, hc⟩ := Option.bind_eq_some_iff.1 h
  exact List.mem_of_find?_eq_some hc

/-- At the turn of a field, the artifact's last changeset still has the rows it had: rows are
only added to the kept changeset, which is new. -/
theorem rowOf_turn_last {s : Store} {artifact : ArtifactId} {c : ChangesetRow}
    {new : List ValueRow} {n : Int} (hw : s.tables.history.WellFormed)
    (hcid : c.id = s.tables.last.changesets + 1) (hnew : ∀ x ∈ new, x.changeset = c.id) (f : FieldId) :
    (((changesetsOf s.tables artifact).getLast?.map (·.id)).bind fun c' =>
      rowOf (({ s with units := s.tables :: s.units }.withChangeset c).withRows new n).tables c' f) =
    s.lastRow artifact f := by
  unfold lastRow
  cases hl : (changesetsOf s.tables artifact).getLast? with
  | none => rfl
  | some c₁ =>
    -- the last changeset is an old one, and rows were added to the new one only
    have hne : c₁.id ≠ c.id :=
      hcid ▸ ne_next_of_mem hw (List.mem_filter.1 (List.mem_of_getLast? hl)).1
    exact rowOf_withRows_of_forall fun x hx => .inl ((hnew x hx).symm ▸ hne.symm)

/-- At the turn of a field, a row of the old store is found by its id as before. -/
theorem find?_turn {s : Store} {c : ChangesetRow} {new : List ValueRow} {n : Int}
    (hw : s.tables.history.WellFormed) {p : ValueRow} (hp : p ∈ s.tables.rows) :
    (({ s with units := s.tables :: s.units }.withChangeset c).withRows new n).tables.rows.find?
      (·.id == p.id) = some p := by
  show (s.tables.rows ++ new).find? _ = some p
  have hfind : s.tables.rows.find? (·.id == p.id) = some p := find?_id_of_nodup hw.row_nodup hp
  rw [List.find?_append, hfind]
  rfl

/-- A row of the old store is a row a turn can copy forward: found by its id, with a list that
fits a row. -/
theorem copySource_turn {s : Store} {c : ChangesetRow} {new : List ValueRow} {n : Int}
    (hw : s.tables.history.WellFormed) {p : ValueRow} (hp : p ∈ s.tables.rows) :
    (({ s with units := s.tables :: s.units }.withChangeset c).withRows new n).tables.rows.find?
      (·.id == p.id) = some p ∧ ListEntry.Valid p.entries :=
  ⟨find?_turn hw hp, hw.row_valid p hp⟩

end Store
end ListField
