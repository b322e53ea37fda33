import ListField.Proofs.Reachable

/-!
# Storing value rows

The two writes of a value row on the connection, checked against the read of a row
(`rowStore.load`, which decodes the list in the order of its positions): `insertValue` stores a
new value, `linkValue` copies an existing row into another changeset. Each writes a head and
then the list one position at a time, in a savepoint.

* `load_pushRow`: the row a write adds is the one read back for its changeset and field.
* `Tables.RowsValid`: what the schema keeps true of the stored rows; it holds in every
  reachable store (`Reachable.rowsValid`).
* `value_rows_round_trip`: a new value is stored exactly when the changeset and the field exist,
  the pair has no row yet and the value does not hold `noneId`, and it is read back as written;
  a copy likewise, with the copied row's ids; a failed write, even one that got halfway through
  its list, leaves every table as the savepoint found it, with whatever an open unit of work
  wrote before.
-/

namespace ListField

/-- What the schema keeps true of the stored value rows: no row id is above the row counter,
row ids are distinct, and every row's list fits a row (no `noneId`, no position twice). -/
structure Tables.RowsValid (t : Tables) : Prop where
  fresh : t.RowsFresh
  id_nodup : (t.rows.map (·.id)).Nodup
  entries_valid : ∀ x ∈ t.rows, ListEntry.Valid x.entries

namespace Store

variable {s : Store} {t : Tables} {c : ChangesetId} {f : FieldId}

/-- Every reachable store keeps the schema's rules on its value rows. -/
theorem Reachable.rowsValid (hs : Reachable s) : s.tables.RowsValid := by
  have hw := hs.wellFormed
  exact ⟨hw.row_le, hw.row_nodup, hw.row_valid⟩

/-- Where the row counter is above every row id, a row may go exactly where the pair has no row
and the changeset and the field exist. -/
theorem open_iff_of_fresh (hfresh : t.RowsFresh) :
    t.Open c f ↔
      (∃ x ∈ t.changesets, x.id = c) ∧ (∃ g ∈ t.fields, g.id = f) ∧
        rowOf t c f = none :=
  ⟨fun ⟨hnone, hc, hf, _⟩ => ⟨hc, hf, hnone⟩,
    fun ⟨hc, hf, hnone⟩ => ⟨hnone, hc, hf, hfresh.next_free⟩⟩

/-- The row that a write adds at the end is the one read back for its changeset and field, its
ids in the order of their positions. -/
theorem load_pushRow (hnone : rowOf t c f = none) (changed : Bool) (es : List ListEntry) :
    rowStore.load { s with tables := t.pushRow c f changed es } c f =
      .ok (some ⟨t.last.rows + 1, c, f, ListEntry.read es, changed⟩) := by
  simp only [rowStore, rowOf_pushRow_self hnone]
  rfl

/-- **Value rows are read back as written, and a failed write leaves nothing behind.**
In a store that keeps the schema's rules, inserting ids `ids` into changeset `c` for field `f`
succeeds exactly when `c` and `f` exist, the pair has no row yet and `ids` does not hold
`noneId`; the row then read back has the id the insert gave, the very ids written (order and
repeats kept) and is marked changed. A failed insert leaves every table as it was: the tables
it started from, which hold whatever an open unit of work wrote before, even when the failure
came after part of the list was written. Copying an existing row into `c` for `f` succeeds
exactly when `c` and `f` exist and the pair has no row yet, and the row then read back holds
the ids of the copied one and is marked unchanged; a failed copy leaves every table as it was;
copying a row that is gone answers `false` and writes nothing. -/
theorem value_rows_round_trip (s : Store) (hv : s.tables.RowsValid) (c : ChangesetId) (f : FieldId)
    (ids : List ValueId) :
    ((∃ id t', (insertValue c f ids).run s.tables = .ok id t') ↔
      (∃ x ∈ s.tables.changesets, x.id = c) ∧ (∃ g ∈ s.tables.fields, g.id = f) ∧
        rowOf s.tables c f = none ∧ noneId ∉ ids) ∧
    (∀ id t', (insertValue c f ids).run s.tables = .ok id t' →
      rowStore.load { s with tables := t' } c f = .ok (some ⟨id, c, f, ids, true⟩)) ∧
    (∀ e t', (insertValue c f ids).run s.tables = .error e t' → t' = s.tables) ∧
    (∀ x ∈ s.tables.rows,
      ((∃ b t', (linkValue c f x.id).run s.tables = .ok b t') ↔
        (∃ x ∈ s.tables.changesets, x.id = c) ∧ (∃ g ∈ s.tables.fields, g.id = f) ∧
          rowOf s.tables c f = none) ∧
      (∀ b t', (linkValue c f x.id).run s.tables = .ok b t' →
        b = true ∧
          rowStore.load { s with tables := t' } c f =
            .ok (some ⟨s.tables.last.rows + 1, c, f, x.values, false⟩)) ∧
      ∀ e t', (linkValue c f x.id).run s.tables = .error e t' → t' = s.tables) ∧
    ∀ r, (∀ x ∈ s.tables.rows, x.id ≠ r) → (linkValue c f r).run s.tables = .ok false s.tables := by
  have hopen := open_iff_of_fresh (c := c) (f := f) hv.fresh
  refine ⟨⟨fun ⟨id, t', h⟩ => ?_, fun h => ?_⟩, fun id t' h => ?_,
    fun e t' h => inSavepoint_error_eq h, fun x hx => ?_, fun r hr => ?_⟩
  · obtain ⟨ho, hn, -⟩ := insertValue_run_eq_ok.1 h
    obtain ⟨hc, hf, hnone⟩ := hopen.1 ho
    exact ⟨hc, hf, hnone, hn⟩
  · obtain ⟨hc, hf, hnone, hn⟩ := h
    exact ⟨_, _, insertValue_run_eq_ok.2 ⟨hopen.2 ⟨hc, hf, hnone⟩, hn, rfl, rfl⟩⟩
  · obtain ⟨ho, -, rfl, rfl⟩ := insertValue_run_eq_ok.1 h
    rw [load_pushRow ho.1, ListEntry.read_numbered]
  · -- the row copied is `x` itself, since row ids are distinct, and its list fits a row
    have hsrc := find?_id_of_nodup hv.id_nodup hx
    have hx' := hv.entries_valid x hx
    refine ⟨⟨fun ⟨b, t', h⟩ => hopen.1 ((linkValue_run_eq_ok hsrc).1 h).1,
      fun h => ⟨_, _, (linkValue_run_eq_ok hsrc).2 ⟨hopen.2 h, hx', rfl, rfl⟩⟩⟩,
      fun b t' h => ?_, fun e t' h => inSavepoint_error_eq h⟩
    obtain ⟨ho, -, rfl, rfl⟩ := (linkValue_run_eq_ok hsrc).1 h
    exact ⟨rfl, load_pushRow ho.1 false x.entries⟩
  · refine linkValue_run_of_none (List.find?_eq_none.2 fun x hx hid => hr x hx ?_)
    simpa using hid

/-- A store with changesets 1 and 2, and the row `[101, 102]` of field 1 in changeset 1, inside an
open unit of work: copying that row into changeset 2 succeeds, and the row read back holds its
ids, marked unchanged. Writing `[102, noneId]` into changeset 2 fails at its second position,
when its head and first id are written; in its savepoint, the insert fails with the tables as
they were. -/
theorem copy_into_next_changeset :
    let s : Store :=
      { tables :=
          { fields := [{ id := 1, name := "status", label := "Status", source := .static }]
            changesets := [⟨1, 1, 1⟩, ⟨2, 1, 1⟩]
            rows := [⟨1, 1, 1, true, [⟨0, 101⟩, ⟨1, 102⟩]⟩]
            last := { changesets := 2, rows := 1 } }
        units := [{}] }
    s.tables.RowsValid ∧ (∃ b t', (linkValue 2 1 1).run s.tables = .ok b t') ∧
      (∀ b t', (linkValue 2 1 1).run s.tables = .ok b t' →
        b = true ∧ rowStore.load { s with tables := t' } 2 1 = .ok (some ⟨2, 2, 1, [101, 102], false⟩)) ∧
      (writeValue 2 1 [102, noneId]).run s.tables =
        .error (.sql (.check "value_id <> 100")) (s.tables.pushRow 2 1 true [⟨0, 102⟩]) ∧
      ∃ e, (insertValue 2 1 [102, noneId]).run s.tables = .error e s.tables := by
  intro s
  have hv : s.tables.RowsValid := by
    refine ⟨fun x hx => ?_, by decide, fun x hx => ?_⟩ <;>
      simp only [s, List.mem_singleton] at hx <;> subst hx
    · decide
    · exact ⟨by decide, by decide⟩
  have hopen :
      (∃ x ∈ s.tables.changesets, x.id = 2) ∧ (∃ g ∈ s.tables.fields, g.id = 1) ∧
        rowOf s.tables 2 1 = none :=
    ⟨⟨⟨2, 1, 1⟩, by simp [s], rfl⟩, ⟨_, List.mem_singleton_self _, rfl⟩, rfl⟩
  obtain ⟨-, -, -, hlink, -⟩ := value_rows_round_trip s hv 2 1 []
  obtain ⟨hins, -, hfail, -⟩ := value_rows_round_trip s hv 2 1 [102, noneId]
  obtain ⟨hiff, hload, -⟩ :=
    hlink ⟨1, 1, 1, true, [⟨0, 101⟩, ⟨1, 102⟩]⟩ (List.mem_singleton_self _)
  have hread : (⟨1, 1, 1, true, [⟨0, 101⟩, ⟨1, 102⟩]⟩ : ValueRow).values = [101, 102] :=
    ListEntry.read_numbered 0 [101, 102]
  have herr : ∃ e, (insertValue 2 1 [102, noneId]).run s.tables = .error e s.tables := by
    rcases sql_run_cases (insertValue 2 1 [102, noneId]) s.tables with
      ⟨id, t', h⟩ | ⟨e, t', h⟩
    · exact absurd (List.mem_cons_of_mem _ List.mem_cons_self) (hins.1 ⟨id, t', h⟩).2.2.2
    · exact ⟨e, hfail e t' h ▸ h⟩
  have hhalf := @writeValue_run_of_none _ _ _ ((open_iff_of_fresh hv.fresh).2 hopen) [102] []
    (by decide)
  refine ⟨hv, hiff.2 hopen, fun b t' h => ?_, hhalf, herr⟩
  rw [← hread]
  exact hload b t' h

end Store
end ListField
