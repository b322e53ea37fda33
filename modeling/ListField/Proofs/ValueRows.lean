import ListField.Update
import ListField.Proofs.ValueLists

/-!
# Value rows: what the writer adds to the tables

The writer of a new changeset (`Writer.saveValue` over the store) stores a new value
(`insertRow`) or copies the previous row forward (`linkRow`), once per field. Both write on the
connection in a savepoint (`ListField.Proofs.ValueLists`); this file gives what they do to the
store as plain table updates, so that the submission's proofs never unfold the store monad
again.

* `insertRow_run_of_open`, `linkRow_run_of_open`: where a row may go (`Tables.Open`), a new
  value or a copy is one row at the end (`Tables.pushRow`) and nothing else; elsewhere the
  write fails and the store is as it was.
* `saveValue_frame`: whatever the writer does, the store is unchanged or has one more row
  for the field in the new changeset (`RowStep`), and a read-only field gets nothing.
* `saveValue_of_previous`, `saveValue_of_no_previous`: where the row may go, what the
  writer stores, by whether the field had a row in the previous changeset.
-/

namespace ListField

namespace Store

variable {α β : Type} {s s' : Store}

theorem except_bind_ok {x : Except StoreError α} {g : α → Except StoreError β} {b : β}
    (h : (x >>= g) = .ok b) : ∃ a, x = .ok a ∧ g a = .ok b := by
  cases x with
  | error e => cases h
  | ok a => exact ⟨a, rfl, h⟩

/-- A run that answers through `toOption` succeeded. -/
theorem except_ok_of_toOption_map {ε : Type} {x : Except ε α} {f : α → β} {b : β}
    (h : x.toOption.map f = some b) : ∃ a, x = .ok a ∧ f a = b := by
  cases x with
  | error e => cases h
  | ok a => exact ⟨a, rfl, Option.some.inj h⟩

theorem run_bind_ok {x : StoreM α} {g : α → StoreM β} {b : β} {s'' : Store}
    (h : (x >>= g).run s = .ok (b, s'')) :
    ∃ a s', x.run s = .ok (a, s') ∧ (g a).run s' = .ok (b, s'') := by
  rw [StateT.run_bind] at h
  obtain ⟨⟨a, s'⟩, hx, hg⟩ := except_bind_ok h
  exact ⟨a, s', hx, hg⟩

@[simp] theorem run_throw (e : StoreError) : (throw e : StoreM α).run s = .error e := rfl

@[simp] theorem except_error_bind {γ : Type} (e : StoreError) (g : γ → Except StoreError β) :
    (Except.error e >>= g) = .error e := rfl

@[simp] theorem except_throw {γ : Type} (e : StoreError) : (throw e : Except StoreError γ) = .error e :=
  rfl

@[simp] theorem except_pure {γ : Type} (x : γ) : (pure x : Except StoreError γ) = .ok x := rfl

@[simp] theorem except_ok_bind {γ : Type} (x : γ) (g : γ → Except StoreError β) :
    (Except.ok x >>= g) = g x := rfl

/-! ## Finding rows -/

theorem rowOf_of_rows_append {t t' : Tables} {new : List ValueRow} {c : ChangesetId} {f : FieldId}
    {x : ValueRow} (hr : t'.rows = t.rows ++ new) (h : rowOf t c f = some x) : rowOf t' c f = some x := by
  simp only [rowOf] at h ⊢
  rw [hr, List.find?_append, h]
  rfl

theorem rowOf_of_rows_append_none {t t' : Tables} {new : List ValueRow} {c : ChangesetId}
    {f : FieldId} (hr : t'.rows = t.rows ++ new) (h : rowOf t c f = none) :
    rowOf t' c f = new.find? fun r => r.changeset == c && r.field == f := by
  simp only [rowOf] at h ⊢
  rw [hr, List.find?_append, h]
  rfl

theorem rowOf_pushRow_self {t : Tables} {c : ChangesetId} {f : FieldId} {changed : Bool}
    {es : List ListEntry} (h : rowOf t c f = none) :
    rowOf (t.pushRow c f changed es) c f = some ⟨t.last.rows + 1, c, f, changed, es⟩ := by
  rw [rowOf_of_rows_append_none rfl h]
  simp

theorem rowOf_pushRow_of_ne {t : Tables} {c c' : ChangesetId} {f f' : FieldId} {changed : Bool}
    {es : List ListEntry} (h : c' ≠ c ∨ f' ≠ f) :
    rowOf (t.pushRow c f changed es) c' f' = rowOf t c' f' := by
  cases hx : rowOf t c' f' with
  | some x => exact rowOf_of_rows_append rfl hx
  | none =>
    rw [rowOf_of_rows_append_none rfl hx]
    rcases h with h | h <;> simp [Ne.symm h]

/-! ## The writes on the store -/

section Writes

variable {c : ChangesetId} {f : FieldId}

/-- Storing a value where a row may go adds it as the last row, marked changed, and nothing
else. -/
theorem insertRow_run_of_open {ids : List ValueId} (ho : s.tables.Open c f) (hn : noneId ∉ ids) :
    (insertRow c f ids).run s =
      .ok (s.tables.last.rows + 1,
        { s with tables := s.tables.pushRow c f true (ListEntry.numbered 0 ids) }) := by
  rw [insertRow, onConnection_run, insertValue_run_eq_ok.2 ⟨ho, hn, rfl, rfl⟩]

/-- Storing a value where no row may go, or one holding `noneId`, fails. -/
theorem insertRow_run_of_not_open {ids : List ValueId}
    (h : ¬ (s.tables.Open c f ∧ noneId ∉ ids)) :
    ∃ e, (insertRow c f ids).run s = .error e := by
  obtain ⟨e, he⟩ := insertValue_run_error_of h
  exact ⟨e, by rw [insertRow, onConnection_run, he]⟩

/-- Copying a row that is gone writes nothing and answers `false`. -/
theorem linkRow_run_of_none {r : RowId} (h : s.tables.rows.find? (·.id == r) = none) :
    (linkRow c f r).run s = .ok (false, s) := by
  rw [linkRow, onConnection_run, linkValue_run_of_none h]

/-- Copying a row whose list fits a row, where a row may go, adds the copy as the last row,
marked unchanged, and nothing else. -/
theorem linkRow_run_of_open {r : RowId} {src : ValueRow}
    (hsrc : s.tables.rows.find? (·.id == r) = some src) (ho : s.tables.Open c f)
    (hv : ListEntry.Valid src.entries) :
    (linkRow c f r).run s =
      .ok (true, { s with tables := s.tables.pushRow c f false src.entries }) := by
  rw [linkRow, onConnection_run, (linkValue_run_eq_ok hsrc).2 ⟨ho, hv, rfl, rfl⟩]

/-- Any other copy of a row that is there fails. -/
theorem linkRow_run_of_not_open {r : RowId} {src : ValueRow}
    (hsrc : s.tables.rows.find? (·.id == r) = some src)
    (h : ¬ (s.tables.Open c f ∧ ListEntry.Valid src.entries)) :
    ∃ e, (linkRow c f r).run s = .error e := by
  rcases sql_run_cases (linkValue c f r) s.tables with ⟨b, t, hok⟩ | ⟨e, t, herr⟩
  · obtain ⟨ho, hv, -⟩ := (linkValue_run_eq_ok hsrc).1 hok
    exact absurd ⟨ho, hv⟩ h
  · exact ⟨e, by rw [linkRow, onConnection_run, herr]⟩

end Writes

/-! ## The writer over the store -/

/-- The writer's new row, stored normalized, when the field may take a row. -/
theorem writerInsert_of_open {f : Field} {sv : SaveRequest} {ids : List ValueId}
    (ho : s.tables.Open sv.fresh f.id) :
    Writer.insertRow rowStore f sv ids s =
      (true, { s with
        tables := s.tables.pushRow sv.fresh f.id true
          (ListEntry.numbered 0 (Selection.normalize ids)) }) := by
  have hn : noneId ∉ Selection.normalize ids := fun h => (Selection.mem_normalize.1 h).2 rfl
  simp only [Writer.insertRow, rowStore]
  rw [insertRow_run_of_open ho hn]

theorem writerInsert_frame {f : Field} {sv : SaveRequest} {ids : List ValueId} {b : Bool}
    (h : Writer.insertRow rowStore f sv ids s = (b, s')) :
    s' = s ∨ s.tables.Open sv.fresh f.id ∧
      s' = { s with tables :=
        s.tables.pushRow sv.fresh f.id true (ListEntry.numbered 0 (Selection.normalize ids)) } := by
  by_cases ho : s.tables.Open sv.fresh f.id
  · rw [writerInsert_of_open ho] at h
    cases h
    exact .inr ⟨ho, rfl⟩
  · obtain ⟨e, he⟩ :
        ∃ e, (insertRow sv.fresh f.id (Selection.normalize ids)).run s = .error e :=
      insertRow_run_of_not_open fun h => ho h.1
    simp only [Writer.insertRow, rowStore, he] at h
    cases h
    exact .inl rfl

/-- Copying a row forward writes its entries as an unchanged row of the new changeset. -/
theorem writerCopy_of_open {f : Field} {sv : SaveRequest} {p : StoredRow} {src : ValueRow}
    (hsrc : s.tables.rows.find? (·.id == p.id) = some src) (ho : s.tables.Open sv.fresh f.id)
    (hv : ListEntry.Valid src.entries) :
    Writer.copyForward rowStore f sv p s =
      (true, { s with tables := s.tables.pushRow sv.fresh f.id false src.entries }) := by
  simp only [Writer.copyForward, rowStore]
  rw [linkRow_run_of_open hsrc ho hv]

theorem writerCopy_frame {f : Field} {sv : SaveRequest} {p : StoredRow} {b : Bool}
    (h : Writer.copyForward rowStore f sv p s = (b, s')) :
    s' = s ∨ ∃ es, s.tables.Open sv.fresh f.id ∧ ListEntry.Valid es ∧
      s' = { s with tables := s.tables.pushRow sv.fresh f.id false es } := by
  cases hsrc : s.tables.rows.find? (·.id == p.id) with
  | none =>
    simp only [Writer.copyForward, rowStore, linkRow_run_of_none hsrc] at h
    cases h
    exact .inl rfl
  | some src =>
    by_cases ho : s.tables.Open sv.fresh f.id ∧ ListEntry.Valid src.entries
    · rw [writerCopy_of_open hsrc ho.1 ho.2] at h
      cases h
      exact .inr ⟨src.entries, ho.1, ho.2, rfl⟩
    · obtain ⟨e, he⟩ := linkRow_run_of_not_open hsrc ho
      simp only [Writer.copyForward, rowStore, he] at h
      cases h
      exact .inl rfl

/-- The row of field `f` in the changeset before the new one, which the writer compares
with and copies forward. -/
def previousRow (t : Tables) (sv : SaveRequest) (f : FieldId) : Option ValueRow :=
  sv.previous.bind fun c => rowOf t c f

/-- The writer over the store, with the previous row looked up. -/
theorem saveValue_rowStore {f : Field} {cs : Choices} {r : Request} {sv : SaveRequest} :
    Writer.saveValue rowStore f cs r sv s =
      if f.readOnly then (true, s)
      else
        match previousRow s.tables sv f.id with
        | some p =>
          match sv.submitted with
          | some ids =>
            if Writer.mayWrite f cs r sv && Selection.changes p.values ids then
              Writer.insertRow rowStore f sv ids s
            else Writer.copyForward rowStore f sv (ValueRow.stored p) s
          | none => Writer.copyForward rowStore f sv (ValueRow.stored p) s
        | none =>
          match sv.submitted with
          | none => (true, s)
          | some ids => if Writer.mayWrite f cs r sv then Writer.insertRow rowStore f sv ids s
                        else (false, s) := by
  unfold Writer.saveValue previousRow
  cases sv.previous with
  | none => rfl
  | some c =>
    simp only [rowStore, Option.bind_some]
    cases rowOf s.tables c f.id <;> rfl

/-- `s'` is `s`, or `s` with one more row for field `f` in changeset `c`: a field that is
not read-only, where such a row may go, and a list that fits a row. -/
def RowStep (c : ChangesetId) (f : Field) (s s' : Store) : Prop :=
  s' = s ∨ f.readOnly = false ∧ ∃ changed es, s.tables.Open c f.id ∧ ListEntry.Valid es ∧
    s' = { s with tables := s.tables.pushRow c f.id changed es }

/-- Whatever the writer does, it adds at most one row, for its field in the new changeset,
and none for a read-only field. -/
theorem saveValue_frame {f : Field} {cs : Choices} {r : Request} {sv : SaveRequest} {b : Bool}
    (h : Writer.saveValue rowStore f cs r sv s = (b, s')) : RowStep sv.fresh f s s' := by
  rw [saveValue_rowStore] at h
  split at h
  · cases h
    exact .inl rfl
  · rename_i hro
    simp only [Bool.not_eq_true] at hro
    have hins (ids : List ValueId) (hw : Writer.insertRow rowStore f sv ids s = (b, s')) :
        RowStep sv.fresh f s s' := by
      rcases writerInsert_frame hw with rfl | ⟨ho, rfl⟩
      · exact .inl rfl
      · exact .inr ⟨hro, true, _, ho,
          ListEntry.valid_numbered_iff.2 fun h => (Selection.mem_normalize.1 h).2 rfl, rfl⟩
    have hcopy (p : StoredRow) (hw : Writer.copyForward rowStore f sv p s = (b, s')) :
        RowStep sv.fresh f s s' := by
      rcases writerCopy_frame hw with rfl | ⟨es, ho, hv, rfl⟩
      · exact .inl rfl
      · exact .inr ⟨hro, false, es, ho, hv, rfl⟩
    -- the five ends of the writer: an insert, a copy, or the store left alone
    cases hp : previousRow s.tables sv f.id with
    | none =>
      simp only [hp] at h
      split at h
      · cases h
        exact .inl rfl
      · split at h
        · exact hins _ h
        · cases h
          exact .inl rfl
    | some p =>
      simp only [hp] at h
      split at h
      · split at h
        · exact hins _ h
        · exact hcopy _ h
      · exact hcopy _ h

/-- A new row of a changed value, where the field had none, is the writer's insert: of the
submitted ids, normalized, by an actor who may write them. -/
theorem saveValue_fresh {f : Field} {cs : Choices} {r : Request} {sv : SaveRequest} {b : Bool}
    (h : Writer.saveValue rowStore f cs r sv s = (b, s')) (ho : s.tables.Open sv.fresh f.id)
    {q : ValueRow} (hq : rowOf s'.tables sv.fresh f.id = some q) (hfresh : q.changed = true) :
    ∃ ids, sv.submitted = some ids ∧ Writer.mayWrite f cs r sv = true ∧
      q.values = Selection.normalize ids := by
  -- the store left alone has no row there, and a copy is no change
  have hsame : s' ≠ s := fun e => by rw [e, ho.1] at hq; cases hq
  have hins (ids : List ValueId) (hw : Writer.insertRow rowStore f sv ids s = (b, s')) :
      q.values = Selection.normalize ids := by
    rcases writerInsert_frame hw with e | ⟨-, rfl⟩
    · exact absurd e hsame
    · rw [rowOf_pushRow_self ho.1] at hq
      cases hq
      simp
  have hcopy (p : StoredRow) (hw : Writer.copyForward rowStore f sv p s = (b, s')) : False := by
    rcases writerCopy_frame hw with e | ⟨es, -, -, rfl⟩
    · exact hsame e
    · rw [rowOf_pushRow_self ho.1] at hq
      cases hq
      cases hfresh
  rw [saveValue_rowStore] at h
  split at h
  · cases h
    exact absurd rfl hsame
  · cases hsub : sv.submitted with
    | none =>
      cases hp : previousRow s.tables sv f.id <;> simp only [hp, hsub] at h
      · cases h
        exact absurd rfl hsame
      · exact (hcopy _ h).elim
    | some ids =>
      cases hp : previousRow s.tables sv f.id <;> simp only [hp, hsub] at h <;> split at h
      · next hw => exact ⟨ids, rfl, hw, hins ids h⟩
      · cases h
        exact absurd rfl hsame
      · next hw => exact ⟨ids, rfl, (Bool.and_eq_true _ _ ▸ hw).1, hins ids h⟩
      · exact (hcopy _ h).elim

/-- With a previous row, the writer always saves: a new value when the actor may write the
field and the submitted ids differ from the previous ones as a set, a copy of the
previous row otherwise. -/
theorem saveValue_of_previous {f : Field} {cs : Choices} {r : Request} {sv : SaveRequest}
    {p : ValueRow} (hro : f.readOnly = false) (hp : previousRow s.tables sv f.id = some p)
    (ho : s.tables.Open sv.fresh f.id) (hsrc : s.tables.rows.find? (·.id == p.id) = some p)
    (hv : ListEntry.Valid p.entries) :
    Writer.saveValue rowStore f cs r sv s =
      (true, { s with tables :=
        match sv.submitted with
        | some ids =>
          if Writer.mayWrite f cs r sv && Selection.changes p.values ids then
            s.tables.pushRow sv.fresh f.id true (ListEntry.numbered 0 (Selection.normalize ids))
          else s.tables.pushRow sv.fresh f.id false p.entries
        | none => s.tables.pushRow sv.fresh f.id false p.entries }) := by
  rw [saveValue_rowStore, if_neg (by simp [hro]), hp]
  cases sv.submitted with
  | none => exact writerCopy_of_open hsrc ho hv
  | some ids =>
    simp only
    split
    · exact writerInsert_of_open ho
    · exact writerCopy_of_open hsrc ho hv

/-- With a previous row, the writer stores a new value exactly when one was submitted, the actor
may write and the value differs; otherwise it copies the previous row forward. -/
theorem saveValue_previous_cases {f : Field} {cs : Choices} {r : Request} {sv : SaveRequest}
    {p : ValueRow} (hro : f.readOnly = false) (hp : previousRow s.tables sv f.id = some p)
    (ho : s.tables.Open sv.fresh f.id) (hsrc : s.tables.rows.find? (·.id == p.id) = some p)
    (hv : ListEntry.Valid p.entries) :
    (∃ ids, sv.submitted = some ids ∧ Writer.mayWrite f cs r sv = true ∧
        Selection.changes p.values ids = true ∧
        Writer.saveValue rowStore f cs r sv s =
          (true, { s with
            tables := s.tables.pushRow sv.fresh f.id true
              (ListEntry.numbered 0 (Selection.normalize ids)) })) ∨
      ((∀ ids, sv.submitted = some ids → Writer.mayWrite f cs r sv = true →
          Selection.changes p.values ids = false) ∧
        Writer.saveValue rowStore f cs r sv s =
          (true, { s with tables := s.tables.pushRow sv.fresh f.id false p.entries })) := by
  rw [saveValue_of_previous hro hp ho hsrc hv]
  cases hsub : sv.submitted with
  | none => exact .inr ⟨(fun _ h => nomatch h), rfl⟩
  | some ids =>
    dsimp only
    by_cases hnew : (Writer.mayWrite f cs r sv && Selection.changes p.values ids) = true
    · rw [if_pos hnew]
      rw [Bool.and_eq_true] at hnew
      exact .inl ⟨ids, rfl, hnew.1, hnew.2, rfl⟩
    · rw [if_neg hnew]
      refine .inr ⟨fun ids' h hw => ?_, rfl⟩
      cases h
      simpa [hw] using hnew

/-- Without a previous row, the writer stores what was submitted when the actor may write
the field, does nothing when nothing was submitted, and fails otherwise. -/
theorem saveValue_of_no_previous {f : Field} {cs : Choices} {r : Request} {sv : SaveRequest}
    (hro : f.readOnly = false) (hp : previousRow s.tables sv f.id = none)
    (ho : s.tables.Open sv.fresh f.id) :
    Writer.saveValue rowStore f cs r sv s =
      match sv.submitted with
      | none => (true, s)
      | some ids =>
        if Writer.mayWrite f cs r sv then
          (true, { s with
            tables := s.tables.pushRow sv.fresh f.id true
              (ListEntry.numbered 0 (Selection.normalize ids)) })
        else (false, s) := by
  rw [saveValue_rowStore, if_neg (by simp [hro]), hp]
  cases sv.submitted with
  | none => rfl
  | some ids =>
    simp only
    split
    · exact writerInsert_of_open ho
    · rfl

end Store
end ListField
