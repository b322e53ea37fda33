import ListField.Store.Basic

/-!
# Writing a stored list of ids

A value row is written on the connection (`SqlM`) statement by statement: its head
(`insertHead`), then one entry per position (`insertEntry`, in the loop `insertEntries`), all in
one savepoint (`inSavepoint`). A statement that fails keeps what the statements before it wrote;
only the savepoint puts the tables back. This file says once what each statement does, then
what a whole write does.

* `ListEntry.read_numbered`: a list written at the positions `0, 1, …` reads back as itself,
  in its order and with its repeats.
* `inSavepoint_run_eq_ok`, `inSavepoint_run_error`: a savepoint keeps a write that succeeds,
  and puts back the tables it started from when the write fails, however far it got.
* `insertEntries_run_pushRow`: on a new row, the loop over the positions succeeds exactly when
  no id is `noneId` and no position comes twice, and then the row holds the entries.
* `insertValue_run_eq_ok`, `linkValue_run_eq_ok`: a new value and a copy succeed exactly where a
  row may go (and, for a copy, when the copied list fits a row), and then they are one row at
  the end of the tables (`Tables.pushRow`).
-/

namespace ListField

namespace ListEntry

theorem le_position_of_mem {p : Nat} {ids : List ValueId} {e : ListEntry}
    (h : e ∈ numbered p ids) : p ≤ e.position := by
  induction ids generalizing p with
  | nil => cases h
  | cons v vs ih =>
    rcases List.mem_cons.1 h with rfl | h
    · exact Nat.le_refl _
    · exact Nat.le_of_succ_le (ih h)

/-- A list is written at increasing positions. -/
theorem pairwise_numbered (p : Nat) (ids : List ValueId) :
    (numbered p ids).Pairwise fun a b => a.position < b.position := by
  induction ids generalizing p with
  | nil => exact .nil
  | cons v vs ih => exact List.pairwise_cons.2 ⟨fun _ he => le_position_of_mem he, ih (p + 1)⟩

theorem numbered_append (p : Nat) (a b : List ValueId) :
    numbered p (a ++ b) = numbered p a ++ numbered (p + a.length) b := by
  induction a generalizing p with
  | nil => rfl
  | cons v vs ih =>
    rw [List.cons_append, numbered, numbered, ih, List.cons_append, List.length_cons, Nat.add_assoc,
      Nat.add_comm 1]

@[simp] theorem map_value_numbered (p : Nat) (ids : List ValueId) :
    (numbered p ids).map (·.value) = ids := by
  induction ids generalizing p with
  | nil => rfl
  | cons v vs ih => simp [numbered, ih]

/-- A list written at consecutive positions reads back as itself: the same ids, in the same
order, with the same repeats. -/
@[simp] theorem read_numbered (p : Nat) (ids : List ValueId) : read (numbered p ids) = ids := by
  have hsorted : (numbered p ids).Pairwise fun a b => decide (a.position ≤ b.position) = true :=
    (pairwise_numbered p ids).imp fun h => decide_eq_true (Nat.le_of_lt h)
  rw [read, List.mergeSort_of_pairwise hsorted, map_value_numbered]

/-- One more entry keeps the positions distinct exactly when its position is new. -/
theorem positions_nodup_concat {es : List ListEntry} {e : ListEntry} :
    ((es ++ [e]).map (·.position)).Nodup ↔
      (es.map (·.position)).Nodup ∧ e.position ∉ es.map (·.position) := by
  rw [List.map_append, List.map_singleton, List.nodup_append]
  simp only [List.nodup_cons, List.not_mem_nil, not_false_eq_true, List.nodup_nil, and_self,
    List.mem_singleton, true_and, ne_eq, forall_eq]
  exact and_congr_right fun _ => ⟨fun h hm => h _ hm rfl, fun h a ha he => h (he ▸ ha)⟩

theorem mem_read {es : List ListEntry} {v : ValueId} :
    v ∈ read es ↔ v ∈ es.map (·.value) := by
  simp [read]

/-- A list of entries that one row can hold: no id is `noneId` (the check on ids), and no two
entries share a position (the key of the list table). -/
structure Valid (es : List ListEntry) : Prop where
  none_not_mem : noneId ∉ es.map (·.value)
  positions_nodup : (es.map (·.position)).Nodup

theorem Valid.none_not_mem_read {es : List ListEntry} (h : Valid es) : noneId ∉ read es :=
  fun hm => h.none_not_mem (mem_read.1 hm)

/-- A list written at consecutive positions fits a row exactly when it does not hold `noneId`. -/
theorem valid_numbered_iff {p : Nat} {ids : List ValueId} :
    Valid (numbered p ids) ↔ noneId ∉ ids :=
  ⟨fun h => by simpa using h.none_not_mem, fun h =>
    ⟨by rwa [map_value_numbered],
      List.pairwise_map.2 ((pairwise_numbered p ids).imp Nat.ne_of_lt)⟩⟩

end ListEntry

@[simp] theorem ValueRow.values_mk (id : RowId) (c : ChangesetId) (f : FieldId) (changed : Bool)
    (es : List ListEntry) :
    (⟨id, c, f, changed, es⟩ : ValueRow).values = ListEntry.read es := rfl

/-- The tables with one more value row at the end: changeset `c`, field `f`, whether it
records a new value, and its entries; the row counter gives it its id. -/
def Tables.pushRow (t : Tables) (c : ChangesetId) (f : FieldId) (changed : Bool)
    (es : List ListEntry) : Tables :=
  { t with rows := t.rows ++ [⟨t.last.rows + 1, c, f, changed, es⟩],
           last := { t.last with rows := t.last.rows + 1 } }

/-- No row id is above the row counter. -/
def Tables.RowsFresh (t : Tables) : Prop := ∀ x ∈ t.rows, x.id ≤ t.last.rows

/-- A row for field `f` may be added to changeset `c`: it has none yet, the changeset and the
field exist, and no row has the id the row counter gives next. -/
def Tables.Open (t : Tables) (c : ChangesetId) (f : FieldId) : Prop :=
  Store.rowOf t c f = none ∧ (∃ x ∈ t.changesets, x.id = c) ∧ (∃ g ∈ t.fields, g.id = f) ∧
    t.last.rows + 1 ∉ t.rows.map (·.id)

/-- The tables with `es` added at the end of the list of each row numbered `id`. -/
def Tables.appendEntries (t : Tables) (id : RowId) (es : List ListEntry) : Tables :=
  { t with rows := t.rows.map fun r => if r.id == id then { r with entries := r.entries ++ es } else r }

/-- Where the row counter is above every row id, the id it gives next is free. -/
theorem Tables.RowsFresh.next_free {t : Tables} (h : t.RowsFresh) :
    t.last.rows + 1 ∉ t.rows.map (·.id) :=
  fun hm => by
    obtain ⟨x, hx, he⟩ := List.mem_map.1 hm
    exact absurd (h x hx) (he ▸ Int.not_le.2 (Int.lt_add_one_iff.2 (Int.le_refl _)))

theorem Tables.RowsFresh.pushRow {t : Tables} (h : t.RowsFresh) (c : ChangesetId) (f : FieldId)
    (changed : Bool) (es : List ListEntry) : (t.pushRow c f changed es).RowsFresh := by
  intro x hx
  rcases List.mem_append.1 hx with hx | hx
  · exact Int.le_add_one (h x hx)
  · obtain rfl := List.mem_singleton.1 hx
    exact Int.le_refl _

/-- The rows of a table other than the one numbered `id`. -/
theorem beq_false_of_not_mem {t : Tables} {id : RowId} (h : id ∉ t.rows.map (·.id)) :
    ∀ r ∈ t.rows, (r.id == id) = false :=
  fun r hr => beq_eq_false_iff_ne.2 fun e => h (List.mem_map.2 ⟨r, hr, e⟩)

/-- Adding entries to the new last row, by its id, only touches that row. -/
theorem Tables.appendEntries_pushRow {t : Tables} (h : t.last.rows + 1 ∉ t.rows.map (·.id))
    (c : ChangesetId) (f : FieldId) (changed : Bool) (es es' : List ListEntry) :
    (t.pushRow c f changed es).appendEntries (t.last.rows + 1) es' =
      t.pushRow c f changed (es ++ es') := by
  have hold := beq_false_of_not_mem h
  simp only [appendEntries, pushRow, List.map_append, List.map_cons, List.map_nil, beq_self_eq_true,
    ↓reduceIte]
  rw [List.map_congr_left (g := id) fun r hr => by simp [hold r hr], List.map_id]

namespace Store

variable {α β : Type} {t t' : Tables}

/-! ## Running on the connection -/

@[simp] theorem sql_get_bind (k : Tables → SqlM α) (t : Tables) :
    (get >>= k).run t = (k t).run t := rfl

@[simp] theorem sql_set_run (t t' : Tables) : (set t' : SqlM PUnit).run t = .ok ⟨⟩ t' := rfl

@[simp] theorem sql_throw_run (e : StoreError) (t : Tables) :
    (throw e : SqlM α).run t = .error e t := rfl

@[simp] theorem sql_pure_run (a : α) (t : Tables) : (pure a : SqlM α).run t = .ok a t := rfl

@[simp] theorem sql_throw_bind (e : StoreError) (k : α → SqlM β) :
    (throw e >>= k : SqlM β) = throw e := rfl

theorem sql_bind_run (x : SqlM α) (k : α → SqlM β) (t : Tables) :
    (x >>= k).run t = match x.run t with
      | .ok a t' => (k a).run t'
      | .error e t' => .error e t' := by
  show EStateM.bind x k t = _
  simp only [EStateM.bind, EStateM.run]
  cases x t <;> rfl

theorem sql_bind_ok {x : SqlM α} {k : α → SqlM β} {a : α} {t₁ : Tables}
    (h : x.run t = .ok a t₁) : (x >>= k).run t = (k a).run t₁ := by
  rw [sql_bind_run, h]

theorem sql_bind_error {x : SqlM α} {k : α → SqlM β} {e : StoreError} {t₁ : Tables}
    (h : x.run t = .error e t₁) : (x >>= k).run t = .error e t₁ := by
  rw [sql_bind_run, h]

theorem sql_bind_eq_ok {x : SqlM α} {k : α → SqlM β} {b : β}
    (h : (x >>= k).run t = .ok b t') :
    ∃ a t₁, x.run t = .ok a t₁ ∧ (k a).run t₁ = .ok b t' := by
  rw [sql_bind_run] at h
  split at h
  · next a t₁ hx => exact ⟨a, t₁, hx, h⟩
  · cases h

/-- A write either succeeds or fails. -/
theorem sql_run_cases (x : SqlM α) (t : Tables) :
    (∃ a t', x.run t = .ok a t') ∨ ∃ e t', x.run t = .error e t' := by
  cases h : x.run t with
  | ok a t' => exact .inl ⟨a, t', rfl⟩
  | error e t' => exact .inr ⟨e, t', rfl⟩

/-! ## Savepoints -/

section Savepoint

variable {w : SqlM α}

/-- A savepoint keeps a write that succeeds as it is. -/
theorem inSavepoint_run_eq_ok {a : α} :
    (inSavepoint w).run t = .ok a t' ↔ w.run t = .ok a t' := by
  simp only [inSavepoint, EStateM.run]
  cases w t with
  | ok b t₁ => rfl
  | error e t₁ => simp only [reduceCtorEq]

/-- A savepoint puts back the tables a failed write started from, however far it got, and
passes its error on. -/
theorem inSavepoint_run_error {e : StoreError} (h : w.run t = .error e t') :
    (inSavepoint w).run t = .error e t := by
  simp only [inSavepoint, EStateM.run] at h ⊢
  rw [h]

/-- A write in a savepoint never leaves a failure behind. -/
theorem inSavepoint_error_eq {e : StoreError} (h : (inSavepoint w).run t = .error e t') :
    t' = t := by
  rcases sql_run_cases w t with ⟨a, t₁, hw⟩ | ⟨e', t₁, hw⟩
  · rw [inSavepoint_run_eq_ok.2 hw] at h
    cases h
  · rw [inSavepoint_run_error hw] at h
    cases h
    rfl

end Savepoint

/-- A write on the connection is a write of the store: when it succeeds the store takes its
tables, when it fails the store is as it was. -/
theorem onConnection_run {w : SqlM α} {s : Store} :
    (onConnection w).run s = match w.run s.tables with
      | .ok a t => .ok (a, { s with tables := t })
      | .error e _ => .error e := rfl

/-! ## The head of a row -/

/-- What adding a head can do: it succeeds exactly where a row may go, and appends the head,
with no ids yet, numbered by the row counter. -/
theorem insertHead_run_eq_ok {c : ChangesetId} {f : FieldId} {changed : Bool} {id : RowId} :
    (insertHead c f changed).run t = .ok id t' ↔
      t.Open c f ∧ id = t.last.rows + 1 ∧ t' = t.pushRow c f changed [] := by
  -- the four checks in order: the row id, the pair, the changeset and the field
  by_cases h0 : t.last.rows + 1 ∈ t.rows.map (·.id)
  · have h0' : t.rows.any (·.id == t.last.rows + 1) = true := by simpa using h0
    simp only [insertHead, sql_get_bind, h0', ↓reduceIte, sql_throw_bind, sql_throw_run,
      reduceCtorEq, false_iff]
    exact fun ho => absurd h0 ho.1.2.2.2
  have h0' : t.rows.any (·.id == t.last.rows + 1) = false :=
    List.any_eq_false.2 fun r hr he => h0 (List.mem_map.2 ⟨r, hr, by simpa using he⟩)
  by_cases h1 : (rowOf t c f).isSome = true
  · simp only [insertHead, sql_get_bind, h0', h1, Bool.false_eq_true, ↓reduceIte, sql_throw_bind,
      sql_throw_run, reduceCtorEq, false_iff]
    exact fun ho => Option.isSome_iff_ne_none.1 h1 ho.1.1
  have hnone : rowOf t c f = none := by simpa using h1
  by_cases h2 : (∃ x ∈ t.changesets, x.id = c) ∧ ∃ g ∈ t.fields, g.id = f
  · have h2' : (t.changesets.any (·.id == c) && t.fields.any (·.id == f)) = true := by
      simpa using h2
    simp only [insertHead, sql_get_bind, h0', h1, h2', Bool.false_eq_true, ↓reduceIte]
    simp only [sql_bind_run, sql_pure_run, sql_set_run, EStateM.Result.ok.injEq]
    constructor
    · rintro ⟨rfl, rfl⟩
      exact ⟨⟨hnone, h2.1, h2.2, h0⟩, rfl, rfl⟩
    · rintro ⟨-, rfl, rfl⟩
      exact ⟨rfl, rfl⟩
  · have h2' : (t.changesets.any (·.id == c) && t.fields.any (·.id == f)) = false := by
      simpa using h2
    simp only [insertHead, sql_get_bind, h0', h1, h2', Bool.false_eq_true, ↓reduceIte,
      sql_throw_bind, sql_throw_run, reduceCtorEq, false_iff]
    exact fun ho => h2 ⟨ho.1.2.1, ho.1.2.2.1⟩

/-! ## The entries of a new row -/

section Entries

variable {c : ChangesetId} {f : FieldId} {changed : Bool}

/-- What adding an entry to the new last row can do: it succeeds exactly when the id is not
`noneId` and the position is free in that row, and appends the entry to the row. -/
theorem insertEntry_run_pushRow (hfree : t.last.rows + 1 ∉ t.rows.map (·.id))
    {es : List ListEntry} {e : ListEntry} :
    (insertEntry (t.last.rows + 1) e).run (t.pushRow c f changed es) = .ok () t' ↔
      e.value ≠ noneId ∧ e.position ∉ es.map (·.position) ∧
        t' = t.pushRow c f changed (es ++ [e]) := by
  -- the old rows have smaller ids, so the new row is the only one the statement looks at
  have hold := beq_false_of_not_mem hfree
  have hkey : ((t.pushRow c f changed es).rows.any fun r =>
      r.id == t.last.rows + 1 && r.entries.any (·.position == e.position)) =
      es.any (·.position == e.position) := by
    simp only [Tables.pushRow, List.any_append, List.any_cons, List.any_nil, beq_self_eq_true,
      Bool.true_and, Bool.or_false]
    rw [List.any_eq_false.2 fun r hr => by simp [hold r hr], Bool.false_or]
  have hrow : ((t.pushRow c f changed es).rows.any (·.id == t.last.rows + 1)) = true := by
    simp [Tables.pushRow]
  -- the three checks in order: the id, the position, the row
  by_cases hval : e.value = noneId
  · have hval' : (e.value == noneId) = true := by simpa using hval
    simp only [insertEntry, sql_get_bind, hval', ↓reduceIte, sql_throw_bind, sql_throw_run,
      reduceCtorEq, false_iff, not_and]
    exact fun h => absurd hval h
  · have hval' : (e.value == noneId) = false := by simpa using hval
    by_cases hpos : e.position ∈ es.map (·.position)
    · have hpos' : es.any (·.position == e.position) = true := by
        obtain ⟨x, hx, hxe⟩ := List.mem_map.1 hpos
        exact List.any_eq_true.2 ⟨x, hx, by simp [hxe]⟩
      simp only [insertEntry, sql_get_bind, hval', hkey, hpos', Bool.false_eq_true, ↓reduceIte,
        sql_throw_bind, sql_throw_run, reduceCtorEq, false_iff, not_and]
      exact fun _ h => absurd hpos h
    · have hpos' : es.any (·.position == e.position) = false :=
        List.any_eq_false.2 fun x hx hxe => hpos (List.mem_map.2 ⟨x, hx, by simpa using hxe⟩)
      simp only [insertEntry, sql_get_bind, hval', hkey, hpos', hrow, Bool.false_eq_true,
        ↓reduceIte]
      rw [← Tables.appendEntries_pushRow hfree c f changed es [e]]
      simp only [Tables.appendEntries, sql_set_run, EStateM.Result.ok.injEq, true_and]
      exact ⟨fun h => ⟨hval, hpos, h.symm⟩, fun h => h.2.2.symm⟩

/-- **The loop over the positions.** On the new last row holding `es`, adding `es'` one entry
at a time succeeds exactly when no id of `es'` is `noneId` and no position comes twice in
`es ++ es'`; the row then holds `es ++ es'`. -/
theorem insertEntries_run_pushRow (hfree : t.last.rows + 1 ∉ t.rows.map (·.id))
    {es es' : List ListEntry} (hes : (es.map (·.position)).Nodup) :
    (insertEntries (t.last.rows + 1) es').run (t.pushRow c f changed es) = .ok () t' ↔
      noneId ∉ es'.map (·.value) ∧ ((es ++ es').map (·.position)).Nodup ∧
        t' = t.pushRow c f changed (es ++ es') := by
  -- induction on the entries still to write; the row's entries so far carry the invariant
  induction es' generalizing es t' with
  | nil =>
    show (pure () : SqlM Unit).run _ = _ ↔ _
    simp only [sql_pure_run, EStateM.Result.ok.injEq, true_and, List.append_nil]
    exact ⟨fun h => ⟨List.not_mem_nil, hes, h.symm⟩, fun h => h.2.2.symm⟩
  | cons e rest ih =>
    have hsplit : es ++ e :: rest = (es ++ [e]) ++ rest := by simp
    show (insertEntry _ e >>= fun _ => insertEntries _ rest).run _ = _ ↔ _
    constructor
    · intro h
      obtain ⟨⟨⟩, t₁, h₁, h₂⟩ := sql_bind_eq_ok h
      obtain ⟨hval, hpos, rfl⟩ := (insertEntry_run_pushRow hfree).1 h₁
      obtain ⟨hn, hnd, rfl⟩ := (ih (ListEntry.positions_nodup_concat.2 ⟨hes, hpos⟩)).1 h₂
      refine ⟨?_, hsplit ▸ hnd, by rw [hsplit]⟩
      simp only [List.map_cons, List.mem_cons, not_or]
      exact ⟨Ne.symm hval, hn⟩
    · rintro ⟨hn, hnd, rfl⟩
      simp only [List.map_cons, List.mem_cons, not_or] at hn
      rw [hsplit] at hnd ⊢
      have hes' : ((es ++ [e]).map (·.position)).Nodup :=
        hnd.sublist ((List.sublist_append_left _ _).map _)
      have hpos := (ListEntry.positions_nodup_concat.1 hes').2
      rw [sql_bind_ok ((insertEntry_run_pushRow hfree).2 ⟨Ne.symm hn.1, hpos, rfl⟩)]
      exact (ih hes').2 ⟨hn.2, hnd, rfl⟩

/-- The loop stops at the first entry holding `noneId`, with the error of the check; the
entries before it stay written. -/
theorem insertEntries_run_of_none (hfree : t.last.rows + 1 ∉ t.rows.map (·.id))
    {es pre rest : List ListEntry} {e : ListEntry} (hnd : ((es ++ pre).map (·.position)).Nodup)
    (hpre : noneId ∉ pre.map (·.value)) (he : e.value = noneId) :
    (insertEntries (t.last.rows + 1) (pre ++ e :: rest)).run (t.pushRow c f changed es) =
      .error (.sql (.check "value_id <> 100")) (t.pushRow c f changed (es ++ pre)) := by
  induction pre generalizing es with
  | nil =>
    have he' : (e.value == noneId) = true := by simpa using he
    have hcheck : (insertEntry (t.last.rows + 1) e).run (t.pushRow c f changed es) =
        .error (.sql (.check "value_id <> 100")) (t.pushRow c f changed es) := by
      simp only [insertEntry, sql_get_bind, he', ↓reduceIte, sql_throw_bind, sql_throw_run]
    show (insertEntry _ e >>= fun _ => insertEntries _ rest).run _ = _
    rw [sql_bind_error hcheck, List.append_nil]
  | cons x pre ih =>
    simp only [List.map_cons, List.mem_cons, not_or] at hpre
    have hnd' : (((es ++ [x]) ++ pre).map (·.position)).Nodup := by simpa using hnd
    have hx := (ListEntry.positions_nodup_concat.1
      (hnd'.sublist ((List.sublist_append_left _ _).map _))).2
    show (insertEntry _ x >>= fun _ => insertEntries _ (pre ++ e :: rest)).run _ = _
    rw [sql_bind_ok ((insertEntry_run_pushRow hfree).2 ⟨Ne.symm hpre.1, hx, rfl⟩),
      ih hnd' hpre.2, List.append_assoc, List.singleton_append]

end Entries

/-! ## Writing a value -/

section Values

variable {c : ChangesetId} {f : FieldId}

/-- **A head and its entries.** Writing a head for field `f` in changeset `c`, then entries
`es` under it, succeeds exactly where a row may go and when `es` fits one row; the tables then
hold one more row at the end, with `es`. -/
theorem headEntries_run_eq_ok {changed : Bool} {es : List ListEntry}
    {k : RowId → β} {b : β} :
    (insertHead c f changed >>= fun id => insertEntries id es >>= fun _ => pure (k id)).run t =
        .ok b t' ↔
      t.Open c f ∧ ListEntry.Valid es ∧ b = k (t.last.rows + 1) ∧
        t' = t.pushRow c f changed es := by
  have hnil : (([] : List ListEntry).map (·.position)).Nodup := List.nodup_nil
  constructor
  · intro h
    obtain ⟨id, t₁, h₁, h⟩ := sql_bind_eq_ok h
    obtain ⟨ho, rfl, rfl⟩ := insertHead_run_eq_ok.1 h₁
    obtain ⟨⟨⟩, t₂, h₂, h⟩ := sql_bind_eq_ok h
    obtain ⟨hn, hnd, rfl⟩ := (insertEntries_run_pushRow ho.2.2.2 hnil).1 h₂
    rw [sql_pure_run] at h
    cases h
    exact ⟨ho, ⟨hn, hnd⟩, rfl, rfl⟩
  · rintro ⟨ho, hv, rfl, rfl⟩
    rw [sql_bind_ok (insertHead_run_eq_ok.2 ⟨ho, rfl, rfl⟩), sql_bind_ok
      ((insertEntries_run_pushRow ho.2.2.2 hnil).2 ⟨hv.none_not_mem, hv.positions_nodup, rfl⟩)]
    rfl

/-- **A new value.** Storing ids `ids` for field `f` in changeset `c` succeeds exactly where a
row may go and when `ids` does not hold `noneId`; the tables then hold one more row at the
end, marked changed, with `ids` at the positions `0, 1, …`. -/
theorem insertValue_run_eq_ok {ids : List ValueId} {id : RowId} :
    (insertValue c f ids).run t = .ok id t' ↔
      t.Open c f ∧ noneId ∉ ids ∧ id = t.last.rows + 1 ∧
        t' = t.pushRow c f true (ListEntry.numbered 0 ids) := by
  rw [insertValue, inSavepoint_run_eq_ok, writeValue, headEntries_run_eq_ok,
    ListEntry.valid_numbered_iff]

/-- **A failed write without its savepoint.** Ids that reach `noneId` after a prefix `pre`
make the statements of a new value fail at that position, with the head and the ids of `pre`
written: what the savepoint of `insertValue` rolls back. -/
theorem writeValue_run_of_none (ho : t.Open c f) {pre rest : List ValueId} (hpre : noneId ∉ pre) :
    (writeValue c f (pre ++ noneId :: rest)).run t =
      .error (.sql (.check "value_id <> 100")) (t.pushRow c f true (ListEntry.numbered 0 pre)) := by
  have hv := ListEntry.valid_numbered_iff (p := 0).2 hpre
  have hloop : (insertEntries (t.last.rows + 1) (ListEntry.numbered 0 pre ++
      ⟨0 + pre.length, noneId⟩ :: ListEntry.numbered (0 + pre.length + 1) rest)).run
        (t.pushRow c f true []) =
      .error (.sql (.check "value_id <> 100"))
        (t.pushRow c f true ([] ++ ListEntry.numbered 0 pre)) :=
    insertEntries_run_of_none ho.2.2.2 hv.positions_nodup hv.none_not_mem rfl
  rw [writeValue, sql_bind_ok (insertHead_run_eq_ok.2 ⟨ho, rfl, rfl⟩),
    ListEntry.numbered_append, ListEntry.numbered.eq_2, sql_bind_error hloop, List.nil_append]

/-- Where a row may not go, or for ids holding `noneId`, storing a value fails, and the
savepoint leaves the tables as they were. -/
theorem insertValue_run_error_of {ids : List ValueId}
    (h : ¬ (t.Open c f ∧ noneId ∉ ids)) : ∃ e, (insertValue c f ids).run t = .error e t := by
  rcases sql_run_cases (insertValue c f ids) t with ⟨id, t', hok⟩ | ⟨e, t', herr⟩
  · obtain ⟨ho, hn, -⟩ := insertValue_run_eq_ok.1 hok
    exact absurd ⟨ho, hn⟩ h
  · exact ⟨e, inSavepoint_error_eq herr ▸ herr⟩

/-- Copying a row that is gone writes nothing and answers `false`. -/
theorem linkValue_run_of_none {r : RowId} (h : t.rows.find? (·.id == r) = none) :
    (linkValue c f r).run t = .ok false t := by
  rw [linkValue, inSavepoint_run_eq_ok]
  simp only [sql_get_bind, h, sql_pure_run]

/-- **A copy.** Copying row `src` forward into changeset `c` for field `f` succeeds exactly
where a row may go and when the entries of `src` fit one row; the tables then hold one more row
at the end, marked unchanged, with the entries of `src`. -/
theorem linkValue_run_eq_ok {r : RowId} {src : ValueRow}
    (h : t.rows.find? (·.id == r) = some src) {b : Bool} :
    (linkValue c f r).run t = .ok b t' ↔
      t.Open c f ∧ ListEntry.Valid src.entries ∧ b = true ∧
        t' = t.pushRow c f false src.entries := by
  rw [linkValue, inSavepoint_run_eq_ok]
  simp only [sql_get_bind, h]
  exact headEntries_run_eq_ok

end Values

end Store
end ListField
