import Mathlib
import ListField.Proofs.Canonical
import ListField.Proofs.Reachable

/-!
# The value history copies forward

A field's value in the newest changeset of an artifact is all that the readers of a history look
at, so every changeset must carry every field that had a value before it. The copy-forward rule
(`CopyForward`): for two consecutive changesets of an artifact, a field with a row in the first
has exactly one row in the second, and that row either copies the first one's ids unchanged or
records a different set of values (`Selection.valueSet`, which leaves `noneId` out).

* `submit_copies_forward`: the changeset a submission keeps follows the rule with respect to the
  artifact's last changeset, whatever path the field took (a new value, a rejected one, nothing
  submitted, no permission): the writer copies whenever it does not store a changed value.
* `Reachable.copyForward`: administration writes touch no changeset and no row, a discarded
  submission changes nothing, and a kept one only adds a changeset after the last; so the rule
  holds in every reachable store (`copy_forward`).
-/

namespace ListField
namespace Store

open Selection

/-- The copy-forward rule of a value history: for two consecutive changesets of an artifact,
a field with a row in the first has exactly one row in the second, which either copies the first
row's ids unchanged or records a different set of values. -/
def CopyForward (t : Tables) : Prop :=
  ∀ a f (c₁ c₂ : ChangesetRow), [c₁, c₂] <:+: changesetsOf t a → ∀ p ∈ rowsOf t c₁.id f,
    ∃ q, rowsOf t c₂.id f = [q] ∧
      (q.changed = false ∧ q.values = p.values ∨ q.changed = true ∧ valueSet q.values ≠ valueSet p.values)

/-- Two consecutive members of a list with one more member at the end are consecutive in the
list, or are its last member and the new one. -/
theorem infix_pair_append {α : Type} {l : List α} {x y z : α} (h : [x, y] <:+: l ++ [z]) :
    [x, y] <:+: l ∨ l.getLast? = some x ∧ y = z := by
  obtain ⟨u, v, huv⟩ := h
  rcases List.eq_nil_or_concat v with rfl | ⟨v', w, rfl⟩
  · -- the pair ends the list: `y` is the new member and `x` the old last one
    right
    rw [List.append_nil, List.append_cons u x [y]] at huv
    obtain ⟨hl, hy⟩ := List.append_inj' huv rfl
    cases hy
    exact ⟨hl ▸ List.getLast?_concat, rfl⟩
  · left
    rw [List.concat_eq_append, ← List.append_assoc] at huv
    obtain ⟨hl, -⟩ := List.append_inj' huv rfl
    exact ⟨u, v', hl⟩

variable {style : HistoryStyle} {a : Actor} {artifact : ArtifactId}
  {entries : List (FieldId × List ValueId)} {bypass : Bool} {s s' : Store} {rep : UpdateReport}

/-- **A kept changeset copies forward.** When a submission keeps changeset `c` on an artifact
whose last changeset `c₁` has a row `p` for field `f`, `c` has exactly one row for `f`: a copy of
`p`, or a row that records a different set of values. -/
theorem submit_copies_forward {c c₁ : ChangesetRow} {f : FieldId} {p : ValueRow}
    (hw : s.tables.history.WellFormed) (h : submit style a artifact entries bypass s = .ok (rep, s'))
    (hc : rep.changeset = some c) (hlast : (changesetsOf s.tables artifact).getLast? = some c₁)
    (hp : p ∈ rowsOf s.tables c₁.id f) :
    ∃ q, rowsOf s'.tables c.id f = [q] ∧
      (q.changed = false ∧ q.values = p.values ∨ q.changed = true ∧ valueSet q.values ≠ valueSet p.values) := by
  obtain ⟨hpr, -, rfl⟩ := mem_rowsOf.1 hp
  obtain ⟨g, hg, hgf, hro⟩ := hw.row_field p hpr
  obtain ⟨hcid, -⟩ := submit_committed h hc
  obtain ⟨r, _, r', st', gr, -, -, hrun, ho, ⟨new, n, hnew, rfl⟩, hrow⟩ := submit_turn hw h hc hg
  -- at the field's turn, the previous row is `p`, found as in the old store
  have hlastRow : s.lastRow artifact g.id = some p := by
    rw [lastRow, hlast]
    exact hgf ▸ rowOf_of_mem hw hp
  obtain ⟨changed, vals, rfl, hrel⟩ :=
    recordField_of_previous hrun hro ho ((rowOf_turn_last hw (by rw [hcid]) hnew g.id).trans hlastRow)
      (find?_turn hw hpr) (hw.row_valid p hpr)
  refine ⟨_, rowsOf_eq_of_rowOf (submit_wellFormed h hw) (hgf ▸ hrow.trans (rowOf_pushRow_self ho.1)), ?_⟩
  rcases hrel with ⟨rfl, rfl⟩ | ⟨rfl, ids, rfl, hch⟩
  · exact .inl ⟨rfl, rfl⟩
  · refine .inr ⟨rfl, ?_⟩
    rw [ValueRow.values_mk, ListEntry.read_numbered, valueSet_normalize]
    exact (changes_iff.1 hch).symm

theorem copyForward_of_eq {t t' : Tables} (hcf : CopyForward t) (hcs : t'.changesets = t.changesets)
    (hrows : t'.rows = t.rows) : CopyForward t' := by
  unfold CopyForward changesetsOf rowsOf at *
  rw [hcs, hrows]
  exact hcf

/-- Rows added to one changeset leave the rows of every other changeset as they were. -/
theorem rowsOf_withRows_of_ne {new : List ValueRow} {n : Int} {c c' : ChangesetId} {f : FieldId}
    (hnew : ∀ x ∈ new, x.changeset = c) (hne : c' ≠ c) :
    rowsOf (s.withRows new n).tables c' f = rowsOf s.tables c' f := by
  have hnone : new.filter (fun x => x.changeset == c' && x.field == f) = [] :=
    List.filter_eq_nil_iff.2 fun x hx => by simp [hnew x hx, Ne.symm hne]
  rw [rowsOf, withRows_rows, List.filter_append, hnone, List.append_nil]
  rfl

/-- A submission keeps the copy-forward rule of a well formed store. -/
theorem submit_copyForward (hw : s.tables.history.WellFormed) (hcf : CopyForward s.tables)
    (h : submit style a artifact entries bypass s = .ok (rep, s')) : CopyForward s'.tables := by
  cases hc : rep.changeset with
  | none => exact (submit_discarded h hc).1 ▸ hcf
  | some c =>
    obtain ⟨hcid, -, -, new, n, hnew, rfl⟩ := submit_committed h hc
    -- the rows of the old changesets are as they were
    have hold : ∀ c' ∈ s.tables.changesets, ∀ f,
        rowsOf ((s.withChangeset c).withRows new n).tables c'.id f = rowsOf s.tables c'.id f := by
      intro c' hc' f
      exact rowsOf_withRows_of_ne (fun x hx => (hnew x hx).1) (hcid ▸ ne_next_of_mem hw hc')
    have hcs : ∀ a', changesetsOf ((s.withChangeset c).withRows new n).tables a' =
        changesetsOf s.tables a' ++ [c].filter (·.artifact == a') := fun a' => List.filter_append ..
    have hsub : ∀ a' (x : ChangesetRow), x ∈ changesetsOf s.tables a' → x ∈ s.tables.changesets :=
      fun a' x hx => (List.mem_filter.1 hx).1
    intro a' f c₁ c₂ hpair p hp
    rw [hcs] at hpair
    -- a pair of old changesets keeps its rows; the only new pair ends with `c`
    have hpair' : [c₁, c₂] <:+: changesetsOf s.tables a' ∨
        (changesetsOf s.tables a').getLast? = some c₁ ∧ c₂ = c ∧ a' = artifact := by
      by_cases hart : c.artifact = a'
      · rw [List.filter_singleton, hart, beq_self_eq_true, cond_true] at hpair
        rcases infix_pair_append hpair with hold' | ⟨hl, rfl⟩
        · exact .inl hold'
        · exact .inr ⟨hl, rfl, hart ▸ hcid ▸ rfl⟩
      · rw [List.filter_singleton, beq_false_of_ne hart, cond_false, List.append_nil] at hpair
        exact .inl hpair
    rcases hpair' with hin | ⟨hl, rfl, rfl⟩
    · have h₁ := hsub a' c₁ (hin.subset List.mem_cons_self)
      have h₂ := hsub a' c₂ (hin.subset (List.mem_cons_of_mem _ List.mem_cons_self))
      rw [hold c₁ h₁] at hp
      rw [hold c₂ h₂]
      exact hcf a' f c₁ c₂ hin p hp
    · have h₁ := hsub a' c₁ (List.mem_of_getLast? hl)
      rw [hold c₁ h₁] at hp
      exact submit_copies_forward hw h hc hl hp

/-- An administration write keeps the copy-forward rule: it touches no changeset and no row. -/
theorem AdminWrite.copyForward {w : AdminWrite} (h : w.run.run s = .ok ((), s'))
    (hcf : CopyForward s.tables) : CopyForward s'.tables := by
  rcases w.history_run h with heq | ⟨f, -, heq⟩
  · exact copyForward_of_eq hcf (congrArg History.changesets heq) (congrArg History.rows heq)
  · exact copyForward_of_eq hcf (congrArg History.changesets heq) (congrArg History.rows heq)

/-- Every reachable store follows the copy-forward rule. -/
theorem Reachable.copyForward (hs : Reachable s) : CopyForward s.tables := by
  induction hs with
  | migrated =>
    intro a f c₁ c₂ hpair
    exact absurd (List.infix_nil.1 hpair) (by simp)
  | admin _ _ hrun ih => exact AdminWrite.copyForward hrun ih
  | submit hs hrun ih => exact submit_copyForward hs.wellFormed ih hrun

/-- **The copy-forward rule.** In every reachable store, for two consecutive changesets `c₁`,
`c₂` of an artifact, a field with a row `p` in `c₁` has exactly one row `q` in `c₂`, which either
records no change and copies `p`'s ids, or records a change and names a different set of
values. -/
theorem copy_forward (hs : Reachable s) {a : ArtifactId} {f : FieldId} {c₁ c₂ : ChangesetRow}
    (hc : [c₁, c₂] <:+: changesetsOf s.tables a) {p : ValueRow} (hp : p ∈ rowsOf s.tables c₁.id f) :
    ∃ q, rowsOf s.tables c₂.id f = [q] ∧
      (q.changed = false ∧ q.values = p.values ∨ q.changed = true ∧ valueSet q.values ≠ valueSet p.values) :=
  hs.copyForward a f c₁ c₂ hc p hp

/-- A value set and then cleared: the second changeset has one row for the field, and it
records the change. -/
theorem copy_forward_after_clearing :
    ∃ q, rowsOf (replay [.admin (.createUser "alice" none),
        .admin (.createField "status" "Status" .static false false false),
        .admin (.addChoice 1 { label := "Open" }), .admin (.createArtifact "a" ⟨1, "alice", []⟩),
        .submit {} ⟨1, "alice", []⟩ 1 [(1, [101])] true,
        .submit {} ⟨1, "alice", []⟩ 1 [(1, [])] true] {}).tables 2 1 = [q] ∧
      (q.changed = false ∧ q.values = [101] ∨ q.changed = true ∧ valueSet q.values ≠ valueSet [101]) := by
  have hcs : changesetsOf (replay [.admin (.createUser "alice" none),
      .admin (.createField "status" "Status" .static false false false),
      .admin (.addChoice 1 { label := "Open" }), .admin (.createArtifact "a" ⟨1, "alice", []⟩),
      .submit {} ⟨1, "alice", []⟩ 1 [(1, [101])] true,
      .submit {} ⟨1, "alice", []⟩ 1 [(1, [])] true] {}).tables 1 = [⟨1, 1, 1⟩, ⟨2, 1, 1⟩] := by
    cbv
  have hrow : rowsOf (replay [.admin (.createUser "alice" none),
      .admin (.createField "status" "Status" .static false false false),
      .admin (.addChoice 1 { label := "Open" }), .admin (.createArtifact "a" ⟨1, "alice", []⟩),
      .submit {} ⟨1, "alice", []⟩ 1 [(1, [101])] true,
      .submit {} ⟨1, "alice", []⟩ 1 [(1, [])] true] {}).tables 1 1 = [⟨1, 1, 1, true, [⟨0, 101⟩]⟩] := by
    cbv
  have hv : (⟨1, 1, 1, true, [⟨0, 101⟩]⟩ : ValueRow).values = [101] := ListEntry.read_numbered 0 [101]
  obtain ⟨q, hq, hcases⟩ := @copy_forward _ (.replay (.migrated true) _) 1 1 ⟨1, 1, 1⟩ ⟨2, 1, 1⟩
    (hcs ▸ List.infix_refl _) ⟨1, 1, 1, true, [⟨0, 101⟩]⟩ (hrow ▸ List.mem_singleton_self _)
  exact ⟨q, hq, by rwa [hv] at hcases⟩

end Store
end ListField
