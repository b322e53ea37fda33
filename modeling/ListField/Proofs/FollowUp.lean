import Mathlib
import ListField.Proofs.KeptChanges

/-!
# Follow-up comments agree with the audit trail

A follow-up comment (`Store.followUp`) describes how a field moved between two changesets by
reading the field's row in each, a missing row counting as no value. The audit trail
(`Store.history`) walks all the artifact's changesets instead, skips those without a row and
compares each row with the last one seen. The two read different rows: the trail compares with the
last changeset that has a row, the comment with the changeset just before.

They agree in every reachable store because rows are copied forward (`Reachable.rowOf_persists`):
once a field has a row, every later changeset of the artifact has one, so the last changeset with a
row is the one just before, or none has a row at all. `followUp_eq_history` states the agreement:
for each changeset of an artifact, the comment between it and the changeset before it is the text of
the trail's entry for it, and there is no comment when the trail has no entry. Both render with the
same choices and separator, so a choice deleted since shows as `#<id>` on both.
-/

namespace ListField
namespace Store

section Trail

variable {t : Tables} {cs : Choices} {sep : String} {f : FieldId}

/-- A trail over changesets that leave out `c` has no entry for `c`. -/
theorem find?_historyFrom_of_not_mem {before : List ValueId} {l : List ChangesetRow}
    {c : ChangesetRow} (hc : c ∉ l) :
    (historyFrom t cs sep f before l).find? (·.changeset == c) = none := by
  rw [List.find?_eq_none]
  intro e he
  have hmem := changeset_mem_of_mem_historyFrom he
  simp only [beq_iff_eq]
  exact fun e => hc (e ▸ hmem)

/-- Along changesets in which a row of the field is always followed by one, the value stored last
is the one of the last changeset, read as a follow-up comment reads it: no value without a row. -/
theorem last_storedValues_eq_ids {L : List ChangesetRow}
    (hp : ∀ c₁ c₂, [c₁, c₂] <:+: L → rowOf t c₁.id f ≠ none → rowOf t c₂.id f ≠ none) :
    ((storedValues t f L).getLast?.map (·.2)).getD [] =
      ((L.getLast?.map (·.id)).map fun c => ((rowOf t c f).map (·.values)).getD []).getD [] := by
  rw [getLast?_storedValues hp]
  cases L.getLast? <;> rfl

end Trail

/-- The changesets of an artifact in a well formed history are distinct. -/
theorem changesetsOf_nodup {t : Tables} (hw : t.history.WellFormed) (artifact : ArtifactId) :
    (changesetsOf t artifact).Nodup :=
  (List.Nodup.of_map _ hw.changeset_nodup).filter _

/-- In a reachable store, a changeset without a row for a field follows one without a row. -/
theorem Reachable.rowOf_eq_none_of_next {s : Store} (hs : Reachable s) {artifact : ArtifactId}
    {f : FieldId} {before after : List ChangesetRow} {c x : ChangesetRow}
    (hc : changesetsOf s.tables artifact = before ++ c :: after) (hx : before.getLast? = some x)
    (hrow : rowOf s.tables c.id f = none) : rowOf s.tables x.id f = none := by
  obtain ⟨init, rfl⟩ : ∃ init, before = init ++ [x] :=
    ⟨before.dropLast, (List.dropLast_append_getLast? x hx).symm⟩
  have hpair : [x, c] <:+: changesetsOf s.tables artifact := ⟨init, after, by simp [hc]⟩
  by_contra h
  exact hs.rowOf_persists hpair h hrow

/-- **Follow-up comments agree with the audit trail.** In every reachable store, for every changeset
`c` of an artifact and every field, the follow-up comment from the changeset just before `c` (none
when `c` is the first) to `c` is the text of the audit trail's entry for `c`, and there is no
comment exactly when the trail has no entry for `c`. The two render with the same choices and
separator. -/
theorem followUp_eq_history {s : Store} (hs : Reachable s) (style : HistoryStyle) (f : Field)
    {artifact : ArtifactId} {before after : List ChangesetRow} {c : ChangesetRow}
    (hc : changesetsOf s.tables artifact = before ++ c :: after) :
    s.followUp style f (before.getLast?.map (·.id)) c.id =
      ((s.history style artifact f).find? (·.changeset == c)).map (·.rendered) := by
  have hnd : (before ++ c :: after).Nodup := hc ▸ changesetsOf_nodup hs.wellFormed artifact
  have hbefore : c ∉ before := fun h => (List.nodup_append.1 hnd).2.2 c h c List.mem_cons_self rfl
  have hafter : c ∉ after := (List.nodup_cons.1 (List.nodup_append.1 hnd).2.1).1
  -- the value the trail compares `c` with is the row of the changeset just before `c`
  have hlast := last_storedValues_eq_ids (t := s.tables) (f := f.id) (L := before)
    fun c₁ c₂ h => hs.rowOf_persists (hc ▸ h.trans (List.infix_append_left ..))
  simp only [followUp]
  rw [history, hc, historyFrom_append, List.find?_append, find?_historyFrom_of_not_mem hbefore,
    Option.none_or, hlast]
  generalize hprev : ((before.getLast?.map (·.id)).map
    fun c => ((rowOf s.tables c f.id).map (·.values)).getD []).getD [] = prev
  cases hrow : rowOf s.tables c.id f.id with
  | none =>
    -- without a row in `c` there is none in the changeset before it: no change either way
    have hnil : prev = [] := by
      rw [← hprev]
      cases hx : before.getLast? with
      | none => rfl
      | some x => simp [hs.rowOf_eq_none_of_next hc hx hrow]
    simp [Change.describe, historyFrom, hrow, hnil, find?_historyFrom_of_not_mem hafter,
      Change.between_self]
  | some row =>
    cases hd : Change.between prev row.values with
    | none =>
      simp [Change.describe, historyFrom, hrow, hd, find?_historyFrom_of_not_mem hafter]
    | some d => simp [Change.describe, historyFrom, hrow, hd]

/-- A value set, then changed, then its first choice deleted: the follow-up comment on the second
changeset shows the deleted choice by its id, as the audit trail does. -/
theorem followUp_shows_deleted_choice :
    let s := replay [.admin (.createUser "alice" none),
      .admin (.createField "status" "Status" .static false false false),
      .admin (.addChoice 1 { label := "Open" }), .admin (.addChoice 1 { label := "Closed" }),
      .admin (.createArtifact "a" ⟨1, "alice", []⟩),
      .submit {} ⟨1, "alice", []⟩ 1 [(1, [101])] true,
      .submit {} ⟨1, "alice", []⟩ 1 [(1, [102])] true, .admin (.deleteChoice 101)] {}
    let status : Field := ⟨1, "status", "Status", .static, false, false, false⟩
    changesetsOf s.tables 1 = [⟨1, 1, 1⟩] ++ ⟨2, 1, 1⟩ :: [] ∧
      s.followUp {} status (some 1) 2 =
        ((s.history {} 1 status).find? (·.changeset == ⟨2, 1, 1⟩)).map (·.rendered) ∧
      s.followUp {} status (some 1) 2 = some "changed from #101 to Closed" := by
  intro s status
  have hc : changesetsOf s.tables 1 = [⟨1, 1, 1⟩] ++ ⟨2, 1, 1⟩ :: [] := by cbv
  have hshown : s.followUp {} status (some 1) 2 = some "changed from #101 to Closed" := by cbv
  exact ⟨hc, followUp_eq_history (.replay (.migrated true) _) {} status hc, hshown⟩

end Store
end ListField
