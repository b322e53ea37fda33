import Mathlib
import ListField.Proofs.AuditTrail
import ListField.Proofs.Accepted

/-!
# What a kept changeset changes

A submission keeps its changeset only when some field reports `updated`, that is when the writer
put a fresh row in it. A fresh row over a previous row always names other values than it: the
writer compares before it writes. A field that had no row writes its first row without comparing
it with anything, so a first empty list is a fresh row that changes nothing, and its report says
`updated` with no change to show.

`submit_kept_changes` says that this is all: in a kept changeset each updated field has a fresh
row; its report's change is the text of the changeset's entry in the field's audit trail; there
is a change exactly when the field's values differ from those of the artifact's last changeset
(`lastIds`); and without one the field had no row before and its new row is empty.

The audit trail compares with the value the field stored last, and the report with the field's
row in the artifact's last changeset. The two are the same in a reachable store, because rows are
copied forward (`last_storedValues`).
-/

namespace ListField
namespace Store

open Selection

/-- The ids of field `f` in the last changeset of `artifact`; none when it has no row there. -/
def lastIds (s : Store) (artifact : ArtifactId) (f : FieldId) : List ValueId :=
  ((s.lastRow artifact f).map (·.values)).getD []

/-! ## The value stored last -/

section Stored

variable {t : Tables} {f : FieldId}

theorem storedValues_singleton_of_none {x : ChangesetRow} (h : rowOf t x.id f = none) :
    storedValues t f [x] = [] := by
  simp [storedValues, h]

/-- Along changesets in which a row of the field is always followed by one, a last changeset
without a row means that none has one. -/
theorem storedValues_eq_nil {L : List ChangesetRow}
    (hp : ∀ c₁ c₂, [c₁, c₂] <:+: L → rowOf t c₁.id f ≠ none → rowOf t c₂.id f ≠ none)
    (hlast : (L.getLast?.bind fun c => rowOf t c.id f) = none) : storedValues t f L = [] := by
  induction L using List.reverseRecOn with
  | nil => rfl
  | append_singleton L' x ih =>
    rw [List.getLast?_concat, Option.bind_some] at hlast
    rw [storedValues_append, storedValues_singleton_of_none hlast, List.append_nil]
    refine ih (fun c₁ c₂ h => hp c₁ c₂ (h.trans (List.infix_append_left ..))) ?_
    cases hl : L'.getLast? with
    | none => rfl
    | some y =>
      -- `y` and `x` are consecutive, so `x` has no row only if `y` has none
      obtain ⟨L'', rfl⟩ : ∃ L'', L' = L'' ++ [y] := ⟨L'.dropLast, (List.dropLast_append_getLast? y hl).symm⟩
      have hyx : [y, x] <:+: L'' ++ [y] ++ [x] := ⟨L'', [], by simp⟩
      by_contra hy
      exact hp y x hyx hy hlast

/-- Along changesets in which a row of the field is always followed by one, the value stored last
is the row of the last changeset. -/
theorem getLast?_storedValues {L : List ChangesetRow}
    (hp : ∀ c₁ c₂, [c₁, c₂] <:+: L → rowOf t c₁.id f ≠ none → rowOf t c₂.id f ≠ none) :
    (storedValues t f L).getLast?.map (·.2) = (L.getLast?.bind fun c => rowOf t c.id f).map (·.values) := by
  cases L using List.reverseRecOn with
  | nil => rfl
  | append_singleton L' x =>
    cases hx : rowOf t x.id f with
    | some row =>
      rw [storedValues_append, List.getLast?_concat, Option.bind_some, hx]
      simp [storedValues, hx]
    | none =>
      rw [storedValues_eq_nil hp (by rw [List.getLast?_concat, Option.bind_some, hx]),
        List.getLast?_concat, Option.bind_some, hx]
      rfl

end Stored

/-- In a reachable store, a field with a row in a changeset of an artifact has a row in the
artifact's next changeset. -/
theorem Reachable.rowOf_persists {s : Store} (hs : Reachable s) {artifact : ArtifactId} {f : FieldId}
    {c₁ c₂ : ChangesetRow} (hc : [c₁, c₂] <:+: changesetsOf s.tables artifact)
    (h₁ : rowOf s.tables c₁.id f ≠ none) : rowOf s.tables c₂.id f ≠ none := by
  obtain ⟨p, hp⟩ := Option.ne_none_iff_exists'.1 h₁
  have hmem : p ∈ rowsOf s.tables c₁.id f := by
    rw [rowOf_eq_head?] at hp
    exact List.mem_of_head? hp
  obtain ⟨q, hq, -⟩ := hs.copyForward artifact f c₁ c₂ hc p hmem
  rw [rowOf_eq_head?, hq]
  simp

/-- **The value stored last is the last changeset's.** In a reachable store, the ids a field
stored last on an artifact, through its audit trail's eyes, are its ids in the artifact's last
changeset; none when it has no row there. -/
theorem last_storedValues {s : Store} (hs : Reachable s) (artifact : ArtifactId) (f : FieldId) :
    ((storedValues s.tables f (changesetsOf s.tables artifact)).getLast?.map (·.2)).getD [] =
      s.lastIds artifact f := by
  rw [getLast?_storedValues fun _ _ => hs.rowOf_persists, lastIds, lastRow]
  cases (changesetsOf s.tables artifact).getLast? <;> rfl

/-! ## A field's turn that reports an update -/

/-- A saved field reported updated has a fresh row in the new changeset, and its change is the one
from `previousIds` to that row. -/
theorem reportSaved_updated {style : HistoryStyle} {cs : Choices} {f : Field}
    {previousIds : List ValueId} {fresh : ChangesetId} {saved : Bool} {t : Tables}
    (h : (reportSaved style cs f previousIds fresh saved t).outcome = .updated) :
    ∃ q, rowOf t fresh f.id = some q ∧ q.changed = true ∧
      (reportSaved style cs f previousIds fresh saved t).change =
        Change.describe cs style.separator previousIds q.values := by
  unfold reportSaved at h ⊢
  cases saved
  · cases h
  · simp only [Bool.not_true, Bool.false_eq_true, if_false] at h ⊢
    cases hq : rowOf t fresh f.id with
    | none => simp [hq] at h
    | some q =>
      cases hc : q.changed
      · simp [hq, hc] at h
      · exact ⟨q, rfl, hc, by simp [hc]⟩

section Fields

variable {style : HistoryStyle} {entries : List (FieldId × List ValueId)} {bypass : Bool}
  {artifact : ArtifactId} {previous : Option ChangesetId} {fresh : ChangesetId}

/-- **One field's turn reports an update** only with a fresh row, whose values differ from the
previous row's when there is one; the change reported is the one from the previous row's ids
(none when there is no previous row) to the fresh row's. -/
theorem recordField_updated {r r' : Request} {g : Field} {s s' : Store} {rep : FieldReport}
    (h : (recordField style entries bypass artifact previous fresh r g).run s = .ok ((rep, r'), s'))
    (ho : s.tables.Open fresh g.id)
    (hsrc : ∀ p, (previous.bind fun c => rowOf s.tables c g.id) = some p →
      s.tables.rows.find? (·.id == p.id) = some p ∧ ListEntry.Valid p.entries)
    (hup : rep.outcome = .updated) :
    ∃ q, rowOf s'.tables fresh g.id = some q ∧ q.changed = true ∧
      rep.change = Change.describe (s.choicesOf g style.noneLabel) style.separator
        (((previous.bind fun c => rowOf s.tables c g.id).map (·.values)).getD []) q.values ∧
      ∀ p, (previous.bind fun c => rowOf s.tables c g.id) = some p → valueSet q.values ≠ valueSet p.values := by
  obtain ⟨q, hq, hch, hchange⟩ : ∃ q, rowOf s'.tables fresh g.id = some q ∧ q.changed = true ∧
      rep.change = Change.describe (s.choicesOf g style.noneLabel) style.separator
        (((previous.bind fun c => rowOf s.tables c g.id).map (·.values)).getD []) q.values := by
    have h' := h
    rw [recordField_run] at h'
    simp only [Except.ok.injEq, Prod.mk.injEq] at h'
    obtain ⟨⟨rfl, -⟩, rfl⟩ := h'
    -- a rejected field is not updated (`split_ifs` closes that branch); a saved one reports
    -- what its row says
    split_ifs at hup ⊢ with hv
    exact reportSaved_updated hup
  refine ⟨q, hq, hch, hchange, fun p hp => ?_⟩
  -- a fresh row is written only for a field that is not read-only
  have hro : g.readOnly = false := by
    rcases (recordField_step h).1 with rfl | ⟨hro, -⟩
    · rw [ho.1] at hq
      cases hq
    · exact hro
  obtain ⟨hfind, hv⟩ := hsrc p hp
  obtain ⟨changed, es, rfl, hcases⟩ := recordField_of_previous h hro ho hp hfind hv
  rw [rowOf_pushRow_self ho.1] at hq
  cases hq
  rcases hcases with ⟨rfl, -⟩ | ⟨-, ids, rfl, hchg⟩
  · cases hch
  · rw [ValueRow.values_mk, ListEntry.read_numbered, valueSet_normalize]
    exact fun e => changes_iff.1 hchg e.symm

end Fields

section Submission

variable {style : HistoryStyle} {a : Actor} {artifact : ArtifactId}
  {entries : List (FieldId × List ValueId)} {bypass : Bool} {s s' : Store} {rep : UpdateReport}

/-- **The audit trail's entry for a kept changeset.** After a submission from a reachable store
keeps changeset `c`, the text of `c`'s entry in a field's audit trail, if there is one, is the
change from the field's ids in the artifact's last changeset before the call to its row in `c`. -/
theorem history_kept_entry (hs : Reachable s)
    (h : submit style a artifact entries bypass s = .ok (rep, s')) {c : ChangesetRow}
    (hc : rep.changeset = some c) (style' : HistoryStyle) (g : Field) {q : ValueRow}
    (hq : rowOf s'.tables c.id g.id = some q) :
    ((s'.history style' artifact g).find? (·.changeset == c)).map (·.rendered) =
      Change.describe (s.choicesOf g style'.noneLabel) style'.separator (s.lastIds artifact g.id) q.values := by
  have hw := hs.wellFormed
  obtain ⟨hcid, -, -, new, n, hnew, rfl⟩ := submit_committed h hc
  have hold_id : ∀ c' ∈ changesetsOf s.tables artifact, c'.id ≠ c.id :=
    fun c' hc' => hcid ▸ ne_next_of_mem hw (List.mem_filter.1 hc').1
  -- the artifact's changesets are the old ones, then `c`
  have hcs : changesetsOf ((s.withChangeset c).withRows new n).tables artifact =
      changesetsOf s.tables artifact ++ [c] := by
    simp [changesetsOf, withRows, withChangeset, List.filter_append, hcid]
  -- the old changesets keep their rows
  have hstored : storedValues ((s.withChangeset c).withRows new n).tables g.id (changesetsOf s.tables artifact) =
      storedValues s.tables g.id (changesetsOf s.tables artifact) := by
    refine List.filterMap_congr fun c' hc' => ?_
    have hrow : rowOf ((s.withChangeset c).withRows new n).tables c'.id g.id = rowOf s.tables c'.id g.id :=
      rowOf_withRows_of_forall fun x hx => .inl ((hnew x hx).1 ▸ (hold_id c' hc').symm)
    rw [hrow]
  -- no entry of the old changesets names `c`, which is new
  have hold : ∀ e ∈ historyFrom ((s.withChangeset c).withRows new n).tables (s.choicesOf g style'.noneLabel)
      style'.separator g.id [] (changesetsOf s.tables artifact), (e.changeset == c) = false := by
    intro e he
    have hne := hold_id e.changeset (changeset_mem_of_mem_historyFrom he)
    simpa using fun e' => hne (congrArg ChangesetRow.id e')
  unfold history
  simp only [choicesOf_withRows, choicesOf_withChangeset]
  rw [hcs, historyFrom_append, hstored, last_storedValues hs, List.find?_append,
    List.find?_eq_none.2 fun e he => by simp [hold e he]]
  simp only [Option.none_or, historyFrom, hq]
  cases hd : Change.between (s.lastIds artifact g.id) q.values <;> simp [Change.describe, hd]

/-- **What a kept changeset changes.** When a submission from a reachable store keeps changeset
`c`, some field reports `updated`, and each field that does has one row in `c`, marked changed.
The field's report shows the change that `c`'s entry in the field's audit trail shows, and there
is one exactly when the field's values differ from its ids in the artifact's last changeset before
the call. When there is none, the field had no row there and its row in `c` is empty: the first
empty list of a field is kept with no change to show. -/
theorem submit_kept_changes (hs : Reachable s)
    (h : submit style a artifact entries bypass s = .ok (rep, s')) {c : ChangesetRow}
    (hc : rep.changeset = some c) :
    (∃ fr ∈ rep.fields, fr.outcome = .updated) ∧
    List.Forall₂ (fun (g : Field) (fr : FieldReport) => fr.field = g.id ∧ (fr.outcome = .updated →
        ∃ q, rowsOf s'.tables c.id g.id = [q] ∧ q.changed = true ∧
          fr.change = ((s'.history style artifact g).find? (·.changeset == c)).map (·.rendered) ∧
          (fr.change ≠ none ↔ valueSet q.values ≠ valueSet (s.lastIds artifact g.id)) ∧
          (fr.change = none → s.lastRow artifact g.id = none ∧ q.values = [])))
      s.tables.fields rep.fields := by
  have hw := hs.wellFormed
  have hw' := submit_wellFormed h hw
  obtain ⟨hcid, -, hupd, -⟩ := submit_committed h hc
  refine ⟨?_, ?_⟩
  · -- the changeset is kept only when the list of updated fields is not empty
    obtain ⟨fr, hfr⟩ := List.exists_mem_of_ne_nil _ hupd
    obtain ⟨hmem, hout⟩ := List.mem_filter.1 hfr
    exact ⟨fr, hmem, by simpa using hout⟩
  refine ((List.forall₂_and_left _ _).2 ⟨fun g hg => hg,
    submit_committed_reports hw.field_nodup h hc⟩).imp ?_
  rintro g fr ⟨hg, hturn⟩
  obtain ⟨r, st, r', st', -, hrun, ho, ⟨new, n, hnew, rfl⟩, hrow⟩ :=
    hturn.turn hw (by rw [hcid]) hg
  refine ⟨recordField_report_field hrun, fun hup => ?_⟩
  -- the turn compared with the field's row in the artifact's last changeset, which is unchanged
  have hlast := @rowOf_turn_last s artifact c new n hw (by rw [hcid]) hnew g.id
  obtain ⟨q, hq, hch, hchange, hdiff⟩ := recordField_updated hrun ho (fun p hp => by
    rw [hlast] at hp
    exact copySource_turn hw (lastRow_mem hp)) hup
  rw [hlast] at hchange hdiff
  simp only [choicesOf_withRows, choicesOf_withChangeset, choicesOf_units] at hchange
  rw [← hrow] at hq
  have hentry := history_kept_entry hs h hc style g hq
  refine ⟨q, rowsOf_eq_of_rowOf hw' hq, hch, hentry ▸ hchange, ?_, fun hnone => ?_⟩
  · rw [hchange]
    exact (Change.describe_eq_none_iff.trans eq_comm).not
  -- no change: a previous row would have other values, so there is none, and the lastIds are
  -- empty; a stored row never names the sentinel, so the new row is empty too
  rw [hchange, Change.describe_eq_none_iff] at hnone
  have hprev : s.lastRow artifact g.id = none := by
    cases hp : s.lastRow artifact g.id with
    | none => rfl
    | some p => exact absurd (by simpa [lastIds, hp] using hnone.symm) (hdiff p hp)
  refine ⟨hprev, eq_nil_of_valueSet_eq_empty (hw'.row_none (List.mem_of_find?_eq_some hq)) ?_⟩
  simpa [lastIds, hprev] using hnone.symm

end Submission

/-- On a new artifact, a first empty list for a field the actor may submit is kept: the field
reports `updated` with no change to show. -/
theorem submit_keeps_first_empty_list :
    ∃ s, s = replay [.admin .ensureMembersGroup, .admin (.createUser "alice" none),
        .admin (.createField "status" "Status" .static false false false),
        .admin (.grant 1 1 .submit), .admin (.createArtifact "a" ⟨1, "alice", [1]⟩)] {} ∧
      ∃ rep s' c, submit {} ⟨1, "alice", [1]⟩ 1 [(1, [])] false s = .ok (rep, s') ∧
        rep.changeset = some c ∧
        ((∃ fr ∈ rep.fields, fr.outcome = .updated) ∧
          List.Forall₂ (fun (g : Field) (fr : FieldReport) => fr.field = g.id ∧
              (fr.outcome = .updated →
                ∃ q, rowsOf s'.tables c.id g.id = [q] ∧ q.changed = true ∧
                  fr.change = ((s'.history {} 1 g).find? (·.changeset == c)).map (·.rendered) ∧
                  (fr.change ≠ none ↔ valueSet q.values ≠ valueSet (s.lastIds 1 g.id)) ∧
                  (fr.change = none → s.lastRow 1 g.id = none ∧ q.values = [])))
            s.tables.fields rep.fields) ∧
        rep.fields.map (fun fr => (fr.outcome, fr.change)) = [(.updated, none)] := by
  refine ⟨_, rfl, ?_⟩
  have hreach := Reachable.replay (.migrated true) [.admin .ensureMembersGroup,
    .admin (.createUser "alice" none), .admin (.createField "status" "Status" .static false false false),
    .admin (.grant 1 1 .submit), .admin (.createArtifact "a" ⟨1, "alice", [1]⟩)]
  generalize hs : replay _ _ = s at hreach ⊢
  have hrun : (submit {} ⟨1, "alice", [1]⟩ 1 [(1, [])] false s).toOption.map
      (fun p => (p.1.changeset.isSome, p.1.fields.map fun fr => (fr.outcome, fr.change))) =
      some (true, [(.updated, none)]) := by
    subst hs
    cbv
  obtain ⟨⟨rep, s'⟩, hsub, hout⟩ := except_ok_of_toOption_map hrun
  obtain ⟨hsome, hfields⟩ := Prod.mk.inj hout
  obtain ⟨c, hc⟩ := Option.isSome_iff_exists.1 hsome
  exact ⟨rep, s', c, hsub, hc, submit_kept_changes hreach hsub hc, hfields⟩

end Store
end ListField
