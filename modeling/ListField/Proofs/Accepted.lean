import Mathlib
import ListField.Proofs.FreshRows

/-!
# An accepted value is kept

A submission that names a field with ids and gets no rejection for it has its value in the
changeset it keeps: the field's row there names the submitted set of values. It is a new row,
reported as updated, exactly when that set differs from the field's row in the artifact's last
changeset (or there is no such row); otherwise it is that row copied forward, reported unchanged.

* `Writer.mayWrite_of_allowed`: a value the checks let through with the needed access is one the
  writer writes;
* `recordField_accepted`: one field's turn with an accepted submitted value;
* `submit_keeps_accepted`: the statement over every reachable store and kept changeset, where the
  field's report is found by its id (`submit_report_fields`).
-/

namespace ListField

/-- The writer writes what the checks let through: with bypass, or with the access the phase
needs. -/
theorem Writer.mayWrite_of_allowed {f : Field} {cs : Choices} {r r' : Request} {sv : SaveRequest}
    (hsame : Request.SamePermissions r r')
    (h : sv.bypass = false →
      (if sv.isSubmission then r.can .submit f.id else r.can .update f.id) = true) :
    Writer.mayWrite f cs r' sv = true := by
  unfold Writer.mayWrite
  rw [hsame.can_eq, hsame.can_eq]
  cases hb : sv.bypass with
  | true => rfl
  | false =>
    have hal := h hb
    cases hsub : sv.isSubmission with
    | false =>
      simp only [hsub, Bool.false_eq_true, if_false, Bool.false_or] at hal ⊢
      exact hal
    | true =>
      simp only [hsub, if_true, Bool.false_or] at hal ⊢
      rw [hal, Bool.true_or]

/-- A verdict that lets a non-empty value through is one the writer follows, whatever the
request it hands on. -/
theorem FieldCheck.mayWrite_of_judge {fc : FieldCheck} {r : Request}
    {previous : Option (List ValueId)} {v : List ValueId} {skip isSubmission : Bool}
    (h : (fc.judge r previous (some v) skip isSubmission).1 = true) (hne : v ≠ []) (cs : Choices)
    (sv : SaveRequest) (hb : sv.bypass = skip) (hsub : sv.isSubmission = isSubmission) :
    Writer.mayWrite fc.field cs (fc.judge r previous (some v) skip isSubmission).2 sv = true := by
  -- an empty value is the only one let through without access
  have hallowed := (fc.judge_passes h).resolve_right fun h' => hne h'.2.1
  refine Writer.mayWrite_of_allowed (fc.same_judge r _ _ _ _) fun hb' => ?_
  rw [hsub]
  exact hallowed.2 (hb ▸ hb')

namespace Store

open Selection

/-- A saved field reports what its new row says: updated for a changed value, unchanged for a
copy. -/
theorem reportSaved_pushRow {style : HistoryStyle} {cs : Choices} {f : Field}
    {previousIds : List ValueId} {t : Tables} {fresh : ChangesetId} {changed : Bool}
    {es : List ListEntry} (h : rowOf t fresh f.id = none) :
    (reportSaved style cs f previousIds fresh true (t.pushRow fresh f.id changed es)).outcome =
      if changed then .updated else .unchanged := by
  simp only [reportSaved, Bool.not_true, Bool.false_eq_true, if_false, rowOf_pushRow_self h]
  cases changed <;> rfl

section Fields

variable {style : HistoryStyle} {entries : List (FieldId × List ValueId)} {bypass : Bool}
  {artifact : ArtifactId} {previous : Option ChangesetId} {fresh : ChangesetId}

/-- A field's report names the field. -/
theorem recordField_report_field {r r' : Request} {g : Field} {s s' : Store} {rep : FieldReport}
    (h : (recordField style entries bypass artifact previous fresh r g).run s = .ok ((rep, r'), s')) :
    rep.field = g.id := by
  rw [recordField_run] at h
  simp only [Except.ok.injEq, Prod.mk.injEq] at h
  obtain ⟨⟨rfl, -⟩, -⟩ := h
  split
  · unfold reportSaved
    split
    · rfl
    · split
      · split <;> rfl
      · rfl
  · rfl

/-- **One field's turn with an accepted value.** A field that is not read-only, given ids that
are not empty and not rejected, gets one row in the new changeset: the ids normalized, as a
change, when they differ from the previous row or there is none; the previous row's entries, as
no change, when they do not. The report says which. -/
theorem recordField_accepted {r r' : Request} {g : Field} {s s' : Store} {rep : FieldReport}
    {ids : List ValueId}
    (h : (recordField style entries bypass artifact previous fresh r g).run s = .ok ((rep, r'), s'))
    (hro : g.readOnly = false) (ho : s.tables.Open fresh g.id)
    (hids : submittedFor entries g.id = some ids) (hne : ids ≠ [])
    (hok : ∀ es, rep.outcome ≠ .rejected es)
    (hsrc : ∀ p, (previous.bind fun c => rowOf s.tables c g.id) = some p →
      s.tables.rows.find? (·.id == p.id) = some p ∧ ListEntry.Valid p.entries) :
    ∃ changed es, s' = { s with tables := s.tables.pushRow fresh g.id changed es } ∧
      rep.outcome = (if changed then .updated else .unchanged) ∧
      ((∀ p, (previous.bind fun c => rowOf s.tables c g.id) = some p → changes p.values ids = true) →
        changed = true ∧ es = ListEntry.numbered 0 (normalize ids)) ∧
      (∀ p, (previous.bind fun c => rowOf s.tables c g.id) = some p → changes p.values ids = false →
        changed = false ∧ es = p.entries) := by
  rw [recordField_run] at h
  simp only [Except.ok.injEq, Prod.mk.injEq] at h
  obtain ⟨⟨hrep, -⟩, rfl⟩ := h
  rw [FieldCheck.idsFor_of_submitted (FieldCheck.make g (s.choicesOf g style.noneLabel) s.lookup)
    hids] at hrep ⊢
  simp only [Bool.or_false] at hrep ⊢
  split at hrep
  case isFalse => exact absurd (congrArg FieldReport.outcome hrep).symm (hok _)
  case isTrue hvalid =>
    rw [if_pos hvalid]
    subst hrep
    have hmay : Writer.mayWrite g _ _ ⟨artifact, previous, fresh, some ids, previous.isNone, bypass⟩ =
        true := FieldCheck.mayWrite_of_judge hvalid hne (s.choicesOf g style.noneLabel) _ rfl rfl
    rcases Option.eq_none_or_eq_some (previous.bind fun c => rowOf s.tables c g.id) with hp | ⟨p, hp⟩
    · -- no previous row: the value is written as a change
      rw [@saveValue_of_no_previous _ _ _ _ ⟨artifact, previous, fresh, _, _, _⟩ hro hp ho]
      simp only [hmay, if_true]
      refine ⟨true, _, rfl, reportSaved_pushRow ho.1, fun _ => ⟨rfl, rfl⟩, fun p' hp' _ => ?_⟩
      rw [hp] at hp'
      cases hp'
    · obtain ⟨hfind, hv⟩ := hsrc p hp
      rcases @saveValue_previous_cases _ _ _ _
        ⟨artifact, previous, fresh, some ids, previous.isNone, bypass⟩ _ hro hp ho hfind hv
        with ⟨ids', hsub, -, hch, heq⟩ | ⟨hnch, heq⟩
      · -- a different value is written as a change
        cases hsub
        rw [heq]
        refine ⟨true, _, rfl, reportSaved_pushRow ho.1, fun _ => ⟨rfl, rfl⟩, fun p' hp' hf => ?_⟩
        rw [hp] at hp'
        cases hp'
        rw [hch] at hf
        cases hf
      · -- the same value: the previous row is copied
        rw [heq]
        have hsame := hnch ids rfl hmay
        refine ⟨false, p.entries, rfl, reportSaved_pushRow ho.1, fun hall => ?_, fun p' hp' _ => ?_⟩
        · rw [hall p hp] at hsame
          cases hsame
        · rw [hp] at hp'
          cases hp'
          exact ⟨rfl, rfl⟩

end Fields

variable {style : HistoryStyle} {a : Actor} {artifact : ArtifactId}
  {entries : List (FieldId × List ValueId)} {bypass : Bool} {s s' : Store} {rep : UpdateReport}

/-- A kept changeset reports on every field of the store, in order, one report each. -/
theorem submit_report_fields (hw : s.tables.history.WellFormed)
    (h : submit style a artifact entries bypass s = .ok (rep, s')) {c : ChangesetRow}
    (hc : rep.changeset = some c) : rep.fields.map (·.field) = s.tables.fields.map (·.id) := by
  have hfield : List.Forall₂ (fun (f : Field) (fr : FieldReport) => f.id = fr.field)
      s.tables.fields rep.fields :=
    (submit_committed_reports hw.field_nodup h hc).imp
      fun _ _ ⟨_, _, _, _, _, _, _, _, hrun, _⟩ => (recordField_report_field hrun).symm
  have heq := List.forall₂_map_left_iff.2 (List.forall₂_map_right_iff.2 hfield)
  rw [List.forall₂_eq_eq_eq] at heq
  exact heq.symm

/-- **An accepted value is kept.** When a submission from a reachable store keeps changeset `c`,
every field `g` that is not read-only, submitted with ids `ids ≠ []` and not rejected, has one row
in `c`, naming the values of `ids`. It is a new row of `ids` normalized, reported updated, exactly
when the artifact's last row for `g` names other values or there is none; otherwise it is that
row copied, reported unchanged. -/
theorem submit_keeps_accepted (hs : Reachable s)
    (h : submit style a artifact entries bypass s = .ok (rep, s')) {c : ChangesetRow}
    (hc : rep.changeset = some c) {g : Field} (hg : g ∈ s.tables.fields) (hro : g.readOnly = false)
    {ids : List ValueId} (hids : submittedFor entries g.id = some ids) (hne : ids ≠ [])
    {fr : FieldReport} (hfr : fr ∈ rep.fields) (hfrg : fr.field = g.id)
    (hok : ∀ es, fr.outcome ≠ .rejected es) :
    ∃ q, rowsOf s'.tables c.id g.id = [q] ∧ valueSet q.values = valueSet ids ∧
      ((q.changed = true ∧ q.values = normalize ids ∧ fr.outcome = .updated) ↔
        ∀ p, s.lastRow artifact g.id = some p → valueSet p.values ≠ valueSet ids) ∧
      (∀ p, s.lastRow artifact g.id = some p → valueSet p.values = valueSet ids →
        q.changed = false ∧ q.values = p.values ∧ fr.outcome = .unchanged) := by
  have hw := hs.wellFormed
  obtain ⟨hcid, -⟩ := submit_committed h hc
  obtain ⟨r, _, r', st', gr, hgr, -, hrun, ho, ⟨new, n, hnew, rfl⟩, hrow⟩ := submit_turn hw h hc hg
  -- reports are one per field, so `fr` is the report of `g`'s turn
  have hnd : (rep.fields.map (·.field)).Nodup := submit_report_fields hw h hc ▸ hw.field_nodup
  obtain rfl : fr = gr :=
    List.inj_on_of_nodup_map hnd hfr hgr (hfrg.trans (recordField_report_field hrun).symm)
  -- the previous row the turn reads is the artifact's last row, a row of the old store
  obtain ⟨changed, es, rfl, hout, hchanged, hcopy⟩ :=
    recordField_accepted hrun hro ho hids hne hok fun p hp => by
      rw [rowOf_turn_last hw (by rw [hcid]) hnew] at hp
      exact copySource_turn hw (lastRow_mem hp)
  rw [rowOf_turn_last hw (by rw [hcid]) hnew] at hchanged hcopy
  have hq : rowOf s'.tables c.id g.id = some ⟨_, c.id, g.id, changed, es⟩ :=
    hrow.trans (rowOf_pushRow_self ho.1)
  refine ⟨_, rowsOf_eq_of_rowOf (submit_wellFormed h hw) hq, ?_⟩
  rw [hout]
  cases hl : s.lastRow artifact g.id with
  | none =>
    -- nothing to compare with: the value is new
    obtain ⟨rfl, rfl⟩ := hchanged fun p hp => by rw [hl] at hp; cases hp
    rw [ValueRow.values_mk, ListEntry.read_numbered]
    exact ⟨valueSet_normalize ids, iff_of_true ⟨rfl, rfl, rfl⟩ (fun p hp => by cases hp),
      fun p hp => by cases hp⟩
  | some p =>
    by_cases hd : valueSet p.values = valueSet ids
    · obtain ⟨rfl, rfl⟩ := hcopy p hl (Bool.eq_false_iff.2 fun h' => changes_iff.1 h' hd)
      refine ⟨hd, iff_of_false (fun h' => Bool.false_ne_true h'.1) fun hall => hall p rfl hd,
        fun p' hp' _ => ?_⟩
      cases hp'
      exact ⟨rfl, rfl, rfl⟩
    · obtain ⟨rfl, rfl⟩ := hchanged fun p' hp' => by
        rw [hl] at hp'
        cases hp'
        exact changes_iff.2 hd
      rw [ValueRow.values_mk, ListEntry.read_numbered]
      refine ⟨valueSet_normalize ids, iff_of_true ⟨rfl, rfl, rfl⟩ fun p' hp' => ?_,
        fun p' hp' hd' => ?_⟩
      · cases hp'
        exact hd
      · cases hp'
        exact absurd hd' hd

/-- The first value submitted on a new artifact is kept as a change. -/
theorem submit_keeps_first_value :
    ∃ s, s = replay [.admin (.createUser "alice" none),
        .admin (.createField "status" "Status" .static false false false),
        .admin (.addChoice 1 { label := "Open" }), .admin (.createArtifact "a" ⟨1, "alice", []⟩)] {} ∧
      ∃ rep s' fr q, submit {} ⟨1, "alice", []⟩ 1 [(1, [101])] true s = .ok (rep, s') ∧
        fr ∈ rep.fields ∧ fr.field = 1 ∧ rowsOf s'.tables 1 1 = [q] ∧ q.changed = true ∧
        q.values = [101] ∧ fr.outcome = .updated := by
  refine ⟨_, rfl, ?_⟩
  have hreach := Reachable.replay (.migrated true) [.admin (.createUser "alice" none),
    .admin (.createField "status" "Status" .static false false false),
    .admin (.addChoice 1 { label := "Open" }), .admin (.createArtifact "a" ⟨1, "alice", []⟩)]
  generalize hs : replay _ _ = s at hreach ⊢
  have hrun : (submit {} ⟨1, "alice", []⟩ 1 [(1, [101])] true s).toOption.map
      (fun p => (p.1.changeset, p.1.fields.map fun fr => (fr.field, fr.outcome))) =
        some (some ⟨1, 1, 1⟩, [(1, .updated)]) := by
    subst hs
    cbv
  have hfields : s.tables.fields = [⟨1, "status", "Status", .static, false, false, false⟩] := by
    subst hs
    cbv
  have hlast : s.lastRow 1 1 = none := by subst hs; cbv
  rcases hsub : submit {} ⟨1, "alice", []⟩ 1 [(1, [101])] true s with e | ⟨rep, s'⟩
  · rw [hsub] at hrun
    cases hrun
  rw [hsub] at hrun
  simp only [Except.toOption, Option.map_some, Option.some.injEq, Prod.mk.injEq,
    List.map_eq_singleton_iff] at hrun
  obtain ⟨hc, fr, hfr, hfield, hout⟩ := hrun
  have hg : (⟨1, "status", "Status", .static, false, false, false⟩ : Field) ∈ s.tables.fields := by
    rw [hfields]
    exact List.mem_singleton_self _
  have hmem : fr ∈ rep.fields := by
    rw [hfr]
    exact List.mem_singleton_self _
  obtain ⟨q, hq, -, hnew, -⟩ := submit_keeps_accepted hreach hsub hc hg rfl rfl (by decide) hmem hfield
    fun es h => by
      rw [hout] at h
      cases h
  obtain ⟨hch, hvals, -⟩ := hnew.2 fun p hp => by rw [hlast] at hp; cases hp
  exact ⟨rep, s', fr, q, rfl, hmem, hfield, hq, hch, hvals, hout⟩

end Store
end ListField
