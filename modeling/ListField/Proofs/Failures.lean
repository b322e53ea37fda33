import Mathlib
import ListField.Proofs.Accepted

/-!
# When a field fails to save

A field's report is `failed` when the checks let its value through and the writer then answers
that it did not save it. The writer answers so on a store error, and on one decision of its own:
a field with no previous row, given ids by an actor it does not let write them. The checks never
hand it such ids but one way: an empty list from an actor without the access the phase needs,
which they let through unchecked as "nothing submitted".

In a reachable store no write of a submission meets a store error: each row goes where it may,
and the row a copy reads is there. So a report is `failed` exactly in the case above
(`DroppedEmpty`), and never because of the store (`submit_failed_iff`).

* `saveValue_saved_eq_false_iff`: the writer fails to save only without a previous row, with ids
  it may not write;
* `recordField_failed_iff`: one field's turn fails exactly when it is given an empty list without
  bypass, has no previous row, and the writer may not write it;
* `submit_failed_iff`: the statement over every reachable store, for kept and rolled back
  changesets alike.
-/

namespace ListField

namespace Writer

/-- A writer that may not write has no bypass, and the actor lacks the access of the phase. -/
theorem denied_of_mayWrite_eq_false {f : Field} {cs : Choices} {r : Request} {sv : SaveRequest}
    (h : mayWrite f cs r sv = false) :
    sv.bypass = false ∧ (if sv.isSubmission then r.can .submit f.id else r.can .update f.id) = false := by
  unfold mayWrite at h
  obtain ⟨hb, hphase⟩ := Bool.or_eq_false_iff.1 h
  refine ⟨hb, ?_⟩
  cases hs : sv.isSubmission
  · simpa [hs] using hphase
  · simp only [hs, if_true, Bool.or_eq_false_iff] at hphase ⊢
    exact hphase.1

/-- Whether the writer may write depends only on the actor's permissions, the bypass and the
phase. -/
theorem mayWrite_congr {f : Field} {cs : Choices} {r r' : Request} {sv sv' : SaveRequest}
    (hsame : Request.SamePermissions r r') (hb : sv'.bypass = sv.bypass)
    (hs : sv'.isSubmission = sv.isSubmission) : mayWrite f cs r' sv' = mayWrite f cs r sv := by
  unfold mayWrite
  rw [hb, hs, hsame.can_eq, hsame.can_eq]

end Writer

namespace FieldCheck

/-- The full check lets an empty value from an actor without the access of the phase through,
with nothing recorded. -/
theorem checkSubmission_empty_of_denied (fc : FieldCheck) {r : Request}
    {previous : Option (List ValueId)} {isSubmission : Bool}
    (h : (if isSubmission then r.can .submit fc.field.id else r.can .update fc.field.id) = false) :
    fc.checkSubmission r previous (some []) isSubmission = (true, r) := by
  unfold checkSubmission
  simp [h]

theorem judge_empty_of_denied (fc : FieldCheck) {r : Request} {previous : Option (List ValueId)}
    {isSubmission : Bool}
    (h : (if isSubmission then r.can .submit fc.field.id else r.can .update fc.field.id) = false) :
    fc.judge r previous (some []) false isSubmission = (true, r) := by
  unfold judge
  exact fc.checkSubmission_empty_of_denied h

end FieldCheck

namespace UpdateReport

/-- A rolled back report keeps each field's report, but says unchanged for an update. -/
theorem discarded_fields (r : UpdateReport) :
    r.discarded.fields = r.fields.map fun f =>
      if f.outcome == .updated then { f with outcome := .unchanged, change := none } else f := rfl

/-- Rolling back keeps the field of a report and whether it failed. -/
theorem discard_field_failed (f : FieldReport) :
    (if f.outcome == .updated then { f with outcome := .unchanged, change := none } else f).field =
        f.field ∧
      ((if f.outcome == .updated then { f with outcome := .unchanged, change := none } else f).outcome =
        .failed ↔ f.outcome = .failed) := by
  by_cases hu : f.outcome = .updated
  · simp [hu]
  · simp [hu]

end UpdateReport

namespace Store

/-- The request a submission starts with asks the store's grants for update access too. -/
theorem can_update_grants (s : Store) (a : Actor) (f : FieldId) :
    ({ actor := a, grants := s.grants } : Request).can .update f = granted s.tables a f [.update] :=
  rfl

/-- A saved field is reported failed exactly when the writer did not save it. -/
theorem reportSaved_outcome_eq_failed_iff {style : HistoryStyle} {cs : Choices} {f : Field}
    {previousIds : List ValueId} {fresh : ChangesetId} {saved : Bool} {t : Tables} :
    (reportSaved style cs f previousIds fresh saved t).outcome = .failed ↔ saved = false := by
  unfold reportSaved
  cases saved
  · simp
  · simp only [Bool.not_true, Bool.false_eq_true, if_false]
    split
    · split <;> simp
    · simp

variable {s s' : Store}

/-- Where the field's row may go and the previous row can be copied, the writer fails to save
only a field that is not read-only, has no previous row, and is given ids it may not write. -/
theorem saveValue_saved_eq_false_iff {f : Field} {cs : Choices} {r : Request} {sv : SaveRequest}
    (ho : s.tables.Open sv.fresh f.id)
    (hsrc : ∀ p, previousRow s.tables sv f.id = some p →
      s.tables.rows.find? (·.id == p.id) = some p ∧ ListEntry.Valid p.entries) :
    (Writer.saveValue rowStore f cs r sv s).1 = false ↔
      f.readOnly = false ∧ previousRow s.tables sv f.id = none ∧
        ∃ ids, sv.submitted = some ids ∧ Writer.mayWrite f cs r sv = false := by
  cases hro : f.readOnly
  · cases hp : previousRow s.tables sv f.id with
    | some p =>
      -- a previous row is always followed: a new value or a copy
      obtain ⟨hfind, hv⟩ := hsrc p hp
      rw [saveValue_of_previous hro hp ho hfind hv]
      simp
    | none =>
      rw [saveValue_of_no_previous hro hp ho]
      cases sv.submitted with
      | none => simp
      | some ids => cases Writer.mayWrite f cs r sv <;> simp
  · rw [Writer.saveValue_readOnly _ _ _ _ _ _ hro]
    simp

section Fields

variable {style : HistoryStyle} {entries : List (FieldId × List ValueId)} {bypass : Bool}
  {artifact : ArtifactId} {previous : Option ChangesetId} {fresh : ChangesetId}

/-- **One field's turn fails** exactly when the field is not read-only, has no previous row, is
submitted with an empty list without bypass, and the writer may not write it. -/
theorem recordField_failed_iff {r r' : Request} {g : Field} {rep : FieldReport}
    (h : (recordField style entries bypass artifact previous fresh r g).run s = .ok ((rep, r'), s'))
    (ho : s.tables.Open fresh g.id)
    (hsrc : ∀ p, (previous.bind fun c => rowOf s.tables c g.id) = some p →
      s.tables.rows.find? (·.id == p.id) = some p ∧ ListEntry.Valid p.entries) :
    rep.outcome = .failed ↔ g.readOnly = false ∧ (previous.bind fun c => rowOf s.tables c g.id) = none ∧
      submittedFor entries g.id = some [] ∧ bypass = false ∧
      Writer.mayWrite g (s.choicesOf g style.noneLabel) r
        ⟨artifact, previous, fresh, some [], previous.isNone, false⟩ = false := by
  rw [recordField_run] at h
  simp only [Except.ok.injEq, Prod.mk.injEq] at h
  obtain ⟨⟨rfl, -⟩, -⟩ := h
  constructor
  · intro hfail
    split at hfail
    case isFalse => cases hfail
    case isTrue hvalid =>
      rw [reportSaved_outcome_eq_failed_iff,
        @saveValue_saved_eq_false_iff s g _ _ ⟨artifact, previous, fresh, _, _, _⟩ ho hsrc] at hfail
      obtain ⟨hro, hp, ids, hsub, hmay⟩ := hfail
      simp only at hsub hmay
      obtain ⟨hskip, -⟩ := Writer.denied_of_mayWrite_eq_false hmay
      obtain ⟨hb, hdef⟩ := Bool.or_eq_false_iff.1 hskip
      have hids := FieldCheck.idsFor_of_not_defaults _ hdef
      rw [hsub] at hvalid hmay hids
      simp only [hb, hdef, Bool.or_false] at hvalid hmay
      -- a value that passed with the needed access is written: the dropped one is empty
      have hnil : ids = [] := by
        by_contra hne
        exact Bool.false_ne_true (hmay.symm.trans (FieldCheck.mayWrite_of_judge hvalid hne _
          ⟨artifact, previous, fresh, some ids, previous.isNone, false⟩ rfl rfl))
      subst hnil
      refine ⟨hro, hp, hids.symm, hb, ?_⟩
      exact (Writer.mayWrite_congr (FieldCheck.same_judge _ _ _ _ _ _) rfl rfl).symm.trans hmay
  · rintro ⟨hro, hp, hsub, hb, hmay⟩
    -- the empty list passes the checks untouched and reaches the writer, which refuses it
    have hdenied := (Writer.denied_of_mayWrite_eq_false hmay).2
    simp only [FieldCheck.idsFor_of_submitted (FieldCheck.make g (s.choicesOf g style.noneLabel) s.lookup) hsub,
      hb, Bool.or_false,
      FieldCheck.judge_empty_of_denied (FieldCheck.make g (s.choicesOf g style.noneLabel) s.lookup) hdenied,
      if_true]
    rw [reportSaved_outcome_eq_failed_iff,
      @saveValue_saved_eq_false_iff s g _ _ ⟨artifact, previous, fresh, _, _, _⟩ ho hsrc]
    exact ⟨hro, hp, [], rfl, hmay⟩

end Fields

/-- The case where a submission's checks let a field's value through and the writer drops it: the
field is not read-only and has no row in the artifact's last changeset, the submission names it
with no ids and does not bypass permissions, and the actor lacks the access of the phase, submit
access on a new artifact and update access afterwards. On a new artifact the writer also admits a
required field with a default choice, so such a field is not in this case. -/
@[mk_iff]
structure DroppedEmpty (s : Store) (a : Actor) (artifact : ArtifactId)
    (entries : List (FieldId × List ValueId)) (bypass : Bool) (g : Field) : Prop where
  writable : g.readOnly = false
  no_previous_row : s.lastRow artifact g.id = none
  submitted_empty : submittedFor entries g.id = some []
  checked : bypass = false
  no_submit : changesetsOf s.tables artifact = [] → granted s.tables a g.id [.submit] = false
  no_update : changesetsOf s.tables artifact ≠ [] → granted s.tables a g.id [.update] = false
  no_default_rule : changesetsOf s.tables artifact = [] → g.required = true →
    ∀ ch ∈ s.tables.choices, ch.field = g.id → ch.isDefault = false

section Submission

variable {style : HistoryStyle} {a : Actor} {artifact : ArtifactId}
  {entries : List (FieldId × List ValueId)} {bypass : Bool} {rep : UpdateReport}

/-- At a field's turn, the writer may not write an empty list without bypass exactly when the
actor lacks the access of the phase and, on a new artifact, the field is not a required field
with a default choice. -/
theorem mayWrite_turn_eq_false_iff {r : Request} {g : Field} {fresh : ChangesetId}
    (hsame : Request.SamePermissions { actor := a, grants := s.grants } r) :
    Writer.mayWrite g (s.choicesOf g style.noneLabel) r
        ⟨artifact, (changesetsOf s.tables artifact).getLast?.map (·.id), fresh, some [],
          ((changesetsOf s.tables artifact).getLast?.map (·.id)).isNone, false⟩ = false ↔
      (changesetsOf s.tables artifact = [] → granted s.tables a g.id [.submit] = false) ∧
      (changesetsOf s.tables artifact ≠ [] → granted s.tables a g.id [.update] = false) ∧
      (changesetsOf s.tables artifact = [] → g.required = true →
        ∀ ch ∈ s.tables.choices, ch.field = g.id → ch.isDefault = false) := by
  unfold Writer.mayWrite
  rw [hsame.can_eq, hsame.can_eq, can_submit_grants, can_update_grants]
  by_cases hnew : changesetsOf s.tables artifact = []
  · -- a new artifact: submit access, or the writer's rule for required fields with defaults
    have hdef : (s.choicesOf g style.noneLabel).defaults.isEmpty = true ↔
        ∀ ch ∈ s.tables.choices, ch.field = g.id → ch.isDefault = false := by
      rw [List.isEmpty_iff, ← not_iff_not, ← ne_eq, @defaults_choicesOf_ne_nil s g style.noneLabel]
      simp
    simp only [hnew, List.getLast?_nil, Option.map_none, Option.isNone_none, if_true,
      Bool.false_or, Bool.or_eq_false_iff, Bool.and_eq_false_iff, Bool.not_eq_false', hdef]
    cases g.required <;> simp
  · have hsome : ((changesetsOf s.tables artifact).getLast?.map (·.id)).isNone = false := by
      simpa [List.getLast?_eq_none_iff] using hnew
    simp [hsome, hnew]

/-- At its turn in a submission from a well formed store, a field fails exactly in the dropped
empty case: the previous row the turn reads is the artifact's last row, and the choices and
permissions it reads are the store's. -/
theorem turn_failed_iff {c : ChangesetRow} {new : List ValueRow} {n : Int} {r r' : Request}
    {g : Field} {gr : FieldReport} {st' : Store}
    (hw : s.tables.history.WellFormed) (hcid : c.id = s.tables.last.changesets + 1)
    (hnew : ∀ x ∈ new, x.changeset = c.id)
    (hsame : Request.SamePermissions { actor := a, grants := s.grants } r)
    (hrun : (recordField style entries bypass artifact
      ((changesetsOf s.tables artifact).getLast?.map (·.id)) c.id r g).run
        (({ s with units := s.tables :: s.units }.withChangeset c).withRows new n) = .ok ((gr, r'), st'))
    (ho : (({ s with units := s.tables :: s.units }.withChangeset c).withRows new n).tables.Open c.id g.id) :
    gr.outcome = .failed ↔ s.DroppedEmpty a artifact entries bypass g := by
  have hsrc : ∀ p, (((changesetsOf s.tables artifact).getLast?.map (·.id)).bind fun c' =>
      rowOf (({ s with units := s.tables :: s.units }.withChangeset c).withRows new n).tables c' g.id) =
        some p → (({ s with units := s.tables :: s.units }.withChangeset c).withRows new n).tables.rows.find?
          (·.id == p.id) = some p ∧ ListEntry.Valid p.entries := fun p hp => by
    rw [rowOf_turn_last hw hcid hnew] at hp
    exact copySource_turn hw (lastRow_mem hp)
  rw [recordField_failed_iff hrun ho hsrc, rowOf_turn_last hw hcid hnew]
  simp only [choicesOf_withRows, choicesOf_withChangeset, choicesOf_units]
  rw [mayWrite_turn_eq_false_iff hsame, droppedEmpty_iff]

/-- **A field fails only when its empty value is dropped.** In every reachable store, a submission
that answers a report has one report per field of the store, in order; each names its field, and
it is `failed` exactly when the checks let an empty list through from an actor without the access
of the phase and the writer drops it (`DroppedEmpty`). No report fails because of the store, and a
rolled back changeset keeps its failures. -/
theorem submit_failed_iff (hs : Reachable s)
    (h : submit style a artifact entries bypass s = .ok (rep, s')) :
    List.Forall₂ (fun (g : Field) (fr : FieldReport) =>
        fr.field = g.id ∧ (fr.outcome = .failed ↔ s.DroppedEmpty a artifact entries bypass g))
      s.tables.fields rep.fields := by
  have hw := hs.wellFormed
  obtain ⟨report, s₁, hrec, hend⟩ := submit_run h
  have hrun := record_run hrec
  -- the report each field got at its turn, before the unit is kept or rolled back
  have hturns : List.Forall₂ (fun (g : Field) (fr : FieldReport) =>
      fr.field = g.id ∧ (fr.outcome = .failed ↔ s.DroppedEmpty a artifact entries bypass g))
      s.tables.fields report.fields := by
    refine ((List.forall₂_and_left _ _).2 ⟨fun g hg => hg, recordFields_run hw.field_nodup hrun.1⟩).imp ?_
    rintro g gr ⟨hg, hturn⟩
    obtain ⟨r, st, r', st', hsame, hrun', ho, ⟨new, n, hnew, rfl⟩, -⟩ := FieldRecorded.turn hw rfl hg hturn
    exact ⟨recordField_report_field hrun', turn_failed_iff hw rfl hnew hsame hrun' ho⟩
  split at hend
  · -- rolled back: an update is reported unchanged, a failure stays
    obtain ⟨rfl, -⟩ := hend
    rw [UpdateReport.discarded_fields, List.forall₂_map_right_iff]
    refine hturns.imp fun g fr ⟨hfield, hfailed⟩ => ?_
    obtain ⟨hfield', hfailed'⟩ := UpdateReport.discard_field_failed fr
    exact ⟨hfield'.trans hfield, hfailed'.trans hfailed⟩
  · obtain ⟨rfl, -⟩ := hend
    exact hturns

end Submission

/-- On a new artifact, an empty list for a field the actor may not submit fails to save, and it
is the dropped empty case. -/
theorem submit_fails_empty_without_access :
    ∃ s, s = replay [.admin (.createUser "alice" none),
        .admin (.createField "status" "Status" .static false false false),
        .admin (.createArtifact "a" ⟨1, "alice", []⟩)] {} ∧
      ∃ rep s', submit {} ⟨1, "alice", []⟩ 1 [(1, [])] false s = .ok (rep, s') ∧
        List.Forall₂ (fun (g : Field) (fr : FieldReport) =>
            fr.field = g.id ∧ (fr.outcome = .failed ↔ s.DroppedEmpty ⟨1, "alice", []⟩ 1 [(1, [])] false g))
          s.tables.fields rep.fields ∧
        ∃ fr ∈ rep.fields, fr.outcome = .failed := by
  refine ⟨_, rfl, ?_⟩
  have hreach := Reachable.replay (.migrated true) [.admin (.createUser "alice" none),
    .admin (.createField "status" "Status" .static false false false),
    .admin (.createArtifact "a" ⟨1, "alice", []⟩)]
  generalize hs : replay _ _ = s at hreach ⊢
  have hrun : (submit {} ⟨1, "alice", []⟩ 1 [(1, [])] false s).toOption.map
      (fun p => p.1.fields.map (·.outcome)) = some [.failed] := by
    subst hs
    cbv
  obtain ⟨⟨rep, s'⟩, hsub, hout⟩ := except_ok_of_toOption_map hrun
  obtain ⟨fr, hfr, hfailed⟩ := List.map_eq_singleton_iff.1 hout
  exact ⟨rep, s', hsub, submit_failed_iff hreach hsub, fr, hfr ▸ List.mem_singleton_self fr, hfailed⟩

end Store
end ListField
