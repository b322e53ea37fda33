import Mathlib
import ListField.Proofs.Checks
import ListField.Proofs.ValueCheck
import ListField.Proofs.Reachable

/-!
# A rejection records one error

Every check of a field hands the request back untouched when it passes, and with exactly one
error recorded, for the checked field, when it fails (`FieldCheck.RecordsOne`): each failing
branch records its error and returns. The full check of a submission, `checkSubmission`, fails
with `required` on a required field left without a first value by an actor allowed to fill it,
with `permissionDenied` on a value sent without the access of the phase, and lets a non-empty
value through only when the actor has that access, a required field gets a value, and the value
check passes (`checkSubmission_rejects_with_one_error`).

A submission shares one request between its fields, which start with no error; each field's
checks record only under its own id, and field ids are distinct in a reachable store. So each
field's rejection lists the one error its checks recorded (`recordFields_rejected_single`), and so
does every rejected report a submission answers.
-/

namespace ListField

theorem Request.errorsOf_record_of_ne (r : Request) {f g : FieldId} (e : FieldError) (h : f ≠ g) :
    (r.record f e).errorsOf g = r.errorsOf g := by
  simp [Request.record, Request.errorsOf, List.filterMap_append, h]

namespace FieldCheck

/-- What a check does to the request `r` of a field `f`: nothing when it passes, and one error
recorded for `f` when it fails. -/
def RecordsOne (f : FieldId) (r : Request) (v : Bool × Request) : Prop :=
  (v.1 = true → v.2 = r) ∧ (v.1 = false → ∃ e, v.2 = r.record f e)

namespace RecordsOne

variable {f : FieldId} {r : Request} {v : Bool × Request}

theorem pass (f : FieldId) (r : Request) : RecordsOne f r (true, r) :=
  ⟨fun _ => rfl, fun h => by cases h⟩

theorem fail (f : FieldId) (r : Request) (e : FieldError) : RecordsOne f r (false, r.record f e) :=
  ⟨(fun h => by cases h), fun _ => ⟨e, rfl⟩⟩

/-- The request a check hands on: the same one, or one more error for the field. -/
theorem request (h : RecordsOne f r v) : v.2 = r ∨ ∃ e, v.2 = r.record f e := by
  cases hv : v.1
  · exact .inr (h.2 hv)
  · exact .inl (h.1 hv)

/-- Both branches of a test record at most one error, so the test does. -/
theorem ite {c : Prop} [Decidable c] {a b : Bool × Request} (ha : RecordsOne f r a)
    (hb : RecordsOne f r b) : RecordsOne f r (if c then a else b) := by
  split
  · exact ha
  · exact hb

/-- A check that records an error is one that failed. -/
theorem eq_false (h : RecordsOne f r v) {e : FieldError}
    (he : v.2 = r.record f e) : v.1 = false := by
  cases hv : v.1
  · rfl
  · have hlen := congrArg (·.errors.length) ((h.1 hv).symm.trans he)
    simp [Request.record] at hlen

end RecordsOne

variable (fc : FieldCheck) (r : Request)

-- each failing branch is `fc.reject`, which records one error for `fc.field`
theorem records_checkRequired (v : List ValueId) : RecordsOne fc.field.id r (fc.checkRequired r v) :=
  .ite (.fail _ _ _) (.pass _ _)

theorem records_checkTransition (previous : Option (List ValueId)) (ids : List ValueId) :
    RecordsOne fc.field.id r (fc.checkTransition r previous ids) := by
  unfold checkTransition
  split
  · exact .fail _ _ _
  · -- a missing edge, then a transition the actor may not take
    exact .ite (.fail _ _ _) (.ite (.fail _ _ _) (.pass _ _))

theorem records_checkValue (previous : Option (List ValueId)) (v : List ValueId) :
    RecordsOne fc.field.id r (fc.checkValue r previous v) :=
  .ite (.fail _ _ _) (.ite (.fail _ _ _) (.ite (.pass _ _) (fc.records_checkTransition r previous _)))

theorem records_checkRequiredAndValue (previous : Option (List ValueId)) (v : List ValueId) :
    RecordsOne fc.field.id r (fc.checkRequiredAndValue r previous v) := by
  unfold checkRequiredAndValue
  have hreq := fc.records_checkRequired r v
  split
  · -- the required check passed and handed `r` on to the value check
    next r₁ h =>
    rw [h] at hreq
    obtain rfl : r₁ = r := hreq.1 rfl
    exact fc.records_checkValue r₁ previous v
  · exact hreq

theorem records_checkSubmission (previous ids : Option (List ValueId)) (isSubmission : Bool) :
    RecordsOne fc.field.id r (fc.checkSubmission r previous ids isSubmission) := by
  unfold checkSubmission
  simp only
  generalize (if isSubmission = true then r.can .submit fc.field.id
    else r.can .update fc.field.id) = allowed
  split_ifs
  · exact .fail _ _ _
  · exact .fail _ _ _
  · cases ids with
    | none => exact .pass _ _
    | some v => exact fc.records_checkRequiredAndValue r previous v
  · cases ids <;> exact .pass _ _

theorem records_judge (previous ids : Option (List ValueId)) (skip isSubmission : Bool) :
    RecordsOne fc.field.id r (fc.judge r previous ids skip isSubmission) := by
  unfold judge
  split
  · split
    · exact fc.records_checkRequiredAndValue r previous _
    · exact fc.records_checkSubmission r previous _ _
  · exact fc.records_checkSubmission r previous _ _

/-- A required field left without a first value fails with `required` when the actor may fill
it. -/
theorem checkSubmission_required {previous : Option (List ValueId)} {submitted : Option (List ValueId)}
    {isSubmission : Bool} (hprev : previous = none) (hempty : ∀ v, submitted = some v → v = [])
    (hallowed : (if isSubmission then r.can .submit fc.field.id else r.can .update fc.field.id) = true)
    (hreq : fc.field.required = true) :
    fc.checkSubmission r previous submitted isSubmission =
      (false, r.record fc.field.id ⟨.required, fc.requiredMessage⟩) := by
  have hsub : submitted = none ∨ submitted = some [] := by
    rcases submitted with _ | v
    · exact .inl rfl
    · exact .inr (congrArg some (hempty v rfl))
  rcases hsub with rfl | rfl
  all_goals
    unfold checkSubmission
    simp only [hprev, Option.isNone_none, hallowed, hreq, Bool.not_false, Bool.and_self, if_true]
    rfl

/-- A value sent without the access of the phase fails with `permissionDenied`. -/
theorem checkSubmission_denied {previous : Option (List ValueId)} {x : ValueId} {xs : List ValueId}
    {isSubmission : Bool}
    (hdenied : (if isSubmission then r.can .submit fc.field.id else r.can .update fc.field.id) = false) :
    fc.checkSubmission r previous (some (x :: xs)) isSubmission =
      (false, r.record fc.field.id
        ⟨.permissionDenied, "You are not allowed to update the field " ++ fc.field.label ++ "."⟩) := by
  unfold checkSubmission
  simp only [hdenied, Bool.and_false, Bool.false_eq_true, if_false, Bool.not_false, Bool.and_self,
    if_true]
  rfl

end FieldCheck

namespace Store

/-- A report written after the checks passed is never a rejection. -/
theorem reportSaved_ne_rejected {style : HistoryStyle} {cs : Choices} {f : Field}
    {previousIds : List ValueId} {fresh : ChangesetId} {saved : Bool} {t : Tables}
    (es : List FieldError) : (reportSaved style cs f previousIds fresh saved t).outcome ≠ .rejected es := by
  unfold reportSaved
  split
  · simp
  · split
    · split <;> simp
    · simp

/-- A field's report from its verdict: the report `saved` when the value passed, else a
rejection listing the field's errors. When the checks record at most one error, a rejection lists
the errors the field had before with the one its checks recorded. -/
theorem rejected_of_records {r : Request} {g : FieldId} {name : String} {v : Bool × Request}
    {saved : FieldReport} (hv : FieldCheck.RecordsOne g r v) (hsaved : ∀ es, saved.outcome ≠ .rejected es)
    (es : List FieldError)
    (h : (if v.1 then saved else { field := g, name := name, outcome := .rejected (v.2.errorsOf g) }).outcome =
      .rejected es) :
    ∃ e, v.2 = r.record g e ∧ es = r.errorsOf g ++ [e] := by
  cases hpass : v.1
  · obtain ⟨e, he⟩ := hv.2 hpass
    rw [hpass, he] at h
    simp only [Bool.false_eq_true, if_false, Outcome.rejected.injEq] at h
    exact ⟨e, he, h ▸ Request.errorsOf_record_self r g e⟩
  · rw [hpass, if_pos rfl] at h
    exact absurd h (hsaved es)

section Fields

variable {style : HistoryStyle} {entries : List (FieldId × List ValueId)} {bypass : Bool}
  {artifact : ArtifactId} {previous : Option ChangesetId} {fresh : ChangesetId}

/-- **One field's turn** hands on its request with at most one more error, for the field; its
report is rejected only with such an error, listing it after the errors the field had before. -/
theorem recordField_errors {r r' : Request} {g : Field} {s s' : Store} {rep : FieldReport}
    (h : (recordField style entries bypass artifact previous fresh r g).run s = .ok ((rep, r'), s')) :
    (r' = r ∨ ∃ e, r' = r.record g.id e) ∧
      ∀ es, rep.outcome = .rejected es → ∃ e, r' = r.record g.id e ∧ es = r.errorsOf g.id ++ [e] := by
  rw [recordField_run] at h
  simp only [Except.ok.injEq, Prod.mk.injEq] at h
  obtain ⟨⟨rfl, rfl⟩, -⟩ := h
  exact ⟨(FieldCheck.records_judge _ _ _ _ _ _).request,
    rejected_of_records (FieldCheck.records_judge _ _ _ _ _ _) reportSaved_ne_rejected⟩

/-- **The rejections of a run over the fields.** When the fields have distinct ids and the request
starts with no error for any of them, each field that is rejected lists exactly one error. -/
theorem recordFields_rejected_single {r₀ : Request} {fs : List Field} {s₀ sₙ : Store}
    {reps : List FieldReport} (hnd : (fs.map (·.id)).Nodup) (hclean : ∀ g ∈ fs, r₀.errorsOf g.id = [])
    (h : (recordFields style entries bypass artifact previous fresh r₀ fs).run s₀ = .ok (reps, sₙ)) :
    List.Forall₂ (fun (_ : Field) (fr : FieldReport) => ∀ es, fr.outcome = .rejected es → es.length = 1)
      fs reps := by
  induction fs generalizing r₀ s₀ reps with
  | nil =>
    simp only [recordFields, StateT.run_pure, except_pure] at h
    cases h
    exact .nil
  | cons f rest ih =>
    obtain ⟨hf, hnd'⟩ := List.nodup_cons.1 (List.map_cons ▸ hnd)
    simp only [recordFields] at h
    obtain ⟨⟨rep, r₁⟩, s₁, h₁, h⟩ := run_bind_ok h
    obtain ⟨reps', s₂, h₂, h⟩ := run_bind_ok h
    simp only [StateT.run_pure, except_pure] at h
    cases h
    obtain ⟨hr₁, hrej⟩ := recordField_errors h₁
    refine .cons (fun es hes => ?_) (ih hnd' (fun g hg => ?_) h₂)
    · obtain ⟨e, -, rfl⟩ := hrej es hes
      rw [hclean f List.mem_cons_self]
      rfl
    · -- a later field has another id: this turn recorded nothing for it
      have hne : f.id ≠ g.id := fun e => hf (e ▸ List.mem_map_of_mem hg)
      rw [← hclean g (List.mem_cons_of_mem _ hg)]
      rcases hr₁ with rfl | ⟨e, rfl⟩
      · rfl
      · exact Request.errorsOf_record_of_ne _ e hne

end Fields

/-- Rolling a report back turns an update into no change and keeps any other outcome. -/
theorem outcome_discard (f : FieldReport) :
    (if f.outcome == .updated then { f with outcome := .unchanged, change := none } else f).outcome =
      if f.outcome = .updated then .unchanged else f.outcome := by
  by_cases hu : f.outcome = .updated <;> simp [hu]

/-- **Every rejection of a submission lists one error.** In a reachable store, each field starts
with no error and field ids are distinct, so a report a submission answers, kept or rolled back,
is rejected only with the one error its field's checks recorded. -/
theorem submit_rejected_single {style : HistoryStyle} {a : Actor} {artifact : ArtifactId}
    {entries : List (FieldId × List ValueId)} {bypass : Bool} {s s' : Store} {rep : UpdateReport}
    (hs : Reachable s) (h : submit style a artifact entries bypass s = .ok (rep, s')) :
    ∀ fr ∈ rep.fields, ∀ es, fr.outcome = .rejected es → es.length = 1 := by
  obtain ⟨report, s₁, hrec, hend⟩ := submit_run h
  have hsingle := recordFields_rejected_single hs.wellFormed.field_nodup (fun _ _ => rfl)
    (record_run hrec).1
  have hreport : ∀ fr ∈ report.fields, ∀ es, fr.outcome = .rejected es → es.length = 1 := by
    intro fr hfr
    obtain ⟨_, -, hone⟩ := exists_of_forall₂ (List.Forall₂.flip (R := flip _) hsingle) hfr
    exact hone
  split at hend
  · -- rolled back: an update becomes no change, a rejection stays
    obtain ⟨rfl, -⟩ := hend
    intro fr hfr es hes
    simp only [UpdateReport.discarded, List.mem_map] at hfr
    obtain ⟨fr₀, hfr₀, rfl⟩ := hfr
    rw [outcome_discard] at hes
    split at hes
    · cases hes
    · exact hreport fr₀ hfr₀ es hes
  · obtain ⟨rfl, -⟩ := hend
    exact hreport

end Store

/-- **A rejection records one error.** For any field, choices, workflow source, request, previous
value, submitted value and phase, the full check of a submission records exactly one error, for the
checked field, when it fails, and leaves the request untouched when it passes. It fails with
`required` when there is no previous value, nothing non-empty was submitted, the actor has the
access of the phase (submit access on a new artifact, update access afterwards) and the field is
required; with `permissionDenied` when a non-empty value was sent without that access; and when it
passes a non-empty value, the actor has that access, the value is not empty or only `noneId` on a
required field, and the value check passes. Hence, in every reachable store, each rejected report
a submission answers lists exactly one error. -/
theorem rejections_record_one_error :
    (∀ (lookup : WorkflowLookup) (f : Field) (cs : Choices) (r : Request)
        (previous submitted : Option (List ValueId)) (isSubmission : Bool),
      ((∃ e, ((FieldCheck.make f cs lookup).checkSubmission r previous submitted isSubmission).2 =
            r.record f.id e) ↔
          ((FieldCheck.make f cs lookup).checkSubmission r previous submitted isSubmission).1 = false) ∧
        (((FieldCheck.make f cs lookup).checkSubmission r previous submitted isSubmission).1 = true →
          ((FieldCheck.make f cs lookup).checkSubmission r previous submitted isSubmission).2 = r) ∧
        (previous = none → (∀ v, submitted = some v → v = []) →
          (if isSubmission then r.can .submit f.id else r.can .update f.id) = true → f.required = true →
          ∃ e : FieldError, e.kind = .required ∧
            (FieldCheck.make f cs lookup).checkSubmission r previous submitted isSubmission =
              (false, r.record f.id e)) ∧
        (∀ x xs, submitted = some (x :: xs) →
          (if isSubmission then r.can .submit f.id else r.can .update f.id) = false →
          ∃ e : FieldError, e.kind = .permissionDenied ∧
            (FieldCheck.make f cs lookup).checkSubmission r previous submitted isSubmission =
              (false, r.record f.id e)) ∧
        (∀ v, submitted = some v → v ≠ [] →
          ((FieldCheck.make f cs lookup).checkSubmission r previous submitted isSubmission).1 = true →
          (if isSubmission then r.can .submit f.id else r.can .update f.id) = true ∧
            (f.required = true → Selection.isNone v = false) ∧
            ((FieldCheck.make f cs lookup).checkValue r previous v).1 = true)) ∧
    ∀ (style : HistoryStyle) (a : Actor) (artifact : ArtifactId) (entries : List (FieldId × List ValueId))
      (bypass : Bool) (s s' : Store) (rep : UpdateReport), Store.Reachable s →
      Store.submit style a artifact entries bypass s = .ok (rep, s') →
      ∀ fr ∈ rep.fields, ∀ es, fr.outcome = .rejected es → es.length = 1 := by
  refine ⟨fun lookup f cs r previous submitted isSubmission => ?_,
    fun _ _ _ _ _ _ _ _ hs h => Store.submit_rejected_single hs h⟩
  have hrec := (FieldCheck.make f cs lookup).records_checkSubmission r previous submitted isSubmission
  refine ⟨⟨fun ⟨e, he⟩ => hrec.eq_false he, hrec.2⟩, hrec.1, ?_, ?_, ?_⟩
  · intro hprev hempty hallowed hreq
    exact ⟨_, rfl, (FieldCheck.make f cs lookup).checkSubmission_required r hprev hempty hallowed hreq⟩
  · rintro x xs rfl hdenied
    exact ⟨_, rfl, (FieldCheck.make f cs lookup).checkSubmission_denied r hdenied⟩
  · rintro v rfl hne hpass
    -- an empty value is the only one let through without access
    obtain ⟨hallowed, hchecks⟩ := ((FieldCheck.make f cs lookup).checkSubmission_passes hpass).resolve_right
      fun h => hne h.1
    obtain ⟨hreq, hvalue⟩ := (FieldCheck.make f cs lookup).checkRequiredAndValue_passes hchecks
    exact ⟨hallowed, hreq, hvalue⟩

/-- An unknown id sent with submit access is rejected, with one error. -/
theorem unknown_value_rejected_once :
    ∃ s, s = Store.replay [.admin .ensureMembersGroup, .admin (.createUser "alice" none),
        .admin (.createField "status" "Status" .static false false false),
        .admin (.grant 1 1 .submit), .admin (.createArtifact "a" ⟨1, "alice", [1]⟩)] {} ∧
      ∃ rep s', Store.submit {} ⟨1, "alice", [1]⟩ 1 [(1, [999])] false s = .ok (rep, s') ∧
        rep.hasRejections = true ∧ ∀ fr ∈ rep.fields, ∀ es, fr.outcome = .rejected es → es.length = 1 := by
  refine ⟨_, rfl, ?_⟩
  have hreach := Store.Reachable.replay (.migrated true) [.admin .ensureMembersGroup,
    .admin (.createUser "alice" none), .admin (.createField "status" "Status" .static false false false),
    .admin (.grant 1 1 .submit), .admin (.createArtifact "a" ⟨1, "alice", [1]⟩)]
  generalize hs : Store.replay _ _ = s at hreach ⊢
  have hrun : (Store.submit {} ⟨1, "alice", [1]⟩ 1 [(1, [999])] false s).toOption.map
      (·.1.hasRejections) = some true := by
    subst hs
    cbv
  obtain ⟨⟨rep, s'⟩, hsub, hrej⟩ := Store.except_ok_of_toOption_map hrun
  exact ⟨rep, s', hsub, hrej, rejections_record_one_error.2 _ _ _ _ _ _ _ _ hreach hsub⟩

end ListField
