import Mathlib.Data.List.Perm.Subperm
import ListField.Proofs.Reachable

/-!
# The choice ids of a reachable store

Choices are numbered by a counter of their own, shared by all fields, that starts at `noneId`; a
new choice takes the next id and goes at the end, deleting a choice removes it, and renaming one
keeps its id. So in every reachable store the choices have distinct ids, all above `noneId`
(`Tables.ChoicesNumbered`).

* By its frame (`Keeps`), every administration write but adding, deleting and renaming a choice
  keeps the choice ids and their counter (`Tables.choiceIds`).
* `addChoice_choiceIds`, `deleteChoice_choiceIds`, `renameChoice_choiceIds`: what those three do to
  them.
* `Reachable.choicesNumbered`: the invariant over every reachable store.
* `defaultsOf_nodup`, `none_not_mem_defaultsOf`: the ids of a field's default choices, read in the
  configured order, are distinct and never `noneId`.
-/

namespace ListField

/-- The ids of the choices, with the last id their counter handed out. -/
def Tables.choiceIds (t : Tables) : List ValueId × Int := (t.choices.map (·.id), t.last.choices)

/-- The choices are numbered by their counter: distinct ids, each above `noneId` and at most the
counter, which never goes below `noneId`. -/
structure Tables.ChoicesNumbered (t : Tables) : Prop where
  nodup : (t.choices.map (·.id)).Nodup
  above : ∀ x ∈ t.choices.map (·.id), noneId < x
  le_last : ∀ x ∈ t.choices.map (·.id), x ≤ t.last.choices
  base : noneId ≤ t.last.choices

namespace Tables.ChoicesNumbered

variable {t t' : Tables}

theorem of_choiceIds_eq (ho : t.ChoicesNumbered) (h : t'.choiceIds = t.choiceIds) : t'.ChoicesNumbered := by
  obtain ⟨hids, hlast⟩ := Prod.mk.inj h
  exact ⟨hids ▸ ho.nodup, hids ▸ ho.above, hids ▸ hlast ▸ ho.le_last, hlast ▸ ho.base⟩

/-- A choice added at the end with the next id of the counter keeps the numbering. -/
theorem append (ho : t.ChoicesNumbered)
    (hids : t'.choices.map (·.id) = t.choices.map (·.id) ++ [t.last.choices + 1])
    (hlast : t'.last.choices = t.last.choices + 1) : t'.ChoicesNumbered where
  nodup := by
    rw [hids, List.nodup_append]
    refine ⟨ho.nodup, List.nodup_singleton _, fun x hx y hy => ?_⟩
    rw [List.mem_singleton.1 hy]
    exact Int.ne_of_lt (Int.lt_add_one_iff.2 (ho.le_last x hx))
  above x hx := by
    rw [hids, List.mem_append, List.mem_singleton] at hx
    rcases hx with hx | rfl
    · exact ho.above x hx
    · exact Int.lt_add_one_iff.2 ho.base
  le_last x hx := by
    rw [hids, List.mem_append, List.mem_singleton] at hx
    rcases hx with hx | rfl
    · exact hlast ▸ Int.le_add_one (ho.le_last x hx)
    · exact Int.le_of_eq hlast.symm
  base := hlast ▸ Int.le_add_one ho.base

/-- Removing choices keeps the numbering. -/
theorem sublist (ho : t.ChoicesNumbered) (hids : (t'.choices.map (·.id)).Sublist (t.choices.map (·.id)))
    (hlast : t'.last.choices = t.last.choices) : t'.ChoicesNumbered where
  nodup := ho.nodup.sublist hids
  above x hx := ho.above x (hids.subset hx)
  le_last x hx := hlast ▸ ho.le_last x (hids.subset hx)
  base := hlast ▸ ho.base

end Tables.ChoicesNumbered

namespace Store

open Keeps

/-- Adding a choice appends one with the next id of the counter. -/
theorem addChoice_choiceIds {f : FieldId} {new : NewChoice} {v : ValueId} {s s' : Store}
    (h : (addChoice f new).run s = .ok (v, s')) :
    s'.tables.choices.map (·.id) = s.tables.choices.map (·.id) ++ [s.tables.last.choices + 1] ∧
      s'.tables.last.choices = s.tables.last.choices + 1 := by
  simp only [addChoice] at h
  obtain ⟨fld, s₁, hfld, h⟩ := run_bind_ok h
  have e₁ : s₁.tables = s.tables := keeps_field (v := id) f s fld s₁ hfld
  -- the user or group a choice of a people field names is looked up, which writes nothing
  split at h
  all_goals
    obtain ⟨who, s₂, hwho, h⟩ := run_bind_ok h
    have e₂ : s₂.tables = s₁.tables := by
      first
        | exact pure' (v := id) _ s₁ _ s₂ hwho
        | exact keeps_actor (v := id) _ s₁ _ s₂ hwho
        | exact keeps_groupByName (v := id) _ s₁ _ s₂ hwho
    simp only [pure_bind, transaction] at h
    obtain ⟨s₃, _, hget, h⟩ := run_bind_ok h
    cases hget
    split at h
    swap
    · cases h
    obtain ⟨t, _, ht, h⟩ := run_bind_ok h
    rw [current_run] at ht
    cases ht
    -- a label the field already has is refused; otherwise the row is appended
    split at h
    · obtain ⟨_, _, hthrow, -⟩ := run_bind_ok h
      cases hthrow
    · obtain ⟨_, _, hc, h⟩ := run_bind_ok h
      rw [change_run] at hc
      cases hc
      cases h
      constructor
      · simp only [List.map_append, List.map_singleton, e₂, e₁]
      · simp only [e₂, e₁]

/-- Deleting a choice removes choices and leaves their counter alone. -/
theorem deleteChoice_choiceIds {v : ValueId} {n : Nat} {s s' : Store}
    (h : (deleteChoice v).run s = .ok (n, s')) :
    (s'.tables.choices.map (·.id)).Sublist (s.tables.choices.map (·.id)) ∧
      s'.tables.last.choices = s.tables.last.choices := by
  simp only [deleteChoice] at h
  obtain ⟨t, s₁, ht, h⟩ := run_bind_ok h
  rw [current_run] at ht
  cases ht
  obtain ⟨_, s₂, hc, h⟩ := run_bind_ok h
  rw [change_run] at hc
  cases hc
  cases h
  exact ⟨List.filter_sublist.map _, rfl⟩

/-- Renaming a choice keeps every id and the counter. -/
theorem renameChoice_choiceIds {v : ValueId} {label : String} {n : Nat} {s s' : Store}
    (h : (renameChoice v label).run s = .ok (n, s')) : s'.tables.choiceIds = s.tables.choiceIds := by
  simp only [renameChoice] at h
  obtain ⟨t, s₁, ht, h⟩ := run_bind_ok h
  rw [current_run] at ht
  cases ht
  split at h
  · cases h
    rfl
  · -- a label taken in the field is refused; otherwise labels change, ids stay
    split at h
    · obtain ⟨_, _, hthrow, -⟩ := run_bind_ok h
      cases hthrow
    · obtain ⟨_, _, hc, h⟩ := run_bind_ok h
      rw [change_run] at hc
      cases hc
      cases h
      have hmap : (s.tables.choices.map fun c => if c.id == v then { c with label } else c).map (·.id) =
          s.tables.choices.map (·.id) := by
        rw [List.map_map]
        refine List.map_congr_left fun c _ => ?_
        simp only [Function.comp_apply]
        split <;> rfl
      exact Prod.ext hmap rfl

/-- Every administration write keeps the choices numbered. -/
theorem AdminWrite.choicesNumbered {w : AdminWrite} {s s' : Store} (h : w.run.run s = .ok ((), s'))
    (ho : s.tables.ChoicesNumbered) : s'.tables.ChoicesNumbered := by
  cases w with
  | addChoice f new =>
    obtain ⟨v, s₁, h₁, h⟩ := run_bind_ok h
    cases h
    obtain ⟨hids, hlast⟩ := addChoice_choiceIds h₁
    exact ho.append hids hlast
  | deleteChoice v =>
    obtain ⟨n, s₁, h₁, h⟩ := run_bind_ok h
    cases h
    obtain ⟨hids, hlast⟩ := deleteChoice_choiceIds h₁
    exact ho.sublist hids hlast
  | renameChoice v label =>
    obtain ⟨n, s₁, h₁, h⟩ := run_bind_ok h
    cases h
    exact ho.of_choiceIds_eq (renameChoice_choiceIds h₁)
  -- every other write keeps the choices and their counter
  | ensureMembersGroup =>
    exact ho.of_choiceIds_eq ((bind' (keeps_ensureMembersGroup (v := Tables.choiceIds)
      fun _ _ _ => rfl) fun _ => pure' _) s () s' h)
  | createUser login realName =>
    exact ho.of_choiceIds_eq ((bind' (keeps_createUser (v := Tables.choiceIds) (fun _ _ _ _ => rfl)
      login realName) fun _ => pure' _) s () s' h)
  | createGroup name =>
    exact ho.of_choiceIds_eq ((bind' (keeps_createGroup (v := Tables.choiceIds) (fun _ _ _ => rfl)
      name) fun _ => pure' _) s () s' h)
  | addMember g u =>
    exact ho.of_choiceIds_eq ((bind' (keeps_addMember (v := Tables.choiceIds) (fun _ _ => rfl) g u)
      fun _ => pure' _) s () s' h)
  | createField name label source required multiple readOnly =>
    exact ho.of_choiceIds_eq ((bind' (keeps_createField (v := Tables.choiceIds) (fun _ _ _ => rfl)
      name label source required multiple readOnly) fun _ => pure' _) s () s' h)
  | grant f g access =>
    exact ho.of_choiceIds_eq ((bind' (keeps_grant (v := Tables.choiceIds) (fun _ _ => rfl) f g
      access) fun _ => pure' _) s () s' h)
  | setWorkflow f enabled =>
    exact ho.of_choiceIds_eq ((bind' (keeps_setWorkflow (v := Tables.choiceIds) (fun _ _ => rfl) f
      enabled) fun _ => pure' _) s () s' h)
  | addTransition f source target groups =>
    exact ho.of_choiceIds_eq ((bind' (keeps_addTransition (v := Tables.choiceIds) (fun _ _ => rfl)
      (fun _ _ _ => rfl) (fun _ _ => rfl) f source target groups) fun _ => pure' _) s () s' h)
  | createArtifact title author =>
    exact ho.of_choiceIds_eq ((bind' (keeps_createArtifact (v := Tables.choiceIds)
      (fun _ _ _ => rfl) title author) fun _ => pure' _) s () s' h)

/-- A submission leaves the choices and their counter alone: it adds a changeset and rows, or
nothing. -/
theorem submit_choiceIds {style : HistoryStyle} {a : Actor} {artifact : ArtifactId}
    {entries : List (FieldId × List ValueId)} {bypass : Bool} {s s' : Store} {rep : UpdateReport}
    (h : submit style a artifact entries bypass s = .ok (rep, s')) :
    s'.tables.choiceIds = s.tables.choiceIds := by
  cases hc : rep.changeset with
  | none => rw [(submit_discarded h hc).1]
  | some c =>
    obtain ⟨-, -, -, new, n, -, rfl⟩ := submit_committed h hc
    rfl

/-- **The choices of a reachable store are numbered by their counter**: distinct ids, all above
`noneId`. -/
theorem Reachable.choicesNumbered {s : Store} (hs : Reachable s) : s.tables.ChoicesNumbered := by
  induction hs with
  | migrated => exact ⟨List.nodup_nil, fun _ h => (List.not_mem_nil h).elim,
      fun _ h => (List.not_mem_nil h).elim, Int.le_refl _⟩
  | admin _ _ hrun ih => exact AdminWrite.choicesNumbered hrun ih
  | submit _ hrun ih => exact ih.of_choiceIds_eq (submit_choiceIds hrun)

/-! ## Default choices -/

/-- The ids of field `g`'s default choices, in the configured order. -/
def defaultsOf (s : Store) (style : HistoryStyle) (g : Field) : List ValueId :=
  (s.choicesOf g style.noneLabel).defaults.map (·.id)

/-- A field's default ids are among the ids of the choice table, each at most as often: they are
read from the field's rows of the table, sorted, and filtered. -/
theorem defaultsOf_subperm (s : Store) (style : HistoryStyle) (g : Field) :
    (s.defaultsOf style g).Subperm (s.tables.choices.map (·.id)) := by
  unfold defaultsOf choicesOf Choices.defaults loadChoices
  generalize hF : s.tables.choices.filter (·.field == g.id) = F
  have hshown : ((F.mergeSort choiceBefore).map (choiceOf s.tables)).map (·.id) =
      (F.mergeSort choiceBefore).map (·.id) := by
    rw [List.map_map]
    rfl
  have hdefaults := (List.filter_sublist (p := (·.isDefault))
    (l := (F.mergeSort choiceBefore).map (choiceOf s.tables))).map (·.id)
  rw [hshown] at hdefaults
  have hfield : (F.map (·.id)).Sublist (s.tables.choices.map (·.id)) := hF ▸ List.filter_sublist.map _
  exact hdefaults.subperm.trans (((List.mergeSort_perm F _).map _).subperm.trans hfield.subperm)

variable {s : Store} (style : HistoryStyle) (g : Field)

theorem defaultsOf_nodup (ho : s.tables.ChoicesNumbered) : (s.defaultsOf style g).Nodup := by
  obtain ⟨l, hperm, hsub⟩ := defaultsOf_subperm s style g
  exact hperm.nodup_iff.1 (ho.nodup.sublist hsub)

theorem none_not_mem_defaultsOf (ho : s.tables.ChoicesNumbered) : noneId ∉ s.defaultsOf style g :=
  fun h => Int.lt_irrefl _ (ho.above _ ((defaultsOf_subperm s style g).subset h))

end Store
end ListField
