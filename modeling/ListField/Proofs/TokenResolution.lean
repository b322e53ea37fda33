import ListField.Proofs.Catalog
import ListField.Proofs.ChoiceIndex
import ListField.Tool.Commands

/-!
# Resolving value tokens

A token names a choice of a field by the first of: an exact label, "no value" (`none` in any
case, or the none label), a choice id the field has, or a label in any ASCII case
(`Tool.resolveToken`). A comma-separated list resolves token by token (`Tool.resolveTokens`).

* `resolveToken_sound`: whatever the choices, a token resolves to nothing, to `noneId`, or to a
  choice the field has.
* `resolveToken_label`: when a field's labels have no blanks around them and no two are the same,
  each label resolves to its own choice, whatever the other labels look like: the exact label is
  tried first.
* `tokensOf_intercalate`, `resolveTokens_of_tokens`: labels without commas, joined by commas,
  split back into themselves and resolve to their ids in order.

The choices a field loads from a store have such labels when the store was built by its own
writes (`ApiReachable`): an added choice is trimmed and new in its field, and a choice of a user
or group field carries the login or name it shows (`Catalog.LabelsClean`). The raw relabelling of
a choice may break this, and it is left out.

* `tokens_resolve_to_choices`: the whole of it.
-/

namespace ListField

/-! ## Clean labels -/

/-- The labels of the catalog are clean: every choice's label has no blanks around it, no two
choices of a field share one, and a choice that names a user or group carries its login or name. -/
structure Catalog.LabelsClean (c : Catalog) : Prop where
  trimmed : ∀ r ∈ c.choices, Text.trim r.label = r.label
  distinct : c.choices.Pairwise fun a b => a.field = b.field → a.label ≠ b.label
  user : ∀ r ∈ c.choices, ∀ uid, r.user = some uid → ∃ u ∈ c.users, u.id = uid ∧ u.login = r.label
  group : ∀ r ∈ c.choices, ∀ gid, r.group = some gid → ∃ g ∈ c.groups, g.id = gid ∧ g.name = r.label

namespace Catalog.LabelsClean

variable {c c' : Catalog}

theorem empty (lastChoice : Int) : Catalog.LabelsClean ⟨[], [], [], [], 0, 0, lastChoice⟩ where
  trimmed _ h := (List.not_mem_nil h).elim
  distinct := List.Pairwise.nil
  user _ h := (List.not_mem_nil h).elim
  group _ h := (List.not_mem_nil h).elim

/-- **Every step keeps the labels clean**: what `Admits` asks of an added choice is what the
invariant asks of it. -/
theorem step (hc : c.LabelsClean) (h : CatalogStep c c') : c'.LabelsClean := by
  cases h with
  | keep => exact hc
  | addUser u hid =>
    refine { hc with user := fun r hr uid hu => ?_ }
    obtain ⟨x, hx, hxid, hlogin⟩ := hc.user r hr uid hu
    exact ⟨x, List.mem_append_left _ hx, hxid, hlogin⟩
  | addGroup g hid =>
    refine { hc with group := fun r hr gid hg => ?_ }
    obtain ⟨x, hx, hxid, hname⟩ := hc.group r hr gid hg
    exact ⟨x, List.mem_append_left _ hx, hxid, hname⟩
  | addField fld => exact ⟨hc.trimmed, hc.distinct, hc.user, hc.group⟩
  | addChoice r hid hr =>
    refine ⟨?_, ?_, ?_, ?_⟩
    · intro x hx
      rcases List.mem_append.1 hx with hx | hx
      · exact hc.trimmed x hx
      · exact List.mem_singleton.1 hx ▸ hr.trimmed
    · refine List.pairwise_append.2 ⟨hc.distinct, List.pairwise_singleton _ _, fun a ha b hb => ?_⟩
      rw [List.mem_singleton.1 hb]
      exact hr.label a ha
    · intro x hx uid hu
      rcases List.mem_append.1 hx with hx | hx
      · exact hc.user x hx uid hu
      · exact List.mem_singleton.1 hx ▸ hr.user uid (List.mem_singleton.1 hx ▸ hu)
    · intro x hx gid hg
      rcases List.mem_append.1 hx with hx | hx
      · exact hc.group x hx gid hg
      · exact List.mem_singleton.1 hx ▸ hr.group gid (List.mem_singleton.1 hx ▸ hg)
  | deleteChoice v =>
    have hsub : (c.choices.filter (·.id != v)).Sublist c.choices := List.filter_sublist
    exact ⟨fun r hr => hc.trimmed r (hsub.subset hr), hc.distinct.sublist hsub,
      fun r hr => hc.user r (hsub.subset hr), fun r hr => hc.group r (hsub.subset hr)⟩

end Catalog.LabelsClean

namespace Store

/-! ## Stores built by their own writes -/

/-- Whether the write is the raw relabelling of a choice. -/
def AdminWrite.relabels : AdminWrite → Bool
  | .renameChoice .. => true
  | _ => false

/-- The stores a project reaches from a fresh, migrated store through the store's own writes and
submissions: every administration write but the raw relabelling of a choice. -/
inductive ApiReachable : Store → Prop
  | migrated (openWhenUngrouped : Bool) : ApiReachable { openWhenUngrouped }
  | admin {s s' : Store} (w : AdminWrite) : w.relabels = false → ApiReachable s →
      w.run.run s = .ok ((), s') → ApiReachable s'
  | submit {s s' : Store} {style : HistoryStyle} {a : Actor} {artifact : ArtifactId}
      {entries : List (FieldId × List ValueId)} {bypass : Bool} {rep : UpdateReport} :
      ApiReachable s → submit style a artifact entries bypass s = .ok (rep, s') → ApiReachable s'

theorem ApiReachable.reachable {s : Store} (hs : ApiReachable s) : Reachable s := by
  induction hs with
  | migrated b => exact .migrated b
  | admin w _ _ hrun ih => exact .admin w ih hrun
  | submit _ hrun ih => exact .submit ih hrun

/-- Whether the operation is the raw relabelling of a choice. -/
def Op.relabels : Op → Bool
  | .admin w => w.relabels
  | .submit .. => false

theorem ApiReachable.apply {s : Store} (hs : ApiReachable s) {op : Op} (hop : op.relabels = false) :
    ApiReachable (op.apply s) := by
  cases op with
  | admin w =>
    simp only [Op.apply]
    split
    · next hrun => exact .admin w hop hs hrun
    · exact hs
  | submit style a artifact entries bypass =>
    simp only [Op.apply]
    split
    · next hrun => exact .submit hs hrun
    · exact hs

/-- A sequence of operations without raw relabelling, from a store built by its own writes, leaves
one. -/
theorem ApiReachable.replay {s : Store} (hs : ApiReachable s) (ops : List Op)
    (hops : ∀ op ∈ ops, op.relabels = false) : ApiReachable (replay ops s) := by
  induction ops generalizing s with
  | nil => exact hs
  | cons op ops ih =>
    exact ih (hs.apply (hops op List.mem_cons_self)) fun o ho => hops o (List.mem_cons_of_mem _ ho)

/-- **The labels of a store built by its own writes are clean.** -/
theorem ApiReachable.labelsClean {s : Store} (hs : ApiReachable s) : s.tables.catalog.LabelsClean := by
  induction hs with
  | migrated => exact Catalog.LabelsClean.empty _
  | admin w hw _ hrun ih =>
    rcases AdminWrite.catalogStep hrun with hstep | ⟨v, label, rfl, -⟩
    · exact ih.step hstep
    · cases hw
  | submit _ hrun ih => exact submit_catalog hrun ▸ ih

/-! ## The labels a field loads -/

section Loaded

variable {t : Tables}

/-- With clean labels, a choice shows its own label: the login or group name it would show
instead is the label. -/
theorem choiceOf_label (hc : t.catalog.Sound) (hl : t.catalog.LabelsClean) {r : ChoiceRow}
    (hr : r ∈ t.choices) : (choiceOf t r).label = r.label := by
  cases huser : r.user with
  | some uid =>
    obtain ⟨u, hu, rfl, hlogin⟩ := hl.user r hr uid huser
    exact ((choiceOf_user hc hu huser).1).trans hlogin
  | none =>
    cases hgroup : r.group with
    | some gid =>
      obtain ⟨g, hg, rfl, hname⟩ := hl.group r hr gid hgroup
      exact (choiceOf_group hc hg huser hgroup).trans hname
    | none => simp only [choiceOf, huser, hgroup, Option.bind_none]

theorem loadChoices_labels (hc : t.catalog.Sound) (hl : t.catalog.LabelsClean) (f : FieldId) :
    (loadChoices t f).map (·.label) = (t.choices.filter (·.field == f)).map (·.label) := by
  rw [loadChoices_eq_filter hc, List.map_map]
  refine List.map_congr_left fun r hr => ?_
  exact choiceOf_label hc hl (List.mem_of_mem_filter hr)

/-- The labels a field loads have no blanks around them. -/
theorem loadChoices_trimmed (hc : t.catalog.Sound) (hl : t.catalog.LabelsClean) (f : FieldId) :
    ∀ c ∈ loadChoices t f, Text.trim c.label = c.label := by
  intro c hc'
  have hlabel : c.label ∈ (t.choices.filter (·.field == f)).map (·.label) :=
    loadChoices_labels hc hl f ▸ List.mem_map_of_mem hc'
  obtain ⟨r, hr, hrl⟩ := List.mem_map.1 hlabel
  exact hrl ▸ hl.trimmed r (List.mem_of_mem_filter hr)

/-- No two choices a field loads share a label. -/
theorem loadChoices_labels_nodup (hc : t.catalog.Sound) (hl : t.catalog.LabelsClean) (f : FieldId) :
    ((loadChoices t f).map (·.label)).Nodup := by
  rw [loadChoices_labels hc hl f]
  exact List.pairwise_map.2 (pairwise_filter_field hl.distinct f)

end Loaded

end Store

/-! ## Resolving tokens -/

theorem Choices.contains_of_mem {cs : Choices} {c : Choice} (hc : c ∈ cs.values) :
    cs.contains c.id = true := by
  rw [Choices.contains_eq_any]
  exact List.any_eq_true.2 ⟨c, hc, beq_self_eq_true _⟩

namespace Tool

/-- A choice found among the values, by id, is one the field contains. -/
theorem found_contained (cs : Choices) (p : Choice → Bool) :
    (cs.values.find? p).map (·.id) = none ∨
      ∃ id, (cs.values.find? p).map (·.id) = some id ∧ cs.contains id = true := by
  cases h : cs.values.find? p with
  | none => exact .inl rfl
  | some c => exact .inr ⟨c.id, rfl, Choices.contains_of_mem (List.mem_of_find?_eq_some h)⟩

/-- **A token resolves to nothing, to `noneId`, or to a choice the field has.** -/
theorem resolveToken_sound (cs : Choices) (token : String) :
    resolveToken cs token = none ∨ resolveToken cs token = some noneId ∨
      ∃ id, resolveToken cs token = some id ∧ cs.contains id = true := by
  -- the fallback that compares labels in any case finds a choice or nothing
  have hany := found_contained cs fun c => Text.eqIgnoreAsciiCase c.label (Text.trim token)
  unfold resolveToken
  dsimp only
  split
  · next c hc =>
    exact .inr (.inr ⟨c.id, rfl, Choices.contains_of_mem (List.mem_of_find?_eq_some hc)⟩)
  · split
    · exact .inr (.inl rfl)
    · split
      · split
        · next id _ hid => exact .inr (.inr ⟨id, rfl, hid⟩)
        · exact hany.imp_right .inr
      · exact hany.imp_right .inr

/-- **Each clean label resolves to its own choice**: the exact label is tried before "no value",
ids and other cases, and no other choice has it. -/
theorem resolveToken_label {cs : Choices} (hlabels : (cs.values.map (·.label)).Nodup) {c : Choice}
    (hc : c ∈ cs.values) (htrim : Text.trim c.label = c.label) : resolveToken cs c.label = some c.id := by
  have hfind : cs.byLabel c.label = some c := Store.find?_key_eq hlabels hc
  simp only [resolveToken, htrim, hfind]

example :
    let cs : Choices := { field := 1, source := .static,
                          values := [{ id := 101, label := "none" }, { id := 102, label := "101" }] }
    ["none", "NONE", "101"].map (resolveToken cs) = [some 101, some noneId, some 102] := by
  cbv

/-- Labels without commas or blanks around them, joined by commas, split back into themselves. -/
theorem tokensOf_intercalate {labels : List String}
    (h : ∀ l ∈ labels, l ≠ "" ∧ ',' ∉ l.toList ∧ Text.trim l = l) :
    tokensOf (",".intercalate labels) = labels := by
  cases labels with
  | nil => rfl
  | cons l ls =>
    have hsplit : (",".intercalate (l :: ls)).toList.splitOn ',' = (l :: ls).map String.toList := by
      rw [String.toList_intercalate]
      exact List.splitOn_intercalate ',' (fun x hx => by
        obtain ⟨y, hy, rfl⟩ := List.mem_map.1 hx
        exact (h y hy).2.1) (by simp)
    have htrimmed : ((l :: ls).map String.toList).map (fun t => Text.trim (String.ofList t)) = l :: ls := by
      rw [List.map_map]
      refine (List.map_congr_left fun x hx => ?_).trans (List.map_id _)
      simpa only [Function.comp_apply, String.ofList_toList, id_eq] using (h x hx).2.2
    unfold tokensOf
    rw [hsplit, htrimmed, List.filter_eq_self]
    intro x hx
    simpa only [Bool.not_eq_eq_eq_not, Bool.not_true, String.isEmpty_eq_false_iff] using (h x hx).1

/-- Tokens that each name a choice resolve to the choices' ids, in order. -/
theorem resolveTokens_of_tokens {cs : Choices} {f : Field} {tokens : String} {vs : List Choice}
    (htokens : tokensOf tokens = vs.map (·.label))
    (h : ∀ c ∈ vs, resolveToken cs c.label = some c.id) :
    resolveTokens cs f tokens = pure (vs.map (·.id)) := by
  unfold resolveTokens
  rw [htokens]
  clear htokens
  induction vs with
  | nil => rfl
  | cons c vs ih =>
    simp only [List.map_cons, List.mapM_cons, h c List.mem_cons_self, pure_bind,
      ih fun x hx => h x (List.mem_cons_of_mem _ hx)]

/-! ## The tokens of a store's field -/

/-- **Value tokens resolve soundly, and every label to its own choice.** For the choices a field
loads from a store built by its own writes, whatever the none label: every token resolves to
nothing, to `noneId`, or to a choice of the field; every choice's label resolves to that choice,
however the other labels, the none label, labels that read as ids or differ only in case look;
and labels without commas, joined by commas, resolve to their choices' ids in order. -/
theorem tokens_resolve_to_choices {s : Store} (hs : Store.ApiReachable s) (fld : Field)
    (noneLabel : String) :
    (∀ token, resolveToken (s.choicesOf fld noneLabel) token = none ∨
      resolveToken (s.choicesOf fld noneLabel) token = some noneId ∨
      ∃ id, resolveToken (s.choicesOf fld noneLabel) token = some id ∧
        (s.choicesOf fld noneLabel).contains id = true) ∧
    (∀ c ∈ (s.choicesOf fld noneLabel).values,
      resolveToken (s.choicesOf fld noneLabel) c.label = some c.id) ∧
    (∀ vs : List Choice,
      (∀ c ∈ vs, c ∈ (s.choicesOf fld noneLabel).values ∧ c.label ≠ "" ∧ ',' ∉ c.label.toList) →
      resolveTokens (s.choicesOf fld noneLabel) fld (",".intercalate (vs.map (·.label))) =
        pure (vs.map (·.id))) := by
  have hc := hs.reachable.catalogSound
  have hl := hs.labelsClean
  -- the loaded labels are the clean labels of the field's rows
  have hnodup : ((s.choicesOf fld noneLabel).values.map (·.label)).Nodup :=
    Store.loadChoices_labels_nodup hc hl fld.id
  have htrim : ∀ c ∈ (s.choicesOf fld noneLabel).values, Text.trim c.label = c.label :=
    Store.loadChoices_trimmed hc hl fld.id
  have hlabel : ∀ c ∈ (s.choicesOf fld noneLabel).values,
      resolveToken (s.choicesOf fld noneLabel) c.label = some c.id :=
    fun c hc' => resolveToken_label hnodup hc' (htrim c hc')
  refine ⟨resolveToken_sound _, hlabel, fun vs hvs => ?_⟩
  refine resolveTokens_of_tokens (tokensOf_intercalate fun l hl' => ?_) fun c hc' => hlabel c (hvs c hc').1
  obtain ⟨c, hc', rfl⟩ := List.mem_map.1 hl'
  obtain ⟨hmem, hne, hcomma⟩ := hvs c hc'
  exact ⟨hne, hcomma, htrim c hmem⟩

/-- A static field whose labels read as "none", as an id, and in another case than a token. -/
theorem tokens_resolve_in_tricky_field :
    let s := Store.replay [.admin (.createField "status" "Status" .static false false false),
      .admin (.addChoice 1 { label := "none" }), .admin (.addChoice 1 { label := "101" }),
      .admin (.addChoice 1 { label := "Later" })] {}
    let fld : Field := { id := 1, name := "status", label := "Status", source := .static }
    Store.ApiReachable s ∧
    (∀ token, resolveToken (s.choicesOf fld "None") token = none ∨
      resolveToken (s.choicesOf fld "None") token = some noneId ∨
      ∃ id, resolveToken (s.choicesOf fld "None") token = some id ∧
        (s.choicesOf fld "None").contains id = true) ∧
    (∀ c ∈ (s.choicesOf fld "None").values,
      resolveToken (s.choicesOf fld "None") c.label = some c.id) ∧
    (∀ vs : List Choice,
      (∀ c ∈ vs, c ∈ (s.choicesOf fld "None").values ∧ c.label ≠ "" ∧ ',' ∉ c.label.toList) →
      resolveTokens (s.choicesOf fld "None") fld (",".intercalate (vs.map (·.label))) =
        pure (vs.map (·.id))) := by
  intro s fld
  have hs : Store.ApiReachable s := Store.ApiReachable.replay (.migrated true) _ (by decide)
  exact ⟨hs, tokens_resolve_to_choices hs fld "None"⟩

end Tool

end ListField
