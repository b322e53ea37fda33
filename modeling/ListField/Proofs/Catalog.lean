import Mathlib.Data.List.Nodup
import Mathlib.Data.List.DropRight
import Mathlib.Data.List.TakeWhile
import ListField.Proofs.ChoiceIds
import ListField.Proofs.EdgeWrites

/-!
# The catalog of choices: what they refer to, and their order

A field's choices are read from four tables, the `Catalog`: the users and groups a choice of a
people field names, the fields, and the choices. The administration writes change it in few ways
(`CatalogStep`): a user, a group, a field or a choice is added at the end, numbered by its counter;
a choice is deleted, or relabelled in place. Every invariant of the catalog is proved once per
kind of step, and the writes are read as steps once (`AdminWrite.catalogStep`).

* `Catalog.Sound`: users and groups are numbered by their counters; every choice names its field,
  and the user or the group its field's source asks for, and they exist; choice ids increase along
  the table, and so do the ranks of the choices of one field. `Reachable.catalogSound`: every
  reachable store keeps it.
* `loadChoices_eq_filter`: so the choices of a field, read in rank and id order, are its rows in
  the order they were added.
* `addChoice_refused`: adding a choice to a missing field, naming a missing user or group, or with
  a label the field already has, fails, and the store stays as it was (`Catalog.Refuses`).
* `choices_in_creation_order`: the whole of it.
-/

namespace ListField

/-! ## Blanks -/

namespace Text

/-- Cutting the blanks off the end of a text keeps its start. -/
theorem dropTrailing_prefix (l : List Char) : (l.reverse.dropWhile isBlank).reverse <+: l := by
  simpa only [List.reverse_reverse] using
    List.reverse_prefix.mpr (List.dropWhile_suffix isBlank (l := l.reverse))

/-- A text without leading blanks keeps none once its trailing blanks are cut off: what is left
starts where the text starts. -/
theorem dropWhile_dropTrailing {l : List Char} (hl : l.dropWhile isBlank = l) :
    ((l.reverse.dropWhile isBlank).reverse).dropWhile isBlank =
      (l.reverse.dropWhile isBlank).reverse := by
  have hpre := dropTrailing_prefix l
  rw [List.dropWhile_eq_self_iff] at hl ⊢
  intro hpos
  rw [hpre.getElem hpos]
  exact hl (Nat.lt_of_lt_of_le hpos hpre.length_le)

theorem trimChars_trimChars (l : List Char) : trimChars (trimChars l) = trimChars l := by
  unfold trimChars
  rw [dropWhile_dropTrailing (List.dropWhile_idempotent isBlank l), List.reverse_reverse,
    List.dropWhile_idempotent]

theorem trim_trim (s : String) : trim (trim s) = trim s := by
  simp only [trim, String.toList_ofList, trimChars_trimChars]

end Text

/-! ## The catalog -/

/-- The tables a field's choices are read from: users, groups, fields and choices, with the
counters of users, groups and choices. -/
structure Catalog where
  users : List UserRow
  groups : List GroupRow
  fields : List Field
  choices : List ChoiceRow
  lastUser : Int
  lastGroup : Int
  lastChoice : Int

/-- The catalog of the tables. -/
def Tables.catalog (t : Tables) : Catalog :=
  ⟨t.users, t.groups, t.fields, t.choices, t.last.users, t.last.groups, t.last.choices⟩

/-- Whom a choice names, by the source of its field: a static choice names no one, a choice of a
user field a user, a choice of a group field a group. -/
def Source.Refers : Source → Option UserId → Option GroupId → Prop
  | .static, user, group => user = none ∧ group = none
  | .users, user, group => user.isSome ∧ group = none
  | .groups, user, group => user = none ∧ group.isSome

/-- What the catalog tells about a new choice row `r` before it is added: its field exists and
its source fits the row, the user or group it names exists under the row's label, its rank is
above those of the field's choices and its label is none of theirs, and the label has no blanks
around it. -/
structure Catalog.Admits (c : Catalog) (r : ChoiceRow) : Prop where
  field : ∃ fld ∈ c.fields, fld.id = r.field ∧ fld.source.Refers r.user r.group
  user : ∀ uid, r.user = some uid → ∃ u ∈ c.users, u.id = uid ∧ u.login = r.label
  group : ∀ gid, r.group = some gid → ∃ g ∈ c.groups, g.id = gid ∧ g.name = r.label
  rank : ∀ x ∈ c.choices, x.field = r.field → x.rank < r.rank
  label : ∀ x ∈ c.choices, x.field = r.field → x.label ≠ r.label
  trimmed : Text.trim r.label = r.label

/-- Why the catalog refuses a new choice of field `f` labelled `label`, the label compared with
its blanks cut off. -/
inductive Catalog.Refuses (c : Catalog) (f : FieldId) (label : String) : Prop
  /-- There is no such field. -/
  | noField : (∀ fld ∈ c.fields, fld.id ≠ f) → c.Refuses f label
  /-- It is a user field, and no user has the label as login. -/
  | noUser (fld : Field) : fld ∈ c.fields → fld.id = f → fld.source = .users →
      (∀ u ∈ c.users, u.login ≠ Text.trim label) → c.Refuses f label
  /-- It is a group field, and no group has the label as name. -/
  | noGroup (fld : Field) : fld ∈ c.fields → fld.id = f → fld.source = .groups →
      (∀ g ∈ c.groups, g.name ≠ Text.trim label) → c.Refuses f label
  /-- The field has a choice with the label. -/
  | taken (x : ChoiceRow) : x ∈ c.choices → x.field = f → x.label = Text.trim label → c.Refuses f label

/-- What one administration write can do to the catalog. -/
inductive CatalogStep (c : Catalog) : Catalog → Prop
  | keep : CatalogStep c c
  | addUser (u : UserRow) (hid : u.id = c.lastUser + 1) :
      CatalogStep c { c with users := c.users ++ [u], lastUser := u.id }
  | addGroup (g : GroupRow) (hid : g.id = c.lastGroup + 1) :
      CatalogStep c { c with groups := c.groups ++ [g], lastGroup := g.id }
  | addField (fld : Field) : CatalogStep c { c with fields := c.fields ++ [fld] }
  | addChoice (r : ChoiceRow) (hid : r.id = c.lastChoice + 1) (hr : c.Admits r) :
      CatalogStep c { c with choices := c.choices ++ [r], lastChoice := r.id }
  | deleteChoice (v : ValueId) : CatalogStep c { c with choices := c.choices.filter (·.id != v) }

/-- The catalog with choice `v` relabelled `label`, as it is: the raw edit of a label, which no
check of an added choice applies to. -/
def Catalog.relabel (c : Catalog) (v : ValueId) (label : String) : Catalog :=
  { c with choices := c.choices.map fun x => if x.id == v then { x with label } else x }

/-! ## Sound catalogs -/

/-- Ids handed out by a counter, in the order they were handed out: increasing, and none above
the counter's last. -/
structure Numbered (ids : List Int) (last : Int) : Prop where
  increasing : ids.Pairwise (· < ·)
  le_last : ∀ x ∈ ids, x ≤ last

namespace Numbered

variable {ids ids' : List Int} {last : Int}

theorem nil : Numbered [] last := ⟨List.Pairwise.nil, fun _ h => (List.not_mem_nil h).elim⟩

/-- Handing out the next id keeps the ids numbered. -/
theorem append (h : Numbered ids last) {x : Int} (hx : x = last + 1) : Numbered (ids ++ [x]) x where
  increasing := by
    refine List.pairwise_append.2 ⟨h.increasing, List.pairwise_singleton _ _, fun a ha b hb => ?_⟩
    rw [List.mem_singleton.1 hb, hx]
    exact Int.lt_add_one_iff.2 (h.le_last a ha)
  le_last a ha := by
    rcases List.mem_append.1 ha with ha | ha
    · exact hx ▸ Int.le_add_one (h.le_last a ha)
    · exact Int.le_of_eq (List.mem_singleton.1 ha)

theorem sublist (h : Numbered ids last) (hs : ids'.Sublist ids) : Numbered ids' last :=
  ⟨h.increasing.sublist hs, fun x hx => h.le_last x (hs.subset hx)⟩

theorem nodup (h : Numbered ids last) : ids.Nodup := h.increasing.imp Int.ne_of_lt

end Numbered

/-- A sound catalog. Users, groups and choices are numbered by their counters, in the order they
were added. Every choice names its field, and the user or group that field's source asks for,
and these exist. The ranks of a field's choices increase along the table. -/
structure Catalog.Sound (c : Catalog) : Prop where
  users : Numbered (c.users.map (·.id)) c.lastUser
  groups : Numbered (c.groups.map (·.id)) c.lastGroup
  choices : Numbered (c.choices.map (·.id)) c.lastChoice
  field : ∀ r ∈ c.choices, ∃ fld ∈ c.fields, fld.id = r.field ∧ fld.source.Refers r.user r.group
  user : ∀ r ∈ c.choices, ∀ uid, r.user = some uid → ∃ u ∈ c.users, u.id = uid
  group : ∀ r ∈ c.choices, ∀ gid, r.group = some gid → ∃ g ∈ c.groups, g.id = gid
  ranks : c.choices.Pairwise fun a b => a.field = b.field → a.rank < b.rank

/-- Relabelling choices keeps their ids, fields, ranks and whom they name. -/
theorem relabel_fields (v : ValueId) (label : String) (x : ChoiceRow) :
    let y := if x.id == v then { x with label } else x
    y.id = x.id ∧ y.field = x.field ∧ y.rank = x.rank ∧ y.user = x.user ∧ y.group = x.group := by
  dsimp only
  split <;> exact ⟨rfl, rfl, rfl, rfl, rfl⟩

namespace Catalog.Sound

variable {c c' : Catalog}

theorem empty (lastChoice : Int) : Catalog.Sound ⟨[], [], [], [], 0, 0, lastChoice⟩ where
  users := Numbered.nil
  groups := Numbered.nil
  choices := Numbered.nil
  field _ h := (List.not_mem_nil h).elim
  user _ h := (List.not_mem_nil h).elim
  group _ h := (List.not_mem_nil h).elim
  ranks := List.Pairwise.nil

/-- **Every step keeps the catalog sound.** -/
theorem step (hc : c.Sound) (h : CatalogStep c c') : c'.Sound := by
  cases h with
  | keep => exact hc
  | addUser u hid =>
    refine { hc with users := ?_, user := fun r hr uid hu => ?_ }
    · simpa only [List.map_append, List.map_singleton] using hc.users.append hid
    · obtain ⟨x, hx, hxid⟩ := hc.user r hr uid hu
      exact ⟨x, List.mem_append_left _ hx, hxid⟩
  | addGroup g hid =>
    refine { hc with groups := ?_, group := fun r hr gid hg => ?_ }
    · simpa only [List.map_append, List.map_singleton] using hc.groups.append hid
    · obtain ⟨x, hx, hxid⟩ := hc.group r hr gid hg
      exact ⟨x, List.mem_append_left _ hx, hxid⟩
  | addField fld =>
    refine { hc with field := fun r hr => ?_ }
    obtain ⟨x, hx, hxid, hrefers⟩ := hc.field r hr
    exact ⟨x, List.mem_append_left _ hx, hxid, hrefers⟩
  | addChoice r hid hr =>
    refine { hc with choices := ?_, field := ?_, user := ?_, group := ?_, ranks := ?_ }
    · simpa only [List.map_append, List.map_singleton] using hc.choices.append hid
    · intro x hx
      rcases List.mem_append.1 hx with hx | hx
      · exact hc.field x hx
      · exact List.mem_singleton.1 hx ▸ hr.field
    · intro x hx uid hu
      rcases List.mem_append.1 hx with hx | hx
      · exact hc.user x hx uid hu
      · obtain ⟨u, hu, huid, -⟩ := hr.user uid (List.mem_singleton.1 hx ▸ hu)
        exact ⟨u, hu, huid⟩
    · intro x hx gid hg
      rcases List.mem_append.1 hx with hx | hx
      · exact hc.group x hx gid hg
      · obtain ⟨g, hg, hgid, -⟩ := hr.group gid (List.mem_singleton.1 hx ▸ hg)
        exact ⟨g, hg, hgid⟩
    · refine List.pairwise_append.2 ⟨hc.ranks, List.pairwise_singleton _ _, fun a ha b hb => ?_⟩
      rw [List.mem_singleton.1 hb]
      exact hr.rank a ha
  | deleteChoice v =>
    have hsub : (c.choices.filter (·.id != v)).Sublist c.choices := List.filter_sublist
    exact { hc with
      choices := hc.choices.sublist (hsub.map _)
      field := fun r hr => hc.field r (hsub.subset hr)
      user := fun r hr => hc.user r (hsub.subset hr)
      group := fun r hr => hc.group r (hsub.subset hr)
      ranks := hc.ranks.sublist hsub }

/-- Relabelling a choice keeps the catalog sound: nothing the invariant reads is a label. -/
theorem relabel (hc : c.Sound) (v : ValueId) (label : String) : (c.relabel v label).Sound := by
  have hkeep := relabel_fields v label
  have hmem : ∀ x ∈ c.choices.map fun x => if x.id == v then { x with label } else x,
      ∃ y ∈ c.choices, x.id = y.id ∧ x.field = y.field ∧ x.user = y.user ∧ x.group = y.group := by
    intro x hx
    obtain ⟨y, hy, rfl⟩ := List.mem_map.1 hx
    obtain ⟨hid, hfield, -, huser, hgroup⟩ := hkeep y
    exact ⟨y, hy, hid, hfield, huser, hgroup⟩
  refine { hc with choices := ?_, field := ?_, user := ?_, group := ?_, ranks := ?_ }
  · have hids : (c.choices.map fun x => if x.id == v then { x with label } else x).map (·.id) =
        c.choices.map (·.id) := by
      rw [List.map_map]
      exact List.map_congr_left fun y _ => (hkeep y).1
    exact hids ▸ hc.choices
  · intro x hx
    obtain ⟨y, hy, -, hfield, huser, hgroup⟩ := hmem x hx
    obtain ⟨fld, hfld, hfid, hrefers⟩ := hc.field y hy
    exact ⟨fld, hfld, hfield ▸ hfid, huser ▸ hgroup ▸ hrefers⟩
  · intro x hx
    obtain ⟨y, hy, -, -, huser, -⟩ := hmem x hx
    exact huser ▸ hc.user y hy
  · intro x hx
    obtain ⟨y, hy, -, -, -, hgroup⟩ := hmem x hx
    exact hgroup ▸ hc.group y hy
  · refine List.pairwise_map.2 (hc.ranks.imp fun {a b} hab => ?_)
    obtain ⟨-, hfa, hra, -⟩ := hkeep a
    obtain ⟨-, hfb, hrb, -⟩ := hkeep b
    rw [hfa, hfb, hra, hrb]
    exact hab

end Catalog.Sound

/-- A refused choice is not admitted, once field ids are distinct: the field `Admits` names is the
one the refusal is about. -/
theorem Catalog.Refuses.not_admits {c : Catalog} {f : FieldId} {label : String}
    (hr : c.Refuses f label) (hfields : (c.fields.map (·.id)).Nodup) {r : ChoiceRow}
    (hf : r.field = f) (hl : r.label = Text.trim label) : ¬ c.Admits r := by
  intro ha
  obtain ⟨fld', hfld', hid', hrefers⟩ := ha.field
  cases hr with
  | noField hnone => exact hnone fld' hfld' (hid'.trans hf)
  | noUser fld hfld hid hsrc hnone =>
    have hsame : fld' = fld := List.inj_on_of_nodup_map hfields hfld' hfld (by rw [hid', hid, hf])
    rw [hsame, hsrc] at hrefers
    obtain ⟨uid, huid⟩ := Option.isSome_iff_exists.1 hrefers.1
    obtain ⟨u, hu, -, hlogin⟩ := ha.user uid huid
    exact hnone u hu (hlogin.trans hl)
  | noGroup fld hfld hid hsrc hnone =>
    have hsame : fld' = fld := List.inj_on_of_nodup_map hfields hfld' hfld (by rw [hid', hid, hf])
    rw [hsame, hsrc] at hrefers
    obtain ⟨gid, hgid⟩ := Option.isSome_iff_exists.1 hrefers.2
    obtain ⟨g, hg, -, hname⟩ := ha.group gid hgid
    exact hnone g hg (hname.trans hl)
  | taken x hx hxf hxl => exact ha.label x hx (hxf.trans hf.symm) (hxl.trans hl.symm)

/-! ## The writes as catalog steps -/

namespace Store

open Keeps

variable {s s' : Store}

/-- Reading a field gives one of the fields, under its id, and writes nothing. -/
theorem field_run {f : FieldId} {fld : Field} (h : (field f).run s = .ok (fld, s')) :
    s' = s ∧ fld ∈ s.tables.fields ∧ fld.id = f := by
  simp only [field] at h
  obtain ⟨t, s₁, ht, h⟩ := run_bind_ok h
  rw [current_run] at ht
  cases ht
  split at h
  · next hfind =>
    cases h
    exact ⟨rfl, List.mem_of_find?_eq_some hfind, by simpa using List.find?_some hfind⟩
  · cases h

/-- Looking up a user by login gives a user whose login is the trimmed login, and writes
nothing. -/
theorem actor_run {login : String} {a : Actor} (h : (actor login).run s = .ok (a, s')) :
    s' = s ∧ ∃ u ∈ s.tables.users, u.id = a.id ∧ u.login = Text.trim login := by
  simp only [actor] at h
  obtain ⟨t, s₁, ht, h⟩ := run_bind_ok h
  rw [current_run] at ht
  cases ht
  split at h
  · next u hfind =>
    cases h
    exact ⟨rfl, u, List.mem_of_find?_eq_some hfind, rfl, by simpa using List.find?_some hfind⟩
  · cases h

/-- Looking up a group by name gives a group whose name is the trimmed name, and writes
nothing. -/
theorem groupByName_run {name : String} {g : GroupId} (h : (groupByName name).run s = .ok (g, s')) :
    s' = s ∧ ∃ x ∈ s.tables.groups, x.id = g ∧ x.name = Text.trim name := by
  simp only [groupByName] at h
  obtain ⟨t, s₁, ht, h⟩ := run_bind_ok h
  rw [current_run] at ht
  cases ht
  split at h
  · next x hfind =>
    cases h
    exact ⟨rfl, x, List.mem_of_find?_eq_some hfind, rfl, by simpa using List.find?_some hfind⟩
  · cases h

/-- A running maximum is at least its start and every element it passes. -/
theorem le_foldl_max (l : List Int) (a : Int) : a ≤ l.foldl max a ∧ ∀ x ∈ l, x ≤ l.foldl max a := by
  induction l generalizing a with
  | nil => exact ⟨Int.le_refl a, fun _ h => (List.not_mem_nil h).elim⟩
  | cons y l ih =>
    obtain ⟨hstart, hall⟩ := ih (max a y)
    refine ⟨Int.le_trans (Int.le_max_left a y) hstart, fun x hx => ?_⟩
    rcases List.mem_cons.1 hx with rfl | hx
    · exact Int.le_trans (Int.le_max_right a x) hstart
    · exact hall x hx

/-- The rank a new choice gets is above every rank among the field's choices. -/
theorem lt_nextRank (ranks : List Int) :
    ∀ x ∈ ranks, x < match ranks with
      | [] => 0
      | r :: rs => rs.foldl max r + 1 := by
  intro x hx
  cases ranks with
  | nil => exact absurd hx List.not_mem_nil
  | cons r rs =>
    obtain ⟨hr, hrs⟩ := le_foldl_max rs r
    rcases List.mem_cons.1 hx with rfl | hx
    · exact Int.lt_add_one_iff.2 hr
    · exact Int.lt_add_one_iff.2 (hrs x hx)

/-- A successful `addChoice` appends one row to the choices, numbered by the counter: it belongs
to the field, carries the trimmed label, and the catalog admits it. -/
theorem addChoice_run {f : FieldId} {new : NewChoice} {v : ValueId}
    (h : (addChoice f new).run s = .ok (v, s')) :
    ∃ r : ChoiceRow, s'.tables = { s.tables with choices := s.tables.choices ++ [r],
                                                 last := { s.tables.last with choices := r.id } } ∧
      r.id = s.tables.last.choices + 1 ∧ v = r.id ∧ r.field = f ∧ r.label = Text.trim new.label ∧
      s.tables.catalog.Admits r := by
  simp only [addChoice] at h
  obtain ⟨fld, s₁, hfld, hrest⟩ := run_bind_ok h
  obtain ⟨rfl, hfmem, hfid⟩ := field_run hfld
  -- the user or group a choice of a people field names is looked up, which writes nothing; the
  -- rest of the write is the same for every source
  split at hrest
  all_goals
    rename_i hsrc
    obtain ⟨who, s₂, hwho, htx⟩ := run_bind_ok hrest
    have e₂ : s₂ = s₁ := by
      first
        | exact (actor_run hwho).1
        | exact (groupByName_run hwho).1
        | cases hwho; rfl
    subst e₂
    simp only [pure_bind, transaction] at htx
    obtain ⟨s₃, _, hget, htx⟩ := run_bind_ok htx
    cases hget
    split at htx
    swap
    · cases htx
    obtain ⟨t, _, ht, htx⟩ := run_bind_ok htx
    rw [current_run] at ht
    cases ht
    -- a label the field already has is refused; otherwise the row is appended
    split at htx
    · obtain ⟨_, _, hthrow, -⟩ := run_bind_ok htx
      cases hthrow
    · next htaken =>
      obtain ⟨_, _, hc, htx⟩ := run_bind_ok htx
      rw [change_run] at hc
      cases hc
      cases htx
      refine ⟨_, rfl, rfl, rfl, rfl, rfl, ⟨⟨fld, hfmem, hfid, ?_⟩, ?_, ?_, ?_, ?_, Text.trim_trim _⟩⟩
      · -- what the lookup found fits the field's source
        rw [hsrc]
        first
          | exact ⟨rfl, rfl⟩
          | cases hwho
            exact ⟨rfl, rfl⟩
      · intro uid huid
        first
          | obtain ⟨-, u, hu, hid, hlogin⟩ := actor_run hwho
            cases huid
            exact ⟨u, hu, hid, hlogin⟩
          | cases hwho
            cases huid
          | cases huid
      · intro gid hgid
        first
          | obtain ⟨-, g, hg, hid, hname⟩ := groupByName_run hwho
            cases hgid
            exact ⟨g, hg, hid, hname⟩
          | cases hwho
            cases hgid
          | cases hgid
      all_goals
        intro x hx hxf
        have hown : x ∈ s₂.tables.choices.filter (·.field == f) :=
          List.mem_filter.2 ⟨hx, beq_iff_eq.2 hxf⟩
      · exact lt_nextRank _ _ (List.mem_map_of_mem (f := ChoiceRow.rank) hown)
      · intro hlabel
        exact htaken (List.any_eq_true.2 ⟨x, hown, beq_iff_eq.2 hlabel⟩)

/-- Creating a user adds one, numbered by the user counter. -/
theorem createUser_catalog {login : String} {realName : Option String} {u : UserId}
    (h : (createUser login realName).run s = .ok (u, s')) :
    CatalogStep s.tables.catalog s'.tables.catalog := by
  simp only [createUser, transaction, requireText] at h
  obtain ⟨s₁, _, hget, h⟩ := run_bind_ok h
  cases hget
  split at h
  swap
  · cases h
  obtain ⟨t, _, ht, h⟩ := run_bind_ok h
  rw [current_run] at ht
  cases ht
  -- the blank and taken logins are refused
  obtain ⟨_, s₂, hchk, h⟩ := run_bind_ok h
  split at hchk
  · cases hchk
  · cases hchk
    split at h
    · obtain ⟨_, _, hthrow, -⟩ := run_bind_ok h
      cases hthrow
    · obtain ⟨_, _, hc, h⟩ := run_bind_ok h
      rw [change_run] at hc
      cases hc
      cases h
      exact .addUser _ rfl

/-- Creating a group adds one, numbered by the group counter. -/
theorem createGroup_catalog {name : String} {g : GroupId} (h : (createGroup name).run s = .ok (g, s')) :
    CatalogStep s.tables.catalog s'.tables.catalog := by
  simp only [createGroup, requireText] at h
  obtain ⟨t, s₁, ht, h⟩ := run_bind_ok h
  rw [current_run] at ht
  cases ht
  obtain ⟨_, s₂, hchk, h⟩ := run_bind_ok h
  split at hchk
  · cases hchk
  · cases hchk
    split at h
    · obtain ⟨_, _, hthrow, -⟩ := run_bind_ok h
      cases hthrow
    · obtain ⟨_, _, hc, h⟩ := run_bind_ok h
      rw [change_run] at hc
      cases hc
      cases h
      exact .addGroup _ rfl

/-- Creating the members group adds it when it is missing, numbered by the group counter. -/
theorem ensureMembersGroup_catalog {g : GroupId} (h : ensureMembersGroup.run s = .ok (g, s')) :
    CatalogStep s.tables.catalog s'.tables.catalog := by
  simp only [ensureMembersGroup] at h
  obtain ⟨t, s₁, ht, h⟩ := run_bind_ok h
  rw [current_run] at ht
  cases ht
  split at h
  · rw [keeps_groupByName (v := Tables.catalog) _ s g s' h]
    exact .keep
  · obtain ⟨_, s₂, hc, h⟩ := run_bind_ok h
    rw [change_run] at hc
    cases hc
    rw [keeps_groupByName (v := Tables.catalog) _ _ g s' h]
    exact .addGroup _ rfl

/-- Creating a field adds one. -/
theorem createField_catalog {name label : String} {source : Source} {required multiple readOnly : Bool}
    {f : Field} (h : (createField name label source required multiple readOnly).run s = .ok (f, s')) :
    CatalogStep s.tables.catalog s'.tables.catalog := by
  simp only [createField, requireText] at h
  obtain ⟨t, s₁, ht, h⟩ := run_bind_ok h
  rw [current_run] at ht
  cases ht
  obtain ⟨_, s₂, hchk, h⟩ := run_bind_ok h
  split at hchk
  · cases hchk
  · cases hchk
    split at h
    · obtain ⟨_, _, hthrow, -⟩ := run_bind_ok h
      cases hthrow
    · obtain ⟨_, _, hc, h⟩ := run_bind_ok h
      rw [change_run] at hc
      cases hc
      cases h
      exact .addField _

/-- Adding a choice is a step of the catalog: the row `addChoice_run` describes. -/
theorem addChoice_catalog {f : FieldId} {new : NewChoice} {v : ValueId}
    (h : (addChoice f new).run s = .ok (v, s')) : CatalogStep s.tables.catalog s'.tables.catalog := by
  obtain ⟨r, htables, hid, -, -, -, hadmits⟩ := addChoice_run h
  rw [htables]
  exact .addChoice r hid hadmits

theorem deleteChoice_catalog {v : ValueId} {n : Nat} (h : (deleteChoice v).run s = .ok (n, s')) :
    CatalogStep s.tables.catalog s'.tables.catalog := by
  obtain ⟨gone, htables⟩ := deleteChoice_tables h
  rw [htables]
  exact .deleteChoice v

/-- Renaming a choice relabels it, or changes nothing when there is no such choice. -/
theorem renameChoice_catalog {v : ValueId} {label : String} {n : Nat}
    (h : (renameChoice v label).run s = .ok (n, s')) :
    s'.tables.catalog = s.tables.catalog ∨ s'.tables.catalog = s.tables.catalog.relabel v label := by
  simp only [renameChoice] at h
  obtain ⟨t, s₁, ht, h⟩ := run_bind_ok h
  rw [current_run] at ht
  cases ht
  split at h
  · cases h
    exact .inl rfl
  · -- a label taken in the field is refused
    split at h
    · obtain ⟨_, _, hthrow, -⟩ := run_bind_ok h
      cases hthrow
    · obtain ⟨_, _, hc, h⟩ := run_bind_ok h
      rw [change_run] at hc
      cases hc
      cases h
      exact .inr rfl

/-- What an administration write does to the catalog: one step, or the relabelling of a choice. -/
theorem AdminWrite.catalogStep {w : AdminWrite} (h : w.run.run s = .ok ((), s')) :
    CatalogStep s.tables.catalog s'.tables.catalog ∨
      ∃ v label, w = .renameChoice v label ∧ s'.tables.catalog = s.tables.catalog.relabel v label := by
  cases w with
  | ensureMembersGroup =>
    obtain ⟨g, s₁, h₁, h⟩ := run_bind_ok h
    cases h
    exact .inl (ensureMembersGroup_catalog h₁)
  | createUser login realName =>
    obtain ⟨u, s₁, h₁, h⟩ := run_bind_ok h
    cases h
    exact .inl (createUser_catalog h₁)
  | createGroup name =>
    obtain ⟨g, s₁, h₁, h⟩ := run_bind_ok h
    cases h
    exact .inl (createGroup_catalog h₁)
  | createField name label source required multiple readOnly =>
    obtain ⟨f, s₁, h₁, h⟩ := run_bind_ok h
    cases h
    exact .inl (createField_catalog h₁)
  | addChoice f new =>
    obtain ⟨v, s₁, h₁, h⟩ := run_bind_ok h
    cases h
    exact .inl (addChoice_catalog h₁)
  | deleteChoice v =>
    obtain ⟨n, s₁, h₁, h⟩ := run_bind_ok h
    cases h
    exact .inl (deleteChoice_catalog h₁)
  | renameChoice v label =>
    obtain ⟨n, s₁, h₁, h⟩ := run_bind_ok h
    cases h
    rcases renameChoice_catalog h₁ with heq | heq
    · exact .inl (heq ▸ .keep)
    · exact .inr ⟨v, label, rfl, heq⟩
  -- every other write keeps the catalog
  | addMember g u =>
    exact .inl (((bind' (keeps_addMember (v := Tables.catalog) (fun _ _ => rfl) g u)
      fun _ => pure' _) s () s' h) ▸ .keep)
  | grant f g access =>
    exact .inl (((bind' (keeps_grant (v := Tables.catalog) (fun _ _ => rfl) f g access)
      fun _ => pure' _) s () s' h) ▸ .keep)
  | setWorkflow f enabled =>
    exact .inl (((bind' (keeps_setWorkflow (v := Tables.catalog) (fun _ _ => rfl) f enabled)
      fun _ => pure' _) s () s' h) ▸ .keep)
  | addTransition f source target groups =>
    exact .inl (((bind' (keeps_addTransition (v := Tables.catalog) (fun _ _ => rfl)
      (fun _ _ _ => rfl) (fun _ _ => rfl) f source target groups) fun _ => pure' _) s () s' h) ▸ .keep)
  | createArtifact title author =>
    exact .inl (((bind' (keeps_createArtifact (v := Tables.catalog) (fun _ _ _ => rfl) title author)
      fun _ => pure' _) s () s' h) ▸ .keep)

/-- A submission leaves the catalog alone: it adds a changeset and rows, or nothing. -/
theorem submit_catalog {style : HistoryStyle} {a : Actor} {artifact : ArtifactId}
    {entries : List (FieldId × List ValueId)} {bypass : Bool} {rep : UpdateReport}
    (h : submit style a artifact entries bypass s = .ok (rep, s')) :
    s'.tables.catalog = s.tables.catalog := by
  cases hc : rep.changeset with
  | none => rw [(submit_discarded h hc).1]
  | some c =>
    obtain ⟨-, -, -, new, n, -, rfl⟩ := submit_committed h hc
    rfl

/-- **The catalog of every reachable store is sound.** -/
theorem Reachable.catalogSound {s : Store} (hs : Reachable s) : s.tables.catalog.Sound := by
  induction hs with
  | migrated => exact Catalog.Sound.empty _
  | admin _ _ hrun ih =>
    rcases AdminWrite.catalogStep hrun with hstep | ⟨v, label, -, heq⟩
    · exact ih.step hstep
    · exact heq ▸ ih.relabel v label
  | submit _ hrun ih => exact submit_catalog hrun ▸ ih

/-! ## Reading the choices of a sound catalog -/

/-- In a list whose keys are distinct, looking up the key of a member finds it. -/
theorem find?_key_eq {α β : Type} [BEq β] [LawfulBEq β] {key : α → β} {l : List α}
    (hnodup : (l.map key).Nodup) {x : α} (hx : x ∈ l) : l.find? (key · == key x) = some x := by
  obtain ⟨y, hy⟩ := Option.isSome_iff_exists.1
    ((List.find?_isSome (p := (key · == key x))).2 ⟨x, hx, beq_self_eq_true _⟩)
  have hyx : key y = key x := by simpa using List.find?_some hy
  rw [hy, List.inj_on_of_nodup_map hnodup (List.mem_of_find?_eq_some hy) hx hyx]

section Loaded

variable {t : Tables}

/-- What holds along the table between two choices of one field holds along each field's
choices. -/
theorem pairwise_filter_field {R : ChoiceRow → ChoiceRow → Prop} {l : List ChoiceRow}
    (h : l.Pairwise fun a b => a.field = b.field → R a b) (f : FieldId) :
    (l.filter (·.field == f)).Pairwise R :=
  List.pairwise_filter.2 (h.imp fun hab ha hb => hab ((beq_iff_eq.1 ha).trans (beq_iff_eq.1 hb).symm))

/-- The choices of a field, in table order, are in rank order. -/
theorem choices_sorted (hc : t.catalog.Sound) (f : FieldId) :
    (t.choices.filter (·.field == f)).Pairwise fun a b => choiceBefore a b = true :=
  (pairwise_filter_field hc.ranks f).imp fun hrank => by simp [choiceBefore, hrank]

/-- **A field's choices are read in the order they were added**: sorting them by rank and id
leaves them in table order. -/
theorem loadChoices_eq_filter (hc : t.catalog.Sound) (f : FieldId) :
    loadChoices t f = (t.choices.filter (·.field == f)).map (choiceOf t) := by
  unfold loadChoices
  rw [List.mergeSort_of_pairwise (choices_sorted hc f)]

theorem loadChoices_ids (hc : t.catalog.Sound) (f : FieldId) :
    (loadChoices t f).map (·.id) = (t.choices.filter (·.field == f)).map (·.id) := by
  rw [loadChoices_eq_filter hc, List.map_map]
  rfl

/-- The ranks of a field's choices increase along the table. -/
theorem ranks_increasing (hc : t.catalog.Sound) (f : FieldId) :
    ((t.choices.filter (·.field == f)).map (·.rank)).Pairwise (· < ·) :=
  List.pairwise_map.2 (pairwise_filter_field hc.ranks f)

/-- The ids of a field's choices increase in the order they are read. -/
theorem ids_increasing (hc : t.catalog.Sound) (f : FieldId) :
    ((loadChoices t f).map (·.id)).Pairwise (· < ·) := by
  rw [loadChoices_ids hc]
  exact hc.choices.increasing.sublist (List.filter_sublist.map _)

/-- No choice a field reads is `noneId`. -/
theorem noneId_lt_loaded (hc : t.catalog.Sound) (ho : t.ChoicesNumbered) (f : FieldId) :
    ∀ c ∈ loadChoices t f, noneId < c.id := by
  intro c hc'
  have hid : c.id ∈ (t.choices.filter (·.field == f)).map (·.id) :=
    loadChoices_ids hc f ▸ List.mem_map_of_mem hc'
  exact ho.above _ ((List.filter_sublist.map _).subset hid)

/-- The source of a choice's field says whom it names, once field ids are distinct. -/
theorem refers_of_field (hc : t.catalog.Sound) (hfields : (t.fields.map (·.id)).Nodup)
    {r : ChoiceRow} (hr : r ∈ t.choices) {fld : Field} (hfld : fld ∈ t.fields) (hid : fld.id = r.field) :
    fld.source.Refers r.user r.group := by
  obtain ⟨fld', hfld', hid', hrefers⟩ := hc.field r hr
  rw [List.inj_on_of_nodup_map hfields hfld hfld' (hid.trans hid'.symm)]
  exact hrefers

/-- A choice that names a user shows the user's login, and the user's real name when it is
set. -/
theorem choiceOf_user (hc : t.catalog.Sound) {r : ChoiceRow} {u : UserRow} (hu : u ∈ t.users)
    (hr : r.user = some u.id) :
    (choiceOf t r).label = u.login ∧ (choiceOf t r).description = u.realName.or r.description := by
  have hfind : t.users.find? (·.id == u.id) = some u := find?_key_eq hc.users.nodup hu
  simp only [choiceOf, hr, Option.bind_some, hfind]
  exact ⟨trivial, by cases u.realName <;> rfl⟩

/-- A choice that names a group, and no user, shows the group's name. -/
theorem choiceOf_group (hc : t.catalog.Sound) {r : ChoiceRow} {g : GroupRow} (hg : g ∈ t.groups)
    (hnone : r.user = none) (hr : r.group = some g.id) : (choiceOf t r).label = g.name := by
  have hfind : t.groups.find? (·.id == g.id) = some g := find?_key_eq hc.groups.nodup hg
  simp only [choiceOf, hnone, hr, Option.bind_none, Option.bind_some, hfind]

end Loaded

/-! ## Adding a choice -/

/-- **A refused choice is not added**: the write fails, and the store stays as it was. -/
theorem addChoice_refused {f : FieldId} {new : NewChoice}
    (hfields : (s.tables.fields.map (·.id)).Nodup) (hr : s.tables.catalog.Refuses f new.label) :
    ∃ e, (addChoice f new).run s = .error e ∧ (Op.admin (.addChoice f new)).apply s = s := by
  cases h : (addChoice f new).run s with
  | error e =>
    refine ⟨e, rfl, ?_⟩
    simp only [Op.apply, AdminWrite.run, StateT.run_bind, h, except_error_bind]
  | ok p =>
    obtain ⟨r, -, -, -, hf, hl, ha⟩ := addChoice_run h
    exact absurd ha (hr.not_admits hfields hf hl)

/-- A choice added to a sound catalog takes the next id and goes last in its field. -/
theorem addChoice_last (hc : s.tables.catalog.Sound) {f : FieldId} {new : NewChoice} {v : ValueId}
    (h : (addChoice f new).run s = .ok (v, s')) :
    v = s.tables.last.choices + 1 ∧
      (loadChoices s'.tables f).map (·.id) = (loadChoices s.tables f).map (·.id) ++ [v] := by
  have hc' : s'.tables.catalog.Sound := hc.step (addChoice_catalog h)
  obtain ⟨r, htables, hid, rfl, hf, -, -⟩ := addChoice_run h
  refine ⟨hid, ?_⟩
  rw [loadChoices_ids hc', loadChoices_ids hc, htables]
  simp [List.filter_append, hf]

/-! ## The choices of a reachable store -/

/-- **Choices are read in the order they were added, above `noneId`, and show whom they name.**
In a reachable store a field's choices are read in table order, with ranks and ids increasing
along it and every id above `noneId`; an added choice takes the next id and goes last, and a
refused one is not added and leaves the store as it was. A choice of a user field names a user and
shows their login and, when it is set, their real name; a choice of a group field names a group
and shows its name. -/
theorem choices_in_creation_order {s : Store} (hs : Reachable s) :
    (∀ f, loadChoices s.tables f = (s.tables.choices.filter (·.field == f)).map (choiceOf s.tables)) ∧
    (∀ f, ((s.tables.choices.filter (·.field == f)).map (·.rank)).Pairwise (· < ·)) ∧
    (∀ f, ((loadChoices s.tables f).map (·.id)).Pairwise (· < ·)) ∧
    (∀ f, ∀ c ∈ loadChoices s.tables f, noneId < c.id) ∧
    (∀ f new v s', (addChoice f new).run s = .ok (v, s') → v = s.tables.last.choices + 1 ∧
      (loadChoices s'.tables f).map (·.id) = (loadChoices s.tables f).map (·.id) ++ [v]) ∧
    (∀ f new, s.tables.catalog.Refuses f new.label →
      ∃ e, (addChoice f new).run s = .error e ∧ (Op.admin (.addChoice f new)).apply s = s) ∧
    (∀ r ∈ s.tables.choices, ∀ fld ∈ s.tables.fields, fld.id = r.field → fld.source = .users →
      (∃ u ∈ s.tables.users, r.user = some u.id) ∧
      ∀ u ∈ s.tables.users, r.user = some u.id → (choiceOf s.tables r).label = u.login ∧
        (choiceOf s.tables r).description = u.realName.or r.description) ∧
    (∀ r ∈ s.tables.choices, ∀ fld ∈ s.tables.fields, fld.id = r.field → fld.source = .groups →
      (∃ g ∈ s.tables.groups, r.group = some g.id) ∧
      ∀ g ∈ s.tables.groups, r.group = some g.id → (choiceOf s.tables r).label = g.name) := by
  have hc := hs.catalogSound
  have hfields := hs.wellFormed.field_nodup
  refine ⟨loadChoices_eq_filter hc, ranks_increasing hc, ids_increasing hc,
    noneId_lt_loaded hc hs.choicesNumbered, fun f new v s' h => addChoice_last hc h,
    fun f new hr => addChoice_refused hfields hr, ?users, ?groups⟩
  case users =>
    intro r hr fld hfld hid hsrc
    have hrefers := refers_of_field hc hfields hr hfld hid
    rw [hsrc] at hrefers
    obtain ⟨uid, huid⟩ := Option.isSome_iff_exists.1 hrefers.1
    obtain ⟨u, hu, rfl⟩ := hc.user r hr uid huid
    exact ⟨⟨u, hu, huid⟩, fun u' hu' hr' => choiceOf_user hc hu' hr'⟩
  case groups =>
    intro r hr fld hfld hid hsrc
    have hrefers := refers_of_field hc hfields hr hfld hid
    rw [hsrc] at hrefers
    obtain ⟨gid, hgid⟩ := Option.isSome_iff_exists.1 hrefers.2
    obtain ⟨g, hg, rfl⟩ := hc.group r hr gid hgid
    exact ⟨⟨g, hg, hgid⟩, fun g' hg' hr' => choiceOf_group hc hg' hrefers.1 hr'⟩

/-- A user field with one choice, added under the user's login with blanks around it. -/
theorem choices_of_user_field :
    let s := replay [.admin (.createUser "alice" (some "Alice")),
      .admin (.createField "owner" "Owner" .users false false false),
      .admin (.addChoice 1 { label := " alice " })] {}
    Reachable s ∧
    (∀ f, loadChoices s.tables f = (s.tables.choices.filter (·.field == f)).map (choiceOf s.tables)) ∧
    (∀ f, ((s.tables.choices.filter (·.field == f)).map (·.rank)).Pairwise (· < ·)) ∧
    (∀ f, ((loadChoices s.tables f).map (·.id)).Pairwise (· < ·)) ∧
    (∀ f, ∀ c ∈ loadChoices s.tables f, noneId < c.id) ∧
    (∀ f new v s', (addChoice f new).run s = .ok (v, s') → v = s.tables.last.choices + 1 ∧
      (loadChoices s'.tables f).map (·.id) = (loadChoices s.tables f).map (·.id) ++ [v]) ∧
    (∀ f new, s.tables.catalog.Refuses f new.label →
      ∃ e, (addChoice f new).run s = .error e ∧ (Op.admin (.addChoice f new)).apply s = s) ∧
    (∀ r ∈ s.tables.choices, ∀ fld ∈ s.tables.fields, fld.id = r.field → fld.source = .users →
      (∃ u ∈ s.tables.users, r.user = some u.id) ∧
      ∀ u ∈ s.tables.users, r.user = some u.id → (choiceOf s.tables r).label = u.login ∧
        (choiceOf s.tables r).description = u.realName.or r.description) ∧
    (∀ r ∈ s.tables.choices, ∀ fld ∈ s.tables.fields, fld.id = r.field → fld.source = .groups →
      (∃ g ∈ s.tables.groups, r.group = some g.id) ∧
      ∀ g ∈ s.tables.groups, r.group = some g.id → (choiceOf s.tables r).label = g.name) := by
  intro s
  have hs : Reachable s := Reachable.replay (.migrated true) _
  exact ⟨hs, choices_in_creation_order hs⟩

end Store

end ListField
