import ListField.Proofs.ChangeLaws

/-!
# Rendered changes depend only on the two sets of values

`Change.between` is not a function of the two sets of values alone: `setTo` and `changed` keep
the ids in the order the selections give them. The sentence `Change.describe` writes is, because
every list of ids is written through `Change.idLabels`, which sorts it in the field's configured
order (`rankedLE`, a total order on ids: ranked ids by rank, then the others, ties by id) and
drops repeats.

* `idLabels_congr`: two lists with the same ids are written alike;
* `IsDelta.render_eq`: two least changes between the same sets are written alike;
* `describe_eq_some`: a sentence names each value that moved once, by its label (`Describes`);
* `describe_by_value_sets`: the sentence depends only on the two sets of values, and names each
  value of the change once.
-/

namespace ListField
namespace Change

open Selection

/-! ## The configured order of ids -/

section Order

variable (cs : Choices)

theorem rankedLE_trans (a b c : ValueId) (hab : rankedLE cs a b = true) (hbc : rankedLE cs b c = true) :
    rankedLE cs a c = true := by
  revert hab hbc
  unfold rankedLE
  cases cs.rank? a <;> cases cs.rank? b <;> cases cs.rank? c <;> simp <;> grind

theorem rankedLE_total (a b : ValueId) : (rankedLE cs a b || rankedLE cs b a) = true := by
  unfold rankedLE
  cases cs.rank? a <;> cases cs.rank? b <;> simp <;> grind

/-- Ties between ranks are broken by id, so the order is antisymmetric. -/
theorem rankedLE_antisymm (a b : ValueId) (hab : rankedLE cs a b = true) (hba : rankedLE cs b a = true) :
    a = b := by
  revert hab hba
  unfold rankedLE
  cases cs.rank? a <;> cases cs.rank? b <;> simp <;> grind

end Order

/-! ## Dropping repeats -/

theorem mem_dropRepeats {l : List ValueId} {x : ValueId} : x ∈ dropRepeats l ↔ x ∈ l := by
  fun_induction dropRepeats l with
  | case1 => rfl
  | case2 a => rfl
  | case3 a b rest hab ih =>
    -- the `a` dropped is still there as `b`
    obtain rfl : a = b := by simpa using hab
    simp [ih]
  | case4 a b rest _ ih => simp only [List.mem_cons, ih]

theorem dropRepeats_sublist (l : List ValueId) : (dropRepeats l).Sublist l := by
  fun_induction dropRepeats l with
  | case1 => exact .slnil
  | case2 a => exact .refl _
  | case3 a b rest _ ih => exact ih.cons a
  | case4 a b rest _ ih => exact ih.cons_cons a

/-- In a list sorted by an antisymmetric order equal ids stand together, so dropping repeated
neighbours leaves each id once. -/
theorem nodup_dropRepeats {R : ValueId → ValueId → Prop} (hanti : ∀ a b, R a b → R b a → a = b)
    {l : List ValueId} (hl : l.Pairwise R) : (dropRepeats l).Nodup := by
  fun_induction dropRepeats l with
  | case1 => exact List.nodup_nil
  | case2 a => exact List.nodup_singleton a
  | case3 a b rest _ ih => exact ih hl.of_cons
  | case4 a b rest hab ih =>
    refine List.nodup_cons.2 ⟨fun hmem => ?_, ih hl.of_cons⟩
    have hne : a ≠ b := by simpa using hab
    rcases List.mem_cons.1 (mem_dropRepeats.1 hmem) with e | hrest
    · exact hne e
    · -- `a` again after `b` would sit on both sides of `b`
      have hab' : R a b := List.rel_of_pairwise_cons hl List.mem_cons_self
      have hba : R b a := List.rel_of_pairwise_cons hl.of_cons hrest
      exact hne (hanti a b hab' hba)

/-! ## Lists of ids -/

/-- The ids a list is written with, in order: sorted in the configured order, without repeats. -/
theorem idLabels_eq (cs : Choices) (sep : String) (ids : List ValueId) :
    idLabels cs sep ids = sep.intercalate ((dropRepeats (ids.mergeSort (rankedLE cs))).map (idLabel cs)) :=
  rfl

theorem pairwise_shown (cs : Choices) (ids : List ValueId) :
    (dropRepeats (ids.mergeSort (rankedLE cs))).Pairwise (rankedLE cs · · = true) :=
  (List.pairwise_mergeSort (rankedLE_trans cs) (rankedLE_total cs) ids).sublist (dropRepeats_sublist _)

theorem nodup_shown (cs : Choices) (ids : List ValueId) :
    (dropRepeats (ids.mergeSort (rankedLE cs))).Nodup :=
  nodup_dropRepeats (rankedLE_antisymm cs)
    (List.pairwise_mergeSort (rankedLE_trans cs) (rankedLE_total cs) ids)

theorem mem_shown {cs : Choices} {ids : List ValueId} {x : ValueId} :
    x ∈ dropRepeats (ids.mergeSort (rankedLE cs)) ↔ x ∈ ids := by
  rw [mem_dropRepeats, List.mem_mergeSort]

/-- **A list of ids is written by its set of ids**: order and repeats do not show. -/
theorem idLabels_congr (cs : Choices) (sep : String) {l l' : List ValueId} (h : ∀ x, x ∈ l ↔ x ∈ l') :
    idLabels cs sep l = idLabels cs sep l' := by
  have hperm : (dropRepeats (l.mergeSort (rankedLE cs))).Perm (dropRepeats (l'.mergeSort (rankedLE cs))) :=
    (List.perm_ext_iff_of_nodup (nodup_shown cs l) (nodup_shown cs l')).2 fun x => by
      rw [mem_shown, mem_shown, h]
  rw [idLabels_eq, idLabels_eq,
    hperm.eq_of_pairwise (fun a b _ _ => rankedLE_antisymm cs a b) (pairwise_shown cs l) (pairwise_shown cs l')]

/-- `text` writes each id of `S` once, by its label, in the configured order, joined by `sep`. -/
def ListsOnce (cs : Choices) (sep : String) (S : Finset ValueId) (text : String) : Prop :=
  ∃ order : List ValueId, order.Pairwise (rankedLE cs · · = true) ∧ order.Nodup ∧ order.toFinset = S ∧
    text = sep.intercalate (order.map (idLabel cs))

theorem listsOnce_idLabels (cs : Choices) (sep : String) (ids : List ValueId) :
    ListsOnce cs sep ids.toFinset (idLabels cs sep ids) :=
  ⟨_, pairwise_shown cs ids, nodup_shown cs ids, Finset.ext fun _ => by simp [mem_shown], rfl⟩

/-- Two lists with the same ids are written alike, and are empty together. -/
theorem idLabels_of_toFinset_eq (cs : Choices) (sep : String) {l l' : List ValueId}
    (h : l.toFinset = l'.toFinset) : idLabels cs sep l = idLabels cs sep l' ∧ l.isEmpty = l'.isEmpty := by
  have hmem : ∀ x, x ∈ l ↔ x ∈ l' := fun x => by rw [← List.mem_toFinset, h, List.mem_toFinset]
  refine ⟨idLabels_congr cs sep hmem, Bool.eq_iff_iff.2 ?_⟩
  rw [List.isEmpty_iff, List.isEmpty_iff, ← List.toFinset_eq_empty_iff, h, List.toFinset_eq_empty_iff]

/-! ## Sentences -/

-- the sentence of each kind of change, read off `render` by unfolding alone
theorem render_setTo (cs : Choices) (sep : String) (values : List ValueId) :
    render cs sep (.setTo values) = "set to " ++ idLabels cs sep values := rfl

theorem render_changed (cs : Choices) (sep : String) (removed added : List ValueId) :
    render cs sep (.changed removed added) =
      "\n".intercalate ((if removed.isEmpty then [] else [idLabels cs sep removed ++ " removed"]) ++
        (if added.isEmpty then [] else [idLabels cs sep added ++ " added"])) := rfl

/-- The sentences that describe the change from the set of values `P` to a different set `N`:
the kind of sentence is the one the two sets call for, and each value that moved is named once. -/
inductive Describes (cs : Choices) (sep : String) (P N : Finset ValueId) : String → Prop
  | cleared : P ≠ ∅ → N = ∅ → Describes cs sep P N "cleared"
  | setTo {text : String} : P = ∅ → N ≠ ∅ → ListsOnce cs sep N text →
      Describes cs sep P N ("set to " ++ text)
  | changedFrom {old new : ValueId} : P = {old} → N = {new} → old ≠ new →
      Describes cs sep P N ("changed from " ++ idLabel cs old ++ " to " ++ idLabel cs new)
  | changed {removed added : String} : P ≠ N → P ≠ ∅ → N ≠ ∅ → ¬(P.card = 1 ∧ N.card = 1) →
      ListsOnce cs sep (P \ N) removed → ListsOnce cs sep (N \ P) added →
      Describes cs sep P N ("\n".intercalate
        ((if P \ N = ∅ then [] else [removed ++ " removed"]) ++ (if N \ P = ∅ then [] else [added ++ " added"])))

/-- Every least change between two different sets is written as a sentence that describes it. -/
theorem IsDelta.describes (cs : Choices) (sep : String) {P N : Finset ValueId} {d : Change}
    (h : IsDelta P N d) (hne : P ≠ N) : Describes cs sep P N (render cs sep d) := by
  cases d with
  | cleared =>
    have hP : P ≠ ∅ := fun hP => hne (hP.trans h.symm)
    exact .cleared hP h
  | setTo values =>
    obtain ⟨hP, hN, -, rfl⟩ := h
    exact .setTo hP hN (listsOnce_idLabels cs sep values)
  | changedFrom old new =>
    obtain ⟨hP, hN, hmoved⟩ := h
    exact .changedFrom hP hN hmoved
  | changed removed added =>
    obtain ⟨hP, hN, hcard, -, hrem, -, hadd, -⟩ := h
    -- a list is empty exactly when its set is
    have hempty : ∀ {l : List ValueId} {S : Finset ValueId}, l.toFinset = S → (l.isEmpty = true ↔ S = ∅) :=
      fun hl => by rw [← hl, List.toFinset_eq_empty_iff, List.isEmpty_iff]
    have hdesc := Describes.changed hne hP hN hcard (hrem ▸ listsOnce_idLabels cs sep removed)
      (hadd ▸ listsOnce_idLabels cs sep added)
    rw [render_changed]
    simpa only [(hempty hrem).symm, (hempty hadd).symm] using hdesc

/-- Two least changes between the same sets are written alike. -/
theorem IsDelta.render_eq (cs : Choices) (sep : String) {P N : Finset ValueId} {d d' : Change}
    (h : IsDelta P N d) (h' : IsDelta P N d') : render cs sep d = render cs sep d' := by
  cases d <;> cases d' <;> simp only [IsDelta] at h h'
  case cleared.cleared => rfl
  case setTo.setTo values values' =>
    obtain ⟨-, -, -, hN⟩ := h
    obtain ⟨-, -, -, hN'⟩ := h'
    rw [render_setTo, render_setTo, (idLabels_of_toFinset_eq cs sep (hN.trans hN'.symm)).1]
  case changedFrom.changedFrom old new old' new' =>
    obtain ⟨hP, hN, -⟩ := h
    obtain ⟨hP', hN', -⟩ := h'
    obtain rfl : old = old' := Finset.singleton_inj.1 (hP.symm.trans hP')
    obtain rfl : new = new' := Finset.singleton_inj.1 (hN.symm.trans hN')
    rfl
  case changed.changed removed added removed' added' =>
    obtain ⟨-, -, -, -, hrem, -, hadd, -⟩ := h
    obtain ⟨-, -, -, -, hrem', -, hadd', -⟩ := h'
    obtain ⟨hremText, hremEmpty⟩ := idLabels_of_toFinset_eq cs sep (hrem.trans hrem'.symm)
    obtain ⟨haddText, haddEmpty⟩ := idLabels_of_toFinset_eq cs sep (hadd.trans hadd'.symm)
    rw [render_changed, render_changed, hremText, hremEmpty, haddText, haddEmpty]
  -- the other pairs of kinds call for different pairs of sets
  all_goals simp_all

/-- A sentence written for two selections describes the change between their sets of values. -/
theorem describe_eq_some (cs : Choices) (sep : String) {previous next : List ValueId} {text : String}
    (h : describe cs sep previous next = some text) :
    Describes cs sep (valueSet previous) (valueSet next) text := by
  obtain ⟨d, hd, rfl⟩ := Option.map_eq_some_iff.1 h
  have hne : valueSet previous ≠ valueSet next := fun e => by
    rw [between_eq_none_iff.2 e] at hd
    cases hd
  exact (isDelta_between hd).describes cs sep hne

/-- The sentence for two selections is a function of their sets of values. -/
theorem describe_congr (cs : Choices) (sep : String) {p p' n n' : List ValueId}
    (hp : valueSet p = valueSet p') (hn : valueSet n = valueSet n') :
    describe cs sep p n = describe cs sep p' n' := by
  cases hd : between p n with
  | none =>
    have hsame := between_eq_none_iff.1 hd
    have hsame' : valueSet p' = valueSet n' := by rw [← hp, ← hn, hsame]
    rw [describe_eq_none_iff.2 hsame, describe_eq_none_iff.2 hsame']
  | some d =>
    obtain ⟨d', hd'⟩ : ∃ d', between p' n' = some d' := by
      rw [← Option.ne_none_iff_exists', ne_eq, between_eq_none_iff, ← hp, ← hn, ← between_eq_none_iff, hd]
      simp
    have hδ := isDelta_between hd
    rw [hp, hn] at hδ
    rw [describe, describe, hd, hd', Option.map_some, Option.map_some, hδ.render_eq cs sep (isDelta_between hd')]

/-- **Rendered changes depend only on the two sets of values.** For any choices (repeated ids
allowed) and separator, two pairs of selections naming the same values before and the same values
after, in any order, with repeats and `noneId`, are described by the same sentence; and a sentence,
when there is one, describes the change between the two sets, writing each value that moved once,
by its label, in the configured order. -/
theorem describe_by_value_sets (cs : Choices) (sep : String) :
    (∀ p p' n n' : List ValueId, valueSet p = valueSet p' → valueSet n = valueSet n' →
      describe cs sep p n = describe cs sep p' n') ∧
    ∀ (p n : List ValueId) (text : String), describe cs sep p n = some text →
      Describes cs sep (valueSet p) (valueSet n) text :=
  ⟨fun _ _ _ _ hp hn => describe_congr cs sep hp hn, fun _ _ _ h => describe_eq_some cs sep h⟩

/-- Reordering, repeating and adding `noneId` leave the sentence as it is, also when the field
lists an id twice. -/
theorem describe_ignores_order_and_repeats :
    valueSet [102, 101, 101] = valueSet [101, 102, 100] ∧ valueSet [103] = valueSet [103, 103] ∧
      describe ⟨1, .static, [.make 101 "Open", .make 102 "Done", .make 101 "Closed"], "None"⟩ ", "
          [102, 101, 101] [103] =
        describe ⟨1, .static, [.make 101 "Open", .make 102 "Done", .make 101 "Closed"], "None"⟩ ", "
          [101, 102, 100] [103, 103] :=
  have hp : valueSet [102, 101, 101] = valueSet [101, 102, 100] := by decide
  have hn : valueSet [103] = valueSet [103, 103] := by decide
  ⟨hp, hn, (describe_by_value_sets _ _).1 _ _ _ _ hp hn⟩

end Change
end ListField
