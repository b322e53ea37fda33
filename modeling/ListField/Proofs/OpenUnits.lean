import ListField.Proofs.Reachable

/-!
# No unit of work stays open

A unit of work is opened only by a submission, which closes it again whether it keeps or undoes
what it wrote; the administration writes run as transactions, which are refused inside an open
unit (`transaction_run`). This file shows that a reachable store has no open unit
(`Reachable.units_eq_nil`), so every transaction may run there.

`KeepsUnits` is the frame of the open units, with combinators that walk a do-block as those of
`Keeps` do: only opening and closing a unit changes them, and no administration write does either
(`AdminWrite.keepsUnits`).
-/

namespace ListField
namespace Store

/-- A store operation that, when it succeeds, leaves the open units of work as they were. -/
def KeepsUnits {α : Type} (m : StoreM α) : Prop :=
  ∀ s a s', m.run s = .ok (a, s') → s'.units = s.units

namespace KeepsUnits

variable {α γ : Type}

theorem pure' (a : α) : KeepsUnits (pure a : StoreM α) := by
  intro s b s' h
  cases h
  rfl

theorem bind' {x : StoreM α} {k : α → StoreM γ} (hx : KeepsUnits x) (hk : ∀ a, KeepsUnits (k a)) :
    KeepsUnits (x >>= k) := by
  intro s b s'' h
  obtain ⟨a, s', h₁, h₂⟩ := run_bind_ok h
  exact (hk a s' b s'' h₂).trans (hx s a s' h₁)

theorem get' : KeepsUnits (get : StoreM Store) := by
  intro s b s' h
  cases h
  rfl

theorem current' : KeepsUnits current := bind' get' fun _ => pure' _

theorem throw' (e : StoreError) : KeepsUnits (throw e : StoreM α) := by
  intro s b s' h
  cases h

theorem ite' {c : Prop} [Decidable c] {x y : StoreM α} (hx : KeepsUnits x) (hy : KeepsUnits y) :
    KeepsUnits (if c then x else y) := by
  split
  · exact hx
  · exact hy

/-- A change of the tables leaves the units alone, whatever it changes. -/
theorem change' (f : Tables → Tables) : KeepsUnits (change f) := by
  intro s b s' h
  cases h
  rfl

theorem transaction' {body : StoreM α} (h : KeepsUnits body) : KeepsUnits (transaction body) :=
  bind' get' fun _ => ite' h (throw' _)

theorem forIn' {δ : Type} (l : List γ) (b : δ) {f : γ → δ → StoreM (ForInStep δ)}
    (hf : ∀ a b, KeepsUnits (f a b)) : KeepsUnits (forIn l b f) := by
  induction l generalizing b with
  | nil => exact pure' b
  | cons a l ih =>
    rw [List.forIn_cons]
    refine bind' (hf a b) fun r => ?_
    cases r with
    | done b' => exact pure' b'
    | yield b' => exact ih b'

end KeepsUnits

open KeepsUnits

theorem keepsUnits_groupByName (name : String) : KeepsUnits (groupByName name) := by
  unfold groupByName
  refine bind' current' fun t => ?_
  split
  · exact pure' _
  · exact throw' _

theorem keepsUnits_actor (login : String) : KeepsUnits (actor login) := by
  unfold actor
  refine bind' current' fun t => ?_
  dsimp only
  split
  · exact pure' _
  · exact throw' _

theorem keepsUnits_field (f : FieldId) : KeepsUnits (field f) := by
  unfold field
  refine bind' current' fun t => ?_
  split
  · exact pure' _
  · exact throw' _

/-- No administration write opens or closes a unit of work. -/
theorem AdminWrite.keepsUnits : ∀ w : AdminWrite, KeepsUnits w.run
  | .ensureMembersGroup => by
    simp only [AdminWrite.run]
    exact bind' (bind' current' fun _ => ite' (keepsUnits_groupByName _)
      (bind' (change' _) fun _ => keepsUnits_groupByName _)) fun _ => pure' _
  | .createUser .. => by
    simp only [AdminWrite.run]
    refine bind' (transaction' (bind' current' fun t => bind' (ite' (throw' _) (pure' _)) fun _ => ?_))
      fun _ => pure' _
    exact ite' (bind' (throw' _) fun _ => bind' (change' _) fun _ => pure' _)
      (bind' (change' _) fun _ => pure' _)
  | .createGroup .. => by
    simp only [AdminWrite.run]
    refine bind' (bind' current' fun t => bind' (ite' (throw' _) (pure' _)) fun _ => ?_) fun _ => pure' _
    exact ite' (bind' (throw' _) fun _ => bind' (change' _) fun _ => pure' _)
      (bind' (change' _) fun _ => pure' _)
  | .addMember .. => by
    simp only [AdminWrite.run]
    refine bind' (bind' current' fun t => ite' (pure' _) ?_) fun _ => pure' _
    exact ite' (bind' (change' _) fun _ => pure' _)
      (bind' (throw' _) fun _ => bind' (change' _) fun _ => pure' _)
  | .createField .. => by
    simp only [AdminWrite.run]
    refine bind' (bind' current' fun t => bind' (ite' (throw' _) (pure' _)) fun _ => ?_) fun _ => pure' _
    exact ite' (bind' (throw' _) fun _ => bind' (change' _) fun _ => pure' _)
      (bind' (change' _) fun _ => pure' _)
  | .addChoice f new => by
    simp only [AdminWrite.run, Store.addChoice]
    refine bind' (bind' (keepsUnits_field f) fun fld => ?_) fun _ => pure' _
    -- the user or group that a choice of a people field names is looked up first
    split
    all_goals first
      | refine bind' (pure' _) fun _ => ?_
      | refine bind' (keepsUnits_actor _) fun _ => bind' (pure' _) fun _ => ?_
      | refine bind' (keepsUnits_groupByName _) fun _ => bind' (pure' _) fun _ => ?_
    all_goals
      refine transaction' (bind' current' fun t => ?_)
      exact ite' (bind' (throw' _) fun _ => bind' (change' _) fun _ => pure' _)
        (bind' (change' _) fun _ => pure' _)
  | .grant .. => by
    simp only [AdminWrite.run]
    exact bind' (bind' current' fun t => ite' (pure' _)
      (ite' (change' _) (bind' (throw' _) fun _ => change' _))) fun _ => pure' _
  | .setWorkflow .. => by
    simp only [AdminWrite.run]
    exact bind' (bind' current' fun t => ite' (change' _)
      (ite' (change' _) (bind' (throw' _) fun _ => change' _))) fun _ => pure' _
  | .addTransition .. => by
    simp only [AdminWrite.run]
    refine bind' (bind' (forIn' _ _ fun v _ => bind' current' fun t =>
      ite' (pure' _) (bind' (throw' _) fun _ => pure' _)) fun _ => ?_) fun _ => pure' _
    refine transaction' (bind' current' fun t => ?_)
    refine ite' ?_ (bind' (change' _) fun _ => ?_)
    all_goals
      split
      all_goals first
        | refine bind' (pure' _) fun tr => bind' (forIn' _ _ fun g _ => ?_) fun _ => pure' _
        | refine bind' (change' _) fun _ =>
            bind' (pure' _) fun tr => bind' (forIn' _ _ fun g _ => ?_) fun _ => pure' _
    all_goals
      exact bind' current' fun t => ite' (pure' _) (ite' (bind' (change' _) fun _ => pure' _)
        (bind' (throw' _) fun _ => bind' (change' _) fun _ => pure' _))
  | .createArtifact .. => by
    simp only [AdminWrite.run]
    exact bind' (bind' current' fun t => ite' (bind' (change' _) fun _ => pure' _)
      (bind' (throw' _) fun _ => bind' (change' _) fun _ => pure' _)) fun _ => pure' _
  | .deleteChoice .. => by
    simp only [AdminWrite.run]
    exact bind' (bind' current' fun t => bind' (change' _) fun _ => pure' _) fun _ => pure' _
  | .renameChoice .. => by
    simp only [AdminWrite.run]
    refine bind' (bind' current' fun t => ?_) fun _ => pure' _
    split
    · exact pure' _
    · exact ite' (bind' (throw' _) fun _ => bind' (change' _) fun _ => pure' _)
        (bind' (change' _) fun _ => pure' _)

/-- A transaction runs its body outside any unit of work and is refused inside one. -/
theorem transaction_run {α : Type} (body : StoreM α) (s : Store) :
    (transaction body).run s = if s.units = [] then body.run s else .error (.sql .nestedTransaction) := by
  by_cases hu : s.units = []
  · simp [transaction, hu]
  · simp [transaction, hu]

/-- **No unit of work is left open in a reachable store**: administration writes never open one,
and a submission closes the one it opens. -/
theorem Reachable.units_eq_nil {s : Store} (hs : Reachable s) : s.units = [] := by
  induction hs with
  | migrated => rfl
  | admin w _ hrun ih => exact (w.keepsUnits _ _ _ hrun).trans ih
  | submit _ hrun ih =>
    obtain ⟨report, s₁, -, hend⟩ := submit_run hrun
    split at hend
    · rw [hend.2, ih]
    · rw [hend.2, ih]

end Store
end ListField
