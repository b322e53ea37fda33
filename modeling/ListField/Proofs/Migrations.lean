import ListField.Store.Schema

/-!
# Migrations bring every layout up to the newest one, once

A database records the version of its layout (`Schema.recorded`). `Schema.migrate` reads it and
applies each migration numbered above it, in ascending order, each in a transaction of its own.
For a database whose layout is the one the migrations up to its version leave
(`Schema.Produced`), `migrate_brings_to_latest` says:

* a negative version cannot be read as a version, and nothing changes;
* below the newest version, exactly the migrations above it run, in order; every row stays, and
  the recorded version and the metadata row both end at the newest version;
* at or above the newest version nothing changes and the version is given back;
* after any successful run a second run finds nothing to do;
* whatever the outcome, the database is the one the first few pending migrations leave, each
  applied whole.

The pieces:

* `step_eq_ok`: what one migration does when it succeeds;
* `applyFrom_of_foldlM`, `applyFrom_commits_prefix`: the loop, which compares each version with
  the last one it reached, runs over a list in ascending order exactly the versions above the
  one it starts from;
* `tables_migrate`: no migration writes a row;
* `Produced.next`, `Produced.run`: migration `v + 1` takes the layout of version `v` to that of
  version `v + 1`, so the pending ones take it to the newest.
-/

namespace ListField
namespace Schema

/-! ## One migration -/

/-- What a migration that succeeds does: version 1 creates the core tables and the metadata row
and always succeeds; any other needs the core tables and no decorator column yet. Either way it
records its version, in the header and in the metadata row when there is one, and writes no row
of the tables. -/
theorem step_eq_ok {s s' : Schema} {v : Nat} :
    step s v = .ok s' ↔
      (v = 1 ∧ s' = { s with recorded := 1, coreTables := true, metaVersion := some 1 }) ∨
      (v ≠ 1 ∧ s.coreTables = true ∧ s.decorators = false ∧
        s' = { s.record v with decorators := true, indexes := true,
                               metaVersion := s.metaVersion.map fun _ => (v : Int) }) := by
  by_cases h1 : v = 1
  · subst h1
    cases hm : s.metaVersion <;>
      simp [step, createCore, record, bind, Except.bind, pure, Except.pure, hm] <;> exact eq_comm
  · -- only the core tables without a decorator column let version 2 through
    cases hc : s.coreTables <;> cases hd : s.decorators <;>
      simp [step, addDecorators, record, bind, Except.bind, pure, Except.pure, h1, hc, hd,
        Option.map_map, Function.comp_def]
    exact eq_comm

theorem tables_of_step {s s' : Schema} {v : Nat} (h : step s v = .ok s') :
    s'.tables = s.tables := by
  rcases step_eq_ok.1 h with ⟨-, rfl⟩ | ⟨-, -, -, rfl⟩ <;> rfl

theorem recorded_of_step {s s' : Schema} {v : Nat} (h : step s v = .ok s') (hv : v ≤ 2147483647) :
    s'.recorded = v := by
  rcases step_eq_ok.1 h with ⟨rfl, rfl⟩ | ⟨-, -, -, rfl⟩
  · rfl
  · simp only [record]
    rw [if_pos (by omega)]

/-- A migration writes its version into the metadata row: the row version 1 creates, or the
one an earlier version created. -/
theorem metaVersion_of_step {s s' : Schema} {v : Nat} (h : step s v = .ok s')
    (hrow : v = 1 ∨ s.metaVersion.isSome) : s'.metaVersion = some (v : Int) := by
  rcases step_eq_ok.1 h with ⟨rfl, rfl⟩ | ⟨hne, -, -, rfl⟩
  · rfl
  · obtain ⟨m, hm⟩ := Option.isSome_iff_exists.1 (hrow.resolve_left hne)
    simp [hm]

/-! ## Reading the version -/

theorem version_of_recorded {s : Schema} {n : Nat} (h : s.recorded = n) (hn : n ≤ 4294967295) :
    s.version = .ok n := by
  simp only [version, h]
  rw [if_neg (by omega), if_neg (by omega), Int.toNat_natCast]

theorem version_of_neg {s : Schema} (h : s.recorded < 0) :
    s.version = .error (.sql (.conversion .tooSmall)) := by
  simp [version, h]

theorem migrate_of_version_ok {s : Schema} {n : Nat} (h : s.version = .ok n) :
    s.migrate = applyFrom n migrations s := by
  simp [migrate, h]

theorem migrate_of_version_error {s : Schema} {e : StoreError} (h : s.version = .error e) :
    s.migrate = (.error e, s) := by
  simp [migrate, h]

/-! ## The loop over the migrations -/

section Loop

variable {n : Nat} {vs : List Nat}

/-- Versions at or below the one reached are skipped. -/
theorem applyFrom_of_forall_le (h : ∀ v ∈ vs, v ≤ n) (s : Schema) :
    applyFrom n vs s = (.ok n, s) := by
  induction vs with
  | nil => rfl
  | cons v rest ih =>
    rw [applyFrom, if_pos (h v List.mem_cons_self)]
    exact ih fun w hw => h w (List.mem_cons_of_mem v hw)

/-- A successful loop reaches a version at least the one it started from and every version of
the list. -/
theorem le_of_applyFrom_ok {s s' : Schema} {m : Nat} (h : applyFrom n vs s = (.ok m, s')) :
    n ≤ m ∧ ∀ v ∈ vs, v ≤ m := by
  induction vs generalizing n s with
  | nil =>
    cases h
    exact ⟨Nat.le_refl _, by simp⟩
  | cons v rest ih =>
    rw [applyFrom] at h
    by_cases hle : v ≤ n
    · rw [if_pos hle] at h
      obtain ⟨hnm, hrest⟩ := ih h
      exact ⟨hnm, by simpa [Nat.le_trans hle hnm] using hrest⟩
    · rw [if_neg hle] at h
      split at h
      · obtain ⟨hvm, hrest⟩ := ih h
        exact ⟨by omega, by simpa [hvm] using hrest⟩
      · cases h

/-- Every migration that succeeds records its version, so a successful loop leaves the version
it reached recorded. -/
theorem version_of_applyFrom_ok {s s' : Schema} {m : Nat} (hs : s.version = .ok n)
    (hvs : ∀ v ∈ vs, v ≤ 2147483647) (h : applyFrom n vs s = (.ok m, s')) :
    s'.version = .ok m := by
  induction vs generalizing n s with
  | nil =>
    cases h
    exact hs
  | cons v rest ih =>
    have hv : v ≤ 2147483647 := hvs v List.mem_cons_self
    have hrest : ∀ w ∈ rest, w ≤ 2147483647 := fun w hw => hvs w (List.mem_cons_of_mem v hw)
    rw [applyFrom] at h
    by_cases hle : v ≤ n
    · rw [if_pos hle] at h
      exact ih hs hrest h
    · rw [if_neg hle] at h
      split at h
      · rename_i s₁ hstep
        exact ih (version_of_recorded (recorded_of_step hstep hv) (by omega)) hrest h
      · cases h

/-- No migration writes a row, so the loop keeps every row, whatever its outcome. -/
theorem tables_applyFrom (n : Nat) (vs : List Nat) (s : Schema) :
    (applyFrom n vs s).2.tables = s.tables := by
  induction vs generalizing n s with
  | nil => rfl
  | cons v rest ih =>
    rw [applyFrom]
    by_cases hle : v ≤ n
    · rw [if_pos hle]
      exact ih n s
    · rw [if_neg hle]
      split
      · rename_i s₁ hstep
        exact (ih v s₁).trans (tables_of_step hstep)
      · rfl

/-- Migrating keeps every row, whatever the outcome. -/
theorem tables_migrate (t : Schema) : t.migrate.2.tables = t.tables := by
  cases hv : t.version with
  | error e => rw [migrate_of_version_error hv]
  | ok n => rw [migrate_of_version_ok hv, tables_applyFrom]

/-- In a list in ascending order, the versions after `v` all lie above `v`, and above anything
below `v`. -/
theorem filter_tail_of_sorted {v : Nat} {rest : List Nat} (hsorted : (v :: rest).Pairwise (· < ·))
    (hn : n ≤ v) : rest.filter (n < ·) = rest :=
  List.filter_eq_self.2 fun w hw => by
    have := List.rel_of_pairwise_cons hsorted hw
    simp only [decide_eq_true_eq]
    omega

/-- A version the loop reached is not pending. -/
theorem filter_cons_of_le {v : Nat} {rest : List Nat} (hle : v ≤ n) :
    (v :: rest).filter (n < ·) = rest.filter (n < ·) := by
  simp [hle]

/-- In a list in ascending order, once one version is pending, so are all after it. -/
theorem filter_cons_of_sorted {v : Nat} {rest : List Nat} (hsorted : (v :: rest).Pairwise (· < ·))
    (hlt : ¬v ≤ n) : (v :: rest).filter (n < ·) = v :: rest := by
  rw [List.filter_cons_of_pos (by simpa using hlt), filter_tail_of_sorted hsorted (by omega)]

/-- Over a list in ascending order, the loop runs exactly the versions above the one it starts
from, one after the other; when they all succeed it reaches the last of them. -/
theorem applyFrom_of_foldlM {s s' : Schema} (hsorted : vs.Pairwise (· < ·))
    (h : (vs.filter (n < ·)).foldlM step s = .ok s') :
    applyFrom n vs s = (.ok ((vs.filter (n < ·)).getLastD n), s') := by
  induction vs generalizing n s with
  | nil =>
    cases h
    rfl
  | cons v rest ih =>
    rw [applyFrom]
    by_cases hle : v ≤ n
    · -- `v` is skipped, and is no version above `n`
      rw [filter_cons_of_le hle] at h ⊢
      rw [if_pos hle]
      exact ih hsorted.of_cons h
    · -- `v` runs first; every later version lies above it, so none of them is skipped
      have hrun := filter_cons_of_sorted hsorted hle
      rw [hrun, List.foldlM_cons] at h
      rw [if_neg hle]
      cases hstep : step s v with
      | error e => simp [hstep, bind, Except.bind] at h
      | ok s₁ =>
        simp only [hstep, bind, Except.bind] at h
        have htail := filter_tail_of_sorted hsorted (Nat.le_refl v)
        have hih := ih (n := v) hsorted.of_cons (by rwa [htail])
        rw [htail] at hih
        simpa only [hrun, List.getLastD_cons] using hih

/-- Each migration is a transaction of its own: whatever the outcome, the loop leaves the
database that the first few versions it runs produce, each applied whole. -/
theorem applyFrom_commits_prefix (hsorted : vs.Pairwise (· < ·)) (n : Nat) (s : Schema) :
    ∃ k, ((vs.filter (n < ·)).take k).foldlM step s = .ok (applyFrom n vs s).2 := by
  induction vs generalizing n s with
  | nil => exact ⟨0, rfl⟩
  | cons v rest ih =>
    rw [applyFrom]
    by_cases hle : v ≤ n
    · rw [if_pos hle, filter_cons_of_le hle]
      exact ih hsorted.of_cons n s
    · rw [if_neg hle, filter_cons_of_sorted hsorted hle]
      cases hstep : step s v with
      | error e =>
        -- the failing migration is rolled back: nothing of it stays
        exact ⟨0, rfl⟩
      | ok s₁ =>
        obtain ⟨k, hk⟩ := ih hsorted.of_cons v s₁
        rw [filter_tail_of_sorted hsorted (Nat.le_refl v)] at hk
        refine ⟨k + 1, ?_⟩
        rw [List.take_succ_cons, List.foldlM_cons, hstep]
        exact hk

end Loop

/-! ## The migrations this library knows -/

theorem migrations_sorted : migrations.Pairwise (· < ·) := by
  decide

theorem migrations_fit : ∀ v ∈ migrations, v ≤ 2147483647 := by
  decide

theorem migrations_le_latest : ∀ v ∈ migrations, v ≤ latest := by
  decide

/-- The migrations above version `n` are the versions `n + 1` to `latest`. -/
theorem migrations_above (n : Nat) :
    migrations.filter (n < ·) = List.range' (n + 1) (latest - n) := by
  match n with
  | 0 => rfl
  | 1 => rfl
  | n + 2 => simp [migrations, latest]

theorem getLastD_range' (n k : Nat) : (List.range' (n + 1) k).getLastD n = n + k := by
  rw [List.getLastD_eq_getLast?, List.getLast?_range']
  split
  · simp_all
  · rw [Option.getD_some]
    omega

/-! ## Layouts that migrations produce -/

/-- The layout that migrations `1` to `min v latest` leave, with version `v` recorded: nothing
at all up to version 0; the core tables and the metadata row from version 1 on; the decorator
column and the indexes from version 2 on. Before version 2 there is no decorator column, so no
choice row has a decorator. SQLite keeps the version in 32 bits. -/
structure Produced (v : Int) (s : Schema) : Prop where
  recorded : s.recorded = v
  fits : -2147483648 ≤ v ∧ v ≤ 2147483647
  core : s.coreTables = decide (1 ≤ v)
  decorators : s.decorators = decide (2 ≤ v)
  indexes : s.indexes = decide (2 ≤ v)
  metaRow : s.metaVersion.isSome = decide (1 ≤ v)
  empty : v < 1 → s.tables = {}
  undecorated : v < 2 → ∀ c ∈ s.tables.choices, c.decorator = none

/-- Migration `v + 1` takes the layout of version `v` to that of version `v + 1`, and writes
`v + 1` into the metadata row. -/
theorem Produced.next {s : Schema} {v : Int} (hs : s.Produced v) (h0 : 0 ≤ v) (hv : v < latest) :
    ∃ s', step s (v.toNat + 1) = .ok s' ∧ s'.Produced (v + 1) ∧
      s'.metaVersion = some (v + 1) := by
  obtain rfl | rfl : v = 0 ∨ v = 1 := by simp only [latest] at hv; omega
  · -- version 1 creates the core tables; there were none, so there is no row
    have hempty := hs.empty (by decide)
    refine ⟨_, step_eq_ok.2 (.inl ⟨rfl, rfl⟩),
      ⟨rfl, by decide, rfl, ?_, ?_, rfl, ?_, ?_⟩, rfl⟩
    · simpa using hs.decorators
    · simpa using hs.indexes
    · intro h
      exact absurd h (by decide)
    · intro _ c hc
      simp [hempty] at hc
  · -- version 2 adds the decorator column to the core tables of version 1
    have hcore : s.coreTables = true := by simpa using hs.core
    have hdec : s.decorators = false := by simpa using hs.decorators
    have hrow : s.metaVersion.isSome := by simpa using hs.metaRow
    have hstep : step s 2 = _ := step_eq_ok.2 (.inr ⟨by decide, hcore, hdec, rfl⟩)
    refine ⟨_, hstep, ⟨by simp [record], by decide, hcore, rfl, rfl, ?_, ?_, ?_⟩,
      metaVersion_of_step hstep (.inr hrow)⟩
    · simpa using hrow
    · intro h
      exact absurd h (by decide)
    · intro h
      exact absurd h (by decide)

/-- The pending migrations, run in order, take the layout of version `v` to that of version
`v + k`, and end with `v + k` in the metadata row when one ran. -/
theorem Produced.run {s : Schema} {v : Int} (hs : s.Produced v) (h0 : 0 ≤ v) (k : Nat)
    (hk : v + k ≤ latest) :
    ∃ s', (List.range' (v.toNat + 1) k).foldlM step s = .ok s' ∧ s'.Produced (v + k) ∧
      (0 < k → s'.metaVersion = some (v + k)) := by
  induction k generalizing s v with
  | zero => exact ⟨s, rfl, by simpa using hs, by omega⟩
  | succ k ih =>
    obtain ⟨s₁, hstep, hs₁, hmeta₁⟩ := hs.next h0 (by omega)
    obtain ⟨s', hrun, hs', hmeta'⟩ := ih hs₁ (by omega) (by omega)
    have hv : v + 1 + (k : Int) = v + ((k + 1 : Nat) : Int) := by omega
    refine ⟨s', ?_, hv ▸ hs', fun _ => ?_⟩
    · have hstart : (v + 1).toNat + 1 = v.toNat + 1 + 1 := by omega
      rw [hstart] at hrun
      rw [List.range'_succ, List.foldlM_cons, hstep]
      exact hrun
    · cases k with
      | zero =>
        -- no migration ran after `v + 1`
        have hs₁' : s₁ = s' := by simpa [pure, Except.pure] using hrun
        rw [← hs₁', hmeta₁]
        simp
      | succ k => exact hv ▸ hmeta' (by omega)

/-! ## Migrating a database -/

/-- After a successful run, a second run finds nothing to do: it gives the same version back and
changes nothing. -/
theorem migrate_twice {t t' : Schema} {n : Nat} (h : t.migrate = (.ok n, t')) :
    t'.migrate = (.ok n, t') := by
  cases hv : t.version with
  | error e => simp [migrate_of_version_error hv] at h
  | ok m =>
    rw [migrate_of_version_ok hv] at h
    rw [migrate_of_version_ok (version_of_applyFrom_ok hv migrations_fit h)]
    exact applyFrom_of_forall_le (le_of_applyFrom_ok h).2 t'

/-- **Migrations bring a layout up to the newest one, once.** For a database whose layout is
the one the migrations up to its version `v` leave: a negative version fails to be read and
nothing changes; below the newest version, exactly the migrations `v + 1` to `latest` run in
ascending order, after which the version, in the header and in the metadata row, is the newest,
the layout is the newest one and every row is kept; at or above the newest version nothing
changes and `v` is given back. On every database, a second run after a successful one finds
nothing to do, and each migration runs as a transaction of its own: the database left is the one
the first few pending migrations produce, each whole. -/
theorem migrate_brings_to_latest (s : Schema) (v : Int) (hs : s.Produced v) :
    (v < 0 → s.migrate = (.error (.sql (.conversion .tooSmall)), s)) ∧
    (0 ≤ v → v < latest →
      ∃ s', (List.range' (v.toNat + 1) (latest - v.toNat)).foldlM step s = .ok s' ∧
        s.migrate = (.ok latest, s') ∧ s'.Produced latest ∧ s'.metaVersion = some (latest : Int) ∧
        s'.tables = s.tables) ∧
    (latest ≤ v → s.migrate = (.ok v.toNat, s)) ∧
    (∀ (t t' : Schema) (n : Nat), t.migrate = (.ok n, t') → t'.migrate = (.ok n, t')) ∧
    (∀ (t : Schema) (n : Nat), t.version = .ok n →
      ∃ k, ((List.range' (n + 1) (latest - n)).take k).foldlM step t = .ok t.migrate.2) := by
  have hversion : 0 ≤ v → s.version = .ok v.toNat := fun h0 =>
    version_of_recorded (by rw [hs.recorded]; omega) (by have := hs.fits; omega)
  refine ⟨fun hneg => migrate_of_version_error (version_of_neg (hs.recorded ▸ hneg)),
    fun h0 hlt => ?_, fun hge => ?_, fun _ _ _ h => migrate_twice h, fun t n hv => ?_⟩
  · obtain ⟨s', hrun, hs', hmeta⟩ := hs.run h0 (latest - v.toNat) (by omega)
    have hlatest : v + ((latest - v.toNat : Nat) : Int) = latest := by omega
    have hm : s.migrate = (.ok latest, s') := by
      rw [migrate_of_version_ok (hversion h0),
        applyFrom_of_foldlM migrations_sorted (by rwa [migrations_above]), migrations_above,
        getLastD_range', Nat.add_sub_of_le (by omega)]
    refine ⟨s', hrun, hm, hlatest ▸ hs', hlatest ▸ hmeta (by omega), ?_⟩
    -- no migration writes a row
    simpa [hm] using tables_migrate s
  · rw [migrate_of_version_ok (hversion (by omega)),
      applyFrom_of_forall_le (fun w hw => Nat.le_trans (migrations_le_latest w hw) (by omega)) s]
  · rw [migrate_of_version_ok hv, ← migrations_above]
    exact applyFrom_commits_prefix migrations_sorted n t

/-- A version 1 database holding a user comes out at the newest version with the user kept. -/
theorem migrate_upgrades_version_one :
    Produced 1 { recorded := 1, coreTables := true, metaVersion := some 1,
                 tables := { users := [⟨1, "alice", none⟩] } } ∧
    ∃ s', Schema.migrate { recorded := 1, coreTables := true, metaVersion := some 1,
                           tables := { users := [⟨1, "alice", none⟩] } } = (.ok latest, s') ∧
      s'.tables.users = [⟨1, "alice", none⟩] ∧ s'.metaVersion = some 2 := by
  have hs : Produced 1 { recorded := 1, coreTables := true, metaVersion := some 1,
                         tables := { users := [⟨1, "alice", none⟩] } } :=
    ⟨rfl, by decide, rfl, rfl, rfl, rfl, fun h => absurd h (by decide),
      fun _ c hc => by simp at hc⟩
  obtain ⟨-, hup, -⟩ := migrate_brings_to_latest _ 1 hs
  obtain ⟨s', -, hm, -, hmeta, ht⟩ := hup (by decide) (by decide)
  exact ⟨hs, s', hm, by rw [ht], hmeta⟩

end Schema
end ListField
