import ListField.Choices

/-!
# Looking a choice up by id

A field's choices are looked up by id through an index (`Choices.index`), built as the store
builds it: walking the list, each choice's id is inserted with its place, so that a later place
overwrites an earlier one; a lookup reads the place off the index, then the choice at that place.
This file checks the index against a scan of the list, stated on places of the list,
`IsLast vs x j c`: the choice `c` sits at place `j`, has id `x`, and no choice after it has.

* `getElem?_indexFrom`, `contains_indexFrom`: inserting along a list leaves, for each id, its
  last place in the list, or what the map held before when the list has no such id;
* `getElem?_index`, `contains_eq_any`: so the index gives the mirror of where a scan from the end
  stops, and holds exactly the ids some choice has;
* `findIdx?_reverse_eq_some_iff`: a scan from the end stops at the last place;
* `rank?_eq_some_iff`, `rank?_eq_none_iff`: the rank of an id is its last place; an id that no
  choice has has no rank (it sorts after every ranked one);
* `lookups_follow_last_place`: membership, the choice of an id, its rank, its label and the
  choices of a list of ids all follow the last place.
-/

namespace ListField
namespace Choices

/-- The choice `c` sits at place `j` of `vs`, has id `x`, and no choice after it has id `x`. -/
def IsLast (vs : List Choice) (x : ValueId) (j : Nat) (c : Choice) : Prop :=
  vs[j]? = some c ∧ c.id = x ∧ ∀ k d, j < k → vs[k]? = some d → d.id ≠ x

/-! ## The index -/

/-- Inserting along a list gives an id the last place the list holds it at; an id the list does
not hold keeps what the map gave it. -/
theorem getElem?_indexFrom (m : Std.HashMap ValueId Nat) (place : Nat) (vs : List Choice)
    (x : ValueId) :
    (indexFrom m place vs)[x]? =
      ((vs.reverse.findIdx? (·.id == x)).map (place + vs.length - 1 - ·)).or m[x]? := by
  induction vs generalizing m place with
  | nil => simp [indexFrom]
  | cons c rest ih =>
    -- the scan from the end meets `rest` first, and `c`, the first insert, last
    rw [indexFrom, ih, Std.HashMap.getElem?_insert, List.reverse_cons, List.findIdx?_append]
    cases h : rest.reverse.findIdx? (·.id == x) with
    | some i => simp
    | none => by_cases hc : c.id = x <;> simp [hc]

theorem contains_indexFrom (m : Std.HashMap ValueId Nat) (place : Nat) (vs : List Choice)
    (x : ValueId) : (indexFrom m place vs).contains x = (vs.any (·.id == x) || m.contains x) := by
  induction vs generalizing m place with
  | nil => simp [indexFrom]
  | cons c rest ih =>
    rw [indexFrom, ih, Std.HashMap.contains_insert, List.any_cons]
    cases c.id == x <;> simp

/-- The index gives an id the mirror of where a scan from the end of the list stops. -/
theorem getElem?_index (cs : Choices) (x : ValueId) :
    cs.index[x]? = (cs.values.reverse.findIdx? (·.id == x)).map (cs.values.length - 1 - ·) := by
  rw [index, getElem?_indexFrom, Std.HashMap.getElem?_emptyWithCapacity, Option.or_none,
    Nat.zero_add]

/-- The index holds exactly the ids some choice has. -/
theorem contains_eq_any (cs : Choices) (x : ValueId) :
    cs.contains x = cs.values.any (·.id == x) := by
  rw [contains, index, contains_indexFrom, Std.HashMap.contains_emptyWithCapacity, Bool.or_false]

/-! ## Last places -/

variable {vs : List Choice} {x : ValueId}

theorem IsLast.lt_length {j : Nat} {c : Choice} (h : IsLast vs x j c) : j < vs.length :=
  (List.getElem?_eq_some_iff.1 h.1).1

/-- A scan from the end stops at the mirror of the last place holding the id. -/
theorem findIdx?_reverse_eq_some_iff {i : Nat} :
    vs.reverse.findIdx? (·.id == x) = some i ↔
      i < vs.length ∧ ∃ c, IsLast vs x (vs.length - 1 - i) c := by
  constructor
  · intro h
    obtain ⟨hi, hp, hmin⟩ := List.findIdx?_eq_some_iff_getElem.1 h
    have hi' : i < vs.length := by simpa using hi
    refine ⟨hi', vs.reverse[i], ?_, by simpa using hp, fun k d hk hd hid => ?_⟩
    · rw [← List.getElem?_reverse hi', List.getElem?_eq_getElem hi]
    · -- a later place of `vs` is an earlier place of the reversed list
      have hk : k < vs.length := (List.getElem?_eq_some_iff.1 hd).1
      have hrev : vs.reverse[vs.length - 1 - k]? = some d := by
        rw [List.getElem?_reverse (by omega),
          show vs.length - 1 - (vs.length - 1 - k) = k by omega, hd]
      obtain ⟨_, hd'⟩ := List.getElem?_eq_some_iff.1 hrev
      exact hmin (vs.length - 1 - k) (by omega) (by rw [hd', hid]; exact beq_self_eq_true x)
  · rintro ⟨hi, c, hc, hid, hlast⟩
    have hi' : i < vs.reverse.length := by simpa using hi
    have hrev : vs.reverse[i]? = some c := by rw [List.getElem?_reverse hi, hc]
    refine List.findIdx?_eq_some_iff_getElem.2 ⟨hi', ?_, fun m hm hp => ?_⟩
    · rw [(List.getElem?_eq_some_iff.1 hrev).2]
      simp [hid]
    · -- an earlier place of the reversed list is a later place of `vs`
      have hm' : vs.reverse[m]? = vs[vs.length - 1 - m]? := List.getElem?_reverse (by omega)
      rw [List.getElem?_eq_getElem (by omega)] at hm'
      exact hlast _ _ (by omega) hm'.symm (by simpa using hp)

variable {cs : Choices}

/-- The rank of an id is the last place holding it. -/
theorem rank?_eq_some_iff {j : Nat} : cs.rank? x = some j ↔ ∃ c, IsLast cs.values x j c := by
  simp only [rank?, getElem?_index, Option.map_eq_some_iff, findIdx?_reverse_eq_some_iff]
  constructor
  · rintro ⟨i, ⟨-, hlast⟩, rfl⟩
    exact hlast
  · rintro ⟨c, hlast⟩
    have hj := hlast.lt_length
    refine ⟨cs.values.length - 1 - j, ⟨by omega, c, ?_⟩, by omega⟩
    rwa [show cs.values.length - 1 - (cs.values.length - 1 - j) = j by omega]

/-- An id that no choice has has no rank. -/
theorem rank?_eq_none_iff : cs.rank? x = none ↔ ∀ c ∈ cs.values, c.id ≠ x := by
  simp [rank?, getElem?_index, List.findIdx?_eq_none_iff]

/-- The choice found for an id is the one at its rank. -/
theorem find?_eq_rank?_bind (cs : Choices) (x : ValueId) :
    cs.find? x = (cs.rank? x).bind (cs.values[·]?) :=
  rfl

theorem find?_of_isLast {j : Nat} {c : Choice} (h : IsLast cs.values x j c) :
    cs.find? x = some c := by
  rw [find?_eq_rank?_bind, rank?_eq_some_iff.2 ⟨c, h⟩]
  exact h.1

theorem find?_of_forall_ne (h : ∀ c ∈ cs.values, c.id ≠ x) : cs.find? x = none := by
  rw [find?_eq_rank?_bind, rank?_eq_none_iff.2 h]
  rfl

/-- **Lookups by id follow the last place of the id.** Every lookup goes through the index
(`Choices.index`), and answers as a scan of the list would: an id is known when some choice has
it; then the choice, the rank and the label all come from its last place, and otherwise the lookup
fails naming the field and the id, the id has no rank and no label. `noneId` is always labelled
with the none label. The choices of a list of ids are those found, in the order of the list. -/
theorem lookups_follow_last_place (cs : Choices) (x : ValueId) (xs : List ValueId) :
    (cs.contains x = true ↔ ∃ c ∈ cs.values, c.id = x) ∧
    (∀ j c, IsLast cs.values x j c →
      cs.get x = .ok c ∧ cs.rank? x = some j ∧
        cs.labelFor x = some (if x = noneId then cs.noneLabel else cs.source.display c)) ∧
    ((∀ c ∈ cs.values, c.id ≠ x) →
      cs.get x = .error ⟨cs.field, x⟩ ∧ cs.rank? x = none ∧
        cs.labelFor x = if x = noneId then some cs.noneLabel else none) ∧
    cs.pick xs = xs.filterMap fun y => (cs.get y).toOption := by
  refine ⟨by simp [contains_eq_any], fun j c hlast => ?_, fun hnone => ?_, ?_⟩
  · have hfind := find?_of_isLast hlast
    refine ⟨by simp [get, hfind], rank?_eq_some_iff.2 ⟨c, hlast⟩, ?_⟩
    by_cases hx : x = noneId <;> simp [labelFor, hx, hfind]
  · have hfind := find?_of_forall_ne hnone
    refine ⟨by simp [get, hfind], rank?_eq_none_iff.2 hnone, ?_⟩
    by_cases hx : x = noneId <;> simp [labelFor, hx, hfind]
  · -- a lookup that fails drops the id, one that succeeds gives its choice
    have hget (y : ValueId) : (cs.get y).toOption = cs.find? y := by
      cases h : cs.find? y <;> simp [get, h, Except.toOption]
    simp only [pick, hget]

example : ({ field := 1, source := .static,
             values := [Choice.make 101 "Open", Choice.make 102 "Closed",
               Choice.make 101 "Reopened"] } : Choices).rank? 101 = some 2 := by
  cbv

end Choices
end ListField
