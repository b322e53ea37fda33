import ListField.Choices
/-!
# Changes between two selections

`Change.between` classifies how a field's value moved from one selection to the next.
Both selections are normalized first and compared as sets, so order, repeats and
`noneId` never make a change:

* equal sets: no change;
* the new set is empty: `cleared`;
* the old set is empty: `setTo` the new selection;
* one value before and one after: `changedFrom`;
* otherwise `changed`, listing the removed and the added ids in selection order.

`Change.render` writes a change with the labels the field has *now*, so renaming a
choice renames it in old history too. An id without a choice is written `#<id>`.
Lists of ids are written in the field's configured order (unknown ids last, by id),
without repeats, joined by a separator.
-/

namespace ListField

/-- How a field's value moved from one selection to the next. -/
inductive Change where
  /-- The field was emptied. -/
  | cleared
  /-- The field was empty and now holds `values`. -/
  | setTo (values : List ValueId)
  /-- The field held one value and now holds another one. -/
  | changedFrom (old new : ValueId)
  /-- Any other change. -/
  | changed (removed added : List ValueId)
  deriving DecidableEq, Repr

namespace Change

/-- The change from selection `previous` to selection `next`, if the two ask for
different sets of values. -/
def between (previous next : List ValueId) : Option Change :=
  let before := Selection.normalize previous
  let after := Selection.normalize next
  if Selection.sameSet before after then none
  else if after.isEmpty then some .cleared
  else if before.isEmpty then some (.setTo after)
  else
    match before, after with
    | [old], [new] => some (.changedFrom old new)
    | _, _ => some (.changed (before.filter (· ∉ after)) (after.filter (· ∉ before)))

/-- The text of one id: its label, or `#<id>` when it names no choice. -/
def idLabel (cs : Choices) (id : ValueId) : String :=
  (cs.labelFor id).getD ("#" ++ toString id)

/-- Whether id `a` comes before or with id `b` in the field's configured order:
ranked ids by rank, unranked ids after them, ties by id. -/
def rankedLE (cs : Choices) (a b : ValueId) : Bool :=
  match cs.rank? a, cs.rank? b with
  | some i, some j => i < j || (i == j && a ≤ b)
  | some _, none => true
  | none, some _ => false
  | none, none => a ≤ b

/-- A list without runs of equal neighbours. -/
def dropRepeats : List ValueId → List ValueId
  | [] => []
  | [a] => [a]
  | a :: b :: rest => if a == b then dropRepeats (b :: rest) else a :: dropRepeats (b :: rest)

/-- Ids written in the field's order, without repeats, joined by `sep`. -/
def idLabels (cs : Choices) (sep : String) (ids : List ValueId) : String :=
  sep.intercalate ((dropRepeats (ids.mergeSort (rankedLE cs))).map (idLabel cs))

/-- The sentence that describes a change. -/
def render (cs : Choices) (sep : String) : Change → String
  | .cleared => "cleared"
  | .setTo values => "set to " ++ idLabels cs sep values
  | .changedFrom old new => "changed from " ++ idLabel cs old ++ " to " ++ idLabel cs new
  | .changed removed added =>
    let lines :=
      (if removed.isEmpty then [] else [idLabels cs sep removed ++ " removed"]) ++
      (if added.isEmpty then [] else [idLabels cs sep added ++ " added"])
    "\n".intercalate lines

/-- The sentence for the change between two selections, if there is one. -/
def describe (cs : Choices) (sep : String) (previous next : List ValueId) : Option String :=
  (between previous next).map (render cs sep)

/-- The change as a JSON object tagged by `kind`. -/
def toJson : Change → Json
  | .cleared => .obj [("kind", .str "cleared")]
  | .setTo values => .obj [("kind", .str "set_to"), ("values", Json.ints values)]
  | .changedFrom old new => .obj [("kind", .str "changed_from"), ("from", Json.int old), ("to", Json.int new)]
  | .changed removed added =>
    .obj [("kind", .str "changed"), ("removed", Json.ints removed), ("added", Json.ints added)]

theorem between_self (ids : List ValueId) : between ids ids = none := by
  simp [between, Selection.sameSet]

end Change
end ListField
