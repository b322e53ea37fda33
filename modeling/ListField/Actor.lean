import ListField.Ids
import ListField.Text.Json
/-!
# Actors

The actor is the user on whose behalf a request runs, with the groups they belong
to. Group membership decides what they may read and write and which workflow
transitions they may take.
-/

namespace ListField

/-- A user acting in a request, with their groups. -/
structure Actor where
  id : UserId
  login : String
  groups : List GroupId := []
  deriving DecidableEq, Repr

namespace Actor

/-- Whether the actor belongs to group `g`. -/
def memberOf (a : Actor) (g : GroupId) : Bool := a.groups.contains g

/-- Whether the actor belongs to at least one of `gs`. -/
def memberOfAny (a : Actor) (gs : List GroupId) : Bool := gs.any a.memberOf

/-- The actor as a JSON object. -/
def toJson (a : Actor) : Json :=
  .obj [("id", Json.int a.id), ("login", .str a.login), ("groups", Json.ints a.groups)]

theorem memberOfAny_nil (a : Actor) : a.memberOfAny [] = false := rfl

end Actor
end ListField
