import RecordStore.Database.Image
import RecordStore.Workspace.Basic

/-!
# Files of a workspace

What a file holds is known from its text: the image of a database, or any
other text.
-/

namespace RecordStore

namespace Content

/-- What a file with a text holds. -/
def ofText (text : String) : Content :=
  match Database.ofImage? text with
  | some found => .database found
  | none => .text text

/-- The text of a file. -/
def toText : Content → String
  | text content => content
  | database content => content.toImage

end Content

namespace Workspace

/-- The places that lead to another one, itself included, from above. -/
def placesTo (place : Path.Place) : List Path.Place :=
  (List.range place.length).map fun count => place.take (count + 1)

/-- What one workspace has that another has not, in order. -/
def changes (before after : Workspace) : List (Path.Place × Entry) :=
  after.entries.filter fun entry => before.entry? entry.1 != some entry.2

end Workspace

end RecordStore
