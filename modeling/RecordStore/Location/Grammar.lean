import RecordStore.Location

/-!
# The texts that stand for a location

The same location can be written in several ways.  Blanks may stand between
the last colon and the name of the table, and after the name anything may
follow that starts with a blank and has no colon.
-/

namespace RecordStore.Location

/-- The location names a database, and a table by an identifier. -/
structure IsProper (location : Location) : Prop where
  isSqlite : location.backend = .sqlite
  hasDatabase : location.database ≠ ""
  isIdentifier : Identifier.check location.table = .ok ()

/-- The text has the parts of the location in their places. -/
def IsSpelling (location : Location) (text : String) : Prop :=
  ∃ blanks tail : String,
    text = "sqlite://" ++ location.database ++ ":" ++ blanks ++ location.table ++ tail ∧
      (∀ c ∈ blanks.toList, Text.isBlank c = true) ∧
      ':' ∉ tail.toList ∧
      ∀ c ∈ tail.toList.head?, Text.isBlank c = true

end RecordStore.Location
