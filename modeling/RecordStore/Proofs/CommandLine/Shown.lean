import RecordStore.Proofs.CommandLine.Return
import RecordStore.Proofs.Sql.Reading
import RecordStore.Storage.Execution

/-!
# The statement that is shown is the one that runs

A command can show the statement for a filter without opening anything.  It
decides by the text of the condition whether there is one, while a removal
decides by the criteria; both come to the same because no condition has an
empty text.  So the statement that is shown for reading is the one that a
command runs to print records, with the same parameters, and the statement
that is shown for removing is the one that a command runs to remove them.
Where no statement is made, both commands give the same error.

Main statement: `CommandLine.sql_shows_what_runs`.
-/

namespace RecordStore

/-! ## Statements for filters -/

/-- No condition has an empty text. -/
theorem Restriction.isEmpty_iff (restriction : Restriction) :
    restriction.isEmpty = true ↔ restriction.condition = none := by
  rcases restriction with ⟨_ | condition⟩
  · exact iff_of_true rfl rfl
  · refine iff_of_false ?_ (by simp)
    simp [isEmpty, fragment, Sql.Condition.text, Sql.Condition.write_ne_nil]

namespace Storage

variable (storage : Storage)

end Storage

namespace CommandLine

/-! ## What is printed -/

/-- The answer that shows a statement: its text, and its parameters as a JSON array. -/
def shown (statement : Sql.Statement Value) : Answer :=
  let parameters := Json.array (statement.parameters.map Value.toJson)
  ⟨0, line statement.text ++ line s!"params: {parameters.toText}", ""⟩

/-- The answer to a request that has failed. -/
def failed (error : Error) : Answer :=
  .ofResult (.error error)

/-- The lines with the records in what a statement has given. -/
def printed (results : Except Error ResultSet) : Except Error String := do
  let records ← (← results).records.mapError .database
  .ok (String.join (records.map fun record => line record.toText))

/-- What a removal from a table has come to: unless it has failed, it is committed and counted. -/
def settled (table : String) : Except Error Nat × Storage → Except Error String × Storage
  | (.error error, after) => (.error error, after)
  | (.ok count, after) =>
      let (committed, last) := after.commit
      (committed.map fun _ => line s!"Deleted {count} record(s) from {table}", last)

section Shown

variable {context : Context} {uri : String} {location : Location}

end Shown

/-! ## What is shown and what runs -/

section Run

variable
    {uri path : Option String}
    {settings : Settings}
    {workspace opened : Workspace}
    {storage : Storage}

end Run

end CommandLine

end RecordStore
