import RecordStore.Record.Basic

/-!
# Reading records from JSON text

A record is an object of scalars.  The member `_id` is its identity: null,
or a whole number that fits a signed word; it must not be given twice.  The
type of the identity is checked where it stands; the other members are
checked when the object has ended, so that a fault of notation in a later
member comes before an array in an earlier one.
-/

namespace RecordStore.Record

open Json (Fault)

/-- What is known of a record while its members are read. -/
structure Draft where
  id : Option (Option Int64)
  members : List (String × Json)

/--
Refuses a value of the wrong type.

A word, a number or a string is read to its end first, and its own faults
win; an array or an object is refused at its first character.
-/
def refuse {α : Type} (input : List Char) : Except Fault (α × List Char) :=
  match input with
  | '[' :: _ => .error .mismatched
  | '{' :: _ => .error .mismatched
  | _ => do
      let _ ← Json.readValue 0 input
      .error .mismatched

/-- Reads an identity: null or a whole number that fits a signed word. -/
def readIdentity (input : List Char) :
    Except Fault (Option Int64 × List Char) :=
  let input := Json.skipSpace input
  match input with
  | '[' :: _ => refuse input
  | '{' :: _ => refuse input
  | _ => do
      let (json, rest) ← Json.readValue 0 input
      match json with
      | .null => .ok (none, rest)
      | .integer number =>
          if Value.fitsWord number then
            .ok (some (Int64.ofInt number), rest)
          else
            .error .mismatched
      | _ => .error .mismatched

/-- Reads one member after its name. -/
def readMember (draft : Draft) (name : String) (input : List Char) :
    Except Fault (Draft × List Char) :=
  if name = Field.identityName then
    if draft.id.isSome then
      .error .mismatched
    else do
      let rest ← Json.readColon input
      let (id, rest) ← readIdentity rest
      .ok ({ draft with id := some id }, rest)
  else do
    let rest ← Json.readColon input
    let (value, rest) ← Json.readValue (Json.maximalDepth - 1) rest
    .ok ({ draft with members := draft.members ++ [(name, value)] }, rest)

/-- The value of every member, when all of them are scalars. -/
def scalars : List (String × Json) → Except Fault (List (String × Value))
  | [] => .ok []
  | (name, json) :: rest =>
      match Value.ofBuffered? json with
      | none => .error .mismatched
      | some value => do
          let others ← scalars rest
          .ok ((name, value) :: others)

/-- The record of a draft. -/
def ofDraft (draft : Draft) : Except Fault Record := do
  let entries ← scalars draft.members
  .ok ⟨draft.id.join, Fields.ofList entries⟩

/-- Reads a text as one record. -/
def read (text : String) : Except Fault Record :=
  Json.finish <|
    let input := Json.skipSpace text.toList
    match input with
    | '{' :: rest => do
        let (draft, rest) ← Json.readObject readMember ⟨none, []⟩ rest
        let record ← ofDraft draft
        .ok (record, rest)
    | _ => refuse input

end RecordStore.Record
