import RecordStore.Text.Blank
import RecordStore.Text.Case

/-!
# Automatic commits

Puts join a transaction that someone has to commit.  The policy says when a
put does that by itself: never, always, or when a number of puts have
gathered since the last commit.
-/

namespace RecordStore

/-- When a put commits the transaction that it has joined. -/
inductive AutoCommit where
  | manual
  | everyPut
  | every (count : Nat) (positive : 0 < count)
  deriving DecidableEq, Repr

namespace AutoCommit

/-- The policy for a number of puts: none is manual, one commits every put. -/
def ofCount (count : Nat) : AutoCommit :=
  match count with
  | 0 => manual
  | 1 => everyPut
  | count + 2 => every (count + 2) (Nat.succ_pos _)

/-- The policy for a flag. -/
def ofFlag (enabled : Bool) : AutoCommit :=
  if enabled then everyPut else manual

/-- The greatest number of puts that a text can give. -/
def maximalCount : Nat := Nat.pow 2 64 - 1

/-- The number that a text of digits stands for, after an optional plus sign. -/
def readCount? (text : List Char) : Option Nat :=
  let digits :=
    match text with
    | '+' :: rest => rest
    | other => other
  if digits.isEmpty || !digits.all Char.isDigit then
    none
  else
    let count := digits.foldl (fun value c => 10 * value + (c.toNat - 48)) 0
    if count ≤ maximalCount then some count else none

/-- The words for no automatic commits. -/
def manualWords : List String := ["false", "manual", "off"]

/-- The words for a commit after every put. -/
def everyPutWords : List String := ["true", "always", "on"]

/-- The policy that a text names: one of the words in any letter case, or a number of puts. -/
def read? (text : String) : Option AutoCommit :=
  let word := Text.lower (Text.trim text)
  if manualWords.contains word then
    some manual
  else if everyPutWords.contains word then
    some everyPut
  else
    (readCount? word.toList).map ofCount

/-- The policy asks for a commit when this many puts are pending. -/
def fires (policy : AutoCommit) (pending : Nat) : Bool :=
  match policy with
  | manual => false
  | everyPut => true
  | every count _ => count ≤ pending

end AutoCommit

end RecordStore
