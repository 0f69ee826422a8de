import RecordStore.Storage.Account

/-!
# What others see of a session

Other connections to the database in a file look into the file, and so do
storages that are opened when a session is over.  While a session goes on,
others may do what they like as long as they leave that file alone.
-/

namespace RecordStore

namespace Workspace

/--
A change of the workspace leaves alone the database at a place: its file, the
place of its journal, and what connections to it are changing.  Nobody begins
to write there.
-/
structure LeavesAlone (before after : Workspace) (place : Path.Place) : Prop where
  entry_eq : Workspace.entry? after place = Workspace.entry? before place
  journal :
    after.isDirectory (Path.journal place) = true →
      before.isDirectory (Path.journal place) = true
  changing_eq : after.changing? place = before.changing? place
  noNewWriter :
    ∀ hold ∈ after.holds, hold.place = place → hold.lock.isWriting = true → hold ∈ before.holds

end Workspace

/--
A storage watches the database of another one: it changes nothing itself, and
it looks into the file, which a connection does not that shares what the other
one knows, or that takes the database for one that never changes.
-/
structure Storage.Watches (second first : Storage) : Prop where
  place_eq : second.connection.place = first.connection.place
  notWriting : second.isWriting = false
  notFrozen : second.connection.isFrozen = false
  apart : second.connection.isShared = true → first.connection.isShared = false

namespace Session

end Session

end RecordStore
