import RecordStore.Storage.Records

/-!
# Running statements

A storage reads rows with one statement and removes them with another.  Here
the statements are run as they are, whatever they have been made from.  A
statement is run only as what it is: a removal gives no rows, and a query
changes none.
-/

namespace RecordStore.Storage

end RecordStore.Storage
