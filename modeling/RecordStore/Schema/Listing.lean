import Mathlib.Data.List.Forall2
import RecordStore.Schema

/-!
# Texts that list a schema

The fields of a schema can be listed in one text, with commas between them.
Blanks may stand on both sides of each name.  Other pieces may come in between,
in any number: empty ones, and the identity, which is no field.
-/

namespace RecordStore

end RecordStore
