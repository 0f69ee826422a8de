import RecordStore.Main
import RecordStore.Proofs.CommandLine.Return
import RecordStore.Proofs.CommandLine.Shown
import RecordStore.Proofs.Criteria.Gap
import RecordStore.Proofs.Criteria.NamedTest
import RecordStore.Proofs.Criteria.Spelling
import RecordStore.Proofs.Identifier.Grammar
import RecordStore.Proofs.Location
import RecordStore.Proofs.Settings
import RecordStore.Proofs.Storage.Account
import RecordStore.Proofs.Storage.Binding
import RecordStore.Proofs.Storage.Identity
import RecordStore.Proofs.Storage.Opening
import RecordStore.Proofs.Storage.Partial
import RecordStore.Proofs.Storage.Partition
import RecordStore.Proofs.Storage.Put
import RecordStore.Proofs.Storage.Return
import RecordStore.Proofs.Storage.Scalar
import RecordStore.Proofs.Storage.Scene
import RecordStore.Proofs.Storage.Selection
import RecordStore.Proofs.Storage.Visibility
import RecordStore.Proofs.Value
import RecordStore.Storage.Connection
