import RealmRegistry.Command.Rehearsal
import RealmRegistry.Main
import RealmRegistry.Store.Fixed
import RealmRegistry.Store.Memory
import RealmRegistry.Proofs.Access.Problems
import RealmRegistry.Proofs.Json.Lexeme
import RealmRegistry.Proofs.Json.Numeral
import RealmRegistry.Proofs.Json.RoundTrip
import RealmRegistry.Proofs.Realm.ContextKey
import RealmRegistry.Proofs.Realm.Records
import RealmRegistry.Proofs.Registry.Attempt
import RealmRegistry.Proofs.Registry.History
import RealmRegistry.Proofs.Registry.Integrity
import RealmRegistry.Proofs.Registry.ReadBack
import RealmRegistry.Proofs.Registry.Authorizations
import RealmRegistry.Proofs.Registry.Interleaving
import RealmRegistry.Proofs.Registry.Overlap
import RealmRegistry.Proofs.Settings.RoundTrip
import RealmRegistry.Proofs.Registry.Concurrency
import RealmRegistry.Proofs.Files.Rows
import RealmRegistry.Proofs.Command.Stages
import RealmRegistry.Proofs.Command.Frame
import RealmRegistry.Proofs.Command.Storage
import RealmRegistry.Proofs.Command.Options
import RealmRegistry.Proofs.Command.Listing
import RealmRegistry.Proofs.Registry.Steps
import RealmRegistry.Proofs.Registry.Interchange
import RealmRegistry.Proofs.Command.Prediction
import RealmRegistry.Proofs.Json.Members
import RealmRegistry.Proofs.Realm.Migration
import RealmRegistry.Proofs.Registry.FirstFault
import RealmRegistry.Proofs.Registry.Configurations
import RealmRegistry.Proofs.Command.Configurations
import RealmRegistry.Proofs.Json.Ordered
import RealmRegistry.Proofs.Schema.Passes
import RealmRegistry.Proofs.Schema.Known
import RealmRegistry.Proofs.Realm.KnownKeys
import RealmRegistry.Proofs.Schema.Positional
import RealmRegistry.Proofs.Realm.NonObjects
import RealmRegistry.Proofs.Realm.Texts
import RealmRegistry.Proofs.Access.Catalog
import RealmRegistry.Proofs.Settings.Defaults
