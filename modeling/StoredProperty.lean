import StoredProperty.Implementation
import StoredProperty.Main
import StoredProperty.Package
import StoredProperty.Proofs.Accessor.Display
import StoredProperty.Proofs.Accessor.Meaning
import StoredProperty.Proofs.Declaration.Verdict
import StoredProperty.Proofs.Diagnostic
import StoredProperty.Proofs.Expansion.Batch
import StoredProperty.Proofs.Expansion.Chronicle
import StoredProperty.Proofs.Expansion.Configuration
import StoredProperty.Proofs.Expansion.Outcome
import StoredProperty.Proofs.Expansion.Quoted
import StoredProperty.Proofs.Expansion.Stream
import StoredProperty.Proofs.Expansion.Written
import StoredProperty.Proofs.Implementation.Fields
import StoredProperty.Proofs.Settings.Described
import StoredProperty.Proofs.Settings.Tally
import StoredProperty.Proofs.Settings.WriteBack
import StoredProperty.Proofs.Source.Layer
import StoredProperty.Proofs.Store.FiniteMap
import StoredProperty.Proofs.Store.Float
import StoredProperty.Proofs.Store.Journal
import StoredProperty.Proofs.Store.Padding
import StoredProperty.Settings.Catalogue
