import LayerDoc.Main
import LayerDoc.Json.Reader
import LayerDoc.Resolution
import LayerDoc.Proofs.Entries
import LayerDoc.Proofs.Identifier
import LayerDoc.Proofs.Resolution
import LayerDoc.Proofs.Reading
import LayerDoc.Proofs.Editor.Run
import LayerDoc.Proofs.Editor.LayerIds
import LayerDoc.Proofs.History.Timeline
import LayerDoc.Proofs.Editor.Pages
import LayerDoc.Proofs.Editor.Nesting
import LayerDoc.Proofs.Editor.Selection
import LayerDoc.Proofs.Editor.Timeline
import LayerDoc.Proofs.Tsx.Closed
import LayerDoc.Proofs.Tsx.Meaning
import LayerDoc.Proofs.Editor.RoundTrip
import LayerDoc.Proofs.Editor.JsonData
import LayerDoc.Proofs.Editor.Accounts
import LayerDoc.Proofs.Tsx.Identity
import LayerDoc.Proofs.Tsx.Interface
import LayerDoc.Proofs.Tsx.Excluded
import LayerDoc.Proofs.Tsx.Names
import LayerDoc.Proofs.Tsx.Outline
import LayerDoc.Proofs.Store.Moving
import LayerDoc.Proofs.Store.Copying
import LayerDoc.Proofs.Store.Updating
import LayerDoc.Proofs.Store.Releasing
import LayerDoc.Proofs.Store.Removing
import LayerDoc.Proofs.Store.Binding
import LayerDoc.Proofs.Store.Following
import LayerDoc.Proofs.Editor.Pinning
import LayerDoc.Proofs.Editor.Undoing
import LayerDoc.Proofs.Document.Saving
import LayerDoc.Proofs.Editor.Refilling
import LayerDoc.Proofs.Resolution.Inert
import LayerDoc.Proofs.Tsx.Attributes
import LayerDoc.Proofs.Store.Adding
import LayerDoc.Proofs.Tsx.Imports
import LayerDoc.Proofs.Forest.Ancestors
import LayerDoc.Proofs.Tsx.Data
import LayerDoc.Proofs.Identifier.Naming
import LayerDoc.Proofs.Tsx.Texts
import LayerDoc.Proofs.Function.Types
