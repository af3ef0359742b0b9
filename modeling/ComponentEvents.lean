import ComponentEvents.Catalogue
import ComponentEvents.Config.Settings
import ComponentEvents.Extraction.Events
import ComponentEvents.Schema.Equality
import ComponentEvents.Schema.Reader
import ComponentEvents.TypeExpr.Build
import ComponentEvents.TypeExpr.Read
import ComponentEvents.Proofs.Alike.Nullish
import ComponentEvents.Proofs.Alike.Renamed
import ComponentEvents.Proofs.Drops.Warnings
import ComponentEvents.Proofs.Extraction.Accounts
import ComponentEvents.Proofs.Extraction.Alias
import ComponentEvents.Proofs.Extraction.Detection
import ComponentEvents.Proofs.Extraction.Failure
import ComponentEvents.Proofs.Extraction.Limit
import ComponentEvents.Proofs.Extraction.Locality
import ComponentEvents.Proofs.Extraction.Message
import ComponentEvents.Proofs.Extraction.Optionality
import ComponentEvents.Proofs.Extraction.Pointwise
import ComponentEvents.Proofs.Extraction.Sources
import ComponentEvents.Proofs.Handler.Leaves
import ComponentEvents.Proofs.Payload.Fields
import ComponentEvents.Proofs.Payload.Nullable
import ComponentEvents.Proofs.Payload.Offender
import ComponentEvents.Proofs.Schema.Acceptance
import ComponentEvents.Proofs.Schema.RoundTrip
import ComponentEvents.Proofs.Walk.Concurrence
import ComponentEvents.Proofs.Walk.Fuel
import ComponentEvents.Proofs.Walk.History
import ComponentEvents.Proofs.Walk.Innermost
import ComponentEvents.Proofs.Walk.Trail
