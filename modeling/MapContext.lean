import MapContext.Capabilities.Json
import MapContext.Check
import MapContext.Context.Shared
import MapContext.Main
import MapContext.Sample
import MapContext.Workspace
import MapContext.Proofs.Context.Authored
import MapContext.Proofs.Context.Surgery
import MapContext.Proofs.Context.Validity
import MapContext.Proofs.Context.Announcing
import MapContext.Proofs.Context.Switching
import MapContext.Proofs.Context.SwitchSequence
import MapContext.Proofs.Text.Utf8
import MapContext.Proofs.Url.Query
import MapContext.Proofs.MapRequest
import MapContext.Proofs.Context.Drawing
import MapContext.Proofs.Context.Batches
import MapContext.Proofs.Context.Visibility
import MapContext.Proofs.Context.ServiceHistory
import MapContext.Proofs.Json.Formats
import MapContext.Proofs.Formats
import MapContext.Proofs.Context.DocumentFormat
import MapContext.Proofs.Capabilities.Written
import MapContext.Proofs.Capabilities.Steps
import MapContext.Proofs.Capabilities.LayerTree
import MapContext.Proofs.Capabilities.Truncation
import MapContext.Proofs.Context.Levels
import MapContext.Proofs.Context.Queries
import MapContext.Proofs.Context.Removing
import MapContext.Proofs.Forest.Planting
import MapContext.Proofs.Context.Inserting
import MapContext.Proofs.Context.FailedAppends
import MapContext.Proofs.Context.MovingBack
import MapContext.Proofs.Context.Depths
import MapContext.Proofs.Context.Promotion
import MapContext.Proofs.MapRequest.Merging
import MapContext.Proofs.MapRequest.Parameters
import MapContext.Proofs.Capabilities.Inheritance
import MapContext.Proofs.Capabilities.Outlines
import MapContext.Proofs.Capabilities.OpenLayers
import MapContext.Proofs.Context.LayerResources
import MapContext.Proofs.Context.Nesting
import MapContext.Proofs.Context.CommonCodes
import MapContext.Proofs.Context.TreeOrder
import MapContext.Proofs.Command.FileEffects
import MapContext.Proofs.Context.Checked
import MapContext.Proofs.Context.IndexRange
