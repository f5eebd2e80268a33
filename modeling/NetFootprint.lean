import NetFootprint.About
import NetFootprint.Analysis
import NetFootprint.CommandLine.Run
import NetFootprint.Log.Logger
import NetFootprint.Main
import NetFootprint.Network.Build
import NetFootprint.Proofs.Graph.Session
import NetFootprint.Proofs.Graph.WellFormed
import NetFootprint.Proofs.Report.Defined
import NetFootprint.Proofs.Graph.Residency
import NetFootprint.Proofs.Report.Formula
import NetFootprint.Proofs.Report.Exact
import NetFootprint.Proofs.Layer.Number
import NetFootprint.Proofs.Layer.Refusal
import NetFootprint.Proofs.Layer.Explained
import NetFootprint.Proofs.Graph.OnDevice
import NetFootprint.Proofs.Graph.Refusal
import NetFootprint.Proofs.Layer.Untrained
import NetFootprint.Proofs.Graph.Untrained
import NetFootprint.Proofs.Report.Phase
import NetFootprint.Proofs.Layer.Extent
import NetFootprint.Proofs.Layer.Below
import NetFootprint.Proofs.Layer.Monotone
import NetFootprint.Proofs.Graph.Below
import NetFootprint.Proofs.Report.Tile
import NetFootprint.Proofs.Report.Reorder
import NetFootprint.Proofs.Report.Swap
import NetFootprint.Proofs.Layer.Gradient
import NetFootprint.Proofs.Graph.Staged
import NetFootprint.Proofs.Graph.Gradient
import NetFootprint.Proofs.Graph.Terminal
import NetFootprint.Proofs.Graph.Sharing
import NetFootprint.Proofs.Graph.OneRank
import NetFootprint.Proofs.Layer.Accept
import NetFootprint.Proofs.Layer.Inverse
import NetFootprint.Proofs.Graph.Accept
import NetFootprint.Proofs.Graph.Inverse
import NetFootprint.Proofs.Graph.UpConvolution
import NetFootprint.Proofs.Layer.Pooling
import NetFootprint.Proofs.Graph.Pooling
import NetFootprint.Proofs.Report.Nonneg
import NetFootprint.Proofs.Report.Increment
import NetFootprint.Proofs.Graph.Deformation
import NetFootprint.Proofs.Graph.Concat
import NetFootprint.Proofs.Report.Excluded
import NetFootprint.Proofs.Report.Dropout
import NetFootprint.Proofs.Declaration.Reading
import NetFootprint.Proofs.Declaration.Spelling
import NetFootprint.Proofs.Declaration.RoundTrip
import NetFootprint.Proofs.Graph.Recast
import NetFootprint.Proofs.Graph.Marks
import NetFootprint.Proofs.Graph.Pending
import NetFootprint.Proofs.Graph.Deferred
import NetFootprint.Proofs.Layer.Renamed
import NetFootprint.Proofs.Graph.Renamed
import NetFootprint.Proofs.Report.Drawn
import NetFootprint.Proofs.Report.Renamed
import NetFootprint.Proofs.Number.Numeral
import NetFootprint.Proofs.CommandLine.InputSpec
import NetFootprint.Proofs.Analysis.Override
import NetFootprint.Proofs.Number.Range
import NetFootprint.Proofs.Log.Filter
import NetFootprint.Proofs.Analysis.Verbosity
import NetFootprint.Proofs.Layer.Spread
import NetFootprint.Proofs.Graph.Spread
