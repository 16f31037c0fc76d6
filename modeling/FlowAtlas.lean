import FlowAtlas.Cluster.Stored
import FlowAtlas.Files.Tree
import FlowAtlas.Main
import FlowAtlas.Proofs.Cluster.Requests
import FlowAtlas.Proofs.Graph.EdgeTable
import FlowAtlas.Proofs.Load.Edges
import FlowAtlas.Proofs.Load.Locality
import FlowAtlas.Proofs.Load.Lookup
import FlowAtlas.Proofs.Load.Population
import FlowAtlas.Proofs.Load.Repetition
import FlowAtlas.Proofs.Load.Shielded
import FlowAtlas.Proofs.Module.Lookup
import FlowAtlas.Proofs.Trace.Reading
import FlowAtlas.Proofs.Trace.RoundTrip
import FlowAtlas.Proofs.Module.Log
import FlowAtlas.Proofs.Load.Announced
import FlowAtlas.Proofs.Load.Observer
import FlowAtlas.Proofs.Ledger.Telling
import FlowAtlas.Proofs.Cluster.Splitting
import FlowAtlas.Proofs.Load.Export
import FlowAtlas.Proofs.Load.Unreached
import FlowAtlas.Proofs.Module.History
import FlowAtlas.Proofs.Graph.Validation
import FlowAtlas.Proofs.Graph.Wording
import FlowAtlas.Proofs.Load.Tallying
import FlowAtlas.Proofs.Cluster.Arrangement
import FlowAtlas.Proofs.Graph.OrdinalTable
import FlowAtlas.Proofs.Module.Apart
import FlowAtlas.Proofs.Json.Stored
import FlowAtlas.Proofs.Command.Exporting
import FlowAtlas.Proofs.Graph.Foretelling
import FlowAtlas.Proofs.Graph.Sweep
import FlowAtlas.Proofs.SoftwareUnit
