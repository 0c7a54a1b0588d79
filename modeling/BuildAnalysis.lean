import BuildAnalysis.Graph.Client
import BuildAnalysis.Main
import BuildAnalysis.Path.Normal
import BuildAnalysis.Proofs.Analysis.Cleaning
import BuildAnalysis.Proofs.Analysis.CommonArguments
import BuildAnalysis.Proofs.Analysis.PlainNames
import BuildAnalysis.Proofs.Analysis.SeparateReports
import BuildAnalysis.Proofs.Command
import BuildAnalysis.Proofs.CommandLine.Parts
import BuildAnalysis.Proofs.CommandLine.Units
import BuildAnalysis.Proofs.Graph.ChildPaths
import BuildAnalysis.Proofs.Graph.Fallback
import BuildAnalysis.Proofs.Graph.OneShot
import BuildAnalysis.Proofs.Graph.SourceRoot
import BuildAnalysis.Proofs.Graph.Streams
import BuildAnalysis.Proofs.Graph.Unreported
import BuildAnalysis.Proofs.Target.Unchecked
import BuildAnalysis.Proofs.Toolchain.Reply
import BuildAnalysis.Text.Blank
import BuildAnalysis.Proofs.Version.Writing
import BuildAnalysis.Proofs.Analysis.Installed
import BuildAnalysis.Proofs.Graph.VersionGate
import BuildAnalysis.Proofs.Path.Resolving
import BuildAnalysis.Proofs.Settings
