import PlcModule.Main
import PlcModule.Proofs.Build.Failure
import PlcModule.Proofs.Build.Rebuild
import PlcModule.Proofs.Build.Session
import PlcModule.Proofs.Glue.Lifecycle
import PlcModule.Proofs.Glue.Tables
import PlcModule.Rehearsal
import PlcModule.Proofs.Build.Diagnostics
import PlcModule.Proofs.Build.Tools
import PlcModule.Proofs.Build.Clearance
import PlcModule.Proofs.Build.Installation
import PlcModule.Proofs.Build.SharedDirectory
import PlcModule.Proofs.Build.Frame
import PlcModule.Proofs.Build.Freshness
import PlcModule.Proofs.Template.Decomposition
import PlcModule.Proofs.Tool.Spelling
import PlcModule.Proofs.Build.ObjectNames
import PlcModule.Proofs.Build.Rendering
import PlcModule.Proofs.Glue.Declarations
import PlcModule.Proofs.Template.Writing
import PlcModule.Proofs.Template.Lines
import PlcModule.Proofs.Tool.Separation
import PlcModule.Proofs.Build.Report
import PlcModule.Proofs.Project.Resolution
import PlcModule.Proofs.Build.Upkeep
import PlcModule.Proofs.Build.SourceDigests
import PlcModule.Proofs.Project.Inventories
import PlcModule.Proofs.Build.Intermediates
import PlcModule.Proofs.Build.Progress
