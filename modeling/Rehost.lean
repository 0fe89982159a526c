import Rehost.Act
import Rehost.Archive.Archiver
import Rehost.Archive.Args
import Rehost.Archive.Count
import Rehost.Archive.Tar
import Rehost.Bench.Answer
import Rehost.Bench.Console
import Rehost.Bench.FixtureSteps
import Rehost.Bench.Fixtures
import Rehost.Bench.Hypervisor
import Rehost.Bench.Ledger
import Rehost.Bench.LibrarySteps
import Rehost.Bench.Listing
import Rehost.Bench.Pure
import Rehost.Bench.Request
import Rehost.Bench.Rig
import Rehost.Bench.Scenario
import Rehost.Bench.Scrub
import Rehost.Bench.Session
import Rehost.Bench.Setup
import Rehost.Bench.Sysfs
import Rehost.Binary64.Read
import Rehost.Binary64.Shortest
import Rehost.Block.Mount
import Rehost.Block.Pool
import Rehost.Cleanup
import Rehost.Cli.Parse
import Rehost.Cli.Run
import Rehost.Cli.Spec
import Rehost.Cli.Suggest
import Rehost.Cli.Table
import Rehost.Command
import Rehost.Container.Naming
import Rehost.Container.Runner
import Rehost.Disk
import Rehost.Domain
import Rehost.Domain.Client
import Rehost.Failure
import Rehost.Host.Exec
import Rehost.Host.FileOps
import Rehost.Host.FileSystem
import Rehost.Host.Machine
import Rehost.Host.Process
import Rehost.Host.Tools.Base
import Rehost.Host.Tools.Copy
import Rehost.Host.Tools.Files
import Rehost.Host.Tools.Sync
import Rehost.Host.Tools.Tar
import Rehost.Image.Builder
import Rehost.Image.Naming
import Rehost.Json.Print
import Rehost.Json.Read
import Rehost.Json.Value
import Rehost.Limits
import Rehost.Main
import Rehost.Options
import Rehost.Partition
import Rehost.Path
import Rehost.Pipeline
import Rehost.Rollback
import Rehost.Rootfs.Copy
import Rehost.Rootfs.Exclusions
import Rehost.Rootfs.Resolve
import Rehost.Rootfs.Sanitize
import Rehost.Settings
import Rehost.Shell.Lex
import Rehost.Shell.Parse
import Rehost.Shell.Pattern
import Rehost.Shell.Run
import Rehost.Shell.Syntax
import Rehost.Snapshot.Planner
import Rehost.Text.Base64
import Rehost.Text.Basic
import Rehost.Text.Integer
import Rehost.Text.Utf8
import Rehost.Time
import Rehost.Time.Read
import Rehost.Undo
import Rehost.Proofs.FileSystem.Locate
import Rehost.Proofs.FileSystem.Ops
import Rehost.Proofs.Host.FileOps
import Rehost.Proofs.Rootfs.Resolve
import Rehost.Proofs.Rootfs.Resolution
import Rehost.Proofs.Rootfs.Confinement
import Rehost.Proofs.Rootfs.CopyConfined
import Rehost.Proofs.Host.Runs
import Rehost.Proofs.Block.Exclusive
import Rehost.Proofs.Pipeline.Cancellation
import Rehost.Proofs.Failure.Laws
import Rehost.Proofs.Failure.Raised
import Rehost.Proofs.Failure.LocalRollback
import Rehost.Proofs.Pipeline.FailureCause
import Rehost.Proofs.Image.Context
import Rehost.Proofs.Engine.Store
import Rehost.Proofs.Partition.RootChoice
import Rehost.Proofs.Journal.Rollback
import Rehost.Proofs.Domain.Report
import Rehost.Proofs.Domain.Scripted
import Rehost.Proofs.Snapshot.Planning
import Rehost.Proofs.Text.Lines
import Rehost.Proofs.Rootfs.Fstab
import Rehost.Proofs.Domain.BlockTable
import Rehost.Proofs.Image.Component
import Rehost.Proofs.Snapshot.Commit
import Rehost.Proofs.Text.Decimal
import Rehost.Proofs.Time.Calendar
import Rehost.Proofs.Time.Zoned
import Rehost.Proofs.Disk.Header
import Rehost.Proofs.Block.Partitions
import Rehost.Proofs.Bench.Sysfs
import Rehost.Proofs.Cli.Settings
import Rehost.Block.Race
import Rehost.Proofs.Block.MountCalls
import Rehost.Proofs.Bench.DeviceTree
import Rehost.Proofs.Bench.HostCalls
import Rehost.Proofs.Block.RaceSafety
