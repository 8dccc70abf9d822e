import GpuTelemetry.Main
import GpuTelemetry.Snapshot.Decoding
import GpuTelemetry.Process.CommandLine
import GpuTelemetry.Proofs.Fdinfo.Rates
import GpuTelemetry.Proofs.Process.CpuSampling
import GpuTelemetry.Proofs.Procfs.Cycles
import GpuTelemetry.Proofs.Split
import GpuTelemetry.Proofs.Process.Presence
import GpuTelemetry.Proofs.Process.Names
import GpuTelemetry.Proofs.Device.Selection
import GpuTelemetry.Proofs.Ensures
import GpuTelemetry.Proofs.Drm.Library
import GpuTelemetry.Proofs.Amd.Opening
import GpuTelemetry.Proofs.Amd.Enumeration
import GpuTelemetry.Proofs.Nvidia.Enumeration
import GpuTelemetry.Proofs.Vendor.Enumeration
import GpuTelemetry.Proofs.Procfs.Clients
import GpuTelemetry.Proofs.Device.Clients
import GpuTelemetry.Proofs.Collector.Clients
import GpuTelemetry.Proofs.Generations
import GpuTelemetry.Proofs.Fdinfo.Tracking
import GpuTelemetry.Proofs.Process.Membership
import GpuTelemetry.Proofs.Numeral.Writing
import GpuTelemetry.Proofs.Json.Strings
import GpuTelemetry.Proofs.Json.Values
import GpuTelemetry.Proofs.Snapshot.RoundTrip
import GpuTelemetry.Proofs.Lifecycle
import GpuTelemetry.Proofs.Vendor.Silence
import GpuTelemetry.Proofs.Vendor.Lifecycle
import GpuTelemetry.Proofs.Vendor.Endurance
import GpuTelemetry.Proofs.Device.Holding
import GpuTelemetry.Proofs.Collector.Lifecycle
import GpuTelemetry.Proofs.Device.Totals
import GpuTelemetry.Proofs.Settled
import GpuTelemetry.Proofs.Vendor.Messages
import GpuTelemetry.Proofs.Vendor.Running
import GpuTelemetry.Proofs.Collector.Freshness
import GpuTelemetry.Proofs.Ledger
import GpuTelemetry.Proofs.Amd.Ledger
import GpuTelemetry.Proofs.Vendor.Ledger
import GpuTelemetry.Proofs.Collector.Ledger
import GpuTelemetry.Proofs.Collector.Course
import GpuTelemetry.Proofs.Fdinfo.Report
import GpuTelemetry.Proofs.Device.Dispatch
import GpuTelemetry.Proofs.Collector.Recurrence
import GpuTelemetry.Proofs.Command.Monitor
import GpuTelemetry.Proofs.Device.Backfill
import GpuTelemetry.Proofs.Fdinfo.Rounding
import GpuTelemetry.Proofs.Nvidia.Processes
import GpuTelemetry.Proofs.Nvidia.Sampling
import GpuTelemetry.Proofs.Sysfs.Rereading
import GpuTelemetry.Proofs.Amd.Metrics
import GpuTelemetry.Proofs.Drm.Listing
import GpuTelemetry.Proofs.Amd.Statuses
import GpuTelemetry.Proofs.Sysfs.PcieTable
import GpuTelemetry.Proofs.Fdinfo.KernelReport
import GpuTelemetry.Proofs.Snapshot.Layouts
import GpuTelemetry.Proofs.Vendor.Registration
import GpuTelemetry.Proofs.Process.Accumulation
