import GpuControl.Launch.Recorder
import GpuControl.Main
import GpuControl.Platform.SimulatedBus
import GpuControl.Platform.SysfsFiles
import GpuControl.Session
import GpuControl.Proofs.CommandLine.Offset
import GpuControl.Proofs.Config.Settings
import GpuControl.Proofs.Packet.RegisterIndex
import GpuControl.Proofs.Ring.FreeSpace
import GpuControl.Proofs.Ring.Retry
import GpuControl.Proofs.Ring.Sharing
import GpuControl.Proofs.Ring.Effect
import GpuControl.Proofs.Ring.Accounting
import GpuControl.Proofs.Ring.Splitting
import GpuControl.Proofs.Ring.Independence
import GpuControl.Proofs.Memory.History
import GpuControl.Proofs.Discovery.Mirror
import GpuControl.Proofs.Discovery.Scan
import GpuControl.Proofs.Device.Mappings
import GpuControl.Proofs.Device.Placement
import GpuControl.Proofs.Device.Alignment
import GpuControl.Proofs.Device.DoorbellSlots
import GpuControl.Proofs.Platform.LinkQuery
import GpuControl.Proofs.Launch.Extent
import GpuControl.Proofs.Launch.ResourceWords
import GpuControl.Proofs.Launch.Protocol
import GpuControl.Proofs.Launch.Replay
import GpuControl.Proofs.Launch.Effect
import GpuControl.Proofs.Launch.Unreadable
