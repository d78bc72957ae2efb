import NvMemory.Device
import NvMemory.Scheduler
import NvMemory.Proofs.WriteCycle
import NvMemory.Proofs.Device
import NvMemory.Proofs.Block
import NvMemory.Proofs.Integrity
import NvMemory.Proofs.Rewind
import NvMemory.Proofs.Checksum
import NvMemory.Proofs.Provenance
import NvMemory.Proofs.Verification
import NvMemory.Proofs.TornWrite
import NvMemory.Proofs.Backup
import NvMemory.Proofs.Lasting
import NvMemory.Proofs.Versions
import NvMemory.Proofs.Pending
import NvMemory.Proofs.Lanes
import NvMemory.Proofs.Dispatch
import NvMemory.Proofs.Scheduler
import NvMemory.Proofs.Service
import NvMemory.Proofs.Lateness
import NvMemory.Proofs.Custody
import NvMemory.Proofs.LossReport
import NvMemory.Proofs.Assessment
import NvMemory.Proofs.Footprint
import NvMemory.Proofs.Phases
import NvMemory.Proofs.Restart
import NvMemory.Proofs.InPlace
import NvMemory.Proofs.Rollback
import NvMemory.Proofs.Succession
import NvMemory.Proofs.Quiet
import NvMemory.Proofs.Untargeted
import NvMemory.Proofs.Timeline
import NvMemory.Proofs.History
import NvMemory.Proofs.Repair
import NvMemory.Proofs.Tally
import NvMemory.Proofs.Course
import NvMemory.Proofs.Detection
import NvMemory.Proofs.ChecksumText
import NvMemory.Proofs.Timing
import NvMemory.Proofs.Sweep
import NvMemory.Proofs.Journal
import NvMemory.Proofs.PriorityQueue
import NvMemory.Proofs.Trail
import NvMemory.Proofs.JsonText
import NvMemory.Proofs.JsonObject
import NvMemory.Proofs.Settings
