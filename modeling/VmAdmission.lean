import VmAdmission.Main
import VmAdmission.Outage
import VmAdmission.Proofs.Catalog.UpdateVm
import VmAdmission.Proofs.Catalog.AttachDisk
import VmAdmission.Proofs.Catalog.UpdateDisk
import VmAdmission.Proofs.Catalog.Removal
import VmAdmission.Proofs.Run
import VmAdmission.Proofs.HostedEngine
import VmAdmission.Proofs.Faults
import VmAdmission.Proofs.Requests
import VmAdmission.Proofs.Usability
import VmAdmission.Proofs.Course
import VmAdmission.Proofs.ProtectedDisks
import VmAdmission.Proofs.VirtioScsi
import VmAdmission.Proofs.VmNames
import VmAdmission.Proofs.Codec.RoundTrip
import VmAdmission.Proofs.Reservations
import VmAdmission.Proofs.ReservationRequests
import VmAdmission.Proofs.WellFormed
import VmAdmission.Proofs.Locality
import VmAdmission.Proofs.Permissiveness
import VmAdmission.Proofs.Quiescence
import VmAdmission.Proofs.RowOrder
import VmAdmission.Proofs.RemovalPermissions
import VmAdmission.Proofs.Resubmission
import VmAdmission.Proofs.DiskIdentity
import VmAdmission.Proofs.Independence
import VmAdmission.Proofs.Codec.Entities
import VmAdmission.Proofs.Json.Tokens
import VmAdmission.Proofs.Json.Documents
import VmAdmission.Proofs.Rejections
import VmAdmission.Proofs.Logging
import VmAdmission.Proofs.UnreadFields
import VmAdmission.Proofs.Codec.Uniformity
import VmAdmission.Proofs.Checklist
import VmAdmission.Proofs.ConsistentTables
import VmAdmission.Proofs.MemoryRanges
import VmAdmission.Proofs.CommandLine.Arguments
import VmAdmission.Proofs.CommandLine.Report
import VmAdmission.Proofs.CommandLine.ExitStatus
import VmAdmission.Proofs.VersionTexts
import VmAdmission.Proofs.ProcessorLayout
import VmAdmission.Proofs.Joins
import VmAdmission.Proofs.CapabilityAnswers
import VmAdmission.Proofs.RunningMachines
import VmAdmission.Proofs.VersionOrder
