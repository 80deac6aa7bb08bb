import ProbeCheck.Gate
import ProbeCheck.Main
import ProbeCheck.Proofs.StageRuns
import ProbeCheck.Proofs.RecorderSessions
import ProbeCheck.Proofs.ExitCodes
import ProbeCheck.Proofs.RecordReplay
import ProbeCheck.Proofs.PassableMachines
import ProbeCheck.Proofs.ExtractionImage
import ProbeCheck.Proofs.MachinesApart
import ProbeCheck.Proofs.VersionOrder
import ProbeCheck.Proofs.LineOrder
import ProbeCheck.Proofs.SupplementedLog
import ProbeCheck.Proofs.SummaryReading
import ProbeCheck.Proofs.ReleaseSources
import ProbeCheck.Proofs.WholeRecords
import ProbeCheck.Proofs.FailureOutput
import ProbeCheck.Proofs.OptionSpelling
import ProbeCheck.Proofs.ErrorEquality
import ProbeCheck.Proofs.DescriptorReading
