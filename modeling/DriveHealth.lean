import DriveHealth.Config.Load
import DriveHealth.Linux.Backend
import DriveHealth.Proofs.Always
import DriveHealth.Proofs.AttributeTable
import DriveHealth.Proofs.Budget
import DriveHealth.Proofs.Capacities
import DriveHealth.Proofs.CommandPlan
import DriveHealth.Proofs.DeviceHistory
import DriveHealth.Proofs.DigitGroups
import DriveHealth.Proofs.EditionPieces
import DriveHealth.Proofs.ErrorLog
import DriveHealth.Proofs.HealthPage
import DriveHealth.Proofs.IdentityChecksum
import DriveHealth.Proofs.IdentityDump
import DriveHealth.Proofs.IdentityLines
import DriveHealth.Proofs.IdentityText
import DriveHealth.Proofs.Isolation
import DriveHealth.Proofs.Journal
import DriveHealth.Proofs.Lifecycle
import DriveHealth.Proofs.Listing
import DriveHealth.Proofs.LogPage
import DriveHealth.Proofs.MoreSections
import DriveHealth.Proofs.NoTrap
import DriveHealth.Proofs.Overrides
import DriveHealth.Proofs.PatternText
import DriveHealth.Proofs.PhyEncoding
import DriveHealth.Proofs.PlanGrowth
import DriveHealth.Proofs.Printers
import DriveHealth.Proofs.ReadOnly
import DriveHealth.Proofs.ReportWrites
import DriveHealth.Proofs.Request
import DriveHealth.Proofs.SelfTestRing
import DriveHealth.Proofs.SenseLayout
import DriveHealth.Proofs.SettingsSection
import DriveHealth.Proofs.ShownFigures
import DriveHealth.Proofs.StatusCheck
import DriveHealth.Proofs.TranscriptHistory
import DriveHealth.Proofs.Verdict
import DriveHealth.Proofs.WholeLines
import DriveHealth.Service
