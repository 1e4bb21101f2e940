import VersionOrder.Column
import VersionOrder.Document.Reference
import VersionOrder.Interval.Span
import VersionOrder.Main
import VersionOrder.Proofs.ColumnOrder
import VersionOrder.Proofs.Command.Containment
import VersionOrder.Proofs.Command.SchemeListing
import VersionOrder.Proofs.Interval.DefaultOrder
import VersionOrder.Proofs.Interval.Order
import VersionOrder.Proofs.Interval.Validity
import VersionOrder.Proofs.Mirror
import VersionOrder.Proofs.Normalization
import VersionOrder.Proofs.NumericVersions
import VersionOrder.Proofs.SettingsLoading
import VersionOrder.Proofs.Tokenization
import VersionOrder.Proofs.TrailingZeros
import VersionOrder.Proofs.Suffix
import VersionOrder.Proofs.PreReleaseOrder
import VersionOrder.Proofs.Spelling
import VersionOrder.Proofs.CalendarOrder
import VersionOrder.Proofs.FirstNumber
import VersionOrder.Proofs.SharedRank
import VersionOrder.Proofs.FoldedBuild
import VersionOrder.Proofs.SettingsRoundTrip
