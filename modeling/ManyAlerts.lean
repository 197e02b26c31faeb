import ManyAlerts.Accounting.History
import ManyAlerts.Accounting.Lineage
import ManyAlerts.Accounting.Weeks
import ManyAlerts.Forwarder.ChannelDiscipline
import ManyAlerts.Forwarder.Endpoint
import ManyAlerts.Forwarder.JsonCodec
import ManyAlerts.Forwarder.PermitSafety
import ManyAlerts.Forwarder.Postwalk
import ManyAlerts.Forwarder.ReceiptBounds
import ManyAlerts.Forwarder.ResponseCodec
import ManyAlerts.Journal.History
import ManyAlerts.Journal.Precheck
import ManyAlerts.Journal.Refusals
import ManyAlerts.Journal.SpoolIntegrity
import ManyAlerts.Journal.StateIdentity
import ManyAlerts.Log.Exposure
import ManyAlerts.Memory.PreflightCoverage
import ManyAlerts.Supervision.Escalation
import ManyAlerts.Venue.Age
