import OaiNssf.Config.Acceptance
import OaiNssf.Config.Candidates
import OaiNssf.Config.Documents
import OaiNssf.Config.Prefix
import OaiNssf.Selection.Lifecycle
import OaiNssf.Selection.Order
import OaiNssf.Selection.Standardized
import OaiNssf.Server.Classified
import OaiNssf.Server.FrontEnds
import OaiNssf.Server.Gates
import OaiNssf.Server.PutAgreement
import OaiNssf.Server.Reload
import OaiNssf.Server.Routing
import OaiNssf.Startup.Served
import OaiNssf.Startup.Usage
