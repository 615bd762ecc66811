import AccessPagerduty.Basic
import AccessPagerduty.IncidentKey
import AccessPagerduty.Template
import AccessPagerduty.Paging
import AccessPagerduty.Setup
import AccessPagerduty.Handlers
import AccessPagerduty.Action
import AccessPagerduty.Bridge
import AccessPagerduty.Race
import AccessPagerduty.Event
import AccessPagerduty.Effect
import AccessPagerduty.Serial
import AccessPagerduty.Startup
import AccessPagerduty.Profile
import AccessPagerduty.SetupWrites
