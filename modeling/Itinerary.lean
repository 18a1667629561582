import Itinerary.Text.Blank
import Itinerary.Text.Hidden
import Itinerary.Text.Quoted
import Itinerary.Text.Utf8
import Itinerary.Decimal.Whole
import Itinerary.Decimal.Shortest
import Itinerary.Decimal.Layout
import Itinerary.Decimal.Reading
import Itinerary.Calendar.Date
import Itinerary.Calendar.DateTime
import Itinerary.Calendar.Pattern
import Itinerary.Calendar.Formats
import Itinerary.Json.Numeral
import Itinerary.Json.Literal
import Itinerary.Json.Token
import Itinerary.Json.Tree
import Itinerary.Json.Reader
import Itinerary.Json.Sink
import Itinerary.Delay
import Itinerary.Place
import Itinerary.Line
import Itinerary.Stop
import Itinerary.Disruption
import Itinerary.Leg
import Itinerary.Trip
import Itinerary.Query
import Itinerary.Page
import Itinerary.Stored.Place
import Itinerary.Stored.Service
import Itinerary.Stored.Query
import Itinerary.Keyed
import Itinerary.Feed.Record
import Itinerary.Feed.Response
import Itinerary.Feed.Interpretation
import Itinerary.Text.Base64
import Itinerary.Token
import Itinerary.Text.Hex
import Itinerary.Url.Percent
import Itinerary.Url.Form
import Itinerary.Text.Split
import Itinerary.Url.Host
import Itinerary.Url
import Itinerary.Fixture
import Itinerary.Fixture.Directory
import Itinerary.Fixture.Shared
import Itinerary.Provider
import Itinerary.Network
import Itinerary.Client
import Itinerary.Service.Entry
import Itinerary.Service.Parameters
import Itinerary.Service.Target
import Itinerary.Service.Response
import Itinerary.Service
import Itinerary.Url.Domain
import Itinerary.Proofs.Feed.Selection
import Itinerary.Proofs.Feed.Journey
import Itinerary.Proofs.Feed.Info
import Itinerary.Proofs.Feed.Display
import Itinerary.Proofs.Feed.Leniency
import Itinerary.Proofs.Client.Address
import Itinerary.Proofs.Service.Paging
import Itinerary.Proofs.Feed.Refusal
import Itinerary.Proofs.Client.Outcome
import Itinerary.Proofs.Calendar.Order
import Itinerary.Proofs.Page.Overtaking
import Itinerary.Proofs.Service.Edge
import Itinerary.Proofs.Json.Fields
import Itinerary.Proofs.Feed.Recognition
import Itinerary.Proofs.Json.Follow
import Itinerary.Proofs.Feed.Spelling
import Itinerary.Proofs.Json.Gap
import Itinerary.Proofs.Json.Sight
import Itinerary.Proofs.Feed.Delays
import Itinerary.Proofs.Feed.Alerts
import Itinerary.Proofs.Calendar.Figures
import Itinerary.Proofs.Service.Search
import Itinerary.Proofs.Fixture.Lineage
import Itinerary.Proofs.Fixture.Shared
import Itinerary.Proofs.Calendar.Minute
import Itinerary.Proofs.Feed.Times
import Itinerary.Proofs.Page.Neighbours
import Itinerary.Proofs.Trip.Assembly
import Itinerary.Proofs.Stop.Delayed
import Itinerary.Proofs.Stop.Shown
import Itinerary.Proofs.Place.Meaning
import Itinerary.Proofs.Calendar.Stamp
import Itinerary.Proofs.Disruption.Validity
import Itinerary.Proofs.Stored.Service
import Itinerary.Proofs.Service.Places
import Itinerary.Proofs.Fixture.Directory
import Itinerary.Proofs.Trip.WayBack
import Itinerary.Proofs.Service.Entry
