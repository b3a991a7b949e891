import SovereignSnap.Js.Number
import SovereignSnap.Js.Value
import SovereignSnap.Js.Json
import SovereignSnap.Js.Printing
import SovereignSnap.Js.Text
import SovereignSnap.Superstruct
import SovereignSnap.Library
import SovereignSnap.Script
import SovereignSnap.Handler
import SovereignSnap.Validation
import SovereignSnap.Protocol.Machine
import SovereignSnap.Protocol.Sign
import SovereignSnap.Protocol.Address
import SovereignSnap.Protocol.Order
import SovereignSnap.Protocol.Assembly
import SovereignSnap.Protocol.Errors
import SovereignSnap.Protocol.Agreement
import SovereignSnap.Protocol.PublicKey
import SovereignSnap.Protocol.Panel
import SovereignSnap.Protocol.Secrecy
import SovereignSnap.Protocol.Interleaving
import SovereignSnap.Protocol.Concurrent
import SovereignSnap.Protocol.Noninterference
import SovereignSnap.Protocol.Progress
import SovereignSnap.StructErrors
import SovereignSnap.Site.Form
import SovereignSnap.Site.GasLimit
import SovereignSnap.Site.Page
import SovereignSnap.Site.History
import SovereignSnap.Site.Requests
import SovereignSnap.Site.Submit
import SovereignSnap.Site.Sequencer
import SovereignSnap.Site.AddressField
