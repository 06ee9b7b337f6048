import PriceHistory.Provider.Basic
import PriceHistory.Provider.Payload
import PriceHistory.Web.Message
import PriceHistory.Web.Status

/-!
The provider as a service on the web: the address of each request, and what is made of the reply.
-/
namespace PriceHistory

open PriceHistory.Calendar
open PriceHistory.Web

/-- A way to fetch what is found at a URL. It gives nothing where no reply comes. -/
abbrev Transport (m : Type → Type) := Url → m (Option Reply)

/-- A client of the provider's service. -/
structure Client where
  base : String
  token : Option String
  deriving DecidableEq

/-- What a client asks for: an address, and the pairs of its query. -/
structure Address where
  text : String
  pairs : List (String × String)
  deriving DecidableEq

namespace Client

/-- The name of the provider. -/
def providerName : String := "iex_cloud"

/-- The name by which a client makes itself known. -/
def agentName : String := "pricecache/0.1"

/-- The client of a service, whatever slashes its base address ends in. -/
def of (base : String) (token : Option String) : Client :=
  ⟨String.ofList (base.toList.reverse.dropWhile (· == '/')).reverse, token⟩

variable (client : Client)

/-- The address of a chart. -/
def chartText (symbol : String) (segments : List String) : String :=
  client.base ++ "/stock/" ++ Text.upper symbol ++ "/chart" ++
    String.join (segments.map ("/" ++ ·))

/-- The address under which prices are asked for. A day as a whole is asked for by a pair. -/
def chartAddress : ChartRequest → Address
  | .onDay symbol span day => ⟨client.chartText symbol [span.token, day.compact], []⟩
  | .days symbol span => ⟨client.chartText symbol [span.token], []⟩
  | .latest symbol => ⟨client.chartText symbol [], []⟩
  | .wholeDay symbol span day =>
    ⟨client.chartText symbol [span.token, day.compact], [("chartByDay", "true")]⟩

/-- The address of the list of symbols. -/
def listingsAddress : Address :=
  ⟨client.base ++ "/ref-data/symbols", []⟩

/-- The address of last trades. -/
def lastTradesAddress (symbols : List String) : Address :=
  ⟨client.base ++ "/tops/last", [("symbols", ",".intercalate (symbols.map Text.upper))]⟩

/-- The symbol under which the points of a chart are filed. -/
def chartSymbol : ChartRequest → String
  | .onDay symbol _ _ | .days symbol _ | .latest symbol | .wholeDay symbol _ _ => symbol

/-- A fault of the network at a URL. -/
def faultAt (what : String) (url : Url) : ProviderFault :=
  .network (what ++ " for url (" ++ url.text ++ ")")

/-- The URL that is sent for an address. The token is its last pair. A user named in the address is
not part of what is sent, if it can be read. -/
def sentUrl? (address : Address) : Except ProviderFault Url :=
  match Url.ofText? address.text with
  | none => .error (.network "builder error")
  | some url =>
    if url.host?.isSome then
      let pairs := address.pairs ++ client.token.toList.map fun token => ("token", token)
      let sent := url.withoutUser.withPairs pairs
      if sent.isSendable then .ok sent else .error (faultAt "builder error" sent)
    else .error (faultAt "builder error" url)

/-- What a reply to an address means: a list, if the status tells of success and the body can be
read. -/
def readReply {α : Type} (read : Json → Option α) (address : Address) (reply : Reply) :
    Except ProviderFault (List α) :=
  if Status.isSuccess reply.status then
    match (reply.body.bind Json.ofBytes?).bind (Json.items? read) with
    | some items => .ok items
    | none => .error (.parse "error decoding response body")
  else
    .error (.network ("IEX returned " ++ Status.text reply.status ++ " for " ++ address.text))

variable {m : Type → Type} [Monad m] (transport : Transport m)

/-- Fetches a list from an address. -/
def fetch {α : Type} (read : Json → Option α) (address : Address) : m (Except Failure (List α)) := do
  match client.sentUrl? address with
  | .error fault => return .error (.provider fault)
  | .ok url =>
    match ← transport url with
    | none => return .error (.provider (faultAt "error sending request" url))
    | some reply => return (readReply read address reply).mapError .provider

/-- Fetches a chart. Points whose date or minute cannot be read are left out. -/
def chart (request : ChartRequest) : m (Except Failure (List Record)) := do
  let points ← client.fetch transport ChartPoint.ofJson? (client.chartAddress request)
  return points.map fun points => points.filterMap (·.record? (chartSymbol request))

/-- The client as a provider. -/
def provider : Provider m where
  chart := client.chart transport
  listings := client.fetch transport Listing.ofJson? client.listingsAddress
  lastTrades symbols :=
    client.fetch transport LastTrade.ofJson? (client.lastTradesAddress symbols)

end Client

end PriceHistory
