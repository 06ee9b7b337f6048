import PriceHistory.Provider.Client

/-!
A web with one peer in it, whose replies are written down beforehand. The peer keeps a list of the
requests that reach it.
-/
namespace PriceHistory.Rehearsal

open PriceHistory.Web

/-- The peer: whether requests reach it at all, the replies still to be given, and the requests seen
so far. A reply may be to break off. -/
structure Peer where
  reachable : Bool
  replies : List (Option Reply)
  seen : List String

namespace Peer

/-- A peer that no request reaches. -/
def unreachable : Peer := ⟨false, [], []⟩

/-- A peer with replies to give. -/
def replying (replies : List (Option Reply)) : Peer := ⟨true, replies, []⟩

/-- The reply of a peer that has none left: it is not available. -/
def standardReply : Reply := ⟨503, some []⟩

/-- The first line of a request. A request for a secret connection names only the machine. -/
def requestLine (url : Url) : String :=
  if url.scheme = "https" then
    "CONNECT " ++ url.host?.getD "" ++ ":" ++ toString (url.service?.getD 443)
  else "GET " ++ { url with fragment := none }.text

/-- Takes a request. A secret connection is refused. -/
def receive (url : Url) (peer : Peer) : Option Reply × Peer :=
  if peer.reachable then
    let peer := { peer with seen := peer.seen ++ [requestLine url] }
    if url.scheme = "https" then (none, peer)
    else
      match peer.replies with
      | [] => (some standardReply, peer)
      | reply :: rest => (reply, { peer with replies := rest })
  else (none, peer)

/-- The way to the peer. -/
def transport : Transport (StateM Peer) :=
  fun url peer => receive url peer

end Peer

end PriceHistory.Rehearsal
