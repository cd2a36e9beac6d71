import NodeSurvey.Labeler.Connection
import NodeSurvey.Network.Authority
import NodeSurvey.Network.Pem
import NodeSurvey.Network.ServerName

/-! The transport of a node without a network. It takes addresses and credentials by their form. A
numeric address is refused at once; to look up a name takes longer than no time at all, and then it
is refused too. -/

namespace NodeSurvey.Labeler

def Credentials.isWellFormed (c : Credentials) (server : String) : Bool :=
  (Network.Pem.certificates? c.authority.legible).isSome &&
    (match Network.Pem.certificates? c.certificate.legible with
      | some chain => !chain.isEmpty
      | none => false) &&
    (Network.Pem.key? c.key.legible).isSome &&
    Network.isServerName (c.serverName.getD (Network.hostOf server))

/-- The host of an endpoint without the brackets that may stand around an address. -/
def Endpoint.bareHost (e : Endpoint) : String :=
  String.ofList ((Network.hostOf e.server).toList.filter fun c => c != '[' && c != ']')

def Transport.offline (limit : Duration) : Transport where
  isAddress := Network.isAddress
  accepts := Credentials.isWellFormed
  dial e := if limit = .zero && !Network.isNumericAddress e.bareHost then .timedOut else .failed

end NodeSurvey.Labeler
