import ReorgGuard.Feed.Response

/-!
The web as a feed sees it.

Each request for a target brings a reply: a delivery or a failure on the way.  What a request
brings depends only on the target and on how many requests for it went before.
-/

namespace ReorgGuard.Feed

inductive Trouble where
  | transport
  | networkError
  | timeout
  | protocolError
  | connectError
  | readError
  | writeError
  | closeError
  | connectTimeout
  | readTimeout
  | writeTimeout
  | poolTimeout
  | proxyError
  | unsupportedProtocol
  | remoteProtocolError
  | localProtocolError
  | badStatus
  | tooManyRedirects
  | decodingError
  | requestError
  | httpError
  | invalidUrl
  | cookieConflict
  | streamError
  deriving DecidableEq

/-- Whether trouble may pass, so that another attempt makes sense. -/
def Trouble.isPassing : Trouble → Bool
  | tooManyRedirects => false
  | decodingError => false
  | requestError => false
  | httpError => false
  | invalidUrl => false
  | cookieConflict => false
  | streamError => false
  | _ => true

/-- Whether trouble is that of the one request, so that others may go on. -/
def Trouble.isTolerable : Trouble → Bool
  | invalidUrl => false
  | cookieConflict => false
  | streamError => false
  | _ => true

structure Failure where
  trouble : Trouble
  message : String

inductive Reply where
  | delivery (delivery : Delivery)
  | failure (failure : Failure)
  | broken (breakdown : Breakdown)

/-- The web: what each request brings, and the requests so far, last one first. -/
structure Web where
  reply : String → Nat → Reply
  asked : List String

def Reply.noRoute : Reply := .failure ⟨.connectError, "no route"⟩

/-- A web in which each target has a list of replies: one for each request, and the last one from then on. -/
def Web.scripted (replies : List (String × List Reply)) : Web :=
  { asked := []
    reply := fun target n =>
      let listed := (replies.lookup target).getD []
      (listed[n]?.or listed.getLast?).getD .noRoute }

def Web.request (web : Web) (target : String) : Reply × Web :=
  (web.reply target (web.asked.count target), { web with asked := target :: web.asked })

end ReorgGuard.Feed
