import ReorgGuard.Feed.Url

/-!
Which URLs a feed may be fetched from.

Only web URLs without user information are allowed, and unless private addresses are permitted
every address that the host stands for has to be public.  A host that is an address stands for
itself, any other host for the addresses that it resolves to.  A host that cannot even be asked for
is not refused: asking for it goes wrong instead.
-/

namespace ReorgGuard.Feed

structure AddressRecord where
  /-- Whether the record is an internet address at all. -/
  internet : Bool
  address : String

inductive Resolution where
  | records (records : List AddressRecord)
  | failed
  /-- The name has no form in which it could be asked for, as with a label that is empty or too long. -/
  | unencodable (message : String)

abbrev Resolver := String → Resolution

inductive UrlFault where
  | invalidUrl
  | schemeNotAllowed
  | userinfoNotAllowed
  | missingHost
  | hostDenied
  | addressNotPublic
  | resolutionFailed
  | noRecords
  | recordNotPublic (address : String)

def UrlFault.reason : UrlFault → String
  | invalidUrl => "invalid_url"
  | schemeNotAllowed => "scheme_not_allowed"
  | userinfoNotAllowed => "userinfo_not_allowed"
  | missingHost => "missing_host"
  | hostDenied => "host_denied"
  | addressNotPublic => "ip_not_public"
  | resolutionFailed => "dns_resolution_failed"
  | noRecords => "dns_no_records"
  | recordNotPublic address => "dns_ip_not_public:" ++ address

/-- The verdict on a URL, with the host as far as it is known. -/
inductive UrlVerdict where
  | allowed (host : String)
  | refused (fault : UrlFault) (host : Option String)
  /-- The resolver answered with something that is no address. -/
  | unreadableAddress (address : String)
  /-- The resolver could not be asked for the host. -/
  | unencodableHost (message : String)

def localHosts : List String := ["localhost", "localhost.localdomain"]

/-- Internet addresses in the order in which they are examined, each once. -/
def examined (records : List AddressRecord) : List String :=
  let addresses := (records.filter (·.internet)).map (·.address)
  (addresses.mergeSort fun a b => a ≤ b).eraseDups

def examine (host : String) : List String → UrlVerdict
  | [] => .allowed host
  | address :: rest =>
      match Address.ofText? address with
      | none => .unreadableAddress address
      | some a => if a.isPublic then examine host rest else .refused (.recordNotPublic address) (some host)

def resolveHost (resolve : Resolver) (host : String) : UrlVerdict :=
  match resolve host with
  | .failed => .refused .resolutionFailed (some host)
  | .unencodable message => .unencodableHost message
  | .records records =>
      match examined records with
      | [] => .refused .noRecords (some host)
      | addresses => examine host addresses

def checkUrl (resolve : Resolver) (allowPrivate : Bool) (s : String) : UrlVerdict :=
  match Url.ofText? s with
  | none => .refused .invalidUrl none
  | some url =>
      if url.scheme ≠ "http" ∧ url.scheme ≠ "https" then .refused .schemeNotAllowed none
      else if url.user ≠ "" ∨ url.password ≠ "" then .refused .userinfoNotAllowed none
      else
        let host := String.ofList (Text.trim (Text.lower url.host).toList)
        if host = "" then .refused .missingHost none
        else if allowPrivate then .allowed host
        else if localHosts.contains host then .refused .hostDenied (some host)
        else
          match Address.ofText? host with
          | some a => if a.isPublic then .allowed host else .refused .addressNotPublic (some host)
          | none => resolveHost resolve host

end ReorgGuard.Feed
