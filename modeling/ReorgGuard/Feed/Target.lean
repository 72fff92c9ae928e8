import ReorgGuard.Feed.Address
import ReorgGuard.Hostname.Domain
import ReorgGuard.Numeral.Integer
import ReorgGuard.Text.Percent

/-!
The target of a request: a URL in the form in which it is sent.

The scheme and the host are in lower case, a host of another script is in its plain form, the usual port
of a scheme is left out, single and double dots are resolved and whatever may not stand in a URL is
written with percent signs.  Two spellings of one target are one text then.  What no target can
be made of is refused.
-/

namespace ReorgGuard.Feed

/-- The parts of a target. -/
structure Target where
  scheme : String
  userinfo : String
  host : String
  port : Option Int
  path : String
  query : Option String
  fragment : Option String

inductive TargetFault where
  | tooLong
  | longPart (part : String)
  | control (c : Char) (place : Nat)
  | controlIn (part : String) (c : Char) (place : Nat)
  | address4 (host : String)
  | address6 (host : String)
  | hostname (host : String)
  | port (text : String)
  | unrootedPath
  | doubleSlash
  | leadingColon

def TargetFault.message : TargetFault → String
  | tooLong => "URL too long"
  | longPart part => s!"URL component '{part}' too long"
  | control c place =>
      s!"Invalid non-printable ASCII character in URL, {Text.quote (String.ofList [c])} at position {place}."
  | controlIn part c place =>
      s!"Invalid non-printable ASCII character in URL {part} component, " ++
        s!"{Text.quote (String.ofList [c])} at position {place}."
  | address4 host => "Invalid IPv4 address: " ++ Text.quote host
  | address6 host => "Invalid IPv6 address: " ++ Text.quote host
  | hostname host => "Invalid IDNA hostname: " ++ Text.quote host
  | port text => "Invalid port: " ++ Text.quote text
  | unrootedPath => "For absolute URLs, path must be empty or begin with '/'"
  | doubleSlash => "Relative URLs cannot have a path starting with '//'"
  | leadingColon => "Relative URLs cannot have a path starting with ':'"

namespace Target

def longest : Nat := 65536

def printableBut (others : List Char) (c : Char) : Bool :=
  0x20 < c.toNat && c.toNat < 0x7F && !others.contains c

def neverSafe : List Char := ['"', '<', '>']

def inFragment : Char → Bool := printableBut ('\x60' :: neverSafe)

def inQuery : Char → Bool := printableBut ('#' :: neverSafe)

def notInPath : List Char := ['#', '?', '\x60', '\x7b', '\x7d'] ++ neverSafe

def inPath : Char → Bool := printableBut notInPath

def inUserinfo : Char → Bool :=
  printableBut (['/', ';', '=', '@', '[', '\\', ']', '^', '|'] ++ notInPath)

def inHost (c : Char) : Bool :=
  ['!', '$', '&', '\'', '(', ')', '*', '+', ',', ';', '=', '"', '\x60', '\x7b', '\x7d', '%', '|', '\\'].contains c

def part (safe : Char → Bool) (cs : List Char) : String :=
  String.ofList (Text.percentEncode safe cs)

def control? (cs : List Char) : Option (Char × Nat) :=
  (cs.findIdx? fun c => c.toNat < 0x20 || c.toNat = 0x7F).bind fun i => cs[i]?.map fun c => (c, i)

/-- The states behind one more character of a host that is to be four runs of digits with any one character
between each two of them; odd states lie within a run. -/
def fourRunsStep (c : Char) (states : List Nat) : List Nat :=
  let next (state : Nat) : List Nat :=
    let digit := Numeral.isDecimal c
    if state % 2 = 0 then (if digit then [state + 1] else [])
    else (if digit then [state] else []) ++ (if state < 7 then [state + 1] else [])
  (states.flatMap next).eraseDups

def looksLikeFour (host : List Char) : Bool :=
  (host.foldl (fun states c => fourRunsStep c states) [0]).contains 7

def host? (host : List Char) : Except TargetFault String :=
  if host.isEmpty then .ok ""
  else if looksLikeFour host then
    if (Address.four? host).isSome then .ok (String.ofList host) else .error (.address4 (String.ofList host))
  else if host.head? = some '[' ∧ host.getLast? = some ']' then
    let inside := (host.drop 1).dropLast
    match (Address.withoutScope? inside).bind Address.six? with
    | some _ => .ok (String.ofList inside)
    | none => .error (.address6 (String.ofList host))
  else if host.all fun c => c.toNat < 0x80 then .ok (part inHost (host.map Char.toLower))
  else (Hostname.plain (Text.lower (String.ofList host))).mapError fun _ => .hostname (String.ofList host)

def usualPorts : List (String × Int) :=
  [("ftp", 21), ("http", 80), ("https", 443), ("ws", 80), ("wss", 443)]

/-- A port as it is sent; the usual one of a scheme in lower case is left out. -/
def port? (scheme : String) (port : List Char) : Except TargetFault (Option Int) :=
  if port.isEmpty then .ok none
  else
    match Numeral.integer 10 (String.ofList port) with
    | .ok n => .ok (if usualPorts.lookup scheme = some n then none else some n)
    | .error _ => .error (.port (String.ofList port))

/-- Resolves single and double dots; nothing is left behind when there is no more to go back. -/
def resolveDots (path : List Char) : List Char :=
  let pieces := Text.splitAt '/' path
  let step (kept : List (List Char)) (piece : List Char) : List (List Char) :=
    if piece = ['.'] then kept
    else if piece = ['.', '.'] then (if kept = [[]] then kept else kept.drop 1)
    else piece :: kept
  if pieces.contains ['.'] || pieces.contains ['.', '.'] then
    List.intercalate ['/'] (pieces.foldl step []).reverse
  else path

def pathFault? (hasScheme hasAuthority : Bool) (path : List Char) : Option TargetFault :=
  if hasAuthority then
    if path.isEmpty || path.head? = some '/' then none else some .unrootedPath
  else if hasScheme then none
  else if path.take 2 = ['/', '/'] then some .doubleSlash
  else if path.head? = some ':' then some .leadingColon
  else none

/-- The parts of a URL as they were written; what is missing altogether is nothing. -/
structure Written where
  scheme : List Char
  authority : List Char
  path : List Char
  query : Option (List Char)
  fragment : Option (List Char)

def cutScheme (cs : List Char) : List Char × List Char :=
  let word :=
    if cs.head?.elim false Char.isAlpha then
      cs.takeWhile fun c => c.isAlphanum || c == '+' || c == '.' || c == '-'
    else []
  match cs.drop word.length with
  | ':' :: rest => (word, rest)
  | _ => ([], cs)

def Written.ofText (cs : List Char) : Written :=
  let (scheme, rest) := cutScheme cs
  let (authority, rest) := match rest with
    | '/' :: '/' :: behind => behind.span fun c => c != '/' && c != '?' && c != '#'
    | _ => ([], rest)
  let (path, rest) := rest.span fun c => c != '?' && c != '#'
  let (query, rest) := match rest with
    | '?' :: behind =>
        let (query, rest) := behind.span (· != '#')
        (some query, rest)
    | _ => (none, rest)
  ⟨scheme, authority, path, query, rest.head?.map fun _ => rest.drop 1⟩

def cutAuthority (cs : List Char) : List Char × List Char × List Char :=
  let behind := (cs.reverse.takeWhile (· != '@')).reverse
  let userinfo := cs.take (cs.length - behind.length - 1)
  let bracketed := (behind.reverse.dropWhile (· != ']')).reverse
  let host :=
    if behind.head? = some '[' && !bracketed.isEmpty then bracketed else behind.takeWhile (· != ':')
  let rest := behind.drop host.length
  (userinfo, host, if rest.head? = some ':' then rest.drop 1 else rest)

def ofWritten (w : Written) : Except TargetFault Target := do
  let (userinfo, host, port) := cutAuthority w.authority
  let userinfo := part inUserinfo userinfo
  let host ← host? host
  let port ← port? (String.ofList w.scheme) port
  let hasAuthority := userinfo ≠ "" || host ≠ "" || port.isSome
  match pathFault? (!w.scheme.isEmpty) hasAuthority w.path with
  | some fault => .error fault
  | none =>
      let path := if !w.scheme.isEmpty || hasAuthority then resolveDots w.path else w.path
      .ok
        { scheme := String.ofList (w.scheme.map Char.toLower)
          userinfo := userinfo
          host := host
          port := port
          path := part inPath path
          query := w.query.map (part inQuery)
          fragment := w.fragment.map (part inFragment) }

def ofText (s : String) : Except TargetFault Target :=
  let cs := s.toList
  if longest < cs.length then .error .tooLong
  else
    match control? cs with
    | some (c, place) => .error (.control c place)
    | none => ofWritten (.ofText cs)

def authority (target : Target) : String :=
  (if target.userinfo = "" then "" else target.userinfo ++ "@") ++
    (if target.host.contains ':' then "[" ++ target.host ++ "]" else target.host) ++
    target.port.elim "" fun n => ":" ++ Numeral.intText n

def text (target : Target) : String :=
  let authority := target.authority
  (if target.scheme = "" then "" else target.scheme ++ ":") ++
    (if authority = "" then "" else "//" ++ authority) ++ target.path ++
    target.query.elim "" ("?" ++ ·) ++ target.fragment.elim "" ("#" ++ ·)

def isAbsolute (target : Target) : Bool :=
  target.scheme ≠ "" && target.host ≠ ""

/-- The target of a request for a URL: one without scheme or host lies under the root. -/
def ofRequest (s : String) : Except TargetFault Target := do
  let target ← ofText s
  if target.isAbsolute then .ok target
  else
    let path := "/" ++ String.ofList (target.path.toList.dropWhile (· == '/'))
    if longest < path.length then .error (.longPart "path")
    else if target.query.elim false fun query => longest < query.length then .error (.longPart "query")
    else .ok ⟨"", "", "", none, path, target.query, none⟩

/-- What is wrong with the host of a target: a plain form has to have an everyday form. -/
def hostFault? (target : Target) : Option Hostname.DomainFault :=
  if target.host.startsWith "xn--" then
    match Hostname.check target.host with
    | .ok _ => none
    | .error fault => some fault
  else none

end Target

inductive RedirectFault where
  /-- The place that it names is no target. -/
  | location (fault : TargetFault)
  | hostname (fault : Hostname.DomainFault)
  /-- The target that it amounts to is none. -/
  | target (fault : TargetFault)

/-- What is wrong with a redirect from a target to a place.  A place with a scheme and without a host
lies on the host of the target, and takes the fragment of the target where it has none. -/
def Target.redirectFault? (target : Target) (location : String) : Option RedirectFault :=
  match Target.ofText location with
  | .error fault => some (.location fault)
  | .ok place =>
      let unhosted := place.scheme ≠ "" && place.host = ""
      let hostFault := place.hostFault?.map .hostname
      let early := if place.scheme = "" then none else hostFault
      let fragment := (target.fragment.getD "").toList
      let decoded := (Text.percentDecode fragment).toList
      let takesFragment := !decoded.isEmpty && (place.fragment.getD "") = ""
      early.or
        ((if unhosted && target.host ≠ "" then
            (Target.pathFault? true true place.path.toList).map .target
          else none).or
        ((if takesFragment then
            (Target.control? decoded).map fun found => .target (.controlIn "fragment" found.1 found.2)
          else none).or hostFault))

end ReorgGuard.Feed
