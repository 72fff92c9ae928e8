import ReorgGuard.Feed.Address
import ReorgGuard.Text.Blank
import ReorgGuard.Text.Letters

/-!
URLs taken apart.

Only scheme, user information and host matter here.  Controls and blanks in front of a URL are
dropped, tabs and line ends anywhere.  The authority follows two slashes and reaches to the
next slash, question mark or number sign.
-/

namespace ReorgGuard.Feed

/-- A URL as it was given; each half of a surrogate pair in it is replaced. -/
structure Link where
  text : String
  ragged : Bool
  deriving DecidableEq

instance : Coe String Link := ⟨fun text => ⟨text, false⟩⟩

structure Url where
  scheme : String
  user : String
  password : String
  host : String
  deriving DecidableEq

namespace Url

/-- Text in front of the last occurrence of a character and behind it; the front is missing if the
character does not occur. -/
def cutAtLast (mark : Char) (cs : List Char) : Option (List Char) × List Char :=
  let behind := (cs.reverse.takeWhile (· != mark)).reverse
  if cs.contains mark then (some (cs.take (cs.length - behind.length - 1)), behind) else (none, cs)

def before (mark : Char) (cs : List Char) : List Char :=
  cs.takeWhile (· != mark)

def after (mark : Char) (cs : List Char) : List Char :=
  (cs.dropWhile (· != mark)).drop 1

def cleaned (cs : List Char) : List Char :=
  (cs.dropWhile fun c => c.toNat ≤ 0x20).filter fun c => c != '\t' && c != '\r' && c != '\n'

/-- The scheme in lower case and what follows its colon; without a scheme the whole text follows. -/
def cutScheme (cs : List Char) : List Char × List Char :=
  let word := before ':' cs
  let proper := word.all fun c => c.isAlphanum || c == '+' || c == '-' || c == '.'
  if cs.contains ':' && proper && (word.head?.elim false Char.isAlpha) then
    (word.map Char.toLower, after ':' cs)
  else ([], cs)

def authority : List Char → List Char
  | '/' :: '/' :: rest => rest.takeWhile fun c => c != '/' && c != '?' && c != '#'
  | _ => []

def isBracketedHost (host : List Char) : Bool :=
  match host with
  | 'v' :: rest =>
      let version := before '.' rest
      !version.isEmpty && version.all Numeral.isHex && !(after '.' rest).isEmpty
  | _ =>
      match Address.ofText? (String.ofList host) with
      | some (.v6 _) => true
      | _ => false

def bracketsFit (authority : List Char) : Bool :=
  let opened := authority.contains '['
  let closed := authority.contains ']'
  if opened != closed then false
  else if !opened then true
  else
    let place := (cutAtLast '@' authority).2
    if place.contains '[' then
      let inside := after '[' place
      let behind := after ']' inside
      (before '[' place).isEmpty && (behind.isEmpty || behind.head? == some ':') &&
        isBracketedHost (before ']' inside)
    else isBracketedHost (before ':' place)

/-- Characters whose compatibility form holds a mark that would end or divide an authority. -/
def disguisedMarks : List Nat :=
  [0x2047, 0x2048, 0x2049, 0x2100, 0x2101, 0x2105, 0x2106, 0x2A74, 0xFE13, 0xFE16, 0xFE55, 0xFE56,
    0xFE5F, 0xFE6B, 0xFF03, 0xFF0F, 0xFF1A, 0xFF1F, 0xFF20]

def hostOf (authority : List Char) : List Char :=
  let place := (cutAtLast '@' authority).2
  let host := if place.contains '[' then before ']' (after '[' place) else before ':' place
  Text.lowerAfter [] (before '%' host) ++ host.dropWhile (· != '%')

def ofText? (s : String) : Option Url :=
  let (scheme, rest) := cutScheme (cleaned s.toList)
  let authority := authority rest
  if !bracketsFit authority then none
  else if authority.any fun c => disguisedMarks.contains c.toNat then none
  else
    let info := (cutAtLast '@' authority).1.getD []
    some
      { scheme := String.ofList scheme
        user := String.ofList (before ':' info)
        password := String.ofList (after ':' info)
        host := String.ofList (hostOf authority) }

end Url

end ReorgGuard.Feed
