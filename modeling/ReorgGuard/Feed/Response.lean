import ReorgGuard.Breakdown
import ReorgGuard.Compression.Container
import ReorgGuard.Text.Blank
import ReorgGuard.Text.Charset
import ReorgGuard.Text.Lines
import ReorgGuard.Text.Percent
import ReorgGuard.Value

/-!
Responses on the web.

A delivery is what comes over the wire: a status, header fields and octets.  Fields are ASCII text, and
their names are compared in lower case.  The octets may be compressed, several times over, as a field
tells; the names of other codings mean nothing.  Another field tells how the content is written as text.
-/

namespace ReorgGuard.Feed

def statusPhrases : List (Int × String) :=
  [(100, "Continue"), (101, "Switching Protocols"), (102, "Processing"), (103, "Early Hints"),
    (200, "OK"), (201, "Created"), (202, "Accepted"), (203, "Non-Authoritative Information"),
    (204, "No Content"), (205, "Reset Content"), (206, "Partial Content"), (207, "Multi-Status"),
    (208, "Already Reported"), (226, "IM Used"), (300, "Multiple Choices"),
    (301, "Moved Permanently"), (302, "Found"), (303, "See Other"), (304, "Not Modified"),
    (305, "Use Proxy"), (307, "Temporary Redirect"), (308, "Permanent Redirect"),
    (400, "Bad Request"), (401, "Unauthorized"), (402, "Payment Required"), (403, "Forbidden"),
    (404, "Not Found"), (405, "Method Not Allowed"), (406, "Not Acceptable"),
    (407, "Proxy Authentication Required"), (408, "Request Timeout"), (409, "Conflict"),
    (410, "Gone"), (411, "Length Required"), (412, "Precondition Failed"),
    (413, "Request Entity Too Large"), (414, "Request-URI Too Long"),
    (415, "Unsupported Media Type"), (416, "Requested Range Not Satisfiable"),
    (417, "Expectation Failed"), (418, "I'm a teapot"), (421, "Misdirected Request"),
    (422, "Unprocessable Entity"), (423, "Locked"), (424, "Failed Dependency"), (425, "Too Early"),
    (426, "Upgrade Required"), (428, "Precondition Required"), (429, "Too Many Requests"),
    (431, "Request Header Fields Too Large"), (451, "Unavailable For Legal Reasons"),
    (500, "Internal Server Error"), (501, "Not Implemented"), (502, "Bad Gateway"),
    (503, "Service Unavailable"), (504, "Gateway Timeout"), (505, "HTTP Version Not Supported"),
    (506, "Variant Also Negotiates"), (507, "Insufficient Storage"), (508, "Loop Detected"),
    (510, "Not Extended"), (511, "Network Authentication Required")]

def statusClass (status : Int) : String :=
  match status.fdiv 100 with
  | 1 => "Informational response"
  | 3 => "Redirect response"
  | 4 => "Client error"
  | 5 => "Server error"
  | _ => "Invalid status code"

def redirectStatuses : List Int := [301, 302, 303, 307, 308]

structure Delivery where
  status : Int
  fields : List (String × Value)
  octets : List UInt8

structure Response where
  status : Int
  /-- The header fields; names are in lower case. -/
  fields : List (String × String)
  content : List UInt8

inductive DeliveryFault where
  /-- A field holds characters above ASCII: the first one and the places of all that follow each other. -/
  | wideField (c : Char) (first last : Nat)
  | fieldKind
  | content (fault : Compression.InflateFault)

def numberedChar (c : Char) : String :=
  let n := c.toNat
  let width := if n < 0x100 then 2 else if n < 0x10000 then 4 else 8
  let letter := if n < 0x100 then 'x' else if n < 0x10000 then 'u' else 'U'
  String.ofList ('\\' :: letter :: Numeral.padded 16 width n)

def DeliveryFault.message : DeliveryFault → String
  | wideField c first last =>
      let those :=
        if first = last then s!"character '{numberedChar c}' in position {first}"
        else s!"characters in position {first}-{last}"
      s!"'ascii' codec can't encode {those}: ordinal not in range(128)"
  | fieldKind => ""
  | content fault => fault.message

def fieldText (s : String) : Except DeliveryFault String :=
  let isWide (c : Char) : Bool := 0x80 ≤ c.toNat
  let cs := s.toList
  let front := cs.takeWhile fun c => !isWide c
  match cs.drop front.length with
  | [] => .ok s
  | c :: rest => .error (.wideField c front.length (front.length + (rest.takeWhile isWide).length))

def fieldOf (field : String × Value) : Except DeliveryFault (String × String) := do
  let name ← fieldText field.1
  match field.2 with
  | .text s => do
      let text ← fieldText s
      .ok (String.ofList (name.toList.map Char.toLower), text)
  | _ => .error .fieldKind

def fieldsNamed (fields : List (String × String)) (name : String) : List String :=
  (fields.filter (·.1 = name)).map (·.2)

inductive Coding where
  | short
  | file

def Coding.ofName? (name : String) : Option Coding :=
  match name with
  | "deflate" => some .short
  | "gzip" => some .file
  | _ => none

/-- The codings that fields name, in the order in which they were applied. -/
def codingsOf (fields : List (String × String)) : List Coding :=
  ((fieldsNamed fields "content-encoding").flatMap fun s => Text.splitAt ',' s.toList).filterMap fun name =>
    Coding.ofName? (String.ofList ((Text.trim name).map Char.toLower))

/-- Undoes one coding.  Where the short container cannot be read, there may be none. -/
def Coding.undo (coding : Coding) (octets : List UInt8) : Except Compression.InflateFault (List UInt8) :=
  match coding with
  | file => (Compression.file octets).map (·.toList)
  | short =>
      match Compression.short octets with
      | .ok content => .ok content.toList
      | .error _ => (Compression.bare octets).map (·.toList)

def Delivery.receive (delivery : Delivery) : Except DeliveryFault Response := do
  let fields ← delivery.fields.mapM fieldOf
  let content ← (codingsOf fields).reverse.foldlM
    (fun octets coding => (coding.undo octets).mapError .content) delivery.octets
  .ok ⟨delivery.status, fields, content⟩

namespace Response

def field? (response : Response) (name : String) : Option String :=
  match fieldsNamed response.fields name with
  | [] => none
  | texts => some (", ".intercalate texts)

def isSuccess (response : Response) : Bool :=
  200 ≤ response.status && response.status < 300

def location? (response : Response) : Option String :=
  if redirectStatuses.contains response.status then response.field? "location" else none

def complaint (response : Response) (target : String) : String :=
  let status := response.status
  let phrase := (statusPhrases.lookup status).getD ""
  let redirect := response.location?.elim "" fun location => s!"Redirect location: '{location}'\n"
  s!"{statusClass status} '{status} {phrase}' for url '{target}'\n" ++ redirect ++
    s!"For more information check: https://developer.mozilla.org/en-US/docs/Web/HTTP/Status/{status}"

/-- The first parameter of a field and the rest; a semicolon between quotation marks separates nothing. -/
def cutParameter (cs : List Char) : List Char × List Char :=
  let rec go (quoted escaped : Bool) (taken : List Char) : List Char → List Char × List Char
    | [] => (taken.reverse, [])
    | c :: rest =>
        if c = ';' ∧ !quoted then (taken.reverse, c :: rest)
        else go (if c = '"' && !escaped then !quoted else quoted) (c = '\\') (c :: taken) rest
  go false false [] cs

def unquoted (cs : List Char) : List Char :=
  let rec unescape : List Char → List Char
    | '\\' :: '\\' :: rest => '\\' :: unescape rest
    | '\\' :: '"' :: rest => '"' :: unescape rest
    | c :: rest => c :: unescape rest
    | [] => []
  let inside := (cs.drop 1).dropLast
  if cs.length < 2 then cs
  else if cs.head? = some '"' ∧ cs.getLast? = some '"' then unescape inside
  else if cs.head? = some '<' ∧ cs.getLast? = some '>' then inside
  else cs

def parameters (fuel : Nat) (cs : List Char) : List (List Char × List Char) :=
  match fuel with
  | 0 => []
  | fuel + 1 =>
      let (first, rest) := cutParameter cs
      let name := (Text.trim (first.takeWhile (· != '='))).map Char.toLower
      let value := unquoted (Text.trim ((first.dropWhile (· != '=')).drop 1))
      (name, value) :: (if rest.isEmpty then [] else parameters fuel (rest.drop 1))

/-- A piece of a value that is told in pieces: its number, its text, and whether the text is written with
percent signs. -/
structure Piece where
  number : Nat
  text : List Char
  isWritten : Bool

/-- The piece that a parameter is of the value of a name: an asterisk stands behind the name, then the number,
and another asterisk if the text is written with percent signs.  A single piece has no number. -/
def pieceOf? (name : List Char) (parameter : List Char × List Char) : Option Piece :=
  let mark := name ++ ['*']
  if parameter.1.take mark.length = mark then
    let behind := parameter.1.drop mark.length
    let digits := behind.takeWhile Numeral.isDecimal
    match digits, behind.drop digits.length with
    | [], [] => some ⟨0, parameter.2, true⟩
    | _ :: _, [] => some ⟨Numeral.read 10 digits, parameter.2, false⟩
    | _ :: _, ['*'] => some ⟨Numeral.read 10 digits, parameter.2, true⟩
    | _, _ => none
  else none

def behindLanguage (cs : List Char) : List Char :=
  match ((cs.dropWhile (· != '\'')).drop 1).dropWhile (· != '\'') with
  | [] => cs
  | _ :: value => value

def valueOf? (name : List Char) (parameters : List (List Char × List Char)) : Option (List Char) :=
  let inPieces : Option (List Char) :=
    match (parameters.drop 1).filterMap (pieceOf? name) with
    | [] => none
    | pieces =>
        let sorted := pieces.mergeSort fun a b => a.number ≤ b.number
        let text := sorted.flatMap fun p =>
          if p.isWritten then (Text.percentOctets p.text).map fun b => Char.ofNat b.toNat else p.text
        some (if pieces.any (·.isWritten) then behindLanguage text else text)
  (parameters.lookup name).or inPieces

def charset (response : Response) : Text.Charset :=
  let told := (response.field? "content-type").bind fun field =>
    (valueOf? "charset".toList (parameters (field.length + 1) field.toList)).filter fun name =>
      name.all fun c => c.toNat < 0x80
  (told.bind fun name => Text.Charset.ofName? (String.ofList name)).getD .utf8

def text (response : Response) : Except Text.CharsetFault String :=
  if response.content.isEmpty then .ok "" else response.charset.read response.content

end Response

end ReorgGuard.Feed
