import ReorgGuard.Compression.Inflate

/-!
Containers of compressed octets.

One container begins with two octets and ends with a sum of the octets inside; the other, of files, begins
with a longer header and ends with another sum and the number of octets.
-/

namespace ReorgGuard.Compression

def InflateFault.message : InflateFault → String
  | header => "Error -3 while decompressing data: incorrect header check"
  | method => "Error -3 while decompressing data: unknown compression method"
  | window => "Error -3 while decompressing data: invalid window size"
  | headerFlags => "Error -3 while decompressing data: unknown header flags set"
  | headerCheck => "Error -3 while decompressing data: header crc mismatch"
  | dictionary => "Error 2 while decompressing data"
  | blockType => "Error -3 while decompressing data: invalid block type"
  | storedLengths => "Error -3 while decompressing data: invalid stored block lengths"
  | tooManySymbols => "Error -3 while decompressing data: too many length or distance symbols"
  | codeLengths => "Error -3 while decompressing data: invalid code lengths set"
  | lengthRepeat => "Error -3 while decompressing data: invalid bit length repeat"
  | noEnd => "Error -3 while decompressing data: invalid code -- missing end-of-block"
  | literalLengths => "Error -3 while decompressing data: invalid literal/lengths set"
  | distanceLengths => "Error -3 while decompressing data: invalid distances set"
  | literalCode => "Error -3 while decompressing data: invalid literal/length code"
  | distanceCode => "Error -3 while decompressing data: invalid distance code"
  | tooFarBack => "Error -3 while decompressing data: invalid distance too far back"
  | dataCheck => "Error -3 while decompressing data: incorrect data check"
  | lengthCheck => "Error -3 while decompressing data: incorrect length check"

def checkBit (sum : UInt32) : UInt32 :=
  if sum &&& 1 = 1 then (sum >>> 1) ^^^ 0xEDB88320 else sum >>> 1

def checkOctet (sum : UInt32) (octet : UInt8) : UInt32 :=
  Nat.repeat checkBit 8 (sum ^^^ octet.toUInt32)

def remainder (octets : Array UInt8) : Nat :=
  (octets.foldl checkOctet 0xFFFFFFFF ^^^ 0xFFFFFFFF).toNat

/-- The check of the short container: the sum of the octets and the sum of the sums. -/
def sumOfSums (octets : Array UInt8) : Nat :=
  let (a, b) := octets.foldl
    (fun (s : Nat × Nat) octet =>
      let a := (s.1 + octet.toNat) % 65521
      (a, (s.2 + a) % 65521))
    (1, 0)
  b * 65536 + a

/-- The octets read, if the bits ended early, or a fault. -/
def settle : Except Stop (Array UInt8) → Except InflateFault (Array UInt8)
  | .ok octets => .ok octets
  | .error (.cut octets) => .ok octets
  | .error (.fault fault) => .error fault

def bare (octets : List UInt8) : Except InflateFault (Array UInt8) :=
  settle ((inflate octets).map (·.octets))

def pair (low high : UInt8) : Nat :=
  low.toNat + 256 * high.toNat

def short (octets : List UInt8) : Except InflateFault (Array UInt8) :=
  match octets with
  | first :: second :: rest =>
      if pair second first % 31 ≠ 0 then .error .header
      else if first.toNat % 16 ≠ 8 then .error .method
      else if 7 < first.toNat / 16 then .error .window
      else if second.toNat.testBit 5 then if rest.length < 4 then .ok #[] else .error .dictionary
      else
        settle do
          let s ← inflate rest
          let (high, s) ← s.take 16
          let (low, s) ← s.take 16
          let swapped (n : Nat) : Nat := n % 256 * 256 + n / 256
          if swapped high * 65536 + swapped low ≠ sumOfSums s.octets then .error (.fault .dataCheck)
          else .ok s.octets
  | _ => .ok #[]

def afterText (octets : List UInt8) : Option (List UInt8) :=
  match octets.dropWhile (· != 0) with
  | [] => none
  | _ :: rest => some rest

/-- What is left behind the part of a header of files that its flags announce; nothing if it ends early. -/
def afterParts (flags : Nat) (octets : List UInt8) : Option (List UInt8) := do
  let rest ←
    if flags.testBit 2 then
      match octets with
      | low :: high :: rest => if rest.length < pair low high then none else some (rest.drop (pair low high))
      | _ => none
    else some octets
  let rest ← if flags.testBit 3 then afterText rest else some rest
  if flags.testBit 4 then afterText rest else some rest

def file (octets : List UInt8) : Except InflateFault (Array UInt8) :=
  match octets with
  | first :: second :: rest =>
      if pair first second ≠ 0x8B1F then .error .header
      else
        match rest with
        | method :: flags :: _ =>
            if method ≠ 8 then .error .method
            else if 0x20 ≤ flags.toNat then .error .headerFlags
            else
              match if octets.length < 10 then none else afterParts flags.toNat (octets.drop 10) with
              | none => .ok #[]
              | some behind =>
                  let header := octets.take (octets.length - behind.length)
                  let body? : Option (Except InflateFault (List UInt8)) :=
                    if flags.toNat.testBit 1 then
                      match behind with
                      | low :: high :: body =>
                          if pair low high = remainder header.toArray % 65536 then some (.ok body)
                          else some (.error .headerCheck)
                      | _ => none
                    else some (.ok behind)
                  match body? with
                  | none => .ok #[]
                  | some (.error fault) => .error fault
                  | some (.ok body) =>
                      settle do
                        let s ← inflate body
                        let (low, s) ← s.take 16
                        let (high, s) ← s.take 16
                        if high * 65536 + low ≠ remainder s.octets then .error (.fault .dataCheck)
                        else
                          let (low, s) ← s.take 16
                          let (high, s) ← s.take 16
                          if high * 65536 + low ≠ s.octets.size % Nat.pow 2 32 then .error (.fault .lengthCheck)
                          else .ok s.octets
        | _ => .ok #[]
  | _ => .ok #[]

end ReorgGuard.Compression
