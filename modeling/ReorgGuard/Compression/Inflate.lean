import ReorgGuard.Compression.Code

/-!
Octets that were compressed by the deflate method.

The octets are a row of bits, the lowest bit of each octet first.  Blocks follow one another, the last
one marked.  A block holds octets as they are, or symbols of two codes: a literal octet, the end of the
block, or a length and a distance back to octets that are repeated.  The codes are fixed or given at
the beginning of the block, by lengths that are written with a code of their own.

Bits that end early are no fault: what has been read by then is the answer.
-/

namespace ReorgGuard.Compression

inductive InflateFault where
  | header
  | method
  | window
  | headerFlags
  | headerCheck
  | dictionary
  | blockType
  | storedLengths
  | tooManySymbols
  | codeLengths
  | lengthRepeat
  | noEnd
  | literalLengths
  | distanceLengths
  | literalCode
  | distanceCode
  | tooFarBack
  | dataCheck
  | lengthCheck

inductive Stop where
  | cut (octets : Array UInt8)
  | fault (fault : InflateFault)

/-- What is left of the bits and the octets read so far. -/
structure Inflating where
  bits : List Bool
  octets : Array UInt8

def bitsOf (octets : List UInt8) : List Bool :=
  octets.flatMap fun octet => (List.range 8).map fun i => octet.toNat.testBit i

def number (bits : List Bool) : Nat :=
  bits.foldr (fun bit n => n * 2 + bit.toNat) 0

def Inflating.take (s : Inflating) (count : Nat) : Except Stop (Nat × Inflating) :=
  let taken := s.bits.take count
  if taken.length < count then .error (.cut s.octets)
  else .ok (number taken, { s with bits := s.bits.drop count })

def Inflating.takeSymbol (s : Inflating) (code : Code) (fault : InflateFault) :
    Except Stop (Nat × Inflating) :=
  match code.read s.bits with
  | .symbol n rest => .ok (n, { s with bits := rest })
  | .cut => .error (.cut s.octets)
  | .invalid => .error (.fault fault)

def Inflating.align (s : Inflating) : Inflating :=
  { s with bits := s.bits.drop (s.bits.length % 8) }

/-- Lengths by their symbols above the end of a block: the least length and the number of further bits. -/
def lengthRows : List (Nat × Nat) :=
  [(3, 0), (4, 0), (5, 0), (6, 0), (7, 0), (8, 0), (9, 0), (10, 0), (11, 1), (13, 1), (15, 1), (17, 1),
    (19, 2), (23, 2), (27, 2), (31, 2), (35, 3), (43, 3), (51, 3), (59, 3), (67, 4), (83, 4), (99, 4),
    (115, 4), (131, 5), (163, 5), (195, 5), (227, 5), (258, 0)]

def distanceRows : List (Nat × Nat) :=
  [(1, 0), (2, 0), (3, 0), (4, 0), (5, 1), (7, 1), (9, 2), (13, 2), (17, 3), (25, 3), (33, 4), (49, 4),
    (65, 5), (97, 5), (129, 6), (193, 6), (257, 7), (385, 7), (513, 8), (769, 8), (1025, 9), (1537, 9),
    (2049, 10), (3073, 10), (4097, 11), (6145, 11), (8193, 12), (12289, 12), (16385, 13), (24577, 13)]

def repeatBack (distance : Nat) : Nat → Array UInt8 → Array UInt8
  | 0, octets => octets
  | length + 1, octets =>
      repeatBack distance length (octets.push (octets[octets.size - distance]?.getD 0))

def Inflating.takeRow (s : Inflating) (rows : List (Nat × Nat)) (symbol : Nat) (fault : InflateFault) :
    Except Stop (Nat × Inflating) :=
  match rows[symbol]? with
  | none => .error (.fault fault)
  | some (least, further) => do
      let (more, s) ← s.take further
      .ok (least + more, s)

def endOfBlock : Nat := 256

/-- Reads the symbols of a block; each takes at least one bit, and no more steps than so many are made. -/
def readSymbols (literals distances : Code) : Nat → Inflating → Except Stop Inflating
  | 0, s => .error (.cut s.octets)
  | steps + 1, s => do
      let (n, s) ← s.takeSymbol literals .literalCode
      if n < endOfBlock then
        readSymbols literals distances steps { s with octets := s.octets.push n.toUInt8 }
      else if n = endOfBlock then .ok s
      else
        let (length, s) ← s.takeRow lengthRows (n - endOfBlock - 1) .literalCode
        let (d, s) ← s.takeSymbol distances .distanceCode
        let (distance, s) ← s.takeRow distanceRows d .distanceCode
        if s.octets.size < distance then .error (.fault .tooFarBack)
        else readSymbols literals distances steps { s with octets := repeatBack distance length s.octets }

def readStored (s : Inflating) : Except Stop Inflating := do
  let (length, s) ← s.align.take 16
  let (check, s) ← s.take 16
  if length + check ≠ 0xFFFF then .error (.fault .storedLengths)
  else
    let rec copy : Nat → Inflating → Except Stop Inflating
      | 0, s => .ok s
      | left + 1, s => do
          let (n, s) ← s.take 8
          copy left { s with octets := s.octets.push n.toUInt8 }
    copy length s

def fixedLiterals : Code :=
  (Code.ofLengths? false
    (List.replicate 144 8 ++ List.replicate 112 9 ++ List.replicate 24 7 ++ List.replicate 8 8)).getD .absent

def fixedDistances : Code :=
  (Code.ofLengths? false (List.replicate 32 5)).getD .absent

/-- The order in which the lengths of the code of lengths are written. -/
def lengthOrder : List Nat :=
  [16, 17, 18, 0, 8, 7, 9, 6, 10, 5, 11, 4, 12, 3, 13, 2, 14, 1, 15]

def Inflating.takeMany (width : Nat) : Nat → Inflating → Except Stop (List Nat × Inflating)
  | 0, s => .ok ([], s)
  | count + 1, s => do
      let (n, s) ← s.take width
      let (rest, s) ← takeMany width count s
      .ok (n :: rest, s)

/-- Reads lengths until there are enough, last one first; each step adds at least one. -/
def readLengths (code : Code) (enough : Nat) : Nat → List Nat → Inflating →
    Except Stop (List Nat × Inflating)
  | 0, lengths, s => .ok (lengths, s)
  | steps + 1, lengths, s => do
      if enough ≤ lengths.length then .ok (lengths, s)
      else
        let (n, s) ← s.takeSymbol code .codeLengths
        if n < 16 then readLengths code enough steps (n :: lengths) s
        else
          let (width, least) := if n = 16 then (2, 3) else if n = 17 then (3, 3) else (7, 11)
          let (more, s) ← s.take width
          let count := least + more
          if (n = 16 ∧ lengths.isEmpty) ∨ enough < lengths.length + count then
            .error (.fault .lengthRepeat)
          else
            let length := if n = 16 then lengths.headD 0 else 0
            readLengths code enough steps (List.replicate count length ++ lengths) s

def readCodes (s : Inflating) : Except Stop (Code × Code × Inflating) := do
  let (literals, s) ← s.take 5
  let (distances, s) ← s.take 5
  let (count, s) ← s.take 4
  let literals := literals + 257
  let distances := distances + 1
  if 286 < literals ∨ 30 < distances then .error (.fault .tooManySymbols)
  else
    let (widths, s) ← s.takeMany 3 (count + 4)
    let written := lengthOrder.zip widths
    let widths := (List.range lengthOrder.length).map fun n => (written.lookup n).getD 0
    let code? :=
      if widths.all (· = 0) then some (.branch (.symbol 0) (.symbol 0)) else Code.ofLengths? false widths
    match code? with
    | none => .error (.fault .codeLengths)
    | some code =>
        let (lengths, s) ← readLengths code (literals + distances) (literals + distances) [] s
        let lengths := lengths.reverse
        if lengths[endOfBlock]?.getD 0 = 0 then .error (.fault .noEnd)
        else
          match Code.ofLengths? true (lengths.take literals) with
          | none => .error (.fault .literalLengths)
          | some literalCode =>
              match Code.ofLengths? true (lengths.drop literals) with
              | none => .error (.fault .distanceLengths)
              | some distanceCode => .ok (literalCode, distanceCode, s)

def readBlock (kind : Nat) (s : Inflating) : Except Stop Inflating := do
  if kind = 0 then readStored s
  else if kind = 1 then readSymbols fixedLiterals fixedDistances (s.bits.length + 1) s
  else if kind = 2 then
    let (literals, distances, s) ← readCodes s
    readSymbols literals distances (s.bits.length + 1) s
  else .error (.fault .blockType)

def readBlocks : Nat → Inflating → Except Stop Inflating
  | 0, s => .error (.cut s.octets)
  | steps + 1, s => do
      let (last, s) ← s.take 1
      let (kind, s) ← s.take 2
      let s ← readBlock kind s
      if last = 1 then .ok s.align else readBlocks steps s

/-- Reads compressed octets; behind the last block other octets may follow. -/
def inflate (octets : List UInt8) : Except Stop Inflating :=
  let bits := bitsOf octets
  readBlocks (bits.length + 1) ⟨bits, #[]⟩

end ReorgGuard.Compression
