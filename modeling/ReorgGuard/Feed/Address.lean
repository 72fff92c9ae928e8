import ReorgGuard.Numeral.Digits
import ReorgGuard.Text.Lines

/-!
Internet addresses and which of them are public.

An address of the fourth version is four decimal parts, one of the sixth version eight groups of
hexadecimal digits, of which one run of zeros may be left out.  The last two groups may be
written as an address of the fourth version, and a scope may follow a percent sign.

The closed blocks are those of an interpreter of release 3.11.10.  There all of `::/8` is reserved, so that an
address of the fourth version inside one of the sixth is never public; later releases judge a mapped address by
the one inside.
-/

namespace ReorgGuard.Feed

inductive Address where
  | v4 (value : Nat)
  | v6 (value : Nat)
  deriving DecidableEq

namespace Address

def part? (cs : List Char) : Option Nat :=
  if cs.isEmpty || 3 < cs.length || !cs.all Numeral.isDecimal then none
  else if cs.head? == some '0' && 1 < cs.length then none
  else
    let n := Numeral.read 10 cs
    if n < 256 then some n else none

def four? (cs : List Char) : Option Nat :=
  match Text.splitAt '.' cs with
  | [a, b, c, d] => do
      let a ← part? a
      let b ← part? b
      let c ← part? c
      let d ← part? d
      some (((a * 256 + b) * 256 + c) * 256 + d)
  | _ => none

def group? (cs : List Char) : Option Nat :=
  if cs.isEmpty || 4 < cs.length || !cs.all Numeral.isHex then none
  else some (Numeral.read 16 cs)

/-- The pieces between colons, an address of the fourth version at the end written as two groups. -/
def pieces? (cs : List Char) : Option (List (List Char)) :=
  let pieces := Text.splitAt ':' cs
  match pieces.getLast? with
  | some last =>
      if pieces.length < 3 then none
      else if last.contains '.' then
        (four? last).map fun n =>
          pieces.dropLast ++ [Numeral.write 16 (n / 65536), Numeral.write 16 (n % 65536)]
      else some pieces
  | none => none

def ofGroups (groups : List Nat) : Nat :=
  groups.foldl (fun value g => value * 65536 + g) 0

/-- The places of the empty pieces between the first and the last one. -/
def gaps (pieces : List (List Char)) : List Nat :=
  (List.range pieces.length).filter fun i =>
    0 < i && i + 1 < pieces.length && (pieces[i]?.getD []).isEmpty

def six? (cs : List Char) : Option Nat := do
  let pieces ← pieces? cs
  if 9 < pieces.length then none
  else
    match gaps pieces with
    | [] =>
        if pieces.length ≠ 8 then none
        else
          let groups ← pieces.mapM group?
          some (ofGroups groups)
    | [gap] =>
        let front := pieces.take gap
        let back := pieces.drop (gap + 1)
        -- An empty end is allowed only as part of the run of zeros.
        let front := if front == [[]] then [] else front
        let back := if back == [[]] then [] else back
        if 7 < front.length + back.length then none
        else
          let high ← front.mapM group?
          let low ← back.mapM group?
          some (ofGroups (high ++ List.replicate (8 - (high.length + low.length)) 0 ++ low))
    | _ => none

def withoutScope? (cs : List Char) : Option (List Char) :=
  match cs.dropWhile (· != '%') with
  | [] => some cs
  | _ :: scope =>
      if scope.isEmpty || scope.contains '%' then none else some (cs.takeWhile (· != '%'))

def ofText? (s : String) : Option Address :=
  let cs := s.toList
  if cs.contains '/' then none
  else
    match four? cs with
    | some n => some (.v4 n)
    | none => ((withoutScope? cs).bind six?).map .v6

structure Block where
  base : Nat
  bits : Nat

def Block.holds (width value : Nat) (block : Block) : Bool :=
  value / Nat.pow 2 (width - block.bits) == block.base / Nat.pow 2 (width - block.bits)

def dotted (a b c d : Nat) : Nat :=
  ((a * 256 + b) * 256 + c) * 256 + d

def leading (groups : List Nat) : Nat :=
  ofGroups (groups ++ List.replicate (8 - groups.length) 0)

def closedFour : List Block :=
  [⟨dotted 0 0 0 0, 8⟩, ⟨dotted 10 0 0 0, 8⟩, ⟨dotted 127 0 0 0, 8⟩, ⟨dotted 169 254 0 0, 16⟩,
    ⟨dotted 172 16 0 0, 12⟩, ⟨dotted 192 0 0 0, 24⟩, ⟨dotted 192 0 2 0, 24⟩, ⟨dotted 192 168 0 0, 16⟩,
    ⟨dotted 198 18 0 0, 15⟩, ⟨dotted 198 51 100 0, 24⟩, ⟨dotted 203 0 113 0, 24⟩,
    ⟨dotted 224 0 0 0, 4⟩, ⟨dotted 240 0 0 0, 4⟩]

/-- Addresses of the fourth version that are public inside a closed block. -/
def openFour : List Block :=
  [⟨dotted 192 0 0 9, 32⟩, ⟨dotted 192 0 0 10, 32⟩]

def closedSix : List Block :=
  [⟨leading [0], 8⟩, ⟨leading [0x100], 8⟩, ⟨leading [0x200], 7⟩, ⟨leading [0x400], 6⟩,
    ⟨leading [0x800], 5⟩, ⟨leading [0x1000], 4⟩, ⟨leading [0x4000], 3⟩, ⟨leading [0x6000], 3⟩,
    ⟨leading [0x8000], 3⟩, ⟨leading [0xA000], 3⟩, ⟨leading [0xC000], 3⟩, ⟨leading [0xE000], 4⟩,
    ⟨leading [0xF000], 5⟩, ⟨leading [0xF800], 6⟩, ⟨leading [0xFE00], 9⟩, ⟨leading [0xFE80], 10⟩,
    ⟨leading [0xFC00], 7⟩, ⟨leading [0xFF00], 8⟩, ⟨leading [0x64, 0xFF9B, 1], 48⟩,
    ⟨leading [0x2001, 0xDB8], 32⟩, ⟨leading [0x2002], 16⟩, ⟨leading [0x2001], 23⟩]

def openSix : List Block :=
  [⟨leading [0x2001, 1, 0, 0, 0, 0, 0, 1], 128⟩, ⟨leading [0x2001, 1, 0, 0, 0, 0, 0, 2], 128⟩,
    ⟨leading [0x2001, 3], 32⟩, ⟨leading [0x2001, 4, 0x112], 48⟩, ⟨leading [0x2001, 0x20], 28⟩,
    ⟨leading [0x2001, 0x30], 28⟩]

def isPublic : Address → Bool
  | v4 value =>
      !closedFour.any (Block.holds 32 value) || openFour.any (Block.holds 32 value)
  | v6 value =>
      !closedSix.any (Block.holds 128 value) || openSix.any (Block.holds 128 value)

end Address

end ReorgGuard.Feed
