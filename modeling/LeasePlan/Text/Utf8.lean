import LeasePlan.Text.Literal

namespace LeasePlan.Utf8

def encodeChar (c : Char) : List UInt8 :=
  let n := c.toNat
  if n < 0x80 then [n.toUInt8]
  else if n < 0x800 then [(0xC0 + n / 64).toUInt8, (0x80 + n % 64).toUInt8]
  else if n < 0x10000 then
    [(0xE0 + n / 4096).toUInt8, (0x80 + n / 64 % 64).toUInt8, (0x80 + n % 64).toUInt8]
  else
    [(0xF0 + n / 262144).toUInt8, (0x80 + n / 4096 % 64).toUInt8, (0x80 + n / 64 % 64).toUInt8,
      (0x80 + n % 64).toUInt8]

def encode (cs : List Char) : List UInt8 := cs.flatMap encodeChar

/-- Why bytes at a place begin no character. -/
inductive Defect
  /-- The first byte begins none. -/
  | start
  /-- A later byte does not continue the character, after so many bytes that do. -/
  | continuation (good : Nat)
  /-- The bytes end within the character. -/
  | ending
deriving DecidableEq

/-- How many bytes a character has by its first byte, and the least and the greatest second byte. -/
def shape? (b : UInt8) : Option (Nat × UInt8 × UInt8) :=
  if b < 0x80 then some (1, 0x80, 0xBF)
  else if 0xC2 ≤ b && b ≤ 0xDF then some (2, 0x80, 0xBF)
  else if b = 0xE0 then some (3, 0xA0, 0xBF)
  else if b = 0xED then some (3, 0x80, 0x9F)
  else if 0xE1 ≤ b && b ≤ 0xEF then some (3, 0x80, 0xBF)
  else if b = 0xF0 then some (4, 0x90, 0xBF)
  else if b = 0xF4 then some (4, 0x80, 0x8F)
  else if 0xF1 ≤ b && b ≤ 0xF3 then some (4, 0x80, 0xBF)
  else none

/-- The continuation bytes of a character with so many more to come, as six bits each. -/
def rest (low high : UInt8) : Nat → Nat → List UInt8 → Except Defect (List Nat)
  | _, 0, _ => .ok []
  | _, _ + 1, [] => .error .ending
  | good, more + 1, b :: bs =>
    if low ≤ b && b ≤ high then do
      let bits ← rest 0x80 0xBF (good + 1) more bs
      .ok (b.toNat % 64 :: bits)
    else .error (.continuation good)

/-- The bits that a first byte adds. -/
def leading (size : Nat) (b : UInt8) : Nat :=
  if size = 1 then b.toNat
  else if size = 2 then b.toNat % 32
  else if size = 3 then b.toNat % 16
  else b.toNat % 8

/-- The character at the front of bytes and its size. -/
def first (b : UInt8) (bs : List UInt8) : Except Defect (Char × Nat) :=
  match shape? b with
  | none => .error .start
  | some (size, low, high) => do
    let bits ← rest low high 1 (size - 1) bs
    .ok (Char.ofNat (bits.foldl (fun n d => n * 64 + d) (leading size b)), size)

/-- A first byte that no text has at its place, with the number of bytes after it. -/
structure Flaw where
  defect : Defect
  byte : UInt8
  position : Nat
  following : Nat
deriving DecidableEq

def Flaw.size (f : Flaw) : Nat :=
  match f.defect with
  | .start => 1
  | .continuation good => good
  | .ending => f.following + 1

def Defect.reason : Defect → String
  | .start => "invalid start byte"
  | .continuation _ => "invalid continuation byte"
  | .ending => "unexpected end of data"

def Flaw.message (f : Flaw) : String :=
  let place :=
    if f.size = 1 then
      "byte 0x" ++ String.ofList (Literal.hex 2 f.byte.toNat) ++ " in position " ++
        toString f.position
    else
      "bytes in position " ++ toString f.position ++ "-" ++ toString (f.position + f.size - 1)
  "'utf-8' codec can't decode " ++ place ++ ": " ++ f.defect.reason

/-- Reads bytes of which so many have been read before; fuel is their number. -/
def decodeFrom : Nat → Nat → List UInt8 → Except Flaw (List Char)
  | _, _, [] => .ok []
  | 0, _, _ => .ok []
  | fuel + 1, position, b :: bs =>
    match first b bs with
    | .error d => .error ⟨d, b, position, bs.length⟩
    | .ok (c, size) => do
      let cs ← decodeFrom fuel (position + size) (bs.drop (size - 1))
      .ok (c :: cs)

def decode (bs : List UInt8) : Except Flaw (List Char) := decodeFrom bs.length 0 bs

def text? (bs : List UInt8) : Option String := (decode bs).toOption.map String.ofList

end LeasePlan.Utf8
