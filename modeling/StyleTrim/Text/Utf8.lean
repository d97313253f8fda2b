import StyleTrim.Text
namespace StyleTrim.Text

-- What bytes are read as: characters, and runs of bytes that belong to no character.
-- A run that the end of the input cut short could have become a character.
inductive Piece where
  | char (c : Char)
  | stray (count : Nat) (isCut : Bool)
deriving DecidableEq, Repr

-- A character of which some bytes were seen: the bits so far, how many bytes are due,
-- and the bounds of the next one.
structure Pending where
  bits : Nat
  due : Nat
  seen : Nat
  low : UInt8
  high : UInt8

-- The first byte of a character. Bytes that would make a longer form than needed, a
-- surrogate or a number past the last code point are refused as soon as they show.
def begin? (b : UInt8) : Option Pending :=
  if 0xc2 ≤ b && b ≤ 0xdf then some ⟨b.toNat - 0xc0,1,1,0x80,0xbf⟩
  else if b = 0xe0 then some ⟨0,2,1,0xa0,0xbf⟩
  else if b = 0xed then some ⟨0xd,2,1,0x80,0x9f⟩
  else if 0xe1 ≤ b && b ≤ 0xef then some ⟨b.toNat - 0xe0,2,1,0x80,0xbf⟩
  else if b = 0xf0 then some ⟨0,3,1,0x90,0xbf⟩
  else if 0xf1 ≤ b && b ≤ 0xf3 then some ⟨b.toNat - 0xf0,3,1,0x80,0xbf⟩
  else if b = 0xf4 then some ⟨4,3,1,0x80,0x8f⟩
  else none

def afresh (b : UInt8) : List Piece × Option Pending :=
  if b < 0x80 then ([.char (Char.ofNat b.toNat)],none)
  else match begin? b with
    | some p => ([],some p)
    | none => ([.stray 1 false],none)

-- What a byte completes, and what it leaves pending. A byte that cannot continue a character
-- ends it and is looked at again.
def advance (pending : Option Pending) (b : UInt8) : List Piece × Option Pending :=
  match pending with
  | none => afresh b
  | some p =>
    if p.low ≤ b && b ≤ p.high then
      let bits := p.bits * 64 + (b.toNat - 0x80)
      if p.due = 1 then ([.char (Char.ofNat bits)],none)
      else ([],some ⟨bits,p.due - 1,p.seen + 1,0x80,0xbf⟩)
    else
      let (found,next) := afresh b
      (.stray p.seen false :: found,next)

def piecesFrom (pending : Option Pending) : Bytes → List Piece
  | [] => match pending with
    | none => []
    | some p => [.stray p.seen true]
  | b :: rest =>
    let (found,next) := advance pending b
    found ++ piecesFrom next rest

def bytesOf (c : Char) : Bytes :=
  let n := c.toNat
  let tail (bits : Nat) : UInt8 := UInt8.ofNat (0x80 + bits % 64)
  if n < 0x80 then [UInt8.ofNat n]
  else if n < 0x800 then [UInt8.ofNat (0xc0 + n / 64),tail n]
  else if n < 0x10000 then [UInt8.ofNat (0xe0 + n / 4096),tail (n / 64),tail n]
  else [UInt8.ofNat (0xf0 + n / 262144),tail (n / 4096),tail (n / 64),tail n]

def encode (s : Text) : Bytes := s.flatMap bytesOf

-- The first bytes that are no text: where they begin, how many they are, and whether the
-- input ended too early.
structure EncodingError where
  index : Nat
  count : Nat
  isCut : Bool
deriving DecidableEq, Repr

def EncodingError.message (e : EncodingError) : Text :=
  let what : Text :=
    if e.isCut then "incomplete utf-8 byte sequence"
    else ("invalid utf-8 sequence of " : Text) ++ ofNat e.count ++ " bytes"
  what ++ " from index " ++ ofNat e.index

def collect (index : Nat) : List Piece → Except EncodingError Text
  | [] => .ok []
  | .stray count isCut :: _ => .error ⟨index,count,isCut⟩
  | .char c :: more => (collect (index + (bytesOf c).length) more).map (c :: ·)

-- The text of some bytes, all of which must belong to characters.
def decode (b : Bytes) : Except EncodingError Text := collect 0 (piecesFrom none b)

def decodeLossy (b : Bytes) : Text :=
  (piecesFrom none b).map fun piece => match piece with
    | .char c => c
    | .stray _ _ => replacement

end StyleTrim.Text
