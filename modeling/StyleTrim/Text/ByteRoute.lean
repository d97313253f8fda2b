import StyleTrim.Text.Ranges
import StyleTrim.Text.Utf8
namespace StyleTrim.Text

-- The characters of a range as the bytes that write them. A route gives a range for each byte, and
-- stands for all characters whose bytes lie in its ranges.
abbrev ByteRange := UInt8 × UInt8
abbrev Route := List ByteRange

-- Where a range has to be cut first, if it is not one route: the last number before the cut.
-- Both ends must be characters, be written with as many bytes, and differ in a byte only where
-- all bytes behind it run through all they can be. Characters of one byte are one route.
def cutOf? (low high : Nat) : Option Nat :=
  let within (size : Nat) : Option Nat :=
    if low / size = high / size then none
    else if low % size ≠ 0 then some (low / size * size + (size - 1))
    else if high % size ≠ size - 1 then some (high / size * size - 1)
    else none
  if high ≤ 0x7f then none
  else if low ≤ 0xd7ff && 0xe000 ≤ high then some 0xd7ff
  else ([0x7f,0x7ff,0xffff].find? fun n => low ≤ n && n < high).orElse fun _ =>
    (within 64).orElse fun _ => (within 4096).orElse fun _ => within 262144

-- The routes of a range in ascending order.
def routesWithin : Nat → Nat → Nat → List Route
  | 0,_,_ => []
  | fuel + 1,low,high =>
    match cutOf? low high with
    | none => if high < low then [] else [(bytesOf (Char.ofNat low)).zip (bytesOf (Char.ofNat high))]
    | some last => routesWithin fuel low last ++ routesWithin fuel (if last = 0xd7ff then 0xe000 else last + 1) high

-- No range is cut more often than this before a route is left.
def mostCuts : Nat := 16

def routes (ranges : List Range) : List Route := ranges.flatMap fun r => routesWithin mostCuts r.1 r.2

end StyleTrim.Text
