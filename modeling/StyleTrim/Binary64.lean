import StyleTrim.Text
namespace StyleTrim
open Text

-- A number in binary floating point with a significand of 53 bits: `m * 2^e`, too large to
-- hold, or the outcome of a division that has none. Lengths on a page and sizes in a
-- configuration need no sign here.
inductive Binary64 where
  | finite (m : Nat) (e : Int)
  | infinite
  | undefined
deriving DecidableEq, Repr

-- Which of two decimal neighbours is written where the number is halfway between them.
inductive Tie where
  | up
  | toEven
deriving DecidableEq, Repr

namespace Binary64

def zero : Binary64 := .finite 0 0

def roundDiv (num den : Nat) : Nat :=
  let q := num / den
  let r := num % den
  if den < 2 * r || (2 * r = den && q % 2 = 1) then q + 1 else q

def twoTo (k : Nat) : Nat := Nat.pow 2 k
def tenTo (k : Nat) : Nat := Nat.pow 10 k

def scaled (num den : Nat) (k : Int) : Nat × Nat :=
  if 0 ≤ k then (num * twoTo k.toNat,den) else (num,den * twoTo (-k).toNat)

def round (num den : Nat) : Binary64 :=
  if num = 0 then zero
  else
    let rough : Int := (num.log2 : Int) - den.log2 - 53
    let wide := scaled num den (-rough)
    let e : Int := max (-1074) (if twoTo 53 * wide.2 ≤ wide.1 then rough + 1 else rough)
    let fitted := scaled num den (-e)
    let m := roundDiv fitted.1 fitted.2
    let (m,e) := if m = twoTo 53 then (twoTo 52,e + 1) else (m,e)
    if 971 < e then .infinite else .finite m e

def times : Binary64 → Binary64 → Binary64
  | .finite m e, .finite n f => let s := scaled (m * n) 1 (e + f); round s.1 s.2
  | .infinite, .finite n _ => if n = 0 then .undefined else .infinite
  | .finite m _, .infinite => if m = 0 then .undefined else .infinite
  | .infinite, .infinite => .infinite
  | _, _ => .undefined

def divide : Binary64 → Binary64 → Binary64
  | .finite m e, .finite n f =>
    if n = 0 then (if m = 0 then .undefined else .infinite)
    else let s := scaled m n (e - f); round s.1 s.2
  | .finite _ _, .infinite => zero
  | .infinite, .finite _ _ => .infinite
  | _, _ => .undefined

def numberOf (digits : Text) : Nat := valueOf 10 (digits.map fun c => c.toNat - '0'.toNat)

def ofDecimal (digits : Text) (e : Int) : Binary64 :=
  let significant := digits.dropWhile (· = '0')
  let magnitude := e + significant.length
  if significant.isEmpty || magnitude < -330 then zero
  else if 310 < magnitude then .infinite
  else if 0 ≤ e then round (numberOf digits * tenTo e.toNat) 1
  else round (numberOf digits) (tenTo (-e).toNat)

def exponent? : Text → Option Int
  | [] => some 0
  | mark :: s =>
    let (negative,digits) := match s with
      | '-' :: r => (true,r)
      | '+' :: r => (false,r)
      | r => (false,r)
    if (mark = 'e' || mark = 'E') && !digits.isEmpty && digits.all isDigit then
      let n : Int := numberOf digits
      some (if negative then -n else n)
    else none

def ofUnsigned? (s : Text) : Option Binary64 :=
  if sameIgnoringCase s "inf" || sameIgnoringCase s "infinity" then some .infinite
  else
    let whole := s.takeWhile isDigit
    let rest := s.dropWhile isDigit
    let (fraction,rest) := match rest with
      | '.' :: r => (r.takeWhile isDigit,r.dropWhile isDigit)
      | r => ([],r)
    if whole.isEmpty && fraction.isEmpty then none
    else (exponent? rest).map fun e => ofDecimal (whole ++ fraction) (e - fraction.length)

def positive? (s : Text) : Option Binary64 :=
  (ofUnsigned? (match s with
    | '+' :: r => r
    | r => r)).filter fun l => match l with
      | .finite m _ => m ≠ 0
      | _ => true

structure Interval where
  low : Nat
  middle : Nat
  high : Nat
  den : Nat
  closed : Bool

def interval (m : Nat) (e : Int) : Interval :=
  let below := if m = twoTo 52 && -1074 < e then 4 * m - 1 else 4 * m - 2
  let at4 (n : Nat) := scaled n 1 (e - 2)
  ⟨(at4 below).1,(at4 (4 * m)).1,(at4 (4 * m + 2)).1,(at4 1).2,m % 2 = 0⟩

def Interval.holds (i : Interval) (n : Nat) (k : Int) : Bool :=
  let (left,right) := if 0 ≤ k then (n * tenTo k.toNat * i.den,1) else (n * i.den,tenTo (-k).toNat)
  if i.closed then i.low * right ≤ left && left ≤ i.high * right
  else i.low * right < left && left < i.high * right

def leadingPlaces (num den : Nat) : Nat → Nat
  | 0 => 0
  | fuel + 1 => if den ≤ num then 0 else leadingPlaces (num * 10) den fuel + 1

def firstPower (num den : Nat) : Int :=
  if den ≤ num then (ofNat (num / den)).length - 1 else -(leadingPlaces num den 400 : Int)

def Interval.onGrid (i : Interval) (tie : Tie) (k : Int) : Option Nat :=
  let (num,den) := if 0 ≤ k then (i.middle,i.den * tenTo k.toNat) else (i.middle * tenTo (-k).toNat,i.den)
  let below := num / den
  let isBelow := i.holds below k
  let isAbove := i.holds (below + 1) k
  let isNearer := 2 * (num % den) < den || (2 * (num % den) = den && tie = .toEven && below % 2 = 0)
  if isBelow && (!isAbove || isNearer) then some below
  else if isAbove then some (below + 1)
  else none

def Interval.shortest (i : Interval) (tie : Tie) (first : Int) (count : Nat) : Nat → Nat × Int
  | 0 => (0,0)
  | fuel + 1 =>
    let k : Int := first + 1 - count
    match i.onGrid tie k with
    -- The upper neighbour may be the next power of ten, which is a single digit.
    | some n => if n = tenTo count then (1,k + count) else (n,k)
    | none => shortest i tie first (count+1) fuel

def shortest (tie : Tie) (m : Nat) (e : Int) : Nat × Int :=
  let i := interval m e
  i.shortest tie (firstPower i.middle i.den) 1 17

def positional (n : Nat) (k : Int) : Text :=
  let digits := ofNat n
  if 0 ≤ k then digits ++ List.replicate k.toNat '0'
  else
    let places := (-k).toNat
    if places < digits.length then
      digits.take (digits.length - places) ++ '.' :: digits.drop (digits.length - places)
    else '0' :: '.' :: List.replicate (places - digits.length) '0' ++ digits

def text : Binary64 → Text
  | .infinite => "inf"
  | .undefined => "NaN"
  | .finite m e =>
    if m = 0 then "0"
    else
      let (n,k) := shortest .up m e
      positional n k

end Binary64
end StyleTrim
