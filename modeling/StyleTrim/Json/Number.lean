import StyleTrim.Binary64
namespace StyleTrim
open Text

-- Numbers that are written without fraction and exponent and fit into 64 bits are kept
-- exactly; the minus of zero is not lost either.
inductive Json.Number where
  | natural (n : Nat)
  | negative (n : Nat)
  | rounded (isNegative : Bool) (size : Binary64)
deriving DecidableEq, Repr

structure Json.Numeral where
  isNegative : Bool
  whole : List Nat
  fraction : List Nat
  exponent : Int
  isPlain : Bool

namespace Json

def digits (s : Text) : List Nat := (s.takeWhile isDigit).map fun c => c.toNat - '0'.toNat
def afterDigits (s : Text) : Text := s.dropWhile isDigit

def fraction? : Text → Option (List Nat × Text)
  | '.' :: s => if (digits s).isEmpty then none else some (digits s,afterDigits s)
  | s => some ([],s)

-- A sign that may be missing, and what follows it.
def sign : Text → Bool × Text
  | '-' :: s => (true,s)
  | '+' :: s => (false,s)
  | s => (false,s)

def exponent? : Text → Option (Option Int × Text)
  | [] => some (none,[])
  | mark :: s =>
    if mark = 'e' || mark = 'E' then
      let s := sign s
      let n : Int := valueOf 10 (digits s.2)
      if (digits s.2).isEmpty then none else some (some (if s.1 then -n else n),afterDigits s.2)
    else some (none,mark :: s)

-- A number at the beginning of a text, without its sign. A zero is followed by no digit.
def unsigned? (isNegative : Bool) (s : Text) : Option (Numeral × Text) :=
  let whole := digits s
  if whole.isEmpty || (whole.head? = some 0 && 1 < whole.length) then none
  else (fraction? (afterDigits s)).bind fun f => (exponent? f.2).map fun e =>
    (⟨isNegative,whole,f.1,e.1.getD 0,f.1.isEmpty && e.1.isNone⟩,e.2)

-- A number at the beginning of a text. Only a minus may stand before it.
def numeral? : Text → Option (Numeral × Text)
  | '-' :: s => unsigned? true s
  | s => unsigned? false s

theorem afterDigits_length (s : Text) : (afterDigits s).length ≤ s.length :=
  (List.dropWhile_suffix _).length_le

theorem afterDigits_progress {s : Text} (h : digits s ≠ []) : (afterDigits s).length < s.length := by
  cases s with
  | nil => simp [digits] at h
  | cons c s =>
    by_cases hc : isDigit c
    · have := afterDigits_length s
      simp only [afterDigits,List.dropWhile_cons,hc,↓reduceIte,List.length_cons]
      simp only [afterDigits] at this
      omega
    · simp [digits,hc] at h

theorem sign_length (s : Text) : (sign s).2.length ≤ s.length := by
  unfold sign; split <;> simp

theorem fraction_length {s : Text} {f : List Nat × Text} (h : fraction? s = some f) :
    f.2.length ≤ s.length := by
  unfold fraction? at h
  split at h
  · rename_i t
    split at h
    · simp at h
    · have := afterDigits_length t
      simp only [Option.some.injEq] at h
      simp only [← h,List.length_cons]; omega
  · simp only [Option.some.injEq] at h; simp [← h]

theorem exponent_length {s : Text} {e : Option Int × Text} (h : exponent? s = some e) :
    e.2.length ≤ s.length := by
  unfold exponent? at h
  split at h
  · simp only [Option.some.injEq] at h; simp [← h]
  · rename_i c t
    have signed := sign_length t
    have shorter := afterDigits_length (sign t).2
    split at h
    · simp only at h
      split at h
      · simp at h
      · simp only [Option.some.injEq] at h
        simp only [← h,List.length_cons]; omega
    · simp only [Option.some.injEq] at h; simp [← h]

theorem unsigned_length {isNegative : Bool} {s : Text} {n : Numeral × Text}
    (h : unsigned? isNegative s = some n) : n.2.length < s.length := by
  unfold unsigned? at h
  simp only at h
  split at h
  · simp at h
  · rename_i hw
    simp only [Option.bind_eq_some_iff,Option.map_eq_some_iff] at h
    obtain ⟨f,hf,e,he,rfl⟩ := h
    have progress := afterDigits_progress (s := s) (by intro none; simp [none] at hw)
    have := fraction_length hf
    have := exponent_length he
    simp only; omega

theorem numeral_length {s : Text} {n : Numeral × Text} (h : numeral? s = some n) :
    n.2.length < s.length := by
  unfold numeral? at h
  split at h
  · have := unsigned_length h; simp only [List.length_cons]; omega
  · exact unsigned_length h

def largestNatural : Nat := 0xffffffffffffffff

def significand (n : Nat) : List Nat → Nat × Nat
  | [] => (n,0)
  | d :: ds => if n * 10 + d ≤ largestNatural then significand (n * 10 + d) ds else (n,ds.length + 1)

def isZero : Binary64 → Bool
  | .finite m _ => m = 0
  | _ => false

-- Divides by a power of ten in steps that are themselves numbers.
def dividedByPower (size : Binary64) (k : Nat) : Binary64 :=
  if _h : 308 < k then
    if isZero size then size else dividedByPower (size.divide (.round (Binary64.tenTo 308) 1)) (k - 308)
  else size.divide (.round (Binary64.tenTo k) 1)
termination_by k
decreasing_by omega

-- A significand times a power of ten, rounded once for each step. What is too large is no number.
def approximate? (n : Nat) (k : Int) : Option Binary64 :=
  let size := Binary64.round n 1
  if k < 0 then some (dividedByPower size (-k).toNat)
  else if isZero size then some size
  else if 308 < k then none
  else match size.times (.round (Binary64.tenTo k.toNat) 1) with
    | .infinite => none
    | product => some product

def Numeral.number? (n : Numeral) : Option Number :=
  let (head,droppedDigits) := significand 0 n.whole
  let (all,droppedPlaces) := significand head n.fraction
  let exponent := n.exponent + droppedDigits - (n.fraction.length - droppedPlaces : Nat)
  let isWhole := n.isPlain && droppedDigits = 0
  if isWhole && !n.isNegative then some (.natural all)
  else if isWhole && all ≠ 0 && all ≤ 0x8000000000000000 then some (.negative all)
  else (approximate? all exponent).map (.rounded n.isNegative)

def scientific (n : Nat) (k : Int) : Text :=
  let written := ofNat n
  let point : Int := written.length + k
  if 0 ≤ k && point ≤ 16 then Binary64.positional n k ++ ".0"
  else if -5 < point && point ≤ 16 then Binary64.positional n k
  else
    let mantissa := match written with
      | first :: second :: more => first :: '.' :: second :: more
      | short => short
    let exponent := point - 1
    mantissa ++ 'e' :: (if exponent < 0 then '-' else '+') :: ofNat exponent.natAbs

def sizeText : Binary64 → Text
  | .finite m e =>
    if m = 0 then "0.0"
    else let (n,k) := Binary64.shortest .toEven m e; scientific n k
  | other => other.text

def Number.text : Number → Text
  | .natural n => ofNat n
  | .negative n => '-' :: ofNat n
  | .rounded isNegative size => (if isNegative then ['-'] else []) ++ sizeText size

end Json
end StyleTrim
