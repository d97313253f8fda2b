import StyleTrim.Text.Age
import StyleTrim.Text.Boundary
import StyleTrim.Text.Category
import StyleTrim.Text.Folding
import StyleTrim.Text.Script
import StyleTrim.Text.Trait
namespace StyleTrim
open Text

-- Which characters a pattern takes in one place: ranges in ascending order with gaps between them.
structure CharSet where
  ranges : List Range
deriving DecidableEq, Repr

namespace CharSet

-- The numbers of surrogates belong to no character and make no gap.
def following (n : Nat) : Nat := if n = 0xd7ff then 0xe000 else n + 1
def preceding (n : Nat) : Nat := if n = 0xe000 then 0xd7ff else n - 1

def joinOnto (last : Range) : List Range → List Range
  | [] => [last]
  | r :: more =>
    if r.1 ≤ following last.2 then joinOnto (last.1,max last.2 r.2) more else last :: joinOnto r more

-- Ranges in ascending order, with those joined that overlap or touch.
def joined : List Range → List Range
  | [] => []
  | r :: more => joinOnto r more

def beginsFirst (a b : Range) : Bool := a.1 ≤ b.1

def table (ranges : List Range) : CharSet := ⟨joined (ranges.mergeSort beginsFirst)⟩

def empty : CharSet := ⟨[]⟩
def range (low high : Char) : CharSet := ⟨[(low.toNat,high.toNat)]⟩
def one (c : Char) : CharSet := .range c c
def ofList (ranges : List (Char × Char)) : CharSet := .table (ranges.map fun (low,high) => (low.toNat,high.toNat))
def ofChars (cs : Text) : CharSet := .table (cs.map fun c => (c.toNat,c.toNat))

def has (s : CharSet) (c : Char) : Bool := isWithin s.ranges c.toNat

def single? (s : CharSet) : Option Char :=
  match s.ranges with
  | [(low,high)] => if low = high then some (Char.ofNat low) else none
  | _ => none

def isAsciiOnly (s : CharSet) : Bool := s.ranges.all fun r => r.2 < 0x80

def union (a b : CharSet) : CharSet := ⟨joined (a.ranges.merge b.ranges beginsFirst)⟩

def gapsFrom (low : Nat) : List Range → List Range
  | [] => if low ≤ 0x10ffff then [(low,0x10ffff)] else []
  | r :: more =>
    let gaps := gapsFrom (following r.2) more
    if low < r.1 then (low,preceding r.1) :: gaps else gaps

def complement (s : CharSet) : CharSet := ⟨gapsFrom 0 s.ranges⟩
def all : CharSet := complement empty
def common (a b : CharSet) : CharSet := (a.complement.union b.complement).complement
def without (a b : CharSet) : CharSet := (a.complement.union b).complement
def different (a b : CharSet) : CharSet := (a.without b).union (b.without a)

-- Each character that has variants with these, in ascending order.
def caseTable : List (Nat × List Nat) :=
  (caseGroups.flatMap fun group => group.map fun n => (n,group)).mergeSort fun a b => a.1 ≤ b.1

def variantsIn (ranges : List Range) (cased : List (Nat × List Nat)) : List Nat :=
  match ranges,cased with
  | [],_ | _,[] => []
  | r :: ranges,(n,group) :: more =>
    if n < r.1 then variantsIn (r :: ranges) more
    else if n ≤ r.2 then group ++ variantsIn (r :: ranges) more
    else variantsIn ranges ((n,group) :: more)
termination_by ranges.length + cased.length

def anyCase (s : CharSet) : CharSet :=
  s.union (.table ((variantsIn s.ranges caseTable).map fun n => (n,n)))

def upperChar (c : Char) : Char := if isAsciiLower c then Char.ofNat (c.toNat - 32) else c

def asciiLetters : Text := "abcdefghijklmnopqrstuvwxyzABCDEFGHIJKLMNOPQRSTUVWXYZ"

def anyAsciiCase (s : CharSet) : CharSet :=
  s.union (.ofChars (asciiLetters.filter fun c => s.has (lowerChar c) || s.has (upperChar c)))

def asciiDigit : CharSet := .range '0' '9'
def asciiWord : CharSet := ofList [('a','z'),('A','Z'),('0','9'),('_','_')]
def asciiBlank : CharSet := ofList [('\t','\r'),(' ',' ')]

def traitNamed (name : String) : List Range := (trait? name).getD []

def letter : CharSet := .table (traitNamed "alphabetic")
def digit : CharSet := .table (categoriesNamed ["nd"])
def number : CharSet := .table (categoriesNamed ["nd","nl","no"])
-- Letters, marks, digits, connectors and joiners.
def word : CharSet :=
  .table (letter.ranges ++ categoriesNamed ["mn","mc","me","nd","pc"] ++ traitNamed "joinc")
def blank : CharSet := .table (traitNamed "whitespace")

def asciiClass? (name : Text) : Option CharSet :=
  if isOneOf name ["alnum"] then some (ofList [('0','9'),('A','Z'),('a','z')])
  else if isOneOf name ["alpha"] then some (ofList [('A','Z'),('a','z')])
  else if isOneOf name ["ascii"] then some (.range '\x00' '\x7f')
  else if isOneOf name ["blank"] then some (ofList [('\t','\t'),(' ',' ')])
  else if isOneOf name ["cntrl"] then some (ofList [('\x00','\x1f'),('\x7f','\x7f')])
  else if isOneOf name ["digit"] then some asciiDigit
  else if isOneOf name ["graph"] then some (.range '!' '~')
  else if isOneOf name ["lower"] then some (.range 'a' 'z')
  else if isOneOf name ["print"] then some (.range ' ' '~')
  else if isOneOf name ["punct"] then some (ofList [('!','/'),(':','@'),('[','\x60'),('\x7b','~')])
  else if isOneOf name ["space"] then some asciiBlank
  else if isOneOf name ["upper"] then some (.range 'A' 'Z')
  else if isOneOf name ["word"] then some asciiWord
  else if isOneOf name ["xdigit"] then some (ofList [('0','9'),('A','F'),('a','f')])
  else none

-- A name as tables know it; what is not ASCII is passed over.
def plainName (name : Text) : Text :=
  let (isMarked,rest) := match name with
    | i :: s :: rest => if (i = 'i' || i = 'I') && (s = 's' || s = 'S') then (true,rest) else (false,name)
    | _ => (false,name)
  let plain := lower (rest.filter fun c => isAscii c && c ≠ ' ' && c ≠ '_' && c ≠ '-')
  if isMarked && plain == ['c'] then "isc" else plain

def categoryNamed? (plain : Text) : Option CharSet :=
  if isOneOf plain ["any"] then some all
  else if isOneOf plain ["ascii"] then some (.range '\x00' '\x7f')
  else if isOneOf plain ["assigned"] then (category? "cn").map fun r => (CharSet.table r).complement
  else (category? plain).map .table

def named? (name : Text) : Option CharSet :=
  let plain := plainName name
  -- Some short names of categories are also short names of other properties.
  match (if isOneOf plain ["cf","sc","lc"] then none else trait? plain) with
  | some ranges => some (.table ranges)
  | none => (categoryNamed? plain).orElse fun _ => (script? plain).map .table

def valued? (property value : Text) : Option CharSet :=
  let property := plainName property
  let value := plainName value
  if isOneOf property ["gc","generalcategory"] then categoryNamed? value
  else if isOneOf property ["sc","script"] then (script? value).map .table
  else if isOneOf property ["scx","scriptextensions"] then (scriptUse? value).map .table
  else if isOneOf property ["age"] then (age? value).map .table
  else if isOneOf property ["gcb","graphemeclusterbreak"] then (partNamed? clusterParts value).map .table
  else if isOneOf property ["wb","wordbreak"] then (partNamed? wordParts value).map .table
  else if isOneOf property ["sb","sentencebreak"] then (partNamed? sentenceParts value).map .table
  else none

end CharSet
end StyleTrim
