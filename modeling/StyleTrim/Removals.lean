import StyleTrim.Css.Strategy
namespace StyleTrim
open Css

-- What was removed and under which category it counts, in order.
structure Removals where
  records : List (Category × Text)
deriving DecidableEq, Repr

namespace Removals

def none : Removals := ⟨[]⟩

def add (r : Removals) (category : Category) (selector : Text) : Removals :=
  ⟨r.records ++ [(category,selector)]⟩

def of (r : Removals) (category : Category) : List Text :=
  (r.records.filter (·.1 = category)).map (·.2)

def count (r : Removals) (category : Category) : Nat := (r.of category).length
def total (r : Removals) : Nat := r.records.length
def isEmpty (r : Removals) : Bool := r.records.isEmpty

def insertByName (category : Category) : List Category → List Category
  | [] => [category]
  | other :: more =>
    if Text.before category.name other.name then category :: other :: more
    else other :: insertByName category more

def categories (r : Removals) : List Category :=
  (Category.all.filter fun c => r.count c ≠ 0).foldr insertByName []

structure Tally where
  count : Nat
  selectors : List Text
deriving DecidableEq, Repr

def tallies (r : Removals) : List (Text × Tally) :=
  r.categories.map fun c => (c.name,⟨r.count c,r.of c⟩)

end Removals
end StyleTrim
