import StyleTrim.Css.Query.Answer
namespace StyleTrim
open Text Css

structure Identity where
  id : Text
  classes : Text
deriving DecidableEq, Repr

def Identity.hasClass (e : Identity) (name : Text) : Bool := (words isAsciiBlank e.classes).contains name

inductive Source where
  | document
  | browser
deriving DecidableEq, Repr

-- Answers what matches a selector. Questions it cannot answer have no answer.
structure Oracle where
  source : Source
  count : Text → Option Nat
  elements : Text → Option (List Identity)

inductive Question where
  | count (selector : Text)
  | elements (selector : Text)
deriving DecidableEq, Repr

namespace Oracle

-- An unanswered question counts as one match, so that nothing is removed for it.
def countOrUsed (o : Oracle) (selector : Text) : Nat := (o.count selector).getD 1

def identityOf (f : Html.Focus) : Identity :=
  ⟨(f.property? "id").getD [],(f.property? "class").getD []⟩

def ofPage (source : Source) (page : Html.Page) : Oracle where
  source := source
  count selector := (Query.read? selector).map fun q => (q.on page).length
  elements selector := (Query.read? selector).map fun q => (q.on page).map identityOf

def ofMarkup (source : Source) (markup : Text) : Oracle := ofPage source (Html.Page.read markup)

end Oracle
end StyleTrim
