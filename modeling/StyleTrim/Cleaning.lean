import StyleTrim.Oracle
import StyleTrim.Removals
import StyleTrim.Whitelist
namespace StyleTrim
open Text Css

-- A sheet on its way through the passes, with what was removed and what was asked so far.
-- `crowd` is the answer about all elements, once the question has been put.
structure Cleaning where
  sheet : Sheet
  removals : Removals
  asked : List (Source × Question)
  crowd : Option (Option (List Identity))

abbrev Cleaning.Verdict := Bool × Cleaning

namespace Cleaning

def of (sheet : Sheet) : Cleaning := ⟨sheet,.none,[],none⟩

def note (c : Cleaning) (o : Oracle) (q : Question) : Cleaning := {c with asked := c.asked ++ [(o.source,q)]}

def isMatched (o : Oracle) (selector : Text) (c : Cleaning) : Verdict :=
  (0 < o.countOrUsed selector,c.note o (.count selector))

-- The base of a state is used if something matches it. An empty base is.
def isBaseUsed (o : Oracle) (base : Text) (c : Cleaning) : Verdict :=
  let base := Selector.queryable base
  if base.isEmpty then (true,c) else isMatched o base c

def everyone (o : Oracle) (c : Cleaning) : Option (List Identity) × Cleaning :=
  match c.crowd with
  | some answer => (answer,c)
  | none =>
    let answer := o.elements "*"
    (answer,{c.note o (.elements "*") with crowd := some answer})

def carries (literal : Selector.Literal) (e : Identity) : Bool :=
  match literal.kind with
  | .byClass => e.hasClass literal.name
  | .byId => e.id == literal.name

-- Whether an element carries the class or id that a selector begins with. What begins with
-- neither is used, and so is everything while the elements are unknown.
def isLiteralUsed (o : Oracle) (selector : Text) (c : Cleaning) : Verdict :=
  match Selector.literal? selector with
  | none => (true,c)
  | some literal =>
    match everyone o c with
    | (none,c) => (true,c)
    | (some elements,c) => (elements.any (carries literal),c)

-- Decides a branch as it would be decided if it stood alone.
def isBranchUsed (o : Oracle) (branch : Text) (c : Cleaning) : Verdict :=
  match Strategy.ofSelector branch with
  | .plain s | .component s => isMatched o s c
  | .stateful base _ => isBaseUsed o base c
  | .escaped s => isLiteralUsed o s c
  | .vendor _ | .anyOf .. | .animation _ => (true,c)

def isAnyUsed (o : Oracle) : List Text → Cleaning → Verdict
  | [], c => (false,c)
  | branch :: more, c =>
    match isBranchUsed o branch c with
    | (true,c) => (true,c)
    | (false,c) => isAnyUsed o more c

def record (c : Cleaning) (category : Category) (selector : Text) : Cleaning :=
  {c with removals := c.removals.add category selector}

def remove (c : Cleaning) (category : Category) (selector : Text) : Cleaning :=
  if 0 < c.sheet.countSelector selector then
    {c with sheet := c.sheet.withoutSelector selector}.record category selector
  else c

def removeUnless (category : Category) (selector : Text) : Verdict → Cleaning
  | (true,c) => c
  | (false,c) => c.remove category selector

def emptyRules (c : Cleaning) : Cleaning :=
  c.sheet.emptySelectors.foldl (fun c s => c.record .empty s) {c with sheet := c.sheet.withoutEmptyRules}

def forComponent (w : Whitelist) (o : Oracle) (c : Cleaning) : Strategy → Cleaning
  | .component tag => if w.protects tag then c else removeUnless .component tag (isMatched o tag c)
  | _ => c

def forList (w : Whitelist) (o : Oracle) (c : Cleaning) : Strategy → Cleaning
  | .anyOf s branches => if w.protectsList s branches then c else removeUnless .anyOf s (isAnyUsed o branches c)
  | _ => c

def forPlain (w : Whitelist) (o : Oracle) (c : Cleaning) : Strategy → Cleaning
  | .plain s => if w.protects s then c else removeUnless .plain s (isMatched o s c)
  | _ => c

def forStateful (w : Whitelist) (o : Oracle) (c : Cleaning) : Strategy → Cleaning
  | .stateful base modifier =>
    let s := base ++ modifier
    if w.protects s then c else removeUnless .stateful s (isBaseUsed o base c)
  | _ => c

def forEscaped (w : Whitelist) (o : Oracle) (c : Cleaning) : Strategy → Cleaning
  | .escaped s => if w.protects s then c else removeUnless .escaped s (isLiteralUsed o s c)
  | _ => c

def forAnimation (w : Whitelist) (c : Cleaning) : Strategy → Cleaning
  | .animation name =>
    if w.protectsAnimation name || c.sheet.referencesAnimation name then c
    else if 0 < c.sheet.countAnimation name then
      {c with sheet := c.sheet.withoutAnimation name}.record .animation (Strategy.animation name).text
    else c
  | _ => c

def components (w : Whitelist) (strategies : List Strategy) (o : Oracle) (c : Cleaning) : Cleaning :=
  strategies.foldl (forComponent w o) c

def animations (w : Whitelist) (strategies : List Strategy) (c : Cleaning) : Cleaning :=
  strategies.foldl (forAnimation w) c

def selectors (w : Whitelist) (strategies : List Strategy) (o : Oracle) (c : Cleaning) : Cleaning :=
  let c := strategies.foldl (forList w o) {c with crowd := none}
  let c := strategies.foldl (forPlain w o) c
  let c := strategies.foldl (forStateful w o) c
  let c := strategies.foldl (forEscaped w o) c
  animations w strategies c

def groups (c : Cleaning) : Cleaning := {c with sheet := c.sheet.pruned}

def documentPasses (w : Whitelist) (strategies : List Strategy) (followsData : Bool) (o : Oracle) (sheet : Sheet) :
    Cleaning :=
  let c := components w strategies o (of sheet).emptyRules
  if followsData then c else selectors w strategies o c

-- What is done with a browser, which is asked about everything but components.
def browserPasses (w : Whitelist) (strategies : List Strategy) (document browser : Oracle) (sheet : Sheet) : Cleaning :=
  selectors w strategies browser (components w strategies document (of sheet).emptyRules)

def byDocument (w : Whitelist) (strategies : List Strategy) (followsData : Bool) (o : Oracle) (sheet : Sheet) :
    Cleaning :=
  (documentPasses w strategies followsData o sheet).groups

def byBrowser (w : Whitelist) (strategies : List Strategy) (document browser : Oracle) (sheet : Sheet) : Cleaning :=
  (browserPasses w strategies document browser sheet).groups

end Cleaning
end StyleTrim
