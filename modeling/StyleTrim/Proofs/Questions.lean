import StyleTrim.Proofs.Bookkeeping
namespace StyleTrim
open Text Css
variable {o document browser : Oracle} {w : Whitelist} {c next : Cleaning} {st : Strategy} {strategies : List Strategy}
  {qs qs' : List Question} {v : Cleaning.Verdict} {category : Category}

-- An oracle is asked what has to be known, and all elements are asked for once. What has to be known is told
-- here without the passes; that they ask for it and for nothing else is read off one entry after the other.

namespace Question

def counted? : Question → Option Text
  | .count selector => some selector
  | .elements _ => none

def listed? : Question → Option Text
  | .count _ => none
  | .elements selector => some selector

def isListed (q : Question) : Bool := q.listed?.isSome

@[simp] theorem counted?_count (selector : Text) : counted? (.count selector) = some selector := rfl
@[simp] theorem counted?_elements (selector : Text) : counted? (.elements selector) = none := rfl
@[simp] theorem listed?_count (selector : Text) : listed? (.count selector) = none := rfl
@[simp] theorem listed?_elements (selector : Text) : listed? (.elements selector) = some selector := rfl
@[simp] theorem isListed_count (selector : Text) : isListed (.count selector) = false := rfl
@[simp] theorem isListed_elements (selector : Text) : isListed (.elements selector) = true := rfl

-- What is asked of some questions where the elements are `known` or not. Once asked for they are known,
-- whatever the answer was.
def fresh (known : Bool) : List Question → List Question
  | [] => []
  | .count selector :: more => .count selector :: fresh known more
  | .elements selector :: more => if known then fresh known more else .elements selector :: fresh true more

theorem fresh_append (known : Bool) (qs qs' : List Question) :
    fresh known (qs ++ qs') = fresh known qs ++ fresh (known || qs.any isListed) qs' := by
  induction qs generalizing known with
  | nil => simp [fresh]
  | cons q more ih => cases q <;> cases known <;> simp [fresh,ih]

theorem fresh_counts (known : Bool) (qs : List Question) : (fresh known qs).filterMap counted? = qs.filterMap counted? := by
  induction qs generalizing known with
  | nil => rfl
  | cons q more ih => cases q <;> cases known <;> simp [fresh,List.filterMap_cons,ih]

theorem fresh_listed (known : Bool) (qs : List Question) :
    (fresh known qs).filterMap listed? = if known then [] else (qs.filterMap listed?).take 1 := by
  induction qs generalizing known with
  | nil => simp [fresh]
  | cons q more ih =>
    cases q with
    | count selector => simpa only [fresh,List.filterMap_cons,listed?_count] using ih known
    | elements selector =>
      have nothing := ih true
      cases known with
      | true => exact nothing
      | false => simpa [fresh,List.filterMap_cons] using nothing

-- Of equal questions about elements the first is left.
theorem take_listed {selector : Text} (same : ∀ s ∈ qs.filterMap listed?, s = selector) :
    (qs.filterMap listed?).take 1 = if qs.any isListed then [selector] else [] := by
  induction qs with
  | nil => rfl
  | cons q more ih =>
    cases q with
    | count => simpa [List.filterMap_cons] using ih (by simpa [List.filterMap_cons] using same)
    | elements s => simpa [List.filterMap_cons] using same s (by simp)

theorem fresh_counting (known : Bool) (counting : ∀ q ∈ qs, q.isListed = false) : fresh known qs = qs := by
  induction qs with
  | nil => rfl
  | cons q more ih =>
    have rest := ih fun q inside => counting q (List.mem_cons_of_mem _ inside)
    have first := counting q List.mem_cons_self
    cases q with
    | count => simp [fresh,rest]
    | elements => cases first

end Question

namespace Cleaning
open Question

-- The question that decides on what stands alone, if one does.
def need? : Strategy → Option Question
  | .plain s | .component s => some (.count s)
  | .stateful base _ =>
    if (Selector.queryable base).isEmpty then none else some (.count (Selector.queryable base))
  | .escaped s => (Selector.literal? s).map fun _ => .elements "*"
  | .vendor _ | .anyOf .. | .animation _ => none

-- The branches up to the first that is used, and that one.
def upToUsed (o : Oracle) : List Text → List Text
  | [] => []
  | branch :: more => branch :: if o.usesAlone (.ofSelector branch) then [] else upToUsed o more

def needs (o : Oracle) : Strategy → List Question
  | .anyOf _ branches => (upToUsed o branches).flatMap fun branch => (need? (.ofSelector branch)).toList
  | st => (need? st).toList

-- The entries of one kind that are decided on by an oracle.
def unprotected (w : Whitelist) (strategies : List Strategy) (category : Category) : List Strategy :=
  strategies.filter fun st => st.category == category && !w.protectsStrategy st

def needsOf (w : Whitelist) (o : Oracle) (strategies : List Strategy) (category : Category) : List Question :=
  (unprotected w strategies category).flatMap (needs o)

-- What has to be known of selectors: of lists, then of selectors that are asked for themselves, of states, and of those
-- with escapes.
def inquiry (w : Whitelist) (o : Oracle) (strategies : List Strategy) : List Question :=
  [Category.anyOf,.plain,.stateful,.escaped].flatMap (needsOf w o strategies)

-- What is counted for an entry, and whether a literal is looked for.
def countFor? : Strategy → Option Text
  | .plain s | .component s => some s
  | .stateful base _ => if (Selector.queryable base).isEmpty then none else some (Selector.queryable base)
  | _ => none

def counts (o : Oracle) : Strategy → List Text
  | .anyOf _ branches => (upToUsed o branches).filterMap fun branch => countFor? (.ofSelector branch)
  | st => (countFor? st).toList

def hasLiteral : Strategy → Bool
  | .escaped s => (Selector.literal? s).isSome
  | _ => false

def seeksLiteral (o : Oracle) : Strategy → Bool
  | .anyOf _ branches => (upToUsed o branches).any fun branch => hasLiteral (.ofSelector branch)
  | st => hasLiteral st

theorem mem_unprotected : st ∈ unprotected w strategies category ↔
    st ∈ strategies ∧ st.category = category ∧ w.protectsStrategy st = false := by
  simp [unprotected]

theorem need?_counts (st : Strategy) : (need? st).toList.filterMap counted? = (countFor? st).toList := by
  cases st with
  | stateful base modifier =>
    simp only [need?,countFor?]
    split <;> simp
  | escaped s => cases found : Selector.literal? s <;> simp [need?,countFor?,found]
  | _ => simp [need?,countFor?]

theorem need?_seeks (st : Strategy) : (need? st).toList.any isListed = hasLiteral st := by
  cases st with
  | stateful base modifier =>
    simp only [need?,hasLiteral]
    split <;> simp
  | escaped s => cases found : Selector.literal? s <;> simp [need?,hasLiteral,found]
  | _ => simp [need?,hasLiteral]

theorem need?_listed : ∀ selector ∈ (need? st).toList.filterMap listed?, selector = "*" := by
  cases st with
  | stateful base modifier =>
    simp only [need?]
    split <;> simp
  | escaped s => cases found : Selector.literal? s <;> simp [need?,found]
  | _ => simp [need?]

theorem needs_counts (o : Oracle) (st : Strategy) : (needs o st).filterMap counted? = counts o st := by
  cases st with
  | anyOf s branches =>
    simp only [needs,counts,List.filterMap_flatMap,need?_counts]
    exact (List.filterMap_eq_flatMap_toList _ _).symm
  | _ => simp only [needs,counts,need?_counts]

theorem needs_seek (o : Oracle) (st : Strategy) : (needs o st).any isListed = seeksLiteral o st := by
  cases st with
  | anyOf s branches => simp only [needs,seeksLiteral,List.any_flatMap,need?_seeks]
  | _ => simp only [needs,seeksLiteral,need?_seeks]

theorem needs_listed : ∀ selector ∈ (needs o st).filterMap listed?, selector = "*" := by
  cases st with
  | anyOf s branches =>
    simp only [needs,List.filterMap_flatMap,List.mem_flatMap]
    intro selector ⟨branch,_,inside⟩
    exact need?_listed selector inside
  | _ =>
    simp only [needs]
    exact need?_listed

theorem inquiry_counts : (inquiry w o strategies).filterMap counted? =
    (unprotected w strategies .anyOf ++ unprotected w strategies .plain ++ unprotected w strategies .stateful).flatMap
      (counts o) := by
  have escaped : (unprotected w strategies .escaped).flatMap (counts o) = [] := by
    simp only [List.flatMap_eq_nil_iff,mem_unprotected]
    intro st ⟨_,kind,_⟩
    cases st <;> cases kind
    rfl
  simp [inquiry,needsOf,List.filterMap_flatMap,needs_counts,escaped]

theorem inquiry_seeks : (inquiry w o strategies).any isListed =
    (unprotected w strategies .anyOf ++ unprotected w strategies .escaped).any (seeksLiteral o) := by
  have counted : ∀ category, category = .plain ∨ category = .stateful →
      (unprotected w strategies category).any (seeksLiteral o) = false := by
    intro category kinds
    simp only [List.any_eq_false,mem_unprotected]
    intro st ⟨_,kind,_⟩
    rcases kinds with same | same <;> cases st <;> simp_all [Strategy.category,seeksLiteral,hasLiteral]
  simp [inquiry,needsOf,List.any_flatMap,needs_seek,counted .plain (.inl rfl),counted .stateful (.inr rfl)]

theorem inquiry_listed : ∀ selector ∈ (inquiry w o strategies).filterMap listed?, selector = "*" := by
  simp only [inquiry,needsOf,List.filterMap_flatMap,List.mem_flatMap]
  intro selector ⟨category,_,st,_,inside⟩
  exact needs_listed selector inside

-- The questions that a step puts, and that it keeps the answer about all elements.
structure Asks (o : Oracle) (qs : List Question) (c next : Cleaning) : Prop where
  asked : next.asked = c.asked ++ (fresh c.crowd.isSome qs).map fun q => (o.source,q)
  known : next.crowd.isSome = (c.crowd.isSome || qs.any isListed)

theorem Asks.nothing : Asks o [] c c := ⟨by simp [fresh],by simp⟩

theorem Asks.trans {c' : Cleaning} (one : Asks o qs c c') (other : Asks o qs' c' next) : Asks o (qs ++ qs') c next where
  asked := by simp [other.asked,one.asked,one.known,fresh_append]
  known := by simp [other.known,one.known,Bool.or_assoc]

theorem matched_asks (o : Oracle) (selector : Text) (c : Cleaning) : Asks o [.count selector] c (isMatched o selector c).2 :=
  ⟨by simp [isMatched,note,fresh],by simp [isMatched,note]⟩

theorem base_asks (o : Oracle) (base modifier : Text) (c : Cleaning) :
    Asks o (need? (.stateful base modifier)).toList c (isBaseUsed o base c).2 := by
  simp only [isBaseUsed,need?]
  split
  · exact .nothing
  · exact matched_asks o _ c

theorem everyone_asks (o : Oracle) (c : Cleaning) : Asks o [.elements "*"] c (everyone o c).2 := by
  unfold everyone
  cases crowd : c.crowd with
  | some answer => exact ⟨by simp [fresh,crowd],by simp [crowd]⟩
  | none => exact ⟨by simp [note,fresh,crowd],by simp⟩

theorem literal_asks (o : Oracle) (selector : Text) (c : Cleaning) :
    Asks o (need? (.escaped selector)).toList c (isLiteralUsed o selector c).2 := by
  cases found : Selector.literal? selector with
  | none =>
    simp only [isLiteralUsed,need?,found,Option.map_none,Option.toList_none]
    exact .nothing
  | some literal =>
    have after : (isLiteralUsed o selector c).2 = (everyone o c).2 := by
      simp only [isLiteralUsed,found]
      split <;> simp_all
    simp only [after,need?,found,Option.map_some,Option.toList_some]
    exact everyone_asks o c

theorem branch_asks (o : Oracle) (branch : Text) (c : Cleaning) :
    Asks o (need? (.ofSelector branch)).toList c (isBranchUsed o branch c).2 := by
  unfold isBranchUsed
  cases Strategy.ofSelector branch with
  | plain s | component s => exact matched_asks o s c
  | stateful base modifier => exact base_asks o base modifier c
  | escaped s => exact literal_asks o s c
  | vendor | anyOf | animation => exact .nothing

-- Whether there is a next branch to look at hangs on the answer about this one.
theorem any_asks {branches : List Text} (informed : Informed o c) :
    Asks o ((upToUsed o branches).flatMap fun branch => (need? (.ofSelector branch)).toList) c (isAnyUsed o branches c).2 := by
  induction branches generalizing c with
  | nil => exact .nothing
  | cons branch more ih =>
    have first := branch_asks o branch c
    have answers : Answers o (o.usesAlone (.ofSelector branch)) c (isBranchUsed o branch c) := branch_answers informed
    rw [upToUsed,List.flatMap_cons,isAnyUsed,← answers.verdict]
    generalize isBranchUsed o branch c = v at first answers
    obtain ⟨used,after⟩ := v
    cases used with
    | true => simpa using first
    | false => simpa using first.trans (ih answers.informed)

theorem removeUnless_asks (asks : Asks o qs c v.2) (category : Category) (selector : Text) :
    Asks o qs c (removeUnless category selector v) := by
  obtain ⟨verdict,after⟩ := v
  cases verdict with
  | true => exact asks
  | false =>
    rw [removeUnless,remove]
    split
    · exact ⟨asks.asked,asks.known⟩
    · exact asks

-- What a pass asks for one entry.
def due (w : Whitelist) (o : Oracle) (category : Category) (st : Strategy) : List Question :=
  if st.category == category && !w.protectsStrategy st then needs o st else []

theorem guarded_asks (st : Strategy) (asks : Asks o (needs o st) c v.2) :
    Asks o (due w o st.category st) c (if w.protectsStrategy st then c else removeUnless st.category st.text v) := by
  cases safe : w.protectsStrategy st with
  | true => simpa [due,safe] using Asks.nothing
  | false => simpa [due,safe] using removeUnless_asks asks st.category st.text

theorem forComponent_asks : Asks o (due w o .component st) c (forComponent w o c st) := by
  cases st with
  | component tag => exact guarded_asks (.component tag) (matched_asks o tag c)
  | _ => exact .nothing

theorem forList_asks (informed : Informed o c) : Asks o (due w o .anyOf st) c (forList w o c st) := by
  cases st with
  | anyOf s branches => exact guarded_asks (.anyOf s branches) (any_asks informed)
  | _ => exact .nothing

theorem forPlain_asks : Asks o (due w o .plain st) c (forPlain w o c st) := by
  cases st with
  | plain s => exact guarded_asks (.plain s) (matched_asks o s c)
  | _ => exact .nothing

theorem forStateful_asks : Asks o (due w o .stateful st) c (forStateful w o c st) := by
  cases st with
  | stateful base modifier => exact guarded_asks (.stateful base modifier) (base_asks o base modifier c)
  | _ => exact .nothing

theorem forEscaped_asks : Asks o (due w o .escaped st) c (forEscaped w o c st) := by
  cases st with
  | escaped s => exact guarded_asks (.escaped s) (literal_asks o s c)
  | _ => exact .nothing

def Pass.Asks (w : Whitelist) (o : Oracle) (pass : Pass) : Prop :=
  ∀ c st, Informed o c → Cleaning.Asks o (due w o pass.2 st) c (pass.1 c st)

theorem singlePasses_ask : ∀ pass ∈ singlePasses w o, pass.Asks w o := by
  intro pass inside
  simp only [singlePasses,List.mem_cons,List.not_mem_nil,or_false] at inside
  rcases inside with same | same | same | same <;> rw [same] <;> intro c st informed
  · exact forList_asks informed
  · exact forPlain_asks
  · exact forStateful_asks
  · exact forEscaped_asks

theorem needsOf_cons (w : Whitelist) (o : Oracle) (st : Strategy) (more : List Strategy) (category : Category) :
    needsOf w o (st :: more) category = due w o category st ++ needsOf w o more category := by
  unfold needsOf unprotected due
  cases turn : (st.category == category && !w.protectsStrategy st) <;> simp [turn]

-- A pass asks what is due for each entry in turn, with what it has learned before.
theorem run_asks (pass : Pass) (strategies : List Strategy) (asks : pass.Asks w o) (decides : pass.Decides w o)
    (informed : Informed o c) : Asks o (needsOf w o strategies pass.2) c (strategies.foldl pass.1 c) := by
  induction strategies generalizing c with
  | nil => exact .nothing
  | cons st more ih =>
    rw [needsOf_cons]
    exact (asks c st informed).trans (ih (decides c st informed).informed)

theorem inTurn_asks (strategies : List Strategy) (passes : List Pass) (ask : ∀ pass ∈ passes, pass.Asks w o)
    (decide' : ∀ pass ∈ passes, pass.Decides w o) (informed : Informed o c) :
    Asks o (passes.flatMap fun pass => needsOf w o strategies pass.2) c (inTurn strategies passes c) := by
  induction passes generalizing c with
  | nil => exact .nothing
  | cons pass more ih =>
    have decides := decide' pass List.mem_cons_self
    have first := run_asks pass strategies (ask pass List.mem_cons_self) decides informed
    have later := (run_decides strategies decides informed).2.1
    rw [List.flatMap_cons]
    apply first.trans
    exact ih (fun pass inside => ask pass (List.mem_cons_of_mem _ inside))
      (fun pass inside => decide' pass (List.mem_cons_of_mem _ inside)) later

-- Animations are looked for in the sheet.
theorem animations_silent (w : Whitelist) (strategies : List Strategy) (c : Cleaning) :
    (animations w strategies c).asked = c.asked := by
  unfold animations
  induction strategies generalizing c with
  | nil => rfl
  | cons st more ih =>
    have silent : (forAnimation w c st).asked = c.asked := by
      cases st with
      | animation a =>
        rw [forAnimation]
        split
        · rfl
        · split <;> rfl
      | _ => rfl
    rw [List.foldl_cons,ih,silent]

theorem emptyRules_silent (sheet : Sheet) : (of sheet).emptyRules.asked = [] := by
  have kept : ∀ (selectors : List Text) (c : Cleaning),
      (selectors.foldl (fun c s => c.record .empty s) c).asked = c.asked := by
    intro selectors
    induction selectors with
    | nil => exact fun _ => rfl
    | cons s more ih => exact fun c => ih _
  exact kept _ _

theorem selectors_ask (w : Whitelist) (strategies : List Strategy) (o : Oracle) (c : Cleaning) :
    (selectors w strategies o c).asked = c.asked ++ (fresh false (inquiry w o strategies)).map fun q => (o.source,q) := by
  have unasked : Informed o {c with crowd := none} := by
    intro answer known
    cases known
  have asks := inTurn_asks strategies (singlePasses w o) singlePasses_ask singlePasses_decide unasked
  calc (selectors w strategies o c).asked
    _ = (inTurn strategies (singlePasses w o) {c with crowd := none}).asked := animations_silent w strategies _
    _ = c.asked ++ (fresh false (inquiry w o strategies)).map fun q => (o.source,q) := asks.asked

theorem components_ask (w : Whitelist) (strategies : List Strategy) (o : Oracle) (sheet : Sheet) :
    (components w strategies o (of sheet).emptyRules).asked =
      (unprotected w strategies .component).map fun st => (o.source,.count st.text) := by
  have asks := run_asks (forComponent w o,.component) strategies (fun _ _ _ => forComponent_asks)
    (fun _ _ => forComponent_decides) (emptyRules_facts (o := o) sheet).2
  have counted : needsOf w o strategies .component = (unprotected w strategies .component).map fun st => .count st.text := by
    rw [needsOf,List.map_eq_flatMap]
    apply List.flatMap_congr
    intro st inside
    obtain ⟨_,kind,_⟩ := mem_unprotected.mp inside
    cases st <;> cases kind
    rfl
  have counting : ∀ q ∈ needsOf w o strategies .component, q.isListed = false := by
    simp [counted]
  have asked := asks.asked
  rw [emptyRules_silent,List.nil_append,fresh_counting _ counting,counted] at asked
  simpa [components,Function.comp_def] using asked

-- Of all that has to be known about selectors each thing is asked once, in the order of the passes: the counts as
-- they are needed, all elements where a literal is first looked for, and nothing else. A browser is asked about all
-- but components, of which the document is asked.
theorem questions_asked (w : Whitelist) (strategies : List Strategy) (o document browser : Oracle) (c : Cleaning)
    (sheet : Sheet) :
    let questions := fresh false (inquiry w o strategies)
    (selectors w strategies o c).asked = c.asked ++ questions.map (fun q => (o.source,q)) ∧
      questions.filterMap counted? =
        (unprotected w strategies .anyOf ++ unprotected w strategies .plain ++ unprotected w strategies .stateful).flatMap
          (counts o) ∧
      questions.filterMap listed? =
        (if (unprotected w strategies .anyOf ++ unprotected w strategies .escaped).any (seeksLiteral o) then [("*" : Text)] else []) ∧
      (byBrowser w strategies document browser sheet).asked =
        (unprotected w strategies .component).map (fun st => (document.source,.count st.text)) ++
          (fresh false (inquiry w browser strategies)).map fun q => (browser.source,q) := by
  refine ⟨selectors_ask w strategies o c,?_,?_,?_⟩
  · rw [fresh_counts,inquiry_counts]
  · rw [fresh_listed,← inquiry_seeks]
    exact take_listed inquiry_listed
  · rw [← components_ask w strategies document sheet,← selectors_ask]
    rfl

end Cleaning
end StyleTrim
