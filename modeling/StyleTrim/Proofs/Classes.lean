import Mathlib.Data.List.TakeWhile
import StyleTrim.Dom.Reader
import StyleTrim.Proofs.ClassTokens
namespace StyleTrim
open Text Css

-- What a further class does to those that are there, and to the rest of the document.

namespace Text
variable {p f : Char → Bool} {s t u front back value name : Text}

-- The words of a text hold, in their order, the characters that do not separate.
theorem words_flatten (p : Char → Bool) (s : Text) : (words p s).flatten = s.filter (!p ·) := by
  have whole : (pieces p s).flatten = s.filter (!p ·) := by
    induction s with
    | nil => rfl
    | cons c s ih =>
      rw [pieces]
      split
      · rename_i ends
        rw [List.flatten_cons,List.nil_append,ih,List.filter_cons_of_neg (by simp [ends])]
      · rename_i dark
        rw [List.filter_cons_of_pos (by simpa using dark),← ih]
        split
        · rename_i none
          simp [none]
        · rename_i piece more cut
          simp [cut]
  rw [← whole,words]
  induction pieces p s with
  | nil => rfl
  | cons piece more ih => cases piece <;> simp [ih]

theorem words_before (ends : ∀ c ∈ front, p c = true) (s : Text) : words p (front ++ s) = words p s := by
  induction front with
  | nil => rfl
  | cons c front ih =>
    have cut := words_append (ends c List.mem_cons_self) [] (front ++ s)
    rw [List.nil_append] at cut
    rw [List.cons_append,cut,ih fun d inside => ends d (List.mem_cons_of_mem c inside)]
    rfl

theorem words_behind (ends : ∀ c ∈ back, p c = true) (s : Text) : words p (s ++ back) = words p s := by
  cases back with
  | nil => rw [List.append_nil]
  | cons c back =>
    have rest := words_before (fun d inside => ends d (List.mem_cons_of_mem c inside)) []
    rw [List.append_nil] at rest
    rw [words_append (ends c List.mem_cons_self),rest]
    exact List.append_nil _

theorem trimBy_split (f : Char → Bool) (s : Text) : ∃ front back, s = front ++ trimBy f s ++ back ∧
    (∀ c ∈ front, f c = true) ∧ ∀ c ∈ back, f c = true := by
  obtain ⟨back,whole,blanks⟩ := trimEnd_append f (trimStart f s)
  refine ⟨s.takeWhile f,back,?_,fun c inside => List.all_eq_true.mp List.all_takeWhile c inside,blanks⟩
  rw [trimBy,List.append_assoc,← whole,trimStart,List.takeWhile_append_dropWhile]

theorem words_trimBy (p : Char → Bool) (s : Text) : words p (trimBy p s) = words p s := by
  obtain ⟨front,back,whole,before,behind⟩ := trimBy_split p s
  generalize trimBy p s = kept at whole
  rw [whole,words_behind behind,words_before before]

theorem trimBy_first (f : Char → Bool) (s : Text) : ∀ c ∈ (trimBy f s).head?, f c = false := by
  intro c first
  obtain ⟨more,whole⟩ := List.head?_eq_some_iff.mp first
  obtain ⟨back,rest,_⟩ := trimEnd_append f (trimStart f s)
  have start := List.head?_dropWhile_not f s
  rw [← trimStart,rest,← trimBy,whole] at start
  simpa using start

theorem trimBy_last (f : Char → Bool) (s : Text) : ∀ c ∈ (trimBy f s).getLast?, f c = false := by
  intro c last
  obtain ⟨more,whole⟩ := List.getLast?_eq_some_iff.mp last
  exact trimEnd_ends f whole

-- What stands between two runs of blanks is what a trim leaves, if it begins and ends in ink.
theorem trimBy_between (before : ∀ c ∈ front, f c = true) (behind : ∀ c ∈ back, f c = true)
    (first : ∀ c ∈ s.head?, f c = false) (last : ∀ c ∈ s.getLast?, f c = false) : trimBy f (front ++ s ++ back) = s := by
  have gone : ∀ t : Text, (∀ c ∈ t, f c = true) → t.dropWhile f = [] := fun t blanks => List.dropWhile_eq_nil_iff.mpr blanks
  cases s with
  | nil =>
    rw [List.append_nil,trimBy,trimStart,gone _ fun c inside => (List.mem_append.mp inside).elim (before c) (behind c)]
    rfl
  | cons d s =>
    have start : trimStart f (front ++ d :: s ++ back) = d :: s ++ back := by
      rw [trimStart,List.append_assoc,List.dropWhile_append_of_pos before,List.cons_append,
        List.dropWhile_cons_of_neg (by simpa using first d rfl)]
    obtain ⟨init,c,whole⟩ := (List.eq_nil_or_concat (d :: s)).resolve_left (by simp)
    have ends : f c = false := last c (by rw [whole]; simp)
    rw [trimBy,start,whole,trimEnd,List.reverse_append,List.dropWhile_append_of_pos fun x inside => behind x (List.mem_reverse.mp inside),
      List.concat_eq_append,List.reverse_append,List.reverse_singleton,List.singleton_append,List.dropWhile_cons_of_neg (by simpa using ends)]
    simp

theorem trimBy_whole (first : ∀ c ∈ s.head?, f c = false) (last : ∀ c ∈ s.getLast?, f c = false) : trimBy f s = s := by
  have alone : trimBy f ([] ++ s ++ []) = s := trimBy_between nofun nofun first last
  rwa [List.nil_append,List.append_nil] at alone

theorem trim_trim (s : Text) : trim (trim s) = trim s := trimBy_whole (trimBy_first isBlank s) (trimBy_last isBlank s)

-- A value at whose ends there are no blanks but those that separate classes.
def PlainEdges (value : Text) : Prop := trimBy isAsciiBlank value = trim value

instance (value : Text) : Decidable (PlainEdges value) := inferInstanceAs (Decidable (_ = _))

-- A trim keeps the classes exactly if it cuts off nothing else: a class loses what is cut from it.
theorem words_trim_iff : words isAsciiBlank (trim value) = words isAsciiBlank value ↔ PlainEdges value := by
  constructor
  · intro same
    obtain ⟨front,back,whole,before,behind⟩ := trimBy_split isBlank value
    have first := trimBy_first isBlank value
    have last := trimBy_last isBlank value
    have letters := congrArg List.flatten same
    rw [words_flatten,words_flatten] at letters
    unfold PlainEdges
    rw [trim] at letters ⊢
    generalize trimBy isBlank value = kept at *
    subst whole
    have lengths := congrArg List.length letters
    simp only [List.filter_append,List.length_append] at lengths
    have none : ∀ t : Text, (t.filter (!isAsciiBlank ·)).length = 0 → ∀ c ∈ t, isAsciiBlank c = true := by
      intro t empty c inside
      simpa using List.filter_eq_nil_iff.mp (List.eq_nil_of_length_eq_zero empty) c inside
    have dark : ∀ c, isBlank c = false → isAsciiBlank c = false := by
      intro c dark
      cases blank : isAsciiBlank c with
      | false => rfl
      | true => exact absurd (blank_of_ascii blank) (by simp [dark])
    exact trimBy_between (none front (by omega)) (none back (by omega)) (fun c here => dark c (first c here))
      fun c here => dark c (last c here)
  · intro plain
    rw [← plain,words_trimBy]

-- A blank that separates no classes is a letter of one, which a trim cuts off.
example : ¬ PlainEdges "a\xa0" ∧ words isAsciiBlank (trim "a\xa0") = [("a" : Text)] := by decide

end Text

namespace Payload
variable {name : Text}

-- The classes of a node as they are written, and with a further one behind them.
def classValue (p : Payload) : Text := ((p.attributes.find? (·.name == ("class" : Text))).map (·.value)).getD []
def classBehind (value name : Text) : Text := if (trim value).isEmpty then name else trim value ++ ' ' :: name

def marked (name : Text) (p : Payload) : Payload :=
  if (Dom.classTokens p.classValue).contains name then p
  else {p with attributes := Dom.putAttribute "class" (classBehind p.classValue name) p.attributes}

end Payload

namespace Dom
variable {d d' : Dom} {m n : NodeId} {name t value : Text}

def classValue (d : Dom) (n : NodeId) : Text := (d.attribute? n "class").getD []
def classes (d : Dom) (n : NodeId) : List Text := classTokens (d.classValue n)

theorem mem_classes : t ∈ d.classes n ↔ d.hasClass n t = true := by
  rw [classes,classValue,hasClass]
  cases d.attribute? n "class" with
  | none => simp [classTokens,words,pieces]
  | some value => simp

theorem classTokens_behind (filled : name ≠ []) (solid : ∀ c ∈ name, isAsciiBlank c = false) (value : Text) :
    classTokens (Payload.classBehind value name) = classTokens (trim value) ++ [name] := by
  have single : words isAsciiBlank name = [name] := words_single solid filled
  unfold Payload.classBehind classTokens
  split
  · rename_i empty
    rw [List.isEmpty_iff.mp empty,single]
    rfl
  · rw [words_append (by decide),single]

theorem putAttribute_filter (name value : Text) (l : List Attribute) :
    (putAttribute name value l).filter (·.name ≠ name) = l.filter (·.name ≠ name) := by
  induction l with
  | nil => simp [putAttribute]
  | cons a more ih =>
    rw [putAttribute]
    split
    · rename_i same
      simp [beq_iff_eq.mp same]
    · rename_i other
      rw [List.filter_cons_of_pos (by simpa using other),List.filter_cons_of_pos (by simpa using other),ih]

theorem marked_filter (name : Text) (p : Payload) : (p.marked name).kind = p.kind ∧
    (p.marked name).attributes.filter (·.name ≠ ("class" : Text)) = p.attributes.filter (·.name ≠ ("class" : Text)) := by
  unfold Payload.marked
  split
  · exact ⟨rfl,rfl⟩
  · exact ⟨rfl,putAttribute_filter _ _ _⟩

-- A document that differs from another in one attribute of one node.
structure Reworded (d d' : Dom) (n : NodeId) (property : Text) : Prop where
  free : d'.free = d.free
  others : ∀ m, m.slot ≠ n.slot → d'.slot? m = d.slot? m
  own : ∀ s, d.slot? n = some s → ∃ p : Payload, d'.slot? n = some {s with payload := p} ∧ p.kind = s.payload.kind ∧
    p.attributes.filter (·.name ≠ property) = s.payload.attributes.filter (·.name ≠ property)

-- Adding a class is an edit of the payload alone.
theorem addClass_slot? (current : d.Current n) (name : Text) (m : NodeId) : (d.addClass n name).slot? m =
    if n.slot = m.slot then (d.slot? m).map fun s => {s with payload := s.payload.marked name} else d.slot? m := by
  obtain ⟨s,found,live,_⟩ := current
  have payload : d.node? n = some s.payload := by rw [node?,found]; exact if_pos live
  have value : (d.attribute? n "class").getD [] = s.payload.classValue := by
    rw [attribute?,payload]
    rfl
  have has : d.hasClass n name = (classTokens s.payload.classValue).contains name := by
    rw [Bool.eq_iff_iff,← mem_classes,classes,classValue,value,List.contains_iff_mem]
  unfold addClass
  rw [has]
  by_cases same : n.slot = m.slot
  · have here : d.slot? m = some s := by rw [slot?,← same]; exact found
    rw [if_pos same,here,Option.map_some]
    split
    · rename_i inside
      rw [here,Payload.marked,if_pos inside]
    · rename_i outside
      rw [setAttribute,edit_slot?,if_pos same,here,Payload.marked,if_neg outside,value,Option.map_some,Slot.painted,if_pos live]
      rfl
  · rw [if_neg same]
    split
    · rfl
    · rw [setAttribute,edit_slot?,if_neg same]

theorem addClass_node? (current : d.Current n) (name : Text) :
    (d.addClass n name).node? n = (d.node? n).map (·.marked name) := by
  rw [node?,addClass_slot? current,if_pos rfl,node?]
  cases d.slot? n with
  | none => rfl
  | some s => cases live : s.live <;> simp [live]

theorem addClass_reworded (current : d.Current n) (name : Text) : Reworded d (d.addClass n name) n "class" := by
  refine ⟨?_,fun m apart => ?_,fun s found => ?_⟩
  · unfold addClass
    split <;> rfl
  · rw [addClass_slot? current,if_neg (Ne.symm apart)]
  · rw [addClass_slot? current,if_pos rfl,found]
    exact ⟨_,rfl,marked_filter name s.payload⟩

theorem addClass_classes (current : d.Current n) (filled : name ≠ []) (solid : ∀ c ∈ name, isAsciiBlank c = false)
    (new : d.hasClass n name = false) : (d.addClass n name).classes n = classTokens (trim (d.classValue n)) ++ [name] := by
  rw [classes,classValue,addClass_value current new]
  exact classTokens_behind filled solid _

theorem addClass_cuts (current : d.Current n) (filled : name ≠ []) (solid : ∀ c ∈ name, isAsciiBlank c = false)
    (new : d.hasClass n name = false) :
    (d.addClass n name).classes n = d.classes n ++ [name] ↔ PlainEdges (d.classValue n) := by
  rw [addClass_classes current filled solid new,List.append_cancel_right_eq]
  exact words_trim_iff

-- Where nothing is cut off, the class is the only one that comes.
theorem addClass_hasClass (current : d.Current n) (filled : name ≠ []) (solid : ∀ c ∈ name, isAsciiBlank c = false)
    (plain : d.hasClass n name = true ∨ PlainEdges (d.classValue n)) (t : Text) :
    (d.addClass n name).hasClass n t = true ↔ d.hasClass n t = true ∨ t = name := by
  cases new : d.hasClass n name with
  | true =>
    rw [show d.addClass n name = d from if_pos new,or_iff_left_of_imp]
    rintro rfl
    exact new
  | false =>
    have whole := (addClass_cuts current filled solid new).mpr (plain.resolve_left (by simp [new]))
    rw [← mem_classes,whole,List.mem_append,List.mem_singleton,mem_classes]

-- A class added to a node that is there. No other attribute of it and no other node changes, and to add the class again
-- changes nothing. If the node has the class it stays as it is; else the class comes behind those of the trimmed value.
-- These are the ones that it had, none of them lost or cut, exactly if there are none but ASCII blanks at the ends of
-- the value; what begins and ends in ink is kept all the same.
theorem addClass_only_adds (current : d.Current n) (filled : name ≠ []) (solid : ∀ c ∈ name, isAsciiBlank c = false) :
    Reworded d (d.addClass n name) n "class" ∧ (d.addClass n name).addClass n name = d.addClass n name ∧
    (d.hasClass n name = true → d.addClass n name = d) ∧
    (d.hasClass n name = false → (d.addClass n name).classes n = classTokens (trim (d.classValue n)) ++ [name] ∧
      ((d.addClass n name).classes n = d.classes n ++ [name] ↔ PlainEdges (d.classValue n))) ∧
    (d.hasClass n name = true ∨ PlainEdges (d.classValue n) →
      ∀ t, (d.addClass n name).hasClass n t = true ↔ d.hasClass n t = true ∨ t = name) ∧
    ∀ t, Token t → d.hasClass n t = true → (d.addClass n name).hasClass n t = true := by
  have there : d.hasClass n name = true → d.addClass n name = d := fun has => if_pos has
  have behind := fun new => addClass_classes current filled solid new
  refine ⟨addClass_reworded current name,?_,there,fun new => ⟨behind new,addClass_cuts current filled solid new⟩,
    addClass_hasClass current filled solid,fun t token has => addClass_keeps current current token name has⟩
  refine if_pos (mem_classes.mp ?_)
  cases new : d.hasClass n name with
  | true => rw [there new,mem_classes,new]
  | false => simp [behind new]

def spacedPage : Text := "<p class=' a b'>"

-- Behind the blanks of its value, the paragraph gets a third class.
theorem addClass_only_adds_spaced : (read spacedPage).Current ⟨4,0⟩ ∧ PlainEdges ((read spacedPage).classValue ⟨4,0⟩) ∧
    ((read spacedPage).addClass ⟨4,0⟩ "c").classes ⟨4,0⟩ = ofStrings ["a","b","c"] ∧
    ((read spacedPage).addClass ⟨4,0⟩ "c").addClass ⟨4,0⟩ "c" = (read spacedPage).addClass ⟨4,0⟩ "c" := by
  have facts : (read spacedPage).isCurrent ⟨4,0⟩ = true ∧ PlainEdges ((read spacedPage).classValue ⟨4,0⟩) ∧
      (read spacedPage).hasClass ⟨4,0⟩ "c" = false ∧ (read spacedPage).classes ⟨4,0⟩ = ofStrings ["a","b"] := by
    rw [show spacedPage = _ from chars_of_literal rfl]
    decide +kernel
  obtain ⟨there,plain,new,before⟩ := facts
  have current := isCurrent_iff.mp there
  have token : Token "c" := isToken_iff.mp (by decide)
  obtain ⟨_,again,_,behind,_⟩ := addClass_only_adds current token.filled token.solid
  refine ⟨current,plain,?_,again⟩
  rw [(behind new).2.mpr plain,before]
  rfl

end Dom
end StyleTrim
