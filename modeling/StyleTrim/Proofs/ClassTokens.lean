import Mathlib.Data.List.Induction
import Mathlib.Tactic.IntervalCases
import StyleTrim.Proofs.Additions
import StyleTrim.Proofs.Ink
namespace StyleTrim
open Text Css

-- Classes are split at whitespace, and what is added to them is put behind their trimmed value, which
-- more blanks are cut from. A token that neither begins nor ends in a blank outlives both.

namespace Text
variable {p : Char → Bool} {c d : Char} {s t u v name : Text}

theorem pieces_eq (p : Char → Bool) (s : Text) : pieces p s = s.splitOnP p := by
  induction s with
  | nil => rw [List.splitOnP_nil]; rfl
  | cons c s ih =>
    rw [pieces,List.splitOnP_cons_eq_if_modifyHead,← ih]
    cases whole : pieces p s with
    | nil => exact absurd (ih.symm.trans whole) (List.splitOnP_ne_nil p s)
    | cons piece more => rfl

theorem words_append (ends : p c = true) (u v : Text) : words p (u ++ c :: v) = words p u ++ words p v := by
  simp only [words,pieces_eq,List.splitOnP_append_cons u v ends,List.filter_append]

theorem words_single (solid : ∀ c ∈ s, p c = false) (filled : s ≠ []) : words p s = [s] := by
  simp [words,pieces_eq,List.splitOnP_eq_singleton solid,filled]

-- Without separators a text is its only word, if it is one at all.
theorem mem_words_solid (solid : ∀ c ∈ s, p c = false) (word : t ∈ words p s) : t = s := by
  simp only [words,pieces_eq,List.splitOnP_eq_singleton solid,List.mem_filter,List.mem_singleton] at word
  exact word.1

theorem split_or_solid (p : Char → Bool) (s : Text) :
    (∃ u c v, s = u ++ c :: v ∧ p c = true) ∨ ∀ c ∈ s, p c = false := by
  by_cases found : ∃ c ∈ s, p c = true
  · obtain ⟨c,inside,ends⟩ := found
    obtain ⟨u,v,whole⟩ := List.append_of_mem inside
    exact .inl ⟨u,c,v,whole,ends⟩
  · exact .inr fun c inside => Bool.eq_false_iff.mpr fun ends => found ⟨c,inside,ends⟩

-- A word that does not begin with a character is not lost with it.
theorem words_tail {s : Text} (word : t ∈ words p (d :: s)) (head : t.head? ≠ some d) : t ∈ words p s := by
  by_cases ends : p d = true
  · have cut := words_append ends [] s
    rw [List.nil_append] at cut
    rw [cut] at word
    simpa [words,pieces] using word
  rcases split_or_solid p s with ⟨u,c,v,rfl,cuts⟩ | solid
  · rw [← List.cons_append,words_append cuts] at word
    rw [words_append cuts]
    rcases List.mem_append.mp word with first | later
    · have : u.length < (u ++ c :: v).length := by simp
      exact List.mem_append_left _ (words_tail first head)
    · exact List.mem_append_right _ later
  · have same := mem_words_solid (p := p) (s := d :: s) (by simpa [ends] using solid) word
    rw [same] at head
    exact absurd rfl head
termination_by s.length

-- Nor one that does not end with it.
theorem words_front {s : Text} (word : t ∈ words p (s ++ [d])) (last : t.getLast? ≠ some d) : t ∈ words p s := by
  by_cases ends : p d = true
  · rw [words_append ends] at word
    simpa [words,pieces] using word
  rcases split_or_solid p s with ⟨u,c,v,rfl,cuts⟩ | solid
  · rw [List.append_assoc,List.cons_append,words_append cuts] at word
    rw [words_append cuts]
    rcases List.mem_append.mp word with first | later
    · exact List.mem_append_left _ first
    · have : v.length < (u ++ c :: v).length := by simp [Nat.lt_add_left]
      exact List.mem_append_right _ (words_front later last)
  · have every : ∀ c ∈ s ++ [d], p c = false := by
      intro c inside
      rcases List.mem_append.mp inside with before | same
      · exact solid c before
      · rw [List.mem_singleton.mp same]
        exact Bool.eq_false_iff.mpr ends
    rw [mem_words_solid every word] at last
    simp at last
termination_by s.length

theorem pieces_solid (piece : t ∈ pieces p s) : ∀ c ∈ t, p c = false := by
  induction s generalizing t with
  | nil =>
    cases List.mem_singleton.mp piece
    nofun
  | cons c s ih =>
    rw [pieces] at piece
    split at piece
    · rcases List.mem_cons.mp piece with rfl | later
      · nofun
      · exact ih later
    · rename_i dark
      split at piece
      · cases List.mem_singleton.mp piece
        simpa using dark
      · rename_i first more cut
        rw [cut] at ih
        rcases List.mem_cons.mp piece with rfl | later
        · rw [List.forall_mem_cons]
          exact ⟨Bool.eq_false_iff.mpr dark,ih List.mem_cons_self⟩
        · exact ih (List.mem_cons_of_mem first later)

theorem words_solid (word : t ∈ words p s) : ∀ c ∈ t, p c = false := pieces_solid (List.mem_filter.mp word).1

theorem words_dropWhile {f : Char → Bool} (dark : ∀ c ∈ t.head?, f c = false) (word : t ∈ words p s) :
    t ∈ words p (s.dropWhile f) := by
  induction s with
  | nil => exact word
  | cons c s ih =>
    rw [List.dropWhile_cons]
    split
    · rename_i goes
      refine ih (words_tail word fun first => ?_)
      rw [dark c first] at goes
      cases goes
    · exact word

theorem words_trimEnd {f : Char → Bool} (dark : ∀ c ∈ t.getLast?, f c = false) (word : t ∈ words p s) :
    t ∈ words p (trimEnd f s) := by
  induction s using List.reverseRecOn with
  | nil => exact word
  | append_singleton s c ih =>
    rw [trimEnd,List.reverse_concat,List.dropWhile_cons]
    split
    · rename_i goes
      refine ih (words_front word fun last => ?_)
      rw [dark c last] at goes
      cases goes
    · rw [List.reverse_cons,List.reverse_reverse]
      exact word

-- What is a class by itself, and stays one when the value around it is trimmed.
structure Token (t : Text) : Prop where
  filled : t ≠ []
  solid : ∀ c ∈ t, isAsciiBlank c = false
  first : ∀ c ∈ t.head?, isBlank c = false
  last : ∀ c ∈ t.getLast?, isBlank c = false

theorem Token.trim (token : Token t) (word : t ∈ words isAsciiBlank s) : t ∈ words isAsciiBlank (Text.trim s) :=
  words_trimEnd token.last (words_dropWhile token.first word)

theorem Token.words (token : Token t) : words isAsciiBlank t = [t] := words_single token.solid token.filled

def isToken (t : Text) : Bool :=
  !t.isEmpty && t.all (!isAsciiBlank ·) && t.head?.all (!isBlank ·) && t.getLast?.all (!isBlank ·)

theorem isToken_iff : isToken t = true ↔ Token t := by
  simp only [isToken,Bool.and_eq_true,Bool.not_eq_true',List.isEmpty_eq_false_iff,List.all_eq_true,Option.all_eq_true]
  constructor
  · rintro ⟨⟨⟨filled,solid⟩,first⟩,last⟩
    exact ⟨filled,solid,first,last⟩
  · rintro ⟨filled,solid,first,last⟩
    exact ⟨⟨⟨filled,solid⟩,first⟩,last⟩

instance (t : Text) : Decidable (Token t) := decidable_of_iff (isToken t = true) isToken_iff

-- A prefix that is a token makes one of any text that ends in ink, if it has no whitespace.
theorem Token.append (token : Token t) (solid : ∀ c ∈ s, isAsciiBlank c = false) (last : ∀ c ∈ s.getLast?, isBlank c = false) :
    Token (t ++ s) := by
  refine ⟨by simp [token.filled],?_,?_,?_⟩
  · intro c inside
    exact (List.mem_append.mp inside).elim (token.solid c) (solid c)
  · intro c first
    rw [List.head?_append_of_ne_nil _ token.filled] at first
    exact token.first c first
  · intro c ends
    cases s with
    | nil => exact token.last c (by simpa using ends)
    | cons d s =>
      rw [List.getLast?_append_of_ne_nil _ (by simp)] at ends
      exact last c ends

theorem isBlank_lowerChar (dark : isBlank c = false) : isBlank (lowerChar c) = false := by
  unfold lowerChar
  split
  · rename_i upper
    simp only [isAsciiUpper,Bool.and_eq_true,decide_eq_true_eq] at upper
    have low : 65 ≤ c.toNat := upper.1
    have high : c.toNat ≤ 90 := upper.2
    generalize c.toNat = n at low high
    interval_cases n <;> decide
  · exact dark

theorem lower_trim_last (s : Text) : ∀ c ∈ (lower (trim s)).getLast?, isBlank c = false := by
  intro c last
  rw [lower,List.getLast?_map] at last
  obtain ⟨d,ends,rfl⟩ := Option.map_eq_some_iff.mp last
  obtain ⟨front,whole⟩ := List.getLast?_eq_some_iff.mp ends
  exact isBlank_lowerChar (trimEnd_ends isBlank whole)

theorem ink_trim (s : Text) : ink (trim s) = ink s := by
  obtain ⟨t,whole,blanks⟩ := trimEnd_append isBlank (trimStart isBlank s)
  have inks := congrArg ink whole
  rw [ink_append,ink_blanks blanks,List.append_nil] at inks
  exact inks.symm.trans (dropWhile_ink s).1

end Text

namespace Dom
variable {d d' : Dom} {m n : NodeId} {name token value : Text} {f : List Attribute → List Attribute}

theorem hasClass_iff : d.hasClass n name = true ↔
    ∃ value, d.attribute? n "class" = some value ∧ name ∈ words isAsciiBlank value := by
  rw [hasClass,Option.any_eq_true]
  simp only [classTokens,List.contains_iff_mem]

theorem hasClass_congr (same : d.attribute? m "class" = d'.attribute? n "class") (name : Text) :
    d.hasClass m name = d'.hasClass n name := by rw [hasClass,same,hasClass]

-- An edit of one node is none of the others.
theorem edit_apart (current : d.Current n) (there : d.Current m) (apart : m ≠ n) (f : List Attribute → List Attribute)
    (name : Text) : (d.editAttributes n f).attribute? m name = d.attribute? m name := by
  rw [attribute?,attribute?,node?,node?,edit_slot?,if_neg (current.slot_ne there (Ne.symm apart))]

theorem find_put (name value : Text) (l : List Attribute) :
    (putAttribute name value l).find? (·.name == name) = some ⟨name,value⟩ := by
  induction l with
  | nil => simp [putAttribute]
  | cons a more ih =>
    rw [putAttribute]
    split
    · simp
    · rename_i other
      rw [List.find?_cons,Bool.eq_false_iff.mpr other,ih]

theorem set_attribute? (current : d.Current n) (name value : Text) :
    (d.setAttribute n name value).attribute? n name = some value := by
  obtain ⟨s,found,live,_⟩ := current
  simp [setAttribute,attribute?,node?,edit_slot?,Slot.painted,found,live,find_put]

-- The classes of a node after a further one was put behind them.
theorem addClass_value (current : d.Current n) (new : d.hasClass n name = false) :
    (d.addClass n name).attribute? n "class" = some
      (if (trim ((d.attribute? n "class").getD [])).isEmpty then name
        else trim ((d.attribute? n "class").getD []) ++ ' ' :: name) := by
  rw [addClass,new,if_neg Bool.false_ne_true]
  exact set_attribute? current "class" _

theorem addClass_apart (current : d.Current n) (there : d.Current m) (apart : m ≠ n) (name property : Text) :
    (d.addClass n name).attribute? m property = d.attribute? m property := by
  unfold addClass
  split
  · rfl
  · exact edit_apart current there apart _ property

theorem addClass_gives (current : d.Current n) (token : Token name) : (d.addClass n name).hasClass n name = true := by
  cases new : d.hasClass n name with
  | true => rw [addClass,if_pos new,new]
  | false =>
    refine hasClass_iff.mpr ⟨_,addClass_value current new,?_⟩
    split
    · simp [token.words]
    · rw [words_append (by decide)]
      exact List.mem_append_right _ (by simp [token.words])

theorem addClass_keeps (current : d.Current n) (there : d.Current m) (token : Token value) (name : Text)
    (has : d.hasClass m value = true) : (d.addClass n name).hasClass m value = true := by
  by_cases apart : m = n
  swap
  · rw [hasClass_congr (addClass_apart current there apart name "class"),has]
  subst apart
  cases new : d.hasClass m name with
  | true => rw [addClass,if_pos new,has]
  | false =>
    obtain ⟨present,found,word⟩ := hasClass_iff.mp has
    have stays := token.trim word
    refine hasClass_iff.mpr ⟨_,addClass_value current new,?_⟩
    rw [found,Option.getD_some]
    split
    · rename_i empty
      rw [List.isEmpty_iff.mp empty] at stays
      cases stays
    · rw [words_append (by decide)]
      exact List.mem_append_left _ stays

-- How much is written in the classes of a node.
def classInk (d : Dom) (n : NodeId) : Nat := (ink ((d.attribute? n "class").getD [])).length

theorem classInk_congr (same : d.attribute? m "class" = d'.attribute? n "class") : d.classInk m = d'.classInk n := by
  rw [classInk,same,classInk]

theorem addClass_classInk (current : d.Current n) (new : d.hasClass n name = false) :
    (d.addClass n name).classInk n = d.classInk n + (ink name).length := by
  have same := ink_trim ((d.attribute? n "class").getD [])
  rw [classInk,addClass_value current new,Option.getD_some,classInk,← same]
  split
  · rename_i empty
    rw [List.isEmpty_iff.mp empty]
    simp [ink]
  · rw [ink_append,ink_blank (by decide),List.length_append]

theorem addClass_ink (current : d.Current n) (there : d.Current m) (name : Text) :
    d.classInk m ≤ (d.addClass n name).classInk m := by
  by_cases apart : m = n
  · subst apart
    cases new : d.hasClass m name with
    | true =>
      rw [addClass,if_pos new]
    | false =>
      rw [addClass_classInk current new]
      exact Nat.le_add_right _ _
  · rw [classInk_congr (addClass_apart current there apart name "class")]

end Dom
end StyleTrim
