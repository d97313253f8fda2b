import StyleTrim.Proofs.Evidence
namespace StyleTrim
open Text Css
variable {o document browser other : Oracle} {w : Whitelist} {s sheet : Sheet} {n : Node} {strategies : List Strategy}
  {followsData : Bool} {p : Node → Bool} {named : Text → List Text} {a b : Text}

-- A layer ranks by its first mention. Groups that are emptied go with the mention they were, so that the
-- layers that are left rank by the mentions that are left.

-- The first mention of one name comes before that of the other.
def Ahead (a b : Text) (mentions : List Text) : Prop := mentions.idxOf a < mentions.idxOf b

instance (a b : Text) (mentions : List Text) : Decidable (Ahead a b mentions) := inferInstanceAs (Decidable (_ < _))

theorem Ahead.asymm {mentions : List Text} (ahead : Ahead a b mentions) : ¬ Ahead b a mentions := Nat.lt_asymm ahead

theorem Ahead.append {mentions : List Text} (ahead : Ahead a b mentions) (more : List Text) : Ahead a b (mentions ++ more) := by
  have found : a ∈ mentions := List.idxOf_lt_length_iff.mp (Nat.lt_of_lt_of_le ahead List.idxOf_le_length)
  unfold Ahead at ahead ⊢
  rw [List.idxOf_append_of_mem found]
  by_cases also : b ∈ mentions
  · rwa [List.idxOf_append_of_mem also]
  · rw [List.idxOf_append_of_notMem also]
    exact Nat.lt_add_right _ (List.idxOf_lt_length_of_mem found)

theorem Ahead.behind {front mentions : List Text} (absent : b ∉ front) (ahead : Ahead a b mentions) :
    Ahead a b (front ++ mentions) := by
  unfold Ahead at ahead ⊢
  rw [List.idxOf_append_of_notMem absent]
  by_cases early : a ∈ front
  · rw [List.idxOf_append_of_mem early]
    exact Nat.lt_of_lt_of_le (List.idxOf_lt_length_of_mem early) (Nat.le_add_right ..)
  · rw [List.idxOf_append_of_notMem early]
    exact Nat.add_lt_add_left ahead _

namespace Css

-- The layers that a node of the top level mentions: that of a block, or those that a statement lists,
-- however the list is read.
def Node.layers (named : Text → List Text) : Node → List Text
  | .group name params _ => if name = "layer" then [params] else []
  | .statement name params => if name = "layer" then named params else []
  | _ => []

def Sheet.layers (named : Text → List Text) (s : Sheet) : List Text := s.flatMap (Node.layers named)

-- Whether a mention of the one layer, in a node that qualifies, comes before all mentions of the other.
def Sheet.leads (named : Text → List Text) (p : Node → Bool) (a b : Text) : Sheet → Bool
  | [] => false
  | n :: more => p n && decide (Ahead a b (n.layers named)) || !(n.layers named).contains b && Sheet.leads named p a b more

theorem Sheet.leads_cons {more : Sheet} : Sheet.leads named p a b (n :: more) = true ↔
    (p n = true ∧ Ahead a b (n.layers named)) ∨ b ∉ n.layers named ∧ Sheet.leads named p a b more = true := by
  simp [Sheet.leads]

theorem Sheet.leads_ahead (leads : s.leads named p a b = true) : Ahead a b (s.layers named) := by
  induction s with
  | nil => cases leads
  | cons n more ih =>
    rw [Sheet.layers,List.flatMap_cons]
    rcases Sheet.leads_cons.mp leads with ⟨_,own⟩ | ⟨absent,later⟩
    · exact own.append _
    · exact (ih later).behind absent

theorem Sheet.leads_filter (leads : s.leads named p a b = true) : Sheet.leads named p a b (List.filter p s) = true := by
  induction s with
  | nil => cases leads
  | cons n more ih =>
    rcases Sheet.leads_cons.mp leads with ⟨stays,own⟩ | ⟨absent,later⟩
    · rw [List.filter_cons_of_pos stays]
      exact Sheet.leads_cons.mpr (.inl ⟨stays,own⟩)
    · rw [List.filter_cons]
      split
      · exact Sheet.leads_cons.mpr (.inr ⟨absent,ih later⟩)
      · exact ih later

-- Names that one of the nodes left puts in order are in that order before and after.
theorem Sheet.ahead_filter (leads : s.leads named p a b = true ∨ s.leads named p b a = true) :
    Ahead a b (Sheet.layers named (List.filter p s)) ↔ Ahead a b (s.layers named) := by
  rcases leads with leads | leads
  · exact iff_of_true (Sheet.leads_ahead (Sheet.leads_filter leads)) (Sheet.leads_ahead leads)
  · exact iff_of_false (Sheet.leads_ahead (Sheet.leads_filter leads)).asymm (Sheet.leads_ahead leads).asymm

-- Whether there is more in a node than groups and what goes.
def Node.lasts (p : Node → Bool) (n : Node) : Bool := n.nodes.any fun m => !m.isGroup && !p m

mutual
theorem Node.left_nil : ∀ {n : Node}, SparesGroups p n.nodes → (Sheet.pruned (n.without p)).isEmpty = !n.lasts p
  | .rule r, _ => by
    cases goes : p (.rule r) <;> simp [Node.without,Node.lasts,Node.nodes,Node.isGroup,Sheet.pruned,Node.pruned,goes]
  | .statement name params, _ => by
    cases goes : p (.statement name params) <;>
      simp [Node.without,Node.lasts,Node.nodes,Node.isGroup,Sheet.pruned,Node.pruned,goes]
  | .block name params body, _ => by
    cases goes : p (.block name params body) <;>
      simp [Node.without,Node.lasts,Node.nodes,Node.isGroup,Sheet.pruned,Node.pruned,goes]
  | .group name params children, spares => by
    have inner := Sheet.left_nil (s := children) fun name params children inside =>
      spares name params children (List.mem_cons_of_mem _ inside)
    have stays := spares name params children (Node.mem_nodes _)
    have own : (!(Node.group name params children).isGroup && !p (.group name params children)) = false := rfl
    rw [Node.without,if_neg (by rw [stays]; exact Bool.false_ne_true),Sheet.pruned,Node.pruned,Node.lasts,Node.nodes,
      List.any_cons,own,Bool.false_or,← inner]
    cases Sheet.pruned (Sheet.without p children) <;> rfl
-- Nothing is left of a sheet once everything goes but groups.
theorem Sheet.left_nil : ∀ {s : Sheet}, SparesGroups p s.nodes →
    (Sheet.pruned (s.without p)).isEmpty = !s.nodes.any fun m => !m.isGroup && !p m
  | [], _ => rfl
  | n :: more, spares => by
    have first := Node.left_nil (n := n) fun name params children inside =>
      spares name params children (List.mem_append_left _ inside)
    have rest := Sheet.left_nil (s := more) fun name params children inside =>
      spares name params children (List.mem_append_right _ inside)
    have joined : ∀ s t : Sheet, List.isEmpty (s ++ t) = (s.isEmpty && t.isEmpty) := fun s _ => by cases s <;> rfl
    rw [Sheet.without,Sheet.pruned_append,joined,first,rest,Sheet.nodes,List.any_append,Bool.not_or]
    rfl
end

-- What is left of a node mentions the same layers.
theorem Node.layers_left (spares : SparesGroups p n.nodes) :
    Sheet.layers named (Sheet.pruned (n.without p)) = if n.lasts p then n.layers named else [] := by
  have empty := Node.left_nil spares
  split
  · rename_i lasts
    rw [lasts] at empty
    cases n with
    | group name params children =>
      have stays := spares name params children (Node.mem_nodes _)
      rw [Node.without,if_neg (by rw [stays]; exact Bool.false_ne_true),Sheet.pruned,Node.pruned] at empty ⊢
      cases kept : Sheet.pruned (Sheet.without p children) with
      | nil => rw [kept] at empty; cases empty
      | cons => simp [Sheet.layers,Sheet.pruned,Node.layers]
    | rule | statement | block =>
      simp only [Node.without] at empty ⊢
      split
      · rename_i goes
        rw [if_pos goes] at empty
        cases empty
      · simp [Sheet.layers,Sheet.pruned,Node.pruned]
  · rename_i lost
    rw [Bool.eq_false_iff.mpr lost] at empty
    rw [List.isEmpty_iff.mp empty]
    rfl

theorem Sheet.layers_left (spares : SparesGroups p s.nodes) :
    Sheet.layers named (Sheet.pruned (s.without p)) = Sheet.layers named (List.filter (Node.lasts p) s) := by
  induction s with
  | nil => rfl
  | cons n more ih =>
    have first : Sheet.layers named (Sheet.pruned (n.without p)) = if n.lasts p then n.layers named else [] :=
      Node.layers_left fun name params children inside => spares name params children (List.mem_append_left _ inside)
    have rest := ih fun name params children inside => spares name params children (List.mem_append_right _ inside)
    have joined : ∀ s t : Sheet, Sheet.layers named (s ++ t) = s.layers named ++ t.layers named := fun _ _ =>
      List.flatMap_append
    rw [Sheet.without,Sheet.pruned_append,joined,first,rest,List.filter_cons]
    split <;> rfl

-- Whether a layer has a rule in a block of its own at the top level.
def Sheet.furnishes (a : Text) (s : Sheet) : Bool := s.any fun
  | .group name params children => name == ("layer" : Text) && params == a && !(Sheet.rules children).isEmpty
  | _ => false

-- The names of a list, the way they are written.
def layerNames (params : Text) : List Text := (pieces (· = ',') params).map trim

end Css

namespace Cleaning

theorem drops_spares (grouped : sheet.Grouped) :
    SparesGroups (drops w document other followsData strategies sheet) sheet.nodes :=
  fun _ _ _ inside => drops_group grouped inside

-- Statements stay, other than those that declare animations.
theorem drops_statement {name params : Text} (other_kind : isKeyframesName name = false) :
    drops w document other followsData strategies sheet (.statement name params) = false := by
  have spared : ∀ st s, forgets w s st (.statement name params) = false := by
    intro st s
    cases st with
    | animation a => simp [forgets,Node.declaresAnimation,Node.atRule?,other_kind]
    | _ => rfl
  simp [drops,Sheet.onRule,spared]

theorem layer_statement_lasts (params : Text) :
    Node.lasts (drops w document other followsData strategies sheet) (.statement "layer" params) = true := by
  simp only [Node.lasts,Node.nodes,List.any_cons]
  rw [drops_statement (by decide)]
  rfl

-- The layers that a sheet is left with are mentioned as they were, by the nodes of which something is left:
-- by statements, and by blocks that are not emptied. Two layers keep their order if such a node mentions
-- the one ahead of the other.
theorem layers_follow_mentions (w : Whitelist) (document browser : Oracle) (followsData : Bool) (css : Text)
    (named : Text → List Text) :
    let sheet := sheetOf css
    let alone := (byDocument w sheet.classify followsData document sheet).sheet
    let helped := (byBrowser w sheet.classify document browser sheet).sheet
    let stays := Node.lasts (drops w document document followsData sheet.classify sheet)
    let lives := Node.lasts (drops w document browser false sheet.classify sheet)
    ((∀ params, stays (.statement "layer" params) = true) ∧ alone.layers named = Sheet.layers named (sheet.filter stays) ∧
      ∀ a b, sheet.leads named stays a b = true ∨ sheet.leads named stays b a = true →
        (Ahead a b (alone.layers named) ↔ Ahead a b (sheet.layers named))) ∧
    ((∀ params, lives (.statement "layer" params) = true) ∧ helped.layers named = Sheet.layers named (sheet.filter lives) ∧
      ∀ a b, sheet.leads named lives a b = true ∨ sheet.leads named lives b a = true →
        (Ahead a b (helped.layers named) ↔ Ahead a b (sheet.layers named))) := by
  intro sheet alone helped stays lives
  have grouped := sheetOf_grouped css
  have early : alone.layers named = Sheet.layers named (sheet.filter stays) :=
    (congrArg (fun s => Sheet.layers named s.pruned) (drops_document grouped)).trans
      (Sheet.layers_left (drops_spares grouped))
  have late : helped.layers named = Sheet.layers named (sheet.filter lives) :=
    (congrArg (fun s => Sheet.layers named s.pruned) (drops_browser grouped)).trans
      (Sheet.layers_left (drops_spares grouped))
  rw [early,late]
  exact ⟨⟨layer_statement_lasts,rfl,fun _ _ => Sheet.ahead_filter⟩,⟨layer_statement_lasts,rfl,fun _ _ => Sheet.ahead_filter⟩⟩

-- A block loses one of its rules, another all of them, and the statement stays.
theorem layers_follow_mentions_half :
    let css : Text := "@layer a\x7b.x\x7bc:d\x7d.y\x7bc:d\x7d\x7d@layer b\x7b.x\x7bc:d\x7d\x7d@layer e,b;@layer b\x7b.y\x7bc:d\x7d\x7d"
    let o : Oracle := ⟨.document,fun selector => some (if selector = (".y" : Text) then 1 else 0),fun _ => some []⟩
    let sheet := sheetOf css
    let out := (byDocument .empty sheet.classify false o sheet).sheet
    let stays := Node.lasts (drops .empty o o false sheet.classify sheet)
    sheet.leads layerNames stays "a" "b" = true ∧ sheet.layers layerNames = Text.ofStrings ["a","b","e","b","b"] ∧
      out.layers layerNames = Text.ofStrings ["a","e","b","b"] ∧
      (Ahead "a" "b" (out.layers layerNames) ↔ Ahead "a" "b" (sheet.layers layerNames)) := by
  intro css
  have written : css = _ := chars_of_literal rfl
  clear_value css
  intro o sheet out stays
  have figures : sheet.leads layerNames stays "a" "b" = true ∧ sheet.layers layerNames = Text.ofStrings ["a","b","e","b","b"] ∧
      out.layers layerNames = Text.ofStrings ["a","e","b","b"] := by subst written; decide +kernel
  obtain ⟨leads,before,behind⟩ := figures
  exact ⟨leads,before,behind,(layers_follow_mentions .empty o o false css layerNames).1.2.2 "a" "b" (.inl leads)⟩

-- The first block of the one layer is emptied, and the layer ranks behind the other one.
theorem emptied_layer_loses_rank :
    let css : Text := "@layer a\x7b.x\x7bc:d\x7d\x7d@layer b\x7b.y\x7bc:d\x7d\x7d@layer a\x7b.y\x7bc:d\x7d\x7d"
    let o : Oracle := ⟨.document,fun selector => some (if selector = (".y" : Text) then 1 else 0),fun _ => some []⟩
    let sheet := sheetOf css
    let out := (byDocument .empty sheet.classify false o sheet).sheet
    ((out.furnishes "a" = true ∧ out.furnishes "b" = true) ∧ Ahead "a" "b" (sheet.layers layerNames)) ∧
      ¬ Ahead "a" "b" (out.layers layerNames) := by
  intro css
  have written : css = _ := chars_of_literal rfl
  clear_value css
  subst written
  decide +kernel

end Cleaning
end StyleTrim
