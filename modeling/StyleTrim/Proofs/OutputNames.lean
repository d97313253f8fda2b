import StyleTrim.Config
import StyleTrim.Proofs.Animations
import StyleTrim.Proofs.Storage
namespace StyleTrim
open Text
variable {c : Config} {fs : Files} {place directory : Place} {name step stem tail decorator p : Text}

-- An output is one step below the target directory, unless the document has a name without a last step. Such a name
-- is taken whole, and what it leads to is not looked at.

namespace Path

-- A name that leads one step down, and nowhere else.
structure IsStep (name : Text) : Prop where
  solid : '/' ∉ name
  filled : name ≠ []
  moves : name ≠ ['.']
  down : name ≠ ['.','.']

theorem staysPut_iff : staysPut step = true ↔ step = [] ∨ step = ['.'] := by
  simp [staysPut]

theorem cut_solid (among : step ∈ (cut p).2) : '/' ∉ step := by
  have piece : step ∈ pieces isSlash p := by
    unfold cut at among
    split at among
    · rename_i same
      rw [same]
      exact List.mem_cons_of_mem _ among
    · rename_i same
      rw [same]
      exact List.mem_cons_of_mem _ among
    · exact among
  intro slash
  cases pieces_solid piece '/' slash

-- The last step of a path is one that leads down.
theorem fileName?_step (named : fileName? p = some name) : IsStep name := by
  unfold fileName? at named
  have stops := List.head?_dropWhile_not staysPut (cut p).2.reverse
  have listed : ∀ step ∈ (cut p).2.reverse.dropWhile staysPut, '/' ∉ step := fun step inside =>
    cut_solid (List.mem_reverse.mp ((List.dropWhile_sublist staysPut).subset inside))
  split at named
  · cases named
  · rename_i last before steps
    rw [steps] at stops listed
    split at named
    · cases named
    · rename_i other
      cases named
      have leads : ¬ (name = [] ∨ name = ['.']) := fun stays => by simp [staysPut_iff.mpr stays] at stops
      simp only [not_or] at leads
      exact ⟨listed name List.mem_cons_self,leads.1,leads.2,by simpa using other⟩

theorem pieces_alone (solid : '/' ∉ name) : pieces isSlash name = [name] := by
  rw [pieces_eq]
  refine List.splitOnP_eq_singleton fun c inside => ?_
  have other : c ≠ '/' := fun same => solid (same ▸ inside)
  simpa [isSlash] using other

theorem cut_alone (solid : '/' ∉ name) (other : name ≠ ['.']) : cut name = (.here,[name]) := by
  unfold cut
  rw [pieces_alone solid]
  split
  · rename_i same; cases same
  · rename_i same; exact absurd (List.cons.inj same).1 other
  · rfl

-- Of the names that have no last step themselves, these are the ones without a slash.
theorem fileName?_none (solid : '/' ∉ name) (nameless : fileName? name = none) : name = [] ∨ name = ['.'] ∨ name = ['.','.'] := by
  by_contra others
  simp only [not_or] at others
  have leads : ¬ staysPut name = true := fun stays => (staysPut_iff.mp stays).elim others.1 others.2.1
  unfold fileName? at nameless
  rw [cut_alone solid others.2.1] at nameless
  simp [leads,others.2.2] at nameless

-- A name without an extension is its own stem.
theorem splitName_cases (name : Text) : splitName name = (name,none) ∨
    ∃ stem extension, stem ≠ [] ∧ name = stem ++ '.' :: extension ∧ splitName name = (stem,some extension) := by
  have parted := List.takeWhile_append_dropWhile (p := fun c : Char => decide (c ≠ '.')) (l := name.reverse)
  have stops := List.head?_dropWhile_not (fun c : Char => decide (c ≠ '.')) name.reverse
  unfold splitName
  dsimp only
  generalize name.reverse.takeWhile (fun c : Char => decide (c ≠ '.')) = extension at parted ⊢
  cases rest : name.reverse.dropWhile (fun c : Char => decide (c ≠ '.')) with
  | nil =>
    rw [rest,List.append_nil] at parted
    rw [← parted]
    simp
  | cons d stem =>
    rw [rest] at parted stops
    obtain rfl : d = '.' := by simpa using stops
    have whole : name = stem.reverse ++ '.' :: extension.reverse := by
      rw [← List.reverse_reverse name,← parted]
      simp
    have back : name.reverse.drop (extension.length + 1) = stem := by
      rw [← parted,← List.drop_drop,List.drop_left]
      rfl
    rw [back]
    split
    · exact .inl rfl
    · rename_i some
      exact .inr ⟨stem.reverse,extension.reverse,by simpa using some,whole,rfl⟩

-- A step stays one when something without slashes is put into it, but not in front of it.
theorem IsStep.widened (whole : IsStep (stem ++ tail)) (some : stem ≠ []) (solid : '/' ∉ decorator) :
    IsStep (stem ++ decorator ++ tail) := by
  obtain ⟨apart,_,dot,dots⟩ := whole
  obtain ⟨x,more,rfl⟩ := List.exists_cons_of_ne_nil some
  refine ⟨?_,by simp,?_,?_⟩
  · simp only [List.mem_append,not_or] at apart ⊢
    exact ⟨⟨apart.1,solid⟩,apart.2⟩
  · intro same
    obtain ⟨rfl,rest⟩ := List.cons.inj same
    obtain ⟨rfl,rfl,rfl⟩ : more = [] ∧ decorator = [] ∧ tail = [] := by simpa using rest
    exact dot rfl
  · intro same
    obtain ⟨rfl,rest⟩ := List.cons.inj same
    rcases List.append_eq_singleton_iff.mp rest with ⟨nothing,rfl⟩ | ⟨one,rfl⟩
    · obtain ⟨rfl,rfl⟩ := List.append_eq_nil_iff.mp nothing
      exact dots rfl
    · rcases List.append_eq_singleton_iff.mp one with ⟨rfl,rfl⟩ | ⟨rfl,rfl⟩
      · exact dot rfl
      · exact dots rfl

end Path

namespace Config
open StyleTrim.Path

theorem outputName_named (named : fileName? name = some step) (solid : '/' ∉ c.decorator) : IsStep (c.outputName name) := by
  have whole := fileName?_step named
  unfold outputName
  rw [named]
  dsimp only
  rcases splitName_cases step with alone | ⟨stem,extension,some,rfl,parts⟩
  · rw [alone]
    rw [← List.append_nil step] at whole
    exact whole.widened (by simpa using whole.filled) solid
  · rw [parts]
    exact whole.widened some solid

theorem outputName_nameless (nameless : fileName? name = none) : c.outputName name = name ++ c.decorator := by
  rw [outputName,nameless]

end Config

namespace Path

-- From any directory but the empty one a path is seen behind a slash.
theorem within_cases (directory : Path) : directory = [] ∨
    ∃ front, ∀ p : Path, p.head? ≠ some '/' → within directory p = front ++ '/' :: p := by
  rcases List.eq_nil_or_concat directory with nothing | ⟨front,x,whole⟩
  · exact .inl nothing
  · right
    rw [List.concat_eq_append] at whole
    by_cases slash : x = '/'
    · refine ⟨front,fun p inner => ?_⟩
      simp [within,whole,slash,inner]
    · refine ⟨directory,fun p inner => ?_⟩
      simp [within,whole,slash,inner]

theorem within_nil (p : Path) : within [] p = p := by
  simp [within]

theorem within_root {directory : Path} (outer : p.head? = some '/') : within directory p = p := by
  simp [within,outer]

theorem IsStep.inner (whole : IsStep step) : step.head? ≠ some '/' := fun first => whole.solid (List.mem_of_mem_head? first)

-- Below the same directory all steps are taken from the same place.
theorem cut_below (front : Text) : ∃ start before, ∀ step, '/' ∉ step → cut (front ++ '/' :: step) = (start,before ++ [step]) := by
  have parts : ∀ step, '/' ∉ step → pieces isSlash (front ++ '/' :: step) = pieces isSlash front ++ [step] := by
    intro step solid
    rw [pieces_append (by rfl),pieces_alone solid]
  rcases whole : pieces isSlash front with _ | ⟨first,more⟩
  · rw [pieces_eq] at whole
    exact absurd whole (List.splitOnP_ne_nil _ _)
  · by_cases nothing : first = []
    · refine ⟨.root,more,fun step solid => ?_⟩
      unfold cut
      rw [parts step solid,whole,nothing]
      cases more <;> rfl
    · by_cases dot : first = ['.']
      · refine ⟨.dot,more,fun step solid => ?_⟩
        unfold cut
        rw [parts step solid,whole,dot]
        rfl
      · refine ⟨.here,first :: more,fun step solid => ?_⟩
        unfold cut
        rw [parts step solid,whole]
        split
        · rename_i same; exact absurd (List.cons.inj same).1 nothing
        · rename_i same; exact absurd (List.cons.inj same).1 dot
        · rfl

end Path

namespace Files
open StyleTrim.Path

-- A path leads to a directory if its steps can be taken, up to the one that stays there.
def LeadsTo (fs : Files) (p : Path) (place : Place) : Prop := fs.approach (within p ['.']) = .ok (place,['.'])

theorem approach_ok_iff {start : Path.Start} {before : List Text} (some : p ≠ []) (parts : cut p = (start,before ++ [tail])) :
    fs.approach p = .ok (directory,step) ↔ (p.any (· = '\x00') = false ∧ byteCount p < 4096) ∧
      before.foldlM fs.enter (if start = .root then [] else fs.here) = .ok directory ∧ tail = step := by
  unfold approach
  rw [parts]
  by_cases zero : p.any (· = '\x00') = true
  · simp [zero]
  by_cases long : 4096 ≤ byteCount p
  · simp [zero,long]
  rw [if_neg zero,if_neg long,if_neg (by simpa using some)]
  dsimp only
  rw [List.reverse_append,List.reverse_singleton,List.singleton_append]
  dsimp only
  rw [List.reverse_reverse]
  cases before.foldlM fs.enter (if start = .root then [] else fs.here) with
  | error cause => simp [Bind.bind,Except.bind]
  | ok there =>
    show Except.ok (there,tail) = Except.ok (directory,step) ↔ _
    simp [zero,Nat.lt_of_not_le long]

theorem byteCount_append (s t : Text) : byteCount (s ++ t) = byteCount s + byteCount t := by
  simp [byteCount,encode]

theorem byteCount_pos (some : step ≠ []) : 0 < byteCount step := by
  obtain ⟨x,more,rfl⟩ := List.exists_cons_of_ne_nil some
  have bytes : 0 < (bytesOf x).length := by
    unfold bytesOf
    dsimp only
    repeat' split
    all_goals exact Nat.succ_pos _
  rw [byteCount,encode,List.flatMap_cons,List.length_append]
  omega

-- The directory in which a step below another one is taken is that other one.
theorem approach_below {above : Path} (whole : IsStep step) (found : fs.approach (within above step) = .ok (directory,tail)) :
    fs.LeadsTo above directory ∧ tail = step := by
  unfold LeadsTo
  rcases within_cases above with rfl | ⟨front,seen⟩
  · rw [within_nil] at found ⊢
    have alone : cut step = (.here,[] ++ [step]) := cut_alone whole.solid whole.moves
    rw [approach_ok_iff whole.filled alone] at found
    obtain ⟨_,here,rfl⟩ := found
    cases here
    exact ⟨rfl,rfl⟩
  · rw [seen _ whole.inner] at found
    rw [seen _ (by decide)]
    obtain ⟨start,before,cuts⟩ := cut_below front
    rw [approach_ok_iff (by simp) (cuts step whole.solid)] at found
    obtain ⟨⟨named,short⟩,way,rfl⟩ := found
    refine ⟨(approach_ok_iff (by simp) (cuts ['.'] (by decide))).mpr ⟨⟨?_,?_⟩,way,rfl⟩,rfl⟩
    · simp only [List.any_append,List.any_cons,Bool.or_eq_false_iff] at named ⊢
      exact ⟨named.1,named.2.1,by decide⟩
    · have least := byteCount_pos whole.filled
      have dot : byteCount ['.'] = 1 := by decide
      rw [List.append_cons,byteCount_append] at short ⊢
      omega

theorem target_below {above : Path} (whole : IsStep step) (found : fs.target (within above step) = .ok place) :
    ∃ directory, fs.LeadsTo above directory ∧ place = step :: directory := by
  obtain ⟨directory,last,rfl,way,_,open_,_⟩ := target_cases found
  rw [bare_of_last open_] at way
  obtain ⟨leads,rfl⟩ := approach_below whole way
  exact ⟨directory,leads,rfl⟩

end Files

namespace Config
open StyleTrim.Path

-- The output for a document is seen from the target directory as a single step.
def Stays (c : Config) (name : Text) : Prop := ∃ step, IsStep step ∧ c.outputPath name = within c.targetDirectory step

theorem within_inner {above : Path} {p q : Path} (first : p.head? ≠ some '/') (second : q.head? ≠ some '/')
    (same : within above p = within above q) : p = q := by
  rcases within_cases above with rfl | ⟨front,seen⟩
  · rwa [within_nil,within_nil] at same
  · rw [seen p first,seen q second] at same
    simpa using same

theorem named_stays (named : fileName? name = some step) (solid : '/' ∉ c.decorator) : c.Stays name :=
  ⟨_,outputName_named named solid,rfl⟩

-- Without a last step it depends on what the name and the decorator make together.
theorem nameless_stays_iff (nameless : fileName? name = none) (solid : '/' ∉ c.decorator) : c.Stays name ↔
    ((name = [] ∨ name = ['.'] ∨ name = ['.','.']) ∧ IsStep (name ++ c.decorator)) ∨
      (name.head? = some '/' ∧ ∃ step, IsStep step ∧ name ++ c.decorator = within c.targetDirectory step) := by
  rw [Stays,outputPath,outputName_nameless nameless]
  constructor
  · rintro ⟨step,whole,same⟩
    by_cases outer : (name ++ c.decorator).head? = some '/'
    · rw [within_root outer] at same
      refine .inr ⟨?_,step,whole,same⟩
      cases name with
      | nil => exact absurd (List.mem_of_mem_head? outer) solid
      | cons => exact outer
    · have alone : IsStep (name ++ c.decorator) := within_inner outer whole.inner same ▸ whole
      exact .inl ⟨fileName?_none (fun slash => alone.solid (List.mem_append_left _ slash)) nameless,alone⟩
  · rintro (⟨_,whole⟩ | ⟨outer,step,whole,same⟩)
    · exact ⟨_,whole,rfl⟩
    · refine ⟨step,whole,?_⟩
      rw [within_root (by rw [List.head?_append,outer]; rfl),same]

-- The output for a name stays if the name has a last step, or makes one with the decorator, or happens to lead from
-- the root to below the target directory. What stays is written in the directory that the target leads to.
theorem outputs_stay_iff (c : Config) (name : Text) (solid : '/' ∉ c.decorator) :
    (c.Stays name ↔ (fileName? name).isSome = true ∨
      ((name = [] ∨ name = ['.'] ∨ name = ['.','.']) ∧ IsStep (name ++ c.decorator)) ∨
      (name.head? = some '/' ∧ ∃ step, IsStep step ∧ name ++ c.decorator = within c.targetDirectory step)) ∧
    (c.Stays name → ∀ fs place, Files.target fs (c.outputPath name) = .ok place →
      ∃ step directory, IsStep step ∧ fs.LeadsTo c.targetDirectory directory ∧ place = step :: directory) := by
  constructor
  · cases named : fileName? name with
    | some step => simp [named_stays named solid]
    | none => simp [nameless_stays_iff named solid]
  · rintro ⟨step,whole,same⟩ fs place found
    rw [same] at found
    obtain ⟨directory,leads,there⟩ := Files.target_below whole found
    exact ⟨step,directory,whole,leads,there⟩

def marked : Config := {standard with decorator := "-min"}

-- Where the target directory stands, and another one beside it.
def besideTarget : Files := (Files.empty.put ["dist","work","tmp"] .directory).put ["x","work","tmp"] .directory

-- A name with two dots in it and a slash behind it, and one that leads out of the target directory.
theorem outputs_stay_iff_dots : '/' ∉ marked.decorator ∧ marked.Stays "a.b.html/." ∧
    (∃ step directory, IsStep step ∧ besideTarget.LeadsTo marked.targetDirectory directory ∧
      (["a.b-min.html","dist","work","tmp"] : Place) = step :: directory) ∧
    ¬ marked.Stays "../x/.." ∧ Files.target besideTarget (marked.outputPath "../x/..") = .ok ["..-min","x","work","tmp"] := by
  have solid : '/' ∉ marked.decorator := by decide
  obtain ⟨stays,lands⟩ := outputs_stay_iff marked "a.b.html/." solid
  have inside := stays.mpr (.inl (by decide +kernel))
  have there := lands inside besideTarget ["a.b-min.html","dist","work","tmp"] (by decide +kernel)
  refine ⟨solid,inside,there,fun out => ?_,by decide +kernel⟩
  rcases (outputs_stay_iff marked "../x/.." solid).1.mp out with named | ⟨dots,_⟩ | ⟨root,_⟩
  · exact absurd named (by decide +kernel)
  · exact absurd dots (by decide)
  · exact absurd root (by decide)

end Config
end StyleTrim
