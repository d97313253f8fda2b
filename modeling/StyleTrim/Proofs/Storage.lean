import Mathlib.Data.List.Nodup
import StyleTrim.Files
namespace StyleTrim
variable {fs fs' fs'' : Files} {e : Entry} {p : Path} {place other q : Place} {name : Text} {contents : Bytes}

-- What writing leaves of the files that were there, and where a path leads once they are.

theorem bind_ok {x : Except ε α} {f : α → Except ε β} {b : β} (ok : x >>= f = .ok b) : ∃ a, x = .ok a ∧ f a = .ok b := by
  cases x with
  | error _ => cases ok
  | ok a => exact ⟨a,rfl,ok⟩

-- A path without a slash at its end is bare.
theorem Path.bare_of_last (last : p.getLast? ≠ some '/') : bare p = p := by
  unfold bare
  split
  · rfl
  · rcases List.eq_nil_or_concat p with rfl | ⟨front,c,rfl⟩
    · rfl
    · have plain : isSlash c = false := by simpa [isSlash] using last
      simp [Text.trimEnd,plain]

namespace Files

theorem entry?_root (fs : Files) : fs.entry? [] = some .directory := rfl

theorem entry?_find (named : q ≠ []) : fs.entry? q = (fs.entries.find? (·.1 == q)).map (·.2) :=
  if_neg (by simpa using named)

theorem put_here (named : place ≠ []) (e : Entry) : Files.entry? (fs.put place e) place = some e := by
  rw [entry?_find named,put,List.find?_append,List.find?_eq_none.mpr]
  · simp
  · intro entry inside
    simpa using (List.mem_filter.mp inside).2

theorem erase_other (apart : q ≠ place) : Files.entry? (fs.erase place) q = fs.entry? q := by
  by_cases named : q = []
  · rw [named,entry?_root,entry?_root]
  · rw [entry?_find named,entry?_find named,erase]
    congr 1
    induction fs.entries with
    | nil => rfl
    | cons entry more ih =>
      by_cases here : entry.1 = place
      · rw [List.filter_cons_of_neg (by simpa using here),ih,List.find?_cons_of_neg (by simpa [here] using Ne.symm apart)]
      · rw [List.filter_cons_of_pos (by simpa using here),List.find?_cons,List.find?_cons,ih]

theorem put_other (apart : q ≠ place) (e : Entry) : Files.entry? (fs.put place e) q = fs.entry? q := by
  by_cases named : q = []
  · rw [named,entry?_root,entry?_root]
  · have kept : Files.entry? (fs.erase place) q = fs.entry? q := erase_other apart
    have added : (fs.put place e).entries = (fs.erase place).entries ++ [(place,e)] := rfl
    rw [← kept,entry?_find named,entry?_find named,added,List.find?_append]
    simp [Ne.symm apart]

theorem filter_vacant (vacant : fs.entry? place = none) (named : place ≠ []) : fs.entries.filter (·.1 != place) = fs.entries := by
  rw [entry?_find named,Option.map_eq_none_iff,List.find?_eq_none] at vacant
  exact List.filter_eq_self.mpr fun entry inside => by simpa using vacant entry inside

-- What is put where nothing was can be taken away again.
theorem erase_put (vacant : fs.entry? place = none) (named : place ≠ []) (e : Entry) : (fs.put place e).erase place = fs := by
  simp only [put,erase,List.filter_append,filter_vacant vacant named]
  simp

theorem freeMark?_vacant {mark : Text} {root : Place} (free : fs.freeMark? root = some mark) :
    fs.entry? (spareName mark :: root) = none := by
  simpa using List.find?_some free

-- Directories stay directories and files stay files, be it with other contents.
structure Grows (fs fs' : Files) : Prop where
  here : fs'.here = fs.here
  directory : ∀ q, fs.entry? q = some .directory → fs'.entry? q = some .directory
  file : ∀ q c, fs.entry? q = some (.file c) → ∃ c', fs'.entry? q = some (.file c')

theorem Grows.refl (fs : Files) : Grows fs fs := ⟨rfl,fun _ found => found,fun _ c found => ⟨c,found⟩⟩

theorem Grows.trans (one : Grows fs fs') (more : Grows fs' fs'') : Grows fs fs'' := by
  refine ⟨more.here.trans one.here,fun q found => more.directory q (one.directory q found),fun q c found => ?_⟩
  obtain ⟨c',between⟩ := one.file q c found
  exact more.file q c' between

theorem enter_grows {from_ there : Place} {step : Text} (grows : Grows fs fs') (found : fs.enter from_ step = .ok there) :
    fs'.enter from_ step = .ok there := by
  unfold enter at found ⊢
  split
  · rwa [if_pos ‹_›] at found
  · rw [if_neg ‹_›] at found
    split
    · rwa [if_pos ‹_›] at found
    · rw [if_neg ‹_›] at found
      split
      · rwa [if_pos ‹_›] at found
      · rw [if_neg ‹_›] at found
        split at found
        · cases found
        · cases found
        · rename_i entry
          rwa [grows.directory _ entry]

theorem foldlM_enter_grows (grows : Grows fs fs') {start there : Place} {steps : List Text}
    (found : steps.foldlM fs.enter start = .ok there) : steps.foldlM fs'.enter start = .ok there := by
  induction steps generalizing start with
  | nil => exact found
  | cons step more ih =>
    rw [List.foldlM_cons] at found ⊢
    obtain ⟨between,first,later⟩ := bind_ok found
    rw [enter_grows grows first]
    exact ih later

-- Where a path leads does not change as files are added.
theorem approach_grows {directory : Place} {last : Text} (grows : Grows fs fs')
    (found : fs.approach p = .ok (directory,last)) : fs'.approach p = .ok (directory,last) := by
  unfold approach at found ⊢
  rw [grows.here]
  split
  · rwa [if_pos ‹_›] at found
  · rw [if_neg ‹_›] at found
    split
    · rwa [if_pos ‹_›] at found
    · rw [if_neg ‹_›] at found
      split
      · rwa [if_pos ‹_›] at found
      · rw [if_neg ‹_›] at found
        dsimp only at found ⊢
        split
        · rename_i none
          rw [none] at found
          exact found
        · rename_i step before steps
          rw [steps] at found
          obtain ⟨there,way,rest⟩ := bind_ok found
          rw [foldlM_enter_grows grows way]
          exact rest

-- Where a path leads if a file may be written there.
theorem target_cases (found : fs.target p = .ok place) : ∃ directory last, place = last :: directory ∧
    fs.approach (Path.bare p) = .ok (directory,last) ∧ (Path.staysPut last || last == ['.','.']) = false ∧
    p.getLast? ≠ some '/' ∧ byteCount last ≤ 255 ∧ fs.entry? place ≠ some .directory := by
  obtain ⟨⟨directory,last⟩,way,rest⟩ := bind_ok found
  dsimp only at rest
  split at rest
  · cases rest
  · rename_i plain
    split at rest
    · cases rest
    · rename_i short
      split at rest
      · cases rest
      · rename_i other
        cases rest
        simp only [Bool.or_eq_true,decide_eq_true_eq,not_or] at plain
        exact ⟨directory,last,rfl,way,by simp [plain.1],plain.2,Nat.not_lt.mp short,other⟩

theorem target_named (found : fs.target p = .ok place) : place ≠ [] := by
  obtain ⟨directory,last,rfl,-⟩ := target_cases found
  exact List.cons_ne_nil _ _

theorem target_open (found : fs.target p = .ok place) : fs.entry? place ≠ some .directory := by
  obtain ⟨_,_,_,_,_,_,_,other⟩ := target_cases found
  exact other

-- What is read later at a place to which a path led.
theorem target_read (found : fs.target p = .ok place) (grows : Grows fs fs')
    (there : fs'.entry? place = some (.file contents)) : fs'.read p = .ok contents := by
  obtain ⟨directory,last,rfl,way,plain,open_,short,-⟩ := target_cases found
  rw [Path.bare_of_last open_] at way
  rw [read,approach_grows grows way]
  show (if _ then _ else _) = _
  rw [if_neg (by simp [plain]),if_neg (Nat.not_lt.mpr short),there]

-- A place that a path led to stays the one it leads to, once there is a file.
theorem target_stays (found : fs.target p = .ok place) (grows : Grows fs fs')
    (there : fs'.entry? place = some (.file contents)) : fs'.target p = .ok place := by
  obtain ⟨directory,last,rfl,way,plain,open_,short,-⟩ := target_cases found
  rw [target,approach_grows grows way]
  show (if _ then _ else _) = _
  rw [if_neg (by simp [plain,open_]),if_neg (Nat.not_lt.mpr short),if_neg (by simp [there])]

theorem put_grows (other : fs.entry? place ≠ some .directory) (contents : Bytes) :
    Grows fs (fs.put place (.file contents)) := by
  have named : place ≠ [] := by
    rintro rfl
    exact other (entry?_root fs)
  refine ⟨rfl,fun q found => ?_,fun q c found => ?_⟩
  · rw [put_other,found]
    rintro rfl
    exact other found
  · by_cases same : q = place
    · exact ⟨contents,by rw [same,put_here named]⟩
    · exact ⟨c,by rw [put_other same,found]⟩

-- What was there is there as it was, and there may be more.
structure Widens (fs fs' : Files) : Prop where
  here : fs'.here = fs.here
  entry : ∀ q e, fs.entry? q = some e → fs'.entry? q = some e

theorem Widens.refl (fs : Files) : Widens fs fs := ⟨rfl,fun _ _ found => found⟩

theorem Widens.trans (one : Widens fs fs') (more : Widens fs' fs'') : Widens fs fs'' :=
  ⟨more.here.trans one.here,fun q e found => more.entry q e (one.entry q e found)⟩

theorem Widens.grows (widens : Widens fs fs') : Grows fs fs' :=
  ⟨widens.here,fun q => widens.entry q _,fun q c found => ⟨c,widens.entry q _ found⟩⟩

theorem put_widens (vacant : fs.entry? place = none) (e : Entry) : Widens fs (fs.put place e) := by
  refine ⟨rfl,fun q e' found => ?_⟩
  rw [put_other,found]
  rintro rfl
  rw [vacant] at found
  cases found

def withSpares (fs : Files) (spares : List (Place × Bytes)) : Files :=
  {fs with entries := fs.entries ++ spares.map fun spare => (spare.1,.file spare.2)}

-- All that is new are some files, each in a place of its own where nothing was.
structure Beside (fs : Files) (spares : List (Place × Bytes)) (fs' : Files) : Prop where
  added : ∃ order, List.Perm spares order ∧ fs' = fs.withSpares order
  vacant : ∀ spare ∈ spares, fs.entry? spare.1 = none
  apart : (spares.map (·.1)).Nodup

namespace Beside
variable {spares spares' : List (Place × Bytes)}

theorem refl (fs : Files) : fs.Beside [] fs := by
  refine ⟨⟨[],.nil,?_⟩,nofun,.nil⟩
  simp [withSpares]

theorem same (beside : fs.Beside [] fs') : fs' = fs := by
  obtain ⟨order,shuffled,rfl⟩ := beside.added
  cases List.nil_perm.mp shuffled
  simp [withSpares]

theorem shuffle (beside : fs.Beside spares fs') (shuffled : List.Perm spares spares') : fs.Beside spares' fs' := by
  obtain ⟨⟨order,perm,added⟩,vacant,apart⟩ := beside
  refine ⟨⟨order,shuffled.symm.trans perm,added⟩,fun spare inside => vacant spare (shuffled.mem_iff.mpr inside),?_⟩
  exact (shuffled.map _).nodup_iff.mp apart

theorem here (beside : fs.Beside spares fs') : fs'.here = fs.here := by
  obtain ⟨_,_,rfl⟩ := beside.added
  rfl

theorem spare (beside : fs.Beside spares fs') : fs'.spare = fs.spare := by
  obtain ⟨_,_,rfl⟩ := beside.added
  rfl

theorem widens (beside : fs.Beside spares fs') : Widens fs fs' := by
  refine ⟨beside.here,fun q e found => ?_⟩
  obtain ⟨_,_,rfl⟩ := beside.added
  by_cases named : q = []
  · rwa [named] at found ⊢
  · rw [entry?_find named] at found ⊢
    obtain ⟨entry,first,rfl⟩ := Option.map_eq_some_iff.mp found
    simp [withSpares,first]

theorem named (beside : fs.Beside spares fs') {spare : Place × Bytes} (inside : spare ∈ spares) : spare.1 ≠ [] := by
  intro root
  have vacant := beside.vacant spare inside
  rw [root] at vacant
  cases vacant

-- A place where nothing is now is one where nothing was.
theorem free (beside : fs.Beside spares fs') (vacant : fs'.entry? place = none) : fs.entry? place = none := by
  by_contra occupied
  obtain ⟨e,found⟩ := Option.ne_none_iff_exists'.mp occupied
  rw [beside.widens.entry place e found] at vacant
  cases vacant

theorem find (beside : fs.Beside spares fs') (vacant : fs.entry? place = none) : ∃ order, List.Perm spares order ∧
    fs'.entry? place = (order.find? (·.1 == place)).map fun spare => .file spare.2 := by
  obtain ⟨⟨order,shuffled,rfl⟩,_,_⟩ := beside
  have named : place ≠ [] := by
    rintro rfl
    cases vacant
  rw [entry?_find named,Option.map_eq_none_iff] at vacant
  refine ⟨order,shuffled,?_⟩
  simp only [entry?_find named,withSpares,List.find?_append,vacant,Option.none_or,List.find?_map,Option.map_map]
  rfl

theorem holds (beside : fs.Beside spares fs') (inside : (place,contents) ∈ spares) :
    fs'.entry? place = some (.file contents) := by
  obtain ⟨order,shuffled,entry⟩ := beside.find (beside.vacant _ inside)
  have there : (order.find? (·.1 == place)).isSome = true :=
    List.find?_isSome.mpr ⟨_,shuffled.mem_iff.mp inside,by simp⟩
  obtain ⟨spare,found⟩ := Option.isSome_iff_exists.mp there
  have member := shuffled.mem_iff.mpr (List.mem_of_find?_eq_some found)
  have same : spare = (place,contents) :=
    List.inj_on_of_nodup_map beside.apart member inside (by simpa using List.find?_some found)
  rw [entry,found,same]
  rfl

theorem elsewhere (beside : fs.Beside spares fs') (apart : ∀ spare ∈ spares, spare.1 ≠ place) :
    fs'.entry? place = fs.entry? place := by
  cases found : fs.entry? place with
  | some e => exact beside.widens.entry place e found
  | none =>
    obtain ⟨order,shuffled,entry⟩ := beside.find found
    have missing : order.find? (·.1 == place) = none := by
      refine List.find?_eq_none.mpr fun spare inside => ?_
      simpa using apart spare (shuffled.mem_iff.mpr inside)
    rw [entry,missing]
    rfl

theorem put (beside : fs.Beside spares fs') (vacant : fs'.entry? place = none) (contents : Bytes) :
    fs.Beside ((place,contents) :: spares) (fs'.put place (.file contents)) := by
  have named : place ≠ [] := by
    rintro rfl
    cases vacant
  refine ⟨?_,?_,?_⟩
  · obtain ⟨order,shuffled,rfl⟩ := beside.added
    refine ⟨order ++ [(place,contents)],(shuffled.cons _).trans (List.perm_append_singleton _ _).symm,?_⟩
    simp only [Files.put,filter_vacant vacant named]
    simp [withSpares]
  · exact List.forall_mem_cons.mpr ⟨beside.free vacant,beside.vacant⟩
  · refine List.nodup_cons.mpr ⟨fun taken => ?_,beside.apart⟩
    obtain ⟨⟨_,c⟩,inside,rfl⟩ := List.mem_map.mp taken
    rw [beside.holds inside] at vacant
    cases vacant

theorem erase (beside : fs.Beside ((place,contents) :: spares) fs') : fs.Beside spares (fs'.erase place) := by
  have vacant := beside.vacant _ List.mem_cons_self
  have named := beside.named List.mem_cons_self
  obtain ⟨fresh,apart⟩ := List.nodup_cons.mp beside.apart
  have others : spares.filter (·.1 != place) = spares := by
    refine List.filter_eq_self.mpr fun spare inside => ?_
    refine bne_iff_ne.mpr fun same => fresh ?_
    exact List.mem_map.mpr ⟨spare,inside,same⟩
  refine ⟨?_,fun spare inside => beside.vacant spare (List.mem_cons_of_mem _ inside),apart⟩
  obtain ⟨order,shuffled,rfl⟩ := beside.added
  refine ⟨order.filter (·.1 != place),?_,?_⟩
  · have left := shuffled.filter (·.1 != place)
    rwa [List.filter_cons_of_neg (by simp),others] at left
  · simp only [Files.erase,withSpares,List.filter_append,filter_vacant vacant named,List.filter_map]
    rfl

end Beside

-- A directory is made where nothing was.
theorem makeDirectory_vacant (made : fs.makeDirectory p = .ok fs') : ∃ place, fs.entry? place = none ∧ place ≠ [] ∧
    fs' = fs.put place .directory := by
  obtain ⟨⟨directory,last⟩,_,rest⟩ := bind_ok made
  dsimp only at rest
  split at rest
  · cases rest
  · split at rest
    · cases rest
    · split at rest
      · cases rest
      · rename_i vacant
        cases rest
        exact ⟨_,vacant,List.cons_ne_nil _ _,rfl⟩

theorem makeDirectory_widens (made : fs.makeDirectory p = .ok fs') : Widens fs fs' := by
  obtain ⟨place,vacant,_,rfl⟩ := makeDirectory_vacant made
  exact put_widens vacant _

theorem makeDirectory_files (made : fs.makeDirectory p = .ok fs') :
    fs'.entry? q = some (.file contents) ↔ fs.entry? q = some (.file contents) := by
  obtain ⟨place,vacant,named,rfl⟩ := makeDirectory_vacant made
  by_cases same : q = place
  · rw [same,put_here named,vacant]
    exact ⟨nofun,nofun⟩
  · rw [put_other same]

-- What making one directory keeps is kept by making all those above a path.
theorem ensureDirectories_keeps {Kept : Files → Prop} (step : ∀ {fs fs' p}, Kept fs → makeDirectory fs p = .ok fs' → Kept fs')
    (kept : Kept fs) (above : List Path) : Kept (fs.ensureDirectories above).1 := by
  have one {fs : Files} (kept : Kept fs) (p : Path) : Kept (fs.ensureDirectory p).1 := by
    unfold ensureDirectory
    split
    · exact step kept ‹_›
    · exact kept
  induction above with
  | nil => exact kept
  | cons p above ih =>
    rw [ensureDirectories]
    split
    · split
      · rename_i made
        rw [made] at ih
        exact one ih p
      · exact ih
    · exact one kept p

theorem ensureDirectories_widens (fs : Files) (above : List Path) : Widens fs (fs.ensureDirectories above).1 :=
  ensureDirectories_keeps (fun widens made => widens.trans (makeDirectory_widens made)) (.refl fs) above

theorem ensureDirectories_files (fs : Files) (above : List Path) :
    Files.entry? (fs.ensureDirectories above).1 q = some (.file contents) ↔ fs.entry? q = some (.file contents) :=
  ensureDirectories_keeps (fun same made => (makeDirectory_files made).trans same) Iff.rfl above

end Files
end StyleTrim
