import Mathlib.Data.List.TakeDrop
import Mathlib.Data.List.TakeWhile
import Endpoints.Proofs.OutputCheck

/-! What processing an input leaves as it was. Each place of the tree is kept, or a folder is made there on
the way to the folder that is given for outputs, or it is the place of the output. Where there are no links,
that is never the place of the input. -/

namespace Endpoints

namespace FilePath

theorem fileName?_of_getLast? {path : FilePath} {name : String} (last : path.parts.getLast? = some name)
    (enters : isIdle name = false) (inward : name ≠ "..") : path.fileName? = some name := by
  obtain ⟨outer, parts⟩ := List.getLast?_eq_some_iff.mp last
  simp [fileName?, reversed, parts, enters, inward]

theorem getLast?_join (path : FilePath) (name : String) : (path.join name).parts.getLast? = some name := by
  unfold join
  split <;> simp

theorem getLast?_withFileName (path : FilePath) (name : String) :
    (path.withFileName name).parts.getLast? = some name := by
  unfold withFileName
  split <;> exact getLast?_join _ _

end FilePath

theorem FileName.eq_of_split? {name before extension : String} (cut : split? name = some (before, extension)) :
    name.toList = before.toList ++ '.' :: extension.toList := by
  unfold split? at cut
  rw [List.span_eq_takeWhile_dropWhile] at cut
  have whole := List.takeWhile_append_dropWhile (p := fun c => decide (c ≠ '.')) (l := name.toList.reverse)
  have dotted : ∀ c rest, name.toList.reverse.dropWhile (· ≠ '.') = c :: rest → c = '.' := by
    intro c rest split
    have first := List.head?_dropWhile_not (fun c => decide (c ≠ '.')) name.toList.reverse
    rw [split] at first
    simpa using first
  simp only at cut
  split at cut
  next first c rest split =>
    cases cut
    rw [split, dotted _ _ split] at whole
    simpa using congrArg List.reverse whole.symm
  next => cases cut

namespace Output

theorem nameFor_ne (name : String) : nameFor name ≠ name := by
  intro same
  have spelled : (FileName.stem name).toList ++ ending.toList = name.toList := by
    rw [← String.toList_append]
    exact congrArg String.toList same
  cases cut : FileName.split? name with
  | none =>
    have longer := congrArg List.length spelled
    simp [FileName.stem, cut, ending] at longer
  | some halves =>
    obtain ⟨before, extension⟩ := halves
    rw [FileName.eq_of_split? cut] at spelled
    simp [FileName.stem, cut, ending] at spelled

theorem fileName?_pathFor (input : FilePath) (folder : Option FilePath) :
    (pathFor input folder).fileName? =
      some (match input.fileName? with
        | some name => nameFor name
        | none => ending) := by
  have last : (pathFor input folder).parts.getLast? = some (match input.fileName? with
      | some name => nameFor name
      | none => ending) := by
    unfold pathFor
    cases folder with
    | none => exact FilePath.getLast?_withFileName _ _
    | some folder => exact FilePath.getLast?_join _ _
  have long : ending.length ≤ (match input.fileName? with
      | some name => nameFor name
      | none => ending).length := by
    split
    · simp [nameFor]
    · exact Nat.le_refl _
  have enters (name : String) (long : ending.length ≤ name.length) :
      FilePath.isIdle name = false ∧ name ≠ ".." := by
    have length : ending.length = 11 := by decide
    refine ⟨Bool.eq_false_iff.mpr fun idle => ?_, ?_⟩
    · rcases Bool.or_eq_true_iff.mp idle with same | same <;> rw [eq_of_beq same, length] at long <;>
        exact absurd long (by decide)
    · rintro rfl
      exact absurd long (by decide)
  exact FilePath.fileName?_of_getLast? last (enters _ long).1 (enters _ long).2

theorem fileName?_pathFor_ne (input : FilePath) (folder : Option FilePath) :
    (pathFor input folder).fileName? ≠ input.fileName? := by
  rw [fileName?_pathFor]
  cases input.fileName? with
  | none => simp
  | some name => simpa using nameFor_ne name

end Output

namespace FileTree

/-- No entry is a link. -/
def HasNoLinks (tree : FileTree) : Prop := ∀ place target, tree.get? place ≠ some (.link target)

section
variable {tree : FileTree}

theorem exists_name_of_reachFrom (linkless : tree.HasNoLinks)
    {follow : Place → List String → Except FileFault Spot} {parts : List String} {folder place : Place}
    {content : Bytes} (reached : tree.reachFrom follow folder parts = .ok (.file place content)) :
    ∃ name, parts.getLast? = some name ∧ place.getLast? = some name ∧ Enters name := by
  generalize spots : Spot.file place content = spot at reached
  have reaches := reaches_of_reachFrom reached
  clear reached
  induction reaches with
  | here | vacant => cases spots
  | idle _ _ ih | outward _ ih | inward _ _ _ ih =>
    obtain ⟨name, last, ends⟩ := ih spots
    exact ⟨name, by simp [List.getLast?_cons, last], ends⟩
  | file enters =>
    cases spots
    exact ⟨_, rfl, by simp, enters⟩
  | linkFromTop _ held | linkFromHere _ held => exact absurd held (linkless _ _)

theorem fileName?_of_spot (linkless : tree.HasNoLinks) {path : FilePath} {place : Place} {content : Bytes}
    (reached : tree.spot path = .ok (.file place content)) : path.fileName? = place.getLast? := by
  obtain ⟨-, along⟩ := spot_eq_ok_iff.mp reached
  obtain ⟨name, last, ends, enters⟩ := exists_name_of_reachFrom linkless along
  rw [FilePath.fileName?_of_getLast? last enters.named enters.inward, ends]

theorem reachFrom_append {follow : Place → List String → Except FileFault Spot} {more : List String}
    {place : Place} {spot : Spot}
    (behind : ∀ folder parts, follow folder parts = .ok (.folder place) →
      follow folder (parts ++ more) = .ok spot)
    (onward : tree.reachFrom follow place more = .ok spot) {parts : List String} {folder : Place}
    (reached : tree.reachFrom follow folder parts = .ok (.folder place)) :
    tree.reachFrom follow folder (parts ++ more) = .ok spot := by
  refine Reaches.reached ?_
  generalize spots : Spot.folder place = middle at reached
  have reaches := reaches_of_reachFrom reached
  clear reached
  induction reaches with
  | here =>
    cases spots
    exact reaches_of_reachFrom onward
  | idle stays _ ih => exact .idle stays (ih spots)
  | outward _ ih => exact .outward (ih spots)
  | inward enters held _ ih => exact .inward enters held (ih spots)
  | file | vacant => cases spots
  | linkFromTop enters held parts along =>
    subst spots
    exact .linkFromTop enters held parts (by simpa [List.append_assoc] using behind _ _ along)
  | linkFromHere enters held parts along =>
    subst spots
    exact .linkFromHere enters held parts (by simpa [List.append_assoc] using behind _ _ along)

/-- Behind a folder that a path leads to, parts lead where they lead without following links. -/
theorem reachWithin_append {more : List String} {place : Place} {spot : Spot}
    (onward : ∀ follow, tree.reachFrom follow place more = .ok spot) {links : Nat} {parts : List String}
    {folder : Place} (reached : tree.reachWithin links folder parts = .ok (.folder place)) :
    tree.reachWithin links folder (parts ++ more) = .ok spot := by
  induction links generalizing folder parts with
  | zero => exact reachFrom_append (by simp) (onward _) reached
  | succ links ih => exact reachFrom_append (fun _ _ => ih) (onward _) reached

theorem reaches_idle {follow : Place → List String → Except FileFault Spot} {parts : List String}
    (idle : ∀ part ∈ parts, FilePath.isIdle part = true) (folder : Place) :
    tree.Reaches follow folder parts (.folder folder) := by
  induction parts with
  | nil => exact .here
  | cons part rest ih =>
    obtain ⟨first, others⟩ := List.forall_mem_cons.mp idle
    exact .idle first (ih others)

end

section
variable {tree next last : FileTree}

/-- A path that can be opened leads to a folder, from which its last part goes on. Only slashes follow that part. -/
theorem exists_of_opening {path : FilePath} {folder : Place} {name : String}
    (opened : tree.opening path = .ok (folder, name)) :
    ∃ outer blanks, path.fault? = none ∧ path.parts = outer ++ name :: blanks ∧
      (∀ part ∈ blanks, FilePath.isIdle part = true) ∧ Enters name ∧ tree.reach outer = .ok (.folder folder) := by
  unfold FileTree.opening at opened
  split at opened
  next => cases opened
  next sound =>
    split at opened
    next => cases opened
    next entry outer split =>
      split at opened
      next => cases opened
      next => cases opened
      next => cases opened
      next place reached =>
        split at opened
        next => cases opened
        next inward =>
          split at opened
          next => cases opened
          next short =>
            cases opened
            refine ⟨_, (path.parts.reverse.takeWhile (· = "")).reverse, sound, ?_, ?_, ?_, reached⟩
            · have whole := List.takeWhile_append_dropWhile (p := fun part => decide (part = ""))
                (l := path.parts.reverse)
              rw [split] at whole
              simpa using congrArg List.reverse whole.symm
            · intro part among
              have empty := List.mem_takeWhile_imp (List.mem_reverse.mp among)
              simp [FilePath.isIdle, of_decide_eq_true empty]
            · have named : name ≠ "" := by
                have first := List.head?_dropWhile_not (fun part => decide (part = "")) path.parts.reverse
                simpa [split] using first
              rw [not_or] at inward
              exact ⟨by simpa [FilePath.isIdle, named] using inward.1, inward.2, by simpa using short⟩

/-- A path to a new entry leads to a folder, once one is made there. -/
theorem spot_of_opening {path : FilePath} {folder : Place} {name : String} (grows : Grows [] tree next)
    (opened : tree.opening path = .ok (folder, name))
    (made : next.get? (folder ++ [name]) = some .folder) :
    next.spot path = .ok (.folder (folder ++ [name])) := by
  obtain ⟨outer, blanks, sound, parts, blank, enters, reached⟩ := exists_of_opening opened
  have onward (follow : Place → List String → Except FileFault Spot) :
      next.reachFrom follow folder (name :: blanks) = .ok (.folder (folder ++ [name])) :=
    (Reaches.inward enters made (reaches_idle blank _)).reached
  have around : next.reach outer = .ok (.folder folder) :=
    reachWithin_of_grows grows (get?_top tree) reached .folder
  exact spot_eq_ok_iff.mpr ⟨sound, parts ▸ reachWithin_append onward around⟩

/-- Folders are made where some paths lead. -/
structure Makes (paths : List FilePath) (tree next : FileTree) : Prop where
  grows : Grows [] tree next
  made : ∀ place, next.get? place = tree.get? place ∨
    tree.get? place = none ∧ ∃ path ∈ paths, next.spot path = .ok (.folder place)

namespace Makes
variable {paths others : List FilePath}

theorem refl (tree : FileTree) : Makes paths tree tree := ⟨.refl tree, fun _ => .inl rfl⟩

theorem mono (makes : Makes paths tree next) (listed : paths ⊆ others) : Makes others tree next := by
  refine ⟨makes.grows, fun place => (makes.made place).imp_right ?_⟩
  exact fun ⟨missing, path, among, leads⟩ => ⟨missing, path, listed among, leads⟩

theorem trans (first : Makes paths tree next) (second : Makes paths next last) : Makes paths tree last := by
  refine ⟨first.grows.trans second.grows, fun place => ?_⟩
  rcases second.made place with same | ⟨missing, path, among, leads⟩
  · rcases first.made place with before | ⟨missing, path, among, leads⟩
    · exact .inl (same.trans before)
    · exact .inr ⟨missing, path, among, spot_of_folder second.grows leads⟩
  · refine .inr ⟨?_, path, among, leads⟩
    rcases first.made place with before | ⟨earlier, _⟩
    · rw [← before, missing]
    · exact earlier

theorem of_add {path : FilePath} (added : tree.add path .folder = .ok next) : Makes [path] tree next := by
  have grows := grows_of_add added
  unfold FileTree.add at added
  split at added
  next => cases added
  next folder name opened =>
    split at added
    next absent =>
      refine ⟨grows, fun place => ?_⟩
      cases added
      by_cases here : place = folder ++ [name]
      · subst here
        by_cases allowed : tree.MayHold (folder ++ [name])
        · exact .inr ⟨absent, path, List.mem_singleton_self path,
            spot_of_opening grows opened (get?_put_self allowed .folder)⟩
        · exact .inl (by rw [put, dif_neg allowed])
      · exact .inl (get?_put_of_ne tree here .folder)
    next => cases added

end Makes

theorem makes_makeOutward (tree : FileTree) (paths : List FilePath) :
    Makes paths tree (tree.makeOutward paths).1 := by
  induction paths with
  | nil => exact .refl tree
  | cons path outer ih =>
    have here {tree next : FileTree} (added : tree.add path .folder = .ok next) :
        Makes (path :: outer) tree next := (Makes.of_add added).mono (by simp)
    unfold makeOutward
    split
    next made added => exact here added
    next =>
      have around := ih.mono (List.subset_cons_self path outer)
      split
      next made fault failed => exact failed ▸ around
      next made done =>
        rw [done] at around
        split
        next last added => exact around.trans (here added)
        next => exact around
    next => exact .refl tree

end

end FileTree

namespace Output

/-- The folders that may be made for outputs: the one that is given for them, and those around it. -/
def foldersFor (folder : Option FilePath) : List FilePath := folder.elim [] FilePath.outward

/-- What can become of a place while an input is processed. -/
inductive Fate (folder : Option FilePath) (tree : FileTree) (input : FilePath)
    (ran : Except Failure Outcome × FileTree) (place : Place) : Prop where
  | kept (same : ran.2.get? place = tree.get? place)
  | made {path} (missing : tree.get? place = none) (among : path ∈ foldersFor folder)
      (leads : ran.2.spot path = .ok (.folder place))
  | written {content} (done : ran.1 = .ok (.written (pathFor input folder))) (free : tree.MayWrite place)
      (leads : ran.2.spot (pathFor input folder) = .ok (.file place content))

section
variable {runtime : Path} {folder : Option FilePath} {check : Bool} {tree next : FileTree}
  {input output : FilePath} {code : String}

/-- What storing an output changes, whether it is stored in the end or not. -/
inductive Stores (folder : Option FilePath) (output : FilePath) (tree : FileTree) :
    Except Failure Unit × FileTree → Prop where
  | failed {failure next} (makes : FileTree.Makes (foldersFor folder) tree next) :
      Stores folder output tree (.error failure, next)
  | stored {between next place content} (makes : FileTree.Makes (foldersFor folder) tree between)
      (grows : FileTree.Grows [place] between next) (leads : next.spot output = .ok (.file place content))
      (others : ∀ other ≠ place, next.get? other = between.get? other) :
      Stores folder output tree (.ok (), next)

theorem stores_write (folder : Option FilePath) (tree : FileTree) (output : FilePath) (code : String) :
    Stores folder output tree ((write FileTree.disk output folder code).run.run tree) := by
  have here {between : FileTree} (makes : FileTree.Makes (foldersFor folder) tree between) :
      Stores folder output tree ((write FileTree.disk output none code).run.run between) := by
    rw [run_write]
    split
    next => exact .failed makes
    next written =>
      obtain ⟨place, grows, leads, others⟩ := FileTree.grows_of_write written
      exact .stored makes grows leads others
  cases folder with
  | none => exact here (.refl tree)
  | some folder =>
    have around : FileTree.Makes (foldersFor (some folder)) tree (tree.makeFolders folder).1 :=
      FileTree.makes_makeOutward tree folder.outward
    rw [run_write_into]
    split
    next made =>
      rw [made] at around
      exact .failed around
    next made =>
      rw [made] at around
      exact here around

theorem fate_of_makes (makes : FileTree.Makes (foldersFor folder) tree next)
    (result : Except Failure Outcome) (place : Place) : Fate folder tree input (result, next) place := by
  rcases makes.made place with same | ⟨missing, path, among, leads⟩
  · exact .kept same
  · exact .made missing among leads

theorem fate_run (runtime : Path) (folder : Option FilePath) (tree : FileTree) (input : FilePath)
    (place : Place) :
    Fate folder tree input ((process FileTree.disk runtime folder false input).run.run tree) place := by
  rw [run_process FileTree.readsOnly_disk]
  -- Only the ends that follow the storing of an output differ from the tree.
  split
  next => exact .kept rfl
  next =>
    split
    next => exact .kept rfl
    next => exact .kept rfl
    next code _ =>
      have stores := stores_write folder tree (pathFor input folder) code
      split
      next => exact .kept rfl
      next =>
        simp only [Bool.false_eq_true, if_false]
        split
        next ran =>
          rw [ran] at stores
          cases stores with
          | failed makes => exact fate_of_makes makes _ place
        next ran =>
          rw [ran] at stores
          cases stores with
          | @stored between _ target _ makes grows leads others =>
            by_cases here : place = target
            · subst here
              exact .written rfl (makes.grows.mayWrite (grows.free place (List.mem_singleton_self place))) leads
            · rcases makes.made place with same | ⟨missing, path, among, reached⟩
              · exact .kept ((others place here).trans same)
              · exact .made missing among (FileTree.spot_of_folder grows reached)

theorem hasNoLinks_run (linkless : tree.HasNoLinks) :
    ((process FileTree.disk runtime folder false input).run.run tree).2.HasNoLinks := by
  intro place target held
  cases fate_run runtime folder tree input place with
  | kept same => exact linkless place target (same ▸ held)
  | made _ _ leads =>
    have folder := FileTree.fits_of_spot leads
    simp [Spot.Fits, held] at folder
  | written _ _ leads =>
    have file := FileTree.fits_of_spot leads
    simp [Spot.Fits, held] at file

/-- Where neither of two trees has links, an output in one does not lie where its input lies in the other. -/
theorem spot_pathFor_ne (linkless : tree.HasNoLinks) (linklessToo : next.HasNoLinks) {place : Place}
    {content : Bytes} (reached : tree.spot input = .ok (.file place content)) (other : Bytes) :
    next.spot (pathFor input folder) ≠ .ok (.file place other) := by
  intro led
  have same := (FileTree.fileName?_of_spot linklessToo led).trans
    (FileTree.fileName?_of_spot linkless reached).symm
  exact fileName?_pathFor_ne input folder same

theorem Generates.stays (linkless : tree.HasNoLinks) (generates : Generates runtime tree input (some code))
    {result : Outcome}
    (processed : (process FileTree.disk runtime folder false input).run.run tree = (.ok result, next)) :
    Generates runtime next input (some code) := by
  obtain ⟨source, read, generated⟩ := generates
  obtain ⟨place, reached⟩ := FileTree.readText_eq_ok_iff.mp read
  obtain ⟨places, grows, ended⟩ := (processes_iff_step.mp processed).grows
  have linklessToo : next.HasNoLinks := by
    have kept : ((process FileTree.disk runtime folder false input).run.run tree).2.HasNoLinks :=
      hasNoLinks_run linkless
    rwa [processed] at kept
  have apart : place ∉ places := by
    intro among
    obtain ⟨_, other, led⟩ := ended place among
    exact spot_pathFor_ne linkless linklessToo reached other led
  have held : tree.get? place = some (.file (bytesOf source)) := FileTree.fits_of_spot reached
  have stays := FileTree.spot_of_grows grows reached (grows.kept place apart _ held)
  exact ⟨source, FileTree.readText_eq_ok_iff.mpr ⟨place, stays⟩, generated⟩

end

end Output

end Endpoints
