import Endpoints.File.Access

/-! How a tree of files changes while outputs are written. Folders and links stay, files are written over,
and what was vacant is filled. So a path that leads to a file goes on leading to that file. -/

namespace Endpoints

def Spot.place : Spot → Place
  | .folder place | .file place _ | .vacant place => place

/-- What a spot says of its place is true of a tree. -/
def Spot.Fits (tree : FileTree) : Spot → Prop
  | .folder place => tree.get? place = some .folder
  | .file place content => tree.get? place = some (.file content)
  | .vacant place => tree.MayHold place ∧ tree.get? place = none

namespace FileTree

@[simp] theorem get?_top (tree : FileTree) : tree.get? [] = some .folder := by simp [get?]

theorem get?_dropLast {tree : FileTree} {place : Place} {entry : Entry}
    (present : tree.get? place = some entry) : tree.get? place.dropLast = some .folder := by
  by_cases top : place = []
  · simp [top]
  · rcases (tree.rooted _ ((get?_eq_some_iff top).1 present)).2 with outermost | held
    · simp only at outermost
      simp [outermost]
    · by_cases outermost : place.dropLast = []
      · simp [outermost]
      · exact (get?_eq_some_iff outermost).2 held

theorem mayHold_of_file {tree : FileTree} {place : Place} {content : Bytes}
    (held : tree.get? place = some (.file content)) : tree.MayHold place := by
  refine ⟨?_, get?_dropLast held, by simp [held]⟩
  rintro rfl
  simp at held

/-- What is not a folder or a link can be written to. -/
def MayWrite (tree : FileTree) (place : Place) : Prop :=
  ∀ entry ∈ tree.get? place, ∃ content, entry = .file content

/-- A tree in which some places were written to and others were filled with folders. -/
structure Grows (places : List Place) (tree next : FileTree) : Prop where
  free : ∀ place ∈ places, tree.MayWrite place
  kept : ∀ place ∉ places, ∀ entry ∈ tree.get? place, next.get? place = some entry
  written : ∀ place ∈ places, ∃ content, next.get? place = some (.file content)

namespace Grows
variable {tree next last : FileTree} {places more : List Place}

theorem refl (tree : FileTree) : Grows [] tree tree := ⟨by simp, fun _ _ _ found => found, by simp⟩

theorem folder (grows : Grows places tree next) {place : Place} (held : tree.get? place = some .folder) :
    next.get? place = some .folder := by
  refine grows.kept place (fun among => ?_) _ held
  obtain ⟨_, same⟩ := grows.free place among _ held
  cases same

theorem link (grows : Grows places tree next) {place : Place} {target : FilePath}
    (held : tree.get? place = some (.link target)) : next.get? place = some (.link target) := by
  refine grows.kept place (fun among => ?_) _ held
  obtain ⟨_, same⟩ := grows.free place among _ held
  cases same

theorem file (grows : Grows places tree next) {place : Place} {content : Bytes}
    (held : tree.get? place = some (.file content)) : ∃ content, next.get? place = some (.file content) := by
  by_cases among : place ∈ places
  · exact grows.written place among
  · exact ⟨content, grows.kept place among _ held⟩

theorem mayWrite (grows : Grows places tree next) {place : Place} (free : next.MayWrite place) :
    tree.MayWrite place := by
  intro entry held
  cases entry with
  | file content => exact ⟨content, rfl⟩
  | folder =>
    obtain ⟨_, same⟩ := free _ (grows.folder held)
    cases same
  | link target =>
    obtain ⟨_, same⟩ := free _ (grows.link held)
    cases same

theorem trans (first : Grows places tree next) (second : Grows more next last) :
    Grows (places ++ more) tree last := by
  refine ⟨fun place among => ?_, fun place apart entry held => ?_, fun place among => ?_⟩
  · rcases List.mem_append.mp among with early | late
    · exact first.free place early
    · exact first.mayWrite (second.free place late)
  · simp only [List.mem_append, not_or] at apart
    exact second.kept place apart.2 _ (first.kept place apart.1 _ held)
  · by_cases late : place ∈ more
    · exact second.written place late
    · have early : place ∈ places := (List.mem_append.mp among).resolve_right late
      obtain ⟨content, held⟩ := first.written place early
      exact ⟨content, second.kept place late _ held⟩

theorem put_file {place : Place} (allowed : tree.MayHold place) (free : tree.MayWrite place)
    (content : Bytes) : Grows [place] tree (tree.put place (.file content)) := by
  refine ⟨by simpa using free, fun other apart entry held => ?_, ?_⟩
  · rw [get?_put_of_ne tree (by simpa using apart), held]
  · simpa using ⟨content, get?_put_self allowed (.file content)⟩

theorem put_folder {place : Place} (absent : tree.get? place = none) :
    Grows [] tree (tree.put place .folder) := by
  refine ⟨by simp, fun other _ entry held => ?_, by simp⟩
  have differs : other ≠ place := by
    rintro rfl
    simp [absent] at held
  rw [get?_put_of_ne tree differs, held]

end Grows

theorem spot_eq_ok_iff {tree : FileTree} {path : FilePath} {spot : Spot} :
    tree.spot path = .ok spot ↔ path.fault? = none ∧ tree.reach path.parts = .ok spot := by
  unfold FileTree.spot
  cases path.fault? <;> simp

/-- A part that names something in the folder that it is read in. -/
structure Enters (part : String) : Prop where
  named : FilePath.isIdle part = false
  inward : part ≠ ".."
  short : FileName.isTooLong part = false

/-- Parts that lead from a folder to a spot. Where they lead behind a link is up to `follow`. -/
inductive Reaches (tree : FileTree) (follow : Place → List String → Except FileFault Spot) :
    Place → List String → Spot → Prop where
  | here {folder} : Reaches tree follow folder [] (.folder folder)
  | idle {folder part rest spot} (stays : FilePath.isIdle part = true) (onward : Reaches tree follow folder rest spot) :
      Reaches tree follow folder (part :: rest) spot
  | outward {folder rest spot} (onward : Reaches tree follow folder.dropLast rest spot) :
      Reaches tree follow folder (".." :: rest) spot
  | inward {folder part rest spot} (enters : Enters part) (held : tree.get? (folder ++ [part]) = some .folder)
      (onward : Reaches tree follow (folder ++ [part]) rest spot) : Reaches tree follow folder (part :: rest) spot
  | file {folder part content} (enters : Enters part) (held : tree.get? (folder ++ [part]) = some (.file content)) :
      Reaches tree follow folder [part] (.file (folder ++ [part]) content)
  | vacant {folder part} (enters : Enters part) (absent : tree.get? (folder ++ [part]) = none) :
      Reaches tree follow folder [part] (.vacant (folder ++ [part]))
  | linkFromTop {folder part rest spot target below} (enters : Enters part)
      (held : tree.get? (folder ++ [part]) = some (.link target)) (parts : target.parts = "" :: below)
      (behind : follow [] (below ++ rest) = .ok spot) : Reaches tree follow folder (part :: rest) spot
  | linkFromHere {folder part rest spot target} (enters : Enters part)
      (held : tree.get? (folder ++ [part]) = some (.link target)) (parts : ∀ below, target.parts ≠ "" :: below)
      (behind : follow folder (target.parts ++ rest) = .ok spot) : Reaches tree follow folder (part :: rest) spot

section
variable {tree : FileTree} {follow : Place → List String → Except FileFault Spot} {parts : List String}
  {folder : Place} {spot : Spot}

theorem reaches_of_reachFrom (reached : tree.reachFrom follow folder parts = .ok spot) :
    tree.Reaches follow folder parts spot := by
  induction parts generalizing folder with
  | nil =>
    cases reached
    exact .here
  | cons part rest ih =>
    unfold reachFrom at reached
    split at reached
    next stays => exact .idle stays (ih reached)
    next named =>
      split at reached
      next outward =>
        subst outward
        exact .outward (ih reached)
      next inward =>
        split at reached
        next => cases reached
        next short =>
          have enters : Enters part := ⟨by simpa using named, inward, by simpa using short⟩
          simp only at reached
          split at reached
          next held => exact .inward enters held (ih reached)
          next content held =>
            split at reached
            next last =>
              cases reached
              subst last
              exact .file enters held
            next => cases reached
          next target held =>
            split at reached
            next below parts => exact .linkFromTop enters held parts reached
            next parts => exact .linkFromHere enters held parts reached
          next absent =>
            split at reached
            next last =>
              cases reached
              subst last
              exact .vacant enters absent
            next => cases reached

theorem Reaches.reached (reaches : tree.Reaches follow folder parts spot) :
    tree.reachFrom follow folder parts = .ok spot := by
  induction reaches with
  | here => rfl
  | idle stays _ ih => simpa [reachFrom, stays] using ih
  | outward _ ih => simpa [reachFrom, FilePath.isIdle] using ih
  | inward enters held _ ih => simpa [reachFrom, enters.named, enters.inward, enters.short, held] using ih
  | file enters held => simp [reachFrom, enters.named, enters.inward, enters.short, held]
  | vacant enters absent => simp [reachFrom, enters.named, enters.inward, enters.short, absent]
  | linkFromTop enters held parts behind =>
    simpa [reachFrom, enters.named, enters.inward, enters.short, held, parts] using behind
  | linkFromHere enters held parts behind =>
    simpa [reachFrom, enters.named, enters.inward, enters.short, held, parts] using behind

theorem fits_of_reachFrom
    (behind : ∀ folder parts spot, tree.get? folder = some .folder → follow folder parts = .ok spot →
      spot.Fits tree)
    (inside : tree.get? folder = some .folder) (reached : tree.reachFrom follow folder parts = .ok spot) :
    spot.Fits tree := by
  have reaches := reaches_of_reachFrom reached
  clear reached
  induction reaches with
  | here => exact inside
  | idle _ _ ih => exact ih inside
  | outward _ ih => exact ih (get?_dropLast inside)
  | inward _ held _ ih => exact ih held
  | file _ held => exact held
  | vacant _ absent => exact ⟨⟨by simp, by simpa using inside, by simp [absent]⟩, absent⟩
  | linkFromTop _ _ _ along => exact behind _ _ _ (get?_top tree) along
  | linkFromHere _ _ _ along => exact behind _ _ _ inside along

theorem fits_of_reachWithin {links : Nat} {parts : List String} {folder : Place} {spot : Spot}
    (inside : tree.get? folder = some .folder)
    (reached : tree.reachWithin links folder parts = .ok spot) : spot.Fits tree := by
  induction links generalizing folder parts spot with
  | zero => exact fits_of_reachFrom (by simp) inside reached
  | succ links ih => exact fits_of_reachFrom (fun _ _ _ inside => ih inside) inside reached

theorem fits_of_spot {path : FilePath} {spot : Spot} (reached : tree.spot path = .ok spot) :
    spot.Fits tree :=
  fits_of_reachWithin (get?_top tree) (spot_eq_ok_iff.mp reached).2

end

section
variable {tree next : FileTree} {places : List Place}

/-- What a spot is after a change: a folder stays one, and of the rest a file is told that is there then. -/
inductive Becomes (next : FileTree) : Spot → Spot → Prop where
  | folder {place} : Becomes next (.folder place) (.folder place)
  | file {spot content} (held : next.get? spot.place = some (.file content)) :
      Becomes next spot (.file spot.place content)

variable (grows : Grows places tree next)
include grows

theorem reachFrom_of_grows {follow later : Place → List String → Except FileFault Spot}
    (behind : ∀ folder parts spot after, tree.get? folder = some .folder →
      follow folder parts = .ok spot → Becomes next spot after → later folder parts = .ok after)
    {parts : List String} {folder : Place} {spot after : Spot}
    (inside : tree.get? folder = some .folder)
    (reached : tree.reachFrom follow folder parts = .ok spot) (becomes : Becomes next spot after) :
    next.reachFrom later folder parts = .ok after := by
  refine Reaches.reached ?_
  have reaches := reaches_of_reachFrom reached
  clear reached
  induction reaches with
  | here =>
    cases becomes with
    | folder => exact .here
    | file held => simp [Spot.place, grows.folder inside] at held
  | idle stays _ ih => exact .idle stays (ih inside becomes)
  | outward _ ih => exact .outward (ih (get?_dropLast inside) becomes)
  | inward enters held _ ih => exact .inward enters (grows.folder held) (ih held becomes)
  | file enters held | vacant enters held =>
    cases becomes with
    | file found => exact .file enters found
  | linkFromTop enters held parts along =>
    exact .linkFromTop enters (grows.link held) parts (behind _ _ _ _ (get?_top tree) along becomes)
  | linkFromHere enters held parts along =>
    exact .linkFromHere enters (grows.link held) parts (behind _ _ _ _ inside along becomes)

theorem reachWithin_of_grows {links : Nat} {parts : List String} {folder : Place} {spot after : Spot}
    (inside : tree.get? folder = some .folder)
    (reached : tree.reachWithin links folder parts = .ok spot) (becomes : Becomes next spot after) :
    next.reachWithin links folder parts = .ok after := by
  induction links generalizing folder parts spot after with
  | zero => exact reachFrom_of_grows grows (by simp) inside reached becomes
  | succ links ih => exact reachFrom_of_grows grows (fun _ _ _ _ => ih) inside reached becomes

theorem spot_of_becomes {path : FilePath} {spot after : Spot} (reached : tree.spot path = .ok spot)
    (becomes : Becomes next spot after) : next.spot path = .ok after := by
  obtain ⟨sound, reached⟩ := spot_eq_ok_iff.mp reached
  exact spot_eq_ok_iff.mpr ⟨sound, reachWithin_of_grows grows (get?_top tree) reached becomes⟩

theorem spot_of_grows {path : FilePath} {spot : Spot} {content : Bytes} (reached : tree.spot path = .ok spot)
    (found : next.get? spot.place = some (.file content)) :
    next.spot path = .ok (.file spot.place content) :=
  spot_of_becomes grows reached (.file found)

theorem spot_of_folder {path : FilePath} {place : Place} (reached : tree.spot path = .ok (.folder place)) :
    next.spot path = .ok (.folder place) :=
  spot_of_becomes grows reached .folder

end

/-! What is written can be read where it was written. -/

section
variable {tree next : FileTree}

theorem grows_of_write {path : FilePath} {content : Bytes} (written : tree.write path content = .ok next) :
    ∃ place, Grows [place] tree next ∧ next.spot path = .ok (.file place content) ∧
      ∀ other ≠ place, next.get? other = tree.get? other := by
  have puts (spot : Spot) (reached : tree.spot path = .ok spot) (allowed : tree.MayHold spot.place)
      (free : tree.MayWrite spot.place) (same : tree.put spot.place (.file content) = next) :
      ∃ place, Grows [place] tree next ∧ next.spot path = .ok (.file place content) ∧
        ∀ other ≠ place, next.get? other = tree.get? other := by
    have grows := same ▸ Grows.put_file allowed free content
    have held := same ▸ get?_put_self allowed (.file content)
    exact ⟨spot.place, grows, spot_of_grows grows reached held,
      fun other differs => same ▸ get?_put_of_ne tree differs _⟩
  unfold FileTree.write at written
  split at written
  next => cases written
  next => cases written
  next place reached =>
    obtain ⟨allowed, absent⟩ : Spot.Fits tree (.vacant place) := fits_of_spot reached
    exact puts _ reached allowed (by simp [MayWrite, Spot.place, absent]) (Except.ok.inj written)
  next place old reached =>
    have held : tree.get? place = some (.file old) := fits_of_spot reached
    exact puts _ reached (mayHold_of_file held) (by simp [MayWrite, Spot.place, held])
      (Except.ok.inj written)

theorem grows_of_add {path : FilePath} (added : tree.add path .folder = .ok next) : Grows [] tree next := by
  unfold FileTree.add at added
  split at added
  next => cases added
  next =>
    split at added
    next absent => exact Except.ok.inj added ▸ .put_folder absent
    next => cases added

theorem grows_makeOutward (tree : FileTree) (paths : List FilePath) :
    Grows [] tree (tree.makeOutward paths).1 := by
  induction paths with
  | nil => exact .refl tree
  | cons path outer ih =>
    unfold makeOutward
    split
    next made added => exact grows_of_add added
    next =>
      split
      next made fault failed => exact failed ▸ ih
      next made done =>
        have around : Grows [] tree made := by simpa [done] using ih
        split
        next last added => exact around.trans (grows_of_add added)
        next => exact around
    next => exact .refl tree

theorem grows_makeFolders (tree : FileTree) (path : FilePath) : Grows [] tree (tree.makeFolders path).1 :=
  grows_makeOutward tree path.outward

end

end FileTree

end Endpoints
