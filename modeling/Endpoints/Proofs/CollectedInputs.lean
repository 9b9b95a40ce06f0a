import Endpoints.Proofs.FolderWalks

/-! Which inputs are found below folders. They are known by the files that are there and by the names of these,
so neither the order of a walk nor the outputs that are written between two searches make a difference. -/

namespace Endpoints

/-- A step along a path. -/
inductive PathStep where
  | top
  | here
  | outward
  | name (text : String)
  deriving DecidableEq, Repr

namespace PathStep

def rank : PathStep → Nat
  | .top => 0
  | .here => 1
  | .outward => 2
  | .name _ => 3

/-- Names come last, and among themselves in the order of their texts. -/
instance : LT PathStep where
  lt
    | .name text, .name other => text < other
    | step, other => step.rank < other.rank

end PathStep

/-- A name leads from a folder to what is in it. -/
def FileName.IsProper (name : String) : Prop := FilePath.isIdle name = false ∧ name ≠ ".."

namespace FilePath

/-- Where a path starts, if it says so. -/
def startSteps : List String → List PathStep
  | [] => []
  | first :: rest =>
    if first = "" ∧ rest ≠ [] then [.top]
    else if first = "." then [.here]
    else []

/-- Where a part of a path leads, unless it stays in the folder that it is read in. -/
def stepOf? (part : String) : Option PathStep :=
  if isIdle part then none else if part = ".." then some .outward else some (.name part)

/-- The steps of a path. A dot is one only at the start, and a slash only where a path starts at the top. -/
def steps (path : FilePath) : List PathStep := startSteps path.parts ++ path.parts.filterMap stepOf?

theorem stepOf?_of_isProper {name : String} (proper : FileName.IsProper name) :
    stepOf? name = some (.name name) := by
  simp [stepOf?, proper.1, proper.2]

theorem startSteps_append {parts : List String} {name : String} (proper : FileName.IsProper name)
    (closed : parts.getLast? ≠ some "") : startSteps (parts ++ [name]) = startSteps parts := by
  obtain ⟨notEmpty, notDot⟩ : name ≠ "" ∧ name ≠ "." := by simpa [isIdle] using proper.1
  rcases parts with _ | ⟨first, _ | ⟨second, rest⟩⟩
  · simp [startSteps, notEmpty, notDot]
  · have named : first ≠ "" := by simpa using closed
    simp [startSteps, named]
  · simp [startSteps]

theorem startSteps_slashed {outer : List String} {name : String} (proper : FileName.IsProper name) :
    startSteps (outer ++ [name]) = startSteps (outer ++ [""]) := by
  obtain ⟨notEmpty, notDot⟩ : name ≠ "" ∧ name ≠ "." := by simpa [isIdle] using proper.1
  rcases outer with _ | ⟨first, _ | ⟨second, rest⟩⟩ <;> simp [startSteps, notEmpty, notDot]

theorem steps_join (path : FilePath) {name : String} (proper : FileName.IsProper name) :
    (path.join name).steps = path.steps ++ [.name name] := by
  unfold join
  split
  next slashed =>
    obtain ⟨outer, parts⟩ := List.getLast?_eq_some_iff.mp slashed
    have blank : stepOf? "" = none := rfl
    simp [steps, parts, startSteps_slashed proper, stepOf?_of_isProper proper, blank]
  next closed => simp [steps, startSteps_append proper closed, stepOf?_of_isProper proper]

theorem steps_joinAll {names : List String} (proper : ∀ name ∈ names, FileName.IsProper name)
    (path : FilePath) : (path.joinAll names).steps = path.steps ++ names.map PathStep.name := by
  induction names generalizing path with
  | nil => simp [joinAll]
  | cons name rest ih =>
    obtain ⟨first, others⟩ := List.forall_mem_cons.mp proper
    have shorter : path.joinAll (name :: rest) = (path.join name).joinAll rest := rfl
    simp [shorter, ih others, steps_join path first]

theorem steps_joinAll_lt (path : FilePath) {names others : List String}
    (proper : ∀ name ∈ names, FileName.IsProper name) (properToo : ∀ name ∈ others, FileName.IsProper name)
    (less : names < others) : (path.joinAll names).steps < (path.joinAll others).steps := by
  rw [steps_joinAll proper, steps_joinAll properToo]
  exact List.append_left_lt (List.map_lt (fun _ _ before => before) less)

end FilePath

namespace FileTree

/-- Every name of an entry leads to what is in a folder. -/
def HasProperNames (tree : FileTree) : Prop :=
  ∀ place, (tree.get? place).isSome → ∀ name ∈ place, FileName.IsProper name

/-- A path leads to something that is there. -/
def Leads (tree : FileTree) (path : FilePath) : Prop :=
  ∃ spot, tree.spot path = .ok spot ∧ (tree.get? spot.place).isSome

end FileTree

namespace Output

/-- Names lead from a folder to a file with the extension of inputs, which was not generated. -/
def IsInputBelow (tree : FileTree) (folder names : Place) : Prop :=
  tree.HasFile (folder ++ names) ∧ ∃ name, names.getLast? = some name ∧
    FileName.extension? name = some "rs" ∧ ¬ ending.toList <:+ name.toList

/-- The inputs that a path stands for: itself, or those below the folder that it leads to. -/
inductive StandsFor (tree : FileTree) (path : FilePath) : List FilePath → Prop where
  | itself (apart : ∀ folder, tree.spot path ≠ .ok (.folder folder)) : StandsFor tree path [path]
  | below {folder : Place} {places : List Place} (reached : tree.spot path = .ok (.folder folder))
      (exact : ∀ names, names ∈ places ↔ IsInputBelow tree folder names)
      (ascending : places.Pairwise (· < ·)) : StandsFor tree path (places.map path.joinAll)

/-- An input that an output is written for. -/
structure Job where
  runtime : Path
  folder : Option FilePath
  input : FilePath

/-- A tree after some runs, whatever becomes of each. -/
def after (tree : FileTree) : List Job → FileTree
  | [] => tree
  | job :: rest => after ((process FileTree.disk job.runtime job.folder false job.input).run.run tree).2 rest

/-! Searching for inputs. -/

theorem isInput_iff {name : String} :
    isInput name = true ↔ FileName.extension? name = some "rs" ∧ ¬ ending.toList <:+ name.toList := by
  simp [isInput, isGenerated, ← List.isSuffixOf_iff_suffix]

theorem isInputBelow_iff {tree : FileTree} {folder names : Place} :
    IsInputBelow tree folder names ↔ tree.HasFile (folder ++ names) ∧ names.getLast?.any isInput = true := by
  simp [IsInputBelow, Option.any_eq_true, isInput_iff]

section
variable {σ : Type} (disk : Disk (StateM σ)) (path : FilePath) (state : σ)

end

section
variable {tree : FileTree} {path : FilePath} {inputs paths : List FilePath} {found : List (List FilePath)}

theorem StandsFor.ascending (stands : StandsFor tree path inputs) (named : tree.HasProperNames) :
    inputs.Pairwise fun first second => first.steps < second.steps := by
  cases stands with
  | itself => exact List.pairwise_singleton _ _
  | @below folder places reached exact ascending =>
    have proper (names : Place) (among : names ∈ places) : ∀ name ∈ names, FileName.IsProper name := by
      intro name inside
      exact named _ ((exact names).mp among).1.isSome name (List.mem_append_right folder inside)
    refine List.pairwise_map.mpr (ascending.imp_of_mem fun {names others} among amongToo less => ?_)
    exact FilePath.steps_joinAll_lt path (proper names among) (proper others amongToo) less

end

/-! Writing outputs between two searches. -/

/-- What a search looks at stays: the folders, and the files that have the name of an input. -/
structure KeepsInputs (tree next : FileTree) : Prop where
  grows : ∃ places, FileTree.Grows places tree next
  inputs : ∀ place, place.getLast?.any isInput = true → (next.HasFile place ↔ tree.HasFile place)

section
variable {tree next last : FileTree} {runtime : Path} {folder : Option FilePath} {input path : FilePath}
  {inputs paths : List FilePath} {found : List (List FilePath)}

theorem KeepsInputs.refl (tree : FileTree) : KeepsInputs tree tree := ⟨⟨[], .refl tree⟩, fun _ _ => .rfl⟩

theorem KeepsInputs.trans (first : KeepsInputs tree next) (second : KeepsInputs next last) :
    KeepsInputs tree last := by
  obtain ⟨places, grows⟩ := first.grows
  obtain ⟨more, later⟩ := second.grows
  exact ⟨⟨_, grows.trans later⟩, fun place named => (second.inputs place named).trans (first.inputs place named)⟩

/-- A path that leads to something stands for the same inputs as long as these are kept. -/
theorem StandsFor.stays (stands : StandsFor tree path inputs) (keeps : KeepsInputs tree next)
    (leads : tree.Leads path) : StandsFor next path inputs := by
  obtain ⟨places, grows⟩ := keeps.grows
  cases stands with
  | itself apart =>
    obtain ⟨spot, reached, there⟩ := leads
    cases spot with
    | folder folder => exact absurd reached (apart folder)
    | vacant place =>
      have absent := FileTree.fits_of_spot reached
      simp [Spot.place, absent.2] at there
    | file place content =>
      obtain ⟨after, stays⟩ := spot_kept grows reached
      exact .itself fun folder other => by simp [stays] at other
  | below reached exact ascending =>
    refine .below (FileTree.spot_of_folder grows reached) (fun names => ?_) ascending
    rw [exact, isInputBelow_iff, isInputBelow_iff, and_congr_left_iff]
    intro named
    refine (keeps.inputs _ ?_).symm
    rcases names.eq_nil_or_concat with rfl | ⟨outer, name, rfl⟩
    · simp at named
    · simpa [← List.append_assoc] using named

end

section
variable {first second code : String}

end

end Output

end Endpoints
