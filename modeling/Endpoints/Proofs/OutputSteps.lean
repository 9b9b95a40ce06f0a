import Endpoints.Output.Generate
import Endpoints.Proofs.FileGrowth

/-! What processing one input does to a tree of files. It ends in one of four ways, and only an output that
is written changes the tree. -/

namespace Endpoints

namespace Disk
variable {σ : Type} {disk : Disk (StateM σ)}

/-- Reading leaves a disk as it is. -/
def ReadsOnly (disk : Disk (StateM σ)) : Prop :=
  ∀ path state, (disk.read path state).2 = state

/-- The text that a disk in some state has at a path. -/
def textAt (disk : Disk (StateM σ)) (state : σ) (path : FilePath) : Except FileFault String :=
  (disk.readText path state).1

theorem ReadsOnly.run_readText (reads : disk.ReadsOnly) (path : FilePath) (state : σ) :
    disk.readText path state = (disk.textAt state path, state) :=
  Prod.ext rfl (reads path state)

end Disk

namespace FileTree

theorem readsOnly_disk : FileTree.disk.ReadsOnly := fun _ _ => rfl

/-- The text of the file that a path leads to. -/
def readText (tree : FileTree) (path : FilePath) : Except FileFault String :=
  match tree.read path with
  | .error fault => .error fault
  | .ok content =>
    match textOf? content with
    | some text => .ok text
    | none => .error .notText

theorem read_eq_ok_iff {tree : FileTree} {path : FilePath} {content : Bytes} :
    tree.read path = .ok content ↔ ∃ place, tree.spot path = .ok (.file place content) := by
  unfold FileTree.read
  cases tree.spot path with
  | error fault => simp
  | ok spot => cases spot <;> simp

theorem readText_eq_ok_iff {tree : FileTree} {path : FilePath} {text : String} :
    tree.readText path = .ok text ↔ ∃ place, tree.spot path = .ok (.file place (bytesOf text)) := by
  rw [← read_eq_ok_iff]
  unfold readText
  cases read : tree.read path with
  | error fault => simp
  | ok content =>
    cases spelled : textOf? content with
    | none =>
      have other : content ≠ bytesOf text := by
        rintro rfl
        simp [textOf?_bytesOf] at spelled
      simp [spelled, other]
    | some shown =>
      have same := bytesOf_of_textOf? spelled
      simp only [spelled, Except.ok.injEq]
      constructor
      · rintro rfl
        exact same.symm
      · rintro rfl
        simpa [textOf?_bytesOf] using spelled.symm

theorem textAt_disk (tree : FileTree) (path : FilePath) :
    FileTree.disk.textAt tree path = tree.readText path := rfl

theorem run_write (tree : FileTree) (path : FilePath) (content : Bytes) :
    FileTree.disk.write path content tree =
      match tree.write path content with
      | .error fault => (.error fault, tree)
      | .ok changed => (.ok (), changed) := by
  have run : FileTree.disk.write path content tree =
      (match tree.write path content with
        | .error fault => (pure (.error fault) : StateM FileTree (Except FileFault Unit))
        | .ok changed => do
          set changed
          return .ok ()) tree := rfl
  rw [run]
  cases tree.write path content <;> rfl

theorem run_makeFolders (tree : FileTree) (path : FilePath) :
    FileTree.disk.makeFolders path tree = ((tree.makeFolders path).2, (tree.makeFolders path).1) := rfl

end FileTree

namespace Output

section
variable {σ : Type}

theorem run_bind {α β : Type} (first : ExceptT Failure (StateM σ) α)
    (rest : α → ExceptT Failure (StateM σ) β) (state : σ) :
    (first >>= rest).run.run state =
      match first.run.run state with
      | (.error failure, next) => (.error failure, next)
      | (.ok result, next) => (rest result).run.run next := by
  rw [ExceptT.run_bind, StateT.run_bind]
  rcases first.run.run state with ⟨_ | _, _⟩ <;> rfl

theorem run_lift {α : Type} (action : StateM σ α) (state : σ) :
    (liftM action : ExceptT Failure (StateM σ) α).run.run state =
      (.ok (action state).1, (action state).2) := rfl

variable {disk : Disk (StateM σ)}

theorem run_write_here (output : FilePath) (code : String) (state : σ) :
    (write disk output none code).run.run state =
      match disk.write output (bytesOf code) state with
      | (.error fault, next) => (.error (.access output fault), next)
      | (.ok (), next) => (.ok (), next) := by
  unfold write
  simp only
  rw [run_bind, run_lift]
  rcases disk.write output (bytesOf code) state with ⟨_ | _, _⟩ <;> rfl

theorem run_write_below (output folder : FilePath) (code : String) (state : σ) :
    (write disk output (some folder) code).run.run state =
      match disk.makeFolders folder state with
      | (.error fault, next) => (.error (.access folder fault), next)
      | (.ok (), next) => (write disk output none code).run.run next := by
  unfold write
  simp only
  rw [run_bind, run_lift]
  rcases disk.makeFolders folder state with ⟨_ | _, _⟩ <;> rfl

theorem run_process (reads : disk.ReadsOnly) (runtime : Path)
    (folder : Option FilePath) (check : Bool) (state : σ) (input : FilePath) :
    (process disk runtime folder check input).run.run state =
      match disk.textAt state input with
      | .error fault => (.error (.access input fault), state)
      | .ok source =>
        match Builder.fileOfSource source runtime with
        | .error error => (.error (.generation error), state)
        | .ok none => (.ok .skipped, state)
        | .ok (some code) =>
          if (disk.textAt state (pathFor input folder)).toOption = some code then
            (.ok (.unchanged (pathFor input folder)), state)
          else if check then (.ok (.stale (pathFor input folder)), state)
          else
            match (write disk (pathFor input folder) folder code).run.run state with
            | (.error failure, next) => (.error failure, next)
            | (.ok (), next) => (.ok (.written (pathFor input folder)), next) := by
  unfold process
  -- Nothing of the generation of code is looked into.
  generalize Builder.fileOfSource = generate
  rw [run_bind, run_lift, reads.run_readText]
  cases disk.textAt state input with
  | error fault => rfl
  | ok source =>
    simp only
    rcases generate source runtime with error | _ | code
    · rfl
    · rfl
    · simp only
      rw [run_bind, run_lift, reads.run_readText]
      simp only
      split
      next => rfl
      next =>
        split
        next => rfl
        next =>
          rw [run_bind]
          rcases (write disk (pathFor input folder) folder code).run.run state with ⟨_ | _, _⟩ <;> rfl

end

section
variable (runtime : Path) (folder : Option FilePath)

/-- An input is processed in a tree, with an outcome and a tree after it. -/
def Processes (check : Bool) (tree : FileTree) (input : FilePath) (outcome : Outcome) (next : FileTree) :
    Prop :=
  (process FileTree.disk runtime folder check input).run.run tree = (.ok outcome, next)

/-- The code that is generated for what an input holds, if there is any. -/
def Generates (tree : FileTree) (input : FilePath) (code : Option String) : Prop :=
  ∃ source, tree.readText input = .ok source ∧ Builder.fileOfSource source runtime = .ok code

end

section
variable {runtime : Path} {folder : Option FilePath} {check : Bool} {tree next : FileTree}
  {input : FilePath} {outcome : Outcome}

/-- What can happen to an input. -/
inductive Step (runtime : Path) (folder : Option FilePath) (check : Bool) (tree : FileTree)
    (input : FilePath) : Outcome → FileTree → Prop where
  | skipped (generates : Generates runtime tree input none) :
      Step runtime folder check tree input .skipped tree
  | unchanged {code} (generates : Generates runtime tree input (some code))
      (same : tree.readText (pathFor input folder) = .ok code) :
      Step runtime folder check tree input (.unchanged (pathFor input folder)) tree
  | stale {code} (generates : Generates runtime tree input (some code))
      (differs : tree.readText (pathFor input folder) ≠ .ok code) (checked : check = true) :
      Step runtime folder check tree input (.stale (pathFor input folder)) tree
  | written {code next} (generates : Generates runtime tree input (some code))
      (differs : tree.readText (pathFor input folder) ≠ .ok code) (unchecked : check = false)
      (stored : (write FileTree.disk (pathFor input folder) folder code).run.run tree = (.ok (), next)) :
      Step runtime folder check tree input (.written (pathFor input folder)) next

theorem toOption_eq_some_iff {first : Except FileFault String} {text : String} :
    first.toOption = some text ↔ first = .ok text := by
  cases first <;> simp [Except.toOption]

theorem processes_iff_step :
    Processes runtime folder check tree input outcome next ↔
      Step runtime folder check tree input outcome next := by
  rw [Processes, run_process FileTree.readsOnly_disk, FileTree.textAt_disk, FileTree.textAt_disk]
  constructor
  · intro processed
    cases read : tree.readText input with
    | error fault =>
      rw [read] at processed
      cases processed
    | ok source =>
      cases generated : Builder.fileOfSource source runtime with
      | error error =>
        simp only [read, generated] at processed
        cases processed
      | ok code =>
        have generates : Generates runtime tree input code := ⟨source, read, generated⟩
        cases code with
        | none =>
          simp only [read, generated] at processed
          cases processed
          exact .skipped generates
        | some code =>
          simp only [read, generated] at processed
          split at processed
          next same =>
            cases processed
            exact .unchanged generates (toOption_eq_some_iff.mp same)
          next different =>
            have differs := mt toOption_eq_some_iff.mpr different
            split at processed
            next checked =>
              cases processed
              exact .stale generates differs checked
            next unchecked =>
              split at processed
              next => cases processed
              next stored =>
                cases processed
                exact .written generates differs (by simpa using unchecked) stored
  · intro step
    cases step with
    | skipped generates =>
      obtain ⟨source, read, generated⟩ := generates
      simp [read, generated]
    | unchanged generates same =>
      obtain ⟨source, read, generated⟩ := generates
      simp [read, generated, same, Except.toOption]
    | stale generates differs checked =>
      obtain ⟨source, read, generated⟩ := generates
      simp [read, generated, toOption_eq_some_iff, differs, checked]
    | written generates differs unchecked stored =>
      obtain ⟨source, read, generated⟩ := generates
      simp [read, generated, toOption_eq_some_iff, differs, unchecked, stored]

theorem run_write (tree : FileTree) (output : FilePath) (code : String) :
    (write FileTree.disk output none code).run.run tree =
      match tree.write output (bytesOf code) with
      | .error fault => (.error (.access output fault), tree)
      | .ok next => (.ok (), next) := by
  rw [run_write_here, FileTree.run_write]
  cases tree.write output (bytesOf code) <;> rfl

theorem run_write_into (tree : FileTree) (output folder : FilePath) (code : String) :
    (write FileTree.disk output (some folder) code).run.run tree =
      match tree.makeFolders folder with
      | (next, .error fault) => (.error (.access folder fault), next)
      | (next, .ok ()) => (write FileTree.disk output none code).run.run next := by
  rw [run_write_below, FileTree.run_makeFolders]
  rcases tree.makeFolders folder with ⟨next, _ | _⟩ <;> rfl

theorem grows_of_stored {output : FilePath} {code : String}
    (stored : (write FileTree.disk output folder code).run.run tree = (.ok (), next)) :
    ∃ place, FileTree.Grows [place] tree next ∧ next.spot output = .ok (.file place (bytesOf code)) := by
  have beside (tree : FileTree)
      (stored : (write FileTree.disk output none code).run.run tree = (.ok (), next)) :
      ∃ place, FileTree.Grows [place] tree next ∧
        next.spot output = .ok (.file place (bytesOf code)) := by
    rw [run_write] at stored
    split at stored
    next => cases stored
    next written =>
      cases stored
      obtain ⟨place, grows, reached, _⟩ := FileTree.grows_of_write written
      exact ⟨place, grows, reached⟩
  cases folder with
  | none => exact beside tree stored
  | some folder =>
    have around := FileTree.grows_makeFolders tree folder
    rw [run_write_into] at stored
    split at stored
    next => cases stored
    next made =>
      rw [made] at around
      obtain ⟨place, grows, reached⟩ := beside _ stored
      exact ⟨place, around.trans grows, reached⟩

theorem Generates.unique {first second : Option String} (one : Generates runtime tree input first)
    (other : Generates runtime tree input second) : first = second := by
  obtain ⟨source, read, generated⟩ := one
  obtain ⟨same, readAgain, generatedAgain⟩ := other
  obtain rfl := Except.ok.inj (read.symm.trans readAgain)
  exact Except.ok.inj (generated.symm.trans generatedAgain)

theorem Step.grows (step : Step runtime folder check tree input outcome next) :
    ∃ places, FileTree.Grows places tree next ∧ ∀ place ∈ places,
      outcome = .written (pathFor input folder) ∧
        ∃ content, next.spot (pathFor input folder) = .ok (.file place content) := by
  cases step with
  | skipped => exact ⟨[], .refl tree, by simp⟩
  | unchanged => exact ⟨[], .refl tree, by simp⟩
  | stale => exact ⟨[], .refl tree, by simp⟩
  | written _ _ _ stored =>
    obtain ⟨place, grows, reached⟩ := grows_of_stored stored
    exact ⟨[place], grows, by simpa using ⟨_, reached⟩⟩

/-- What a run does for an input that code is generated for. The place of its output holds the code then,
and all other places are kept. -/
theorem Step.lands {code : String} (step : Step runtime folder check tree input outcome next)
    (unchecked : check = false) (generates : Generates runtime tree input (some code)) :
    ∃ place, next.spot (pathFor input folder) = .ok (.file place (bytesOf code)) ∧
      ∀ other ≠ place, ∀ entry ∈ tree.get? other, next.get? other = some entry := by
  cases step with
  | skipped nothing => cases nothing.unique generates
  | unchanged own same =>
    obtain rfl := Option.some.inj (own.unique generates)
    obtain ⟨place, reached⟩ := FileTree.readText_eq_ok_iff.mp same
    exact ⟨place, reached, fun _ _ _ held => held⟩
  | stale _ _ checked => simp [unchecked] at checked
  | written own _ _ stored =>
    obtain rfl := Option.some.inj (own.unique generates)
    obtain ⟨place, grows, reached⟩ := grows_of_stored stored
    exact ⟨place, reached, fun other apart entry held => grows.kept other (by simpa using apart) _ held⟩

theorem Step.eq_of_none (step : Step runtime folder check tree input outcome next)
    (generates : Generates runtime tree input none) : next = tree := by
  cases step with
  | skipped => rfl
  | unchanged => rfl
  | stale => rfl
  | written own => cases own.unique generates

end

end Output

end Endpoints
