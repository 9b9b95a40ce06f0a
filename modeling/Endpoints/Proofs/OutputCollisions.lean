import Endpoints.Proofs.Checks
import Endpoints.Proofs.OutputSteps

/-! When the outputs of a run are up to date at its end. A run writes the outputs of its inputs one after
another, and two inputs may have their outputs at one place, where only the last one stays. -/

namespace Endpoints.Output

section
variable (runtime : Path) (folder : Option FilePath)

/-- What was done for an input: the code that was generated for it, if any, and what became of it. -/
structure Work where
  input : FilePath
  code : Option String
  outcome : Outcome

/-- Inputs are processed one after another. -/
inductive Pass (check : Bool) : FileTree → List Work → FileTree → Prop where
  | nil {tree} : Pass check tree [] tree
  | cons {tree next last work rest} (generates : Generates runtime tree work.input work.code)
      (first : Processes runtime folder check tree work.input work.outcome next)
      (others : Pass check next rest last) : Pass check tree (work :: rest) last

end

section
variable (folder : Option FilePath) (tree : FileTree)

def LiesAt (place : Place) (input : FilePath) : Prop :=
  ∃ content, tree.spot (pathFor input folder) = .ok (.file place content)

def Work.codeAt? (place : Place) (work : Work) : Option String :=
  match tree.spot (pathFor work.input folder) with
  | .ok (.file there _) => if there = place then work.code else none
  | _ => none

/-- What was generated last for a place. -/
def lastCode? (works : List Work) (place : Place) : Option String :=
  (works.filterMap (Work.codeAt? folder tree place)).getLast?

/-- What was generated last for the place of an output. -/
def Work.shown? (works : List Work) (work : Work) : Option String :=
  match tree.spot (pathFor work.input folder) with
  | .ok (.file place _) => lastCode? folder tree works place
  | _ => none

/-- What a check says of an input after a run. Its output is stale if another input has the same place for
its output, later in the run and with other code. -/
def Work.checked (works : List Work) (work : Work) : Outcome :=
  match work.code with
  | none => .skipped
  | some code =>
    if work.shown? folder tree works = some code then .unchanged (pathFor work.input folder)
    else .stale (pathFor work.input folder)

/-- Wherever the outputs of two inputs lie at one place, the same code was generated for both. -/
def Agree (works : List Work) : Prop :=
  ∀ first ∈ works, ∀ second ∈ works, ∀ place, LiesAt folder tree place first.input →
    LiesAt folder tree place second.input → ∀ one ∈ first.code, ∀ other ∈ second.code, one = other

/-- No output was written where an input is. -/
def Spares (works : List Work) (input : FilePath) : Prop :=
  ∀ work ∈ works, work.outcome = .written (pathFor work.input folder) →
    ∀ place content, tree.spot input = .ok (.file place content) → ¬ LiesAt folder tree place work.input

end

section
variable {runtime : Path} {folder : Option FilePath} {tree next last : FileTree} {works : List Work}

theorem spot_kept {places : List Place} (grows : FileTree.Grows places next last) {path : FilePath}
    {place : Place} {content : Bytes} (reached : next.spot path = .ok (.file place content)) :
    ∃ content, last.spot path = .ok (.file place content) := by
  have held : next.get? place = some (.file content) := FileTree.fits_of_spot reached
  obtain ⟨after, stays⟩ := grows.file held
  exact ⟨after, FileTree.spot_of_grows grows reached stays⟩

/-- The places that a run writes to are those of outputs that it wrote. -/
theorem Pass.grows (pass : Pass runtime folder false tree works last) :
    ∃ places, FileTree.Grows places tree last ∧ ∀ place ∈ places, ∃ work ∈ works,
      work.outcome = .written (pathFor work.input folder) ∧ LiesAt folder last place work.input := by
  induction pass with
  | nil => exact ⟨[], .refl _, by simp⟩
  | @cons tree next last work rest _ first others ih =>
    obtain ⟨places, grows, own⟩ := (processes_iff_step.mp first).grows
    obtain ⟨more, later, among⟩ := ih
    refine ⟨places ++ more, grows.trans later, fun place member => ?_⟩
    rcases List.mem_append.mp member with early | late
    · obtain ⟨written, content, reached⟩ := own place early
      exact ⟨work, List.mem_cons_self, written, spot_kept later reached⟩
    · obtain ⟨other, member, found⟩ := among place late
      exact ⟨other, List.mem_cons_of_mem _ member, found⟩

theorem Pass.readText_of_spares (pass : Pass runtime folder false tree works last) {input : FilePath}
    (spared : Spares folder last works input) {source : String} (read : tree.readText input = .ok source) :
    last.readText input = .ok source := by
  obtain ⟨places, grows, among⟩ := pass.grows
  obtain ⟨place, reached⟩ := FileTree.readText_eq_ok_iff.mp read
  have held : tree.get? place = some (.file (bytesOf source)) := FileTree.fits_of_spot reached
  have apart : place ∉ places := by
    intro member
    obtain ⟨work, taken, written, lies⟩ := among place member
    obtain ⟨after, stays⟩ := spot_kept grows reached
    exact spared work taken written place after stays lies
  exact FileTree.readText_eq_ok_iff.mpr
    ⟨place, FileTree.spot_of_grows grows reached (grows.kept place apart _ held)⟩

theorem Work.codeAt?_of_spot {work : Work} {place : Place} {content : Bytes}
    (reached : tree.spot (pathFor work.input folder) = .ok (.file place content)) (other : Place) :
    work.codeAt? folder tree other = if place = other then work.code else none := by
  simp [codeAt?, reached]

theorem lastCode?_cons (work : Work) (place : Place) :
    lastCode? folder tree (work :: works) place =
      (lastCode? folder tree works place).or (work.codeAt? folder tree place) := by
  unfold lastCode?
  cases found : work.codeAt? folder tree place with
  | none => simp [found]
  | some code =>
    rw [List.filterMap_cons_some found, List.getLast?_cons]
    cases List.getLast? _ <;> rfl

/-- What is in a file after a run: what was generated last for its place, or else what was there before. -/
theorem Pass.get?_of_file (pass : Pass runtime folder false tree works last) {place : Place}
    {content : Bytes} (held : tree.get? place = some (.file content)) :
    last.get? place = some (.file (((lastCode? folder last works place).map bytesOf).getD content)) := by
  -- What the rest of the run makes of a file is known for whatever the first step left in it.
  induction pass generalizing content with
  | nil => simpa [lastCode?] using held
  | @cons tree next last work rest generates first others ih =>
    have step := processes_iff_step.mp first
    rw [lastCode?_cons]
    cases made : work.code with
    | none =>
      obtain rfl := step.eq_of_none (made ▸ generates)
      have nothing : work.codeAt? folder last place = none := by
        unfold Work.codeAt?
        split <;> simp [made]
      simpa [nothing] using ih held
    | some code =>
      obtain ⟨output, reached, kept⟩ := step.lands rfl (made ▸ generates)
      obtain ⟨_, later, _⟩ := others.grows
      obtain ⟨after, stays⟩ := spot_kept later reached
      rw [Work.codeAt?_of_spot stays, made]
      by_cases same : place = output
      · subst same
        have written : next.get? place = some (.file (bytesOf code)) := FileTree.fits_of_spot reached
        rw [ih written, if_pos rfl]
        cases lastCode? folder last rest place <;> rfl
      · rw [ih (kept place same _ held), if_neg (Ne.symm same), Option.or_none]

/-- At the end the output of an input holds what was generated last for its place. -/
theorem Pass.landed (pass : Pass runtime folder false tree works last) :
    ∀ work ∈ works, work.code.isSome → ∃ place shown, lastCode? folder last works place = some shown ∧
      last.spot (pathFor work.input folder) = .ok (.file place (bytesOf shown)) := by
  induction pass with
  | nil => simp
  | @cons tree next last work rest generates first others ih =>
    refine List.forall_mem_cons.mpr ⟨fun present => ?_, fun other member present => ?_⟩
    · obtain ⟨code, made⟩ := Option.isSome_iff_exists.mp present
      obtain ⟨place, reached, _⟩ := (processes_iff_step.mp first).lands rfl (made ▸ generates)
      have held : next.get? place = some (.file (bytesOf code)) := FileTree.fits_of_spot reached
      have stays : last.get? place =
          some (.file (bytesOf ((lastCode? folder last rest place).getD code))) := by
        rw [others.get?_of_file held, Option.getD_map]
      obtain ⟨_, later, _⟩ := others.grows
      have lies : last.spot (pathFor work.input folder) = .ok (.file place _) :=
        FileTree.spot_of_grows later reached stays
      refine ⟨place, _, ?_, lies⟩
      rw [lastCode?_cons, Work.codeAt?_of_spot lies, if_pos rfl, made]
      cases lastCode? folder last rest place <;> rfl
    · obtain ⟨place, shown, made, reached⟩ := ih other member present
      exact ⟨place, shown, by rw [lastCode?_cons, made, Option.some_or], reached⟩

theorem Pass.generates_of_spares (pass : Pass runtime folder false tree works last) :
    ∀ work ∈ works, Spares folder last works work.input → Generates runtime last work.input work.code := by
  induction pass with
  | nil => simp
  | @cons tree next last work rest generates first others ih =>
    refine List.forall_mem_cons.mpr ⟨fun spared => ?_, fun other member spared => ?_⟩
    · obtain ⟨source, read, generated⟩ := generates
      have whole : Pass runtime folder false tree (work :: rest) last :=
        .cons ⟨source, read, generated⟩ first others
      exact ⟨source, whole.readText_of_spares spared read, generated⟩
    · exact ih other member fun writer among => spared writer (List.mem_cons_of_mem _ among)

theorem Pass.isSome_of_written (pass : Pass runtime folder false tree works last) :
    ∀ work ∈ works, work.outcome = .written (pathFor work.input folder) → work.code.isSome := by
  induction pass with
  | nil => simp
  | cons generates first _ ih =>
    refine List.forall_mem_cons.mpr ⟨fun written => ?_, ih⟩
    rw [written] at first
    cases processes_iff_step.mp first with
    | written own => simp [generates.unique own]

/-- An input that was written over holds what was generated last for its place. -/
theorem Pass.holds_of_not_spares (pass : Pass runtime folder false tree works last) {input : FilePath}
    (hit : ¬ Spares folder last works input) :
    ∃ place code, lastCode? folder last works place = some code ∧
      last.spot input = .ok (.file place (bytesOf code)) := by
  simp only [Spares, Classical.not_forall, Classical.not_not] at hit
  obtain ⟨work, member, written, place, content, reached, _, lies⟩ := hit
  obtain ⟨there, code, made, landed⟩ := pass.landed work member (pass.isSome_of_written work member written)
  obtain ⟨rfl, -⟩ : place = there ∧ _ := by simpa [lies] using landed
  have held : last.get? place = some (.file content) := FileTree.fits_of_spot reached
  have shown : last.get? place = some (.file (bytesOf code)) := FileTree.fits_of_spot landed
  obtain rfl : content = bytesOf code := by simpa [held] using shown
  exact ⟨place, code, made, reached⟩

theorem Work.shown?_of_spot {work : Work} {place : Place} {content : Bytes}
    (reached : tree.spot (pathFor work.input folder) = .ok (.file place content)) :
    work.shown? folder tree works = lastCode? folder tree works place := by
  simp [shown?, reached]

theorem Pass.readText_eq_ok_iff (pass : Pass runtime folder false tree works last) {work : Work}
    (member : work ∈ works) (present : work.code.isSome) (code : String) :
    last.readText (pathFor work.input folder) = .ok code ↔ work.shown? folder last works = some code := by
  obtain ⟨place, shown, made, reached⟩ := pass.landed work member present
  have read := FileTree.readText_eq_ok_iff.mpr ⟨place, reached⟩
  rw [Work.shown?_of_spot reached, made, read, Except.ok.injEq, Option.some.injEq]

theorem Pass.step_of_check (pass : Pass runtime folder false tree works last) {work : Work}
    (member : work ∈ works) (generates : Generates runtime last work.input work.code) :
    Step runtime folder true last work.input (work.checked folder last works) last := by
  unfold Work.checked
  split
  next nothing => exact .skipped (nothing ▸ generates)
  next code made =>
    have held := pass.readText_eq_ok_iff member (by simp [made]) code
    split
    next same => exact .unchanged (made ▸ generates) (held.mpr same)
    next differs => exact .stale (made ▸ generates) (mt held.mp differs) rfl

theorem pass_of_checks {checks : List Work}
    (each : ∀ work ∈ checks, Generates runtime tree work.input work.code ∧
      Step runtime folder true tree work.input work.outcome tree) :
    Pass runtime folder true tree checks tree := by
  induction checks with
  | nil => exact .nil
  | cons work rest ih =>
    obtain ⟨⟨generates, step⟩, others⟩ := List.forall_mem_cons.mp each
    exact .cons generates (processes_iff_step.mpr step) (ih others)

theorem Work.checked_ne_stale_iff {work : Work} :
    (∀ output, work.checked folder tree works ≠ .stale output) ↔
      ∀ code ∈ work.code, work.shown? folder tree works = some code := by
  unfold Work.checked
  split
  next nothing => simp [nothing]
  next code made => split <;> simp_all

theorem Work.code_of_codeAt? {work : Work} {place : Place} {code : String}
    (made : work.codeAt? folder tree place = some code) :
    LiesAt folder tree place work.input ∧ work.code = some code := by
  unfold codeAt? at made
  split at made
  next there content reached =>
    split at made
    next same => exact ⟨⟨content, same ▸ reached⟩, made⟩
    next => cases made
  next => cases made

theorem Pass.fresh_iff_agree (pass : Pass runtime folder false tree works last) :
    (∀ work ∈ works, ∀ output, work.checked folder last works ≠ .stale output) ↔
      Agree folder last works := by
  simp only [Work.checked_ne_stale_iff]
  constructor
  · intro fresh first among second amongToo place ⟨_, lies⟩ ⟨_, liesToo⟩ one made other madeToo
    have shown := fresh first among one made
    have shownToo := fresh second amongToo other madeToo
    rw [Work.shown?_of_spot lies] at shown
    rw [Work.shown?_of_spot liesToo, shown] at shownToo
    exact Option.some.inj shownToo
  · intro agree work member code made
    have present : work.code.isSome := Option.isSome_of_mem made
    obtain ⟨place, shown, latest, reached⟩ := pass.landed work member present
    obtain ⟨other, among, madeToo⟩ := List.mem_filterMap.mp (List.mem_of_getLast? latest)
    obtain ⟨lies, same⟩ := Work.code_of_codeAt? madeToo
    have alike : code = shown := agree work member other among place ⟨_, reached⟩ lies code made shown same
    rw [Work.shown?_of_spot reached, latest, alike]

/-- What a check says after a run. The output of an input holds the code that was generated last for its
place. An input that was not written over is checked against that code, and one that was written over holds
such code itself. So if no input was written over, then no output is stale exactly when the same code was
generated wherever two outputs lie at one place. -/
theorem check_after_run (runtime : Path) (folder : Option FilePath) (tree last : FileTree)
    (works : List Work) (pass : Pass runtime folder false tree works last) :
    (∀ work ∈ works, work.code.isSome → ∃ place shown, lastCode? folder last works place = some shown ∧
      last.spot (pathFor work.input folder) = .ok (.file place (bytesOf shown))) ∧
    (∀ work ∈ works, Spares folder last works work.input →
      Processes runtime folder true last work.input (work.checked folder last works) last) ∧
    (∀ work ∈ works, ¬ Spares folder last works work.input →
      ∃ place code, lastCode? folder last works place = some code ∧
        last.spot work.input = .ok (.file place (bytesOf code))) ∧
    ((∀ work ∈ works, Spares folder last works work.input) →
      Pass runtime folder true last
        (works.map fun work => { work with outcome := work.checked folder last works }) last ∧
      ((∀ work ∈ works, ∀ output, work.checked folder last works ≠ .stale output) ↔
        Agree folder last works)) := by
  have checks (work : Work) (member : work ∈ works) (spared : Spares folder last works work.input) :
      Generates runtime last work.input work.code ∧
        Step runtime folder true last work.input (work.checked folder last works) last := by
    have generates := pass.generates_of_spares work member spared
    exact ⟨generates, pass.step_of_check member generates⟩
  refine ⟨pass.landed, fun work member spared => processes_iff_step.mpr (checks work member spared).2,
    fun work _ hit => pass.holds_of_not_spares hit, fun spared => ⟨?_, pass.fresh_iff_agree⟩⟩
  refine pass_of_checks fun check among => ?_
  obtain ⟨work, member, rfl⟩ := List.mem_map.mp among
  exact checks work member (spared work member)

end

/-! Two files of one name, in folders of their own, have one output in a folder that is given. -/

section
variable (first second code : String)

def twoModules : FileTree where
  entries := [(["a"], .folder), (["a", "mod.rs"], .file (bytesOf first)), (["b"], .folder),
    (["b", "mod.rs"], .file (bytesOf second))]
  distinct := by simp
  rooted := by simp

/-- The two files, and an output for one of them. -/
def twoModulesWith : FileTree where
  entries := (twoModules first second).entries ++
    [(["gen"], .folder), (["gen", "mod_restgen.rs"], .file (bytesOf code))]
  distinct := by simp [twoModules]
  rooted := by simp [twoModules]

def moduleOf (folder : String) : FilePath := ⟨[folder, "mod.rs"]⟩

def outputFolder : FilePath := ⟨["gen"]⟩

def sharedOutput : FilePath := ⟨["gen", "mod_restgen.rs"]⟩

theorem readText_first : (twoModulesWith first second code).readText (moduleOf "a") = .ok first :=
  FileTree.readText_eq_ok_iff.mpr ⟨["a", "mod.rs"], rfl⟩

theorem readText_second : (twoModulesWith first second code).readText (moduleOf "b") = .ok second :=
  FileTree.readText_eq_ok_iff.mpr ⟨["b", "mod.rs"], rfl⟩

theorem readText_sharedOutput : (twoModulesWith first second code).readText sharedOutput = .ok code :=
  FileTree.readText_eq_ok_iff.mpr ⟨["gen", "mod_restgen.rs"], rfl⟩

theorem write_twoModules :
    (write FileTree.disk sharedOutput (some outputFolder) code).run.run (twoModules first second) =
      (.ok (), twoModulesWith first second code) := by
  have made : (twoModules first second).makeFolders outputFolder =
      ((twoModules first second).put ["gen"] .folder, .ok ()) := rfl
  have written : ((twoModules first second).put ["gen"] .folder).write sharedOutput (bytesOf code) =
      .ok (twoModulesWith first second code) := rfl
  rw [run_write_into, made]
  simp only [run_write, written]

theorem write_twoModulesWith (last : String) :
    (write FileTree.disk sharedOutput (some outputFolder) last).run.run (twoModulesWith first second code) =
      (.ok (), twoModulesWith first second last) := by
  have made : (twoModulesWith first second code).makeFolders outputFolder =
      (twoModulesWith first second code, .ok ()) := rfl
  have written : (twoModulesWith first second code).write sharedOutput (bytesOf last) =
      .ok (twoModulesWith first second last) := rfl
  rw [run_write_into, made]
  simp only [run_write, written]

theorem place_sharedOutput {place : Place}
    (lies : LiesAt (some outputFolder) (twoModulesWith first second code) place (moduleOf "a") ∨
      LiesAt (some outputFolder) (twoModulesWith first second code) place (moduleOf "b")) :
    place = ["gen", "mod_restgen.rs"] := by
  have output : (twoModulesWith first second code).spot sharedOutput =
      .ok (.file ["gen", "mod_restgen.rs"] (bytesOf code)) := rfl
  rcases lies with ⟨_, reached⟩ | ⟨_, reached⟩
  all_goals
    obtain ⟨same, -⟩ : _ = place ∧ _ := by simpa using output.symm.trans reached
    exact same.symm

theorem spares_twoModules (works : List Work)
    (inputs : ∀ work ∈ works, work.input = moduleOf "a" ∨ work.input = moduleOf "b") :
    ∀ work ∈ works, Spares (some outputFolder) (twoModulesWith first second code) works work.input := by
  intro work member other among _ place content reached lies
  have one : (twoModulesWith first second code).spot (moduleOf "a") =
      .ok (.file ["a", "mod.rs"] (bytesOf first)) := rfl
  have two : (twoModulesWith first second code).spot (moduleOf "b") =
      .ok (.file ["b", "mod.rs"] (bytesOf second)) := rfl
  obtain rfl := place_sharedOutput first second code
    ((inputs other among).imp (fun same => same ▸ lies) (fun same => same ▸ lies))
  rcases inputs work member with same | same
  · simp [same, one] at reached
  · simp [same, two] at reached

variable {first second code} in
theorem written_first (generated : Builder.fileOfSource first defaultRuntime = .ok (some code)) :
    Processes defaultRuntime (some outputFolder) false (twoModules first second) (moduleOf "a")
      (.written sharedOutput) (twoModulesWith first second code) := by
  have read : (twoModules first second).readText (moduleOf "a") = .ok first :=
    FileTree.readText_eq_ok_iff.mpr ⟨["a", "mod.rs"], rfl⟩
  exact processes_iff_step.mpr
    (.written ⟨_, read, generated⟩ nofun rfl (write_twoModules first second code))

/-- The source of an endpoint with a given name. -/
def endpointSource (name : String) : String :=
  "/// @GET(\"/\")\ntrait " ++ name ++ "\x7b/// @SYNC(\"T\")\nfn r(self)->Result<T,E>;\x7d"

/-- The code of two endpoints that differ in their name only. -/
structure EndpointCodes where
  one : String
  other : String
  made : Builder.fileOfSource (endpointSource "A") defaultRuntime = .ok (some one)
  madeToo : Builder.fileOfSource (endpointSource "B") defaultRuntime = .ok (some other)
  differ : one ≠ other

/-- The code for an endpoint whose name has one letter, which the first comment spells. -/
theorem exists_endpointCode (name : String) (letter : UInt8)
    (evaluated : ((Builder.fileOfSource (endpointSource name) defaultRuntime).toOption.any fun found =>
      decide (found.bind (·.toByteArray.data.toList[123]?) = some letter)) = true) :
    ∃ code, Builder.fileOfSource (endpointSource name) defaultRuntime = .ok (some code) ∧
      code.toByteArray.data.toList[123]? = some letter := by
  generalize Builder.fileOfSource (endpointSource name) defaultRuntime = generated at evaluated ⊢
  obtain ⟨found, made, spelled⟩ := Checks.exists_ok_of_toOption generated
    (fun found => found.bind (·.toByteArray.data.toList[123]?) = some letter) evaluated
  obtain ⟨code, rfl, first⟩ := Option.bind_eq_some_iff.mp spelled
  exact ⟨code, made, first⟩

-- Each of the two is evaluated by itself, which takes half the memory.
theorem EndpointCodes.nonempty : Nonempty EndpointCodes := by
  obtain ⟨one, made, first⟩ := exists_endpointCode "A" 0x41 (by decide +kernel)
  obtain ⟨other, madeToo, second⟩ := exists_endpointCode "B" 0x42 (by decide +kernel)
  refine ⟨one, other, made, madeToo, ?_⟩
  rintro rfl
  exact absurd (first.symm.trans second) (by decide)

noncomputable def endpointCodes : EndpointCodes :=
  Classical.choice EndpointCodes.nonempty

end

/-- Two files with the same text share their output, and no output is stale. -/
theorem twoModules_alike :
    ∃ tree last works, works.map Work.input = [moduleOf "a", moduleOf "b"] ∧
      Pass defaultRuntime (some outputFolder) false tree works last ∧
      ∀ work ∈ works, ∃ outcome, (∀ output, outcome ≠ .stale output) ∧
        Processes defaultRuntime (some outputFolder) true last work.input outcome last := by
  obtain ⟨code, _, generated, _, _⟩ := endpointCodes
  generalize endpointSource "A" = source at generated
  let works : List Work := [⟨moduleOf "a", some code, .written sharedOutput⟩,
    ⟨moduleOf "b", some code, .unchanged sharedOutput⟩]
  have pass : Pass defaultRuntime (some outputFolder) false (twoModules source source) works
      (twoModulesWith source source code) := by
    have read : (twoModules source source).readText (moduleOf "a") = .ok source :=
      FileTree.readText_eq_ok_iff.mpr ⟨["a", "mod.rs"], rfl⟩
    have generates : Generates defaultRuntime (twoModulesWith source source code) (moduleOf "b")
        (some code) := ⟨_, readText_second .., generated⟩
    exact .cons ⟨_, read, generated⟩ (written_first generated) (.cons generates
      (processes_iff_step.mpr (.unchanged generates (readText_sharedOutput ..))) .nil)
  have spared := spares_twoModules source source code works (by simp [works])
  have agree : Agree (some outputFolder) (twoModulesWith source source code) works := by
    intro first among second amongToo _ _ _ one made other madeToo
    simp only [works, List.mem_cons, List.not_mem_nil, or_false] at among amongToo
    rcases among with rfl | rfl <;> rcases amongToo with rfl | rfl <;> simp_all
  obtain ⟨_, checks, _, fresh⟩ := check_after_run _ _ _ _ _ pass
  exact ⟨_, _, works, rfl, pass, fun work member =>
    ⟨_, (fresh spared).2.mpr agree work member, checks work member (spared work member)⟩⟩

/-- Of two files with different endpoints the second output is written over the first one, which a check
then finds to be stale. -/
theorem twoModules_collide :
    ∃ tree next last, moduleOf "a" ≠ moduleOf "b" ∧
      Processes defaultRuntime (some outputFolder) false tree (moduleOf "a") (.written sharedOutput) next ∧
      Processes defaultRuntime (some outputFolder) false next (moduleOf "b") (.written sharedOutput) last ∧
      Processes defaultRuntime (some outputFolder) true last (moduleOf "a") (.stale sharedOutput) last := by
  obtain ⟨one, other, made, madeToo, differ⟩ := endpointCodes
  generalize endpointSource "A" = first at made
  generalize endpointSource "B" = second at madeToo
  refine ⟨twoModules first second, twoModulesWith first second one, twoModulesWith first second other,
    by decide, written_first made, processes_iff_step.mpr ?_, processes_iff_step.mpr ?_⟩
  · refine .written ⟨_, readText_second .., madeToo⟩ (fun held => ?_) rfl (write_twoModulesWith ..)
    exact differ (Except.ok.inj ((readText_sharedOutput ..).symm.trans held))
  · refine .stale ⟨_, readText_first .., made⟩ (fun held => ?_) rfl
    exact differ (Except.ok.inj ((readText_sharedOutput ..).symm.trans held)).symm

end Endpoints.Output
