import Endpoints.Proofs.OutputCollisions

/-! What a check tells of the run that it stands for. The disk may be any that is not changed by reading, in
any state, so outputs may be missing, folders, not readable or not text. -/

namespace Endpoints.Output

section
variable {σ : Type} (disk : Disk (StateM σ)) (runtime : Path) (folder : Option FilePath) (state : σ)
  (input : FilePath)

/-- What ends the processing before any output is looked at. -/
inductive Hinders : Failure → Prop where
  | unread {fault} (fails : disk.textAt state input = .error fault) : Hinders (.access input fault)
  | ungenerated {source error} (read : disk.textAt state input = .ok source)
      (fails : Builder.fileOfSource source runtime = .error error) : Hinders (.generation error)

/-- Code is generated for an input, and its output does not hold it. -/
structure Owes (code : String) : Prop where
  generated : ∃ source, disk.textAt state input = .ok source ∧
    Builder.fileOfSource source runtime = .ok (some code)
  differs : disk.textAt state (pathFor input folder) ≠ .ok code

/-- The folder that outputs are put into is there, after a change from one state to another. -/
def Ready (next : σ) : Prop :=
  match folder with
  | none => next = state
  | some into => disk.makeFolders into state = (.ok (), next)

/-- What keeps an output from being written once its code is there. -/
inductive Stops : Failure → Prop where
  | unmade {code into fault} (owes : Owes disk runtime folder state input code) (given : folder = some into)
      (fails : (disk.makeFolders into state).1 = .error fault) : Stops (.access into fault)
  | unstored {code next fault} (owes : Owes disk runtime folder state input code)
      (ready : Ready disk folder state next)
      (fails : (disk.write (pathFor input folder) (bytesOf code) next).1 = .error fault) :
      Stops (.access (pathFor input folder) fault)

/-- What the end of a check tells of the end of a run from the same state. -/
structure Predicts (checked ran : Except Failure Outcome × σ) : Prop where
  untouched : checked.2 = state
  settled : (∀ output, checked.1 ≠ .ok (.stale output)) → ran = checked
  failed : ∀ failure, checked.1 = .error failure ↔
    ran.1 = .error failure ∧ Hinders disk runtime state input failure
  skipped : checked.1 = .ok .skipped ↔ ran.1 = .ok .skipped
  unchanged : ∀ output, checked.1 = .ok (.unchanged output) ↔ ran.1 = .ok (.unchanged output)
  stale : ∀ output, checked.1 = .ok (.stale output) ↔ output = pathFor input folder ∧
    (ran.1 = .ok (.written output) ∨
      ∃ failure, ran.1 = .error failure ∧ Stops disk runtime folder state input failure)

/-- The ways in which a check and a run from the same state can end. -/
inductive Ends : Except Failure Outcome × σ → Except Failure Outcome × σ → Prop where
  | hindered {failure} (hinders : Hinders disk runtime state input failure) :
      Ends (.error failure, state) (.error failure, state)
  | skipped : Ends (.ok .skipped, state) (.ok .skipped, state)
  | unchanged {output} : Ends (.ok (.unchanged output), state) (.ok (.unchanged output), state)
  | stopped {failure next} (stops : Stops disk runtime folder state input failure) :
      Ends (.ok (.stale (pathFor input folder)), state) (.error failure, next)
  | written {code next} (owes : Owes disk runtime folder state input code) :
      Ends (.ok (.stale (pathFor input folder)), state) (.ok (.written (pathFor input folder)), next)

end

section
variable {σ : Type} {disk : Disk (StateM σ)} {runtime : Path} {folder : Option FilePath} {state next : σ}
  {input : FilePath} {code : String}

theorem Owes.not_hinders (owes : Owes disk runtime folder state input code) (failure : Failure) :
    ¬Hinders disk runtime state input failure := by
  obtain ⟨⟨source, read, generated⟩, -⟩ := owes
  intro hinders
  cases hinders with
  | unread fails => cases read.symm.trans fails
  | ungenerated same fails =>
    obtain rfl := Except.ok.inj (read.symm.trans same)
    cases generated.symm.trans fails

theorem Stops.not_hinders {failure : Failure} (stops : Stops disk runtime folder state input failure)
    (other : Failure) : ¬Hinders disk runtime state input other := by
  cases stops with
  | unmade owes => exact owes.not_hinders other
  | unstored owes => exact owes.not_hinders other

theorem stops_of_write (owes : Owes disk runtime folder state input code) {failure : Failure}
    (ran : (write disk (pathFor input folder) folder code).run.run state = (.error failure, next)) :
    Stops disk runtime folder state input failure := by
  have stored (between : σ) (ready : Ready disk folder state between)
      (ran : (write disk (pathFor input folder) none code).run.run between = (.error failure, next)) :
      Stops disk runtime folder state input failure := by
    rw [run_write_here] at ran
    split at ran
    next fails =>
      cases ran
      exact .unstored owes ready (congrArg Prod.fst fails)
    next => cases ran
  cases folder with
  | none => exact stored state rfl ran
  | some into =>
    rw [run_write_below] at ran
    split at ran
    next fails =>
      cases ran
      exact .unmade owes rfl (congrArg Prod.fst fails)
    next between made => exact stored between made ran

/-- A check and a run do the same up to the point where the one would report what the other writes. -/
theorem ends_of_readsOnly (reads : disk.ReadsOnly) :
    Ends disk runtime folder state input ((process disk runtime folder true input).run.run state)
      ((process disk runtime folder false input).run.run state) := by
  rw [run_process reads, run_process reads]
  cases read : disk.textAt state input with
  | error fault => exact .hindered (.unread read)
  | ok source =>
    simp only
    rcases generated : Builder.fileOfSource source runtime with error | _ | code
    · exact .hindered (.ungenerated read generated)
    · exact .skipped
    · simp only
      split
      next => exact .unchanged
      next different =>
        have owes : Owes disk runtime folder state input code :=
          ⟨⟨source, read, generated⟩, mt toOption_eq_some_iff.mpr different⟩
        simp only [if_true, Bool.false_eq_true, if_false]
        split
        next ran => exact .stopped (stops_of_write owes ran)
        next => exact .written owes

theorem Owes.checked (owes : Owes disk runtime folder state input code) (reads : disk.ReadsOnly) :
    (process disk runtime folder true input).run.run state =
      (.ok (.stale (pathFor input folder)), state) := by
  obtain ⟨⟨source, read, generated⟩, differs⟩ := owes
  rw [run_process reads]
  simp [read, generated, toOption_eq_some_iff, differs]

theorem Owes.ran (owes : Owes disk runtime folder state input code) (reads : disk.ReadsOnly)
    {failure : Failure}
    (stored : (write disk (pathFor input folder) folder code).run.run state = (.error failure, next)) :
    (process disk runtime folder false input).run.run state = (.error failure, next) := by
  obtain ⟨⟨source, read, generated⟩, differs⟩ := owes
  rw [run_process reads]
  simp [read, generated, toOption_eq_some_iff, differs, stored]

theorem Ends.predicts {checked ran : Except Failure Outcome × σ}
    (ends : Ends disk runtime folder state input checked ran) :
    Predicts disk runtime folder state input checked ran := by
  constructor
  case untouched => cases ends <;> rfl
  case settled =>
    intro never
    cases ends with
    | hindered | skipped | unchanged => rfl
    | stopped | written => exact absurd rfl (never _)
  case failed =>
    intro failure
    cases ends with
    | hindered hinders =>
      constructor
      · intro same
        cases same
        exact ⟨rfl, hinders⟩
      · exact And.left
    | stopped stops =>
      constructor
      · exact nofun
      · intro ⟨_, hinders⟩
        exact absurd hinders (stops.not_hinders failure)
    | skipped | unchanged | written => exact ⟨nofun, fun ended => nomatch ended.1⟩
  case skipped => cases ends <;> simp
  case unchanged => intro output; cases ends <;> simp
  case stale =>
    intro output
    cases ends with
    | hindered hinders =>
      constructor
      · exact nofun
      · rintro ⟨_, written | ⟨_, _, stops⟩⟩
        · cases written
        · exact absurd hinders (stops.not_hinders _)
    | skipped | unchanged => simp
    | stopped stops =>
      constructor
      · intro same
        cases same
        exact ⟨rfl, .inr ⟨_, rfl, stops⟩⟩
      · intro ⟨same, _⟩
        rw [same]
    | written =>
      constructor
      · intro same
        cases same
        exact ⟨rfl, .inl rfl⟩
      · intro ⟨same, _⟩
        rw [same]

end

/-- A check changes nothing, and how it ends tells how a run from the same state ends: in the same way, or
at the output that the check calls stale, which the run writes or cannot write. -/
theorem check_predicts_run {σ : Type} (disk : Disk (StateM σ)) (reads : disk.ReadsOnly) (runtime : Path)
    (folder : Option FilePath) (state : σ) (input : FilePath) :
    Predicts disk runtime folder state input
      ((process disk runtime folder true input).run.run state)
      ((process disk runtime folder false input).run.run state) :=
  (ends_of_readsOnly reads).predicts

/-- An output that goes below a file is stale, and the run that would write it says why it cannot. -/
theorem check_predicts_unmade :
    FileTree.disk.ReadsOnly ∧ ∃ tree,
      (process FileTree.disk defaultRuntime (some (moduleOf "b")) true (moduleOf "a")).run.run tree =
        (.ok (.stale ⟨["b", "mod.rs", "mod_restgen.rs"]⟩), tree) ∧
      (process FileTree.disk defaultRuntime (some (moduleOf "b")) false (moduleOf "a")).run.run tree =
        (.error (.access (moduleOf "b") .alreadyThere), tree) ∧
      Predicts FileTree.disk defaultRuntime (some (moduleOf "b")) tree (moduleOf "a")
        ((process FileTree.disk defaultRuntime (some (moduleOf "b")) true (moduleOf "a")).run.run tree)
        ((process FileTree.disk defaultRuntime (some (moduleOf "b")) false (moduleOf "a")).run.run tree) := by
  obtain ⟨code, _, generated, _, _⟩ := endpointCodes
  generalize endpointSource "A" = source at generated
  have owes : Owes FileTree.disk defaultRuntime (some (moduleOf "b")) (twoModules source source)
      (moduleOf "a") code := by
    refine ⟨⟨source, ?_, generated⟩, nofun⟩
    rw [FileTree.textAt_disk]
    exact FileTree.readText_eq_ok_iff.mpr ⟨["a", "mod.rs"], rfl⟩
  have blocked : (twoModules source source).makeFolders (moduleOf "b") =
      (twoModules source source, .error .alreadyThere) := rfl
  have stored : (write FileTree.disk (pathFor (moduleOf "a") (some (moduleOf "b"))) (some (moduleOf "b"))
      code).run.run (twoModules source source) =
        (.error (.access (moduleOf "b") .alreadyThere), twoModules source source) := by
    rw [run_write_into, blocked]
  exact ⟨FileTree.readsOnly_disk, _, owes.checked FileTree.readsOnly_disk,
    owes.ran FileTree.readsOnly_disk stored, check_predicts_run FileTree.disk FileTree.readsOnly_disk _ _ _ _⟩

end Endpoints.Output
