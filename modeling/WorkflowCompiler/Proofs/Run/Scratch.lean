import WorkflowCompiler.CommandLine.Program
import WorkflowCompiler.Proofs.Files.Place
import WorkflowCompiler.Proofs.Run.RunList
import WorkflowCompiler.Proofs.Workflow.Written

/-!
Where scripts are written. A script is named after its deployment, which is two free texts of the
specification. If neither has a slash, the name is a single one: a run writes the script directly
into its scratch directory and removes it with the directory, and a compilation without a path
writes into the working directory. Otherwise the name leads elsewhere.
-/
namespace WorkflowCompiler.Run

open Files (IsName Location Tree)
open Script (Artifact assemble)

/-- There is no scratch directory. -/
def Clear (files : Tree) : Prop :=
  ∀ location, scratchLocation <+: location → files.node? location = none

/-- A run of an artifact keeps to its scratch directory. -/
structure KeepsToScratch (artifact : Artifact) : Prop where
  /-- The path of the script is its name in the directory. -/
  path : Files.join scratchDirectory artifact.fileName =
    scratchDirectory ++ "/" ++ artifact.fileName
  /-- What is written is the script, and it lies directly in the directory. -/
  written : ∀ files ready : Tree, (files.set scratchLocation .directory).write
    (Files.join scratchDirectory artifact.fileName) artifact.source.toUTF8 = .ok ready →
    ∃ executable, ready = (files.set scratchLocation .directory).set
      (scratchLocation ++ [artifact.fileName]) (.file artifact.source.toUTF8 executable)
  /-- It is written if there is a place for the directory and its name is neither too long nor
  has a character that no name may have. -/
  writable : ∀ (files : Tree), Clear files → files.node? ["tmp"] = some .directory →
    '\x00' ∉ artifact.fileName.toList → artifact.fileName.utf8ByteSize ≤ Files.nameLimit →
    ∃ ready, (files.set scratchLocation .directory).write
      (Files.join scratchDirectory artifact.fileName) artifact.source.toUTF8 = .ok ready
  /-- Whatever comes of the run, afterwards everything is as it was before, save for what the
  child process changes outside of the directory. -/
  restored : ∀ (launch : Launcher) (files : Tree) (settings : Settings.Runner), Clear files →
    ∀ location : Location,
      (∀ ready child, launch ready settings.interpreter
          (Files.join scratchDirectory artifact.fileName) = .ok child →
        ¬ scratchLocation <+: location → child.files.node? location = ready.node? location) →
      (runArtifact launch files settings artifact).files.node? location = files.node? location

/-- A compilation writes its script under a name into the working directory. -/
structure WritesInPlace (name : String) {σ : Type} (world : CommandLine.World σ)
    (command : CommandLine.CompileCommand) : Prop where
  elsewhere : ∀ location, location ≠ world.files.workingDirectory ++ [name] →
    (world.compile command).files.node? location = world.files.node? location
  here : (world.compile command).result = .ok 0 → ∃ (build : Script.Build) (executable : Bool),
    Script.build world.files command.spec
      (if command.standalone then .standalone else .deployable) command.tasks = .ok build ∧
    (world.compile command).files.node? (world.files.workingDirectory ++ [name]) =
      some (.file build.requested.source.toUTF8 executable)

/-- The name of a script ends in the ending of its language, so it is none of the dots. -/
theorem isName_script_iff {spec : Workflow.Spec} :
    IsName (spec.deploymentName ++ ".py") ↔
      '/' ∉ spec.configurationId.toList ∧ '/' ∉ spec.environment.toList := by
  have letters : (spec.deploymentName ++ ".py").toList =
      spec.configurationId.toList ++ '_' :: (spec.environment.toList ++ ['.', 'p', 'y']) := by
    simp [Workflow.Spec.deploymentName]
  have named : '_' ∈ (spec.deploymentName ++ ".py").toList := by
    rw [letters]
    exact List.mem_append_right _ List.mem_cons_self
  have slash : '/' ∈ (spec.deploymentName ++ ".py").toList ↔
      '/' ∈ spec.configurationId.toList ∨ '/' ∈ spec.environment.toList := by
    rw [letters]
    simp
  rw [← not_or, ← slash]
  refine ⟨IsName.single, fun single => ⟨?_, ?_, ?_, single⟩⟩
  all_goals
    intro dots
    rw [dots] at named
    exact absurd named (by decide)

section Scratch

variable {artifact : Artifact} {files : Tree} {name : String}

/-- The path of a script leads through the scratch directory to the name of the script. -/
theorem splitAt_scratch (named : IsName name) :
    Text.splitAt '/' (scratchDirectory ++ "/" ++ name) =
      ["", "tmp", "dagen-run-scratch", name] := by
  have letters : (scratchDirectory ++ "/" ++ name).toList =
      [] ++ '/' :: ("tmp".toList ++ '/' :: ("dagen-run-scratch".toList ++ '/' :: name.toList)) := by
    simp [scratchDirectory]
  have rest := named.splitAt_eq
  rw [Text.splitAt] at rest ⊢
  rw [letters, Text.splitAtEach_append_cons (List.forall_mem_nil _) rfl,
    Text.splitAtEach_append_cons (by simp) rfl, Text.splitAtEach_append_cons (by simp) rfl,
    List.map_cons, List.map_cons, List.map_cons, rest]
  simp

/-- A walk to a script passes the directory for temporary files and the scratch directory. -/
theorem walk_scratch (scratch : files.node? scratchLocation = some .directory) :
    files.walk [] .directory ["", "tmp", "dagen-run-scratch", name] =
      match files.node? ["tmp"] with
      | some .directory => files.walk scratchLocation .directory [name]
      | some (.file _ _) => .error .notDirectory
      | none => .error .notFound := by
  have fits : ¬ Files.nameLimit < "tmp".utf8ByteSize ∧
      ¬ Files.nameLimit < "dagen-run-scratch".utf8ByteSize := by decide
  have below : files.node? (["tmp"] ++ ["dagen-run-scratch"]) = some .directory := scratch
  rw [Tree.walk, if_pos (.inl rfl), Tree.walk, if_neg (by decide), if_neg (by decide),
    if_neg fits.1]
  cases temporary : files.node? ["tmp"] with
  | none => simp [temporary]
  | some node =>
    cases node with
    | file content executable => simp [temporary, Tree.walk]
    | directory =>
      simp only [List.nil_append, temporary]
      rw [Tree.walk, if_neg (by decide), if_neg (by decide), if_neg fits.2]
      simp only [below]
      rfl

/-- The way to a script, if its path can be a path. -/
theorem locate_scratch (named : IsName name)
    (scratch : files.node? scratchLocation = some .directory) :
    files.locate (scratchDirectory ++ "/" ++ name) =
      if name.toList.contains '\x00' then .error .nulInName
      else if Files.pathLimit ≤ (scratchDirectory ++ "/" ++ name).utf8ByteSize then
        .error .nameTooLong
      else match files.node? ["tmp"] with
        | some .directory => files.walk scratchLocation .directory [name]
        | some (.file _ _) => .error .notDirectory
        | none => .error .notFound := by
  have rooted : Files.isAbsolute (scratchDirectory ++ "/" ++ name) = true := by
    simp [Files.isAbsolute, scratchDirectory]
  have filled : scratchDirectory ++ "/" ++ name ≠ "" := by
    intro empty
    rw [empty] at rooted
    exact absurd rooted (by decide)
  have nul : (scratchDirectory ++ "/" ++ name).toList.contains '\x00' =
      name.toList.contains '\x00' := by
    simp [scratchDirectory]
  rw [Tree.locate, nul, if_neg filled, rooted, if_pos rfl, splitAt_scratch named,
    walk_scratch scratch]

/-- A script is looked for directly in the scratch directory. -/
theorem location_of_locate_scratch (named : IsName name)
    (scratch : files.node? scratchLocation = some .directory) {target : Tree.Target}
    (found : files.locate (scratchDirectory ++ "/" ++ name) = .ok target) :
    target.location = scratchLocation ++ [name] := by
  rw [locate_scratch named scratch] at found
  split at found
  · cases found
  split at found
  · cases found
  split at found
  · exact Tree.location_of_walk_name named found
  · cases found
  · cases found

theorem node?_prepared : (files.set scratchLocation .directory).node? scratchLocation =
    some .directory := by
  rw [Tree.node?_set (by decide), if_pos rfl]

theorem exists_written (named : IsName name) {content : ByteArray} {ready : Tree}
    (written : (files.set scratchLocation .directory).write
      (scratchDirectory ++ "/" ++ name) content = .ok ready) :
    ∃ executable, ready = (files.set scratchLocation .directory).set (scratchLocation ++ [name])
      (.file content executable) := by
  obtain ⟨target, executable, found, -, -, rfl⟩ := Tree.exists_set_of_write written
  rw [location_of_locate_scratch named node?_prepared found]
  exact ⟨executable, rfl⟩

/-- A script that no fault of its name keeps out is written. -/
theorem exists_write_scratch (named : IsName name) (clear : Clear files)
    (temporary : files.node? ["tmp"] = some .directory) (sound : '\x00' ∉ name.toList)
    (short : name.utf8ByteSize ≤ Files.nameLimit) (content : ByteArray) :
    ∃ ready, (files.set scratchLocation .directory).write
      (scratchDirectory ++ "/" ++ name) content = .ok ready := by
  have absent : (files.set scratchLocation .directory).node? (scratchLocation ++ [name]) =
      none := by
    rw [Tree.node?_set (by decide), if_neg (by simp), clear _ (List.prefix_append _ _)]
  have above : (files.set scratchLocation .directory).node? ["tmp"] = some .directory := by
    rw [Tree.node?_set (by decide), if_neg (by decide), temporary]
  have size : ¬ Files.pathLimit ≤ (scratchDirectory ++ "/" ++ name).utf8ByteSize := by
    have own : (scratchDirectory ++ "/").utf8ByteSize = 23 := by decide
    rw [String.utf8ByteSize_append, own]
    simp only [Files.pathLimit, Files.nameLimit] at short ⊢
    omega
  have found : (files.set scratchLocation .directory).locate (scratchDirectory ++ "/" ++ name) =
      .ok (.absent (scratchLocation ++ [name])) := by
    rw [locate_scratch named node?_prepared, if_neg (by simpa using sound), if_neg size, above,
      Tree.walk_name named, if_neg (Nat.not_lt.mpr short), absent]
  have open' : ((scratchDirectory ++ "/" ++ name).toList.getLast? == some '/') = false := by
    obtain ⟨last, ends⟩ : ∃ last, name.toList.getLast? = some last :=
      ⟨_, List.getLast?_eq_some_getLast named.toList_ne_nil⟩
    rw [String.toList_append, List.getLast?_append, ends, beq_eq_false_iff_ne]
    rintro slash
    cases slash
    exact named.single (List.mem_of_getLast? ends)
  simp only [Tree.write, found, open', Bool.false_eq_true, if_false, Except.ok.injEq,
    exists_eq']

/-- What a run leaves behind is what the child process does outside of the scratch directory. -/
theorem node?_runArtifact (named : IsName artifact.fileName) (clear : Clear files)
    {launch : Launcher} {settings : Settings.Runner} {location : Location}
    (untouched : ∀ ready child, launch ready settings.interpreter
        (Files.join scratchDirectory artifact.fileName) = .ok child →
      ¬ scratchLocation <+: location → child.files.node? location = ready.node? location) :
    (runArtifact launch files settings artifact).files.node? location = files.node? location := by
  have joined : Files.join scratchDirectory artifact.fileName =
      scratchDirectory ++ "/" ++ artifact.fileName := named.join_eq (by decide) (by decide)
  unfold runArtifact
  dsimp only
  split
  · rfl
  · next ready written =>
    rw [joined] at written
    obtain ⟨executable, same⟩ := exists_written named written
    have outside : ¬ scratchLocation <+: location → ready.node? location = files.node? location := by
      intro apart
      have other : location ≠ scratchLocation := fun here => apart (here ▸ List.prefix_rfl)
      have another : location ≠ scratchLocation ++ [artifact.fileName] :=
        fun here => apart (here ▸ List.prefix_append _ _)
      rw [same, Tree.node?_set (by simp), if_neg another, Tree.node?_set (by decide), if_neg other]
    split
    · rw [Tree.node?_removeBelow (by decide)]
      split
      · next covered => exact (clear location covered).symm
      · next apart => exact outside apart
    · next child launched =>
      dsimp only
      rw [Tree.node?_removeBelow (by decide)]
      split
      · next covered => exact (clear location covered).symm
      · next apart => exact (untouched ready child launched apart).trans (outside apart)

theorem keepsToScratch (named : IsName artifact.fileName) : KeepsToScratch artifact := by
  have joined : Files.join scratchDirectory artifact.fileName =
      scratchDirectory ++ "/" ++ artifact.fileName := named.join_eq (by decide) (by decide)
  refine ⟨joined, ?_, ?_, ?_⟩
  · intro files ready written
    rw [joined] at written
    exact exists_written named written
  · intro files clear temporary sound short
    rw [joined]
    exact exists_write_scratch named clear temporary sound short _
  · intro launch files settings clear location untouched
    exact node?_runArtifact named clear untouched

end Scratch

section Compile

variable {σ : Type} {world : CommandLine.World σ} {command : CommandLine.CompileCommand}
  {files after : Tree} {name source : String}

/-- Writing under a single name makes no directories. -/
theorem exists_writeScript (named : IsName name)
    (written : CommandLine.World.writeScript files name source = .ok after) :
    ∃ executable, after = files.set (files.workingDirectory ++ [name])
      (.file source.toUTF8 executable) := by
  simp only [CommandLine.World.writeScript, named.parent?_eq, if_true, bind_eq_ok_iff,
    Except.ok.injEq, exists_eq_left'] at written
  obtain ⟨target, executable, found, -, -, rfl⟩ := Tree.exists_set_of_write written
  rw [Tree.location_of_locate_name named found]
  exact ⟨executable, rfl⟩

/-- A compilation without a path writes the script under its own name. -/
theorem writesInPlace (named : IsName name) (unplaced : command.output = none)
    (own : ∀ mode subset build, Script.build world.files command.spec mode subset = .ok build →
      build.requested.fileName = name) : WritesInPlace name world command := by
  have below : world.files.workingDirectory ++ [name] ≠ [] := by simp
  constructor
  · intro location other
    unfold CommandLine.World.compile
    dsimp only
    split
    · rfl
    · next build built =>
      rw [unplaced, Option.getD_none, own _ _ build built]
      split
      · rfl
      · next after written =>
        obtain ⟨executable, same⟩ := exists_writeScript named written
        rw [same, Tree.node?_set below, if_neg other]
  · intro done
    unfold CommandLine.World.compile at done ⊢
    dsimp only at done ⊢
    split at done
    · cases done
    · next build built =>
      rw [unplaced, Option.getD_none, own _ _ build built] at done ⊢
      split at done
      · cases done
      · next after written =>
        obtain ⟨executable, same⟩ := exists_writeScript named written
        refine ⟨build, executable, built, ?_⟩
        rw [same, Tree.node?_set below, if_pos rfl]

end Compile

/-- The script that a compilation asks for is one that is assembled. -/
theorem exists_assemble_of_buildLoaded {files : Tree} {spec : Workflow.Spec} {mode : Script.Mode}
    {subset : List String} {build : Script.Build}
    (built : Script.buildLoaded files spec mode subset = .ok build) :
    ∃ mode' subset', assemble files spec mode' subset' = .ok build.requested := by
  simp only [Script.buildLoaded, bind_eq_ok_iff] at built
  obtain ⟨full, whole, rest⟩ := built
  split at rest
  · cases rest
    exact ⟨_, _, whole⟩
  · obtain ⟨requested, asked, same⟩ := bind_eq_ok_iff.mp rest
    cases same
    exact ⟨_, _, asked⟩

theorem fileName_of_assemble {files : Tree} {spec : Workflow.Spec} {mode : Script.Mode}
    {subset : List String} {artifact : Artifact}
    (assembled : assemble files spec mode subset = .ok artifact) :
    artifact.fileName = spec.deploymentName ++ ".py" := by
  obtain ⟨_, _, _, _, made⟩ := Script.assembled_of_assemble assembled
  rw [Artifact.fileName, made.named]

/-- The scripts of an accepted specification are files of one name, and the name is a single one
exactly if the texts that the deployment is named after have no slash. Then runs keep to their
scratch directory, and a compilation without a path writes into the working directory. -/
theorem scripts_stay_in_place {files : Tree} {path : String} {loaded : Workflow.Loaded}
    (accepted : Workflow.load files path = .ok loaded) :
    (∀ sources mode subset artifact,
      assemble sources loaded.spec mode subset = .ok artifact →
        artifact.fileName = loaded.spec.deploymentName ++ ".py") ∧
    (IsName (loaded.spec.deploymentName ++ ".py") ↔
      '/' ∉ loaded.spec.configurationId.toList ∧ '/' ∉ loaded.spec.environment.toList) ∧
    ('/' ∉ loaded.spec.configurationId.toList → '/' ∉ loaded.spec.environment.toList →
      (∀ sources mode subset artifact,
        assemble sources loaded.spec mode subset = .ok artifact → KeepsToScratch artifact) ∧
      ∀ (σ : Type) (world : CommandLine.World σ) (command : CommandLine.CompileCommand),
        world.files = files → command.spec = path → command.output = none →
          WritesInPlace (loaded.spec.deploymentName ++ ".py") world command) := by
  refine ⟨fun _ _ _ _ => fileName_of_assemble, isName_script_iff, fun first second => ?_⟩
  have named : IsName (loaded.spec.deploymentName ++ ".py") := isName_script_iff.mpr ⟨first, second⟩
  constructor
  · intro sources mode subset artifact assembled
    exact keepsToScratch (fileName_of_assemble assembled ▸ named)
  · rintro σ world command rfl rfl unplaced
    refine writesInPlace named unplaced fun mode subset build built => ?_
    rw [Script.build, Script.loadSpec_of_load accepted] at built
    obtain ⟨_, _, assembled⟩ := exists_assemble_of_buildLoaded built
    exact fileName_of_assemble assembled

theorem clear_of_nodes {files : Tree} (apart : ∀ n ∈ files.nodes, ¬ scratchLocation <+: n.1) :
    Clear files := by
  intro location covered
  have below : location ≠ [] := by
    rintro rfl
    exact absurd (List.prefix_nil.mp covered) (by decide)
  rw [Tree.node?, if_neg below, Option.map_eq_none_iff, List.find?_eq_none]
  intro n inside found
  exact apart n inside ((beq_iff_eq.mp found) ▸ covered)

/-- Two dots may begin a name; the run leaves nothing behind. -/
theorem scripts_stay_in_place_dots :
    let files := Workflow.besideConfigured ".."
    ∃ loaded artifact, Workflow.load files "/w" = .ok loaded ∧
      assemble files loaded.spec .standalone [] = .ok artifact ∧
      artifact.fileName = ".._PROD.py" ∧ KeepsToScratch artifact ∧ Clear files ∧
      ∀ settings location, (runArtifact (fun _ _ _ => .error .notFound) files settings
        artifact).files.node? location = files.node? location := by
  intro files
  have ran : (do
      let loaded ← (Workflow.loadDocument files "/w" "/" (Workflow.configured "..")).toOption
      let _ ← (assemble files loaded.spec .standalone []).toOption
      some (loaded.spec.configurationId, loaded.spec.environment)) = some ("..", "PROD") := by
    decide +kernel
  simp only [Option.bind_eq_bind, Option.bind_eq_some_iff, toOption_eq_some_iff,
    Option.some.injEq, Prod.mk.injEq] at ran
  obtain ⟨loaded, accepted, artifact, assembled, configuration, environment⟩ := ran
  rw [← Workflow.load_besideConfigured] at accepted
  obtain ⟨named, _, stays⟩ := scripts_stay_in_place accepted
  obtain ⟨keeps, _⟩ := stays (by rw [configuration]; decide) (by rw [environment]; decide)
  have kept := keeps _ _ _ _ assembled
  have clear : Clear files := clear_of_nodes (by decide)
  refine ⟨loaded, artifact, accepted, assembled, ?_, kept, clear, fun settings location =>
    kept.restored _ _ _ clear _ fun _ _ launched => by cases launched⟩
  rw [named _ _ _ _ assembled, Workflow.Spec.deploymentName, configuration, environment]
  rfl

def idle : Launcher := fun files _ _ => .ok ⟨⟨[], none⟩, ⟨[], none⟩, .exited 0, files⟩

/-- A configuration id may begin with the way out of the scratch directory; then the script is
written beside the directory and stays there. -/
theorem script_left_beside_scratch :
    let files := Workflow.besideConfigured "../x"
    ∃ loaded artifact, Workflow.load files "/w" = .ok loaded ∧
      assemble files loaded.spec .standalone [] = .ok artifact ∧
      ¬ IsName artifact.fileName ∧ Clear files ∧
      (files.node? ["tmp", "x_PROD.py"]).isSome = false ∧
      ((runArtifact idle files ⟨"true", 1⟩ artifact).files.node?
        ["tmp", "x_PROD.py"]).isSome = true := by
  intro files
  have ran : (do
      let loaded ← (Workflow.loadDocument files "/w" "/" (Workflow.configured "../x")).toOption
      let artifact ← (assemble files loaded.spec .standalone []).toOption
      some (artifact.fileName, ((runArtifact idle files ⟨"true", 1⟩ artifact).files.node?
        ["tmp", "x_PROD.py"]).isSome)) = some ("../x_PROD.py", true) := by
    decide +kernel
  simp only [Option.bind_eq_bind, Option.bind_eq_some_iff, toOption_eq_some_iff,
    Option.some.injEq, Prod.mk.injEq] at ran
  obtain ⟨loaded, accepted, artifact, assembled, named, left⟩ := ran
  rw [← Workflow.load_besideConfigured] at accepted
  refine ⟨loaded, artifact, accepted, assembled, fun single => ?_, clear_of_nodes (by decide),
    by decide, left⟩
  rw [named] at single
  exact single.single (by decide)

end WorkflowCompiler.Run
