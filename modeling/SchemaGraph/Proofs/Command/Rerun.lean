import SchemaGraph.Json.Printer
import SchemaGraph.Proofs.Command.Wording
import SchemaGraph.Proofs.Sdl.Heading

/-! Running the command again.

A run that writes a file leaves everything that it was made from, so it can be run again
and again, and it writes the same document each time but for one word: the generation
comment spells the route of the output out as long as no file is there, and calls it by
its name from the second run on (`run_again`). -/
namespace SchemaGraph.Command

variable {tree later : FileTree} {given : Arguments} {parameters : Parameters} {config : Config}
  {schema : Schema} {registry : Registry} {out : Route} {body output document : String}

/-! ### From the arguments to a schema -/

/-- What a run works with, and the schema that it comes to. -/
structure Converts (tree : FileTree) (given : Arguments) (parameters : Parameters)
    (config : Config) (schema : Schema) (registry : Registry) : Prop where
  asked : parametersOf tree given = .ok parameters
  configured : configOf tree parameters = .ok config
  converted : ∃ values, parameters.paths.mapM (load tree) = .ok values ∧
    (Build.convert config none .default [] (.arr values)).on .empty = (.ok schema, registry)

theorem load_keeps (hkeeps : tree.Keeps later) {route : Route} {value : Json}
    (h : load tree route = .ok value) : load later route = .ok value := by
  obtain ⟨content, hcontent, h⟩ := bind_ok h
  rw [load, hkeeps.read hcontent, ok_bind]
  exact h

/-- The settings of a run before its options are looked at. -/
def baseConfigOf (tree : FileTree) (parameters : Parameters) : Except Fault Config :=
  match parameters.config? with
  | some route => do Config.ofObject (← load tree route)
  | none => pure {}

theorem configOf_eq (tree : FileTree) (parameters : Parameters) : configOf tree parameters =
    (baseConfigOf tree parameters).map fun config =>
      { config with
        checkMode := if parameters.strict then .error else config.checkMode
        outputMode := if parameters.force then .force else config.outputMode } := by
  rw [configOf, baseConfigOf]
  cases parameters.config? with
  | none => rfl
  | some route =>
    dsimp only
    cases load tree route with
    | error fault => rfl
    | ok value =>
      rw [ok_bind, ok_bind]
      cases Config.ofObject value <;> rfl

theorem configOf_keeps (hkeeps : tree.Keeps later) (h : configOf tree parameters = .ok config) :
    configOf later parameters = .ok config := by
  rw [configOf_eq] at h ⊢
  cases hbase : baseConfigOf tree parameters with
  | error fault =>
    rw [hbase] at h
    cases h
  | ok base =>
    have hlater : baseConfigOf later parameters = .ok base := by
      rw [baseConfigOf] at hbase ⊢
      split
      · rename_i route hroute
        rw [hroute] at hbase
        obtain ⟨value, hvalue, hbase⟩ := bind_ok hbase
        rw [load_keeps hkeeps hvalue, ok_bind]
        exact hbase
      · rename_i hroute
        rw [hroute] at hbase
        exact hbase
    rw [hbase] at h
    rw [hlater]
    exact h

theorem configOf_force (hforce : parameters.force = true)
    (h : configOf tree parameters = .ok config) : config.outputMode = .force := by
  rw [configOf_eq] at h
  cases hbase : baseConfigOf tree parameters with
  | error fault =>
    rw [hbase] at h
    cases h
  | ok base =>
    rw [hbase] at h
    cases h
    exact if_pos hforce

theorem Converts.keeps (h : Converts tree given parameters config schema registry)
    (hkeeps : tree.Keeps later) : Converts later given parameters config schema registry := by
  obtain ⟨values, hvalues, hconverted⟩ := h.converted
  exact ⟨parametersOf_keeps hkeeps h.asked, configOf_keeps hkeeps h.configured, values,
    mapM_ok_mono (fun _ _ => load_keeps hkeeps) hvalues, hconverted⟩

/-- What is left to do once there is a schema. -/
def finish (tree : FileTree) (parameters : Parameters) (config : Config) (schema : Schema)
    (journal : List Event) : Outcome × FileTree :=
  match documentFor tree parameters config schema with
  | .error fault => (.ofUnreported fault journal, tree)
  | .ok document => deliver parameters config document journal tree

theorem convert_eq (h : Converts tree given parameters config schema registry) :
    convert parameters tree = finish tree parameters config schema registry.journal := by
  obtain ⟨values, hvalues, hconverted⟩ := h.converted
  rw [convert, h.configured, ok_bind, hvalues, ok_bind]
  dsimp only [pure, Except.pure]
  rw [hconverted]
  rfl

theorem run_eq {arguments : List String} (hread : Arguments.read arguments = .ok given)
    (hhelp : given.has .help = false) (h : Converts tree given parameters config schema registry) :
    run arguments tree = finish tree parameters config schema registry.journal := by
  rw [run, hread]
  dsimp only
  rw [hhelp, if_neg Bool.false_ne_true, h.asked]
  exact convert_eq h

/-- A run that ends well has come to a schema. -/
theorem exists_converts {arguments : List String} (hread : Arguments.read arguments = .ok given)
    (hhelp : given.has .help = false) (hexit : (run arguments tree).1.exitCode = 0) :
    ∃ parameters config schema registry,
      Converts tree given parameters config schema registry := by
  rw [run, hread] at hexit
  dsimp only at hexit
  rw [hhelp, if_neg Bool.false_ne_true] at hexit
  split at hexit
  · cases hexit
  · cases hexit
  · rename_i parameters hparameters
    rw [convert] at hexit
    dsimp only at hexit
    split at hexit
    · cases hexit
    · rename_i config values hinput
      obtain ⟨settings, hsettings, hinput⟩ := bind_ok hinput
      obtain ⟨found, hfound, hinput⟩ := bind_ok hinput
      cases hinput
      rcases hrun : (Build.convert config none .default [] (.arr values)).on .empty with
        ⟨fault | schema, registry⟩ <;> rw [hrun] at hexit
      · dsimp only at hexit
        split at hexit <;> cases hexit
      · exact ⟨parameters, config, schema, registry, hparameters, hsettings, values, hfound, hrun⟩

/-! ### The document -/

/-- The document of a run that calls its output by a word. -/
def headed (config : Config) (parameters : Parameters) (body output : String) : String :=
  if config.addComment.truthy then
    Sdl.comment s!"Generated by {parameters.line output}" ++ "\n\n" ++ body ++ "\n"
  else body ++ "\n"

theorem isEmpty_generated (line : String) : (s!"Generated by {line}").isEmpty = false := by
  rw [Bool.eq_false_iff]
  intro hempty
  have hnil := congrArg String.toList (String.isEmpty_iff.1 hempty)
  rw [String.toList_append] at hnil
  cases hnil

/-- The document of a run, given how its output is worded. -/
theorem documentFor_eq (hsound : parameters.AreSound tree) (hout : parameters.output? = some out)
    (hresolved : out.IsResolved)
    (hword : config.addComment.truthy = true → word tree (.str out.text) = .ok output) :
    documentFor tree parameters config schema =
      (Sdl.print schema).map fun body => headed config parameters body output := by
  rw [documentFor]
  by_cases hcomment : config.addComment.truthy = true
  · simp only [headed, if_pos hcomment]
    rw [commandLine_eq hsound hout hresolved, hword hcomment]
    exact Sdl.document_str schema (isEmpty_generated _)
  · simp only [headed, if_neg hcomment]
    rw [Sdl.document]
    cases Sdl.print schema <;> rfl

/-- While nothing is there the output is worded by its route. -/
theorem documentFor_missing (hsound : parameters.AreSound tree)
    (hout : parameters.output? = some out) (hresolved : out.IsResolved)
    (hmissing : ∀ entry, tree.find? out ≠ .ok (some entry))
    (h : documentFor tree parameters config schema = .ok document) :
    ∃ body, Sdl.print schema = .ok body ∧ document = headed config parameters body out.text := by
  have hword (hcomment : config.addComment.truthy = true) :
      word tree (.str out.text) = .ok out.text := by
    rw [documentFor, if_pos hcomment, commandLine_eq hsound hout hresolved] at h
    cases hfound : tree.find? out with
    | error fault =>
      rw [word, Route.ofText_text hresolved, hfound] at h
      cases h
    | ok entry? =>
      cases entry? with
      | none => exact word_of_missing hresolved hfound
      | some entry => exact absurd hfound (hmissing entry)
  rw [documentFor_eq hsound hout hresolved hword] at h
  cases hprint : Sdl.print schema with
  | error fault =>
    rw [hprint] at h
    cases h
  | ok body =>
    rw [hprint] at h
    exact ⟨body, rfl, (Except.ok.inj h).symm⟩

/-! ### What is accepted -/

theorem schemaCheck_ok_iff {content : String} :
    schemaCheck content = .ok () ↔ Sdl.check content = .ok () := by
  rw [schemaCheck, mapError_ok_iff]

theorem hasHalves_text (h : out.IsResolved) :
    Text.hasHalves out.text = out.steps.any Text.hasHalves := by
  have hslash : (Text.half? '/').isSome = false := by decide
  rw [Text.hasHalves, h.toList_text, List.any_cons, Text.any_intercalate (by decide), List.any_map,
    hslash, Bool.false_or]
  rfl

theorem hasHalves_name (h : out.IsResolved) (htext : Text.hasHalves out.text = false) :
    Text.hasHalves out.name = false := by
  rw [hasHalves_text h, List.any_eq_false] at htext
  rw [Route.name]
  cases hlast : out.steps.getLast? with
  | none => rfl
  | some name => exact Bool.eq_false_iff.2 (htext name (List.mem_of_getLast? hlast))

/-- A command line can be in a file just if its output and its other words can. -/
theorem hasHalves_line : Text.hasHalves (parameters.line output) = false ↔
    Text.hasHalves (parameters.line "") = false ∧ Text.hasHalves output = false := by
  have hempty : Text.hasHalves "" = false := by decide
  have hblank : Text.hasHalves " " = false := by decide
  rw [Parameters.line, Parameters.line, Text.hasHalves_intercalate hblank,
    Text.hasHalves_intercalate hblank]
  simp only [List.any_append, List.any_cons, List.any_nil, Bool.or_eq_false_iff, hempty]
  simp only [and_true, and_assoc]
  grind

/-- What is accepted below the route of the output is accepted below its name. -/
theorem vet_headed (hresolved : out.IsResolved)
    (h : vet schemaCheck (headed config parameters body out.text) true = .ok ()) :
    vet schemaCheck (headed config parameters body out.name) true = .ok () := by
  rw [vet_ok_iff, schemaCheck_ok_iff] at h ⊢
  by_cases hcomment : config.addComment.truthy = true
  · have hbelow (heading : String) : Sdl.comment heading ++ "\n\n" ++ body ++ "\n" =
        Sdl.comment heading ++ "\n\n" ++ (body ++ "\n") := String.append_assoc
    rw [headed, if_pos hcomment, hbelow, Sdl.check_heading] at h ⊢
    simp only [Text.hasHalves_append, Sdl.hasHalves_comment, Bool.or_eq_false_iff] at h ⊢
    obtain ⟨⟨⟨⟨hverb, hline⟩, hgap⟩, hbody⟩, hcheck⟩ := h
    obtain ⟨hothers, houtput⟩ := hasHalves_line.1 hline
    have hname := hasHalves_line.2 ⟨hothers, hasHalves_name hresolved houtput⟩
    exact ⟨⟨⟨⟨hverb, hname⟩, hgap⟩, hbody⟩, hcheck⟩
  · rw [headed, if_neg hcomment] at h ⊢
    exact h

/-! ### Runs one after the other -/

/-- A run that ends well has put its document in the place of its output. -/
theorem finish_ok (htree : tree.IsProper) (hout : parameters.output? = some out)
    {journal : List Event}
    (hexit : (finish tree parameters config schema journal).1.exitCode = 0) :
    ∃ document paved, documentFor tree parameters config schema = .ok document ∧
      vet schemaCheck document true = .ok () ∧ tree.Keeps paved ∧
      paved.start out = tree.start out ∧
      paved.Lands out (Route.walk (tree.start out) out.steps) ∧
      (finish tree parameters config schema journal).2 =
        paved.put (Route.walk (tree.start out) out.steps) (.file document) := by
  rw [finish] at hexit ⊢
  cases hdocument : documentFor tree parameters config schema with
  | error fault =>
    rw [hdocument] at hexit
    cases hexit
  | ok document =>
    rw [hdocument] at hexit
    dsimp only at hexit ⊢
    rw [deliver, hout] at hexit ⊢
    obtain ⟨paved, hpaved, -, ⟨fault, hwrite⟩ | ⟨-, hvet, hlands, hwrite⟩⟩ :=
      FileWork.write_cases htree schemaCheck out document config.outputMode true
    · dsimp only at hexit
      rw [hwrite] at hexit
      dsimp only at hexit
      split at hexit <;> cases hexit
    · refine ⟨document, paved, rfl, hvet, hpaved.keeps, hpaved.start out, hlands, ?_⟩
      dsimp only
      rw [hwrite]

/-- The tree after a number of runs with the same arguments. -/
def repeated (arguments : List String) (tree : FileTree) : Nat → FileTree
  | 0 => tree
  | n + 1 => (run arguments (repeated arguments tree n)).2

section Forced

-- Arguments that convert what is there into a file, whatever is in its place.
variable {arguments : List String} (hread : Arguments.read arguments = .ok given)
  (hhelp : given.has .help = false)
  (hconverts : Converts tree given parameters config schema registry)
  (hsound : parameters.AreSound tree) (hforce : parameters.force = true)
  (hout : parameters.output? = some out) (hresolved : out.IsResolved)
include hread hhelp hconverts hsound hforce hout hresolved

/-- **A later run writes its document again**, and calls the output by its name. -/
theorem run_later {paved : FileTree} {target : Location} {content : String}
    (hprint : Sdl.print schema = .ok body)
    (hvet : vet schemaCheck (headed config parameters body out.name) true = .ok ())
    (hkeeps : tree.Keeps later) (hwith : later.IsWith paved target content)
    (hlands : paved.Lands out target) :
    run arguments later = ({ journal := registry.journal },
      later.put target (.file (headed config parameters body out.name))) := by
  have hword : word later (.str out.text) = .ok out.name :=
    word_of_found hresolved (hwith.find? hlands)
  rw [run_eq hread hhelp (hconverts.keeps hkeeps), finish,
    documentFor_eq (hsound.keeps hkeeps) hout hresolved fun _ => hword, hprint]
  dsimp only [Except.map]
  rw [deliver, hout]
  dsimp only
  rw [configOf_force hforce hconverts.configured, FileWork.write_again hwith hlands hvet]

/-- Once the document is written it stays, with the output called by its name from the second run
on. -/
theorem repeated_isWith (htree : tree.IsProper)
    (hmissing : ∀ entry, tree.find? out ≠ .ok (some entry))
    (hexit : (run arguments tree).1.exitCode = 0) :
    ∃ body paved target, paved.Lands out target ∧
      ∀ n, (run arguments (repeated arguments tree (n + 1))).1.exitCode = 0 ∧
        (repeated arguments tree (n + 1)).IsWith paved target
          (headed config parameters body (if n = 0 then out.text else out.name)) := by
  rw [run_eq hread hhelp hconverts] at hexit
  obtain ⟨document, paved, hdocument, hvet, hkeeps, hstart, hlands, hfirst⟩ :=
    finish_ok htree hout hexit
  obtain ⟨body, hprint, rfl⟩ := documentFor_missing hsound hout hresolved hmissing hdocument
  have hvet' := vet_headed hresolved hvet
  have hup : ".." ∉ out.parent.steps := fun hmem =>
    (hresolved.isName _ (List.dropLast_subset _ hmem)).2 rfl
  have hfree : tree.get? (Route.walk (tree.start out) out.steps) = none :=
    hlands.get?_eq_none htree hstart hmissing (.inl hup)
  have hlater {later : FileTree} {content : String}
      (hwith : later.IsWith paved (Route.walk (tree.start out) out.steps) content) :=
    run_later hread hhelp hconverts hsound hforce hout hresolved hprint hvet'
      (hwith.keeps hkeeps hfree) hwith hlands
  have hwith (n : Nat) : (repeated arguments tree (n + 1)).IsWith paved
      (Route.walk (tree.start out) out.steps)
      (headed config parameters body (if n = 0 then out.text else out.name)) := by
    induction n with
    | zero =>
      rw [repeated, repeated, run_eq hread hhelp hconverts, hfirst]
      exact .of_put hlands.target_ne_nil _
    | succ n ih =>
      rw [repeated, hlater ih]
      exact ih.put hlands.target_ne_nil _
  exact ⟨body, paved, _, hlands, fun n => ⟨by rw [hlater (hwith n)], hwith n⟩⟩

end Forced

/-- **A run that ends well can be repeated.** Every further run ends well too and leaves the same
document, but that the first one calls the output by its route and the others by its name. Where
only the help is shown the tree stays as it is. -/
theorem run_again {arguments : List String} (htree : tree.IsProper)
    (hnames : ∀ name ∈ tree.workingDirectory, Route.IsName name)
    (hread : Arguments.read arguments = .ok given) {text : String}
    (hout : given.value? .output = some text) (hforce : given.has .force = true)
    (hmissing : ∀ entry,
      tree.find? ((Route.ofText text).resolve tree.workingDirectory) ≠ .ok (some entry))
    (hexit : (run arguments tree).1.exitCode = 0) :
    (∀ n, (run arguments (repeated arguments tree n)).1.exitCode = 0) ∧
      if given.has .help then ∀ n, repeated arguments tree n = tree
      else
        let out := (Route.ofText text).resolve tree.workingDirectory
        ∃ parameters config body, parametersOf tree given = .ok parameters ∧
          configOf tree parameters = .ok config ∧
          (repeated arguments tree 1).read out = .ok (headed config parameters body out.text) ∧
          ∀ n, (repeated arguments tree (n + 2)).read out =
            .ok (headed config parameters body out.name) := by
  by_cases hhelp : given.has .help = true
  · rw [if_pos hhelp]
    have hshown (later : FileTree) : run arguments later = ({ output := help }, later) := by
      rw [run, hread]
      dsimp only
      rw [if_pos hhelp]
    have hsame (n : Nat) : repeated arguments tree n = tree := by
      induction n with
      | zero => rfl
      | succ n ih => rw [repeated, hshown, ih]
    exact ⟨fun n => by rw [hshown], hsame⟩
  · rw [if_neg hhelp]
    rw [Bool.not_eq_true] at hhelp
    obtain ⟨parameters, config, schema, registry, hconverts⟩ := exists_converts hread hhelp hexit
    have hasked := hconverts.asked
    have hresolved := Route.isResolved_resolve hnames text
    obtain ⟨body, paved, target, hlands, hruns⟩ := repeated_isWith hread hhelp hconverts
      (parametersOf_areSound hnames hasked) ((parametersOf_force hasked).trans hforce)
      (parametersOf_output? hout hasked) hresolved htree hmissing hexit
    refine ⟨fun n => ?_, parameters, config, body, hasked, hconverts.configured,
      (hruns 0).2.read hlands, fun n => (hruns (n + 1)).2.read hlands⟩
    cases n with
    | zero => exact hexit
    | succ n => exact (hruns n).1

/-- A directory with a document and a configuration. -/
def workTree : FileTree :=
  let document := Json.obj [("$id", .str "A"), ("type", .str "object"),
    ("properties", .obj [("b", .obj [("type", .str "string")])])]
  let config := Json.obj [("meta_schema_validation", .str "off")]
  { entries := [(["w"], .directory), (["w", "a"], .file document.print),
      (["w", "c"], .file config.print)]
    workingDirectory := ["w"] }

/-- Arguments to convert the document to a new file. -/
def workArguments : List String := ["a", "-c", "c", "-o", "b", "--force"]

theorem run_again_workTree :
    (∀ n, (run workArguments (repeated workArguments workTree n)).1.exitCode = 0) ∧
      ∃ parameters config body,
        (repeated workArguments workTree 1).read ⟨true, false, ["w", "b"]⟩ =
          .ok (headed config parameters body "/w/b") ∧
        ∀ n, (repeated workArguments workTree (n + 2)).read ⟨true, false, ["w", "b"]⟩ =
          .ok (headed config parameters body "b") := by
  let given : Arguments :=
    { paths := ["a"], given := [(.config, "c"), (.output, "b"), (.force, "")] }
  have hread : Arguments.read workArguments = .ok given := rfl
  have houtput : given.value? .output = some "b" := rfl
  have hnames : ∀ name ∈ workTree.workingDirectory, Route.IsName name := by
    simp [workTree, Route.IsName, Route.IsPlain, Route.isVoid]
  have hout : (Route.ofText "b").resolve workTree.workingDirectory = ⟨true, false, ["w", "b"]⟩ := by
    decide +kernel
  have hmissing (entry : Entry) : workTree.find? ⟨true, false, ["w", "b"]⟩ ≠ .ok (some entry) := by
    have hnone : workTree.find? ⟨true, false, ["w", "b"]⟩ = .ok none := rfl
    simp [hnone]
  obtain ⟨hexits, hruns⟩ := run_again
    (FileTree.isProper_of_entries (by decide +kernel) (by decide +kernel)) hnames hread houtput rfl
    (hout ▸ hmissing) (by decide +kernel)
  rw [hout] at hruns
  obtain ⟨parameters, config, body, -, -, hfirst, hlater⟩ := hruns
  exact ⟨hexits, parameters, config, body, hfirst, hlater⟩

/-- The documents of the first two runs can differ: by what they call the output. -/
theorem run_renames :
    let first := run workArguments workTree
    let second := run workArguments first.2
    let line := "# Generated by json_schema_to_graphql a --config c --output "
    let rest := " --force\n\ntype A \x7b\n  b: String\n\x7d\n\ntype Query \x7b\n  as: [A]\n\x7d\n"
    workTree.content? ["w", "b"] = none ∧ first.1.exitCode = 0 ∧ second.1.exitCode = 0 ∧
      first.2.content? ["w", "b"] = some (line ++ "/w/b" ++ rest) ∧
      second.2.content? ["w", "b"] = some (line ++ "b" ++ rest) := by
  decide +kernel

end SchemaGraph.Command
