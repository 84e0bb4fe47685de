import SchemaGraph.Command.Run
import SchemaGraph.Proofs.Files.Rewriting
import SchemaGraph.Proofs.Files.Spelling

/-! How a run words what it was asked to do.

The paths of a run, and the route of its configuration, lead to something and are resolved
(`Parameters.AreSound`), so the command line calls them by their names. Its output is
called by its spelling as long as nothing is there, and by its name from then on
(`commandLine_eq`). A tree that keeps what was there gives a run the same parameters
(`parametersOf_keeps`). -/
namespace SchemaGraph.Command

variable {tree later : FileTree} {given : Arguments} {parameters : Parameters} {route : Route}

/-! ### Routes in arguments -/

theorem routeOf_ok {text : String} (h : routeOf tree text = .ok route) :
    route = (Route.ofText text).resolve tree.workingDirectory := by
  rw [routeOf] at h
  split at h
  · cases h
  · exact (Except.ok.inj h).symm

theorem routeOf_keeps (hkeeps : tree.Keeps later) (text : String) :
    routeOf later text = routeOf tree text := by
  rw [routeOf, routeOf, hkeeps.workingDirectory]

theorem existing_ok_iff {parameter : PathParameter} {text : String} :
    existing tree parameter text = .ok route ↔
      routeOf tree text = .ok route ∧ ∃ entry, tree.find? route = .ok (some entry) := by
  constructor
  · intro h
    obtain ⟨found, hroute, h⟩ := bind_ok h
    split at h
    · rename_i entry hentry
      cases h
      exact ⟨hroute, entry, hentry⟩
    · cases h
  · rintro ⟨hroute, entry, hentry⟩
    rw [existing, hroute, ok_bind, hentry]
    rfl

theorem existing_keeps (hkeeps : tree.Keeps later) {parameter : PathParameter} {text : String}
    (h : existing tree parameter text = .ok route) : existing later parameter text = .ok route := by
  obtain ⟨hroute, entry, hentry⟩ := existing_ok_iff.1 h
  exact existing_ok_iff.2 ⟨(routeOf_keeps hkeeps text).trans hroute, entry, hkeeps.find? hentry⟩

theorem optionRoute?_keeps (hkeeps : tree.Keeps later) {flag : Flag} {text : String}
    {route? : Option Route} (h : optionRoute? tree flag text = .ok route?) :
    optionRoute? later flag text = .ok route? := by
  cases flag with
  | config =>
    cases hroute : existing tree .config text with
    | error refusal =>
      rw [optionRoute?, hroute] at h
      cases h
    | ok route =>
      rw [optionRoute?, hroute] at h
      rw [optionRoute?, existing_keeps hkeeps hroute]
      exact h
  | output =>
    rw [optionRoute?, routeOf_keeps hkeeps]
    exact h
  | force | strict | verbose | help => exact h

/-! ### Parameters -/

/-- An option with the route that it names, if it names one. -/
def optionOf (tree : FileTree) (given : Arguments) (flag : Flag) :
    Except Refusal (Flag × Option Route) := do
  return (flag, ← optionRoute? tree flag ((given.value? flag).getD ""))

theorem optionOf_ok_iff {flag : Flag} {option : Flag × Option Route} :
    optionOf tree given flag = .ok option ↔
      option.1 = flag ∧ optionRoute? tree flag ((given.value? flag).getD "") = .ok option.2 := by
  obtain ⟨name, route?⟩ := option
  rw [optionOf]
  cases optionRoute? tree flag ((given.value? flag).getD "") with
  | error refusal => simp [bind, Except.bind]
  | ok found => simp [bind, Except.bind, pure, Except.pure, eq_comm]

theorem parametersOf_ok_iff : parametersOf tree given = .ok parameters ↔
    ∃ options paths, given.flags.mapM (optionOf tree given) = .ok options ∧
      given.paths.isEmpty = false ∧ given.paths.mapM (existing tree .paths) = .ok paths ∧
      parameters =
        { paths, config? := (options.lookup .config).join
          output? := (options.lookup .output).join, force := given.has .force
          strict := given.has .strict, verbose := given.has .verbose } := by
  constructor
  · intro h
    obtain ⟨options, hoptions, h⟩ := bind_ok h
    dsimp only at h
    split at h
    · cases h
    · rename_i hpaths
      obtain ⟨paths, hroutes, h⟩ := bind_ok h
      cases h
      exact ⟨options, paths, hoptions, Bool.eq_false_iff.2 hpaths, hroutes, rfl⟩
  · rintro ⟨options, paths, hoptions, hpaths, hroutes, rfl⟩
    rw [parametersOf]
    change (given.flags.mapM (optionOf tree given) >>= _) = _
    rw [hoptions, ok_bind, hpaths]
    dsimp only
    rw [if_neg Bool.false_ne_true, hroutes]
    rfl

/-- The parameters of a run stay what they are where nothing is lost. -/
theorem parametersOf_keeps (hkeeps : tree.Keeps later)
    (h : parametersOf tree given = .ok parameters) : parametersOf later given = .ok parameters := by
  obtain ⟨options, paths, hoptions, hpaths, hroutes, heq⟩ := parametersOf_ok_iff.1 h
  refine parametersOf_ok_iff.2 ⟨options, paths, ?_, hpaths, ?_, heq⟩
  · refine mapM_ok_mono (fun flag option hoption => ?_) hoptions
    rw [optionOf_ok_iff] at hoption ⊢
    exact hoption.imp_right (optionRoute?_keeps hkeeps)
  · exact mapM_ok_mono (fun text route => existing_keeps hkeeps) hroutes

/-- What an option's route comes from. -/
theorem lookup_option {options : List (Flag × Option Route)} {flag : Flag}
    {route? : Option Route} (hoptions : given.flags.mapM (optionOf tree given) = .ok options)
    (h : options.lookup flag = some route?) :
    optionRoute? tree flag ((given.value? flag).getD "") = .ok route? := by
  obtain ⟨before, rest, heq, -⟩ := List.lookup_eq_some_iff.1 h
  have hmem : (flag, route?) ∈ options := by simp [heq]
  obtain ⟨other, -, hother⟩ := mapM_mem hoptions _ hmem
  obtain ⟨rfl, hroute⟩ := optionOf_ok_iff.1 hother
  exact hroute

/-- Routes that say where something is. -/
structure Parameters.AreSound (parameters : Parameters) (tree : FileTree) : Prop where
  paths : ∀ route ∈ parameters.paths,
    route.IsResolved ∧ ∃ entry, tree.find? route = .ok (some entry)
  isSome : parameters.paths ≠ []
  config : ∀ route, parameters.config? = some route →
    route.IsResolved ∧ ∃ entry, tree.find? route = .ok (some entry)

theorem parametersOf_areSound (hnames : ∀ name ∈ tree.workingDirectory, Route.IsName name)
    (h : parametersOf tree given = .ok parameters) : parameters.AreSound tree := by
  have hsound {parameter : PathParameter} {text : String} {route : Route}
      (hroute : existing tree parameter text = .ok route) :
      route.IsResolved ∧ ∃ entry, tree.find? route = .ok (some entry) := by
    obtain ⟨hroute, hfound⟩ := existing_ok_iff.1 hroute
    exact ⟨routeOf_ok hroute ▸ Route.isResolved_resolve hnames text, hfound⟩
  obtain ⟨options, paths, hoptions, hpaths, hroutes, rfl⟩ := parametersOf_ok_iff.1 h
  refine ⟨fun route hroute => ?_, ?_, fun route hroute => ?_⟩
  · obtain ⟨text, -, htext⟩ := mapM_mem hroutes route hroute
    exact hsound htext
  · intro hnil
    have hlength := (mapM_ok_iff.1 hroutes).length_eq
    rw [show paths = [] from hnil, List.length_nil, List.length_eq_zero_iff] at hlength
    rw [hlength] at hpaths
    cases hpaths
  · have hoption := lookup_option hoptions (Option.join_eq_some_iff.1 hroute)
    rw [optionRoute?] at hoption
    cases hexisting : existing tree .config ((given.value? .config).getD "") with
    | error refusal =>
      rw [hexisting] at hoption
      cases hoption
    | ok found =>
      rw [hexisting] at hoption
      cases hoption
      exact hsound hexisting

theorem parametersOf_force (h : parametersOf tree given = .ok parameters) :
    parameters.force = given.has .force := by
  obtain ⟨-, -, -, -, -, rfl⟩ := parametersOf_ok_iff.1 h
  rfl

theorem Parameters.AreSound.keeps (h : parameters.AreSound tree) (hkeeps : tree.Keeps later) :
    parameters.AreSound later where
  paths route hroute :=
    (h.paths route hroute).imp_right fun ⟨entry, hfound⟩ => ⟨entry, hkeeps.find? hfound⟩
  isSome := h.isSome
  config route hroute :=
    (h.config route hroute).imp_right fun ⟨entry, hfound⟩ => ⟨entry, hkeeps.find? hfound⟩

/-- The output goes where its option says. -/
theorem parametersOf_output? {text : String} (htext : given.value? .output = some text)
    (h : parametersOf tree given = .ok parameters) :
    parameters.output? = some ((Route.ofText text).resolve tree.workingDirectory) := by
  obtain ⟨options, paths, hoptions, -, -, rfl⟩ := parametersOf_ok_iff.1 h
  have hflag : Flag.output ∈ given.flags := by
    rw [Arguments.value?, Option.map_eq_some_iff] at htext
    obtain ⟨item, hlast, -⟩ := htext
    have hitem := List.mem_filter.1 (List.mem_of_getLast? hlast)
    rw [Arguments.flags, List.mem_eraseDups, List.mem_map]
    exact ⟨item, hitem.1, by simpa using hitem.2⟩
  obtain ⟨option, hmem, hoption⟩ := forall₂_exists (mapM_ok_iff.1 hoptions) hflag
  have hname := (optionOf_ok_iff.1 hoption).1
  cases hlookup : options.lookup .output with
  | none =>
    have hother := List.lookup_eq_none_iff.1 hlookup option hmem
    simp [hname] at hother
  | some route? =>
    have hroute := lookup_option hoptions hlookup
    rw [htext, Option.getD_some, optionRoute?] at hroute
    cases hnamed : routeOf tree text with
    | error refusal =>
      rw [hnamed] at hroute
      cases hroute
    | ok route =>
      rw [hnamed] at hroute
      cases hroute
      exact congrArg some (routeOf_ok hnamed)

/-! ### Words -/

/-- The command line of a run, given what it calls its output. -/
def Parameters.line (parameters : Parameters) (output : String) : String :=
  let config := match parameters.config? with
    | some route => ["--config", route.name]
    | none => []
  let flags := flagWords "--force" (.bool parameters.force) ++
    flagWords "--strict" (.bool parameters.strict) ++
    flagWords "--verbose" (.bool parameters.verbose)
  " ".intercalate
    (programName :: parameters.paths.map Route.name ++ config ++ ["--output", output] ++ flags)

theorem truthy_text (h : route.IsResolved) : Json.truthy (.str route.text) = true := by
  rw [Json.truthy, Bool.not_eq_true', Bool.eq_false_iff]
  intro hempty
  have hnil := congrArg String.toList (String.isEmpty_iff.1 hempty)
  rw [h.toList_text] at hnil
  cases hnil

/-- What is there is called by its name. -/
theorem word_of_found (h : route.IsResolved) {entry : Entry}
    (hfound : tree.find? route = .ok (some entry)) :
    word tree (.str route.text) = .ok route.name := by
  rw [word, Route.ofText_text h, hfound]
  rfl

/-- What is not there is called by its route. -/
theorem word_of_missing (h : route.IsResolved) (hmissing : tree.find? route = .ok none) :
    word tree (.str route.text) = .ok route.text := by
  rw [word, Route.ofText_text h, hmissing]
  rfl

theorem pathWords_eq (hsound : parameters.AreSound tree) :
    pathWords tree (parameters.toJson.member "paths") =
      .ok (parameters.paths.map Route.name) := by
  have hmember : parameters.toJson.member "paths" =
      .arr (parameters.paths.map fun route => .str route.text) := rfl
  have hwords : (parameters.paths.map fun route => Json.str route.text).mapM (word tree) =
      .ok (parameters.paths.map Route.name) := by
    rw [mapM_ok_iff, List.forall₂_map_left_iff, List.forall₂_map_right_iff, List.forall₂_same]
    intro route hroute
    obtain ⟨hresolved, entry, hfound⟩ := hsound.paths route hroute
    exact word_of_found hresolved hfound
  have htruthy : (Json.arr (parameters.paths.map fun route => .str route.text)).truthy = true := by
    rw [Json.truthy]
    simpa using hsound.isSome
  rw [hmember, pathWords, htruthy]
  exact hwords

theorem configWords_eq (hsound : parameters.AreSound tree) :
    valueWords tree "--config" (parameters.toJson.member "config") =
      .ok (match parameters.config? with
        | some route => ["--config", route.name]
        | none => []) := by
  cases hconfig : parameters.config? with
  | none =>
    have hmember : parameters.toJson.member "config" = .null := by
      rw [Parameters.toJson, hconfig]
      rfl
    rw [hmember]
    rfl
  | some route =>
    have hmember : parameters.toJson.member "config" = .str route.text := by
      rw [Parameters.toJson, hconfig]
      rfl
    obtain ⟨hresolved, entry, hfound⟩ := hsound.config route hconfig
    rw [hmember, valueWords, truthy_text hresolved, word_of_found hresolved hfound]
    rfl

/-- A run is worded by names, but for its output. -/
theorem commandLine_eq (hsound : parameters.AreSound tree) {out : Route}
    (hout : parameters.output? = some out) (hresolved : out.IsResolved) :
    commandLine tree parameters.toJson = (word tree (.str out.text)).map parameters.line := by
  have hmember : parameters.toJson.member "output" = .str out.text := by
    rw [Parameters.toJson, hout]
    rfl
  rw [commandLine, pathWords_eq hsound, ok_bind, configWords_eq hsound, ok_bind, hmember,
    valueWords, truthy_text hresolved]
  cases word tree (.str out.text) with
  | error fault => rfl
  | ok output => rfl

end SchemaGraph.Command
