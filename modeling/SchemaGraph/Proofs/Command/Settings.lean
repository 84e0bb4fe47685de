import SchemaGraph.Config
import SchemaGraph.Proofs.Failure.Steps

/-! Settings from a file.

A file is read key by key, but what it comes to depends on a few names only: those of the
settings, and that of the report (`ofObject_eq`). So a setting is what the file gives for it, or
else its default, and all other keys mean nothing, except for names that every configuration has
besides its settings: three of them cannot be given as values at all (`innerNames`), and one hides
the report. A report is itself such a file, and it comes to the configuration that it reports on
(`ofObject_report`). -/
namespace SchemaGraph

/-! ### Words for modes -/

/-- The value is a word for a mode of the check. -/
def CheckMode.IsWord (value : Json) : Prop := ∃ mode : CheckMode, value = .str mode.word

/-- The value is a word for a mode of writing. -/
def OutputMode.IsWord (value : Json) : Prop := ∃ mode : OutputMode, value = .str mode.word

theorem CheckMode.isWord_warn : IsWord (.str "warn") := ⟨warn, rfl⟩

theorem OutputMode.isWord_error : IsWord (.str "error") := ⟨error, rfl⟩

theorem CheckMode.ofJson_error {value : Json} (h : ¬ IsWord value) :
    ofJson value = .error (.badMode .metaSchema value) := by
  unfold ofJson
  split
  · exact absurd ⟨off, rfl⟩ h
  · exact absurd ⟨warn, rfl⟩ h
  · exact absurd ⟨error, rfl⟩ h
  · rfl

theorem OutputMode.ofJson_error {value : Json} (h : ¬ IsWord value) :
    ofJson value = .error (.badMode .output value) := by
  unfold ofJson
  split
  · exact absurd ⟨error, rfl⟩ h
  · exact absurd ⟨force, rfl⟩ h
  · rfl

namespace Config

variable {given : List (String × Json)} {config : Config}

/-! ### The names that matter -/

/-- The names of a configuration's own parts, which no value can take the place of. -/
def innerNames : List String := ["__class__", "__weakref__", "__dict__"]

/-- The name of the report. -/
def reportName : String := "to_dict"

/-- Two lists of settings say the same about all that is read of them. -/
def ReadAlike (first second : List (String × Json)) : Prop :=
  ∀ name, name ∈ settingNames ∨ name = reportName → first.lookup name = second.lookup name

theorem ReadAlike.read_eq {first second : List (String × Json)} (h : ReadAlike first second) :
    read (.obj first) = read (.obj second) := by
  have hreport : first.lookup "to_dict" = second.lookup "to_dict" := h _ (.inr rfl)
  have hsetting (name : String) (hname : name ∈ settingNames) :
      first.lookup name = second.lookup name := h name (.inl hname)
  simp only [read, Json.member?, hreport, hsetting "meta_schema_validation" (by decide),
    hsetting "allow_duplicate_ids" (by decide), hsetting "validate_output" (by decide),
    hsetting "query_type_name" (by decide), hsetting "empty_field_name" (by decide),
    hsetting "add_generation_comment" (by decide), hsetting "output_mode" (by decide),
    hsetting "exclude_from_query" (by decide)]

theorem hold_eq {held : List (String × Json)} {name : String} (h : name ∉ innerNames)
    (value : Json) :
    hold held (name, value) =
      .ok (if isKnown held name then (name, value) :: held else held) := by
  unfold hold
  split
  case h_5 heq =>
    cases heq
    rfl
  all_goals
    rename_i heq
    cases heq
    exact absurd (by decide) h

/-- The names that matter are known as long as no setting was taken away. -/
theorem isKnown_of_mem {held : List (String × Json)} {name : String}
    (hheld : (held.lookup "exclude_from_query").isSome = true)
    (hname : name ∈ settingNames ∨ name = reportName) : isKnown held name = true := by
  rcases hname with hname | rfl
  · by_cases hexclude : name = "exclude_from_query"
    · rw [hexclude, isKnown, hheld, Bool.true_or, Bool.true_or]
    · have hinitial : initial.lookup name = none := by
        rw [initial, List.lookup_cons, beq_eq_false_iff_ne.2 hexclude, List.lookup_nil]
      simp [isKnown, hinitial, hname]
  · simp [isKnown, reportName]

theorem lookup_of_notMem {name : String} (h : name ∉ given.map Prod.fst) :
    given.lookup name = none := by
  rw [List.lookup_eq_none_iff]
  intro entry hentry
  refine bne_iff_ne.2 fun heq => h ?_
  rw [heq]
  exact List.mem_map_of_mem hentry

/-- Going through a file puts what it gives over what is held, for the names that matter. -/
theorem foldlM_hold {held : List (String × Json)} (hnames : (given.map Prod.fst).Nodup)
    (hinner : ∀ name ∈ given.map Prod.fst, name ∉ innerNames)
    (hheld : (held.lookup "exclude_from_query").isSome = true) :
    ∃ kept, given.foldlM hold held = .ok kept ∧ ReadAlike kept (given ++ held) := by
  induction given generalizing held with
  | nil => exact ⟨held, rfl, fun _ _ => rfl⟩
  | cons entry given ih =>
    obtain ⟨key, value⟩ := entry
    obtain ⟨hfresh, hnames⟩ := List.nodup_cons.1 hnames
    obtain ⟨hkey, hinner⟩ := List.forall_mem_cons.1 hinner
    -- The entry is put over what is held, or its key is none that matters.
    have hstep : ∃ next, hold held (key, value) = .ok next ∧
        (next.lookup "exclude_from_query").isSome = true ∧
        ReadAlike next ((key, value) :: held) := by
      rw [hold_eq hkey]
      by_cases hknown : isKnown held key = true
      · refine ⟨(key, value) :: held, by rw [if_pos hknown], ?_, fun _ _ => rfl⟩
        rw [List.lookup_cons]
        split
        · rfl
        · exact hheld
      · refine ⟨held, by rw [if_neg hknown], hheld, fun name hname => ?_⟩
        have hne : name ≠ key := fun heq => hknown (heq ▸ isKnown_of_mem hheld hname)
        rw [List.lookup_cons, beq_eq_false_iff_ne.2 hne]
    obtain ⟨next, hnext, hexclude, halike⟩ := hstep
    obtain ⟨kept, hkept, hread⟩ := ih hnames hinner hexclude
    refine ⟨kept, by rw [List.foldlM_cons, hnext, ok_bind, hkept], fun name hname => ?_⟩
    rw [hread name hname, List.lookup_append, halike name hname, List.cons_append,
      List.lookup_cons, List.lookup_cons]
    by_cases heq : name = key
    · subst heq
      rw [lookup_of_notMem hfresh, beq_self_eq_true]
      rfl
    · rw [beq_eq_false_iff_ne.2 heq, List.lookup_append]

/-- **What a file comes to depends on the names that matter**, whatever the order of its keys. -/
theorem ofObject_eq (hnames : (given.map Prod.fst).Nodup)
    (hinner : ∀ name ∈ given.map Prod.fst, name ∉ innerNames) :
    ofObject (.obj given) = read (.obj (given ++ initial)) := by
  have hheld : (initial.lookup "exclude_from_query").isSome = true := rfl
  obtain ⟨kept, hkept, halike⟩ := foldlM_hold hnames hinner hheld
  rw [ofObject, hkept, ok_bind, halike.read_eq]

/-! ### What a file comes to -/

/-- The settings at their defaults, as a report lists them. -/
def defaults : List (String × Json) := toMembers {} (.arr [])

/-- The defaults with what a file gives in their places. -/
def overridden (given : List (String × Json)) : List (String × Json) :=
  defaults.map fun setting => (setting.1, (given.lookup setting.1).getD setting.2)

theorem lookup_initial {name : String} (h : name ≠ "exclude_from_query") :
    (given ++ initial).lookup name = given.lookup name := by
  rw [List.lookup_append, initial, List.lookup_cons, beq_eq_false_iff_ne.2 h, List.lookup_nil,
    Option.or_none]

theorem lookup_initial_exclude : (given ++ initial).lookup "exclude_from_query" =
    some ((given.lookup "exclude_from_query").getD (.arr [])) := by
  rw [List.lookup_append]
  cases given.lookup "exclude_from_query" <;> rfl

/-- Reading asks for the two modes, and takes all else as it is given. -/
theorem read_initial :
    read (.obj (given ++ initial)) = do
      let checkMode ← CheckMode.ofJson ((given.lookup "meta_schema_validation").getD (.str "warn"))
      let outputMode ← OutputMode.ofJson ((given.lookup "output_mode").getD (.str "error"))
      return {
        checkMode, outputMode
        allowDuplicates := (given.lookup "allow_duplicate_ids").getD (.bool false)
        validateOutput := (given.lookup "validate_output").getD (.bool true)
        queryName := (given.lookup "query_type_name").getD (.str "Query")
        emptyField := (given.lookup "empty_field_name").getD (.str "_empty")
        addComment := (given.lookup "add_generation_comment").getD (.bool true)
        exclude? := some ((given.lookup "exclude_from_query").getD (.arr []))
        reportHidden := (given.lookup reportName).isSome } := by
  have hother (name : String) (h : name ≠ "exclude_from_query") :
      (Json.obj (given ++ initial)).member? name = given.lookup name := lookup_initial h
  have hexclude : (Json.obj (given ++ initial)).member? "exclude_from_query" =
      some ((given.lookup "exclude_from_query").getD (.arr [])) := lookup_initial_exclude
  rw [read]
  simp only [hother "meta_schema_validation" (by decide), hother "output_mode" (by decide),
    hother "allow_duplicate_ids" (by decide), hother "validate_output" (by decide),
    hother "query_type_name" (by decide), hother "empty_field_name" (by decide),
    hother "add_generation_comment" (by decide), hother "to_dict" (by decide), hexclude]
  rfl

/-- The configuration has the settings that a file gives, and the others at their defaults. -/
structure Follows (config : Config) (given : List (String × Json)) : Prop where
  members : ∃ exclude, config.exclude? = some exclude ∧
    config.toMembers exclude = overridden given
  reportHidden : config.reportHidden = (given.lookup reportName).isSome

theorem read_follows {checkMode : CheckMode} {outputMode : OutputMode}
    (hcheck : (given.lookup "meta_schema_validation").getD (.str "warn") = .str checkMode.word)
    (houtput : (given.lookup "output_mode").getD (.str "error") = .str outputMode.word) :
    ∃ config, read (.obj (given ++ initial)) = .ok config ∧ config.Follows given := by
  rw [read_initial, hcheck, houtput, CheckMode.ofJson_word, OutputMode.ofJson_word]
  refine ⟨_, rfl, ⟨_, rfl, ?_⟩, rfl⟩
  show _ = List.map _ (toMembers {} (.arr []))
  simp only [toMembers, List.map_cons, List.map_nil, ← hcheck, ← houtput]
  rfl

/-- What is given, or else a default, is fit if both are. -/
theorem fit_getD {fit : Json → Prop} {given? : Option Json} {default : Json}
    (hgiven : ∀ value, given? = some value → fit value) (hdefault : fit default) :
    fit (given?.getD default) := by
  cases given? with
  | none => exact hdefault
  | some value => exact hgiven value rfl

/-- The modes that a file gives, if any, go by their words. -/
def GivesModes (given : List (String × Json)) : Prop :=
  (∀ value, given.lookup "meta_schema_validation" = some value → CheckMode.IsWord value) ∧
    ∀ value, given.lookup "output_mode" = some value → OutputMode.IsWord value

theorem read_of_givesModes (h : GivesModes given) :
    ∃ config, read (.obj (given ++ initial)) = .ok config ∧ config.Follows given := by
  obtain ⟨checkMode, hcheck⟩ := fit_getD h.1 CheckMode.isWord_warn
  obtain ⟨outputMode, houtput⟩ := fit_getD h.2 OutputMode.isWord_error
  exact read_follows hcheck houtput

/-- The fault is about a mode that a file gives otherwise than by a word for it. -/
def IsModeFault (given : List (String × Json)) (fault : Fault) : Prop :=
  (∃ value, given.lookup "meta_schema_validation" = some value ∧ ¬ CheckMode.IsWord value ∧
    fault = .badMode .metaSchema value) ∨
  ∃ value, given.lookup "output_mode" = some value ∧ ¬ OutputMode.IsWord value ∧
    fault = .badMode .output value

theorem read_of_not_givesModes (h : ¬ GivesModes given) :
    ∃ fault, IsModeFault given fault ∧ read (.obj (given ++ initial)) = .error fault := by
  by_cases hcheck : ∀ value, given.lookup "meta_schema_validation" = some value →
      CheckMode.IsWord value
  · have houtput : ¬ ∀ value, given.lookup "output_mode" = some value → OutputMode.IsWord value :=
      fun houtput => h ⟨hcheck, houtput⟩
    push Not at houtput
    obtain ⟨value, hgiven, hvalue⟩ := houtput
    obtain ⟨checkMode, hword⟩ := fit_getD hcheck CheckMode.isWord_warn
    refine ⟨_, .inr ⟨value, hgiven, hvalue, rfl⟩, ?_⟩
    rw [read_initial, hword, hgiven, CheckMode.ofJson_word, ok_bind, Option.getD_some,
      OutputMode.ofJson_error hvalue]
    rfl
  · push Not at hcheck
    obtain ⟨value, hgiven, hvalue⟩ := hcheck
    refine ⟨_, .inl ⟨value, hgiven, hvalue, rfl⟩, ?_⟩
    rw [read_initial, hgiven, Option.getD_some, CheckMode.ofJson_error hvalue]
    rfl

theorem follows_of_read (h : read (.obj (given ++ initial)) = .ok config) :
    config.Follows given := by
  by_cases hmodes : GivesModes given
  · obtain ⟨made, hread, hfollows⟩ := read_of_givesModes hmodes
    rw [hread] at h
    cases h
    exact hfollows
  · obtain ⟨_, -, hread⟩ := read_of_not_givesModes hmodes
    rw [hread] at h
    cases h

/-- The settings that a file gives are all that is looked up in it, but for the report's name. -/
theorem lookup_filter {name : String} (hname : name ∈ settingNames) :
    (given.filter fun entry => entry.1 ∈ settingNames).lookup name = given.lookup name := by
  induction given with
  | nil => rfl
  | cons entry given ih =>
    by_cases hentry : entry.1 ∈ settingNames
    · rw [List.filter_cons_of_pos (by simpa using hentry), List.lookup_cons, List.lookup_cons, ih]
    · have hne : name ≠ entry.1 := fun heq => hentry (heq ▸ hname)
      rw [List.filter_cons_of_neg (by simpa using hentry), List.lookup_cons,
        beq_eq_false_iff_ne.2 hne, ih]

/-! ### Reports -/

theorem isSome_lookup_iff {name : String} :
    (given.lookup name).isSome = true ↔ name ∈ given.map Prod.fst := by
  rw [List.lookup_isSome_iff, List.mem_map]
  refine exists_congr fun entry => and_congr_right fun _ => ?_
  rw [beq_iff_eq]
  exact eq_comm

theorem Follows.report_ok (h : config.Follows given) (hreport : reportName ∉ given.map Prod.fst) :
    config.report = .ok (.obj (overridden given)) := by
  obtain ⟨⟨exclude, hexclude, hmembers⟩, hhidden⟩ := h
  have hshown : config.reportHidden = false := by
    rw [hhidden, Bool.eq_false_iff, Ne, isSome_lookup_iff]
    exact hreport
  rw [report, hshown, excluded, hexclude, if_neg Bool.false_ne_true, ok_bind, hmembers]
  rfl

theorem Follows.report_hidden (h : config.Follows given)
    (hreport : reportName ∈ given.map Prod.fst) :
    config.report = .error (.wrongKind .report) := by
  rw [report, h.reportHidden, isSome_lookup_iff.2 hreport, if_pos rfl]

theorem excluded_ok {exclude : Json} (h : config.excluded = .ok exclude) :
    config.exclude? = some exclude := by
  rw [excluded] at h
  split at h
  · rename_i hexclude
    rw [hexclude, Except.ok.inj h]
  · cases h

/-- **A report is a file for the configuration that it reports on.** -/
theorem ofObject_report {report : Json} (h : config.report = .ok report) :
    ofObject report = .ok config := by
  rw [Config.report] at h
  split at h
  · cases h
  · rename_i hshown
    obtain ⟨exclude, hexclude, h⟩ := bind_ok h
    cases h
    have hnames : ((config.toMembers exclude).map Prod.fst).Nodup := by
      show settingNames.Nodup
      decide
    have hinner : ∀ name ∈ (config.toMembers exclude).map Prod.fst, name ∉ innerNames := by
      show ∀ name ∈ settingNames, name ∉ innerNames
      decide
    have hcheck : (config.toMembers exclude).lookup "meta_schema_validation" =
        some (.str config.checkMode.word) := rfl
    have houtput : (config.toMembers exclude).lookup "output_mode" =
        some (.str config.outputMode.word) := rfl
    rw [ofObject_eq hnames hinner, read_initial, hcheck, houtput, Option.getD_some,
      Option.getD_some, CheckMode.ofJson_word, ok_bind, OutputMode.ofJson_word, ok_bind]
    have hkept : config = { config with
        exclude? := some exclude
        reportHidden := false } := by
      rw [← excluded_ok hexclude, ← Bool.eq_false_iff.2 hshown]
    rw [hkept]
    rfl

/-- A configuration made of named settings has a report. -/
theorem exists_report_of_settings {settings : Json} (h : ofSettings settings = .ok config) :
    ∃ report, config.report = .ok report := by
  cases settings with
  | obj members =>
    rw [ofSettings] at h
    split at h
    · rename_i hknown
      refine ⟨_, (follows_of_read h).report_ok fun hmem => ?_⟩
      obtain ⟨entry, hentry, hname⟩ := List.mem_map.1 hmem
      have hsetting : settingNames.contains entry.1 = true :=
        List.all_eq_true.1 hknown entry hentry
      rw [hname] at hsetting
      exact absurd hsetting (by decide)
    · cases h
  | _ => cases h

/-- **Settings are read name by name.** A file that gives none of the names of a configuration's
own parts is refused just if it gives a mode and no word for one, and for that mode. Otherwise the
report on what it comes to lists the defaults with what the file gives in their places, unless a
key hides the report; no other key means anything. Reports can be read back: that on such a
configuration, and on any made of named settings, comes to the same one. -/
theorem ofObject_overridden (hnames : (given.map Prod.fst).Nodup)
    (hinner : ∀ name ∈ given.map Prod.fst, name ∉ innerNames) :
    ((∃ fault, ofObject (.obj given) = .error fault) ↔ ¬ GivesModes given) ∧
    (∀ fault, ofObject (.obj given) = .error fault → IsModeFault given fault) ∧
    (∀ config, ofObject (.obj given) = .ok config → config.report =
      if reportName ∈ given.map Prod.fst then .error (.wrongKind .report)
      else .ok (.obj (defaults.map fun setting =>
        (setting.1, (given.lookup setting.1).getD setting.2)))) ∧
    (reportName ∉ given.map Prod.fst →
      ofObject (.obj given) = ofObject (.obj (given.filter fun entry => entry.1 ∈ settingNames))) ∧
    ∀ config, (∃ settings, ofSettings settings = .ok config) ∨
        (reportName ∉ given.map Prod.fst ∧ ofObject (.obj given) = .ok config) →
      ∃ report, config.report = .ok report ∧ ofObject report = .ok config := by
  have hread := ofObject_eq hnames hinner
  have hfollows {config : Config} (h : ofObject (.obj given) = .ok config) :
      config.Follows given := follows_of_read (hread.symm.trans h)
  have hrefused {fault : Fault} (h : ofObject (.obj given) = .error fault) :
      ¬ GivesModes given := by
    intro hmodes
    obtain ⟨made, hmade, -⟩ := read_of_givesModes hmodes
    rw [hread, hmade] at h
    cases h
  refine ⟨⟨fun ⟨_, h⟩ => hrefused h, fun hmodes => ?_⟩, fun fault h => ?_, fun config h => ?_,
    fun hreport => ?_, fun config h => ?_⟩
  · obtain ⟨_, -, herror⟩ := read_of_not_givesModes hmodes
    exact ⟨_, hread.trans herror⟩
  · obtain ⟨other, hfault, herror⟩ := read_of_not_givesModes (hrefused h)
    rw [hread, herror] at h
    cases h
    exact hfault
  · split
    · rename_i hreport
      exact (hfollows h).report_hidden hreport
    · rename_i hreport
      exact (hfollows h).report_ok hreport
  · have hsub : (given.filter fun entry => entry.1 ∈ settingNames).Sublist given :=
      List.filter_sublist
    rw [hread, ofObject_eq (hnames.sublist (hsub.map _))
      fun name hname => hinner name ((hsub.map _).subset hname)]
    refine ReadAlike.read_eq fun name hname => ?_
    rw [List.lookup_append, List.lookup_append]
    rcases hname with hname | rfl
    · rw [lookup_filter hname]
    · rw [lookup_of_notMem hreport, lookup_of_notMem fun h => hreport ((hsub.map _).subset h)]
  · have hreport : ∃ report, config.report = .ok report := by
      rcases h with ⟨settings, h⟩ | ⟨hreport, h⟩
      · exact exists_report_of_settings h
      · exact ⟨_, (hfollows h).report_ok hreport⟩
    obtain ⟨report, hreport⟩ := hreport
    exact ⟨report, hreport, ofObject_report hreport⟩

/-- One setting and a key that means nothing. -/
theorem ofObject_overridden_root :
    let given : List (String × Json) :=
      [("no_such_option", .int 1), ("query_type_name", .str "Root")]
    let report : Json := .obj [("meta_schema_validation", .str "warn"),
      ("allow_duplicate_ids", .bool false), ("validate_output", .bool true),
      ("query_type_name", .str "Root"), ("empty_field_name", .str "_empty"),
      ("add_generation_comment", .bool true), ("output_mode", .str "error"),
      ("exclude_from_query", .arr [])]
    ∃ config, ofObject (.obj given) = .ok config ∧ config.report = .ok report ∧
      ofObject report = .ok config := by
  intro given report
  have hnames : (given.map Prod.fst).Nodup := by decide
  have hinner : ∀ name ∈ given.map Prod.fst, name ∉ innerNames := by decide
  obtain ⟨-, -, hreport, -, hback⟩ := ofObject_overridden hnames hinner
  obtain ⟨config, hconfig⟩ : ∃ config, ofObject (.obj given) = .ok config := ⟨_, rfl⟩
  have hlisted : config.report = .ok report := hreport config hconfig
  obtain ⟨other, hother, hsame⟩ := hback config (.inr ⟨by decide, hconfig⟩)
  rw [hlisted] at hother
  cases hother
  exact ⟨config, hconfig, hlisted, hsame⟩

/-- A key that is no setting can take the report away. -/
theorem ofObject_report_hidden :
    ∃ config, ofObject (.obj [("to_dict", .int 1)]) = .ok config ∧
      config.report = .error (.wrongKind .report) ∧ ofObject (.obj []) ≠ .ok config := by
  refine ⟨_, rfl, rfl, fun h => ?_⟩
  cases h

end Config
end SchemaGraph
