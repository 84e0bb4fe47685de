import Mathlib.Data.List.Pairwise
import SchemaGraph.Proofs.Batch.Letters
import SchemaGraph.Proofs.Failure.Conversion

/-! The default query root.

The root has a list field for every type that is not excluded, in the order of the types
(`RootField.ofEntry`). Making it goes from type to type and stops at the first one whose field
name an earlier type has (`defaultFields_outcome`), so no type is left out or put in the place of
another. The name of a field is the plural of a type name with a small first letter: it is legal,
and as an underscore only ever guards a digit, no two of them start it
(`Name.not_reserved_rootName`). -/
namespace SchemaGraph
namespace Name

/-! ### Names of query fields -/

/-- The name of the default query field for an identifier. -/
def rootName (id : String) : String := lowerFirst (plural (typeName id))

/-- Names that start so are kept for questions about the schema itself. -/
def reservedStart : List Char := ['_', '_']

theorem IsTypeName.not_reserved {name : List Char} (h : IsTypeName name) :
    ¬ reservedStart <+: name := by
  intro hstart
  cases h with
  | capital hc hrest =>
    obtain ⟨rfl, -⟩ := List.cons_prefix_cons.1 hstart
    cases hc
  | guarded hc hrest =>
    obtain ⟨-, hstart⟩ := List.cons_prefix_cons.1 hstart
    obtain ⟨rfl, -⟩ := List.cons_prefix_cons.1 hstart
    cases hc

theorem Inflects.not_reserved {name word : List Char} (hword : Inflects name word)
    (h : ¬ reservedStart <+: name) : ¬ reservedStart <+: word := by
  obtain ⟨start, letters, hstart, hletters, -, rfl⟩ := hword
  have hunderscore : '_' ∉ letters := fun hmem =>
    absurd (List.all_eq_true.1 hletters _ hmem) (by decide)
  intro hreserved
  -- Two underscores would both have to stand in what the words share.
  match start with
  | [] => exact hunderscore (hreserved.subset List.mem_cons_self)
  | [c] =>
    obtain ⟨-, hrest⟩ := List.cons_prefix_cons.1 hreserved
    exact hunderscore (hrest.subset List.mem_cons_self)
  | c :: d :: rest =>
    obtain ⟨rfl, hrest⟩ := List.cons_prefix_cons.1 hreserved
    obtain ⟨rfl, -⟩ := List.cons_prefix_cons.1 hrest
    exact h ((List.prefix_append reservedStart rest).trans hstart)

theorem eq_underscore_of_toLower {c : Char} (h : c.toLower = '_') : c = '_' := by
  cases hupper : c.isUpper with
  | true =>
    have hlower := isLower_toLower hupper
    rw [h] at hlower
    cases hlower
  | false => rwa [toLower_of_not_isUpper hupper] at h

theorem not_reserved_modifyHead {name : List Char} (h : ¬ reservedStart <+: name) :
    ¬ reservedStart <+: name.modifyHead Char.toLower := by
  intro hreserved
  cases name with
  | nil => cases List.prefix_nil.1 hreserved
  | cons c rest =>
    obtain ⟨hc, hrest⟩ := List.cons_prefix_cons.1 hreserved
    rw [eq_underscore_of_toLower hc.symm] at h
    exact h (List.cons_prefix_cons.2 ⟨rfl, hrest⟩)

theorem not_reserved_rootName {id : String} (h : typeName id ≠ "") :
    ¬ reservedStart <+: (rootName id).toList := by
  have hlegal : isLegal (typeName id).toList = true := (flaw?_eq_none_iff _).1 (flaw?_typeName h)
  have hplural : isLegal (plural (typeName id)).toList = true := by
    rw [toList_plural hlegal]
    exact isLegal_pluralChars hlegal
  rw [rootName, toList_lowerFirst hplural, toList_plural hlegal]
  exact not_reserved_modifyHead ((inflects_pluralChars (ne_nil_of_isLegal hlegal)).not_reserved
    (isTypeName_typeName h).not_reserved)

end Name

/-! ### Fields of the root -/

/-- The default query field for a type and its identifier. -/
def RootField.ofEntry (entry : String × GraphType) : RootField :=
  { name := .str (Name.rootName entry.1), wrapping := .list, type := entry.2 }

/-- Types by identifier, as a registry lists them. -/
def entryList (types : List (String × GraphType)) : List (Json × GraphType) :=
  types.map fun entry => (.str entry.1, entry.2)

/-- The types that get a query field. -/
def shownTypes (exclude : List String) (types : List (String × GraphType)) :
    List (String × GraphType) :=
  types.filter fun entry => entry.1 ∉ exclude

/-- Two types one after the other that would have one query field. -/
def SharesRootField (types : List (String × GraphType)) (first second : String) : Prop :=
  [first, second].Sublist (types.map Prod.fst) ∧ Name.rootName first = Name.rootName second

/-- No two types would have one query field. -/
def HasClearRoots (types : List (String × GraphType)) : Prop :=
  types.Pairwise fun first second => Name.rootName first.1 ≠ Name.rootName second.1

theorem shownTypes_cons_of_mem {exclude : List String} {entry : String × GraphType}
    (h : entry.1 ∈ exclude) (types : List (String × GraphType)) :
    shownTypes exclude (entry :: types) = shownTypes exclude types := by
  simp [shownTypes, h]

theorem shownTypes_cons_of_notMem {exclude : List String} {entry : String × GraphType}
    (h : entry.1 ∉ exclude) (types : List (String × GraphType)) :
    shownTypes exclude (entry :: types) = entry :: shownTypes exclude types := by
  simp [shownTypes, h]

theorem same_str (text other : String) : Json.same (.str text) (.str other) = (text == other) := rfl

theorem isExcluded_texts (exclude : List String) (id : String) :
    isExcluded (.arr (exclude.map .str)) (.str id) = .ok (decide (id ∈ exclude)) := by
  have hany : (exclude.map Json.str).any (Json.same (.str id)) = decide (id ∈ exclude) := by
    rw [List.any_map, ← List.contains_eq_mem, List.contains_eq_any_beq]
    rfl
  rw [isExcluded, hany]

/-- What one more type adds to the fields of those before it. -/
theorem addQueryField_eq (exclude : List String) (done : List (String × GraphType))
    (entry : String × GraphType) :
    addQueryField (.arr (exclude.map .str)) (done.map .ofEntry) (.str entry.1, entry.2) =
      if entry.1 ∈ exclude then .ok (done.map .ofEntry)
      else if ∃ first ∈ done, Name.rootName first.1 = Name.rootName entry.1 then
        .error (.queryFieldClash (Name.rootName entry.1) (.str entry.1))
      else .ok ((done ++ [entry]).map .ofEntry) := by
  have hany : ((done.map RootField.ofEntry).any fun field =>
      Json.same field.name (.str (Name.rootName entry.1))) =
        decide (∃ first ∈ done, Name.rootName first.1 = Name.rootName entry.1) := by
    rw [List.any_map, Bool.eq_iff_iff, List.any_eq_true, decide_eq_true_iff]
    simp only [Function.comp_apply, RootField.ofEntry, same_str, beq_iff_eq]
  have hname : queryFieldName (.str entry.1) = .ok (Name.rootName entry.1) := rfl
  rw [addQueryField, isExcluded_texts, ok_bind, hname, ok_bind, hany]
  by_cases hexclude : entry.1 ∈ exclude
  · simp [hexclude, pure, Except.pure]
  · by_cases hclash : ∃ first ∈ done, Name.rootName first.1 = Name.rootName entry.1
    · simp only [hexclude, hclash, decide_true, decide_false, if_true, if_false]
      rfl
    · simp only [hexclude, hclash, decide_false, if_false]
      rw [List.map_append]
      rfl

/-- What becomes of the types after those in `done`: either all that are shown have fields, or
the first one to share its field with an earlier one is refused. -/
theorem defaultFields_outcome (exclude : List String) (types done : List (String × GraphType))
    (hdone : HasClearRoots done) :
    let all := done ++ shownTypes exclude types
    let result := (entryList types).foldlM (addQueryField (.arr (exclude.map .str)))
      (done.map .ofEntry)
    (HasClearRoots all ∧ result = .ok (all.map .ofEntry)) ∨
    ∃ first second, SharesRootField all first second ∧
      result = .error (.queryFieldClash (Name.rootName second) (.str second)) := by
  induction types generalizing done with
  | nil =>
    intro all result
    have hall : all = done := List.append_nil done
    rw [hall]
    exact .inl ⟨hdone, rfl⟩
  | cons entry types ih =>
    intro all result
    have hresult : result = addQueryField (.arr (exclude.map .str)) (done.map .ofEntry)
        (.str entry.1, entry.2) >>= (entryList types).foldlM
          (addQueryField (.arr (exclude.map .str))) := List.foldlM_cons
    rw [addQueryField_eq] at hresult
    by_cases hexclude : entry.1 ∈ exclude
    · have hall : all = done ++ shownTypes exclude types :=
        congrArg (done ++ ·) (shownTypes_cons_of_mem hexclude types)
      rw [if_pos hexclude, ok_bind] at hresult
      rw [hall, hresult]
      exact ih done hdone
    · have hall : all = (done ++ [entry]) ++ shownTypes exclude types := by
        show done ++ shownTypes exclude (entry :: types) = _
        rw [shownTypes_cons_of_notMem hexclude, List.append_assoc, List.singleton_append]
      rw [if_neg hexclude] at hresult
      by_cases hclash : ∃ first ∈ done, Name.rootName first.1 = Name.rootName entry.1
      · rw [if_pos hclash] at hresult
        obtain ⟨first, hfirst, hname⟩ := hclash
        refine .inr ⟨first.1, entry.1, ⟨?_, hname⟩, hresult⟩
        rw [hall, List.map_append, List.map_append]
        apply List.Sublist.trans _ (List.sublist_append_left _ _)
        exact (List.singleton_sublist.2 (List.mem_map_of_mem hfirst)).append (.refl _)
      · rw [if_neg hclash, ok_bind] at hresult
        rw [hall, hresult]
        apply ih
        refine List.pairwise_append.2 ⟨hdone, List.pairwise_singleton _ _, fun first hfirst => ?_⟩
        rw [List.forall_mem_singleton]
        exact fun hname => hclash ⟨first, hfirst, hname⟩

/-- The later of two types that share a field differs from the earlier one, but for the name. -/
theorem SharesRootField.exists_ne {types : List (String × GraphType)} {first second : String}
    (h : SharesRootField types first second) (hids : (types.map Prod.fst).Nodup) :
    ∃ earlier ∈ types, ∃ later ∈ types, earlier.1 = first ∧ later.1 = second ∧ first ≠ second := by
  obtain ⟨hboth, -⟩ := h
  obtain ⟨earlier, hearlier, hfirst⟩ := List.mem_map.1 (hboth.subset List.mem_cons_self)
  obtain ⟨later, hlater, hsecond⟩ :=
    List.mem_map.1 (hboth.subset (List.mem_cons_of_mem _ List.mem_cons_self))
  have hne : first ≠ second := by
    have hpair := List.nodup_cons.1 (hids.sublist hboth)
    simpa using hpair.1
  exact ⟨earlier, hearlier, later, hlater, hfirst, hsecond, hne⟩

theorem HasClearRoots.eq_of_rootName {types : List (String × GraphType)} (h : HasClearRoots types)
    {first second : String × GraphType} (hfirst : first ∈ types) (hsecond : second ∈ types)
    (hname : Name.rootName first.1 = Name.rootName second.1) : first = second := by
  have hsymm : Std.Symm fun first second : String × GraphType =>
      Name.rootName first.1 ≠ Name.rootName second.1 := ⟨fun _ _ => Ne.symm⟩
  by_contra hne
  exact h.forall hfirst hsecond hne hname

/-- A root of fields whose names are legal can be read. -/
theorem checkedNames_ofEntry {name : String} {types : List (String × GraphType)}
    (h : ∀ entry ∈ types, Name.flaw? (Name.rootName entry.1) = none) :
    RootType.checkedNames { name, fields := types.map .ofEntry } =
      .ok (types.map fun entry => Name.rootName entry.1) := by
  apply mapM_ok_iff.2
  rw [List.forall₂_map_left_iff, List.forall₂_map_right_iff, List.forall₂_same]
  intro entry hentry
  show checkFieldName (.str (Name.rootName entry.1)) = _
  rw [checkFieldName, h entry hentry]

/-- The names can be read and differ, and start with at most one underscore. -/
theorem names_ofEntry {name : String} {types : List (String × GraphType)}
    (hclear : HasClearRoots types) (hne : ∀ entry ∈ types, Name.typeName entry.1 ≠ "") :
    ∃ names, RootType.checkedNames { name, fields := types.map .ofEntry } = .ok names ∧
      names.Nodup ∧ ∀ name ∈ names, Name.isLegal name.toList = true ∧
        ¬ Name.reservedStart <+: name.toList := by
  have hflaws : ∀ entry ∈ types, Name.flaw? (Name.rootName entry.1) = none :=
    fun entry hentry => Name.flaw?_rootName_eq_none_iff.2 (hne entry hentry)
  refine ⟨_, checkedNames_ofEntry hflaws, List.pairwise_map.2 hclear, fun name hname => ?_⟩
  obtain ⟨entry, hentry, rfl⟩ := List.mem_map.1 hname
  exact ⟨(Name.flaw?_eq_none_iff _).1 (hflaws entry hentry),
    Name.not_reserved_rootName (hne entry hentry)⟩

namespace RootType

/-- A root is refused for its own name at most. -/
theorem make_ne_queryFieldClash {name field : String} {fields : List RootField} {id : Json} :
    make (.str name) fields ≠ .error (.queryFieldClash field id) := by
  intro h
  rcases bind_error h with hname | ⟨_, _, h⟩
  · have hfault := checkName_error hname
    rw [typeFault?] at hfault
    split at hfault
    · cases hfault
    · obtain ⟨flaw, -, hflaw⟩ := Option.map_eq_some_iff.1 hfault
      cases hflaw
  · cases h

theorem make_ok {name : String} (h : typeFault? name = none) (fields : List RootField) :
    make (.str name) fields = .ok { name, fields } := by
  cases hcheck : checkName false (.str name) with
  | error fault =>
    rw [checkName_error hcheck] at h
    cases h
  | ok other =>
    obtain ⟨-, rfl⟩ := checkName_iff.1 hcheck
    rw [make, hcheck]
    rfl

end RootType

namespace Build

theorem defaultQuery_result (queryName exclude : Json) (registry : Registry) :
    ((defaultQuery queryName exclude).on registry).1 =
      defaultFields registry.entries exclude >>= RootType.make queryName := by
  rw [defaultQuery_on]
  cases defaultFields registry.entries exclude <;> rfl

/-- **The default query root loses no type.** For types by identifier and identifiers to exclude,
the root is refused for a shared field just if two types that are shown have one field name, and
then for two such types. Otherwise, under a name that a type may have, it is made: its fields go
with the types shown one by one and in order, each is a list of the type itself, no two have one
name, and all names are legal and start with at most one underscore. -/
theorem defaultQuery_fields {types : List (String × GraphType)}
    (hids : (types.map Prod.fst).Nodup) {exclude : List String}
    (hspelled : ∀ entry ∈ types, entry.1 ∉ exclude → entry.1.toList.any Char.isAlphanum = true)
    (queryName : String) (registry : Registry) :
    let shown := types.filter fun entry => entry.1 ∉ exclude
    let result := ((defaultQuery (.str queryName) (.arr (exclude.map .str))).on
      { registry with entries := types.map fun entry => (.str entry.1, entry.2) }).1
    ((∃ field id, result = .error (.queryFieldClash field id)) ↔
      ∃ first ∈ shown, ∃ second ∈ shown, first.1 ≠ second.1 ∧
        Name.rootName first.1 = Name.rootName second.1) ∧
    (∀ field id, result = .error (.queryFieldClash field id) →
      ∃ first ∈ shown, ∃ second ∈ shown, first.1 ≠ second.1 ∧
        field = Name.rootName first.1 ∧ field = Name.rootName second.1 ∧ id = .str second.1) ∧
    ((¬ ∃ field id, result = .error (.queryFieldClash field id)) → typeFault? queryName = none →
      ∃ root, result = .ok root ∧ root.name = queryName ∧
        List.Forall₂ (fun entry field => field.name = .str (Name.rootName entry.1) ∧
          field.wrapping = .list ∧ field.type = entry.2) shown root.fields ∧
        ∃ names, root.checkedNames = .ok names ∧ names.Nodup ∧
          ∀ name ∈ names, Name.isLegal name.toList = true ∧
            ¬ Name.reservedStart <+: name.toList) := by
  intro shown result
  have hresult : result = defaultFields (entryList types) (.arr (exclude.map .str)) >>=
      RootType.make (.str queryName) := defaultQuery_result _ _ _
  rcases defaultFields_outcome exclude types [] .nil with
    ⟨hclear, hfields⟩ | ⟨first, second, hshares, hfields⟩
  · -- All field names differ, so the root is made or refused for its own name.
    have hmade : result = RootType.make (.str queryName) (shown.map .ofEntry) := by
      rw [hresult, defaultFields]
      exact congrArg (· >>= RootType.make (.str queryName)) hfields
    have hnone : ¬ ∃ field id, result = .error (.queryFieldClash field id) := by
      rintro ⟨field, id, h⟩
      exact RootType.make_ne_queryFieldClash (hmade.symm.trans h)
    refine ⟨iff_of_false hnone ?_, fun field id h => absurd ⟨field, id, h⟩ hnone, fun _ hname => ?_⟩
    · rintro ⟨first, hfirst, second, hsecond, hne, hsame⟩
      exact hne (congrArg Prod.fst (hclear.eq_of_rootName hfirst hsecond hsame))
    · have hne : ∀ entry ∈ shown, Name.typeName entry.1 ≠ "" := by
        intro entry hentry hempty
        obtain ⟨hmem, hexclude⟩ := List.mem_filter.1 hentry
        obtain ⟨c, hc, halnum⟩ := List.any_eq_true.1
          (hspelled entry hmem (of_decide_eq_true hexclude))
        rw [(Name.typeName_eq_empty_iff _).1 hempty c hc] at halnum
        cases halnum
      refine ⟨_, hmade.trans (RootType.make_ok hname _), rfl, ?_, names_ofEntry hclear hne⟩
      rw [List.forall₂_map_right_iff, List.forall₂_same]
      exact fun entry _ => ⟨rfl, rfl, rfl⟩
  · have hrefused : result = .error (.queryFieldClash (Name.rootName second) (.str second)) := by
      rw [hresult, defaultFields]
      exact congrArg (· >>= RootType.make (.str queryName)) hfields
    have hshown : (shown.map Prod.fst).Nodup := hids.sublist (List.filter_sublist.map _)
    obtain ⟨earlier, hearlier, later, hlater, rfl, rfl, hne⟩ := hshares.exists_ne hshown
    refine ⟨iff_of_true ⟨_, _, hrefused⟩ ⟨earlier, hearlier, later, hlater, hne, hshares.2⟩,
      fun field id h => ?_, fun hnone => absurd ⟨_, _, hrefused⟩ hnone⟩
    rw [hrefused, Except.error.injEq, Fault.queryFieldClash.injEq] at h
    obtain ⟨rfl, rfl⟩ := h
    exact ⟨earlier, hearlier, later, hlater, hne, hshares.2.symm, rfl, rfl⟩

/-- `box` and `boxe` have one plural: both cannot be shown, and either can be without the other. -/
theorem defaultQuery_fields_boxes :
    let types : List (String × GraphType) :=
      [("person", .scalar .string), ("box", .scalar .integer), ("boxe", .scalar .boolean)]
    let result (exclude : List String) :=
      ((defaultQuery (.str "Query") (.arr (exclude.map .str))).on
        { Registry.empty with entries := types.map fun entry => (.str entry.1, entry.2) }).1
    (∃ field id, result [] = .error (.queryFieldClash field id)) ∧
    ∃ root, result ["boxe"] = .ok root ∧
      List.Forall₂ (fun entry field => field.name = .str (Name.rootName entry.1) ∧
        field.wrapping = .list ∧ field.type = entry.2)
        [("person", .scalar .string), ("box", .scalar .integer)] root.fields := by
  intro types result
  have hids : (types.map Prod.fst).Nodup := by decide
  have hletters : ∀ entry ∈ types, entry.1.toList.any Char.isAlphanum = true := by decide
  have hspelled (exclude : List String) : ∀ entry ∈ types, entry.1 ∉ exclude →
      entry.1.toList.any Char.isAlphanum = true := fun entry hentry _ => hletters entry hentry
  obtain ⟨hclash, -⟩ := defaultQuery_fields hids (hspelled []) "Query" .empty
  obtain ⟨hclear, -, hmade⟩ := defaultQuery_fields hids (hspelled ["boxe"]) "Query" .empty
  constructor
  · exact hclash.2 ⟨("box", .scalar .integer), by simp [types], ("boxe", .scalar .boolean),
      by simp [types], by decide, by decide +kernel⟩
  · obtain ⟨root, hroot, -, hfields, -⟩ :=
      hmade (fun h => absurd (hclear.1 h) (by decide +kernel)) (by decide +kernel)
    exact ⟨root, hroot, hfields⟩

end Build
end SchemaGraph
