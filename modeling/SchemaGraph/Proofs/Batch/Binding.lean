import SchemaGraph.Proofs.Batch.Shown

/-! What references lead to, and what can still be reached.

A reference below a property is bound when all documents are in, so it leads to the type
that the registry holds in the end. Any other reference is bound at once: it leads to the
last edition before its document, and that may have been replaced since
(`Build.compileAll_binds`). An edition that was replaced can therefore stay in use, but
only if a later edition that is itself in use took a reference to it at once (`Live`).
These are exactly the editions whose types can be reached from the registry. -/
namespace SchemaGraph

/-- The edition is in use: it is the last one of its identifier, or an edition in use refers to
it outside of properties. -/
inductive Live (editions : List Edition) : Edition → Prop where
  | last {edition} (h : current? editions edition.source.id = some edition) :
      Live editions edition
  | taken {before user rest trail site target edition}
      (heditions : editions = before ++ user :: rest) (huser : Live editions user)
      (hat : user.source.shape.At trail (.reference site target)) (hearly : isLate trail = false)
      (h : current? before target = some edition) : Live editions edition

theorem Live.mem {editions : List Edition} {edition : Edition} (h : Live editions edition) :
    edition ∈ editions := by
  cases h with
  | last h => exact (current?_some h).1
  | taken heditions _ _ _ h =>
    rw [heditions]
    exact List.mem_append_left _ (current?_some h).1

/-- The type was made in an edition that is in use. -/
def Stays (registry : Registry) (editions : List Edition) (type : GraphType) : Prop :=
  ∃ edition trail shape, Live editions edition ∧ Shown registry edition trail shape type ∧
    shape.isReference = false

/-- The last edition of a target is the last edition of its own identifier. -/
theorem current?_self {editions : List Edition} {target : Json} {edition : Edition}
    (hkeys : ∀ edition ∈ editions, edition.source.id.isKey = true)
    (h : current? editions target = some edition) :
    current? editions edition.source.id = some edition := by
  obtain ⟨hmem, hsame⟩ := current?_some h
  have hmeasure := (Json.same_key_iff (hkeys edition hmem)).1 hsame
  rw [← h, current?, current?]
  refine List.find?_congr fun other hother => ?_
  have hkey := hkeys other (List.mem_reverse.1 hother)
  rw [Bool.eq_iff_iff, Json.same_key_iff hkey, Json.same_key_iff hkey, hmeasure]

namespace Ledger.Records

variable {setting : Setting} {ledger : Ledger} {editions : List Edition}

/-! ### References -/

/-- A reference below a property leads to the type that the registry holds. -/
theorem reference_late (h : ledger.Records setting editions) {edition : Edition}
    (hedition : edition ∈ editions) {trail : List Turn} {site : Site} {target : Json}
    {type : GraphType}
    (hshown : Shown ledger.registry edition trail (.reference site target) type)
    (hlate : isLate trail = true) : ledger.registry.find? target = some type := by
  obtain ⟨before, rest, heditions⟩ := List.append_of_mem hedition
  have hstands := h.stands_of_shown heditions hshown
  rw [viewAt_late _ _ hlate] at hstands
  cases hstands with
  | reference _ hfind => exact hfind

/-- Any other reference leads to the last edition before its document. -/
theorem reference_early (h : ledger.Records setting editions) {before rest : List Edition}
    {edition : Edition} (heditions : editions = before ++ edition :: rest) {trail : List Turn}
    {site : Site} {target : Json} {type : GraphType}
    (hshown : Shown ledger.registry edition trail (.reference site target) type)
    (hearly : isLate trail = false) : ∃ earlier,
      current? before target = some earlier ∧ earlier.type = type := by
  have hstands := h.stands_of_shown heditions hshown
  have hkeys : ∀ other ∈ before, other.source.id.isKey = true := fun other hother =>
    h.isKey other (heditions ▸ List.mem_append_left _ hother)
  rw [viewAt, hearly] at hstands
  cases hstands with
  | reference _ hfind =>
    rw [find?_entriesOf hkeys rfl] at hfind
    exact Option.map_eq_some_iff.1 hfind

/-! ### What can be reached -/

/-- The type of an edition in use was made in one. -/
theorem stays_root (h : ledger.Records setting editions) {edition : Edition}
    (hlive : Live editions edition) : Stays ledger.registry editions edition.type := by
  obtain ⟨before, rest, heditions⟩ := List.append_of_mem hlive.mem
  -- A document that is a reference leads to an earlier one.
  induction hn : before.length using Nat.strong_induction_on
    generalizing before rest edition with
  | _ n ih =>
    cases hshape : edition.source.shape with
    | reference site target =>
      have hshown : Shown ledger.registry edition [] (.reference site target) edition.type :=
        hshape ▸ .root
      obtain ⟨earlier, hearlier, htype⟩ := h.reference_early heditions hshown rfl
      obtain ⟨before', rest', rfl⟩ := List.append_of_mem (current?_some hearlier).1
      have hlt : before'.length < n := by
        rw [← hn, List.length_append, List.length_cons]
        omega
      have hlive' : Live editions earlier :=
        .taken heditions hlive hshown.shape_at rfl hearlier
      rw [← htype]
      exact ih _ hlt hlive' before' (rest' ++ edition :: rest)
        (by rw [heditions, List.append_assoc, List.cons_append]) rfl
    | _ => exact ⟨edition, [], _, hlive, .root, by rw [hshape]; rfl⟩

/-- What is shown in an edition in use was made in one. -/
theorem stays_of_shown (h : ledger.Records setting editions) {edition : Edition}
    (hlive : Live editions edition) {trail : List Turn} {shape : Shape} {type : GraphType}
    (hshown : Shown ledger.registry edition trail shape type) :
    Stays ledger.registry editions type := by
  cases shape with
  | reference site target =>
    cases hlate : isLate trail with
    | true =>
      have hfind := h.reference_late hlive.mem hshown hlate
      rw [h.find?] at hfind
      obtain ⟨last, hlast, htype⟩ := Option.map_eq_some_iff.1 hfind
      rw [← htype]
      exact h.stays_root (.last (current?_self h.isKey hlast))
    | false =>
      obtain ⟨before, rest, heditions⟩ := List.append_of_mem hlive.mem
      obtain ⟨earlier, hearlier, htype⟩ := h.reference_early heditions hshown hlate
      rw [← htype]
      exact h.stays_root (.taken heditions hlive hshown.shape_at hlate hearlier)
  | _ => exact ⟨edition, trail, _, hlive, hshown, rfl⟩

/-- **What can be reached was made in an edition in use**, but for the wrapper of what is never
null. -/
theorem stays_of_reaches (h : ledger.Records setting editions) {type : GraphType}
    (hreaches : ledger.registry.Reaches type) : Stays ledger.registry editions type ∨
      ∃ item, type = .nonNull item ∧ Stays ledger.registry editions item := by
  induction hreaches with
  | entry hfind =>
    rw [h.find?] at hfind
    obtain ⟨last, hlast, rfl⟩ := Option.map_eq_some_iff.1 hfind
    exact .inl (h.stays_root (.last (current?_self h.isKey hlast)))
  | member _ hmember ih =>
    obtain ⟨edition, trail, shape, hlive, hshown, hshape⟩ :=
      ih.resolve_right fun ⟨_, heq, _⟩ => nomatch heq
    obtain ⟨before, rest, heditions⟩ := List.append_of_mem hlive.mem
    cases h.stands_of_shown heditions hshown with
    | reference => cases hshape
    | union _ _ hlength _ =>
      obtain ⟨index, hindex, rfl⟩ := List.getElem_of_mem hmember
      exact .inl (h.stays_of_shown hlive (.member hshown
        (List.getElem?_eq_getElem (hlength ▸ hindex)) (List.getElem?_eq_getElem hindex)))
  | item _ ih =>
    obtain ⟨edition, trail, shape, hlive, hshown, hshape⟩ :=
      ih.resolve_right fun ⟨_, heq, _⟩ => nomatch heq
    obtain ⟨before, rest, heditions⟩ := List.append_of_mem hlive.mem
    cases h.stands_of_shown heditions hshown with
    | reference => cases hshape
    | array _ _ => exact .inr ⟨_, rfl, h.stays_of_shown hlive (.item hshown)⟩
  | inner _ ih =>
    rcases ih with ⟨edition, trail, shape, hlive, hshown, hshape⟩ | ⟨item, heq, hstays⟩
    · obtain ⟨before, rest, heditions⟩ := List.append_of_mem hlive.mem
      cases h.stands_of_shown heditions hshown with
      | reference => cases hshape
    · cases heq
      exact .inl hstays
  | field _ _ hbuilt hfield ih =>
    obtain ⟨edition, trail, shape, hlive, hshown, hshape⟩ :=
      ih.resolve_right fun ⟨_, heq, _⟩ => nomatch heq
    obtain ⟨before, rest, heditions⟩ := List.append_of_mem hlive.mem
    cases h.stands_of_shown heditions hshown with
    | reference => cases hshape
    | object _ _ hplan hplanKey =>
      cases h.sound.fills _ hplan _ _ hbuilt hplanKey with
      | ofProperties _ _ hlength hfields =>
        obtain ⟨index, hindex, rfl⟩ := List.getElem_of_mem hfield
        have hproperty := List.getElem?_eq_getElem (hlength ▸ hindex)
        obtain ⟨type, heq, -⟩ := hfields index _ _ _ hproperty (List.getElem?_eq_getElem hindex)
        have hget := (List.getElem?_eq_getElem hindex).trans (congrArg some heq)
        have hstays := h.stays_of_shown hlive (.field hshown hbuilt hproperty hget)
        rw [heq]
        simp only [Field.ofProperty]
        split
        · exact .inr ⟨type, rfl, hstays⟩
        · exact .inl hstays

end Ledger.Records

/-! ### What cannot be reached -/

namespace Place

/-- The document that the place is in. -/
def root : Place → Json
  | document id => id
  | case union _ => union.root
  | item array => array.root
  | property object _ => object.root

theorem root_follow (place : Place) (trail : List Turn) :
    (place.follow trail).root = place.root := by
  induction trail generalizing place with
  | nil => rfl
  | cons turn trail ih =>
    rw [follow, List.foldl_cons, ← follow, ih]
    cases turn <;> rfl

end Place

/-- A type that is told from others by a key was made for the place, unless it stands at a
reference. -/
theorem Ledger.Stands.place?_eq {setting : Setting} {ledger : Ledger} {place : Place}
    {position : String} {shape : Shape} {type : GraphType} {key : Nat}
    (h : ledger.Stands setting place position shape type) (hshape : shape.isReference = false)
    (hkey : type.identity = .keyed key) : ledger.place? key = some place := by
  cases h with
  | union _ hplace =>
    cases hkey
    exact hplace
  | object _ hplace _ _ =>
    cases hkey
    exact hplace
  | array hplace _ =>
    cases hkey
    exact hplace
  | enum _ hplace =>
    cases hkey
    exact hplace
  | reference => cases hshape
  | primitive => cases hkey

namespace Ledger.Records

variable {setting : Setting} {ledger : Ledger} {editions : List Edition}

/-- **A type is made in one edition only.** -/
theorem edition_unique (h : ledger.Records setting editions) {first second : Edition}
    (hfirst : first ∈ editions) (hsecond : second ∈ editions) {trail trail' : List Turn}
    {shape shape' : Shape} {type type' : GraphType} {key : Nat}
    (hshown : Shown ledger.registry first trail shape type)
    (hshown' : Shown ledger.registry second trail' shape' type')
    (hshape : shape.isReference = false) (hshape' : shape'.isReference = false)
    (hkey : type.identity = .keyed key) (hkey' : type'.identity = .keyed key) :
    first = second := by
  obtain ⟨before, rest, heditions⟩ := List.append_of_mem hfirst
  obtain ⟨before', rest', heditions'⟩ := List.append_of_mem hsecond
  have hplace := (h.stands_of_shown heditions hshown).place?_eq hshape hkey
  have hplace' := (h.stands_of_shown heditions' hshown').place?_eq hshape' hkey'
  have hsame : ledger.place? key = some (second.place.follow trail') := hplace'
  rw [show ledger.place? key = some (first.place.follow trail) from hplace] at hsame
  have hroot := congrArg Place.root (Option.some.inj hsame)
  rw [Place.root_follow, Place.root_follow] at hroot
  have hnumber : first.number = second.number := Int.ofNat.inj (Json.int.inj hroot)
  exact List.inj_on_of_nodup_map h.numbers hfirst hsecond hnumber

end Ledger.Records

/-! ### What is in use can be reached -/

/-- Outside of properties, everything under a type that can be reached can be reached. -/
theorem Shown.reaches {registry : Registry} {edition : Edition} {trail : List Turn}
    {shape : Shape} {type : GraphType} (h : Shown registry edition trail shape type)
    (hroot : registry.Reaches edition.type) (hearly : isLate trail = false) :
    registry.Reaches type := by
  induction h with
  | root => exact hroot
  | member _ _ hmember ih =>
    rw [isLate_append, Bool.or_eq_false_iff] at hearly
    exact .member (ih hearly.1) (List.mem_of_getElem? hmember)
  | item _ ih =>
    rw [isLate_append, Bool.or_eq_false_iff] at hearly
    exact .inner (.item (ih hearly.1))
  | field =>
    rw [isLate_append, Bool.or_eq_false_iff] at hearly
    cases hearly.2

theorem Build.Recorded.reaches_of_live {config : Config} {customize? : Option Customizer}
    {documents : List Json} {editions : List Edition} {ledger : Ledger}
    (h : Recorded config customize? documents editions ledger) {edition : Edition}
    (hlive : Live editions edition) : ledger.registry.Reaches edition.type := by
  induction hlive with
  | @last edition hlast =>
    have hfind := h.records.find? edition.source.id
    rw [hlast] at hfind
    exact .entry hfind
  | taken heditions huser hat hearly hlast ih =>
    obtain ⟨type, hshown⟩ := h.exists_shown huser.mem hat
    obtain ⟨earlier, hearlier, htype⟩ := h.records.reference_early heditions hshown hearly
    rw [hlast] at hearlier
    rw [Option.some.inj hearlier, htype]
    exact hshown.reaches ih hearly

/-! ### The whole batch -/

/-- How the references of editions are bound in a registry, and which editions are in use. -/
structure Registry.Binds (registry : Registry) (editions : List Edition) : Prop where
  /-- The last edition of an identifier stands. -/
  find? : ∀ target, registry.find? target = (current? editions target).map Edition.type
  /-- A reference below a property leads to what the registry holds. -/
  late : ∀ edition ∈ editions, ∀ trail site target type,
    Shown registry edition trail (.reference site target) type → isLate trail = true →
      registry.find? target = some type
  /-- Any other reference leads to what the last edition before its document was. -/
  early : ∀ before edition rest, editions = before ++ edition :: rest →
    ∀ trail site target type, Shown registry edition trail (.reference site target) type →
      isLate trail = false → (current? before target).map Edition.type = some type
  /-- That is what the registry holds unless the document itself or a later one goes by the
  target. -/
  unreplaced : ∀ before edition rest, editions = before ++ edition :: rest →
    ∀ trail site target type, Shown registry edition trail (.reference site target) type →
      (∀ later ∈ edition :: rest, Json.same later.source.id target = false) →
        registry.find? target = some type
  /-- What can be reached was made in editions in use. -/
  stays : ∀ type, registry.Reaches type → Stays registry editions type ∨
    ∃ item, type = .nonNull item ∧ Stays registry editions item
  /-- Nothing that was made in another edition can be reached. -/
  live : ∀ edition ∈ editions, ∀ trail shape type key, Shown registry edition trail shape type →
    shape.isReference = false → type.identity = .keyed key → registry.Reaches type →
      Live editions edition
  /-- Every edition in use can be reached. -/
  reaches : ∀ edition, Live editions edition → registry.Reaches edition.type

namespace Build

variable {config : Config} {customize? : Option Customizer} {documents : List Json}

theorem Recorded.binds {editions : List Edition} {ledger : Ledger}
    (h : Recorded config customize? documents editions ledger) :
    ledger.registry.Binds editions where
  find? := h.records.find?
  late edition hedition trail site target type hshown hlate :=
    h.records.reference_late hedition hshown hlate
  early before edition rest heditions trail site target type hshown hearly := by
    obtain ⟨earlier, hearlier, rfl⟩ := h.records.reference_early heditions hshown hearly
    rw [hearlier]
    rfl
  unreplaced before edition rest heditions trail site target type hshown hother := by
    cases hlate : isLate trail with
    | true =>
      have hedition : edition ∈ editions := heditions ▸ List.mem_append_right _ List.mem_cons_self
      exact h.records.reference_late hedition hshown hlate
    | false =>
      obtain ⟨earlier, hearlier, rfl⟩ := h.records.reference_early heditions hshown hlate
      rw [h.records.find?, heditions, current?_append, current?_eq_none_iff.2 hother,
        Option.none_or, hearlier]
      rfl
  stays type hreaches := h.records.stays_of_reaches hreaches
  live edition hedition trail shape type key hshown hshape hkey hreaches := by
    rcases h.records.stays_of_reaches hreaches with
      ⟨other, trail', shape', hlive, hshown', hshape'⟩ | ⟨item, rfl, -⟩
    · rwa [h.records.edition_unique hedition hlive.mem hshown hshown' hshape hshape' hkey hkey]
    · cases hkey
  reaches edition hlive := h.reaches_of_live hlive

/-- **References below properties are bound to the last editions, all others to the last ones
before their documents**, and the editions that can be reached are the last ones and those that
such a reference from an edition in use leads to. -/
theorem compileAll_binds {after : Registry}
    (hrun : (compileAll config customize? documents).on .empty = (.ok (), after)) :
    ∃ editions ledger, ledger.registry = after ∧
      Recorded config customize? documents editions ledger ∧ after.Binds editions := by
  obtain ⟨editions, ledger, rfl, -, hrecorded⟩ :=
    compileAll_records List.nodup_range List.length_range hrun
  exact ⟨editions, ledger, rfl, hrecorded, hrecorded.binds⟩

/-- A reference below a property and one at the root of a document, both to an identifier that is
used once before them and once after them. -/
def replacedDocuments : List Json := [
  .obj [("$id", .str "A"), ("type", .str "object")],
  .obj [("$id", .str "B"), ("$ref", .str "A")],
  .obj [("$id", .str "C"), ("type", .str "object"),
    ("properties", .obj [("a", .obj [("$ref", .str "A")])])],
  .obj [("$id", .str "A"), ("type", .str "object")]]

/-- The reference below the property leads to the last edition. -/
theorem compileAll_binds_replaced :
    let config : Config := { checkMode := .off, allowDuplicates := .bool true }
    let registry := ((compileAll config none replacedDocuments).on .empty).2
    ∃ editions, registry.Binds editions ∧ ∃ edition ∈ editions, ∃ site type,
      Shown registry edition [.property 0 "a"] (.reference site (.str "A")) type ∧
      registry.find? (.str "A") = some type := by
  intro config registry
  have hrun : (compileAll config none replacedDocuments).on .empty = (.ok (), registry) :=
    on_eq_of_isOk (by decide +kernel)
  obtain ⟨editions, ledger, heq, hrecorded, hbinds⟩ := compileAll_binds hrun
  let site : Site := { path := "#/properties/a" }
  have hsource : Source.ofJson (.obj [("$id", .str "C"), ("type", .str "object"),
      ("properties", .obj [("a", .obj [("$ref", .str "A")])])]) =
      .ok ⟨.str "C", "C", .object { path := "#" } [] [("a", .reference site (.str "A"))]⟩ := by
    with_unfolding_all rfl
  obtain ⟨edition, hedition, hshape⟩ :=
    hrecorded.exists_edition (by simp [replacedDocuments]) hsource
  have hat : edition.source.shape.At [.property 0 "a"] (.reference site (.str "A")) := by
    rw [hshape]
    exact .property rfl .here
  obtain ⟨type, hshown⟩ := hrecorded.exists_shown hedition hat
  rw [heq] at hshown
  exact ⟨editions, hbinds, edition, hedition, site, type, hshown,
    hbinds.late edition hedition _ _ _ _ hshown rfl⟩

/-- The reference at the root leads to the first edition, and keeps it in use. -/
theorem compileAll_binds_stale :
    let config : Config := { checkMode := .off, allowDuplicates := .bool true }
    let registry := ((compileAll config none replacedDocuments).on .empty).2
    (compileAll config none replacedDocuments).on .empty = (.ok (), registry) ∧
      Source.ofJson (.obj [("$id", .str "B"), ("$ref", .str "A")]) =
        .ok ⟨.str "B", "B", .reference { path := "#" } (.str "A")⟩ ∧
      ∃ type type', registry.find? (.str "B") = some type ∧
        registry.find? (.str "A") = some type' ∧ type.identity ≠ type'.identity := by
  intro config registry
  have hrun : (compileAll config none replacedDocuments).on .empty = (.ok (), registry) :=
    on_eq_of_isOk (by decide +kernel)
  refine ⟨hrun, by with_unfolding_all rfl, ?_⟩
  have hdiffer : ((registry.find? (.str "B")).map GraphType.identity).isSome = true ∧
      ((registry.find? (.str "A")).map GraphType.identity).isSome = true ∧
      (registry.find? (.str "B")).map GraphType.identity ≠
        (registry.find? (.str "A")).map GraphType.identity := by decide +kernel
  obtain ⟨hfirst, hsecond, hne⟩ := hdiffer
  rw [Option.isSome_map] at hfirst hsecond
  obtain ⟨type, htype⟩ := Option.isSome_iff_exists.1 hfirst
  obtain ⟨type', htype'⟩ := Option.isSome_iff_exists.1 hsecond
  rw [htype, htype'] at hne
  exact ⟨type, type', htype, htype', fun heq => hne (congrArg some heq)⟩

end Build
end SchemaGraph
