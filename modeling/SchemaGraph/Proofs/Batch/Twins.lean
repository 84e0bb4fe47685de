import SchemaGraph.Proofs.Batch.Location

/-! What two registries have in common.

Two batches share a document if it is in both, and they share what it refers to if that
goes on for ever (`Shares`). Types of two registries are twins if they stand at one place
of a shared document and one shape, which is no reference (`Twins`). Whatever the ledgers
of the registries went through, twins are made alike, because what is made at a place
depends on the place's shape alone, and they lead to twins (`Ledger.Holds.twins_alike`). A
key knows the place that it was given out for, so one type cannot have two twins
(`Ledger.Holds.identity_eq_of_twins`). -/
namespace SchemaGraph

/-- The shape refers to the target somewhere. -/
inductive Shape.RefersTo : Shape → Json → Prop where
  | reference {site target} : RefersTo (.reference site target) target
  | case {site cases key shape target} (hcase : (key, shape) ∈ cases)
      (h : RefersTo shape target) : RefersTo (.union site cases) target
  | item {site items target} (h : RefersTo items target) : RefersTo (.array site items) target
  | property {site required properties property shape target}
      (hproperty : (property, shape) ∈ properties) (h : RefersTo shape target) :
      RefersTo (.object site required properties) target

/-- Both batches have one source for each of the targets, and for what that source refers to. -/
def Shares (first second : List Source) (shared : Json → Prop) : Prop :=
  ∀ target, shared target → ∃ source ∈ first, source ∈ second ∧
    Json.same source.id target = true ∧ ∀ next, source.shape.RefersTo next → shared next

/-! ### One shape makes alike types -/

theorem Draft.info_alike {draft : Draft} {key key' : Nat} {info info' : TypeInfo}
    (h : draft.info key = .ok info) (h' : draft.info key' = .ok info') : info.Alike info' := by
  obtain ⟨text, htext, h⟩ := bind_ok h
  obtain ⟨text', htext', h'⟩ := bind_ok h'
  rw [htext] at htext'
  cases htext'
  cases h
  cases h'
  rfl

theorem Setting.info_alike {setting : Setting} {form? : Option TypeForm} {name : String}
    {site : Site} {key key' : Nat} {info info' : TypeInfo}
    (h : setting.info form? name site key = .ok info)
    (h' : setting.info form? name site key' = .ok info') : info.Alike info' := by
  obtain ⟨draft, hdraft, h⟩ := bind_ok h
  obtain ⟨draft', hdraft', h'⟩ := bind_ok h'
  rw [hdraft] at hdraft'
  cases hdraft'
  exact Draft.info_alike h h'

theorem Setting.enumOf_alike {setting : Setting} {name : String} {site : Site}
    {literals : List Json} {base : Json} {key key' : Nat} {info info' : TypeInfo}
    {values values' : ValueMap}
    (h : setting.enumOf name site literals base key = .ok (.enum info values))
    (h' : setting.enumOf name site literals base key' = .ok (.enum info' values')) :
    info.Alike info' ∧ values = values' := by
  obtain ⟨table, htable, h⟩ := bind_ok h
  obtain ⟨table', htable', h'⟩ := bind_ok h'
  obtain ⟨draft, hdraft, h⟩ := bind_ok h
  obtain ⟨draft', hdraft', h'⟩ := bind_ok h'
  obtain ⟨made, hmade, h⟩ := bind_ok h
  obtain ⟨made', hmade', h'⟩ := bind_ok h'
  rw [htable] at htable'
  rw [hdraft] at hdraft'
  cases htable'
  cases hdraft'
  cases h
  cases h'
  exact ⟨Draft.info_alike hmade hmade', rfl⟩

namespace Ledger

variable {setting : Setting} {first second : Ledger} {place place' : Place}

/-- Fields of the same properties are alike if their types are related. -/
theorem Fills.alike {plan plan' : FieldPlan} {fields fields' : FieldMap}
    {R : GraphType → GraphType → Prop} (h : first.Fills setting place plan fields)
    (h' : second.Fills setting place' plan' fields')
    (hproperties : plan'.properties = plan.properties) (hrequired : plan'.required = plan.required)
    (htypes : ∀ list list' (index : Nat) property shape x y, fields = .ofProperties list →
      fields' = .ofProperties list' → plan.properties[index]? = some (property, shape) →
      list[index]? = some (.ofProperty plan.required property shape x) →
      list'[index]? = some (.ofProperty plan.required property shape y) →
      R (Field.ofProperty plan.required property shape x).type
        (Field.ofProperty plan.required property shape y).type) :
    FieldMap.Alike R fields fields' := by
  cases h with
  | placeholder hempty _ =>
    cases h' with
    | placeholder _ _ => exact .placeholder
    | ofProperties hnonempty _ _ _ => exact absurd (hproperties.trans hempty) hnonempty
  | ofProperties hnonempty _ hlength hfields =>
    cases h' with
    | placeholder hempty _ => exact absurd (hproperties.symm.trans hempty) hnonempty
    | ofProperties _ _ hlength' hfields' =>
      rw [hproperties] at hlength'
      refine .ofProperties (List.forall₂_of_length_eq_of_get (hlength.trans hlength'.symm) ?_)
      intro index hi hi'
      have hproperty := List.getElem?_eq_getElem (l := plan.properties) (hlength ▸ hi)
      have hfield := List.getElem?_eq_getElem hi
      have hfield' := List.getElem?_eq_getElem hi'
      obtain ⟨x, heq, -⟩ := hfields index _ _ _ hproperty hfield
      obtain ⟨y, heq', -⟩ :=
        hfields' index _ _ _ ((congrArg (·[index]?) hproperties).trans hproperty) hfield'
      rw [hrequired] at heq'
      rw [heq] at hfield
      rw [heq'] at hfield'
      rw [List.get_eq_getElem, List.get_eq_getElem, heq, heq']
      exact ⟨rfl, htypes _ _ index _ _ x y rfl rfl hproperty hfield hfield', rfl, rfl⟩

/-- Types that stand for one shape are alike if what they lead to is related. -/
theorem Stands.alike {registry registry' : Registry} {position : String} {shape : Shape}
    {x y : GraphType} {R : GraphType → GraphType → Prop}
    (h : first.Stands setting place position shape x)
    (h' : second.Stands setting place' position shape y) (hshape : shape.isReference = false)
    (hmembers : ∀ site cases info info' members members' (index : Nat) key inner a b,
      shape = .union site cases → x = .union info members → y = .union info' members' →
      cases[index]? = some (key, inner) → members[index]? = some a → members'[index]? = some b →
      R a b)
    (hitem : ∀ site items key key' a b, shape = .array site items → x = .list key (.nonNull a) →
      y = .list key' (.nonNull b) → R (.nonNull a) (.nonNull b))
    (hfields : ∀ site required properties info info' plan plan',
      shape = .object site required properties → x = .object info plan → y = .object info' plan' →
      info.fields? = none → info'.fields? = none → ∃ fields fields',
        registry.built.lookup plan.key = some fields ∧
        registry'.built.lookup plan'.key = some fields' ∧ FieldMap.Alike R fields fields') :
    GraphType.Alike registry registry' R x y := by
  cases h with
  | @union _ _ site cases info members hinfo _ hlength _ =>
    cases h' with
    | @union _ _ _ _ info' members' hinfo' _ hlength' _ =>
      refine .union (Setting.info_alike hinfo hinfo') ?_
      refine List.forall₂_of_length_eq_of_get (hlength.trans hlength'.symm) fun index hi hi' => ?_
      exact hmembers site cases info info' members members' index _ _ _ _ rfl rfl rfl
        (List.getElem?_eq_getElem (hlength ▸ hi)) (List.getElem?_eq_getElem hi)
        (List.getElem?_eq_getElem hi')
  | object hinfo _ _ _ =>
    cases h' with
    | object hinfo' _ _ _ =>
      have hinfos := Setting.info_alike hinfo hinfo'
      refine .object hinfos fun hplanned => ?_
      have hplanned' := (congrArg TypeInfo.fields? hinfos).symm.trans hplanned
      exact hfields _ _ _ _ _ _ _ rfl rfl rfl hplanned hplanned'
  | array _ _ =>
    cases h' with
    | array _ _ => exact .list (hitem _ _ _ _ _ _ rfl rfl rfl)
  | enum henum _ =>
    cases h' with
    | enum henum' _ =>
      obtain ⟨hinfo, rfl⟩ := Setting.enumOf_alike henum henum'
      exact .enum hinfo
  | reference => cases hshape
  | primitive =>
    cases h'
    exact .scalar

end Ledger

/-! ### Twins -/

/-- The types stand at one place, which is no reference, and refer to shared targets only. -/
def Twins (first second : Registry) (sources sources' : List Source) (shared : Json → Prop)
    (a b : GraphType) : Prop :=
  ∃ place position shape, shape.isReference = false ∧
    (∀ target, shape.RefersTo target → shared target) ∧
    Located first sources place position shape a ∧ Located second sources' place position shape b

/-- Twins, or the wrappers of twins that are never null. -/
inductive Twinned (first second : Registry) (sources sources' : List Source)
    (shared : Json → Prop) : GraphType → GraphType → Prop where
  | bare {a b} (h : Twins first second sources sources' shared a b) :
      Twinned first second sources sources' shared a b
  | nonNull {a b} (h : Twins first second sources sources' shared a b) :
      Twinned first second sources sources' shared (.nonNull a) (.nonNull b)

theorem twinned_iff {first second : Registry} {sources sources' : List Source}
    {shared : Json → Prop} (x y : GraphType) :
    Twinned first second sources sources' shared x y ↔
      Twins first second sources sources' shared x y ∨
      ∃ a b, x = .nonNull a ∧ y = .nonNull b ∧ Twins first second sources sources' shared a b := by
  constructor
  · rintro (h | h)
    · exact .inl h
    · exact .inr ⟨_, _, rfl, rfl, h⟩
  · rintro (h | ⟨a, b, rfl, rfl, h⟩)
    · exact .bare h
    · exact .nonNull h

namespace Ledger.Holds

variable {setting : Setting} {first second : Ledger} {sources sources' : List Source}
  {shared : Json → Prop}

/-- A shared target leads to the same source in both batches. -/
theorem ends_shared (h : first.Holds setting sources) (hshares : Shares sources sources' shared)
    {target : Json} {source : Source} (hends : Ends sources target source)
    (htarget : shared target) :
    Ends sources' target source ∧ ∀ next, source.shape.RefersTo next → shared next := by
  induction hends with
  | here hsource hsame hshape =>
    obtain ⟨common, hcommon, hcommon', hsame', hrefers⟩ := hshares _ htarget
    obtain rfl := h.source_eq hcommon hsource hsame' hsame
    exact ⟨.here hcommon' hsame hshape, hrefers⟩
  | there hsource hsame hshape _ ih =>
    obtain ⟨common, hcommon, hcommon', hsame', hrefers⟩ := hshares _ htarget
    obtain rfl := h.source_eq hcommon hsource hsame' hsame
    obtain ⟨hends, hlast⟩ := ih (hrefers _ (hshape ▸ .reference))
    exact ⟨.there hcommon' hsame hshape hends, hlast⟩

/-- The types of a shared target are twins. -/
theorem twins_of_find? (h : first.Holds setting sources) (h' : second.Holds setting sources')
    (hshares : Shares sources sources' shared) {target : Json} (htarget : shared target)
    {a b : GraphType} (ha : first.registry.find? target = some a)
    (hb : second.registry.find? target = some b) :
    Twins first.registry second.registry sources sources' shared a b := by
  obtain ⟨source, hends, hlocated⟩ := h.find?_located ha
  obtain ⟨hends', hrefers⟩ := h.ends_shared hshares hends htarget
  exact ⟨_, _, _, hends.isReference_eq, hrefers, hlocated,
    .document hends'.mem (h'.find?_ends hends' hb)⟩

/-- If all of one batch is shared, the entries are twins one by one. -/
theorem twins_entries (h : first.Holds setting sources) (h' : second.Holds setting sources)
    (hshares : Shares sources sources shared) (hall : ∀ source ∈ sources, shared source.id) :
    List.Forall₂ (fun a b => a.1 = b.1 ∧
      Twins first.registry second.registry sources sources shared a.2 b.2)
      first.registry.entries second.registry.entries := by
  have hfound {ledger : Ledger} (h : ledger.Holds setting sources) :
      List.Forall₂ (fun source entry => source ∈ sources ∧ entry.1 = source.id ∧
        ledger.registry.find? entry.1 = some entry.2) sources ledger.registry.entries := by
    refine (List.forall₂_and_left _ _).2 ⟨fun _ hsource => hsource, ?_⟩
    have hentries := (List.forall₂_and_left _ _).2
      ⟨fun _ hentry => h.find?_of_mem hentry, h.entries.flip⟩
    exact hentries.flip.imp fun source entry hentry => ⟨hentry.2.1, hentry.1⟩
  refine (forall₂_comp (hfound h).flip (hfound h')).imp fun a b hab => ?_
  obtain ⟨source, ⟨hsource, hid, ha⟩, -, hid', hb⟩ := hab
  refine ⟨hid.trans hid'.symm, ?_⟩
  rw [hid] at ha
  rw [hid'] at hb
  exact h.twins_of_find? h' hshares (hall source hsource) ha hb

/-- The types at a place of a shared document are twins, even if it is a reference. -/
theorem twins_of_located (h : first.Holds setting sources) (h' : second.Holds setting sources')
    (hshares : Shares sources sources' shared) {place : Place} {position : String}
    {shape : Shape} (hshape : ∀ target, shape.RefersTo target → shared target) {a b : GraphType}
    (ha : Located first.registry sources place position shape a)
    (hb : Located second.registry sources' place position shape b) :
    Twins first.registry second.registry sources sources' shared a b := by
  cases shape with
  | reference site target =>
    cases h.stands_of_located ha with
    | reference _ hfind =>
      cases h'.stands_of_located hb with
      | reference _ hfind' =>
        exact h.twins_of_find? h' hshares (hshape target .reference) hfind hfind'
  | _ => exact ⟨_, _, _, rfl, hshape, ha, hb⟩

/-- The fields of twin objects are alike. -/
theorem fields_alike (h : first.Holds setting sources) (h' : second.Holds setting sources')
    (hshares : Shares sources sources' shared) {place : Place} {position : String} {site : Site}
    {required : List Json} {properties : List (String × Shape)} {info info' : TypeInfo}
    {plan plan' : FieldPlan} {fields fields' : FieldMap}
    (hrefers : ∀ target, (Shape.object site required properties).RefersTo target → shared target)
    (ha : Located first.registry sources place position (.object site required properties)
      (.object info plan))
    (hb : Located second.registry sources' place position (.object site required properties)
      (.object info' plan'))
    (hplanned : info.fields? = none) (hplanned' : info'.fields? = none)
    (hbuilt : first.registry.built.lookup plan.key = some fields)
    (hbuilt' : second.registry.built.lookup plan'.key = some fields') :
    FieldMap.Alike (Twinned first.registry second.registry sources sources' shared)
      fields fields' := by
  cases h.stands_of_located ha with
  | object _ _ hplan hplanKey =>
  cases h'.stands_of_located hb with
  | object _ _ hplan' hplanKey' =>
  refine (h.sound.fills _ hplan _ _ hbuilt hplanKey).alike
    (h'.sound.fills _ hplan' _ _ hbuilt' hplanKey') rfl rfl ?_
  rintro list list' index property shape x y rfl rfl hproperty hfield hfield'
  have htwins := h.twins_of_located h' hshares
    (fun target htarget => hrefers target (.property (List.mem_of_getElem? hproperty) htarget))
    (.field ha hplanned hbuilt hproperty hfield) (.field hb hplanned' hbuilt' hproperty hfield')
  simp only [Field.ofProperty]
  split
  · exact .nonNull htwins
  · exact .bare htwins

/-- **Twins are made alike**, and lead to twins. -/
theorem twins_alike (h : first.Holds setting sources) (h' : second.Holds setting sources')
    (hshares : Shares sources sources' shared) (hsettled : first.registry.IsSettled)
    (hsettled' : second.registry.IsSettled) {a b : GraphType}
    (htwins : Twins first.registry second.registry sources sources' shared a b) :
    GraphType.Alike first.registry second.registry
      (Twinned first.registry second.registry sources sources' shared) a b := by
  obtain ⟨place, position, shape, hshape, hrefers, ha, hb⟩ := htwins
  refine (h.stands_of_located ha).alike (h'.stands_of_located hb) hshape ?_ ?_ ?_
  · rintro site cases info info' members members' index key inner a b rfl rfl rfl hcase hmember
      hmember'
    refine .bare (h.twins_of_located h' hshares (fun target htarget => ?_)
      (.member ha hcase hmember) (.member hb hcase hmember'))
    exact hrefers target (.case (List.mem_of_getElem? hcase) htarget)
  · rintro site items key key' a b rfl rfl rfl
    exact .nonNull (h.twins_of_located h' hshares
      (fun target htarget => hrefers target (.item htarget)) (.item ha) (.item hb))
  · rintro site required properties info info' plan plan' rfl rfl rfl hplanned hplanned'
    obtain ⟨fields, hfields⟩ := Option.isSome_iff_exists.1 (hsettled _ _ ha.reaches hplanned)
    obtain ⟨fields', hfields'⟩ := Option.isSome_iff_exists.1 (hsettled' _ _ hb.reaches hplanned')
    exact ⟨fields, fields', hfields, hfields', h.fields_alike h' hshares hrefers ha hb hplanned
      hplanned' hfields hfields'⟩

end Ledger.Holds

/-! ### Twins are one-to-one -/

/-- A type is told apart by a key that was given out for its place, if it is not the scalar that
the shape asks for. -/
theorem Ledger.Stands.identity_eq {setting : Setting} {ledger : Ledger} {place : Place}
    {position : String} {shape : Shape} {type : GraphType}
    (h : ledger.Stands setting place position shape type) (hshape : shape.isReference = false) :
    (∃ site kind, shape = .primitive site kind ∧ type = .scalar kind) ∨
      ∃ key, type.identity = .keyed key ∧ ledger.place? key = some place := by
  cases h with
  | union _ hkey => exact .inr ⟨_, rfl, hkey⟩
  | object _ hkey => exact .inr ⟨_, rfl, hkey⟩
  | array hkey => exact .inr ⟨_, rfl, hkey⟩
  | enum _ hkey => exact .inr ⟨_, rfl, hkey⟩
  | reference => cases hshape
  | primitive => exact .inl ⟨_, _, rfl, rfl⟩

theorem Twins.swap {first second : Registry} {sources sources' : List Source}
    {shared : Json → Prop} {a b : GraphType} (h : Twins first second sources sources' shared a b) :
    Twins second first sources' sources shared b a :=
  let ⟨place, position, shape, hshape, hrefers, ha, hb⟩ := h
  ⟨place, position, shape, hshape, hrefers, hb, ha⟩

namespace Ledger.Holds

variable {setting : Setting} {first second : Ledger} {sources sources' : List Source}
  {shared : Json → Prop}

theorem identity_eq_of_twins (h : first.Holds setting sources)
    (h' : second.Holds setting sources') {a b c d : GraphType}
    (hab : Twins first.registry second.registry sources sources' shared a b)
    (hcd : Twins first.registry second.registry sources sources' shared c d)
    (hidentity : a.identity = c.identity) : b.identity = d.identity := by
  obtain ⟨place, position, shape, hshape, -, ha, hb⟩ := hab
  obtain ⟨place', position', shape', hshape', -, hc, hd⟩ := hcd
  rcases (h.stands_of_located ha).identity_eq hshape with
    ⟨site, kind, rfl, rfl⟩ | ⟨key, hkey, hplace⟩ <;>
    rcases (h.stands_of_located hc).identity_eq hshape' with
      ⟨site', kind', rfl, rfl⟩ | ⟨key', hkey', hplace'⟩
  · cases hidentity
    cases h'.stands_of_located hb
    cases h'.stands_of_located hd
    rfl
  · rw [hkey'] at hidentity
    cases hidentity
  · rw [hkey] at hidentity
    cases hidentity
  · rw [hkey, hkey'] at hidentity
    cases hidentity
    rw [hplace] at hplace'
    cases hplace'
    obtain ⟨-, -, rfl⟩ := h'.located_unique hb hd
    rfl

/-- No twin is a wrapper. -/
theorem identity_ne_of_twins (h : first.Holds setting sources) {a b : GraphType}
    (hab : Twins first.registry second.registry sources sources' shared a b)
    (item : GraphType.Identity) : a.identity ≠ .nonNull item := by
  obtain ⟨place, position, shape, hshape, -, ha, -⟩ := hab
  rcases (h.stands_of_located ha).identity_eq hshape with ⟨site, kind, rfl, rfl⟩ | ⟨key, hkey, -⟩
  · exact fun heq => nomatch heq
  · rw [hkey]
    exact fun heq => nomatch heq

/-- **Registries of batches that share documents have the same graph of these documents.** -/
theorem isomorphism (h : first.Holds setting sources) (h' : second.Holds setting sources')
    (hshares : Shares sources sources' shared) (hsettled : first.registry.IsSettled)
    (hsettled' : second.registry.IsSettled) :
    Isomorphism first.registry second.registry
      (Twinned first.registry second.registry sources sources' shared) := by
  refine .of_bare twinned_iff (fun _ _ => h.twins_alike h' hshares hsettled hsettled') ?_ ?_
  · intro a b c d hab hcd
    exact ⟨h.identity_eq_of_twins h' hab hcd, h'.identity_eq_of_twins h hab.swap hcd.swap⟩
  · exact fun a b item hab =>
      ⟨h.identity_ne_of_twins hab item, h'.identity_ne_of_twins hab.swap item⟩

end Ledger.Holds
end SchemaGraph
