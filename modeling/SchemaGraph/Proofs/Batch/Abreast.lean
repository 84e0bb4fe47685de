import SchemaGraph.Proofs.Batch.Binding
import SchemaGraph.Proofs.Batch.Twins
import SchemaGraph.Proofs.Graph.Agreement

/-! Batches that run abreast.

One batch may hold the documents of another one in the same order, and more. The batches
run abreast if their common documents take up the same at once, that is, if what such a
document refers to outside of properties is in both batches an edition of one common
document (`Abreast`). If the last editions are those of common documents as well, then the
additional documents have no part in the graph: types that stand at the end of one trail
of a common document are mates, mates are made alike and lead to mates, and nobody has two
mates (`Ledger.Records.isomorphism_of_abreast`). -/
namespace SchemaGraph

/-- Editions of one document, of two batches. -/
structure Edition.Alike (a b : Edition) : Prop where
  number : a.number = b.number
  source : a.source = b.source

/-- The same is current in both lists of editions, as far as targets are heeded. -/
def Coincide (heeded : Json → Prop) (editions others : List Edition) : Prop :=
  ∀ target, heeded target → Option.Rel Edition.Alike (current? editions target)
    (current? others target)

/-- The first list has the second one's documents in the same order, and more. Where a document is
in both, what it takes up at once is the same. -/
inductive Abreast : List Edition → List Edition → Prop where
  | nil : Abreast [] []
  | both {editions others a b} (h : Abreast editions others) (halike : a.Alike b)
      (hsame : Coincide a.source.shape.TakesUp editions others) :
      Abreast (editions ++ [a]) (others ++ [b])
  | first {editions others a} (h : Abreast editions others)
      (hnumber : a.number ∉ others.map Edition.number) : Abreast (editions ++ [a]) others

/-! ### More documents -/

theorem Coincide.mono {heeded fewer : Json → Prop} {editions others : List Edition}
    (h : Coincide heeded editions others) (hfewer : ∀ target, fewer target → heeded target) :
    Coincide fewer editions others := fun target ht => h target (hfewer target ht)

/-- Where one more document is in both, the same is current under its identifier. -/
theorem Coincide.both {heeded : Json → Prop} {editions others : List Edition} {a b : Edition}
    (h : Coincide heeded editions others) (halike : a.Alike b) :
    Coincide (fun target => heeded target ∨ Json.same a.source.id target = true)
      (editions ++ [a]) (others ++ [b]) := by
  intro target htarget
  rw [current?_concat, current?_concat, ← halike.source]
  by_cases hsame : Json.same a.source.id target = true
  · rw [if_pos hsame, if_pos hsame]
    exact .some halike
  · rw [if_neg hsame, if_neg hsame]
    exact h target (htarget.resolve_right hsame)

/-- Where one more document is in the first only, the same is current under the other
identifiers. -/
theorem Coincide.first {heeded : Json → Prop} {editions others : List Edition} {a : Edition}
    (h : Coincide heeded editions others) :
    Coincide (fun target => heeded target ∧ Json.same a.source.id target = false)
      (editions ++ [a]) others := by
  intro target htarget
  rw [current?_concat, if_neg (by simp [htarget.2])]
  exact h target htarget.1

/-- Batches stay abreast with more common documents that take up heeded targets only. -/
theorem Abreast.append {heeded : Json → Prop} {editions others more more' : List Edition}
    (h : Abreast editions others) (hsame : Coincide heeded editions others)
    (halike : List.Forall₂ Edition.Alike more more')
    (htakes : ∀ edition ∈ more, ∀ target, edition.source.shape.TakesUp target → heeded target) :
    Abreast (editions ++ more) (others ++ more') ∧
      Coincide heeded (editions ++ more) (others ++ more') := by
  induction halike generalizing editions others with
  | nil => simpa using ⟨h, hsame⟩
  | @cons a b more more' hab _ ih =>
    obtain ⟨ha, hmore⟩ := List.forall_mem_cons.1 htakes
    rw [List.append_cons editions, List.append_cons others]
    exact ih (.both h hab (hsame.mono ha)) ((hsame.both hab).mono fun _ => .inl) hmore

/-- In a list without repeated numbers, an edition has another number than a later one. -/
theorem number_ne_of_nodup {editions before rest : List Edition} {a last : Edition}
    (hnumbers : (editions.map Edition.number).Nodup) (heditions : editions = before ++ last :: rest)
    (ha : a ∈ before) : a.number ≠ last.number := by
  rw [heditions, List.map_append, List.nodup_append] at hnumbers
  exact hnumbers.2.2 _ (List.mem_map_of_mem ha) _ (List.mem_map_of_mem List.mem_cons_self)

/-- **What holds of the editions of a common document if it holds of all pairs before them, holds
of all pairs.** -/
theorem Abreast.pairs {motive : Edition → Edition → Prop} {editions others first second more more' :
    List Edition} (hnumbers : (editions.map Edition.number).Nodup)
    (hnumbers' : (others.map Edition.number).Nodup)
    (step : ∀ before a rest before' b rest', editions = before ++ a :: rest →
      others = before' ++ b :: rest' → a.Alike b →
      Coincide a.source.shape.TakesUp before before' →
      (∀ c ∈ before, ∀ d ∈ before', c.Alike d → motive c d) → motive a b)
    (h : Abreast first second) (hfirst : editions = first ++ more)
    (hsecond : others = second ++ more') :
    ∀ a ∈ first, ∀ b ∈ second, a.Alike b → motive a b := by
  induction h generalizing more more' with
  | nil => exact fun _ ha => nomatch ha
  | @both first second last last' _ halike hsame ih =>
    rw [List.append_assoc, List.singleton_append] at hfirst hsecond
    have ih := ih hfirst hsecond
    intro a ha b hb hab
    rcases List.mem_append.1 ha with ha | ha <;> rcases List.mem_append.1 hb with hb | hb
    · exact ih a ha b hb hab
    · obtain rfl := List.mem_singleton.1 hb
      exact absurd (hab.number.trans halike.number.symm) (number_ne_of_nodup hnumbers hfirst ha)
    · obtain rfl := List.mem_singleton.1 ha
      exact absurd (hab.number.symm.trans halike.number) (number_ne_of_nodup hnumbers' hsecond hb)
    · obtain rfl := List.mem_singleton.1 ha
      obtain rfl := List.mem_singleton.1 hb
      exact step first a more second b more' hfirst hsecond hab hsame ih
  | @first first second last _ hnumber ih =>
    rw [List.append_assoc, List.singleton_append] at hfirst
    intro a ha b hb hab
    rcases List.mem_append.1 ha with ha | ha
    · exact ih hfirst hsecond a ha b hb hab
    · obtain rfl := List.mem_singleton.1 ha
      exact absurd (hab.number ▸ List.mem_map_of_mem hb) hnumber

/-! ### Mates -/

/-- What is referred to at the end of a trail that goes through no property is taken up. -/
theorem Shape.At.takesUp {shape : Shape} {trail : List Turn} {site : Site} {target : Json}
    (h : shape.At trail (.reference site target)) (hearly : isLate trail = false) :
    shape.TakesUp target := by
  generalize hinner : Shape.reference site target = inner at h
  induction h with
  | here => exact hinner ▸ .reference
  | case hcase _ ih => exact .case (List.mem_of_getElem? hcase) (ih hearly hinner)
  | item _ ih => exact .item (ih hearly hinner)
  | property => cases hearly

/-- The types stand at the end of one trail of a common document, and not at a reference. -/
def Mates (first second : Registry) (editions others : List Edition) (x y : GraphType) : Prop :=
  ∃ a ∈ editions, ∃ b ∈ others, ∃ trail shape, a.Alike b ∧ shape.isReference = false ∧
    Shown first a trail shape x ∧ Shown second b trail shape y

/-- Mates, or the wrappers of mates that are never null. -/
inductive Mated (first second : Registry) (editions others : List Edition) :
    GraphType → GraphType → Prop where
  | bare {x y} (h : Mates first second editions others x y) : Mated first second editions others x y
  | nonNull {x y} (h : Mates first second editions others x y) :
      Mated first second editions others (.nonNull x) (.nonNull y)

theorem mated_iff {first second : Registry} {editions others : List Edition} (x y : GraphType) :
    Mated first second editions others x y ↔ Mates first second editions others x y ∨
      ∃ a b, x = .nonNull a ∧ y = .nonNull b ∧ Mates first second editions others a b := by
  constructor
  · rintro (h | h)
    · exact .inl h
    · exact .inr ⟨_, _, rfl, rfl, h⟩
  · rintro (h | ⟨a, b, rfl, rfl, h⟩)
    · exact .bare h
    · exact .nonNull h

namespace Ledger.Records

variable {setting : Setting} {first second : Ledger} {editions others : List Edition}

/-- Common documents have mates for types. -/
theorem mates_root (h : first.Records setting editions) (h' : second.Records setting others)
    (habreast : Abreast editions others) {a b : Edition} (ha : a ∈ editions) (hb : b ∈ others)
    (hab : a.Alike b) : Mates first.registry second.registry editions others a.type b.type := by
  refine habreast.pairs (motive := fun a b =>
    Mates first.registry second.registry editions others a.type b.type) h.numbers h'.numbers ?_
    (List.append_nil _).symm (List.append_nil _).symm a ha b hb hab
  intro before a rest before' b rest' heditions hothers hab hsame ih
  have ha : a ∈ editions := heditions ▸ List.mem_append_right _ List.mem_cons_self
  have hb : b ∈ others := hothers ▸ List.mem_append_right _ List.mem_cons_self
  cases hshape : a.source.shape with
  | reference site target =>
    -- A document that is a reference leads to an earlier one.
    have hshown : Shown first.registry a [] (.reference site target) a.type := hshape ▸ .root
    have hshown' : Shown second.registry b [] (.reference site target) b.type := by
      rw [hab.source] at hshape
      exact hshape ▸ .root
    obtain ⟨c, hc, hctype⟩ := h.reference_early heditions hshown rfl
    obtain ⟨d, hd, hdtype⟩ := h'.reference_early hothers hshown' rfl
    have hcd := hsame target (hshape ▸ .reference)
    rw [hc, hd] at hcd
    cases hcd with
    | some hcd =>
      rw [← hctype, ← hdtype]
      exact ih c (current?_some hc).1 d (current?_some hd).1 hcd
  | _ =>
    refine ⟨a, ha, b, hb, [], a.source.shape, hab, by rw [hshape]; rfl, .root, ?_⟩
    rw [hab.source]
    exact .root

/-- What both registries hold under one identifier was made for a common document. -/
theorem exists_alike_of_find? (h : first.Records setting editions)
    (h' : second.Records setting others) (hlast : Coincide Build.anyTarget editions others)
    {target : Json} {x y : GraphType} (hx : first.registry.find? target = some x)
    (hy : second.registry.find? target = some y) :
    ∃ c ∈ editions, ∃ d ∈ others, c.Alike d ∧ c.type = x ∧ d.type = y := by
  have hcd := hlast target trivial
  rw [h.find?] at hx
  rw [h'.find?] at hy
  obtain ⟨c, hc, hctype⟩ := Option.map_eq_some_iff.1 hx
  obtain ⟨d, hd, hdtype⟩ := Option.map_eq_some_iff.1 hy
  rw [hc, hd] at hcd
  cases hcd with
  | some hcd => exact ⟨c, (current?_some hc).1, d, (current?_some hd).1, hcd, hctype, hdtype⟩

/-- A reference in a common document leads to a common document in both batches. -/
theorem exists_alike_of_reference (h : first.Records setting editions)
    (h' : second.Records setting others) (habreast : Abreast editions others)
    (hlast : Coincide Build.anyTarget editions others) {a b : Edition} (ha : a ∈ editions)
    (hb : b ∈ others) (hab : a.Alike b) {trail : List Turn} {site : Site} {target : Json}
    {x y : GraphType} (hx : Shown first.registry a trail (.reference site target) x)
    (hy : Shown second.registry b trail (.reference site target) y) :
    ∃ c ∈ editions, ∃ d ∈ others, c.Alike d ∧ c.type = x ∧ d.type = y := by
  cases hlate : isLate trail with
  | true =>
    exact h.exists_alike_of_find? h' hlast (h.reference_late ha hx hlate)
      (h'.reference_late hb hy hlate)
  | false =>
    refine habreast.pairs (motive := fun a b => Shown first.registry a trail
      (.reference site target) x → Shown second.registry b trail (.reference site target) y →
        ∃ c ∈ editions, ∃ d ∈ others, c.Alike d ∧ c.type = x ∧ d.type = y)
      h.numbers h'.numbers ?_ (List.append_nil _).symm (List.append_nil _).symm a ha b hb hab hx hy
    intro before a rest before' b rest' heditions hothers hab hsame _ hx hy
    obtain ⟨c, hc, hctype⟩ := h.reference_early heditions hx hlate
    obtain ⟨d, hd, hdtype⟩ := h'.reference_early hothers hy hlate
    have hcd := hsame target (hx.shape_at.takesUp hlate)
    rw [hc, hd] at hcd
    cases hcd with
    | some hcd =>
      exact ⟨c, heditions ▸ List.mem_append_left _ (current?_some hc).1,
        d, hothers ▸ List.mem_append_left _ (current?_some hd).1, hcd, hctype, hdtype⟩

/-- Types at the end of one trail of a common document are mates, even at a reference. -/
theorem mates_of_shown (h : first.Records setting editions) (h' : second.Records setting others)
    (habreast : Abreast editions others) (hlast : Coincide Build.anyTarget editions others)
    {a b : Edition} (ha : a ∈ editions) (hb : b ∈ others) (hab : a.Alike b) {trail : List Turn}
    {shape : Shape} {x y : GraphType} (hx : Shown first.registry a trail shape x)
    (hy : Shown second.registry b trail shape y) :
    Mates first.registry second.registry editions others x y := by
  cases shape with
  | reference site target =>
    obtain ⟨c, hc, d, hd, hcd, rfl, rfl⟩ :=
      h.exists_alike_of_reference h' habreast hlast ha hb hab hx hy
    exact h.mates_root h' habreast hc hd hcd
  | _ => exact ⟨a, ha, b, hb, trail, _, hab, rfl, hx, hy⟩

/-! ### Mates are made alike -/

/-- The fields of objects that are mates are alike. -/
theorem fields_mated (h : first.Records setting editions) (h' : second.Records setting others)
    (habreast : Abreast editions others) (hlast : Coincide Build.anyTarget editions others)
    {a b : Edition} (ha : a ∈ editions) (hb : b ∈ others) (hab : a.Alike b) {trail : List Turn}
    {site : Site} {required : List Json} {properties : List (String × Shape)}
    {info info' : TypeInfo} {plan plan' : FieldPlan} {fields fields' : FieldMap}
    (hx : Shown first.registry a trail (.object site required properties) (.object info plan))
    (hy : Shown second.registry b trail (.object site required properties) (.object info' plan'))
    (hbuilt : first.registry.built.lookup plan.key = some fields)
    (hbuilt' : second.registry.built.lookup plan'.key = some fields') :
    FieldMap.Alike (Mated first.registry second.registry editions others) fields fields' := by
  obtain ⟨before, rest, heditions⟩ := List.append_of_mem ha
  obtain ⟨before', rest', hothers⟩ := List.append_of_mem hb
  cases h.stands_of_shown heditions hx with
  | object _ _ hplan hplanKey =>
  cases h'.stands_of_shown hothers hy with
  | object _ _ hplan' hplanKey' =>
  refine (h.sound.fills _ hplan _ _ hbuilt hplanKey).alike
    (h'.sound.fills _ hplan' _ _ hbuilt' hplanKey') rfl rfl ?_
  rintro list list' index property shape x y rfl rfl hproperty hfield hfield'
  have hmates := h.mates_of_shown h' habreast hlast ha hb hab (.field hx hbuilt hproperty hfield)
    (.field hy hbuilt' hproperty hfield')
  simp only [Field.ofProperty]
  split
  · exact .nonNull hmates
  · exact .bare hmates

/-- **Mates are made alike**, and lead to mates. -/
theorem mates_alike (h : first.Records setting editions) (h' : second.Records setting others)
    (habreast : Abreast editions others) (hlast : Coincide Build.anyTarget editions others)
    (hbuilt : first.registry.IsBuilt) (hbuilt' : second.registry.IsBuilt) {x y : GraphType}
    (hmates : Mates first.registry second.registry editions others x y) :
    GraphType.Alike first.registry second.registry
      (Mated first.registry second.registry editions others) x y := by
  obtain ⟨a, ha, b, hb, trail, shape, hab, hshape, hx, hy⟩ := hmates
  obtain ⟨before, rest, heditions⟩ := List.append_of_mem ha
  obtain ⟨before', rest', hothers⟩ := List.append_of_mem hb
  have hstands := h.stands_of_shown heditions hx
  have hstands' := h'.stands_of_shown hothers hy
  rw [← hab.source] at hstands'
  refine hstands.alike hstands' hshape ?_ ?_ ?_
  · rintro site cases info info' members members' index key inner a b rfl rfl rfl hcase hmember
      hmember'
    exact .bare (h.mates_of_shown h' habreast hlast ha hb hab (.member hx hcase hmember)
      (.member hy hcase hmember'))
  · rintro site items key key' a b rfl rfl rfl
    exact .nonNull (h.mates_of_shown h' habreast hlast ha hb hab (.item hx) (.item hy))
  · rintro site required properties info info' plan plan' rfl rfl rfl - -
    cases hstands with
    | object _ _ hplan _ =>
    cases hstands' with
    | object _ _ hplan' _ =>
    obtain ⟨fields, hfields⟩ := Option.isSome_iff_exists.1 (hbuilt _ hplan)
    obtain ⟨fields', hfields'⟩ := Option.isSome_iff_exists.1 (hbuilt' _ hplan')
    exact ⟨fields, fields', hfields, hfields',
      h.fields_mated h' habreast hlast ha hb hab hx hy hfields hfields'⟩

end Ledger.Records

/-! ### Mates are one-to-one -/

theorem Edition.Alike.symm {a b : Edition} (h : a.Alike b) : b.Alike a :=
  ⟨h.number.symm, h.source.symm⟩

theorem Coincide.swap {heeded : Json → Prop} {editions others : List Edition}
    (h : Coincide heeded editions others) : Coincide heeded others editions := by
  intro target htarget
  have hab := h target htarget
  generalize current? editions target = found at hab ⊢
  generalize current? others target = found' at hab ⊢
  cases hab with
  | some hab => exact .some hab.symm
  | none => exact .none

theorem Mates.swap {first second : Registry} {editions others : List Edition} {x y : GraphType}
    (h : Mates first second editions others x y) : Mates second first others editions y x :=
  let ⟨a, ha, b, hb, trail, shape, hab, hshape, hx, hy⟩ := h
  ⟨b, hb, a, ha, trail, shape, hab.symm, hshape, hy, hx⟩

namespace Ledger.Records

variable {setting : Setting} {first second : Ledger} {editions others : List Edition}

theorem identity_eq_of_mates (h : first.Records setting editions)
    (h' : second.Records setting others) {x y z w : GraphType}
    (hxy : Mates first.registry second.registry editions others x y)
    (hzw : Mates first.registry second.registry editions others z w)
    (hidentity : x.identity = z.identity) : y.identity = w.identity := by
  obtain ⟨a, ha, b, hb, trail, shape, hab, hshape, hx, hy⟩ := hxy
  obtain ⟨c, hc, d, hd, trail', shape', hcd, hshape', hz, hw⟩ := hzw
  obtain ⟨before, rest, heditions⟩ := List.append_of_mem ha
  obtain ⟨before', rest', heditions'⟩ := List.append_of_mem hc
  obtain ⟨others₁, rest₁, hothers⟩ := List.append_of_mem hb
  obtain ⟨others₂, rest₂, hothers'⟩ := List.append_of_mem hd
  rcases (h.stands_of_shown heditions hx).identity_eq hshape with
    ⟨site, kind, rfl, rfl⟩ | ⟨key, hkey, hplace⟩ <;>
    rcases (h.stands_of_shown heditions' hz).identity_eq hshape' with
      ⟨site', kind', rfl, rfl⟩ | ⟨key', hkey', hplace'⟩
  · cases hidentity
    cases h'.stands_of_shown hothers hy
    cases h'.stands_of_shown hothers' hw
    rfl
  · rw [hkey'] at hidentity
    cases hidentity
  · rw [hkey] at hidentity
    cases hidentity
  · obtain rfl := h.edition_unique ha hc hx hz hshape hshape' hkey (hidentity ▸ hkey)
    obtain rfl : b = d :=
      List.inj_on_of_nodup_map h'.numbers hb hd (hab.number.symm.trans hcd.number)
    rw [hkey, hkey'] at hidentity
    cases hidentity
    have hfollow : some (a.place.follow trail) = some (a.place.follow trail') :=
      hplace.symm.trans hplace'
    obtain rfl := hx.shape_at.eq_of_bare hz.shape_at
      (Place.bare_eq_of_follow (Option.some.inj hfollow))
    rw [hy.unique hw]

/-- No mate is a wrapper. -/
theorem identity_ne_of_mates (h : first.Records setting editions) {x y : GraphType}
    (hxy : Mates first.registry second.registry editions others x y)
    (item : GraphType.Identity) : x.identity ≠ .nonNull item := by
  obtain ⟨a, ha, b, -, trail, shape, -, hshape, hx, -⟩ := hxy
  obtain ⟨before, rest, heditions⟩ := List.append_of_mem ha
  rcases (h.stands_of_shown heditions hx).identity_eq hshape with
    ⟨site, kind, rfl, rfl⟩ | ⟨key, hkey, -⟩
  · exact fun heq => nomatch heq
  · rw [hkey]
    exact fun heq => nomatch heq

/-- **Batches that run abreast have the same graph of their common documents.** -/
theorem isomorphism_of_abreast (h : first.Records setting editions)
    (h' : second.Records setting others) (habreast : Abreast editions others)
    (hlast : Coincide Build.anyTarget editions others) (hbuilt : first.registry.IsBuilt)
    (hbuilt' : second.registry.IsBuilt) :
    Isomorphism first.registry second.registry
      (Mated first.registry second.registry editions others) := by
  refine .of_bare mated_iff (fun _ _ => h.mates_alike h' habreast hlast hbuilt hbuilt') ?_ ?_
  · intro x y z w hxy hzw
    exact ⟨h.identity_eq_of_mates h' hxy hzw, h'.identity_eq_of_mates h hxy.swap hzw.swap⟩
  · exact fun x y item hxy =>
      ⟨h.identity_ne_of_mates hxy item, h'.identity_ne_of_mates hxy.swap item⟩

/-! ### Entries -/

/-- What has an entry in one batch has one in the other. -/
theorem exists_entry (h : first.Records setting editions) (h' : second.Records setting others)
    (hlast : Coincide Build.anyTarget editions others) {entry : Json × GraphType}
    (hentry : entry ∈ first.registry.entries) :
    ∃ other ∈ second.registry.entries, other.1.measure? = entry.1.measure? := by
  have hfind := h.find?_of_mem hentry
  rw [h.find?] at hfind
  obtain ⟨a, ha, -⟩ := Option.map_eq_some_iff.1 hfind
  have hab := hlast entry.1 trivial
  rw [ha] at hab
  generalize hb : current? others entry.1 = found at hab
  cases hab with
  | @some _ b hab =>
    have hfind' := h'.find? entry.1
    rw [hb] at hfind'
    obtain ⟨_, hid, hsame⟩ := Registry.exists_find?_iff.1 ⟨_, hfind'⟩
    obtain ⟨other, hother, rfl⟩ := List.mem_map.1 hid
    exact ⟨other, hother, (Json.same_key_iff (h'.isKey_of_mem hother)).1 hsame⟩

/-- **Batches that run abreast have the same entries**, but for their order. -/
theorem entries_of_abreast (h : first.Records setting editions)
    (h' : second.Records setting others) (habreast : Abreast editions others)
    (hlast : Coincide Build.anyTarget editions others) : ∃ entries,
      entries.Perm second.registry.entries ∧
      List.Forall₂ (fun entry other => Json.same entry.1 other.1 = true ∧
        Mated first.registry second.registry editions others entry.2 other.2)
        first.registry.entries entries := by
  have hperm : (first.registry.entries.map fun entry => entry.1.measure?).Perm
      (second.registry.entries.map fun entry => entry.1.measure?) := by
    refine (List.perm_ext_iff_of_nodup h.nodup_measures h'.nodup_measures).2 fun measure => ?_
    constructor
    · intro hmem
      obtain ⟨entry, hentry, rfl⟩ := List.mem_map.1 hmem
      obtain ⟨other, hother, heq⟩ := h.exists_entry h' hlast hentry
      exact List.mem_map.2 ⟨other, hother, heq⟩
    · intro hmem
      obtain ⟨entry, hentry, rfl⟩ := List.mem_map.1 hmem
      obtain ⟨other, hother, heq⟩ := h'.exists_entry h hlast.swap hentry
      exact List.mem_map.2 ⟨other, hother, heq⟩
  obtain ⟨entries, hmeasures, hentries⟩ := List.perm_comp_forall₂ hperm
    (List.forall₂_map_left_iff.2 (List.forall₂_same.2 fun entry _ => rfl) :
      List.Forall₂ (fun measure (entry : Json × GraphType) => measure = entry.1.measure?) _ _)
  rw [List.forall₂_map_left_iff] at hmeasures
  refine ⟨entries, hentries, ?_⟩
  have hmem := (List.forall₂_and_left _ _).2 ⟨fun _ hentry => hentry, hmeasures⟩
  have hmem' := (List.forall₂_and_left _ _).2 ⟨fun _ hentry => hentry, hmem.flip⟩
  refine hmem'.flip.imp fun entry other hboth => ?_
  obtain ⟨hother, hentry, heq⟩ := hboth
  have hsame : Json.same entry.1 other.1 = true :=
    (Json.same_key_iff (h.isKey_of_mem hentry)).2 heq
  refine ⟨hsame, .bare ?_⟩
  have hfind := h.find?_of_mem hentry
  have hfind' := (h'.find?_congr heq).trans (h'.find?_of_mem (hentries.mem_iff.1 hother))
  obtain ⟨a, ha, b, hb, hab, hatype, hbtype⟩ :=
    h.exists_alike_of_find? h' hlast hfind hfind'
  rw [← hatype, ← hbtype]
  exact h.mates_root h' habreast ha hb hab

end Ledger.Records
end SchemaGraph
