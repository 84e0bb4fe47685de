import SchemaGraph.Proofs.Batch.Session
import SchemaGraph.Proofs.Graph.Making

/-! Where the cycles of a graph are.

References make a graph cyclic. But a reference that is not below a property is looked up while
its own document is still being compiled, so it finds an older type, and only the fields of
objects are built later. What a list, a non-null type or a union is made of was therefore made
before it and has a smaller key (`GraphType.Layered`). This is a law of making types
(`GraphType.layered_law`), so it holds at all times of a session, whatever failed and whatever
was replaced. It follows that there is no cycle, and no infinite path, from types to what they
are made of, even if types are told apart by their identities alone: every cycle passes through
a field (`Session.wellFounded_under`). -/
namespace SchemaGraph

/-! ### Types and what they are made of -/

/-- The first type is made of the second: a member, the item, or the type inside. -/
inductive GraphType.MadeOf : GraphType → GraphType → Prop where
  | member {info members member} (hmember : member ∈ members) : MadeOf (.union info members) member
  | item {key item} : MadeOf (.list key item) item
  | inner {item} : MadeOf (.nonNull item) item

/-- The type has a key below `bound`, and what it is made of has keys below its own. -/
inductive GraphType.Layered : Nat → GraphType → Prop where
  | scalar {bound kind} : Layered bound (.scalar kind)
  | object {bound info plan} (hkey : info.key < bound) : Layered bound (.object info plan)
  | union {bound info members} (hkey : info.key < bound)
      (hmembers : ∀ member ∈ members, Layered info.key member) :
      Layered bound (.union info members)
  | enum {bound info values} (hkey : info.key < bound) : Layered bound (.enum info values)
  | list {bound key item} (hkey : key < bound) (hitem : Layered key item) :
      Layered bound (.list key item)
  | nonNull {bound item} (hitem : Layered bound item) : Layered bound (.nonNull item)

namespace GraphType

/-- A number that grows from the parts of a type to the type: by its key first, and by how
often it is made non-null. -/
def Identity.rank : Identity → Nat × Nat
  | scalar _ => (0, 0)
  | foreign => (0, 0)
  | keyed key => (key + 1, 0)
  | nonNull item => (item.rank.1, item.rank.2 + 1)

namespace Layered

variable {bound : Nat} {type : GraphType}

theorem mono {more : Nat} (h : Layered bound type) (hmore : bound ≤ more) : Layered more type := by
  induction h with
  | scalar => exact .scalar
  | object hkey => exact .object (Nat.lt_of_lt_of_le hkey hmore)
  | union hkey hmembers => exact .union (Nat.lt_of_lt_of_le hkey hmore) hmembers
  | enum hkey => exact .enum (Nat.lt_of_lt_of_le hkey hmore)
  | list hkey hitem => exact .list (Nat.lt_of_lt_of_le hkey hmore) hitem
  | nonNull _ ih => exact .nonNull (ih hmore)

theorem rank_le (h : Layered bound type) : type.identity.rank.1 ≤ bound := by
  induction h with
  | scalar => exact Nat.zero_le _
  | object hkey | union hkey | enum hkey | list hkey => exact hkey
  | nonNull _ ih => exact ih

/-- What a type is made of is layered as well, and of a smaller rank. -/
theorem part {part : GraphType} (h : Layered bound type) (hpart : type.MadeOf part) :
    (∃ bound, Layered bound part) ∧
      Prod.Lex (· < ·) (· < ·) part.identity.rank type.identity.rank := by
  cases hpart with
  | member hmember =>
    cases h with
    | union hkey hmembers =>
      have hlayered := hmembers _ hmember
      exact ⟨⟨_, hlayered⟩, .left _ _ (Nat.lt_succ_of_le hlayered.rank_le)⟩
  | item =>
    cases h with
    | list hkey hitem => exact ⟨⟨_, hitem⟩, .left _ _ (Nat.lt_succ_of_le hitem.rank_le)⟩
  | inner =>
    cases h with
    | nonNull hitem => exact ⟨⟨_, hitem⟩, .right _ (Nat.lt_succ_self _)⟩

/-- There is a type with a name inside all wrappers. -/
theorem exists_name (h : Layered bound type) : ∃ name, type.named.name? = some name := by
  induction h with
  | scalar | object _ | union _ _ | enum _ => exact ⟨_, rfl⟩
  | list _ _ ih | nonNull _ ih => exact ih

end Layered

theorem layered_law : TypeLaw fun _ next type => Layered next type where
  mono h _ hnext := h.mono hnext
  scalar := .scalar
  object _ hkey := .object hkey
  union hmembers := .union (Nat.lt_succ_self _) hmembers
  enum := .enum (Nat.lt_succ_self _)
  list hitem := .list (Nat.lt_succ_self _) hitem
  nonNull hitem := .nonNull hitem

end GraphType

/-! ### Laws over a session -/

namespace TypeLaw

open Build

variable {p : List FieldPlan → Nat → GraphType → Prop}

theorem compile (law : TypeLaw p) (config : Config) (customize? : Option Customizer)
    (document : Json) {registry : Registry} (h : registry.Upholds p) :
    ((Build.compile config customize? document).on registry).2.Upholds p := by
  refine compile_preserves (fun _ _ h => ⟨h.entries, h.built⟩) ?_ ?_ document h
  · intro position shape registry h
    obtain ⟨_, hextends, -⟩ :=
      (buildType_adds (config.setting customize?) position shape).adds registry
    exact law.upholds h hextends
  · intro position shape registry after type id _ h hbuild hafter
    have htype : p after.plans after.nextKey type := law.buildType h.entries hbuild
    refine ⟨fun entry hentry => ?_, hafter.built⟩
    rcases Registry.of_mem_setEntry hentry with hentry | hentry
    · exact hafter.entries entry hentry
    · rw [hentry]
      exact htype

/-- **A law of making types** holds at all times of a session. -/
theorem session (law : TypeLaw p) {start registry : Registry} {lost : List FieldPlan}
    (h : Session start registry lost) (hstart : start.Upholds p) : registry.Upholds p := by
  refine h.preserves ?_ ?_ ?_ ?_ hstart
  · intro setting name schema registry h
    obtain ⟨_, hadded⟩ := (buildSchema_numbers setting name schema).adds registry
    exact law.upholds h hadded.toExtends
  · exact fun config customize? document _ h => law.compile config customize? document h
  · exact fun _ h => law.drain 0 h
  · exact fun _ plan _ h => law.fieldsOf plan h

end TypeLaw

/-! ### All types of a session -/

/-- The types that there are with a registry: those that are entered, those of fields, those that
building gives with these entries, and what all of them are made of. -/
inductive Registry.Stocks (registry : Registry) : GraphType → Prop where
  | entry {entry} (hentry : entry ∈ registry.entries) : Stocks registry entry.2
  | field {key fields field} (hbuilt : (key, .ofProperties fields) ∈ registry.built)
      (hfield : field ∈ fields) : Stocks registry field.type
  | build {setting position shape type middle after} (hentries : middle.entries = registry.entries)
      (hnextKey : registry.nextKey ≤ middle.nextKey)
      (hrun : (Build.buildType setting position shape).on middle = (.ok type, after)) :
      Stocks registry type
  | part {type part} (h : Stocks registry type) (hpart : type.MadeOf part) : Stocks registry part

/-- In the course of a session up to the registry there was a type of the identity `whole` made of
one of the identity `part`. -/
def Registry.Under (registry : Registry) (part whole : GraphType.Identity) : Prop :=
  ∃ earlier lost more type inner, Session .empty earlier lost ∧ Session earlier registry more ∧
    earlier.Stocks type ∧ type.MadeOf inner ∧ type.identity = whole ∧ inner.identity = part

namespace Session

variable {registry : Registry} {lost : List FieldPlan}

theorem isLayered (h : Session .empty registry lost) :
    registry.Upholds fun _ next type => type.Layered next :=
  GraphType.layered_law.session h Registry.upholds_empty

theorem layered_of_stocks (h : Session .empty registry lost) {type : GraphType}
    (hstocks : registry.Stocks type) : ∃ bound, type.Layered bound := by
  induction hstocks with
  | entry hentry => exact ⟨_, h.isLayered.entries _ hentry⟩
  | field hbuilt hfield => exact ⟨_, h.isLayered.built _ hbuilt _ hfield⟩
  | build hentries hnextKey hrun =>
    refine ⟨_, GraphType.layered_law.buildType (fun entry hentry => ?_) hrun⟩
    rw [hentries] at hentry
    exact (h.isLayered.entries entry hentry).mono hnextKey
  | part _ hpart ih =>
    obtain ⟨bound, hlayered⟩ := ih
    exact (hlayered.part hpart).1

/-- **Every cycle of the graph passes through a field.** From no type that there was in a session
is there an infinite path to what it is made of, and inside all wrappers of an entry there is a
type with a name. -/
theorem wellFounded_under (h : Session .empty registry lost) :
    WellFounded registry.Under ∧
      ∀ type ∈ registry.namedTypes, ∃ name, type.name? = some name := by
  refine ⟨?_, fun type htype => ?_⟩
  · have hrank : WellFounded fun part whole : GraphType.Identity =>
        Prod.Lex (· < ·) (· < ·) part.rank whole.rank :=
      InvImage.wf GraphType.Identity.rank (Prod.lex Nat.lt_wfRel Nat.lt_wfRel).wf
    refine Subrelation.wf ?_ hrank
    rintro part whole ⟨earlier, _, _, type, inner, hearlier, -, hstocks, hinner, rfl, rfl⟩
    obtain ⟨bound, hlayered⟩ := hearlier.layered_of_stocks hstocks
    exact (hlayered.part hinner).2
  · obtain ⟨entry, hentry, rfl⟩ := List.mem_map.1 htype
    exact (h.isLayered.entries entry hentry).exists_name

end Session

/-- Three documents that lead back to each other: an object with a field for the list of all such
objects, and a union of the object and of another one with a field for the union. -/
def Call.reduceRing : Call :=
  .reduce { checkMode := .off } none [
    .obj [("$id", .str "A"), ("type", .str "object"),
      ("properties", .obj [("all", .obj [("$ref", .str "B")])])],
    .obj [("$id", .str "B"), ("type", .str "array"), ("items", .obj [("$ref", .str "A")])],
    .obj [("$id", .str "C"), ("oneOf", .arr [.obj [("$ref", .str "A")],
      .obj [("type", .str "object"), ("properties", .obj [("c", .obj [("$ref", .str "C")])])]])]]

/-- The entry is a list of objects with one field, and that field has the list for its type. -/
def Registry.ringsAt (registry : Registry) (id : Json) : Bool :=
  match registry.find? id with
  | some (.list key (.nonNull (.object _ plan))) =>
    match registry.built.lookup plan.key with
    | some (.ofProperties [field]) => field.type.identity == .keyed key
    | _ => false
  | _ => false

/-- The list is made of the object, which leads back to the list by its field only. -/
theorem wellFounded_under_ring :
    let registry := Call.reduceRing.after .empty
    Session .empty registry [] ∧
    registry.ringsAt (.str "B") = true ∧
    WellFounded registry.Under ∧
    ∀ type ∈ registry.namedTypes, ∃ name, type.name? = some name := by
  intro registry
  have hok : Call.reduceRing.outcome .empty = .ok () :=
    congrArg Prod.fst (Build.on_eq_of_isOk (by decide +kernel))
  have hsession : Session .empty registry [] := Session.start.call _ fun _ => Call.not_stopsAt hok
  exact ⟨hsession, by decide +kernel, hsession.wellFounded_under⟩

end SchemaGraph
