import SchemaGraph.Proofs.Graph.Place
import SchemaGraph.Proofs.Name.Position

/-! Ways down a shape.

A trail leads from a shape down to one that it nests (`Shape.At`). It gives the place that
the shape below has, and the path that its name is made along; items have places of their
own, but no names (`Turn.segment?`).

Different trails can spell the same path. If the keys of every union and of every object
are spelled so that none begins like another (`Shape.SpellsApart`), then a spelling can be
read back, and trails to shapes that get names are told apart by their paths
(`Shape.At.eq_of_spelling`). -/
namespace SchemaGraph

/-- One step down a shape. Cases and properties are counted from zero. -/
inductive Turn where
  | case (index : Nat) (key : String)
  | item
  | property (index : Nat) (name : String)

/-- What names tell of a step. Items share the name of their array. -/
def Turn.segment? : Turn → Option Name.Segment
  | case _ key => some (.case key)
  | item => none
  | property _ name => some (.property name)

/-- The place one step down. -/
def Place.turn (above : Place) : Turn → Place
  | .case index _ => above.case index
  | .item => above.item
  | .property index _ => above.property index

/-- The place at the end of a trail. -/
def Place.follow (root : Place) (trail : List Turn) : Place := trail.foldl Place.turn root

/-- The path that names are made along. -/
def pathOf (trail : List Turn) : List Name.Segment := trail.filterMap Turn.segment?

namespace Shape

/-- The shape `inner` is nested in another one, at the end of a trail. -/
inductive At : Shape → List Turn → Shape → Prop where
  | here {shape} : At shape [] shape
  | case {site cases index key shape trail inner} (hcase : cases[index]? = some (key, shape))
      (h : At shape trail inner) : At (.union site cases) (.case index key :: trail) inner
  | item {site items trail inner} (h : At items trail inner) :
      At (.array site items) (.item :: trail) inner
  | property {site required properties index property shape trail inner}
      (hproperty : properties[index]? = some (property, shape)) (h : At shape trail inner) :
      At (.object site required properties) (.property index property :: trail) inner

theorem At.append {shape inner last : Shape} {trail further : List Turn}
    (h : At shape trail inner) (h' : At inner further last) : At shape (trail ++ further) last := by
  induction h with
  | here => exact h'
  | case hcase _ ih => exact .case hcase (ih h')
  | item _ ih => exact .item (ih h')
  | property hproperty _ ih => exact .property hproperty (ih h')

/-- One shape stands at the end of a trail. -/
theorem At.unique {shape inner other : Shape} {trail : List Turn} (h : At shape trail inner)
    (h' : At shape trail other) : inner = other := by
  induction h with
  | here =>
    cases h'
    rfl
  | case hcase _ ih =>
    cases h' with
    | case hcase' h' =>
      rw [hcase] at hcase'
      cases hcase'
      exact ih h'
  | item _ ih =>
    cases h' with
    | item h' => exact ih h'
  | property hproperty _ ih =>
    cases h' with
    | property hproperty' h' =>
      rw [hproperty] at hproperty'
      cases hproperty'
      exact ih h'

/-- A type that is made for the shape has a name. -/
def IsNamed : Shape → Prop
  | union _ _ => True
  | object _ _ _ => True
  | enum _ _ _ => True
  | _ => False

/-! ### Reading a spelling back -/

/-- None of the entries is spelled like the beginning of another one. -/
def AreApart (segment : String → Name.Segment) (entries : List (String × Shape)) : Prop :=
  entries.Pairwise fun a b => ¬ (segment a.1).spelling <+: (segment b.1).spelling ∧
    ¬ (segment b.1).spelling <+: (segment a.1).spelling

/-- What comes right below the shape can be told apart by its spelling. -/
def SpellsApart : Shape → Prop
  | union _ cases => AreApart .case cases
  | object _ _ properties => AreApart .property properties ∧
      ∀ entry ∈ properties, (Name.Segment.property entry.1).spelling ≠ []
  | _ => True

theorem AreApart.index_eq {segment : String → Name.Segment} {entries : List (String × Shape)}
    (h : AreApart segment entries) {i j : Nat} {a b : String × Shape} {rest rest' : List Char}
    (ha : entries[i]? = some a) (hb : entries[j]? = some b)
    (heq : (segment a.1).spelling ++ rest = (segment b.1).spelling ++ rest') : i = j := by
  have hboth : (segment a.1).spelling <+: (segment b.1).spelling ∨
      (segment b.1).spelling <+: (segment a.1).spelling :=
    List.prefix_or_prefix_of_prefix (List.prefix_append _ rest) (heq ▸ List.prefix_append _ rest')
  obtain ⟨hi, rfl⟩ := List.getElem?_eq_some_iff.1 ha
  obtain ⟨hj, rfl⟩ := List.getElem?_eq_some_iff.1 hb
  have hapart := List.pairwise_iff_getElem.1 h
  rcases Nat.lt_trichotomy i j with hlt | rfl | hgt
  · obtain ⟨hab, hba⟩ := hapart i j hi hj hlt
    exact absurd hboth (by simp [hab, hba])
  · rfl
  · obtain ⟨hba, hab⟩ := hapart j i hj hi hgt
    exact absurd hboth (by simp [hab, hba])

theorem spelling_case_ne_nil (key : String) : (Name.Segment.case key).spelling ≠ [] := by
  show Name.spelling (".oneOf[" ++ key ++ "]").toList ≠ []
  rw [String.toList_append, String.toList_append, Name.spelling_append, Name.spelling_append]
  have hword : Name.spelling ".oneOf[".toList ≠ [] := by decide
  exact List.append_ne_nil_of_left_ne_nil (List.append_ne_nil_of_left_ne_nil hword _) _

/-- Below a shape that gets a name, the first step down is told of. -/
theorem At.spelling_ne_nil {shape inner : Shape} {turn : Turn} {trail : List Turn}
    (h : At shape (turn :: trail) inner) (hnamed : shape.IsNamed) (hapart : shape.SpellsApart) :
    Name.spellingOf (pathOf (turn :: trail)) ≠ [] := by
  cases h with
  | @case _ _ _ key _ _ _ hcase h =>
    have hkey := spelling_case_ne_nil key
    simp [pathOf, Turn.segment?, Name.spellingOf, hkey]
  | item h => cases hnamed
  | property hproperty h =>
    have hkey := hapart.2 _ (List.mem_of_getElem? hproperty)
    simp [pathOf, Turn.segment?, Name.spellingOf, hkey]

/-- **Where keys are spelled apart, a path leads to one shape only**, among those that get
names. -/
theorem At.eq_of_spelling {shape first second : Shape} {trail trail' : List Turn}
    (h : At shape trail first) (h' : At shape trail' second) (hfirst : first.IsNamed)
    (hsecond : second.IsNamed)
    (hapart : ∀ trail inner, At shape trail inner → inner.SpellsApart)
    (heq : Name.spellingOf (pathOf trail) = Name.spellingOf (pathOf trail')) :
    trail = trail' := by
  induction h generalizing trail' with
  | here =>
    cases trail' with
    | nil => rfl
    | cons turn rest => exact absurd heq.symm (h'.spelling_ne_nil hfirst (hapart _ _ .here))
  | @case site cases index key shape trail inner hcase h ih =>
    have hhere := hapart _ _ .here
    cases h' with
    | here => exact absurd heq ((At.case hcase h).spelling_ne_nil hsecond hhere)
    | @case _ _ index' key' shape' trail' _ hcase' h' =>
      have hspelled : (Name.Segment.case key).spelling ++ Name.spellingOf (pathOf trail) =
          (Name.Segment.case key').spelling ++ Name.spellingOf (pathOf trail') := heq
      obtain rfl := AreApart.index_eq hhere hcase hcase' hspelled
      rw [hcase] at hcase'
      cases hcase'
      rw [ih h' hfirst (fun trail inner hat => hapart _ _ (.case hcase hat))
        (List.append_cancel_left hspelled)]
  | item h ih =>
    cases h' with
    | here => cases hsecond
    | item h' =>
      rw [ih h' hfirst (fun trail inner hat => hapart _ _ (.item hat)) heq]
  | @property site required properties index property shape trail inner hproperty h ih =>
    have hhere := hapart _ _ .here
    cases h' with
    | here => exact absurd heq ((At.property hproperty h).spelling_ne_nil hsecond hhere)
    | @property _ _ _ index' property' shape' trail' _ hproperty' h' =>
      have hspelled : (Name.Segment.property property).spelling ++
          Name.spellingOf (pathOf trail) = (Name.Segment.property property').spelling ++
            Name.spellingOf (pathOf trail') := heq
      obtain rfl := AreApart.index_eq hhere.1 hproperty hproperty' hspelled
      rw [hproperty] at hproperty'
      cases hproperty'
      rw [ih h' hfirst (fun trail inner hat => hapart _ _ (.property hproperty hat))
        (List.append_cancel_left hspelled)]

end Shape

/-! ### Reading a place back -/

/-- The step without the key or name that it goes by. -/
def Turn.bare : Turn → Turn
  | case index _ => case index ""
  | item => item
  | property index _ => property index ""

namespace Place

theorem turn_ne_document (place : Place) (turn : Turn) (id : Json) :
    place.turn turn ≠ .document id := by
  cases turn <;> exact fun h => nomatch h

theorem turn_inj {place other : Place} {turn last : Turn} (h : place.turn turn = other.turn last) :
    place = other ∧ turn.bare = last.bare := by
  cases turn <;> cases last <;> cases h <;> exact ⟨rfl, rfl⟩

theorem follow_concat (root : Place) (trail : List Turn) (turn : Turn) :
    root.follow (trail ++ [turn]) = (root.follow trail).turn turn := by
  simp [follow]

/-- Trails from one document to one place go the same steps. -/
theorem bare_eq_of_follow {id : Json} {trail trail' : List Turn}
    (h : (document id).follow trail = (document id).follow trail') :
    trail.map Turn.bare = trail'.map Turn.bare := by
  induction trail using List.reverseRecOn generalizing trail' with
  | nil =>
    rcases List.eq_nil_or_concat trail' with rfl | ⟨rest, last, rfl⟩
    · rfl
    · rw [List.concat_eq_append, follow_concat] at h
      exact absurd h.symm (turn_ne_document _ _ _)
  | append_singleton trail turn ih =>
    rw [follow_concat] at h
    rcases List.eq_nil_or_concat trail' with rfl | ⟨rest, last, rfl⟩
    · exact absurd h (turn_ne_document _ _ _)
    · rw [List.concat_eq_append, follow_concat] at h
      obtain ⟨hrest, hlast⟩ := turn_inj h
      rw [List.concat_eq_append, List.map_append, List.map_append, ih hrest, List.map_singleton,
        List.map_singleton, hlast]

end Place

/-- **A place is at the end of one trail** from the root of a document. -/
theorem Shape.At.eq_of_bare {shape first second : Shape} {trail trail' : List Turn}
    (h : At shape trail first) (h' : At shape trail' second)
    (heq : trail.map Turn.bare = trail'.map Turn.bare) : trail = trail' := by
  induction h generalizing trail' with
  | here => exact (List.map_eq_nil_iff.1 heq.symm).symm
  | case hcase h ih =>
    cases h' with
    | here => cases heq
    | case hcase' h' =>
      obtain ⟨hturn, hrest⟩ := List.cons.inj heq
      cases hturn
      rw [hcase] at hcase'
      cases hcase'
      rw [ih h' hrest]
  | item h ih =>
    cases h' with
    | here => cases heq
    | item h' => rw [ih h' (List.cons.inj heq).2]
  | property hproperty h ih =>
    cases h' with
    | here => cases heq
    | property hproperty' h' =>
      obtain ⟨hturn, hrest⟩ := List.cons.inj heq
      cases hturn
      rw [hproperty] at hproperty'
      cases hproperty'
      rw [ih h' hrest]

end SchemaGraph
