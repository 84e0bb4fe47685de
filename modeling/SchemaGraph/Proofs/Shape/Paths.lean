import Mathlib.Data.List.Nodup
import SchemaGraph.Proofs.Shape.Grammar
import SchemaGraph.Proofs.Shape.Inversion
import SchemaGraph.Proofs.Shape.Trail

/-! Paths of schemas.

Every shape has the path of its schema, which is written from the root down: a word for each
step, and the key that the step goes by. Keys stand in the path as they are, so a key with
slashes in it can read like several steps, and two shapes can have one path
(`Shape.ofJson_path_eq`). That needs two keys right beside each other of which one is the other
with more steps behind it (`Turn.RunsOn`). Where trails part at other keys they lead to
different paths (`Shape.ofJson_path_ne`), in particular where no key has a slash in it
(`partClearly_of_slashless`). -/
namespace SchemaGraph

/-! ### Lower paths -/

/-- The path itself, or one that goes on behind it with a slash. -/
def LeadsTo (path lower : String) : Prop :=
  lower = path ∨ (path ++ "/").toList <+: lower.toList

/-- The words for steps: a path goes on with one of them. -/
def stepWords : List String := ["/oneOf", "/properties", "/items", "/then"]

/-- The path itself, or one that goes on behind it with a step. -/
def StepsTo (path lower : String) : Prop :=
  lower = path ∨ ∃ word ∈ stepWords, LeadsTo (path ++ word) lower

theorem head?_of_mem_stepWords {word : String} (h : word ∈ stepWords) :
    word.toList.head? = some '/' := by
  revert word
  decide

theorem leadsTo_iff {path lower : String} :
    LeadsTo path lower ↔
      ∃ rest, lower.toList = path.toList ++ rest ∧ ∀ c ∈ rest.head?, c = '/' := by
  rw [LeadsTo, String.toList_append]
  constructor
  · rintro (rfl | ⟨rest, hrest⟩)
    · exact ⟨[], by simp, by simp⟩
    · exact ⟨'/' :: rest, by rw [← hrest]; simp, by simp⟩
  · rintro ⟨rest, hlower, hslash⟩
    cases rest with
    | nil => exact .inl (String.toList_injective (by simpa using hlower))
    | cons c rest =>
      obtain rfl := hslash c rfl
      exact .inr ⟨rest, by rw [hlower]; simp⟩

namespace LeadsTo

variable {path lower deep : String}

theorem trans (h : LeadsTo path lower) (h' : LeadsTo lower deep) : LeadsTo path deep := by
  obtain ⟨rest, hlower, hrest⟩ := leadsTo_iff.1 h
  obtain ⟨rest', hdeep, hrest'⟩ := leadsTo_iff.1 h'
  refine leadsTo_iff.2 ⟨rest ++ rest', by rw [hdeep, hlower, List.append_assoc], ?_⟩
  cases rest with
  | nil => exact hrest'
  | cons first rest => exact hrest

theorem append_word (path : String) {word : String} (hword : word ∈ stepWords) :
    LeadsTo path (path ++ word) := by
  refine leadsTo_iff.2 ⟨word.toList, String.toList_append, fun c hc => ?_⟩
  rw [head?_of_mem_stepWords hword] at hc
  exact (Option.some.inj hc).symm

theorem length_le (h : LeadsTo path lower) : path.length ≤ lower.length := by
  obtain ⟨rest, hlower, -⟩ := leadsTo_iff.1 h
  rw [← String.length_toList, ← String.length_toList, hlower, List.length_append]
  omega

end LeadsTo

namespace StepsTo

variable {path lower deep : String}

theorem leadsTo (h : StepsTo path lower) : LeadsTo path lower := by
  rcases h with rfl | ⟨word, hword, h⟩
  · exact .inl rfl
  · exact (LeadsTo.append_word path hword).trans h

theorem trans (h : StepsTo path lower) (h' : StepsTo lower deep) : StepsTo path deep := by
  rcases h with rfl | ⟨word, hword, h⟩
  · exact h'
  · exact .inr ⟨word, hword, h.trans h'.leadsTo⟩

end StepsTo

/-! ### Keys that run on -/

namespace Turn

/-- The key that the step goes by; an array has one step only. -/
def key : Turn → String
  | case _ key => key
  | item => ""
  | property _ name => name

/-- The other key is this one with a step, and maybe more of them, behind it. -/
def RunsOn (turn other : Turn) : Prop :=
  ∃ word ∈ stepWords, LeadsTo (turn.key ++ word) other.key

instance (turn other : Turn) : Decidable (turn.RunsOn other) :=
  inferInstanceAs (Decidable (∃ word ∈ stepWords, other.key = turn.key ++ word ∨
    (turn.key ++ word ++ "/").toList <+: other.key.toList))

/-- A text that goes on like a word begins with all of it, if only slashes may follow both. -/
theorem exists_of_word {word : String} (hword : word ∈ stepWords) {more rest tail : List Char}
    (hmore : more ≠ []) (heq : more ++ rest = word.toList ++ tail)
    (hrest : ∀ c ∈ rest.head?, c = '/') (htail : ∀ c ∈ tail.head?, c = '/') :
    ∃ left, more = word.toList ++ left ∧ ∀ c ∈ left.head?, c = '/' := by
  rcases List.append_eq_append_iff.1 heq with ⟨left, hleft, hrest'⟩ | ⟨left, hleft, htail'⟩
  · cases left with
    | nil => exact ⟨[], by simpa using hleft.symm, by simp⟩
    | cons c left =>
      -- The word would have a slash behind its first character.
      obtain rfl : c = '/' := hrest c (by rw [hrest']; rfl)
      have hslash : '/' ∈ word.toList.tail := by
        rw [hleft, List.tail_append_of_ne_nil hmore]
        exact List.mem_append_right _ List.mem_cons_self
      have hnone : ∀ word ∈ stepWords, '/' ∉ word.toList.tail := by decide
      exact absurd hslash (hnone word hword)
  · refine ⟨left, hleft, fun c hc => htail c ?_⟩
    rw [htail', List.head?_append, hc]
    rfl

theorem runsOn_of_append {stem path : String} {turn other : Turn} {more : List Char}
    (h : StepsTo (stem ++ turn.key) path) (h' : StepsTo (stem ++ other.key) path)
    (hkey : other.key.toList = turn.key.toList ++ more) (hmore : more ≠ []) :
    turn.RunsOn other := by
  obtain ⟨rest, hpath', hrest⟩ := leadsTo_iff.1 h'.leadsTo
  rw [String.toList_append, hkey] at hpath'
  rcases h with rfl | ⟨word, hword, h⟩
  · exact absurd hpath' (by simp [String.toList_append, hmore])
  · obtain ⟨tail, hpath, htail⟩ := leadsTo_iff.1 h
    rw [hpath, String.toList_append, String.toList_append] at hpath'
    have heq : more ++ rest = word.toList ++ tail := by simpa using hpath'.symm
    obtain ⟨left, rfl, hleft⟩ := exists_of_word hword hmore heq hrest htail
    refine ⟨word, hword, leadsTo_iff.2 ⟨left, ?_, hleft⟩⟩
    rw [hkey, String.toList_append, List.append_assoc]

/-- Of two keys that one path goes by, one runs on into the other. -/
theorem runsOn_of_stepsTo {stem path : String} {turn turn' : Turn}
    (h : StepsTo (stem ++ turn.key) path) (h' : StepsTo (stem ++ turn'.key) path)
    (hkey : turn.key ≠ turn'.key) : turn.RunsOn turn' ∨ turn'.RunsOn turn := by
  obtain ⟨rest, hpath, -⟩ := leadsTo_iff.1 h.leadsTo
  obtain ⟨rest', hpath', -⟩ := leadsTo_iff.1 h'.leadsTo
  have heq : turn.key.toList ++ rest = turn'.key.toList ++ rest' := by
    have heq := hpath.symm.trans hpath'
    simpa [String.toList_append] using heq
  have hne : turn.key.toList ≠ turn'.key.toList := fun heq => hkey (String.toList_injective heq)
  rcases List.append_eq_append_iff.1 heq with ⟨more, hmore, -⟩ | ⟨more, hmore, -⟩
  · refine .inl (runsOn_of_append h h' hmore ?_)
    rintro rfl
    exact hne (by rw [hmore, List.append_nil])
  · refine .inr (runsOn_of_append h' h hmore ?_)
    rintro rfl
    exact hne (by rw [hmore, List.append_nil])

theorem RunsOn.slash_mem {turn other : Turn} (h : turn.RunsOn other) : '/' ∈ other.key.toList := by
  obtain ⟨word, hword, h⟩ := h
  obtain ⟨rest, hkey, -⟩ := leadsTo_iff.1 h
  have hslash : '/' ∈ word.toList := List.mem_of_head? (head?_of_mem_stepWords hword)
  rw [hkey, String.toList_append]
  exact List.mem_append_left _ (List.mem_append_right _ hslash)

end Turn

/-- If the trails part at two keys, then neither of them runs on into the other. -/
def PartClearly : List Turn → List Turn → Prop
  | turn :: rest, turn' :: rest' =>
    (turn = turn' → PartClearly rest rest') ∧
      (turn ≠ turn' → ¬ turn.RunsOn turn' ∧ ¬ turn'.RunsOn turn)
  | _, _ => True

/-- Trails by keys without slashes part clearly. -/
theorem partClearly_of_slashless {trail trail' : List Turn}
    (h : ∀ turn ∈ trail, '/' ∉ turn.key.toList) (h' : ∀ turn ∈ trail', '/' ∉ turn.key.toList) :
    PartClearly trail trail' := by
  induction trail generalizing trail' with
  | nil => exact trivial
  | cons turn rest ih =>
    cases trail' with
    | nil => exact trivial
    | cons turn' rest' =>
      obtain ⟨hturn, hrest⟩ := List.forall_mem_cons.1 h
      obtain ⟨hturn', hrest'⟩ := List.forall_mem_cons.1 h'
      exact ⟨fun _ => ih hrest hrest', fun _ => ⟨mt Turn.RunsOn.slash_mem hturn',
        mt Turn.RunsOn.slash_mem hturn⟩⟩

namespace Shape

open Json

/-! ### Entries of unambiguous schemas -/

variable {path : String} {json given : Json} {entries : List (String × Json)}
  {shape part inner : Shape} {turn : Turn} {trail : List Turn}

theorem names_numbered (start : Nat) (values : List Json) :
    (numbered start values).map Prod.fst = (List.range' start values.length).map toString := by
  induction values generalizing start with
  | nil => rfl
  | cons value rest ih =>
    rw [numbered, List.map_cons, ih, List.length_cons, List.range'_succ, List.map_cons]

theorem toString_injective : Function.Injective (toString : Nat → String) := by
  intro m n h
  rw [Nat.toString_eq_ofList_toDigits, Nat.toString_eq_ofList_toDigits] at h
  rw [← Nat.ofDigitChars_ten_toDigits (n := m), String.ofList_injective h,
    Nat.ofDigitChars_ten_toDigits]

theorem isUnambiguous_numbered {values : List Json} (h : ∀ value ∈ values, value.IsUnambiguous) :
    (obj (numbered 0 values)).IsUnambiguous := by
  refine .obj ?_ fun entry hentry => h _ ?_
  · rw [names_numbered]
    exact List.Nodup.map toString_injective List.nodup_range'
  · rw [← map_snd_numbered 0 values]
    exact List.mem_map_of_mem hentry

theorem isUnambiguous_casesOf (h : given.IsUnambiguous) (hentries : casesOf given = .ok entries) :
    (obj entries).IsUnambiguous := by
  cases given with
  | obj members =>
    cases hentries
    exact h
  | arr items =>
    cases hentries
    cases h with
    | scalar h => cases h
    | arr h => exact isUnambiguous_numbered h
  | str text =>
    cases hentries
    refine isUnambiguous_numbered fun value hvalue => ?_
    obtain ⟨c, -, rfl⟩ := List.mem_map.1 hvalue
    exact .scalar rfl
  | _ => cases hentries

theorem isUnambiguous_propertiesOf (h : json.IsUnambiguous)
    (hentries : propertiesOf (json.present? "properties") = .ok entries) :
    (obj entries).IsUnambiguous := by
  have hnone : (obj []).IsUnambiguous := .obj List.nodup_nil (List.forall_mem_nil _)
  cases hgiven : json.present? "properties" with
  | none =>
    rw [hgiven] at hentries
    cases hentries
    exact hnone
  | some given =>
    rw [hgiven] at hentries
    cases given with
    | obj members =>
      cases hentries
      exact h.present? hgiven
    | _ =>
      rw [propertiesOf_of_not_object rfl] at hentries
      split at hentries
      · cases hentries
      · cases hentries
        exact hnone

theorem isUnambiguous_unwrapped {case : Json} (h : case.IsUnambiguous) (path : String) :
    (unwrapped path case).2.IsUnambiguous := by
  unfold unwrapped
  split
  · rename_i hthen
    exact h.present? hthen
  · exact h

/-! ### One step down -/

/-- What the path has in front of the key of a step down. -/
def lead : Shape → String
  | union _ _ => "/oneOf/"
  | array _ _ => "/items"
  | object _ _ _ => "/properties/"
  | _ => ""

theorem stepsTo_unwrapped (path : String) (case : Json) :
    StepsTo path (unwrapped path case).1 := by
  unfold unwrapped
  split
  · exact .inr ⟨"/then", by decide, .inl rfl⟩
  · exact .inl rfl

theorem stepsTo_lead (h : At shape [turn] part) (path : String) :
    StepsTo path (path ++ shape.lead ++ turn.key) := by
  have hkey (word key : String) (hword : word ∈ stepWords) :
      StepsTo path (path ++ (word ++ "/") ++ key) := by
    refine .inr ⟨word, hword, leadsTo_iff.2 ⟨'/' :: key.toList, ?_, by simp⟩⟩
    simp [String.toList_append]
  cases h with
  | case hcase _ => exact hkey "/oneOf" _ (by decide)
  | item _ => exact .inr ⟨"/items", by decide, .inl (by simp [lead, Turn.key])⟩
  | property hproperty _ => exact hkey "/properties" _ (by decide)

/-- One step down is the shape of a schema, at a path that goes by the key of the step. -/
theorem ofJson_step (hjson : json.IsUnambiguous) (hshape : ofJson path json = .ok shape)
    (hpart : At shape [turn] part) :
    ∃ lower schema, StepsTo (path ++ shape.lead ++ turn.key) lower ∧ schema.IsUnambiguous ∧
      ofJson lower schema = .ok part := by
  cases reads_of_ofJson hshape with
  | union hmark hentries hcases =>
    cases hpart with
    | case hcase hhere =>
      cases hhere
      have hunambiguous := isUnambiguous_casesOf (hjson.present? (Marker.of_oneOf hmark)) hentries
      obtain ⟨⟨key, case⟩, hentry, rfl, hpart⟩ :=
        forall₂_exists (ofCases_made hcases).flip (List.mem_of_getElem? hcase)
      exact ⟨_, _, stepsTo_unwrapped _ case,
        isUnambiguous_unwrapped (hunambiguous.of_mem hentry) _, hpart⟩
  | object hmark _ hentries hproperties =>
    cases hpart with
    | property hproperty hhere =>
      cases hhere
      rw [← Marker.of_object hmark] at hentries
      have hunambiguous := isUnambiguous_propertiesOf hjson hentries
      obtain ⟨⟨name, property⟩, hentry, rfl, hpart⟩ :=
        forall₂_exists (ofProperties_made hproperties).flip (List.mem_of_getElem? hproperty)
      exact ⟨_, property, .inl rfl, hunambiguous.of_mem hentry, hpart⟩
  | array hmark hitems =>
    cases hpart with
    | item hhere =>
      cases hhere
      refine ⟨path ++ "/items", _, .inl ?_, hjson.present? (Marker.of_array hmark), hitems⟩
      simp [lead, Turn.key]
  | _ => cases hpart

/-- What is made of entries one by one has their keys. -/
theorem nodup_of_made {r : String × Json → String × Shape → Prop} {parts : List (String × Shape)}
    (hnames : (entries.map Prod.fst).Nodup) (h : List.Forall₂ r entries parts)
    (hkey : ∀ entry part, r entry part → part.1 = entry.1) : (parts.map Prod.fst).Nodup := by
  have heq : parts.map Prod.fst = entries.map Prod.fst := by
    rw [← List.forall₂_eq_eq_eq, List.forall₂_map_left_iff, List.forall₂_map_right_iff]
    exact h.flip.imp fun part entry hmade => hkey entry part hmade
  rwa [heq]

theorem index_eq_of_nodup {parts : List (String × Shape)} (h : (parts.map Prod.fst).Nodup)
    {index index' : Nat} {first second : String × Shape} (hfirst : parts[index]? = some first)
    (hsecond : parts[index']? = some second) (hkey : first.1 = second.1) : index = index' := by
  obtain ⟨hlt, -⟩ := List.getElem?_eq_some_iff.1 hfirst
  refine (List.getElem?_inj (by rwa [List.length_map]) h).1 ?_
  rw [List.getElem?_map, List.getElem?_map, hfirst, hsecond, Option.map_some, Option.map_some, hkey]

/-- Steps down one shape go by keys of their own. -/
theorem step_eq_of_key (hjson : json.IsUnambiguous) (hshape : ofJson path json = .ok shape)
    {turn' : Turn} {part' : Shape} (hpart : At shape [turn] part) (hpart' : At shape [turn'] part')
    (hkey : turn.key = turn'.key) : turn = turn' := by
  cases reads_of_ofJson hshape with
  | union hmark hentries hcases =>
    cases hpart with
    | case hcase _ =>
      cases hpart' with
      | case hcase' _ =>
        have hunambiguous :=
          isUnambiguous_casesOf (hjson.present? (Marker.of_oneOf hmark)) hentries
        have hnodup := nodup_of_made hunambiguous.names (ofCases_made hcases) fun _ _ h => h.1
        obtain rfl := index_eq_of_nodup hnodup hcase hcase' hkey
        rw [hcase] at hcase'
        cases hcase'
        rfl
  | object hmark _ hentries hproperties =>
    cases hpart with
    | property hproperty _ =>
      cases hpart' with
      | property hproperty' _ =>
        rw [← Marker.of_object hmark] at hentries
        have hunambiguous := isUnambiguous_propertiesOf hjson hentries
        have hnodup := nodup_of_made hunambiguous.names (ofProperties_made hproperties)
          fun _ _ h => h.1
        obtain rfl := index_eq_of_nodup hnodup hproperty hproperty' hkey
        rw [hproperty] at hproperty'
        cases hproperty'
        rfl
  | array hmark hitems =>
    cases hpart
    cases hpart'
    rfl
  | _ => cases hpart

/-! ### Trails -/

theorem At.exists_of_cons (h : At shape (turn :: trail) inner) :
    ∃ part, At shape [turn] part ∧ At part trail inner := by
  cases h with
  | case hcase h => exact ⟨_, .case hcase .here, h⟩
  | item h => exact ⟨_, .item .here, h⟩
  | property hproperty h => exact ⟨_, .property hproperty .here, h⟩

/-- The paths further down a shape go on from its own. -/
theorem stepsTo_of_at (hjson : json.IsUnambiguous) (hshape : ofJson path json = .ok shape)
    (h : At shape trail inner) : StepsTo path inner.site.path := by
  induction trail generalizing path json shape with
  | nil =>
    cases h
    rw [site_of_ofJson hshape]
    exact .inl rfl
  | cons turn trail ih =>
    obtain ⟨part, hpart, hrest⟩ := h.exists_of_cons
    obtain ⟨lower, schema, hlower, hschema, hread⟩ := ofJson_step hjson hshape hpart
    exact ((stepsTo_lead hpart path).trans hlower).trans (ih hschema hread hrest)

/-- Nothing below a shape has its path. -/
theorem path_ne_of_below (hjson : json.IsUnambiguous) (hshape : ofJson path json = .ok shape)
    (h : At shape (turn :: trail) inner) : path ≠ inner.site.path := by
  obtain ⟨part, hpart, hrest⟩ := h.exists_of_cons
  obtain ⟨lower, schema, hlower, hschema, hread⟩ := ofJson_step hjson hshape hpart
  have hle := (hlower.trans (stepsTo_of_at hschema hread hrest)).leadsTo.length_le
  have hlead : 0 < shape.lead.length := by
    cases hpart <;> simp only [lead] <;> decide
  rw [String.length_append, String.length_append] at hle
  intro heq
  rw [← heq] at hle
  omega

/-- **A path tells where its shape stands, unless keys run on.** Two shapes that are nested in one
shape, at different trails, have different paths, if the trails do not part at a key that runs on
into the other one. -/
theorem ofJson_path_ne {first second : Shape} {trail' : List Turn} (hjson : json.IsUnambiguous)
    (hshape : ofJson path json = .ok shape) (hfirst : At shape trail first)
    (hsecond : At shape trail' second) (hne : trail ≠ trail') (hclear : PartClearly trail trail') :
    first.site.path ≠ second.site.path := by
  induction trail generalizing path json shape trail' with
  | nil =>
    cases hfirst
    rw [site_of_ofJson hshape]
    cases trail' with
    | nil => exact absurd rfl hne
    | cons turn' rest' => exact path_ne_of_below hjson hshape hsecond
  | cons turn rest ih =>
    cases trail' with
    | nil =>
      cases hsecond
      rw [site_of_ofJson hshape]
      exact (path_ne_of_below hjson hshape hfirst).symm
    | cons turn' rest' =>
      obtain ⟨part, hpart, hrest⟩ := hfirst.exists_of_cons
      obtain ⟨part', hpart', hrest'⟩ := hsecond.exists_of_cons
      obtain ⟨lower, schema, hlower, hschema, hread⟩ := ofJson_step hjson hshape hpart
      by_cases hturn : turn = turn'
      · subst hturn
        obtain rfl := hpart.unique hpart'
        exact ih hschema hread hrest hrest' (fun heq => hne (heq ▸ rfl)) (hclear.1 rfl)
      · obtain ⟨lower', schema', hlower', hschema', hread'⟩ := ofJson_step hjson hshape hpart'
        have hkey := mt (step_eq_of_key hjson hshape hpart hpart') hturn
        have hsteps := hlower.trans (stepsTo_of_at hschema hread hrest)
        have hsteps' := hlower'.trans (stepsTo_of_at hschema' hread' hrest')
        intro heq
        rw [← heq] at hsteps'
        exact (Turn.runsOn_of_stepsTo hsteps hsteps' hkey).elim (hclear.2 hturn).1
          (hclear.2 hturn).2

/-- An object with a property `b` below the property `a`, and with one more property. -/
def besideDocument (name : String) : Json :=
  .obj [("type", .str "object"), ("properties", .obj [
    ("a", .obj [("type", .str "object"),
      ("properties", .obj [("b", .obj [("type", .str "string")])])]),
    (name, .obj [("type", .str "string")])])]

/-- The two shapes at the ends of the document. -/
def besideShape (name : String) : Shape :=
  .object { path := "#" } [] [
    ("a", .object { path := "#/properties/a" } [] [
      ("b", .primitive { path := "#/properties/a/properties/b" } .string)]),
    (name, .primitive { path := s!"#/properties/{name}" } .string)]

theorem isUnambiguous_besideDocument {name : String} (h : name ≠ "a") :
    (besideDocument name).IsUnambiguous := by
  have hscalar (text : String) : (Json.str text).IsUnambiguous := .scalar rfl
  have hstring : (obj [("type", .str "string")]).IsUnambiguous :=
    .obj (by decide) (by simp [hscalar])
  have hbelow : (obj [("b", obj [("type", .str "string")])]).IsUnambiguous :=
    .obj (by decide) (by simp [hstring])
  have hobject : (obj [("type", .str "object"),
      ("properties", obj [("b", obj [("type", .str "string")])])]).IsUnambiguous :=
    .obj (by decide) (by simp [hscalar, hbelow])
  have hbeside : (obj [("a", obj [("type", .str "object"),
      ("properties", obj [("b", obj [("type", .str "string")])])]),
      (name, obj [("type", .str "string")])]).IsUnambiguous :=
    .obj (by simp [Ne.symm h]) (by simp [hobject, hstring])
  exact .obj (by simp) (by simp [hscalar, hbeside])

/-- A key with a slash that is no step is told apart. -/
theorem ofJson_path_ne_beside :
    ∃ first second, At (besideShape "a/b") [.property 0 "a", .property 0 "b"] first ∧
      At (besideShape "a/b") [.property 1 "a/b"] second ∧ first.site.path ≠ second.site.path := by
  have hfirst : At (besideShape "a/b") [.property 0 "a", .property 0 "b"] _ :=
    .property rfl (.property rfl .here)
  have hsecond : At (besideShape "a/b") [.property 1 "a/b"] _ := .property rfl .here
  have hshape : ofJson "#" (besideDocument "a/b") = .ok (besideShape "a/b") := by
    with_unfolding_all rfl
  have hjson : (besideDocument "a/b").IsUnambiguous := isUnambiguous_besideDocument (by decide)
  have hclear : PartClearly [.property 0 "a", .property 0 "b"] [.property 1 "a/b"] :=
    ⟨fun h => absurd h (by simp), fun _ => by decide +kernel⟩
  exact ⟨_, _, hfirst, hsecond, ofJson_path_ne hjson hshape hfirst hsecond (by simp) hclear⟩

/-- A key that reads like more steps is not: two shapes have one path. -/
theorem ofJson_path_eq :
    let json := besideDocument "a/properties/b"
    let shape := besideShape "a/properties/b"
    json.IsUnambiguous ∧ ofJson "#" json = .ok shape ∧
      ∃ first second, At shape [.property 0 "a", .property 0 "b"] first ∧
        At shape [.property 1 "a/properties/b"] second ∧ first.site.path = second.site.path := by
  intro json shape
  have hfirst : At shape [.property 0 "a", .property 0 "b"] _ :=
    .property rfl (.property rfl .here)
  have hsecond : At shape [.property 1 "a/properties/b"] _ := .property rfl .here
  exact ⟨isUnambiguous_besideDocument (by decide), by with_unfolding_all rfl, _, _, hfirst, hsecond,
    rfl⟩

end Shape
end SchemaGraph
