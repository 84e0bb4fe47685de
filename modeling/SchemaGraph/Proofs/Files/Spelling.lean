import SchemaGraph.Proofs.Files.Paving

/-! Spelling routes.

The steps of a text's route are plain: they are not void and hold no slash. Resolved from
a working directory with proper names, the route goes by names alone, and such a route is
read back from its spelling (`Route.ofText_text`). -/
namespace SchemaGraph

namespace Text

variable {isMark : Char → Bool}

/-- No part of a text holds a mark. -/
theorem not_isMark_of_mem_splitFrom {text start : List Char}
    (hstart : ∀ c ∈ start, isMark c = false) :
    ∀ part ∈ splitFrom isMark start text, ∀ c ∈ part, isMark c = false := by
  induction text generalizing start with
  | nil => simpa [splitFrom] using hstart
  | cons c rest ih =>
    rw [splitFrom]
    split
    · rw [List.forall_mem_cons]
      exact ⟨by simpa using hstart, ih (by simp)⟩
    · rename_i hmark
      refine ih ?_
      rw [List.forall_mem_cons]
      exact ⟨Bool.eq_false_iff.2 hmark, hstart⟩

theorem splitFrom_append {name : List Char} (hname : ∀ c ∈ name, isMark c = false)
    (start rest : List Char) :
    splitFrom isMark start (name ++ rest) = splitFrom isMark (name.reverse ++ start) rest := by
  induction name generalizing start with
  | nil => rfl
  | cons c name ih =>
    rw [List.forall_mem_cons] at hname
    rw [List.cons_append, splitFrom, hname.1, if_neg Bool.false_ne_true, ih hname.2,
      List.reverse_cons, List.append_assoc, List.singleton_append]

/-- Parts with marks between them are read back. -/
theorem splitFrom_intercalate {mark : Char} (hmark : isMark mark = true) {first : List Char}
    {parts : List (List Char)} (hparts : ∀ part ∈ first :: parts, ∀ c ∈ part, isMark c = false)
    (start : List Char) :
    splitFrom isMark start ([mark].intercalate (first :: parts)) =
      (start.reverse ++ first) :: parts := by
  rw [List.forall_mem_cons] at hparts
  induction parts generalizing first start with
  | nil =>
    rw [List.intercalate_singleton, ← List.append_nil first, splitFrom_append hparts.1, splitFrom]
    simp
  | cons second parts ih =>
    rw [List.intercalate_cons_cons, List.append_assoc, splitFrom_append hparts.1,
      List.singleton_append, splitFrom, if_pos hmark, ih (List.forall_mem_cons.1 hparts.2)]
    simp

end Text

namespace Route

/-! ### Plain names -/

/-- A name that a route can be spelled with. -/
def IsPlain (name : String) : Prop := isVoid name = false ∧ ∀ c ∈ name.toList, (c == '/') = false

theorem isPlain_of_mem_ofText {text name : String} (h : name ∈ (ofText text).steps) :
    IsPlain name := by
  rw [ofText, List.mem_filter, List.mem_map] at h
  obtain ⟨⟨part, hpart, rfl⟩, hvoid⟩ := h
  refine ⟨by simpa using hvoid, ?_⟩
  rw [String.toList_ofList]
  exact Text.not_isMark_of_mem_splitFrom (by simp) part hpart

/-- A name that something in a directory can have. -/
def IsName (name : String) : Prop := IsPlain name ∧ name ≠ ".."

theorem isName_of_mem_walk {start : Location} {steps : List String}
    (hstart : ∀ name ∈ start, IsName name) (hsteps : ∀ name ∈ steps, IsPlain name) :
    ∀ name ∈ walk start steps, IsName name := by
  induction steps generalizing start with
  | nil => exact hstart
  | cons step rest ih =>
    rw [List.forall_mem_cons] at hsteps
    by_cases hstep : step = ".."
    · subst hstep
      exact ih (fun name hname => hstart name (List.dropLast_subset _ hname)) hsteps.2
    · rw [walk_down hstep]
      refine ih (fun name hname => ?_) hsteps.2
      rcases List.mem_append.1 hname with hname | hname
      · exact hstart name hname
      · exact List.mem_singleton.1 hname ▸ ⟨hsteps.1, hstep⟩

/-- A route from the root that goes by names. -/
structure IsResolved (route : Route) : Prop where
  isAbsolute : route.isAbsolute = true
  isDoubled : route.isDoubled = false
  isName : ∀ name ∈ route.steps, IsName name

theorem isResolved_resolve {here : Location} (hhere : ∀ name ∈ here, IsName name)
    (text : String) : ((ofText text).resolve here).IsResolved where
  isAbsolute := rfl
  isDoubled := rfl
  isName := by
    refine isName_of_mem_walk ?_ fun name hname => isPlain_of_mem_ofText hname
    split
    · simp
    · exact hhere

/-! ### Reading a spelling back -/

theorem IsResolved.toList_text {route : Route} (h : route.IsResolved) :
    route.text.toList = '/' :: ['/'].intercalate (route.steps.map String.toList) := by
  rw [text, h.isDoubled, h.isAbsolute]
  simp

/-- There is one slash in front. -/
theorem IsResolved.slashes {route : Route} (h : route.IsResolved) :
    (route.text.toList.takeWhile (· == '/')).length = 1 := by
  rw [h.toList_text]
  cases hsteps : route.steps with
  | nil => rfl
  | cons first rest =>
    obtain ⟨⟨hvoid, hslash⟩, -⟩ := h.isName first (hsteps ▸ List.mem_cons_self)
    cases hfirst : first.toList with
    | nil =>
      rw [String.toList_eq_nil_iff.1 hfirst] at hvoid
      cases hvoid
    | cons c more =>
      have hc : (c == '/') = false := hslash c (hfirst ▸ List.mem_cons_self)
      cases rest with
      | nil => simp [hfirst, hc]
      | cons second rest => simp [hfirst, List.intercalate_cons_cons, hc]

/-- Between the slashes stand the names. -/
theorem IsResolved.names {route : Route} (h : route.IsResolved) :
    ((Text.splitBy (· == '/') route.text.toList).map String.ofList).filter
      (fun step => !isVoid step) = route.steps := by
  have hkept : route.steps.filter (fun step => !isVoid step) = route.steps :=
    List.filter_eq_self.2 fun name hname => by simp [(h.isName name hname).1.1]
  rw [h.toList_text, Text.splitBy, Text.splitFrom, if_pos (by rfl)]
  cases hsteps : route.steps with
  | nil => rfl
  | cons first rest =>
    have hparts : ∀ part ∈ first.toList :: rest.map String.toList, ∀ c ∈ part,
        (c == '/') = false := by
      rw [← List.map_cons, ← hsteps]
      simpa using fun name hname => (h.isName name hname).1.2
    have hsplit : Text.splitFrom (· == '/') []
        (['/'].intercalate ((first :: rest).map String.toList)) =
          (first :: rest).map String.toList :=
      Text.splitFrom_intercalate (by decide) hparts []
    have hback : ((first :: rest).map String.toList).map String.ofList = first :: rest := by
      rw [List.map_map]
      exact (List.map_congr_left fun name _ => String.ofList_toList).trans (List.map_id _)
    rw [hsplit, List.map_cons, hback, List.filter_cons_of_neg (by decide), ← hsteps, hkept]

/-- A resolved route is read back from its spelling. -/
theorem ofText_text {route : Route} (h : route.IsResolved) : ofText route.text = route := by
  rw [ofText, h.slashes, h.names]
  obtain ⟨isAbsolute, isDoubled, steps⟩ := route
  obtain ⟨rfl, rfl, -⟩ := h
  rfl

end Route
end SchemaGraph
