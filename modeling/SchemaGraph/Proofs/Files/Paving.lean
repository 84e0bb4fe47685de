import Mathlib.Data.List.Induction
import SchemaGraph.Files.Tree

/-! Making directories.

In a proper tree everything stands in a directory. Whatever becomes of making the
directories on a route, nothing is lost, nothing is new but directories that the route
leads past (`Paved`), and the tree stays proper; if all are made, the route leads to a
directory (`makeDirectories_paves`). Where it does already, there is nothing to make
(`makeDirectories_of_leads`). -/
namespace SchemaGraph

namespace Route

/-! ### Steps -/

variable {start here location : Location} {step : String} {steps rest : List String}

theorem walk_down (hstep : step ≠ "..") :
    walk here (step :: rest) = walk (here ++ [step]) rest := by
  rw [walk, List.foldl_cons, if_neg (by simpa using hstep)]
  rfl

theorem walk_append (start : Location) (first second : List String) :
    walk start (first ++ second) = walk (walk start first) second :=
  List.foldl_append

theorem walk_eq_append (hsteps : ".." ∉ steps) : walk here steps = here ++ steps := by
  induction steps generalizing here with
  | nil => exact (List.append_nil here).symm
  | cons step rest ih =>
    rw [List.mem_cons, not_or] at hsteps
    rw [walk_down (Ne.symm hsteps.1), ih hsteps.2, List.append_assoc, List.singleton_append]

/-- Steps lead past a location, or to it. -/
def OnWay (start : Location) (steps : List String) (location : Location) : Prop :=
  ∃ done, done <+: steps ∧ walk start done = location

theorem OnWay.up (h : OnWay here.dropLast rest location) : OnWay here (".." :: rest) location := by
  obtain ⟨done, hdone, hwalk⟩ := h
  exact ⟨".." :: done, List.cons_prefix_cons.2 ⟨rfl, hdone⟩, hwalk⟩

theorem OnWay.down (hstep : step ≠ "..") (h : OnWay (here ++ [step]) rest location) :
    OnWay here (step :: rest) location := by
  obtain ⟨done, hdone, hwalk⟩ := h
  exact ⟨step :: done, List.cons_prefix_cons.2 ⟨rfl, hdone⟩, (walk_down hstep).trans hwalk⟩

theorem OnWay.head (here : Location) (steps : List String) : OnWay here steps here :=
  ⟨[], List.nil_prefix, rfl⟩

end Route

namespace FileTree

open Route

/-! ### Proper trees -/

/-- Everything stands in a directory, and the working directory is one. -/
structure IsProper (tree : FileTree) : Prop where
  workingDirectory : tree.get? tree.workingDirectory = some .directory
  parent : ∀ location entry, tree.get? location = some entry →
    tree.get? location.dropLast = some .directory

variable {tree before middle after other : FileTree} {here location there : Location}
  {step : String} {steps rest : List String}

@[simp] theorem get?_root (tree : FileTree) : tree.get? [] = some .directory := rfl

theorem get?_put (tree : FileTree) {location : Location} (h : location ≠ []) (other : Location)
    (entry : Entry) : (tree.put location entry).get? other =
      if other = location then some entry else tree.get? other := by
  split
  · rename_i heq
    rw [heq, get?_put_self tree h]
  · rename_i hne
    exact get?_put_of_ne tree hne entry

/-- A tree is proper if the directories of all its entries are there. -/
theorem isProper_of_entries (hhere : tree.get? tree.workingDirectory = some .directory)
    (hparents : ∀ item ∈ tree.entries, tree.get? item.1.dropLast = some .directory) :
    tree.IsProper := by
  refine ⟨hhere, fun location entry hfound => ?_⟩
  rw [get?] at hfound
  split at hfound
  · rename_i hroot
    rw [List.isEmpty_iff.1 hroot]
    rfl
  · rw [lookup, Option.map_eq_some_iff] at hfound
    obtain ⟨item, hitem, -⟩ := hfound
    have hkey : item.1 = location := by simpa using List.find?_some hitem
    exact hkey ▸ hparents item (List.mem_of_find?_eq_some hitem)

/-- Directories are above what stands anywhere. -/
theorem IsProper.above (htree : tree.IsProper) {more : List String} {entry : Entry}
    (h : tree.get? (here ++ more) = some entry) (hmore : more ≠ []) :
    tree.get? here = some .directory := by
  induction more using List.reverseRecOn generalizing entry with
  | nil => exact absurd rfl hmore
  | append_singleton more name ih =>
    have hparent := htree.parent _ _ h
    rw [← List.append_assoc, List.dropLast_concat] at hparent
    by_cases hnil : more = []
    · rwa [hnil, List.append_nil] at hparent
    · exact ih hparent hnil

/-- A directory, or a file in a directory's stead, keeps a tree proper. -/
theorem IsProper.put (htree : tree.IsProper) {entry : Entry} (hlocation : location ≠ [])
    (hparent : tree.get? location.dropLast = some .directory)
    (hentry : tree.get? location = some .directory → entry = .directory) :
    (tree.put location entry).IsProper := by
  have hdirectory : ∀ other, tree.get? other = some .directory →
      (tree.put location entry).get? other = some .directory := by
    intro other hother
    rw [get?_put tree hlocation]
    split
    · rename_i heq
      rw [hentry (heq ▸ hother)]
    · exact hother
  refine ⟨hdirectory _ htree.workingDirectory, fun other found hfound => ?_⟩
  rw [get?_put tree hlocation] at hfound
  split at hfound
  · rename_i heq
    exact hdirectory _ (heq ▸ hparent)
  · exact hdirectory _ (htree.parent other found hfound)

theorem start_congr (h : after.workingDirectory = before.workingDirectory) (route : Route) :
    after.start route = before.start route := by
  rw [start, start, h]

theorem IsProper.start (htree : tree.IsProper) (route : Route) :
    tree.get? (tree.start route) = some .directory := by
  rw [FileTree.start]
  split
  · rfl
  · exact htree.workingDirectory

/-! ### New directories -/

/-- Nothing is lost, and nothing is new but directories on a way. -/
structure Paved (way : Location → Prop) (before after : FileTree) : Prop where
  workingDirectory : after.workingDirectory = before.workingDirectory
  kept : ∀ {location entry}, before.get? location = some entry →
    after.get? location = some entry
  made : ∀ {location entry}, after.get? location = some entry →
    before.get? location = some entry ∨ entry = .directory ∧ way location

namespace Paved

variable {way wider : Location → Prop}

theorem refl (way : Location → Prop) (tree : FileTree) : Paved way tree tree :=
  ⟨rfl, id, .inl⟩

theorem trans (h : Paved way before middle) (h' : Paved way middle after) :
    Paved way before after where
  workingDirectory := h'.workingDirectory.trans h.workingDirectory
  kept hfound := h'.kept (h.kept hfound)
  made hfound := by
    rcases h'.made hfound with hfound | hnew
    · exact h.made hfound
    · exact .inr hnew

theorem mono (h : Paved way before after) (hwider : ∀ location, way location → wider location) :
    Paved wider before after :=
  ⟨h.workingDirectory, h.kept, fun hfound => (h.made hfound).imp_right (.imp_right (hwider _))⟩

theorem put (hfree : before.get? location = none) (hway : way location) :
    Paved way before (before.put location .directory) where
  workingDirectory := rfl
  kept {other entry} hfound := by
    have hne : other ≠ location := fun heq => by simp [heq, hfree] at hfound
    rw [get?_put_of_ne before hne, hfound]
  made {other entry} hfound := by
    by_cases heq : other = location
    · have hroot : location ≠ [] := fun hroot => by simp [hroot] at hfree
      rw [heq, get?_put_self before hroot] at hfound
      exact .inr ⟨(Option.some.inj hfound).symm, heq ▸ hway⟩
    · rw [get?_put_of_ne before heq] at hfound
      exact .inl hfound

theorem start (h : Paved way before after) (route : Route) :
    after.start route = before.start route :=
  start_congr h.workingDirectory route

/-- Files are as they were. -/
theorem file_iff (h : Paved way before after) (location : Location) (content : String) :
    after.get? location = some (.file content) ↔ before.get? location = some (.file content) := by
  refine ⟨fun hfound => ?_, h.kept⟩
  rcases h.made hfound with hfound | ⟨hnew, -⟩
  · exact hfound
  · cases hnew

end Paved

/-! ### Following steps -/

/-- Steps lead to a directory. -/
structure Leads (tree : FileTree) (here : Location) (steps : List String) : Prop where
  followed : tree.follow here steps = .ok (walk here steps)
  directory : tree.get? (walk here steps) = some .directory

theorem follow_up (hhere : tree.get? here = some .directory) :
    tree.follow here (".." :: rest) = tree.follow here.dropLast rest := by
  rw [follow, hhere]
  rfl

theorem follow_down (hhere : tree.get? here = some .directory) (hstep : step ≠ "..")
    (hshort : step.utf8ByteSize ≤ longestName) :
    tree.follow here (step :: rest) = tree.follow (here ++ [step]) rest := by
  rw [follow, hhere]
  simp only
  rw [if_neg (by simpa using hstep), if_neg (Nat.not_lt.2 hshort)]

/-- What can be followed leads where it leads with nothing in the way. -/
theorem follow_ok (h : tree.follow here steps = .ok there) : there = walk here steps := by
  induction steps generalizing here with
  | nil =>
    cases h
    rfl
  | cons step rest ih =>
    rw [follow] at h
    split at h
    · cases h
    · cases h
    · by_cases hstep : step = ".."
      · subst hstep
        exact ih h
      · rw [if_neg (by simpa using hstep)] at h
        split at h
        · cases h
        · rw [walk_down hstep]
          exact ih h

theorem follow_append (first second : List String) :
    tree.follow here (first ++ second) =
      (tree.follow here first).bind fun middle => tree.follow middle second := by
  induction first generalizing here with
  | nil => rfl
  | cons step rest ih =>
    rw [List.cons_append, follow, follow]
    split
    · rfl
    · rfl
    · split
      · exact ih
      · split
        · rfl
        · exact ih

theorem Leads.up (hhere : tree.get? here = some .directory)
    (h : tree.Leads here.dropLast rest) : tree.Leads here (".." :: rest) :=
  ⟨(follow_up hhere).trans h.followed, h.directory⟩

theorem Leads.down (hhere : tree.get? here = some .directory) (hstep : step ≠ "..")
    (hshort : step.utf8ByteSize ≤ longestName) (h : tree.Leads (here ++ [step]) rest) :
    tree.Leads here (step :: rest) := by
  refine ⟨(follow_down hhere hstep hshort).trans ?_, ?_⟩ <;> rw [walk_down hstep]
  · exact h.followed
  · exact h.directory

/-- Steps that lead to a directory start at one. -/
theorem Leads.head (h : tree.Leads here steps) : tree.get? here = some .directory := by
  cases steps with
  | nil => exact h.directory
  | cons step rest =>
    have hfollow := h.followed
    rw [follow] at hfollow
    split at hfollow
    · cases hfollow
    · cases hfollow
    · assumption

theorem Leads.tail (h : tree.Leads here (step :: rest)) (hstep : step ≠ "..") :
    step.utf8ByteSize ≤ longestName ∧ tree.Leads (here ++ [step]) rest := by
  have hfollow := h.followed
  have hdirectory := h.directory
  rw [walk_down hstep] at hfollow hdirectory
  rw [follow, h.head] at hfollow
  simp only at hfollow
  rw [if_neg (by simpa using hstep)] at hfollow
  split at hfollow
  · cases hfollow
  · exact ⟨by omega, hfollow, hdirectory⟩

/-- Steps lead to the same directory where the directories on the way are kept. -/
theorem Leads.mono (h : tree.Leads here steps)
    (hkept : ∀ location, OnWay here steps location → tree.get? location = some .directory →
      other.get? location = some .directory) : other.Leads here steps := by
  induction steps generalizing here with
  | nil => exact ⟨rfl, hkept _ (.head _ _) h.directory⟩
  | cons step rest ih =>
    have hhere := hkept _ (.head _ _) h.head
    by_cases hstep : step = ".."
    · subst hstep
      refine .up hhere (ih ⟨(follow_up h.head).symm.trans h.followed, h.directory⟩ ?_)
      exact fun location hway => hkept location hway.up
    · refine .down hhere hstep (h.tail hstep).1 (ih (h.tail hstep).2 ?_)
      exact fun location hway => hkept location (hway.down hstep)

theorem locate_ok_iff {route : Route} : tree.locate route = .ok there ↔
    route.isIllegal = false ∧ route.text.utf8ByteSize ≤ longestRoute ∧
      tree.follow (tree.start route) route.steps = .ok there := by
  rw [locate]
  constructor
  · intro h
    split at h
    · cases h
    rename_i hlegal
    split at h
    · cases h
    rename_i hshort
    exact ⟨Bool.eq_false_iff.2 hlegal, Nat.not_lt.1 hshort, h⟩
  · rintro ⟨hlegal, hshort, h⟩
    rw [hlegal, if_neg Bool.false_ne_true, if_neg (Nat.not_lt.2 hshort), h]

end FileTree

namespace FileWork

open Route FileTree

variable {tree : FileTree} {here : Location}

/-! ### Running work -/

@[simp] theorem on_get (tree : FileTree) :
    (get : FileWork FileTree).on tree = (.ok tree, tree) := rfl

@[simp] theorem on_lift {α : Type} (result : Except Fault α) (tree : FileTree) :
    (lift result).on tree = (result, tree) := rfl

theorem on_bind {α β : Type} (work : FileWork α) (next : α → FileWork β) (tree : FileTree) :
    (work >>= next).on tree =
      match work.on tree with
      | (.ok value, after) => (next value).on after
      | (.error fault, after) => (.error fault, after) := by
  simp only [on, ExceptT.run_bind, StateT.run_bind, Id.run_bind]
  rcases (work.run.run tree).run with ⟨_ | _, _⟩ <;> rfl

/-! ### Making directories -/

theorem makeDirectory_on (route : Route) (location : Location) (tree : FileTree) :
    (makeDirectory route location).on tree =
      match tree.get? location with
      | some .directory => (.ok (), tree)
      | some (.file _) => (.error (.fileExists route.text), tree)
      | none => (.ok (), tree.put location .directory) := by
  rw [makeDirectory, on_bind, on_get]
  simp only
  rcases tree.get? location with _ | _ | _ <;> rfl

/-- How making directories on a way from a directory may end: some are made, and all of them if
it succeeds. -/
structure Paves (tree : FileTree) (here : Location) (steps : List String)
    (ended : Except Fault Unit × FileTree) : Prop where
  paved : Paved (OnWay here steps) tree ended.2
  isProper : ended.2.IsProper
  leads : ended.1 = .ok () → ended.2.Leads here steps

namespace Paves

variable {step : String} {steps rest : List String} {ended : Except Fault Unit × FileTree}

theorem error (htree : tree.IsProper) (fault : Fault) :
    Paves tree here steps (.error fault, tree) :=
  ⟨.refl _ _, htree, fun hok => by cases hok⟩

theorem done (htree : tree.IsProper) (hhere : tree.get? here = some .directory) :
    Paves tree here [] (.ok (), tree) :=
  ⟨.refl _ _, htree, fun _ => ⟨rfl, hhere⟩⟩

theorem up (hhere : tree.get? here = some .directory) (h : Paves tree here.dropLast rest ended) :
    Paves tree here (".." :: rest) ended :=
  ⟨h.paved.mono fun _ => .up, h.isProper, fun hok => .up (h.paved.kept hhere) (h.leads hok)⟩

theorem down (hhere : tree.get? here = some .directory) (hstep : step ≠ "..")
    (hshort : step.utf8ByteSize ≤ longestName) (h : Paves tree (here ++ [step]) rest ended) :
    Paves tree here (step :: rest) ended :=
  ⟨h.paved.mono fun _ => .down hstep, h.isProper,
    fun hok => .down (h.paved.kept hhere) hstep hshort (h.leads hok)⟩

theorem put (hfree : tree.get? here = none)
    (h : Paves (tree.put here .directory) here steps ended) : Paves tree here steps ended :=
  ⟨.trans (.put hfree (.head _ _)) h.paved, h.isProper, h.leads⟩

end Paves

theorem makeBelow_paves (htree : tree.IsProper) (hhere : tree.get? here = some .directory)
    (route : Route) (steps : List String) :
    Paves tree here steps ((makeBelow route here steps).on tree) := by
  induction steps generalizing tree route here with
  | nil => exact .done htree hhere
  | cons step rest ih =>
    rw [makeBelow]
    by_cases hstep : step = ".."
    · subst hstep
      exact .up hhere (ih htree (htree.parent _ _ hhere) _)
    rw [if_neg (by simpa using hstep)]
    split
    · exact .error htree _
    · rename_i hlong
      refine .down hhere hstep (Nat.not_lt.1 hlong) ?_
      rw [on_bind, makeDirectory_on]
      rcases hfound : tree.get? (here ++ [step]) with _ | _ | content
      · have hproper : (tree.put (here ++ [step]) .directory).IsProper :=
          htree.put (by simp) (by simpa using hhere) fun _ => rfl
        exact .put hfound (ih hproper (get?_put_self tree (by simp) _) _)
      · exact ih htree hfound _
      · exact .error htree _

theorem makeMissing_paves (htree : tree.IsProper) (hhere : tree.get? here = some .directory)
    (route : Route) (steps : List String) :
    Paves tree here steps ((makeMissing route here steps).on tree) := by
  induction steps generalizing route here with
  | nil => exact .done htree hhere
  | cons step rest ih =>
    rw [makeMissing]
    by_cases hstep : step = ".."
    · subst hstep
      exact .up hhere (ih (htree.parent _ _ hhere) _)
    rw [if_neg (by simpa using hstep)]
    split
    · exact .error htree _
    · rename_i hlong
      rw [on_bind, on_get]
      simp only
      rcases hfound : tree.get? (here ++ [step]) with _ | _ | content
      · exact makeBelow_paves htree hhere route (step :: rest)
      · exact .down hhere hstep (Nat.not_lt.1 hlong) (ih hfound _)
      · exact .error htree _

theorem makeDirectories_on (route : Route) (tree : FileTree) :
    (makeDirectories route).on tree =
      if route.isIllegal then (.error .illegalPath, tree)
      else if longestRoute < route.text.utf8ByteSize then (.error .nameTooLong, tree)
      else (makeMissing { route with steps := [] } (tree.start route) route.steps).on tree := by
  rw [makeDirectories]
  by_cases hillegal : route.isIllegal = true
  · rw [if_pos hillegal, if_pos hillegal]
    rfl
  · rw [if_neg hillegal, if_neg hillegal]
    by_cases hlong : longestRoute < route.text.utf8ByteSize
    · rw [if_pos hlong, if_pos hlong]
      rfl
    · rw [if_neg hlong, if_neg hlong]
      rfl

/-- Whatever becomes of making the directories that a route leads past, nothing but some of them
is new; and if it succeeds the route leads to a directory. -/
theorem makeDirectories_paves (htree : tree.IsProper) (route : Route) :
    Paves tree (tree.start route) route.steps ((makeDirectories route).on tree) := by
  rw [makeDirectories_on]
  split
  · exact .error htree _
  · split
    · exact .error htree _
    · exact makeMissing_paves htree (htree.start route) _ _

theorem makeMissing_of_leads {steps : List String} (h : tree.Leads here steps) (route : Route) :
    (makeMissing route here steps).on tree = (.ok (), tree) := by
  induction steps generalizing route here with
  | nil => rfl
  | cons step rest ih =>
    rw [makeMissing]
    by_cases hstep : step = ".."
    · subst hstep
      exact ih ⟨(follow_up h.head).symm.trans h.followed, h.directory⟩ _
    · obtain ⟨hshort, htail⟩ := h.tail hstep
      rw [if_neg (by simpa using hstep), if_neg (Nat.not_lt.2 hshort), on_bind, on_get]
      simp only [htail.head]
      exact ih htail _

/-- Where a route leads to a directory there is nothing to make. -/
theorem makeDirectories_of_leads {route : Route} (hlegal : route.isIllegal = false)
    (hshort : route.text.utf8ByteSize ≤ longestRoute)
    (h : tree.Leads (tree.start route) route.steps) :
    (makeDirectories route).on tree = (.ok (), tree) := by
  rw [makeDirectories_on, hlegal, if_neg Bool.false_ne_true, if_neg (Nat.not_lt.2 hshort)]
  exact makeMissing_of_leads h _

end FileWork
end SchemaGraph
