import SchemaGraph.Proofs.Files.Writing

/-! Writing a file again.

A tree that keeps what another one holds is no worse to read from (`FileTree.Keeps`).
Once a file was written, any content that is accepted can take its place, and it changes
nothing else (`write_again`). -/
namespace SchemaGraph

namespace FileTree

open Route

variable {tree later paved : FileTree} {route : Route} {here there : Location}
  {steps : List String}

/-! ### Trees that keep what others hold -/

/-- Whatever stands in a tree stands in a later one as well. -/
structure Keeps (tree later : FileTree) : Prop where
  workingDirectory : later.workingDirectory = tree.workingDirectory
  kept : ∀ location entry, tree.get? location = some entry → later.get? location = some entry

theorem follow_mono
    (hkept : ∀ location, tree.get? location = some .directory →
      later.get? location = some .directory)
    (h : tree.follow here steps = .ok there) : later.follow here steps = .ok there := by
  induction steps generalizing here with
  | nil => exact h
  | cons step rest ih =>
    rw [follow] at h ⊢
    split at h
    · cases h
    · cases h
    · rename_i hhere
      rw [hkept here hhere]
      dsimp only
      split at h
      · rename_i hup
        rw [if_pos hup]
        exact ih h
      · rename_i hup
        rw [if_neg hup]
        split at h
        · cases h
        · rename_i hshort
          rw [if_neg hshort]
          exact ih h

namespace Keeps

theorem locate (h : tree.Keeps later) (hlocate : tree.locate route = .ok there) :
    later.locate route = .ok there := by
  obtain ⟨hlegal, hshort, hfollow⟩ := locate_ok_iff.1 hlocate
  refine locate_ok_iff.2 ⟨hlegal, hshort, ?_⟩
  rw [start_congr h.workingDirectory]
  exact follow_mono (fun location => h.kept location .directory) hfollow

theorem find? (h : tree.Keeps later) {entry : Entry}
    (hfound : tree.find? route = .ok (some entry)) : later.find? route = .ok (some entry) := by
  rw [FileTree.find?] at hfound ⊢
  cases hlocate : tree.locate route with
  | error fault =>
    rw [hlocate] at hfound
    cases fault <;> cases hfound
  | ok there =>
    rw [hlocate] at hfound
    rw [h.locate hlocate]
    exact congrArg Except.ok (h.kept _ _ (Except.ok.inj hfound))

theorem read (h : tree.Keeps later) {content : String} (hread : tree.read route = .ok content) :
    later.read route = .ok content := by
  obtain ⟨there, hlocate, hread⟩ := bind_ok hread
  rw [FileTree.read, h.locate hlocate, ok_bind]
  cases hfound : tree.get? there with
  | none =>
    rw [hfound] at hread
    cases hread
  | some entry =>
    rw [hfound] at hread
    rw [h.kept there entry hfound]
    exact hread

end Keeps

theorem Paved.keeps {way : Location → Prop} (h : Paved way tree paved) : tree.Keeps paved :=
  ⟨h.workingDirectory, fun _ _ => h.kept⟩

/-! ### A tree with a file in its place -/

/-- A tree is another one but for a file. -/
structure IsWith (later paved : FileTree) (target : Location) (content : String) : Prop where
  workingDirectory : later.workingDirectory = paved.workingDirectory
  get?_eq : ∀ location, later.get? location =
    if location = target then some (.file content) else paved.get? location

theorem freeName?_congr {directory : Location} {name : String}
    (h : ∀ n, later.get? (directory ++ [stagedName name n]) =
      tree.get? (directory ++ [stagedName name n])) (n tries : Nat) :
    later.freeName? directory name n tries = tree.freeName? directory name n tries := by
  induction tries generalizing n with
  | zero => rfl
  | succ tries ih => rw [freeName?, freeName?, h n, ih]

namespace IsWith

variable {target : Location} {content other : String}

theorem put (htarget : target ≠ []) (h : later.IsWith paved target content) (other : String) :
    (later.put target (.file other)).IsWith paved target other where
  workingDirectory := h.workingDirectory
  get?_eq location := by
    rw [get?_put later htarget, h.get?_eq]
    split <;> rfl

theorem of_put (htarget : target ≠ []) (content : String) :
    (paved.put target (.file content)).IsWith paved target content :=
  ⟨rfl, fun location => get?_put paved htarget location _⟩

theorem start (h : later.IsWith paved target content) (route : Route) :
    later.start route = paved.start route :=
  start_congr h.workingDirectory route

theorem get?_of_ne (h : later.IsWith paved target content) {location : Location}
    (hne : location ≠ target) : later.get? location = paved.get? location := by
  rw [h.get?_eq, if_neg hne]

/-- The file takes the place of none of what stood before. -/
theorem keeps (h : later.IsWith paved target content) (htree : tree.Keeps paved)
    (hfree : tree.get? target = none) : tree.Keeps later where
  workingDirectory := h.workingDirectory.trans htree.workingDirectory
  kept location entry hfound := by
    have hne : location ≠ target := fun heq => by simp [heq, hfree] at hfound
    rw [h.get?_of_ne hne, htree.kept location entry hfound]

section Landed

variable (h : later.IsWith paved target content) (hlands : paved.Lands route target)
include h hlands

theorem directory {location : Location} (hfound : paved.get? location = some .directory) :
    later.get? location = some .directory := by
  have hne : location ≠ target := fun heq => hlands.vacant (heq ▸ hfound)
  rw [h.get?_of_ne hne, hfound]

theorem leads : later.Leads (paved.start route) route.parent.steps :=
  hlands.leads.mono fun _ _ => h.directory hlands

theorem locate_parent :
    later.locate route.parent = .ok (walk (paved.start route) route.parent.steps) := by
  obtain ⟨hlegal, hshort, -⟩ := locate_ok_iff.1 hlands.located
  refine locate_ok_iff.2 ⟨hlegal, hshort, ?_⟩
  rw [h.start]
  exact (h.leads hlands).followed

theorem find? : later.find? route = .ok (some (.file content)) := by
  rw [FileTree.find?, hlands.locate (h.start route) (h.leads hlands)]
  dsimp only
  rw [h.get?_eq, if_pos rfl]

theorem read : later.read route = .ok content := by
  rw [FileTree.read, hlands.locate (h.start route) (h.leads hlands), ok_bind, h.get?_eq, if_pos rfl]
  rfl

/-- Where a file could be staged it can be staged again: the target has another name. -/
theorem staging : later.staging (walk (paved.start route) route.parent.steps) route.name =
    paved.staging (walk (paved.start route) route.parent.steps) route.name := by
  have hname (n : Nat) : walk (paved.start route) route.parent.steps ++ [stagedName route.name n] ≠
      target := by
    rw [hlands.target_eq]
    simpa using stagedName_ne route.name n
  have hsame := freeName?_congr (fun n => h.get?_of_ne (hname n)) 0 FileWork.stagingTries
  rw [FileTree.staging, FileTree.staging, hsame]

/-- Any content that is accepted lands in the file's place. -/
theorem landing {check : ContentCheck} {validate : Bool}
    (hvet : vet check other validate = .ok ()) :
    later.landing check route other validate = .ok target := by
  obtain ⟨staged, hstaged⟩ := hlands.staged
  refine landing_ok_iff.2 ⟨_, staged, h.locate_parent hlands, (h.staging hlands).trans hstaged,
    hvet, settling_ok_iff.2 ⟨hlands.isShort, hlands.isNamed, hlands.goesDown, ?_, hlands.target_eq⟩⟩
  rw [h.get?_eq, if_pos rfl]
  simp

end Landed

end IsWith

end FileTree

/-- **What was written can be written again**, with any content that is accepted. -/
theorem FileWork.write_again {later paved : FileTree} {target : Location} {content other : String}
    {route : Route} (h : later.IsWith paved target content) (hlands : paved.Lands route target)
    {check : ContentCheck} {validate : Bool} (hvet : vet check other validate = .ok ()) :
    (write check route other .force validate).on later =
      (.ok (), later.put target (.file other)) := by
  obtain ⟨hlegal, hshort, -⟩ := FileTree.locate_ok_iff.1 (h.locate_parent hlands)
  have hleads : later.Leads (later.start route.parent) route.parent.steps :=
    h.start route.parent ▸ h.leads hlands
  rw [write_on, makeDirectories_of_leads hlegal hshort hleads]
  dsimp only
  rw [h.landing hlands hvet]
  rfl

end SchemaGraph
