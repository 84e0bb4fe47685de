import SchemaGraph.Files.Writing
import SchemaGraph.Proofs.Failure.Steps
import SchemaGraph.Proofs.Files.Paving

/-! Writing a file in one step.

The staged file is never seen: writing comes to making the directories on the way,
deciding whether the content lands and, if it does, putting it in its place in a single
step (`write_on`). So a fault leaves nothing behind but directories. -/
namespace SchemaGraph

theorem stagedName_ne (name : String) (n : Nat) : stagedName name n ≠ name := by
  intro heq
  have hlength := congrArg String.length heq
  have hdot : ".".length = 1 := rfl
  simp only [stagedName, String.length_append, toString] at hlength
  omega

theorem utf8ByteSize_le_stagedName (name : String) (n : Nat) :
    name.utf8ByteSize ≤ (stagedName name n).utf8ByteSize := by
  simp only [stagedName, String.utf8ByteSize_append, toString]
  omega

namespace FileTree

/-! ### Deciding -/

/-- Where a file for a name can be staged in a directory. -/
def staging (tree : FileTree) (directory : Location) (name : String) : Except Fault Location := do
  if name.toList.contains '\x00' then throw .illegalPath
  if longestName < (stagedName name 0).utf8ByteSize then throw .nameTooLong
  let route : Route := { isAbsolute := true, steps := directory ++ [stagedName name 0] }
  if longestRoute < route.text.utf8ByteSize then throw .nameTooLong
  match tree.freeName? directory name 0 FileWork.stagingTries with
  | none => throw (.fileExists name)
  | some staged => return directory ++ [staged]

/-- Where a route leads to in a directory, if a file may take the place. -/
def settling (tree : FileTree) (directory : Location) (route : Route) : Except Fault Location := do
  if longestRoute < route.text.utf8ByteSize then throw .nameTooLong
  if route.name == "" || route.name == ".." then throw .busy
  match tree.get? (directory ++ [route.name]) with
  | some .directory => throw .isDirectory
  | _ => return directory ++ [route.name]

/-- Where a content lands once the directories on the way are there. -/
def landing (tree : FileTree) (check : ContentCheck) (route : Route) (content : String)
    (validate : Bool) : Except Fault Location := do
  let directory ← tree.locate route.parent
  let _ ← tree.staging directory route.name
  vet check content validate
  tree.settling directory route

variable {tree : FileTree} {directory staged location : Location} {name : String}

theorem remove_put (hfree : tree.get? location = none) (entry : Entry) :
    (tree.put location entry).remove location = tree := by
  have hroot : location ≠ [] := fun hroot => by simp [hroot] at hfree
  have hnone : ∀ item ∈ tree.entries, item.1 ≠ location := by
    simpa [get?, hroot, lookup] using hfree
  have hwithout : without location tree.entries = tree.entries :=
    List.filter_eq_self.2 fun item hitem => by simpa using hnone item hitem
  have hboth : without location (tree.entries ++ [(location, entry)]) = tree.entries := by
    rw [without, List.filter_append]
    simpa [without] using hwithout
  rw [put, remove, hwithout, hboth]

theorem freeName?_eq_stagedName {n tries : Nat} {found : String}
    (h : tree.freeName? directory name n tries = some found) : ∃ m, found = stagedName name m := by
  induction tries generalizing n with
  | zero => cases h
  | succ tries ih =>
    rw [freeName?] at h
    split at h
    · exact ⟨n, (Option.some.inj h).symm⟩
    · exact ih h

theorem staging_ok_iff : tree.staging directory name = .ok staged ↔
    name.toList.contains '\x00' = false ∧ (stagedName name 0).utf8ByteSize ≤ longestName ∧
      (Route.text { isAbsolute := true, steps := directory ++ [stagedName name 0] }).utf8ByteSize ≤
        longestRoute ∧
      ∃ found, tree.freeName? directory name 0 FileWork.stagingTries = some found ∧
        staged = directory ++ [found] := by
  rw [staging]
  constructor
  · intro h
    split at h
    · cases h
    rename_i hlegal
    dsimp only at h
    split at h
    · cases h
    rename_i hname
    split at h
    · cases h
    rename_i hroute
    split at h
    · cases h
    · rename_i found hfree
      cases h
      exact ⟨Bool.eq_false_iff.2 hlegal, Nat.not_lt.1 hname, Nat.not_lt.1 hroute, found, hfree, rfl⟩
  · rintro ⟨hlegal, hname, hroute, found, hfree, rfl⟩
    rw [hlegal, if_neg Bool.false_ne_true]
    dsimp only
    rw [if_neg (Nat.not_lt.2 hname), if_neg (Nat.not_lt.2 hroute), hfree]
    rfl

/-- A file is staged where nothing is, and not in the place that it is for. -/
theorem staging_ok (h : tree.staging directory name = .ok staged) :
    tree.get? staged = none ∧ staged ≠ directory ++ [name] := by
  obtain ⟨-, -, -, found, hfree, rfl⟩ := staging_ok_iff.1 h
  obtain ⟨n, rfl⟩ := freeName?_eq_stagedName hfree
  exact ⟨get?_freeName? hfree, by simpa using stagedName_ne name n⟩

variable {check : ContentCheck} {route : Route} {content : String} {validate : Bool}
  {target : Location}

theorem settling_ok_iff : tree.settling directory route = .ok target ↔
    route.text.utf8ByteSize ≤ longestRoute ∧ route.name ≠ "" ∧ route.name ≠ ".." ∧
      tree.get? target ≠ some .directory ∧ target = directory ++ [route.name] := by
  rw [settling]
  constructor
  · intro h
    split at h
    · cases h
    rename_i hlong
    dsimp only at h
    split at h
    · cases h
    rename_i hname
    simp only [Bool.or_eq_true, beq_iff_eq, not_or] at hname
    split at h
    · cases h
    · rename_i hfound
      cases h
      exact ⟨Nat.not_lt.1 hlong, hname.1, hname.2, hfound, rfl⟩
  · rintro ⟨hshort, hempty, hup, hfound, rfl⟩
    have hname : ¬ (route.name == "" || route.name == "..") = true := by simp [hempty, hup]
    rw [if_neg (Nat.not_lt.2 hshort), if_neg hname]
    split
    · rename_i hdirectory
      exact absurd hdirectory hfound
    · rfl

theorem landing_ok_iff : tree.landing check route content validate = .ok target ↔
    ∃ directory staged, tree.locate route.parent = .ok directory ∧
      tree.staging directory route.name = .ok staged ∧ vet check content validate = .ok () ∧
      tree.settling directory route = .ok target := by
  constructor
  · intro h
    obtain ⟨directory, hlocate, h⟩ := bind_ok h
    obtain ⟨staged, hstaged, h⟩ := bind_ok h
    obtain ⟨_, hvet, hsettled⟩ := bind_ok h
    exact ⟨directory, staged, hlocate, hstaged, hvet, hsettled⟩
  · rintro ⟨directory, staged, hlocate, hstaged, hvet, hsettled⟩
    rw [landing, hlocate, ok_bind, hstaged, ok_bind, hvet, ok_bind, hsettled]

theorem settling_put {entry : Entry} (h : staged ≠ directory ++ [route.name]) :
    (tree.put staged entry).settling directory route = tree.settling directory route := by
  rw [settling, settling, get?_put_of_ne tree h.symm]

end FileTree

namespace FileWork

open FileTree

variable {tree : FileTree} {directory : Location}

theorem stage_on (directory : Location) (name content : String) (tree : FileTree) :
    (stage directory name content).on tree =
      match tree.staging directory name with
      | .ok staged => (.ok staged, tree.put staged (.file content))
      | .error fault => (.error fault, tree) := by
  rw [stage, staging]
  split
  · rfl
  · split
    · rfl
    · dsimp only
      split
      · rfl
      · rw [on_bind, on_get]
        dsimp only
        cases tree.freeName? directory name 0 stagingTries <;> rfl

theorem settle_on (staged directory : Location) (route : Route) (content : String)
    (tree : FileTree) : (settle staged directory route content).on tree =
      match tree.settling directory route with
      | .ok target => (.ok (), (tree.remove staged).put target (.file content))
      | .error fault => (.error fault, tree) := by
  rw [settle, settling]
  split
  · rfl
  · dsimp only
    split
    · rfl
    · rw [on_bind, on_get]
      dsimp only
      rcases tree.get? (directory ++ [route.name]) with _ | _ | _ <;> rfl

theorem on_tryCatch {α : Type} (work : FileWork α) (handle : Fault → FileWork α)
    (tree : FileTree) : (tryCatch work handle : FileWork α).on tree =
      match work.on tree with
      | (.ok value, after) => (.ok value, after)
      | (.error fault, after) => (handle fault).on after := by
  simp only [on, tryCatch, tryCatchThe, MonadExceptOf.tryCatch, ExceptT.tryCatch,
    ExceptT.run_mk, StateT.run_bind, Id.run_bind]
  rcases hrun : (StateT.run work.run tree).run with ⟨fault | value, after⟩ <;>
    rw [show (StateT.run (work : StateM FileTree (Except Fault α)) tree).run = _ from hrun] <;>
    rfl

/-- A file that was staged where nothing was leaves no trace. -/
theorem discard_on {staged : Location} (hfree : tree.get? staged = none) (entry : Entry)
    (fault : Fault) : (discard staged fault).on (tree.put staged entry) = (.error fault, tree) := by
  rw [discard, on_bind]
  exact congrArg (Prod.mk _) (remove_put hfree _)

/-- What becomes of a staged file: the target, or nothing. -/
theorem finish_on {staged : Location} {route : Route}
    (h : tree.staging directory route.name = .ok staged) (check : ContentCheck) (content : String)
    (validate : Bool) :
    (finish check staged directory route content validate).on (tree.put staged (.file content)) =
      match (do vet check content validate; tree.settling directory route) with
      | .error fault => (.error fault, tree)
      | .ok target => (.ok (), tree.put target (.file content)) := by
  obtain ⟨hfree, hne⟩ := staging_ok h
  rw [finish, on_tryCatch, on_bind, on_lift]
  cases vet check content validate with
  | error fault => exact discard_on hfree _ fault
  | ok passed =>
    dsimp only
    rw [settle_on, settling_put hne, remove_put hfree, ok_bind]
    cases tree.settling directory route with
    | error fault => exact discard_on hfree _ fault
    | ok target => rfl

/-- **Writing takes one step**: a content is put in its place or it is not. -/
theorem write_on (check : ContentCheck) (route : Route) (content : String) (mode : OutputMode)
    (validate : Bool) (tree : FileTree) :
    (write check route content mode validate).on tree =
      match tree.unbarred mode route with
      | .error fault => (.error fault, tree)
      | .ok () => match (makeDirectories route.parent).on tree with
        | (.error fault, paved) => (.error fault, paved)
        | (.ok (), paved) => match paved.landing check route content validate with
          | .error fault => (.error fault, paved)
          | .ok target => (.ok (), paved.put target (.file content)) := by
  rw [write, on_bind, on_get]
  dsimp only
  rw [on_bind, on_lift]
  cases tree.unbarred mode route with
  | error fault => rfl
  | ok free =>
    dsimp only
    rw [on_bind]
    rcases (makeDirectories route.parent).on tree with ⟨fault | _, paved⟩
    · rfl
    dsimp only
    rw [on_bind, on_get]
    dsimp only
    rw [on_bind, on_lift, landing]
    cases paved.locate route.parent with
    | error fault => rfl
    | ok directory =>
      dsimp only
      rw [on_bind, stage_on, ok_bind]
      cases hstaged : paved.staging directory route.name with
      | error fault => rfl
      | ok staged =>
        rw [ok_bind]
        exact finish_on hstaged check content validate

end FileWork
end SchemaGraph
