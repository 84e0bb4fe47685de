import SchemaGraph.Proofs.Files.Landing

/-! All or nothing.

A call that writes a file returns or fails. If it returns, the file holds the content and
every other file is as it was; if it fails, all files are as they were, and nothing but
directories on the way is new (`WriteCall.AllOrNothing`). That holds of every call in a
sequence of calls, since the tree stays proper, so a file ends with the content of the
last call that returned for it (`writes_all_or_nothing`). What is in the way is looked for
before directories are made, so making them can uncover a file (`write_uncovers`). -/
namespace SchemaGraph

namespace Route

theorem steps_eq {route : Route} (h : route.name ≠ "") :
    route.steps = route.parent.steps ++ [route.name] := by
  rw [name] at h ⊢
  rw [parent]
  cases hlast : route.steps.getLast? with
  | none => simp [hlast] at h
  | some last =>
    obtain ⟨before, heq⟩ := List.getLast?_eq_some_iff.1 hlast
    rw [heq, List.dropLast_concat]
    rfl

end Route

theorem vet_ok_iff {check : ContentCheck} {content : String} {validate : Bool} :
    vet check content validate = .ok () ↔
      Text.hasHalves content = false ∧ (validate = true → check content = .ok ()) := by
  rw [vet]
  cases Text.hasHalves content <;> cases validate
  all_goals simp [throw, throwThe, MonadExceptOf.throw, bind, Except.bind, pure, Except.pure]

namespace FileTree

open Route

variable {tree paved : FileTree} {check : ContentCheck} {route : Route} {content : String}
  {mode : OutputMode} {validate : Bool} {directory target : Location}

/-! ### Where a content lands -/

/-- A route by which a content lands at a target. The target is where it leads to with nothing in
the way. -/
structure Lands (paved : FileTree) (route : Route) (target : Location) : Prop where
  isLegal : route.isIllegal = false
  isShort : route.text.utf8ByteSize ≤ longestRoute
  steps : route.steps = route.parent.steps ++ [route.name]
  isNamed : route.name ≠ ""
  goesDown : route.name ≠ ".."
  leads : paved.Leads (paved.start route) route.parent.steps
  located : paved.locate route.parent = .ok (walk (paved.start route) route.parent.steps)
  staged : ∃ staged, paved.staging (walk (paved.start route) route.parent.steps) route.name =
    .ok staged
  vacant : paved.get? target ≠ some .directory
  target_eq : target = walk (paved.start route) route.parent.steps ++ [route.name]

theorem lands (hleads : paved.Leads (paved.start route) route.parent.steps)
    (h : paved.landing check route content validate = .ok target) : paved.Lands route target := by
  obtain ⟨directory, staged, hlocate, hstaged, -, hsettled⟩ := landing_ok_iff.1 h
  obtain ⟨hparent, -, hfollow⟩ := locate_ok_iff.1 hlocate
  obtain ⟨hname, -, -, -⟩ := staging_ok_iff.1 hstaged
  obtain ⟨hshort, hempty, hup, hvacant, rfl⟩ := settling_ok_iff.1 hsettled
  have hsteps := steps_eq hempty
  have hlegal : route.isIllegal = false := by
    rw [Route.isIllegal, hsteps, List.any_append, List.any_cons, List.any_nil, hname]
    simpa [Route.isIllegal] using hparent
  have hdirectory : directory = walk (paved.start route) route.parent.steps := follow_ok hfollow
  subst hdirectory
  exact ⟨hlegal, hshort, hsteps, hempty, hup, hleads, hlocate, ⟨staged, hstaged⟩, hvacant, rfl⟩

namespace Lands

theorem target_eq_walk (h : paved.Lands route target) :
    target = walk (paved.start route) route.steps := by
  rw [h.target_eq, h.steps, walk_append, walk_down h.goesDown]
  rfl

theorem target_ne_nil (h : paved.Lands route target) : target ≠ [] := by
  rw [h.target_eq]
  exact List.concat_ne_nil _ _

theorem name_le (h : paved.Lands route target) : route.name.utf8ByteSize ≤ longestName := by
  obtain ⟨staged, hstaged⟩ := h.staged
  exact Nat.le_trans (utf8ByteSize_le_stagedName _ 0) (staging_ok_iff.1 hstaged).2.1

/-- The route can be followed wherever its directories are there. -/
theorem locate (h : paved.Lands route target) {other : FileTree}
    (hstart : other.start route = paved.start route)
    (hleads : other.Leads (paved.start route) route.parent.steps) :
    other.locate route = .ok target := by
  refine locate_ok_iff.2 ⟨h.isLegal, h.isShort, ?_⟩
  rw [hstart, h.steps, follow_append, hleads.followed]
  show other.follow _ [route.name] = _
  rw [follow_down hleads.directory h.goesDown h.name_le, h.target_eq]
  rfl

theorem isProper_put (h : paved.Lands route target) (hpaved : paved.IsProper) (content : String) :
    (paved.put target (.file content)).IsProper := by
  refine hpaved.put h.target_ne_nil ?_ fun hdirectory => absurd hdirectory h.vacant
  rw [h.target_eq, List.dropLast_concat]
  exact h.leads.directory

/-- What was written can be read. -/
theorem read_put (h : paved.Lands route target) (content : String) :
    (paved.put target (.file content)).read route = .ok content := by
  have hleads : (paved.put target (.file content)).Leads (paved.start route)
      route.parent.steps := by
    refine h.leads.mono fun location _ hdirectory => ?_
    have hne : location ≠ target := fun heq => h.vacant (heq ▸ hdirectory)
    rw [get?_put_of_ne paved hne, hdirectory]
  have hlocate : (paved.put target (.file content)).locate route = .ok target :=
    h.locate rfl hleads
  rw [read, hlocate, ok_bind, get?_put_self paved h.target_ne_nil]
  rfl

end Lands

theorem find?_of_unbarred (h : tree.unbarred .error route = .ok ()) :
    tree.find? route = .ok none := by
  obtain ⟨found, hfound, h⟩ := bind_ok h
  cases found with
  | none => exact hfound
  | some entry => cases h

/-- Where nothing was found, and directories were made without need to go up from a missing one,
nothing was. -/
theorem Lands.get?_eq_none (h : paved.Lands route target) (htree : tree.IsProper)
    (hstart : paved.start route = tree.start route)
    (hfind : ∀ entry, tree.find? route ≠ .ok (some entry))
    (hway : ".." ∉ route.parent.steps ∨ ∃ there, tree.locate route.parent = .ok there) :
    tree.get? target = none := by
  by_contra hne
  obtain ⟨entry, hentry⟩ := Option.ne_none_iff_exists'.1 hne
  have hdirectory : tree.get? (walk (tree.start route) route.parent.steps) = some .directory := by
    have hparent := htree.parent _ _ hentry
    rwa [h.target_eq, List.dropLast_concat, hstart] at hparent
  have hbefore : tree.Leads (tree.start route) route.parent.steps := by
    rcases hway with hdown | ⟨there, hthere⟩
    · refine (hstart ▸ h.leads).mono fun location ⟨done, ⟨more, hsplit⟩, hdone⟩ _ => ?_
      rw [← hsplit, walk_append, hdone, walk_eq_append] at hdirectory
      · by_cases hmore : more = []
        · rwa [hmore, List.append_nil] at hdirectory
        · exact htree.above hdirectory hmore
      · exact fun hup => hdown (hsplit ▸ List.mem_append_right _ hup)
    · obtain ⟨-, -, hfollow⟩ := locate_ok_iff.1 hthere
      exact ⟨follow_ok hfollow ▸ hfollow, hdirectory⟩
  have hlocate : tree.locate route = .ok target :=
    h.locate hstart.symm (hstart ▸ hbefore)
  refine hfind entry ?_
  rw [find?, hlocate]
  exact congrArg Except.ok hentry

/-! ### Contents of files -/

/-- The content of the file at a location, if a file is there. -/
def content? (tree : FileTree) (location : Location) : Option String :=
  match tree.get? location with
  | some (.file content) => some content
  | _ => none

theorem content?_eq_some_iff {location : Location} {content : String} :
    tree.content? location = some content ↔ tree.get? location = some (.file content) := by
  rw [content?]
  rcases tree.get? location with _ | _ | _ <;> simp

theorem Paved.content?_eq {way : Location → Prop} (h : Paved way tree paved)
    (location : Location) : paved.content? location = tree.content? location := by
  refine Option.ext fun content => ?_
  rw [content?_eq_some_iff, content?_eq_some_iff, h.file_iff]

theorem Paved.of_directory {way : Location → Prop} (h : Paved way tree paved) {location : Location}
    (hfound : paved.get? location = some .directory) : tree.get? location = some .directory ∨
      tree.get? location = none ∧ way location := by
  rcases h.made hfound with hbefore | ⟨-, hway⟩
  · exact .inl hbefore
  · cases hbefore : tree.get? location with
    | none => exact .inr ⟨rfl, hway⟩
    | some entry =>
      rw [h.kept hbefore] at hfound
      exact .inl hfound

theorem content?_put (tree : FileTree) {target : Location} (h : target ≠ []) (content : String)
    (location : Location) : (tree.put target (.file content)).content? location =
      if location = target then some content else tree.content? location := by
  rw [content?, get?_put tree h]
  by_cases heq : location = target
  · rw [if_pos heq, if_pos heq]
  · rw [if_neg heq, if_neg heq, content?]

end FileTree

/-- How writing may end: it fails with some directories made at most, or it puts the content in its
place after that. -/
theorem FileWork.write_cases {tree : FileTree} (htree : tree.IsProper) (check : ContentCheck)
    (route : Route) (content : String) (mode : OutputMode) (validate : Bool) :
    ∃ paved, FileTree.Paved (Route.OnWay (tree.start route) route.parent.steps) tree paved ∧
      paved.IsProper ∧
      ((∃ fault, (write check route content mode validate).on tree = (.error fault, paved)) ∨
        tree.unbarred mode route = .ok () ∧ vet check content validate = .ok () ∧
          paved.Lands route (Route.walk (tree.start route) route.steps) ∧
          (write check route content mode validate).on tree =
            (.ok (), paved.put (Route.walk (tree.start route) route.steps) (.file content))) := by
  rw [write_on]
  cases hfree : tree.unbarred mode route with
  | error fault => exact ⟨tree, .refl _ _, htree, .inl ⟨fault, rfl⟩⟩
  | ok _ =>
    have hpaves := makeDirectories_paves htree route.parent
    dsimp only
    rcases hmade : (makeDirectories route.parent).on tree with ⟨fault | _, paved⟩ <;>
      rw [hmade] at hpaves
    · exact ⟨paved, hpaves.paved, hpaves.isProper, .inl ⟨fault, rfl⟩⟩
    dsimp only
    cases hland : paved.landing check route content validate with
    | error fault => exact ⟨paved, hpaves.paved, hpaves.isProper, .inl ⟨fault, rfl⟩⟩
    | ok target =>
      have hstart : paved.start route = tree.start route := hpaves.paved.start route
      have hlands : paved.Lands route target :=
        FileTree.lands (hstart ▸ hpaves.leads rfl) hland
      have htarget : target = Route.walk (tree.start route) route.steps :=
        hstart ▸ hlands.target_eq_walk
      subst htarget
      obtain ⟨_, _, -, -, hvet, -⟩ := FileTree.landing_ok_iff.1 hland
      exact ⟨paved, hpaves.paved, hpaves.isProper, .inr ⟨rfl, hvet, hlands, rfl⟩⟩

/-! ### One call -/

/-- A call to write a file. -/
structure WriteCall where
  check : ContentCheck
  path : String
  content : String
  mode : Json
  validate : Bool

namespace WriteCall

open Route FileTree

def route (call : WriteCall) : Route := .ofText call.path

/-- What the call does. -/
def work (call : WriteCall) : FileWork Unit := do
  let mode ← FileWork.lift (OutputMode.ofJson call.mode)
  FileWork.write call.check call.route call.content mode call.validate

/-- The outcome of the call, and the tree that it leaves. -/
def outcome (call : WriteCall) (tree : FileTree) : Except Fault Unit := (call.work.on tree).1

def after (call : WriteCall) (tree : FileTree) : FileTree := (call.work.on tree).2

/-- Where the path leads to with nothing in the way. -/
def target (call : WriteCall) (tree : FileTree) : Location :=
  walk (tree.start call.route) call.route.steps

/-- A call returns with its file written and all others as they were, or fails with all files as
they were. -/
structure AllOrNothing (call : WriteCall) (tree : FileTree) : Prop where
  returned : call.outcome tree = .ok () → (call.after tree).read call.route = .ok call.content ∧
    ∀ location, (call.after tree).content? location =
      if location = call.target tree then some call.content else tree.content? location
  failed : ∀ fault, call.outcome tree = .error fault →
    ∀ location, (call.after tree).content? location = tree.content? location
  kept : ∀ location, tree.get? location = some .directory →
    (call.after tree).get? location = some .directory
  /-- Directories are new on the way to the file at most, where nothing was. -/
  made : ∀ location, (call.after tree).get? location = some .directory →
    tree.get? location = some .directory ∨
      tree.get? location = none ∧ OnWay (tree.start call.route) call.route.parent.steps location
  /-- What the path leads to is not touched unless it may be replaced. -/
  barred : OutputMode.ofJson call.mode = .ok .error → ∀ entry,
    tree.find? call.route = .ok (some entry) →
      call.work.on tree = (.error (.outputExists call.route.text), tree)
  /-- Nor is what stands where it leads to, but if it goes up from where nothing was. -/
  free : OutputMode.ofJson call.mode = .ok .error → call.outcome tree = .ok () →
    (".." ∉ call.route.parent.steps ∨ ∃ there, tree.locate call.route.parent = .ok there) →
      tree.get? (call.target tree) = none
  rejected : call.validate = true → ∀ fault, call.check call.content = .error fault →
    ∃ other, call.outcome tree = .error other

variable {call : WriteCall} {tree : FileTree}

theorem work_on (call : WriteCall) (tree : FileTree) : call.work.on tree =
    match OutputMode.ofJson call.mode with
    | .error fault => (.error fault, tree)
    | .ok mode =>
      (FileWork.write call.check call.route call.content mode call.validate).on tree := by
  rw [work, FileWork.on_bind, FileWork.on_lift]
  cases OutputMode.ofJson call.mode <;> rfl

/-- How a call may end: it fails with some directories made at most, or it puts its content in its
place after that. -/
theorem work_cases (htree : tree.IsProper) (call : WriteCall) :
    ∃ paved, Paved (OnWay (tree.start call.route) call.route.parent.steps) tree paved ∧
      paved.IsProper ∧
      ((∃ fault, call.work.on tree = (.error fault, paved)) ∨
        ∃ mode, OutputMode.ofJson call.mode = .ok mode ∧ tree.unbarred mode call.route = .ok () ∧
          vet call.check call.content call.validate = .ok () ∧
          paved.Lands call.route (call.target tree) ∧
          call.work.on tree = (.ok (), paved.put (call.target tree) (.file call.content))) := by
  rw [work_on]
  cases hmode : OutputMode.ofJson call.mode with
  | error fault => exact ⟨tree, .refl _ _, htree, .inl ⟨fault, rfl⟩⟩
  | ok mode =>
    obtain ⟨paved, hpaved, hproper, hends⟩ := FileWork.write_cases htree call.check call.route
      call.content mode call.validate
    exact ⟨paved, hpaved, hproper, hends.imp_right fun ⟨hfree, hvet, hlands, hwrite⟩ =>
      ⟨mode, rfl, hfree, hvet, hlands, hwrite⟩⟩

theorem isProper_after (htree : tree.IsProper) (call : WriteCall) :
    (call.after tree).IsProper := by
  obtain ⟨paved, hpaved, hproper, ⟨fault, hwork⟩ |
    ⟨mode, -, -, -, hlands, hwork⟩⟩ := work_cases htree call
  · rwa [after, hwork]
  · rw [after, hwork]
    exact hlands.isProper_put hproper _

/-- What a path leads to bars the way where it must not be replaced. -/
theorem work_on_of_barred (hmode : OutputMode.ofJson call.mode = .ok .error) {entry : Entry}
    (hfound : tree.find? call.route = .ok (some entry)) :
    call.work.on tree = (.error (.outputExists call.route.text), tree) := by
  have hunbarred : tree.unbarred .error call.route = .error (.outputExists call.route.text) := by
    rw [unbarred, hfound]
    rfl
  rw [work_on, hmode]
  dsimp only
  rw [FileWork.write_on, hunbarred]

/-- **Every call is all or nothing.** -/
theorem allOrNothing (htree : tree.IsProper) (call : WriteCall) : call.AllOrNothing tree := by
  obtain ⟨paved, hpaved, -, ⟨fault, hwork⟩ |
    ⟨mode, hmode, hunbarred, hvet, hlands, hwork⟩⟩ := work_cases htree call
  · have houtcome : call.outcome tree = .error fault := congrArg Prod.fst hwork
    have hafter : call.after tree = paved := congrArg Prod.snd hwork
    refine {
      returned := fun hok => by rw [houtcome] at hok; cases hok
      failed := fun _ _ => hafter ▸ hpaved.content?_eq
      kept := fun _ hfound => hafter ▸ hpaved.kept hfound
      made := fun _ hfound => hpaved.of_directory (hafter ▸ hfound)
      barred := fun hmode _ => work_on_of_barred hmode
      free := fun _ hok => by rw [houtcome] at hok; cases hok
      rejected := fun _ _ _ => ⟨fault, houtcome⟩ }
  · have houtcome : call.outcome tree = .ok () := congrArg Prod.fst hwork
    have hafter : call.after tree = paved.put (call.target tree) (.file call.content) :=
      congrArg Prod.snd hwork
    have hstart := hpaved.start call.route
    have hother (location : Location) (hfound : paved.get? location = some .directory) :
        (call.after tree).get? location = some .directory := by
      have hne : location ≠ call.target tree := fun heq => hlands.vacant (heq ▸ hfound)
      rw [hafter, get?_put_of_ne paved hne, hfound]
    refine {
      returned := fun _ => ⟨?_, fun location => ?_⟩
      failed := fun _ hfault => by rw [houtcome] at hfault; cases hfault
      kept := fun location hfound => hother location (hpaved.kept hfound)
      made := fun location hfound => hpaved.of_directory ?_
      barred := fun hmode _ => work_on_of_barred hmode
      free := fun herror _ hway => ?_
      rejected := fun hvalidate fault hfault => ?_ }
    · rw [hafter]
      exact hlands.read_put _
    · rw [hafter, content?_put paved hlands.target_ne_nil, hpaved.content?_eq]
    · rw [hafter, get?_put paved hlands.target_ne_nil] at hfound
      split at hfound
      · cases hfound
      · exact hfound
    · rw [hmode] at herror
      cases herror
      have hnone := find?_of_unbarred hunbarred
      exact hlands.get?_eq_none htree hstart (fun entry => by simp [hnone]) hway
    · rw [vet_ok_iff.1 hvet |>.2 hvalidate] at hfault
      cases hfault

end WriteCall

/-! ### Many calls -/

namespace FileTree

variable {tree : FileTree}

/-- The tree after calls. -/
def afterCalls (tree : FileTree) (calls : List WriteCall) : FileTree :=
  calls.foldl (fun tree call => call.after tree) tree

/-- What the calls that returned have written, and where. -/
def written (tree : FileTree) : List WriteCall → List (Location × String)
  | [] => []
  | call :: rest =>
    match call.outcome tree with
    | .ok () => (call.target tree, call.content) :: written (call.after tree) rest
    | .error _ => written (call.after tree) rest

theorem isProper_afterCalls (htree : tree.IsProper) (calls : List WriteCall) :
    (tree.afterCalls calls).IsProper := by
  induction calls generalizing tree with
  | nil => exact htree
  | cons call rest ih => exact ih (call.isProper_after htree)

/-- A file has the content that was written last in its place. -/
theorem content?_afterCalls (htree : tree.IsProper) (calls : List WriteCall)
    (location : Location) : (tree.afterCalls calls).content? location =
      ((tree.written calls).reverse.lookup location).or (tree.content? location) := by
  induction calls generalizing tree with
  | nil => rfl
  | cons call rest ih =>
    have hcall := call.allOrNothing htree
    have hrest := ih (call.isProper_after htree)
    rw [afterCalls, List.foldl_cons, ← afterCalls, hrest, written]
    cases houtcome : call.outcome tree with
    | error fault => rw [hcall.failed fault houtcome]
    | ok _ =>
      have hwritten : (if location = call.target tree then some call.content
            else tree.content? location) =
          ([(call.target tree, call.content)].lookup location).or (tree.content? location) := by
        by_cases heq : location = call.target tree
        · simp [heq]
        · simp [List.lookup_cons, beq_false_of_ne heq, heq]
      dsimp only
      rw [(hcall.returned houtcome).2, hwritten, List.reverse_cons, List.lookup_append,
        Option.or_assoc]

/-- **Files are written all or nothing**, by every call of any sequence of calls. -/
theorem writes_all_or_nothing (htree : tree.IsProper) (calls : List WriteCall) :
    (∀ done call rest, calls = done ++ call :: rest →
      call.AllOrNothing (tree.afterCalls done)) ∧
    ∀ location, (tree.afterCalls calls).content? location =
      ((tree.written calls).reverse.lookup location).or (tree.content? location) :=
  ⟨fun done call _ _ => call.allOrNothing (isProper_afterCalls htree done),
    content?_afterCalls htree calls⟩

/-- A directory with a file. -/
def oneFile : FileTree :=
  { entries := [(["w"], .directory), (["w", "a"], .file "old")], workingDirectory := ["w"] }

/-- Two calls for a new file, the second of which must not replace it, and two that may, the first
of which has a content that is not accepted. -/
def fourCalls : List WriteCall :=
  [("first", .error), ("second", .error), ("bad", .force), ("third", .force)].map fun
    (content, mode) =>
      { check := fun text => if text == "bad" then .error .cutText else .ok (), path := "new/b"
        content, mode := .str (OutputMode.word mode), validate := true }

theorem writes_all_or_nothing_oneFile :
    (oneFile.afterCalls (fourCalls.take 2)).content? ["w", "new", "b"] = some "first" ∧
      (∃ bad rest fault, fourCalls = fourCalls.take 2 ++ bad :: rest ∧
        bad.outcome (oneFile.afterCalls (fourCalls.take 2)) = .error fault) ∧
      (oneFile.afterCalls fourCalls).content? ["w", "new", "b"] = some "third" ∧
      (oneFile.afterCalls fourCalls).content? ["w", "a"] = some "old" := by
  have htree : oneFile.IsProper := isProper_of_entries (by decide +kernel) (by decide +kernel)
  obtain ⟨-, htwo⟩ := writes_all_or_nothing htree (fourCalls.take 2)
  obtain ⟨hcalls, hfour⟩ := writes_all_or_nothing htree fourCalls
  obtain ⟨fault, hbad⟩ := (hcalls (fourCalls.take 2) _ _ rfl).rejected rfl _ rfl
  refine ⟨?_, ⟨_, _, fault, rfl, hbad⟩, ?_, ?_⟩
  · rw [htwo]
    decide +kernel
  · rw [hfour]
    decide +kernel
  · rw [hfour]
    decide +kernel

/-- What is in the way is not seen from a directory that is yet to be made. -/
theorem write_uncovers :
    let call : WriteCall :=
      { check := fun _ => .ok (), path := "new/../a", content := "new", mode := .str "error"
        validate := true }
    call.target oneFile = ["w", "a"] ∧ oneFile.content? ["w", "a"] = some "old" ∧
      (call.outcome oneFile).isOk = true ∧
      (call.after oneFile).content? ["w", "a"] = some "new" := by
  decide +kernel

end FileTree
end SchemaGraph
