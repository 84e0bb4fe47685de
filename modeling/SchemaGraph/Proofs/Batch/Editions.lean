import Mathlib.Data.List.Forall2
import Mathlib.Data.List.Induction
import SchemaGraph.Proofs.Batch.Construction
import SchemaGraph.Proofs.Batch.Location

/-! Editions of documents.

Where identifiers may be used again, a batch can hold several documents of one identifier.
An `Edition` is a document that was compiled, with its number in the batch and the type
that was made for it; the registry has the type of the last edition of every identifier
(`find?_entriesOf`).

A ledger `Records` editions if their types stand for their shapes. What was looked up
while an edition was compiled is looked up among the editions before it, so its type
stands in the ledger with the entries that there were by then (`Ledger.seeing`). A batch
that compiles records an edition for every document (`Build.compileAll_records`). -/
namespace SchemaGraph

namespace Registry

theorem isKey_of_mem_setEntry {α : Type} {id : Json} {value : α} {entries : List (Json × α)}
    (hid : id.isKey = true) (hkeys : ∀ entry ∈ entries, entry.1.isKey = true) :
    ∀ entry ∈ setEntry id value entries, entry.1.isKey = true := by
  induction entries with
  | nil =>
    intro entry hentry
    rw [setEntry, List.mem_singleton] at hentry
    rwa [hentry]
  | cons head rest ih =>
    obtain ⟨hhead, hrest⟩ := List.forall_mem_cons.1 hkeys
    rw [setEntry]
    split
    · exact List.forall_mem_cons.2 ⟨hhead, hrest⟩
    · exact List.forall_mem_cons.2 ⟨hhead, ih hrest⟩

/-- A type that is entered is found under its identifier; under all others the same is found as
before. -/
theorem find?_setEntry {α : Type} {id : Json} (hid : id.isKey = true) (value : α)
    {entries : List (Json × α)} (hkeys : ∀ entry ∈ entries, entry.1.isKey = true)
    (target : Json) :
    ((setEntry id value entries).find? fun entry => Json.same entry.1 target).map Prod.snd =
      if Json.same id target = true then some value
      else (entries.find? fun entry => Json.same entry.1 target).map Prod.snd := by
  induction entries with
  | nil => cases hsame : Json.same id target <;> simp [setEntry, hsame]
  | cons head rest ih =>
    obtain ⟨key, old⟩ := head
    obtain ⟨hkey, hrest⟩ := List.forall_mem_cons.1 hkeys
    have hkey : key.isKey = true := hkey
    have htarget : Json.same key id = true → Json.same key target = Json.same id target := by
      intro hsame
      rw [Bool.eq_iff_iff, Json.same_key_iff hkey, Json.same_key_iff hid,
        (Json.same_key_iff hkey).1 hsame]
    rw [setEntry]
    split
    · rename_i hsame
      cases hfound : Json.same id target <;> simp [htarget hsame, hfound]
    · rename_i hother
      cases hfound : Json.same key target with
      | true =>
        have hid : Json.same id target = false := by
          cases hsame : Json.same id target with
          | true =>
            refine absurd ?_ hother
            rw [Json.same_key_iff hkey] at hfound ⊢
            rw [hfound, (Json.same_key_iff hid).1 hsame]
          | false => rfl
        simp [hfound, hid]
      | false =>
        simp only [List.find?_cons, hfound]
        exact ih hrest

end Registry

/-- A document that was compiled: its number, the document, and the type made for it. -/
structure Edition where
  number : Nat
  source : Source
  type : GraphType

namespace Edition

/-- The place of the edition's document. -/
def place (edition : Edition) : Place := .document (.int edition.number)

end Edition

/-- The entries that editions leave, one after another. -/
def entriesOf (editions : List Edition) : List (Json × GraphType) :=
  editions.foldl (fun entries edition =>
    Registry.setEntry edition.source.id edition.type entries) []

/-- The last edition that goes by the target. -/
def current? (editions : List Edition) (target : Json) : Option Edition :=
  editions.reverse.find? fun edition => Json.same edition.source.id target

theorem entriesOf_concat (editions : List Edition) (edition : Edition) :
    entriesOf (editions ++ [edition]) =
      Registry.setEntry edition.source.id edition.type (entriesOf editions) := by
  simp [entriesOf]

theorem current?_concat (editions : List Edition) (edition : Edition) (target : Json) :
    current? (editions ++ [edition]) target =
      if Json.same edition.source.id target = true then some edition
      else current? editions target := by
  rw [current?, List.reverse_append]
  cases hsame : Json.same edition.source.id target <;> simp [current?, hsame]

theorem current?_append (editions later : List Edition) (target : Json) :
    current? (editions ++ later) target =
      (current? later target).or (current? editions target) := by
  simp [current?]

theorem current?_some {editions : List Edition} {target : Json} {edition : Edition}
    (h : current? editions target = some edition) :
    edition ∈ editions ∧ Json.same edition.source.id target = true := by
  unfold current? at h
  have hsame := List.find?_some h
  exact ⟨List.mem_reverse.1 (List.mem_of_find?_eq_some h), hsame⟩

theorem current?_eq_none_iff {editions : List Edition} {target : Json} :
    current? editions target = none ↔
      ∀ edition ∈ editions, Json.same edition.source.id target = false := by
  simp [current?]

theorem isKey_of_mem_entriesOf {editions : List Edition}
    (hkeys : ∀ edition ∈ editions, edition.source.id.isKey = true) :
    ∀ entry ∈ entriesOf editions, entry.1.isKey = true := by
  induction editions using List.reverseRecOn with
  | nil => exact fun entry hentry => nomatch hentry
  | append_singleton editions edition ih =>
    rw [entriesOf_concat]
    refine Registry.isKey_of_mem_setEntry (hkeys edition (by simp)) (ih fun other hother => ?_)
    exact hkeys other (List.mem_append_left _ hother)

/-- The identifiers in use are apart. -/
theorem pairwise_entriesOf (editions : List Edition) :
    ((entriesOf editions).map Prod.fst).Pairwise fun a b => Json.same a b = false := by
  induction editions using List.reverseRecOn with
  | nil => exact .nil
  | append_singleton editions edition ih =>
    rw [entriesOf_concat]
    exact Registry.pairwise_setEntry _ _ ih

/-- **The last edition stands**: the registry has the type of the last edition of a target. -/
theorem find?_entriesOf {editions : List Edition}
    (hkeys : ∀ edition ∈ editions, edition.source.id.isKey = true) {registry : Registry}
    (hentries : registry.entries = entriesOf editions) (target : Json) :
    registry.find? target = (current? editions target).map Edition.type := by
  rw [Registry.find?, hentries]
  induction editions using List.reverseRecOn generalizing registry with
  | nil => rfl
  | append_singleton editions edition ih =>
    have hbefore : ∀ other ∈ editions, other.source.id.isKey = true :=
      fun other hother => hkeys other (List.mem_append_left _ hother)
    have hlast : edition.source.id.isKey = true := hkeys edition (by simp)
    let earlier : Registry := { entries := entriesOf editions }
    have hearlier := ih hbefore (show earlier.entries = entriesOf editions from rfl)
    rw [entriesOf_concat, current?_concat,
      Registry.find?_setEntry hlast edition.type (isKey_of_mem_entriesOf hbefore), hearlier]
    split <;> rfl

namespace Ledger

/-- The ledger with other entries. -/
def seeing (ledger : Ledger) (entries : List (Json × GraphType)) : Ledger :=
  { ledger with registry := { ledger.registry with entries } }

/-- A ledger that goes on, but for its entries, goes on if it sees the same entries. -/
theorem le_seeing {before after : Ledger}
    (hplans : ∀ plan ∈ before.registry.plans, plan ∈ after.registry.plans)
    (hplace : ∀ key place, before.place? key = some place → after.place? key = some place)
    (entries : List (Json × GraphType)) : (before.seeing entries).Le (after.seeing entries) :=
  ⟨fun _ _ h => h, hplans, hplace⟩

/-- The ledger is sound and holds the types of editions, which stand for their shapes. -/
structure Records (setting : Setting) (ledger : Ledger) (editions : List Edition) : Prop where
  sound : ledger.Sound setting
  entries : ledger.registry.entries = entriesOf editions
  isKey : ∀ edition ∈ editions, edition.source.id.isKey = true
  numbers : (editions.map Edition.number).Nodup
  stands : ∀ before edition after, editions = before ++ edition :: after →
    (ledger.seeing (entriesOf before)).Stands setting edition.place edition.source.position
      edition.source.shape edition.type

theorem empty_records (setting : Setting) : empty.Records setting [] where
  sound := empty_sound setting
  entries := rfl
  isKey _ h := nomatch h
  numbers := .nil
  stands before edition after h := by simp at h

variable {setting : Setting} {ledger : Ledger} {editions : List Edition}

theorem Records.of_le {after : Ledger} (h : ledger.Records setting editions)
    (hle : ledger.Le after) (hsound : after.Sound setting)
    (hentries : after.registry.entries = ledger.registry.entries) :
    after.Records setting editions where
  sound := hsound
  entries := hentries.trans h.entries
  isKey := h.isKey
  numbers := h.numbers
  stands before edition rest heq :=
    (h.stands before edition rest heq).mono (le_seeing hle.plans hle.place? _)

theorem Records.isKey_of_mem (h : ledger.Records setting editions) {entry : Json × GraphType}
    (hentry : entry ∈ ledger.registry.entries) : entry.1.isKey = true :=
  isKey_of_mem_entriesOf h.isKey entry (h.entries ▸ hentry)

/-- Every entry is found under its own identifier. -/
theorem Records.find?_of_mem (h : ledger.Records setting editions) {entry : Json × GraphType}
    (hentry : entry ∈ ledger.registry.entries) :
    ledger.registry.find? entry.1 = some entry.2 := by
  refine Registry.find?_of_mem ?_ hentry (Json.same_refl_of_isKey (h.isKey_of_mem hentry))
  rw [Registry.ids, h.entries]
  exact pairwise_entriesOf editions

/-- Identifiers of one measure lead to the same. -/
theorem Records.find?_congr (h : ledger.Records setting editions) {id target : Json}
    (heq : id.measure? = target.measure?) :
    ledger.registry.find? id = ledger.registry.find? target := by
  rw [Registry.find?, Registry.find?]
  refine congrArg _ (List.find?_congr fun entry hentry => ?_)
  have hkey := h.isKey_of_mem hentry
  rw [Bool.eq_iff_iff, Json.same_key_iff hkey, Json.same_key_iff hkey, heq]

/-- Entries have different measures. -/
theorem Records.nodup_measures (h : ledger.Records setting editions) :
    (ledger.registry.entries.map fun entry => entry.1.measure?).Nodup := by
  have hapart := pairwise_entriesOf editions
  rw [← h.entries, List.pairwise_map] at hapart
  rw [List.Nodup, List.pairwise_map]
  refine hapart.imp_of_mem fun {a b} ha _ hab heq => ?_
  rw [(Json.same_key_iff (h.isKey_of_mem ha)).2 heq] at hab
  cases hab

theorem Records.find? (h : ledger.Records setting editions) (target : Json) :
    ledger.registry.find? target = (current? editions target).map Edition.type :=
  find?_entriesOf h.isKey h.entries target

/-! ### One more edition -/

/-- The ledger with a type entered. -/
def entering (ledger : Ledger) (id : Json) (type : GraphType) : Ledger :=
  { ledger with registry := ledger.registry.entering id type }

/-- As long as no fields were built, entries can be replaced. -/
theorem Sound.entering (h : ledger.Sound setting) (hbuilt : ledger.registry.built = [])
    (id : Json) (type : GraphType) : (ledger.entering id type).Sound setting where
  place_lt := h.place_lt
  built_lt := h.built_lt
  setting_eq := h.setting_eq
  place_plan := h.place_plan
  plan_eq := h.plan_eq
  pending_plans := h.pending_plans
  fills plan hplan fields place hlookup := by
    rw [show (ledger.entering id type).registry.built = [] from hbuilt] at hlookup
    cases hlookup

/-- Entering a type that stands for one more document records its edition. -/
theorem Records.entering (h : ledger.Records setting editions)
    (hbuilt : ledger.registry.built = []) {edition : Edition}
    (hkey : edition.source.id.isKey = true) (hnumber : edition.number ∉ editions.map Edition.number)
    (hstands : ledger.Stands setting edition.place edition.source.position edition.source.shape
      edition.type) :
    (ledger.entering edition.source.id edition.type).Records setting (editions ++ [edition]) where
  sound := h.sound.entering hbuilt _ _
  entries := by
    rw [entriesOf_concat, ← h.entries]
    rfl
  isKey other hother := by
    rcases List.mem_append.1 hother with hother | hother
    · exact h.isKey other hother
    · rwa [List.mem_singleton.1 hother]
  numbers := by
    rw [List.map_append, List.nodup_append]
    refine ⟨h.numbers, List.nodup_singleton _, ?_⟩
    intro number hmem last hlast heq
    rw [List.map_singleton, List.mem_singleton] at hlast
    exact hnumber (hlast ▸ heq ▸ hmem)
  stands before other rest heq := by
    have hle (entries : List (Json × GraphType)) : (ledger.seeing entries).Le
        ((ledger.entering edition.source.id edition.type).seeing entries) :=
      ⟨fun _ _ hfind => hfind, fun _ hplan => hplan, fun _ _ hplace => hplace⟩
    rcases List.eq_nil_or_concat rest with rfl | ⟨rest, last, rfl⟩
    · obtain ⟨rfl, hsame⟩ := List.append_inj' heq rfl
      cases hsame
      have hnow : ledger.seeing (entriesOf editions) = ledger := by
        rw [← h.entries]
        rfl
      rw [← hnow] at hstands
      exact hstands.mono (hle _)
    · rw [List.concat_eq_append, ← List.cons_append, ← List.append_assoc] at heq
      obtain ⟨heq, -⟩ := List.append_inj' heq rfl
      exact (h.stands before other rest heq).mono (hle _)

/-- Compiling a document records its edition. -/
theorem Records.compile {config : Config} {customize? : Option Customizer} {document : Json}
    {after : Registry} (h : ledger.Records (config.setting customize?) editions)
    (hbuilt : ledger.registry.built = []) {number : Nat}
    (hnumber : number ∉ editions.map Edition.number)
    (hrun : (Build.compile config customize? document).on ledger.registry = (.ok (), after)) :
    ∃ (last : Ledger) (source : Source) (type : GraphType), last.registry = after ∧
      last.Records (config.setting customize?) (editions ++ [⟨number, source, type⟩]) ∧
      Build.Passes config document source ∧ after.built = [] := by
  obtain ⟨events, -, hsteps⟩ := Build.compile_run config customize? document ledger.registry
  rw [hrun] at hsteps
  cases haccept : config.accept ledger.registry document with
  | error fault =>
    rw [haccept] at hsteps
    cases hsteps
  | ok source =>
    simp only [haccept] at hsteps
    have hpasses := (Config.accept_ok haccept).1
    -- The remarks on the document come first.
    let noted := ledger.write (ledger.registry.journal ++ events)
    have hnoted : noted.Records (config.setting customize?) editions :=
      h.of_le (le_write ledger _) (h.sound.write _) rfl
    obtain ⟨middle, hmiddle, hle, hsound, hstands⟩ := buildType_yields hnoted.sound
      (.document (.int number)) source.position source.shape
    have hentries := Build.buildType_entries (config.setting customize?) source.position
      source.shape noted.registry
    obtain ⟨added, hextends, -⟩ := (Build.buildType_adds (config.setting customize?)
      source.position source.shape).adds noted.registry
    rcases hbuild : (Build.buildType (config.setting customize?) source.position source.shape).on
      noted.registry with ⟨fault | type, registry⟩ <;>
        rw [hbuild] at hmiddle hstands hentries hextends
    · rw [show ledger.registry.noting events = noted.registry from rfl, hbuild] at hsteps
      cases hsteps
    · rw [show ledger.registry.noting events = noted.registry from rfl, hbuild] at hsteps
      obtain rfl : middle.registry = registry := hmiddle
      have hempty : middle.registry.built = [] := hextends.built.trans hbuilt
      have hrecords := hnoted.of_le hle hsound hentries
      let edition : Edition := ⟨number, source, type⟩
      have hmade : middle.Stands (config.setting customize?) edition.place
          edition.source.position edition.source.shape edition.type := hstands type rfl
      refine ⟨middle.entering source.id type, source, type, ?_,
        hrecords.entering hempty hpasses.isKey hnumber hmade, hpasses, ?_⟩
      · cases hsteps
        rfl
      · cases hsteps
        exact hempty

/-- Compiling documents records their editions. -/
theorem Records.compile_forM {config : Config} {customize? : Option Customizer}
    {documents : List Json} {numbers : List Nat} {after : Registry}
    (h : ledger.Records (config.setting customize?) editions)
    (hbuilt : ledger.registry.built = []) (hlength : numbers.length = documents.length)
    (hnumbers : (editions.map Edition.number ++ numbers).Nodup)
    (hrun : (documents.forM (Build.compile config customize?)).on ledger.registry =
      (.ok (), after)) :
    ∃ (last : Ledger) (added : List Edition), last.registry = after ∧
      last.Records (config.setting customize?) (editions ++ added) ∧ after.built = [] ∧
      added.map Edition.number = numbers ∧
      List.Forall₂ (Build.Passes config) documents (added.map Edition.source) := by
  induction documents generalizing ledger editions numbers with
  | nil =>
    cases hrun
    obtain rfl := List.eq_nil_of_length_eq_zero hlength
    exact ⟨ledger, [], rfl, by rwa [List.append_nil], hbuilt, rfl, .nil⟩
  | cons document documents ih =>
    cases numbers with
    | nil => cases hlength
    | cons number numbers =>
      have hrun : (Build.compile config customize? document >>= fun _ =>
        documents.forM (Build.compile config customize?)).on ledger.registry =
          (.ok (), after) := hrun
      obtain ⟨_, registry, hcompile, hrest⟩ := Build.on_bind_ok hrun
      have hnumber : number ∉ editions.map Edition.number := fun hmem =>
        (List.nodup_append.1 hnumbers).2.2 number hmem number List.mem_cons_self rfl
      obtain ⟨middle, source, type, rfl, hmiddle, hpasses, hunbuilt⟩ :=
        h.compile hbuilt hnumber hcompile
      obtain ⟨last, added, rfl, hlast, hunbuilt, hadded, hsources⟩ :=
        ih hmiddle hunbuilt (Nat.succ.inj hlength) (by simpa using hnumbers) hrest
      refine ⟨last, ⟨number, source, type⟩ :: added, rfl, ?_, hunbuilt, ?_, .cons hpasses hsources⟩
      · rwa [List.append_cons]
      · rw [List.map_cons, hadded]

end Ledger

/-! ### A whole batch -/

namespace Build

/-- The editions of a batch that compiled, and nothing left to build. -/
structure Recorded (config : Config) (customize? : Option Customizer) (documents : List Json)
    (editions : List Edition) (ledger : Ledger) : Prop where
  passes : List.Forall₂ (Passes config) documents (editions.map Edition.source)
  records : ledger.Records (config.setting customize?) editions
  isBuilt : ledger.registry.IsBuilt

/-- Every document has an edition. -/
theorem Recorded.exists_edition {config : Config} {customize? : Option Customizer}
    {documents : List Json} {editions : List Edition} {ledger : Ledger}
    (h : Recorded config customize? documents editions ledger) {document : Json} {source : Source}
    (hdocument : document ∈ documents) (hsource : Source.ofJson document = .ok source) :
    ∃ edition ∈ editions, edition.source = source := by
  obtain ⟨other, hother, hpasses⟩ := forall₂_exists h.passes hdocument
  obtain ⟨edition, hedition, rfl⟩ := List.mem_map.1 hother
  have heq := hpasses.source_eq
  rw [hsource] at heq
  exact ⟨edition, hedition, (Except.ok.inj heq).symm⟩

/-- **A batch that compiles records an edition for every document**, under numbers of one's
choice. -/
theorem compileAll_records {config : Config} {customize? : Option Customizer}
    {documents : List Json} {numbers : List Nat} {after : Registry} (hnumbers : numbers.Nodup)
    (hlength : numbers.length = documents.length)
    (hrun : (compileAll config customize? documents).on .empty = (.ok (), after)) :
    ∃ editions ledger, ledger.registry = after ∧ editions.map Edition.number = numbers ∧
      Recorded config customize? documents editions ledger := by
  obtain ⟨_, middle, hcompile, hresolve⟩ := on_bind_ok hrun
  have htracks : middle.Tracks middle.pending := by
    have hempty : Registry.empty.Tracks Registry.empty.pending := fun _ hplan => nomatch hplan
    have hforM := forM_preserves (p := fun registry => registry.Tracks registry.pending)
      (compile_tracks config customize?) documents hempty
    rwa [hcompile] at hforM
  obtain ⟨ledger, editions, rfl, hrecords, -, hadded, hpasses⟩ :=
    (Ledger.empty_records (config.setting customize?)).compile_forM rfl hlength hnumbers hcompile
  have hdrain : drain 0 ledger.registry = (.ok (), after) := hresolve
  obtain ⟨last, hlast, hle, hsound⟩ := Ledger.drain_yields hrecords.sound 0
  have hentries := drain_entries 0 ledger.registry
  rw [hdrain] at hlast hentries
  obtain rfl : last.registry = after := hlast
  exact ⟨editions, last, rfl, hadded, hpasses, hrecords.of_le hle hsound hentries,
    drain_isBuilt htracks hdrain⟩

end Build
end SchemaGraph
