import SchemaGraph.Proofs.Batch.Admission
import SchemaGraph.Proofs.Batch.Sources
import SchemaGraph.Proofs.Graph.Closure
import SchemaGraph.Proofs.Graph.Numbering

/-! One registry, many calls.

A registry outlives the calls on it, also the ones that fail (`Call`). In between, the
fields of its objects may be read. What can become of a registry that way is a `Session`.

Draining the queue takes a plan off before its fields are built, and a plan that fails is
not put back. So a drained queue does not mean that everything was built: the plans that
earlier drainings stopped at may be left (`resolve_lost`). They are the only ones. When a
call that drains the queue returns, every other plan has its fields, and has the same
fields ever after (`Session.isBuilt_or_lost`). -/
namespace SchemaGraph

/-- What a caller asks of a registry. -/
inductive Call where
  /-- The type of a schema is built and not entered. -/
  | build (setting : Setting) (name schema : Json)
  /-- A document is compiled. -/
  | add (config : Config) (customize? : Option Customizer) (document : Json)
  /-- Documents are compiled, and the queue is drained. -/
  | reduce (config : Config) (customize? : Option Customizer) (documents : List Json)
  /-- The queue is drained. -/
  | resolve

namespace Call

/-- The work of a call. -/
def work : Call → Build Unit
  | build setting name schema => do
    let _ ← Build.buildSchema setting name schema
    return
  | add config customize? document => Build.compile config customize? document
  | reduce config customize? documents => Build.compileAll config customize? documents
  | resolve => Build.resolvePending

/-- Whether a call fails, and how. -/
def outcome (call : Call) (registry : Registry) : Except Fault Unit := (call.work.on registry).1

/-- The registry after a call, whether it failed or not. -/
def after (call : Call) (registry : Registry) : Registry := (call.work.on registry).2

/-- The call is to drain the queue. -/
def drains : Call → Bool
  | reduce _ _ _ => true
  | resolve => true
  | _ => false

/-- The registry whose queue a call drains, if it comes to that. -/
def drained? (call : Call) (registry : Registry) : Option Registry :=
  match call with
  | reduce config customize? documents =>
    match (documents.forM (Build.compile config customize?)).on registry with
    | (.ok _, middle) => some middle
    | (.error _, _) => none
  | resolve => some registry
  | _ => none

/-- The call drains the queue and fails at `plan`. -/
def StopsAt (call : Call) (registry : Registry) (plan : FieldPlan) : Prop :=
  ∃ start fault, call.drained? registry = some start ∧
    Build.StopsAt start plan fault (call.after registry)

end Call

/-- What becomes of `start` by calls and by reading fields, and the plans that were drained with
no success on the way. -/
inductive Session (start : Registry) : Registry → List FieldPlan → Prop where
  | start : Session start start []
  | call {registry lost} (h : Session start registry lost) (call : Call)
      (hgoes : ∀ plan, ¬ call.StopsAt registry plan) : Session start (call.after registry) lost
  | stop {registry lost plan} (h : Session start registry lost) (call : Call)
      (hstops : call.StopsAt registry plan) : Session start (call.after registry) (plan :: lost)
  | read {registry lost plan} (h : Session start registry lost) (info : TypeInfo)
      (hplan : plan ∈ registry.plans) :
      Session start ((Build.readFields info plan).on registry).2 lost

/-! ### What a call does -/

namespace Call

variable {p : Registry → Prop} {registry start : Registry}

theorem after_build (setting : Setting) (name schema : Json) (registry : Registry) :
    (build setting name schema).after registry =
      ((Build.buildSchema setting name schema).on registry).2 := by
  rw [after, work, Build.on_bind]
  rcases (Build.buildSchema setting name schema).on registry with ⟨fault | type, middle⟩ <;> rfl

/-- A call that comes to draining the queue does nothing else from there on. -/
theorem work_of_drained {call : Call} (h : call.drained? registry = some start) :
    call.work.on registry = Build.drain 0 start := by
  cases call with
  | build => cases h
  | add => cases h
  | resolve =>
    cases h
    rfl
  | reduce config customize? documents =>
    rw [drained?] at h
    split at h <;> rename_i hdocuments <;> cases h
    rw [work, Build.compileAll, Build.on_bind, hdocuments]
    rfl

/-- A call that is to drain the queue comes to that unless it fails before. -/
theorem exists_drained {call : Call} (hdrains : call.drains = true)
    (hok : call.outcome registry = .ok ()) : ∃ start, call.drained? registry = some start := by
  cases call with
  | build => cases hdrains
  | add => cases hdrains
  | resolve => exact ⟨registry, rfl⟩
  | reduce config customize? documents =>
    rw [outcome, work, Build.compileAll, Build.on_bind] at hok
    rw [drained?]
    rcases hrun : (documents.forM (Build.compile config customize?)).on registry with
      ⟨fault | value, middle⟩ <;> rw [hrun] at hok
    · cases hok
    · exact ⟨middle, rfl⟩

/-- A call that returned did not stop at a plan. -/
theorem not_stopsAt {call : Call} {plan : FieldPlan} (hok : call.outcome registry = .ok ()) :
    ¬ call.StopsAt registry plan := by
  rintro ⟨start, fault, hstart, hstops⟩
  rw [outcome, work_of_drained hstart, hstops.drain_eq 0] at hok
  cases hok

/-- What compiling preserves holds when the queue is drained. -/
theorem drained_preserves {call : Call}
    (hadd : ∀ config customize? document registry, p registry →
      p ((Build.compile config customize? document).on registry).2)
    (hdrained : call.drained? registry = some start) (h : p registry) : p start := by
  cases call with
  | build => cases hdrained
  | add => cases hdrained
  | resolve =>
    cases hdrained
    exact h
  | reduce config customize? documents =>
    have hforM := Build.forM_preserves (hadd config customize?) documents h
    rw [drained?] at hdrained
    split at hdrained <;> rename_i hdocuments <;> cases hdrained
    rwa [hdocuments] at hforM

/-- What building and compiling preserve, a call preserves that does not come to draining. -/
theorem undrained_preserves {call : Call}
    (hbuild : ∀ setting name schema registry, p registry →
      p ((Build.buildSchema setting name schema).on registry).2)
    (hadd : ∀ config customize? document registry, p registry →
      p ((Build.compile config customize? document).on registry).2)
    (hdrained : call.drained? registry = none) (h : p registry) : p (call.after registry) := by
  cases call with
  | build setting name schema =>
    rw [after_build]
    exact hbuild setting name schema registry h
  | add config customize? document => exact hadd config customize? document registry h
  | resolve => cases hdrained
  | reduce config customize? documents =>
    have hforM := Build.forM_preserves (hadd config customize?) documents h
    rw [after, work, Build.compileAll, Build.on_bind]
    rw [drained?] at hdrained
    split at hdrained <;> rename_i hdocuments
    · cases hdrained
    · rwa [hdocuments] at hforM ⊢

/-- What building, compiling and draining preserve, every call preserves. -/
theorem after_preserves
    (hbuild : ∀ setting name schema registry, p registry →
      p ((Build.buildSchema setting name schema).on registry).2)
    (hadd : ∀ config customize? document registry, p registry →
      p ((Build.compile config customize? document).on registry).2)
    (hdrain : ∀ registry, p registry → p (Build.drain 0 registry).2) (call : Call)
    (h : p registry) : p (call.after registry) := by
  cases hdrained : call.drained? registry with
  | some start =>
    rw [after, work_of_drained hdrained]
    exact hdrain start (drained_preserves hadd hdrained h)
  | none => exact undrained_preserves hbuild hadd hdrained h

end Call

theorem Build.readFields_after (info : TypeInfo) (plan : FieldPlan) (registry : Registry) :
    ((readFields info plan).on registry).2 =
      match info.fields? with
      | some _ => registry
      | none => ((fieldsOf plan).on registry).2 := by
  rw [readFields_on]
  cases info.fields? with
  | some given => rfl
  | none => rcases (fieldsOf plan).on registry with ⟨fault | fields, after⟩ <;> rfl

/-- What building, compiling, draining and building the fields of a plan preserve holds for a
whole session. -/
theorem Session.preserves {p : Registry → Prop} {start registry : Registry}
    {lost : List FieldPlan} (h : Session start registry lost)
    (hbuild : ∀ setting name schema registry, p registry →
      p ((Build.buildSchema setting name schema).on registry).2)
    (hadd : ∀ config customize? document registry, p registry →
      p ((Build.compile config customize? document).on registry).2)
    (hdrain : ∀ registry, p registry → p (Build.drain 0 registry).2)
    (hread : ∀ registry plan, plan ∈ registry.plans → p registry →
      p ((Build.fieldsOf plan).on registry).2) (hstart : p start) : p registry := by
  induction h with
  | start => exact hstart
  | call _ call _ ih => exact call.after_preserves hbuild hadd hdrain ih
  | stop _ call _ ih => exact call.after_preserves hbuild hadd hdrain ih
  | @read registry lost plan _ info hplan ih =>
    rw [Build.readFields_after]
    cases info.fields? with
    | some given => exact ih
    | none => exact hread registry plan hplan ih

namespace Registry

theorem of_mem_setEntry {α : Type} {id : Json} {value : α} {entries : List (Json × α)}
    {entry : Json × α} (h : entry ∈ setEntry id value entries) :
    entry ∈ entries ∨ entry.2 = value := by
  induction entries with
  | nil =>
    rw [setEntry, List.mem_singleton] at h
    exact .inr (congrArg Prod.snd h)
  | cons head rest ih =>
    rw [setEntry] at h
    split at h
    · rcases List.mem_cons.1 h with rfl | h
      · exact .inr rfl
      · exact .inl (List.mem_cons_of_mem _ h)
    · rcases List.mem_cons.1 h with rfl | h
      · exact .inl List.mem_cons_self
      · exact (ih h).imp_left (List.mem_cons_of_mem _)

theorem IsClosed.entering {registry : Registry} {type : GraphType} (h : registry.IsClosed)
    (id : Json) (htype : type.PlansIn registry.plans) : (registry.entering id type).IsClosed where
  entries entry hentry := by
    rcases of_mem_setEntry hentry with hentry | hentry
    · exact h.entries entry hentry
    · rw [hentry]
      exact htype
  built := h.built
  pending := h.pending

end Registry

namespace Build

theorem buildSchema_numbers (setting : Setting) (name schema : Json) :
    Numbers (buildSchema setting name schema) := by
  refine .bind (.of_adds (.of_extends fun registry => .refl registry)) fun shape => ?_
  refine .bind (.of_adds (.of_extends fun registry => .refl registry)) fun position => ?_
  exact buildType_numbers setting position shape

/-- Compiling keeps a registry closed, whether it succeeds or not. -/
theorem compile_isClosed (config : Config) (customize? : Option Customizer) (document : Json)
    {registry : Registry} (h : registry.IsClosed) :
    ((compile config customize? document).on registry).2.IsClosed := by
  refine compile_preserves (fun _ events h => h.noting events) ?_ ?_ document h
  · intro position shape registry h
    obtain ⟨_, hextends, -⟩ :=
      (buildType_adds (config.setting customize?) position shape).adds registry
    exact h.grow hextends
  · intro position shape registry after type id _ h hbuild hafter
    exact hafter.entering id (buildType_plansIn h hbuild)

/-- Compiling keeps the plans numbered, whether it succeeds or not. -/
theorem compile_isNumbered (config : Config) (customize? : Option Customizer) (document : Json)
    {registry : Registry} (h : registry.IsNumbered) :
    ((compile config customize? document).on registry).2.IsNumbered := by
  refine compile_preserves (fun _ events h => h.noting events) ?_ ?_ document h
  · intro position shape registry h
    obtain ⟨_, hadded⟩ :=
      (buildType_numbers (config.setting customize?) position shape).adds registry
    exact h.grow hadded
  · intro position shape registry after type id _ _ _ hafter
    exact ⟨hafter.distinct, hafter.lt, hafter.queue, hafter.built, hafter.once⟩

end Build

theorem Session.isClosed {start registry : Registry} {lost : List FieldPlan}
    (h : Session start registry lost) (hstart : start.IsClosed) : registry.IsClosed := by
  refine h.preserves ?_ ?_ ?_ ?_ hstart
  · intro setting name schema registry h
    obtain ⟨_, hadded⟩ := (Build.buildSchema_numbers setting name schema).adds registry
    exact h.grow hadded.toExtends
  · exact fun config customize? document _ h => Build.compile_isClosed config customize? document h
  · exact fun _ h => Build.drain_isClosed 0 h
  · exact fun _ plan _ h => Build.fieldsOf_isClosed plan h

theorem Session.isNumbered {start registry : Registry} {lost : List FieldPlan}
    (h : Session start registry lost) (hstart : start.IsNumbered) : registry.IsNumbered := by
  refine h.preserves ?_ ?_ ?_ ?_ hstart
  · intro setting name schema registry h
    obtain ⟨_, hadded⟩ := (Build.buildSchema_numbers setting name schema).adds registry
    exact h.grow hadded
  · exact fun config customize? document _ h =>
      Build.compile_isNumbered config customize? document h
  · exact fun _ h => Build.drain_isNumbered 0 h
  · exact fun _ _ hplan h => Build.fieldsOf_isNumbered h hplan

/-! ### Fields that stay -/

namespace Registry

/-- The fields of every plan that had them are the same. -/
def Keeps (before after : Registry) : Prop :=
  ∀ key fields, before.built.lookup key = some fields → after.built.lookup key = some fields

theorem Keeps.trans {first second third : Registry} (h : first.Keeps second)
    (h' : second.Keeps third) : first.Keeps third :=
  fun key fields hbuilt => h' key fields (h key fields hbuilt)

theorem Keeps.of_built {before after : Registry} (h : after.built = before.built) :
    before.Keeps after := by
  intro key fields hbuilt
  rwa [h]

theorem Keeps.isSome {before after : Registry} (h : before.Keeps after) (key : Nat)
    (hbuilt : (before.built.lookup key).isSome) : (after.built.lookup key).isSome := by
  obtain ⟨fields, hfields⟩ := Option.isSome_iff_exists.1 hbuilt
  rw [h key fields hfields]
  rfl

end Registry

namespace Build

/-- Fields that are there are not built again. -/
theorem fieldsOf_keeps (plan : FieldPlan) (registry : Registry) :
    registry.Keeps ((fieldsOf plan).on registry).2 := by
  intro key found hfound
  rw [fieldsOf_on]
  split
  · exact hfound
  · rename_i hunbuilt
    obtain ⟨_, hextends, -⟩ := (buildPlan_adds plan).adds registry
    rcases hrun : (buildPlan plan).on registry with ⟨fault | fields, after⟩ <;>
      rw [hrun] at hextends
    · rw [hextends.built]
      exact hfound
    · have hother : (key == plan.key) = false := by
        rw [beq_eq_false_iff_ne]
        rintro rfl
        rw [hunbuilt] at hfound
        cases hfound
      show List.lookup key ((plan.key, fields) :: after.built) = some found
      rw [List.lookup_cons, hother, show after.built = registry.built from hextends.built]
      exact hfound

theorem drain_keeps (resolved : Nat) (registry : Registry) :
    registry.Keeps (drain resolved registry).2 :=
  drain_preserves (p := registry.Keeps) (fun _ _ h => h) (fun _ _ _ _ h => h)
    (fun middle plan rest _ h => h.trans (fieldsOf_keeps plan (middle.queueing rest))) resolved
    fun _ _ h => h

theorem compile_keeps (config : Config) (customize? : Option Customizer) (document : Json)
    (registry : Registry) :
    registry.Keeps ((compile config customize? document).on registry).2 :=
  let ⟨_, _, _, hbuilt, _⟩ := compile_adds config customize? document registry
  .of_built hbuilt

end Build

/-- Fields stay as they are for the rest of a session. -/
theorem Session.keeps {start registry : Registry} {lost : List FieldPlan}
    (h : Session start registry lost) : start.Keeps registry := by
  refine h.preserves ?_ ?_ ?_ ?_ fun _ _ hbuilt => hbuilt
  · intro setting name schema registry h
    obtain ⟨_, hadded⟩ := (Build.buildSchema_numbers setting name schema).adds registry
    exact h.trans (.of_built hadded.built)
  · exact fun config customize? document middle h =>
      h.trans (Build.compile_keeps config customize? document middle)
  · exact fun middle h => h.trans (Build.drain_keeps 0 middle)
  · exact fun middle plan _ h => h.trans (Build.fieldsOf_keeps plan middle)

/-! ### Plans that are remembered -/

namespace Registry

theorem Tracks.mono {registry : Registry} {plans more : List FieldPlan}
    (h : registry.Tracks plans) (hmore : ∀ plan ∈ plans, plan ∈ more) : registry.Tracks more :=
  fun plan hplan => (h plan hplan).imp_left (hmore plan)

/-- Plans that are queued behind the others are tracked with them. -/
theorem Tracks.grow {before after : Registry} {added lost : List FieldPlan}
    (h : before.Tracks (before.pending ++ lost)) (hplans : after.plans = before.plans ++ added)
    (hpending : after.pending = before.pending ++ added) (hkeeps : before.Keeps after) :
    after.Tracks (after.pending ++ lost) := by
  refine (h.append hplans hkeeps.isSome).mono fun plan hplan => ?_
  rw [hpending]
  simp only [List.mem_append] at hplan ⊢
  tauto

theorem Tracks.extends {before after : Registry} {added lost : List FieldPlan}
    (h : before.Tracks (before.pending ++ lost)) (hextends : before.Extends added after) :
    after.Tracks (after.pending ++ lost) :=
  h.grow hextends.plans hextends.pending (.of_built hextends.built)

end Registry

namespace Build

variable {start registry : Registry} {lost : List FieldPlan}

/-- No plan is lost while the queue is drained with success. -/
theorem Draining.tracks (h : Draining start registry)
    (hstart : start.Tracks (start.pending ++ lost)) :
    registry.Tracks (registry.pending ++ lost) := by
  induction h with
  | start => exact hstart
  | @skip registry plan rest _ hpending hbuilt ih =>
    rw [hpending, List.cons_append] at ih
    exact ih.tail hbuilt
  | @build registry plan rest fields after _ hpending hrun ih =>
    obtain ⟨added, hqueue, hplans, -⟩ := fieldsOf_queues plan (registry.queueing rest)
    rw [hrun] at hqueue hplans
    rw [hpending, List.cons_append] at ih
    have hpopped : (registry.queueing rest).Tracks (plan :: (rest ++ lost)) := ih
    refine (hpopped.of_fieldsOf hrun hplans).mono fun other hother => ?_
    rw [show after.pending = rest ++ added from hqueue]
    simp only [List.mem_append] at hother ⊢
    tauto

/-- A plan that fails while the queue is drained is the only one that is lost. -/
theorem StopsAt.tracks {plan : FieldPlan} {fault : Fault} {after : Registry}
    (h : StopsAt start plan fault after) (hstart : start.Tracks (start.pending ++ lost)) :
    after.Tracks (after.pending ++ plan :: lost) := by
  obtain ⟨registry, rest, hdraining, hpending, hrun⟩ := h
  have htracks := hdraining.tracks hstart
  rw [hpending, List.cons_append] at htracks
  have hpopped : (registry.queueing rest).Tracks
      ((registry.queueing rest).pending ++ plan :: lost) :=
    htracks.mono fun other hother => by
      simp only [List.mem_cons, List.mem_append, Registry.queueing] at hother ⊢
      tauto
  obtain ⟨added, hqueue, hplans, -⟩ := fieldsOf_queues plan (registry.queueing rest)
  have hkeeps := fieldsOf_keeps plan (registry.queueing rest)
  rw [hrun] at hqueue hplans hkeeps
  exact hpopped.grow hplans hqueue hkeeps

end Build

/-- Nothing else is lost: every plan has its fields, is queued, or was drained with no
success. -/
theorem Session.tracks {start registry : Registry} {lost : List FieldPlan}
    (h : Session start registry lost) (hstart : start.Tracks start.pending) :
    registry.Tracks (registry.pending ++ lost) := by
  have hadd (lost : List FieldPlan) (config : Config) (customize? : Option Customizer)
      (document : Json) (registry : Registry) (h : registry.Tracks (registry.pending ++ lost)) :
      let after := ((Build.compile config customize? document).on registry).2
      after.Tracks (after.pending ++ lost) :=
    let ⟨_, hpending, hplans, hbuilt, _⟩ :=
      Build.compile_adds config customize? document registry
    h.grow hplans hpending (.of_built hbuilt)
  induction h with
  | start => rwa [List.append_nil]
  | @call registry lost _ call hgoes ih =>
    cases hdrained : call.drained? registry with
    | none =>
      refine Call.undrained_preserves (fun setting name schema registry h => ?_) (hadd lost)
        hdrained ih
      obtain ⟨_, hadded⟩ := (Build.buildSchema_numbers setting name schema).adds registry
      exact h.extends hadded.toExtends
    | some middle =>
      have hmiddle := Call.drained_preserves (hadd lost) hdrained ih
      have hwork := Call.work_of_drained hdrained
      rcases Build.drain_run 0 (.start : Build.Draining middle middle) with
        ⟨last, plans, hlast, -, hrun⟩ | ⟨plan, fault, after, hstops, hrun⟩
      · rw [Call.after, hwork, hrun]
        exact hlast.tracks hmiddle
      · refine absurd ⟨middle, fault, hdrained, ?_⟩ (hgoes plan)
        rwa [Call.after, hwork, hrun]
  | stop _ call hstops ih =>
    obtain ⟨middle, fault, hdrained, hstops⟩ := hstops
    exact hstops.tracks (Call.drained_preserves (hadd _) hdrained ih)
  | @read registry lost plan _ info _ ih =>
    rw [Build.readFields_after]
    cases info.fields? with
    | some given => exact ih
    | none =>
      obtain ⟨added, hpending, hplans, -⟩ := Build.fieldsOf_queues plan registry
      exact ih.grow hplans hpending (Build.fieldsOf_keeps plan registry)

/-! ### A drained queue -/

/-- What a reader of an object finds whose fields are there. -/
def TypeInfo.reads (info : TypeInfo) (fields : FieldMap) : Except Fault (List Field) :=
  match info.fields? with
  | some given => givenFields given
  | none => fields.checked

theorem Build.readFields_of_built {info : TypeInfo} {plan : FieldPlan} {fields : FieldMap}
    {registry : Registry} (hbuilt : registry.built.lookup plan.key = some fields) :
    (readFields info plan).on registry = (info.reads fields, registry) := by
  rw [readFields_on, fieldsOf_on, hbuilt, TypeInfo.reads]
  cases info.fields? <;> rfl

/-- **A call that drained the queue** leaves no plan without its fields, but for the ones that
earlier drainings stopped at, and the fields are the same for the rest of the session. So
reading the fields of an object builds nothing from there on. -/
theorem Session.isBuilt_or_lost {registry : Registry} {lost : List FieldPlan} (call : Call)
    (h : Session .empty registry lost) (hdrains : call.drains = true)
    (hok : call.outcome registry = .ok ()) :
    (call.after registry).pending = [] ∧
    (∀ info plan, (call.after registry).Reaches (.object info plan) →
      plan ∈ (call.after registry).plans) ∧
    ∀ plan ∈ (call.after registry).plans, plan ∈ lost ∨
      ∃ fields, (call.after registry).built.lookup plan.key = some fields ∧
        ∀ later more, Session (call.after registry) later more → ∀ info,
          (Build.readFields info plan).on later = (info.reads fields, later) := by
  obtain ⟨middle, hmiddle⟩ := Call.exists_drained hdrains hok
  have hwork := Call.work_of_drained hmiddle
  -- The call returned, so its draining came to an empty queue.
  obtain ⟨last, plans, hlast, hpending, hrun⟩ : ∃ last plans, Build.Draining middle last ∧
      last.pending = [] ∧ Build.drain 0 middle = (.ok (), last.noting [.resolved plans]) := by
    refine (Build.drain_run 0 .start).resolve_right ?_
    rintro ⟨plan, fault, after, -, hrun⟩
    rw [Call.outcome, hwork, hrun] at hok
    cases hok
  have hafter : call.after registry = last.noting [.resolved plans] := by
    rw [Call.after, hwork, hrun]
  have hsession : Session .empty (call.after registry) lost :=
    h.call call fun _ => Call.not_stopsAt hok
  have htracks := hsession.tracks fun _ hplan => nomatch hplan
  have hempty : (call.after registry).pending = [] := by
    rw [hafter]
    exact hpending
  refine ⟨hempty, fun info plan => (hsession.isClosed Registry.isClosed_empty).plan_mem, ?_⟩
  intro plan hplan
  rw [hempty, List.nil_append] at htracks
  refine (htracks plan hplan).imp_right fun hbuilt => ?_
  obtain ⟨fields, hfields⟩ := Option.isSome_iff_exists.1 hbuilt
  exact ⟨fields, hfields, fun later more hlater info =>
    Build.readFields_of_built (hlater.keeps _ _ hfields)⟩

/-! ### An example -/

/-- Every sequence of calls makes up a session. -/
theorem Session.exists_call {start registry : Registry} {lost : List FieldPlan}
    (h : Session start registry lost) (call : Call) :
    ∃ more, Session start (call.after registry) more := by
  by_cases hstops : ∃ plan, call.StopsAt registry plan
  · obtain ⟨plan, hstops⟩ := hstops
    exact ⟨plan :: lost, h.stop call hstops⟩
  · exact ⟨lost, h.call call fun plan hplan => hstops ⟨plan, hplan⟩⟩

/-- Adding a document does not drain the queue. -/
theorem Session.add {start registry : Registry} {lost : List FieldPlan}
    (h : Session start registry lost) (config : Config) (customize? : Option Customizer)
    (document : Json) : Session start ((Call.add config customize? document).after registry) lost :=
  h.call _ fun _ ⟨_, _, hdrained, _⟩ => nomatch hdrained

namespace Call

/-- An object with a property that refers to a second document. -/
def addReferring : Call :=
  .add { checkMode := .off } none (.obj [("$id", .str "A"), ("type", .str "object"),
    ("properties", .obj [("b", .obj [("$ref", .str "B")])])])

/-- The second document. -/
def addTarget : Call :=
  .add { checkMode := .off } none (.obj [("$id", .str "B"), ("type", .str "object")])

end Call

/-- With both documents there, both objects have their fields after draining, for good. -/
theorem isBuilt_after_both :
    let registry := Call.addTarget.after (Call.addReferring.after .empty)
    Session .empty registry [] ∧ Call.resolve.outcome registry = .ok () ∧
      (Call.resolve.after registry).plans.length = 2 ∧
      ∀ plan ∈ (Call.resolve.after registry).plans, ∃ fields,
        (Call.resolve.after registry).built.lookup plan.key = some fields ∧
        ∀ later more, Session (Call.resolve.after registry) later more → ∀ info,
          (Build.readFields info plan).on later = (info.reads fields, later) := by
  intro registry
  have hsession : Session .empty registry [] := (Session.start.add ..).add ..
  have hok : Call.resolve.outcome registry = .ok () :=
    congrArg Prod.fst (Build.on_eq_of_isOk (by decide +kernel))
  obtain ⟨-, -, hplans⟩ := hsession.isBuilt_or_lost .resolve rfl hok
  refine ⟨hsession, hok, by decide +kernel, fun plan hplan => ?_⟩
  exact (hplans plan hplan).resolve_left List.not_mem_nil

/-- A plan that failed is lost: the second draining has nothing left to do, although the object
has no fields and cannot be read. -/
theorem resolve_lost : ∃ registry lost, Session .empty registry lost ∧
    Call.resolve.outcome registry = .ok () ∧ (Call.resolve.after registry).pending = [] ∧
    ∃ info plan, (Call.resolve.after registry).Reaches (.object info plan) ∧
      (Call.resolve.after registry).built.lookup plan.key = none ∧
      ((Build.readFields info plan).on (Call.resolve.after registry)).1.isOk = false := by
  let added := Call.addReferring.after .empty
  let registry := Call.resolve.after added
  obtain ⟨lost, hsession⟩ : ∃ lost, Session .empty registry lost :=
    (Session.start.add ..).exists_call .resolve
  have hok : Call.resolve.outcome registry = .ok () :=
    congrArg Prod.fst (Build.on_eq_of_isOk (by decide +kernel))
  have hempty : (Call.resolve.after registry).pending.isEmpty = true := by decide +kernel
  have hread : ((Call.resolve.after registry).object? (.str "A")).any (fun object =>
      ((Call.resolve.after registry).built.lookup object.2.key).isNone &&
        !((Build.readFields object.1 object.2).on (Call.resolve.after registry)).1.isOk) =
      true := by
    decide +kernel
  refine ⟨registry, lost, hsession, hok, List.isEmpty_iff.1 hempty, ?_⟩
  obtain ⟨object, hobject, hread⟩ := (Option.any_eq_true _ _).1 hread
  rw [Bool.and_eq_true, Option.isNone_iff_eq_none, Bool.not_eq_true'] at hread
  exact ⟨object.1, object.2, .entry (Registry.find?_of_object? hobject), hread⟩

end SchemaGraph
