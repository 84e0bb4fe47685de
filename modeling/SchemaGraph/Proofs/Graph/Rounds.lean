import SchemaGraph.Proofs.Graph.Draining

/-! How long draining the queue takes.

The loop that drains the queue runs while there are plans in it, and building fields may queue
more of them. One turn of the loop (`round`) looks at the front of the queue only, and the
number of turns is not given anywhere. What bounds it is the load of the queue, the objects in
the shapes that its plans still hold: each plan counts its own object and all those below it,
so a plan whose fields are built is taken off with its object and leaves at most those below it
behind (`round_load`). References hold no objects, wherever they lead, so cycles of documents
add nothing. A shape that two plans hold counts for both of them.

So there are no more turns than there are objects, and the loop ends, after as many of them as
built fields or failed to (`resolvePending_ends`). This holds of every registry, whatever was
done to it before. -/
namespace SchemaGraph.Build

/-! ### One round -/

/-- What a turn of the loop comes to. -/
inductive Round where
  /-- The queue is empty. -/
  | idle
  /-- The first plan has its fields and is passed over. -/
  | skipped (after : Registry)
  | forced (after : Registry)
  | failed (fault : Fault) (after : Registry)

/-- A turn of the loop. -/
def round (registry : Registry) : Round :=
  match registry.pending with
  | [] => .idle
  | plan :: rest =>
    if (registry.built.lookup plan.key).isSome then .skipped (registry.queueing rest)
    else
      match (fieldsOf plan).on (registry.queueing rest) with
      | (.ok _, after) => .forced after
      | (.error fault, after) => .failed fault after

/-- The registry that a turn leaves, if it takes a plan off the queue. -/
def Round.after? : Round → Option Registry
  | idle => none
  | skipped after => some after
  | forced after => some after
  | failed _ after => some after

/-- Draining is taking turns, and counting the ones that built fields. -/
theorem drain_round (resolved : Nat) (registry : Registry) :
    drain resolved registry =
      match round registry with
      | .idle => (.ok (), registry.noting [.resolved resolved])
      | .skipped after => drain resolved after
      | .forced after => drain (resolved + 1) after
      | .failed fault after => (.error fault, after) := by
  unfold round
  cases hpending : registry.pending with
  | nil => exact drain_nil resolved hpending
  | cons plan rest =>
    rw [drain_cons resolved hpending]
    dsimp only
    split
    · rfl
    · rcases (fieldsOf plan).on (registry.queueing rest) with ⟨fault | fields, after⟩ <;> rfl

/-- **A turn leaves less load** than it found, whether it succeeds or not. -/
theorem round_load {registry after : Registry} (h : (round registry).after? = some after) :
    Registry.load after.pending < Registry.load registry.pending := by
  unfold round at h
  cases hpending : registry.pending with
  | nil =>
    rw [hpending] at h
    cases h
  | cons plan rest =>
    rw [hpending] at h
    have hbuild := load_after_fieldsOf_lt plan (registry.queueing rest)
    dsimp only at h
    split at h
    · cases h
      have := weight_pos plan
      rw [load_cons, show (registry.queueing rest).pending = rest from rfl]
      omega
    · rcases hrun : (fieldsOf plan).on (registry.queueing rest) with ⟨fault | fields, last⟩ <;>
        rw [hrun] at h <;> cases h <;> exact hbuild _ _ hrun

/-! ### All rounds -/

/-- The turns of the loop up to a registry: how many were taken, and how many built fields. -/
inductive Rounds (start : Registry) : Nat → Nat → Registry → Prop where
  | start : Rounds start 0 0 start
  | skip {taken forced registry after} (h : Rounds start taken forced registry)
      (hround : round registry = .skipped after) : Rounds start (taken + 1) forced after
  | force {taken forced registry after} (h : Rounds start taken forced registry)
      (hround : round registry = .forced after) : Rounds start (taken + 1) (forced + 1) after

/-- How the loop ends, and after building the fields of how many plans. One that fails counts. -/
inductive Ends (start : Registry) : Nat → Except Fault Unit → Registry → Prop where
  | returns {taken forced last} (h : Rounds start taken forced last)
      (hround : round last = .idle) : Ends start forced (.ok ()) (last.noting [.resolved forced])
  | fails {taken forced last fault after} (h : Rounds start taken forced last)
      (hround : round last = .failed fault after) : Ends start (forced + 1) (.error fault) after

variable {start : Registry}

/-- **Every turn is paid for** by an object that the queue no longer holds. -/
theorem Rounds.load_le {taken forced : Nat} {registry : Registry}
    (h : Rounds start taken forced registry) :
    forced ≤ taken ∧ taken + Registry.load registry.pending ≤ Registry.load start.pending := by
  induction h with
  | start => omega
  | skip _ hround ih | force _ hround ih =>
    have := round_load (congrArg Round.after? hround)
    omega

theorem Ends.load_le {forced : Nat} {result : Except Fault Unit} {after : Registry}
    (h : Ends start forced result after) : forced ≤ Registry.load start.pending := by
  cases h with
  | returns h _ =>
    have := h.load_le
    omega
  | fails h hround =>
    have := h.load_le
    have := round_load (congrArg Round.after? hround)
    omega

/-- Draining goes on from where the turns have come to. -/
theorem Rounds.drain_eq {taken forced : Nat} {registry : Registry}
    (h : Rounds start taken forced registry) : drain 0 start = drain forced registry := by
  induction h with
  | start => rfl
  | skip _ hround ih | force _ hround ih => rw [ih, drain_round, hround]

theorem Ends.drain_eq {forced : Nat} {result : Except Fault Unit} {after : Registry}
    (h : Ends start forced result after) : drain 0 start = (result, after) := by
  cases h with
  | returns h hround | fails h hround => rw [h.drain_eq, drain_round, hround]

/-- From every registry on its way the loop comes to an end. The induction is on the load. -/
theorem Rounds.exists_ends {taken forced : Nat} {registry : Registry}
    (h : Rounds start taken forced registry) : ∃ forced result after,
      Ends start forced result after := by
  induction hload : Registry.load registry.pending using Nat.strongRecOn
    generalizing taken forced registry with
  | ind load ih =>
    cases hround : round registry with
    | idle => exact ⟨_, _, _, .returns h hround⟩
    | failed fault after => exact ⟨_, _, _, .fails h hround⟩
    | skipped after =>
      exact ih _ (hload ▸ round_load (congrArg Round.after? hround)) (.skip h hround) rfl
    | forced after =>
      exact ih _ (hload ▸ round_load (congrArg Round.after? hround)) (.force h hround) rfl

/-- **Draining ends**, whatever the registry: however many turns are taken, they are no more than
there are objects in the shapes that the queue holds; there is a last turn, and draining comes
to what that one comes to; and no more fields are built than there are such objects. -/
theorem resolvePending_ends (start : Registry) :
    (∀ taken forced registry, Rounds start taken forced registry →
      taken + Registry.load registry.pending ≤ Registry.load start.pending) ∧
    (∃ forced result after, Ends start forced result after) ∧
    ∀ forced result after, Ends start forced result after →
      resolvePending.on start = (result, after) ∧ forced ≤ Registry.load start.pending :=
  ⟨fun _ _ _ h => h.load_le.2, Rounds.start.exists_ends,
    fun _ _ _ h => ⟨h.drain_eq, h.load_le⟩⟩

end SchemaGraph.Build
