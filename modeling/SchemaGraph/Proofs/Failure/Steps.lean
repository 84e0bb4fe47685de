import Mathlib.Data.List.Forall2

/-! Going step by step.

Work that can fail gives a result just if each of its steps does, and its fault is that of
one of its steps: for two steps one after the other, and for a step on each item of a list. -/
namespace SchemaGraph

variable {ε α β : Type}

/-! ### Two steps -/

theorem ok_bind (value : α) (next : α → Except ε β) :
    (Except.ok value >>= next) = next value := rfl

/-- What succeeded in two steps did so in both. -/
theorem bind_ok {first : Except ε α} {next : α → Except ε β} {result : β}
    (h : first >>= next = .ok result) : ∃ value, first = .ok value ∧ next value = .ok result := by
  cases first with
  | error fault => cases h
  | ok value => exact ⟨value, rfl, h⟩

theorem bind_error {first : Except ε α} {next : α → Except ε β}
    {fault : ε} (h : (first >>= next) = .error fault) :
    first = .error fault ∨ ∃ value, first = .ok value ∧ next value = .error fault := by
  cases first with
  | error other =>
    cases h
    exact .inl rfl
  | ok value => exact .inr ⟨value, rfl, h⟩

/-- A fault told in other words is a fault still. -/
theorem mapError_ok_iff {ε' : Type} {result : Except ε α} {reword : ε → ε'} {value : α} :
    result.mapError reword = .ok value ↔ result = .ok value := by
  cases result with
  | error fault => exact ⟨nofun, nofun⟩
  | ok found => exact ⟨fun h => congrArg _ (Except.ok.inj h), fun h => congrArg _ (Except.ok.inj h)⟩

/-! ### A step for each item -/

theorem foldlM_error {step : β → α → Except ε β} {items : List α} {start : β}
    {fault : ε} (h : items.foldlM step start = .error fault) :
    ∃ item ∈ items, ∃ value, step value item = .error fault := by
  induction items generalizing start with
  | nil => cases h
  | cons item items ih =>
    rw [List.foldlM_cons] at h
    rcases bind_error h with hstep | ⟨value, -, hrest⟩
    · exact ⟨item, List.mem_cons_self, start, hstep⟩
    · obtain ⟨other, hother, hfault⟩ := ih hrest
      exact ⟨other, List.mem_cons_of_mem _ hother, hfault⟩

theorem foldlM_preserves {p : β → Prop} {step : β → α → Except ε β}
    {items : List α} (hstep : ∀ item ∈ items, ∀ value next, p value →
      step value item = .ok next → p next) {start result : β} (hstart : p start)
    (h : items.foldlM step start = .ok result) : p result := by
  induction items generalizing start with
  | nil =>
    cases h
    exact hstart
  | cons item items ih =>
    rw [List.foldlM_cons] at h
    obtain ⟨next, hnext, hrest⟩ := bind_ok h
    refine ih (fun other hother => hstep other (List.mem_cons_of_mem _ hother)) ?_ hrest
    exact hstep item List.mem_cons_self start next hstart hnext

theorem mapM_error {step : α → Except ε β} {items : List α} {fault : ε}
    (h : items.mapM step = .error fault) : ∃ item ∈ items, step item = .error fault := by
  induction items with
  | nil => cases h
  | cons item items ih =>
    rw [List.mapM_cons] at h
    rcases bind_error h with hstep | ⟨value, -, hrest⟩
    · exact ⟨item, List.mem_cons_self, hstep⟩
    · rcases bind_error hrest with hrest | ⟨values, -, hvalues⟩
      · obtain ⟨other, hother, hfault⟩ := ih hrest
        exact ⟨other, List.mem_cons_of_mem _ hother, hfault⟩
      · cases hvalues

theorem mapM_mem {step : α → Except ε β} {items : List α} {values : List β}
    (h : items.mapM step = .ok values) :
    ∀ value ∈ values, ∃ item ∈ items, step item = .ok value := by
  induction items generalizing values with
  | nil =>
    cases h
    exact fun _ hvalue => nomatch hvalue
  | cons item items ih =>
    rw [List.mapM_cons] at h
    obtain ⟨first, hfirst, h⟩ := bind_ok h
    obtain ⟨others, hothers, h⟩ := bind_ok h
    cases h
    intro value hvalue
    rcases List.mem_cons.1 hvalue with rfl | hvalue
    · exact ⟨item, List.mem_cons_self, hfirst⟩
    · obtain ⟨other, hother, hstep⟩ := ih hothers value hvalue
      exact ⟨other, List.mem_cons_of_mem _ hother, hstep⟩

theorem forall₂_exists {r : α → β → Prop} {as : List α} {bs : List β} {a : α}
    (h : List.Forall₂ r as bs) (ha : a ∈ as) : ∃ b ∈ bs, r a b := by
  induction h with
  | nil => cases ha
  | cons hhead _ ih =>
    rcases List.mem_cons.1 ha with rfl | ha
    · exact ⟨_, List.mem_cons_self, hhead⟩
    · obtain ⟨b, hb, hab⟩ := ih ha
      exact ⟨b, List.mem_cons_of_mem _ hb, hab⟩

/-- Going through a list gives a value for each item. -/
theorem mapM_ok_iff {step : α → Except ε β} {items : List α} {values : List β} :
    items.mapM step = .ok values ↔
      List.Forall₂ (fun item value => step item = .ok value) items values := by
  induction items generalizing values with
  | nil => cases values <;> simp [pure, Except.pure]
  | cons item items ih =>
    rw [List.mapM_cons]
    constructor
    · intro h
      obtain ⟨first, hfirst, h⟩ := bind_ok h
      obtain ⟨others, hothers, h⟩ := bind_ok h
      cases h
      exact .cons hfirst (ih.1 hothers)
    · rintro (_ | ⟨hfirst, hothers⟩)
      rw [hfirst, ih.2 hothers]
      rfl

theorem mapM_ok_mono {first second : α → Except ε β} {items : List α} {values : List β}
    (h : ∀ item value, first item = .ok value → second item = .ok value)
    (hfirst : items.mapM first = .ok values) : items.mapM second = .ok values :=
  mapM_ok_iff.2 ((mapM_ok_iff.1 hfirst).imp h)

end SchemaGraph
