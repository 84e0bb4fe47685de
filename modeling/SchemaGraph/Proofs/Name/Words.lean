import Mathlib.Data.List.TakeWhile
import SchemaGraph.Proofs.Name.Camel

/-! Words, one after another.

A name is written in one pass that looks at the neighbours of every character. The words
themselves are what a scanner finds that reads a text from the left (`scan`): as many
capitals as do not run into a small letter, or else small letters, with a capital in front
of them or not, or else digits; a character that starts none of these is skipped.

A word is a run of one kind of character and ends where the kind does. So none of the
characters inside starts a word, and the one behind it does (`IsWordKind`), and the word
and the rest are converted apart (`SplitsAt`). Hence a name is its words, capitalized and
joined (`typeName_eq_scan`). -/
namespace SchemaGraph.Name

/-- The longest length that fits, if one does that is not zero. -/
def longest? (fits : Nat → Bool) : Nat → Option Nat
  | 0 => none
  | n + 1 => if fits (n + 1) then some (n + 1) else longest? fits n

/-- The length of the capitals in front, no small letter right behind them. -/
def capitals? (text : List Char) : Option Nat :=
  longest? (fun n => !(text.drop n).head?.any Char.isLower) (text.takeWhile Char.isUpper).length

/-- The length of the characters of one kind in front. -/
def run? (kind : Char → Bool) (text : List Char) : Option Nat :=
  longest? (fun _ => true) (text.takeWhile kind).length

/-- The length of the small letters in front, with a capital before them or not. -/
def small? : List Char → Option Nat
  | [] => none
  | c :: rest =>
    if c.isUpper then (run? Char.isLower rest).map (· + 1) else run? Char.isLower (c :: rest)

/-- The length of the word in front. -/
def leading? (text : List Char) : Option Nat :=
  (capitals? text).or ((small? text).or (run? Char.isDigit text))

/-- The words of a text. -/
def scan : List Char → List (List Char)
  | [] => []
  | c :: rest => match leading? (c :: rest) with
    | some n => (c :: rest).take n :: scan (rest.drop (n - 1))
    | none => scan rest
  termination_by text => text.length
  decreasing_by all_goals simp only [List.length_cons, List.length_drop]; omega

/-- A word with its first letter large and the others small. -/
def capitalize : List Char → List Char
  | [] => []
  | c :: rest => c.toUpper :: rest.map Char.toLower

/-! ### The longest length -/

theorem longest?_eq_some {fits : Nat → Bool} {bound n : Nat} (h : longest? fits bound = some n) :
    0 < n ∧ n ≤ bound ∧ fits n = true ∧ ∀ m, n < m → m ≤ bound → fits m = false := by
  induction bound with
  | zero => cases h
  | succ bound ih =>
    rw [longest?] at h
    split at h
    · rename_i hfits
      cases h
      exact ⟨by omega, le_rfl, hfits, fun m _ _ => by omega⟩
    · rename_i hfits
      obtain ⟨hpos, hle, hn, hlonger⟩ := ih h
      refine ⟨hpos, by omega, hn, fun m hm hbound => ?_⟩
      rcases Nat.le_succ_iff.1 hbound with hbound | rfl
      · exact hlonger m hm hbound
      · exact Bool.eq_false_iff.2 hfits

theorem longest?_eq_none {fits : Nat → Bool} {bound : Nat} (h : longest? fits bound = none)
    {n : Nat} (hpos : 0 < n) (hle : n ≤ bound) : fits n = false := by
  induction bound with
  | zero => omega
  | succ bound ih =>
    rw [longest?] at h
    split at h
    · cases h
    · rename_i hfits
      rcases Nat.le_succ_iff.1 hle with hle | rfl
      · exact ih h hle
      · exact Bool.eq_false_iff.2 hfits

theorem run?_eq_some {kind : Char → Bool} {text : List Char} {n : Nat}
    (h : run? kind text = some n) :
    0 < n ∧ text.take n = text.takeWhile kind ∧ text.drop n = text.dropWhile kind := by
  obtain ⟨hpos, hle, -, hlonger⟩ := longest?_eq_some h
  have hlength : n = (text.takeWhile kind).length := by
    by_contra hne
    exact Bool.noConfusion (hlonger _ (by omega) le_rfl)
  have htext : text.takeWhile kind ++ text.dropWhile kind = text := List.takeWhile_append_dropWhile
  refine ⟨hpos, ?_, ?_⟩
  · conv_lhs => rw [← htext, hlength, List.take_left]
  · conv_lhs => rw [← htext, hlength, List.drop_left]

theorem run?_cons_ne_none {kind : Char → Bool} {c : Char} (hc : kind c = true)
    (rest : List Char) : run? kind (c :: rest) ≠ none := by
  intro h
  have hone := longest?_eq_none h Nat.one_pos (by simp [hc])
  cases hone

theorem head?_dropWhile (kind : Char → Bool) (text : List Char) :
    (text.dropWhile kind).head?.any kind = false := by
  induction text with
  | nil => rfl
  | cons c rest ih =>
    rw [List.dropWhile_cons]
    split
    · exact ih
    · rename_i hc
      exact Bool.eq_false_iff.2 hc

/-- A run that goes on behind its first `n` characters is longer than that. -/
theorem lt_length_takeWhile {kind : Char → Bool} {text more : List Char} {n : Nat} {d : Char}
    (hword : ∀ c ∈ text.take n, kind c = true) (hrest : text.drop n = d :: more)
    (hd : kind d = true) : n < (text.takeWhile kind).length := by
  have htext : text.take n ++ d :: more = text := hrest ▸ List.take_append_drop n text
  have hdrop := congrArg List.length hrest
  conv_rhs => rw [← htext, List.takeWhile_append_of_pos hword, List.takeWhile_cons, if_pos hd]
  simp only [List.length_append, List.length_take, List.length_drop, List.length_cons] at hdrop ⊢
  omega

/-! ### What starts a word -/

section Starts

variable {previous next : Option Char} {c : Char}

theorem startsWord_of_isUpper (h : c.isUpper = true) :
    startsWord previous c next = (!previous.any Char.isUpper || next.any Char.isLower) := by
  rw [startsWord, if_pos h]

theorem startsWord_of_isLower (h : c.isLower = true) :
    startsWord previous c next = !previous.any Char.isAlpha := by
  rw [startsWord, if_neg (not_isUpper_of_isLower h), if_pos h]

theorem startsWord_of_isDigit (h : c.isDigit = true) :
    startsWord previous c next = !previous.any Char.isDigit := by
  have hc := not_isAlpha_of_isDigit h
  simp only [isAlpha_eq, Bool.or_eq_false_iff] at hc
  rw [startsWord, hc.1, hc.2]
  rfl

/-- The first character of a text starts a word. -/
theorem startsWord_none : startsWord none c next = true := by
  simp only [startsWord, Option.any_none, Bool.not_false, Bool.true_or, ite_self]

end Starts

/-! ### One word -/

/-- In front of the rest, characters of the kind make up one word: none starts a word behind
another one, and a letter or digit that comes next does. -/
structure IsWordKind (kind : Char → Bool) (rest : List Char) : Prop where
  alnum : ∀ c, kind c = true → c.isAlphanum = true
  quiet : ∀ a b next, kind a = true → kind b = true →
    (next = rest.head? ∨ next.any kind = true) → startsWord (some a) b next = false
  fresh : ∀ a d more, kind a = true → rest = d :: more → d.isAlphanum = true →
    startsWord (some a) d more.head? = true

/-- A run of one kind and the rest are converted apart. -/
theorem IsWordKind.camel_run {kind : Char → Bool} {rest : List Char} (h : IsWordKind kind rest)
    {word : List Char} (hword : ∀ c ∈ word, kind c = true) {c : Char} (hc : kind c = true) :
    camel (some c) (word ++ rest) = word.map Char.toLower ++ camel none rest := by
  induction word generalizing c with
  | nil =>
    cases rest with
    | nil => rfl
    | cons d more =>
      by_cases hd : d.isAlphanum = true
      · simp [camel, hd, startsWord_none, h.fresh c d more hc rfl hd]
      · simp [camel, hd]
  | cons d word ih =>
    obtain ⟨hd, hword⟩ := List.forall_mem_cons.1 hword
    have hnext : (word ++ rest).head? = rest.head? ∨ (word ++ rest).head?.any kind = true := by
      cases word with
      | nil => exact .inl rfl
      | cons e word => exact .inr (hword e List.mem_cons_self)
    rw [List.cons_append, camel, if_pos (h.alnum d hd), h.quiet c d _ hc hd hnext, ih hword hd]
    rfl

/-- The word of `n` characters in front and the rest are converted apart. -/
def SplitsAt (text : List Char) (n : Nat) : Prop :=
  0 < n ∧ camel none text = capitalize (text.take n) ++ camel none (text.drop n)

theorem IsWordKind.splitsAt {kind : Char → Bool} {text : List Char} {n : Nat}
    (h : IsWordKind kind (text.drop n)) (hpos : 0 < n) (hword : ∀ c ∈ text.take n, kind c = true) :
    SplitsAt text n := by
  refine ⟨hpos, ?_⟩
  conv_lhs => rw [← List.take_append_drop n text]
  cases hlead : text.take n with
  | nil =>
    rw [List.take_eq_nil_iff] at hlead
    rw [hlead.resolve_left hpos.ne', List.drop_nil]
    rfl
  | cons c word =>
    rw [hlead] at hword
    obtain ⟨hc, hword⟩ := List.forall_mem_cons.1 hword
    rw [List.cons_append, camel, if_pos (h.alnum c hc), startsWord_none, if_pos rfl,
      h.camel_run hword hc]
    rfl

/-- Capitals end where no small letter follows, if not at the end of all capitals then before
the last one. -/
theorem splitsAt_capitals {text : List Char} {n : Nat} (h : capitals? text = some n) :
    SplitsAt text n := by
  obtain ⟨hpos, hle, hsmall, hlonger⟩ := longest?_eq_some h
  have hword : ∀ c ∈ text.take n, c.isUpper = true := by
    intro c hc
    have hfront : text.take n <+: text.takeWhile Char.isUpper :=
      List.prefix_of_prefix_length_le (List.take_prefix n text) (List.takeWhile_prefix _)
        ((List.length_take_le n text).trans hle)
    exact List.mem_takeWhile_imp (hfront.subset hc)
  have hsmall : (text.drop n).head?.any Char.isLower = false := by simpa using hsmall
  refine IsWordKind.splitsAt ⟨fun c hc => ?_, ?_, ?_⟩ hpos hword
  · exact isAlphanum_of_isAlpha (isAlpha_of_isUpper hc)
  · intro a b next ha hb hnext
    have hlower : next.any Char.isLower = false := by
      rcases hnext with rfl | hnext
      · exact hsmall
      · cases next with
        | none => rfl
        | some d => exact Bool.eq_false_iff.2 (not_isLower_of_isUpper hnext)
    rw [startsWord_of_isUpper hb, Option.any_some, ha, hlower]
    rfl
  · intro a d more ha hrest hd
    rcases kind_of_isAlphanum hd with hupper | hlower | hdigit
    · -- One more capital would have fitted, did it not run into a small letter.
      have hmore : text.drop (n + 1) = more := by
        rw [← List.drop_drop, hrest]
        rfl
      have hfits := hlonger (n + 1) (by omega) (lt_length_takeWhile hword hrest hupper)
      rw [hmore, Bool.not_eq_false'] at hfits
      rw [startsWord_of_isUpper hupper, hfits, Bool.or_true]
    · simp [hrest, hlower] at hsmall
    · have ha' := not_isDigit_of_isAlpha (isAlpha_of_isUpper ha)
      simp [startsWord_of_isDigit hdigit, ha']

/-- A run of one kind ends where that kind does. -/
theorem splitsAt_run {kind : Char → Bool} {text : List Char} {n : Nat}
    (h : run? kind text = some n) (halnum : ∀ c, kind c = true → c.isAlphanum = true)
    (hquiet : ∀ a b next, kind a = true → kind b = true → startsWord (some a) b next = false)
    (hfresh : ∀ a d next, kind a = true → d.isAlphanum = true → kind d = false →
      startsWord (some a) d next = true) : SplitsAt text n := by
  obtain ⟨hpos, htake, hdrop⟩ := run?_eq_some h
  refine IsWordKind.splitsAt ⟨halnum, fun a b next ha hb _ => hquiet a b next ha hb, ?_⟩ hpos ?_
  · intro a d more ha hrest hd
    have hend := head?_dropWhile kind text
    rw [← hdrop, hrest] at hend
    exact hfresh a d _ ha hd hend
  · rw [htake]
    exact fun c hc => List.mem_takeWhile_imp hc

theorem splitsAt_digits {text : List Char} {n : Nat} (h : run? Char.isDigit text = some n) :
    SplitsAt text n := by
  refine splitsAt_run h (fun c hc => by simp [isAlphanum_eq, hc]) ?_ ?_
  · intro a b next ha hb
    simp [startsWord_of_isDigit hb, ha]
  · intro a d next ha hd hother
    have ha := not_isAlpha_of_isDigit ha
    rcases kind_of_isAlphanum hd with hupper | hlower | hdigit
    · have ha : a.isUpper = false := (Bool.or_eq_false_iff.1 ha).1
      simp [startsWord_of_isUpper hupper, ha]
    · simp [startsWord_of_isLower hlower, ha]
    · simp [hdigit] at hother

theorem splitsAt_smallRun {text : List Char} {n : Nat} (h : run? Char.isLower text = some n) :
    SplitsAt text n := by
  refine splitsAt_run h (fun c hc => isAlphanum_of_isAlpha (isAlpha_of_isLower hc)) ?_ ?_
  · intro a b next ha hb
    simp [startsWord_of_isLower hb, isAlpha_of_isLower ha]
  · intro a d next ha hd hother
    have ha' := not_isDigit_of_isAlpha (isAlpha_of_isLower ha)
    rcases kind_of_isAlphanum hd with hupper | hlower | hdigit
    · simp [startsWord_of_isUpper hupper, not_isUpper_of_isLower ha]
    · simp [hlower] at hother
    · simp [startsWord_of_isDigit hdigit, ha']

/-- The capital in front of small letters is converted as they would be without it. -/
theorem splitsAt_small {text : List Char} {n : Nat} (h : small? text = some n) :
    SplitsAt text n := by
  cases text with
  | nil => cases h
  | cons c rest =>
    rw [small?] at h
    split at h
    · rename_i hc
      obtain ⟨m, hm, rfl⟩ := Option.map_eq_some_iff.1 h
      obtain ⟨hpos, htake, -⟩ := run?_eq_some hm
      obtain ⟨-, hsplit⟩ := splitsAt_smallRun hm
      refine ⟨m.succ_pos, ?_⟩
      cases rest with
      | nil => cases hm
      | cons d more =>
        obtain ⟨k, rfl⟩ := Nat.exists_eq_succ_of_ne_zero hpos.ne'
        have hd : d.isLower = true := by
          have hmem : d ∈ (d :: more).takeWhile Char.isLower := by
            rw [← htake]
            exact List.mem_cons_self
          exact List.mem_takeWhile_imp hmem
        have hd' : d.isAlphanum = true := isAlphanum_of_isAlpha (isAlpha_of_isLower hd)
        have hc' : c.isAlphanum = true := isAlphanum_of_isAlpha (isAlpha_of_isUpper hc)
        have hstart : startsWord (some c) d more.head? = false := by
          simp [startsWord_of_isLower hd, isAlpha_of_isUpper hc]
        rw [camel, if_pos hd', List.take_succ_cons, List.drop_succ_cons, capitalize,
          List.cons_append] at hsplit
        rw [camel, if_pos hc', startsWord_none, if_pos rfl, camel, if_pos hd', hstart,
          (List.cons.inj hsplit).2]
        rfl
    · exact splitsAt_smallRun h

/-! ### All words -/

theorem splitsAt_leading {text : List Char} {n : Nat} (h : leading? text = some n) :
    SplitsAt text n := by
  rcases Option.or_eq_some_iff.1 h with h | ⟨-, h⟩
  · exact splitsAt_capitals h
  · rcases Option.or_eq_some_iff.1 h with h | ⟨-, h⟩
    · exact splitsAt_small h
    · exact splitsAt_digits h

/-- No letter and no digit is skipped. -/
theorem not_isAlphanum_of_leading? {c : Char} {rest : List Char}
    (h : leading? (c :: rest) = none) : c.isAlphanum = false := by
  obtain ⟨hcapitals, h⟩ := Option.or_eq_none_iff.1 h
  obtain ⟨hsmall, hdigits⟩ := Option.or_eq_none_iff.1 h
  refine Bool.eq_false_iff.2 fun hc => ?_
  rcases kind_of_isAlphanum hc with hupper | hlower | hdigit
  · -- A capital alone is a word, unless it goes with the small letter behind it.
    have hone := longest?_eq_none hcapitals Nat.one_pos (by simp [hupper])
    rw [small?, if_pos hupper, Option.map_eq_none_iff] at hsmall
    cases rest with
    | nil => cases hone
    | cons d more => exact run?_cons_ne_none (by simpa using hone) more hsmall
  · rw [small?, if_neg (not_isUpper_of_isLower hlower)] at hsmall
    exact run?_cons_ne_none hlower rest hsmall
  · exact run?_cons_ne_none hdigit rest hdigits

theorem camel_eq_scan (text : List Char) : camel none text = (scan text).flatMap capitalize := by
  fun_induction scan text with
  | case1 => rfl
  | case2 c rest n hleading ih =>
    obtain ⟨hpos, hsplit⟩ := splitsAt_leading hleading
    have hdrop : (c :: rest).drop n = rest.drop (n - 1) := by
      cases n with
      | zero => cases hpos
      | succ n => rfl
    rw [hsplit, hdrop, ih, List.flatMap_cons]
  | case3 c rest hleading ih =>
    have hc := not_isAlphanum_of_leading? hleading
    rw [camel, if_neg (by simp [hc]), camel_congr (sameSort_separator hc), ih]

/-- **A name is its words, capitalized and joined**, behind an underscore if that starts with a
digit. -/
theorem typeName_eq_scan (text : String) :
    (typeName text).toList = guardDigit ((scan text.toList).flatMap capitalize) := by
  rw [toList_typeName, stem, camel_eq_scan]

/-- Capitals that run into a small letter leave the last one of them to it. -/
example : (scan "HTTPRequest.3d-model".toList).map String.ofList =
    ["HTTP", "Request", "3", "d", "model"] := by decide +kernel

end SchemaGraph.Name
