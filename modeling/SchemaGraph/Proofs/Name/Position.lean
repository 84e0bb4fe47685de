import Mathlib.Data.List.Induction
import SchemaGraph.Proofs.Name.Camel

/-! Names along a path.

The name of a position is made step by step: every step down is written behind the name
of the position above and the whole is converted again (`position`). Converting the path
in full, once, gives another name whenever the words of the path above do not survive a
second conversion (`typeName_position_iff`). Both names are spelled as the path is
(`spelling_position`), so positions whose paths are spelled differently have different
names. -/
namespace SchemaGraph.Name

/-- A step down that names tell of. -/
inductive Segment where
  | property (name : String)
  | case (key : String)

namespace Segment

/-- What the step writes behind the position above. -/
def text : Segment → String
  | property name => s!".{name}"
  | case key => s!".oneOf[{key}]"

/-- The letters and digits that the step adds to a name. -/
def letters (segment : Segment) : List Char := camel none segment.text.toList

/-- What the step adds to the spelling of a path. -/
def spelling (segment : Segment) : List Char := Name.spelling segment.text.toList

theorem exists_toList (segment : Segment) : ∃ rest, segment.text.toList = '.' :: rest := by
  cases segment with
  | property name =>
    refine ⟨name.toList, ?_⟩
    show ("." ++ name).toList = '.' :: name.toList
    rw [String.toList_append]
    rfl
  | case key =>
    refine ⟨"oneOf[".toList ++ key.toList ++ "]".toList, ?_⟩
    show (".oneOf[" ++ key ++ "]").toList = _
    rw [String.toList_append, String.toList_append]
    rfl

end Segment

/-- The path in full: an identifier and the steps down from its document. -/
def fullPath (root : String) (path : List Segment) : String :=
  path.foldl (fun above segment => above ++ segment.text) root

/-- The position that a path leads to; the name of the position above stands for the steps
before. -/
def position (root : String) (path : List Segment) : String :=
  path.foldl (fun above segment => typeName above ++ segment.text) root

theorem fullPath_concat (root : String) (path : List Segment) (segment : Segment) :
    fullPath root (path ++ [segment]) = fullPath root path ++ segment.text := by
  simp [fullPath]

theorem position_concat (root : String) (path : List Segment) (segment : Segment) :
    position root (path ++ [segment]) = typeName (position root path) ++ segment.text := by
  simp [position]

/-! ### Letters and digits along a path -/

theorem stem_append (above : String) (segment : Segment) :
    stem (above ++ segment.text) = stem above ++ segment.letters := by
  obtain ⟨rest, htext⟩ := segment.exists_toList
  have hdot : Char.isAlphanum '.' = false := by decide
  rw [Segment.letters, htext, stem, String.toList_append, htext, camel_append_separator hdot,
    camel, if_neg (by simp [hdot]), camel_congr (sameSort_separator hdot), stem]

theorem stem_typeName_append (above : String) (segment : Segment) :
    stem (typeName above ++ segment.text) = camel none (stem above) ++ segment.letters := by
  rw [stem_append, stem_typeName]

theorem Segment.head?_letters (segment : Segment) :
    segment.letters.head?.any Char.isLower = false :=
  (isCased_camel id segment.text.toList).head?_not_isLower

/-- A path above a steady one is steady. -/
theorem camel_of_append {name : List Char} (hname : IsCased none name) {segment : Segment}
    (h : camel none (name ++ segment.letters) = name ++ segment.letters) :
    camel none name = name := by
  rw [camel_append segment.head?_letters none] at h
  exact (List.append_inj h (lowers_camel hname id).length_eq).1

/-- Going step by step can only lower capitals. -/
theorem lowers_position (root : String) (path : List Segment) :
    Lowers (stem (position root path)) (stem (fullPath root path)) := by
  induction path using List.reverseRecOn with
  | nil => exact .refl _
  | append_singleton path segment ih =>
    rw [position_concat, fullPath_concat, stem_typeName_append, stem_append]
    exact ((lowers_camel (isCased_stem _) id).trans ih).append (.refl _)

/-- Along a steady path, going step by step and at once give the same. -/
theorem stem_position_of_steady {root : String} {path : List Segment}
    (h : camel none (stem (fullPath root path)) = stem (fullPath root path)) :
    stem (position root path) = stem (fullPath root path) := by
  induction path using List.reverseRecOn with
  | nil => rfl
  | append_singleton path segment ih =>
    rw [fullPath_concat, stem_append] at h
    have habove := camel_of_append (isCased_stem _) h
    rw [position_concat, fullPath_concat, stem_typeName_append, stem_append, ih habove, habove]

/-! ### One step and all steps -/

/-- **A step behind a name gives what it gives behind the text of the name exactly if the name
is steady.** -/
theorem typeName_append_iff (above : String) (segment : Segment) :
    typeName (typeName above ++ segment.text) = typeName (above ++ segment.text) ↔
      IsSteady (typeName above) := by
  rw [← typeName_typeName_iff, typeName_eq_iff, typeName_eq_iff, stem_typeName_append,
    stem_append, stem_typeName, List.append_left_inj]

/-- The words `a` and `b` give `AB`, which is read as one word when `c` comes behind it. -/
theorem typeName_append_lost :
    typeName (typeName "a.b" ++ ".c") ≠ typeName ("a.b" ++ ".c") := by decide +kernel

/-- **The name of a position is that of its full path exactly if the name of the full path
above is steady.** -/
theorem typeName_position_iff (root : String) (path : List Segment) (segment : Segment) :
    typeName (position root (path ++ [segment])) =
        typeName (fullPath root (path ++ [segment])) ↔
      IsSteady (typeName (fullPath root path)) := by
  rw [← typeName_typeName_iff, typeName_eq_iff, typeName_eq_iff, stem_typeName, position_concat,
    fullPath_concat, stem_typeName_append, stem_append, List.append_left_inj]
  constructor
  · intro h
    -- The name only ever loses capitals: on the way back to the full path it cannot have lost any.
    have hlowers : Lowers (stem (fullPath root path)) (stem (position root path)) :=
      h ▸ lowers_camel (isCased_stem _) id
    have heq := (lowers_position root path).antisymm hlowers
    rwa [heq] at h
  · intro h
    rw [stem_position_of_steady h, h]

/-- The root has the name of the full path; every other position has it under the condition. -/
theorem typeName_position_eq_iff (root : String) (path : List Segment) :
    typeName (position root path) = typeName (fullPath root path) ↔
      path = [] ∨ IsSteady (typeName (fullPath root path.dropLast)) := by
  rcases List.eq_nil_or_concat path with rfl | ⟨above, segment, rfl⟩
  · simp [position, fullPath]
  · rw [List.concat_eq_append, typeName_position_iff, List.dropLast_concat]
    simp

/-! ### Spelling along a path -/

/-- What a path spells, its root left out. -/
def spellingOf (path : List Segment) : List Char := path.flatMap Segment.spelling

/-- The name of a position is spelled as its path. -/
theorem spelling_position (root : String) (path : List Segment) :
    spelling (typeName (position root path)).toList =
      spelling root.toList ++ spellingOf path := by
  rw [spelling_typeName]
  induction path using List.reverseRecOn with
  | nil => simp [position, spellingOf]
  | append_singleton path segment ih =>
    rw [position_concat, String.toList_append, spelling_append, spelling_typeName, ih, spellingOf,
      spellingOf, List.flatMap_append, List.append_assoc]
    simp [Segment.spelling]

/-- Positions of one name have paths of one spelling. -/
theorem spellingOf_eq_of_typeName_eq {root : String} {first second : List Segment}
    (h : typeName (position root first) = typeName (position root second)) :
    spellingOf first = spellingOf second := by
  have hspelling := congrArg (fun name => spelling name.toList) h
  simp only [spelling_position] at hspelling
  exact List.append_cancel_left hspelling

end SchemaGraph.Name
