import SchemaGraph.Proofs.Failure.Steps
import SchemaGraph.Sdl.Printer
import SchemaGraph.Sdl.Rejection

/-! Documents below a comment.

A comment is no token, so a document has the tokens of what stands below its heading
(`lexemes_heading`), and it passes the check just if that does (`check_heading`). A
heading can be in a file just if its text can.

The text of a comment is cut at all that can end a line of running text, and a document
ends lines at fewer characters. So no part of the text gets out of the comment
(`documentLines_comment`), and a comment changes nothing about the document below it
(`document_commented`). -/
namespace SchemaGraph

/-! ### Lines of a comment -/

namespace Text

theorem not_isLineBreak_of_mem_linesFrom {text start : List Char}
    (hstart : ∀ c ∈ start, isLineBreak c = false) :
    ∀ line ∈ linesFrom start text, ∀ c ∈ line, isLineBreak c = false := by
  fun_induction linesFrom start text with
  | case1 start hempty => simp
  | case2 start hempty => simpa using hstart
  | case3 start rest ih =>
    simp only [List.mem_cons, forall_eq_or_imp]
    exact ⟨hstart, ih (by simp)⟩
  | case4 start c rest hpair hbreak ih =>
    simp only [List.mem_cons, forall_eq_or_imp]
    exact ⟨hstart, ih (by simp)⟩
  | case5 start c rest hpair hbreak ih =>
    refine ih fun other hother => ?_
    rcases List.mem_append.1 hother with hother | hother
    · exact hstart other hother
    · rw [List.mem_singleton.1 hother]
      exact Bool.eq_false_iff.2 hbreak

/-- No line holds what ends lines. -/
theorem not_isLineBreak_of_mem_lines {text line : List Char} (hline : line ∈ lines text) {c : Char}
    (hc : c ∈ line) : isLineBreak c = false :=
  not_isLineBreak_of_mem_linesFrom (by simp) line hline c hc

/-- What no line break is stands in a line just if it stands in the text. -/
theorem any_linesFrom {p : Char → Bool} (hp : ∀ c, isLineBreak c = true → p c = false)
    (start text : List Char) :
    (linesFrom start text).any (·.any p) = (start.any p || text.any p) := by
  fun_induction linesFrom start text with
  | case1 start hempty => simp [List.isEmpty_iff.1 hempty]
  | case2 start hempty => simp
  | case3 start rest ih => simp [ih, hp '\r' (by decide), hp '\n' (by decide)]
  | case4 start c rest hpair hbreak ih => simp [ih, hp c hbreak]
  | case5 start c rest hpair hbreak ih => simp [ih, Bool.or_assoc]

theorem linesFrom_ne_nil {start text : List Char} (h : start ++ text ≠ []) :
    linesFrom start text ≠ [] := by
  fun_induction linesFrom start text with
  | case1 start hempty => exact absurd (by simpa using hempty) h
  | case2 start hempty => exact List.cons_ne_nil _ _
  | case3 start rest ih => exact List.cons_ne_nil _ _
  | case4 start c rest hpair hbreak ih => exact List.cons_ne_nil _ _
  | case5 start c rest hpair hbreak ih => exact ih (by simp)

theorem half?_of_isLineBreak {c : Char} (h : isLineBreak c = true) : (half? c).isSome = false := by
  rw [isLineBreak, lineBreaks, List.contains_iff_mem] at h
  simp only [List.mem_cons, List.not_mem_nil, or_false] at h
  rcases h with rfl | rfl | rfl | rfl | rfl | rfl | rfl | rfl | rfl | rfl <;> decide

/-- What no separator is stands in a part just if it stands in the whole. -/
theorem any_intercalate {α : Type} {p : α → Bool} {separator : List α}
    (hseparator : separator.any p = false) (parts : List (List α)) :
    (separator.intercalate parts).any p = parts.any (·.any p) := by
  induction parts with
  | nil => rfl
  | cons first parts ih =>
    cases parts with
    | nil => simp
    | cons second parts =>
      rw [List.intercalate_cons_cons, List.any_append, List.any_append, hseparator, Bool.or_false,
        ih]
      rfl

theorem hasHalves_append (first second : String) :
    hasHalves (first ++ second) = (hasHalves first || hasHalves second) := by
  rw [hasHalves, String.toList_append, List.any_append]
  rfl

theorem hasHalves_intercalate {separator : String} (hseparator : hasHalves separator = false)
    (parts : List String) : hasHalves (separator.intercalate parts) = parts.any hasHalves := by
  rw [hasHalves, String.toList_intercalate, any_intercalate hseparator, List.any_map]
  rfl

end Text

namespace Sdl

/-! ### Tokens of a comment -/

/-- The tokens of characters, wherever they stand. -/
def lexemesOf (text : List Char) : List Lexeme := (tokensFrom 0 text).map (·.lexeme)

theorem lexemes_tokensFrom (offset : Nat) (text : List Char) :
    (tokensFrom offset text).map (·.lexeme) = lexemesOf text := by
  rw [lexemesOf]
  generalize 0 = other
  fun_induction tokensFrom offset text generalizing other with
  | case1 offset => simp [tokensFrom]
  | case2 offset c rest extra hpiece ih =>
    rw [tokensFrom, hpiece]
    exact ih _
  | case3 offset c rest lexeme extra hpiece ih =>
    rw [tokensFrom, hpiece, List.map_cons, List.map_cons, ih]
  | case4 offset c rest problem extra hpiece =>
    rw [tokensFrom, hpiece]
    rfl

theorem lexemesOf_blank {c : Char} {rest : List Char} {extra : Nat}
    (h : pieceAt c rest = .blank extra) : lexemesOf (c :: rest) = lexemesOf (rest.drop extra) := by
  rw [lexemesOf, tokensFrom, h]
  exact lexemes_tokensFrom _ _

theorem lexemesOf_lineFeed (rest : List Char) : lexemesOf ('\n' :: rest) = lexemesOf rest := by
  have hpiece : pieceAt '\n' rest = .blank 0 := rfl
  exact lexemesOf_blank hpiece

/-- A comment runs to the end of its line. -/
theorem lexemesOf_comment {line : List Char} (hline : ∀ c ∈ line, endsLine c = false)
    (rest : List Char) : lexemesOf ('#' :: (line ++ '\n' :: rest)) = lexemesOf rest := by
  have hpiece : pieceAt '#' (line ++ '\n' :: rest) = .blank line.length := by
    have htake : (line ++ '\n' :: rest).takeWhile (fun c => !endsLine c) = line := by
      rw [List.takeWhile_append_of_pos (by simpa using hline)]
      simp [endsLine]
    rw [pieceAt, htake]
    rfl
  rw [lexemesOf_blank hpiece, List.drop_left, lexemesOf_lineFeed]

/-- The characters of a comment with these lines. -/
def commentChars (lines : List (List Char)) : List Char :=
  ['\n'].intercalate (lines.map fun line => '#' :: ' ' :: line)

theorem toList_comment (text : String) :
    (comment text).toList = commentChars (Text.lines text.toList) := by
  rw [comment, String.toList_intercalate, List.map_map, commentChars]
  congr 1
  refine List.map_congr_left fun line _ => ?_
  simp

theorem lexemesOf_commentChars {lines : List (List Char)}
    (hlines : ∀ line ∈ lines, ∀ c ∈ line, endsLine c = false) (rest : List Char) :
    lexemesOf (commentChars lines ++ '\n' :: rest) = lexemesOf rest := by
  induction lines with
  | nil => exact lexemesOf_lineFeed rest
  | cons line lines ih =>
    have hline : ∀ c ∈ ' ' :: line, endsLine c = false := by
      simp only [List.mem_cons, forall_eq_or_imp]
      exact ⟨by decide, hlines line List.mem_cons_self⟩
    cases lines with
    | nil =>
      have hone : commentChars [line] = '#' :: ' ' :: line := by simp [commentChars]
      rw [hone]
      exact lexemesOf_comment hline rest
    | cons second lines =>
      have hsplit : commentChars (line :: second :: lines) ++ '\n' :: rest =
          '#' :: ((' ' :: line) ++ '\n' :: (commentChars (second :: lines) ++ '\n' :: rest)) := by
        simp [commentChars, List.intercalate_cons_cons]
      rw [hsplit, lexemesOf_comment hline]
      exact ih fun other hother => hlines other (List.mem_cons_of_mem _ hother)

theorem any_commentChars {p : Char → Bool} (hsign : p '#' = false) (hblank : p ' ' = false)
    (hfeed : p '\n' = false) (lines : List (List Char)) :
    (commentChars lines).any p = lines.any (·.any p) := by
  rw [commentChars, Text.any_intercalate (by simp [hfeed]), List.any_map]
  simp [Function.comp_def, hsign, hblank]

/-- A comment can be in a file just if its text can. -/
theorem hasHalves_comment (text : String) :
    Text.hasHalves (comment text) = Text.hasHalves text := by
  rw [Text.hasHalves, toList_comment, any_commentChars (by decide) (by decide) (by decide),
    Text.lines, Text.any_linesFrom (fun _ => Text.half?_of_isLineBreak), List.any_nil,
    Bool.false_or, Text.hasHalves]

theorem not_endsLine_of_mem_lines {text line : List Char} (hline : line ∈ Text.lines text)
    {c : Char} (hc : c ∈ line) : endsLine c = false := by
  have hbreak := Text.not_isLineBreak_of_mem_lines hline hc
  rw [endsLine, Bool.or_eq_false_iff, beq_eq_false_iff_ne, beq_eq_false_iff_ne]
  constructor <;> rintro rfl
  · exact absurd hbreak (by decide)
  · exact absurd hbreak (by decide)

/-- **A heading has no tokens.** -/
theorem lexemes_heading (heading body : String) :
    lexemes (comment heading ++ "\n\n" ++ body) = lexemes body := by
  have hlines : ∀ line ∈ Text.lines heading.toList, ∀ c ∈ line, endsLine c = false :=
    fun line hline c hc => not_endsLine_of_mem_lines hline hc
  have htext : (comment heading ++ "\n\n" ++ body).toList =
      commentChars (Text.lines heading.toList) ++ '\n' :: '\n' :: body.toList := by
    rw [String.toList_append, String.toList_append, toList_comment, List.append_assoc]
    rfl
  show lexemesOf _ = lexemesOf _
  rw [htext, lexemesOf_commentChars hlines, lexemesOf_lineFeed]

theorem check_ok_iff {text : String} : check text = .ok () ↔
    ∃ document, declarations (lexemes text) = .ok document ∧ problems document = [] ∧
      (misfits document).head? = none := by
  constructor
  · intro h
    obtain ⟨document, hread, h⟩ := bind_ok h
    split at h
    · rename_i hproblems hmisfits
      exact ⟨document, mapError_ok_iff.1 hread, hproblems, hmisfits⟩
    · cases h
    · cases h
  · rintro ⟨document, hread, hproblems, hmisfits⟩
    rw [check, mapError_ok_iff.2 hread, ok_bind, hproblems, hmisfits]
    rfl

/-- **What stands below a heading is checked as if it stood alone.** -/
theorem check_heading (heading body : String) :
    check (comment heading ++ "\n\n" ++ body) = .ok () ↔ check body = .ok () := by
  rw [check_ok_iff, check_ok_iff, lexemes_heading]

/-! ### Documents with a comment -/

theorem document_null (schema : Schema) :
    document schema .null = (print schema).map (· ++ "\n") := by
  rw [document]
  cases print schema <;> rfl

theorem document_str (schema : Schema) {text : String} (h : text.isEmpty = false) :
    document schema (.str text) =
      (print schema).map fun body => comment text ++ "\n\n" ++ body ++ "\n" := by
  rw [document]
  cases print schema with
  | error fault => rfl
  | ok body =>
    rw [ok_bind, Json.truthy, h]
    rfl

theorem documentLinesFrom_append {line : List Char} (hline : ∀ c ∈ line, endsLine c = false)
    (start rest : List Char) :
    Text.documentLinesFrom start (line ++ rest) = Text.documentLinesFrom (start ++ line) rest := by
  induction line generalizing start with
  | nil => rw [List.nil_append, List.append_nil]
  | cons c line ih =>
    obtain ⟨hc, hline⟩ := List.forall_mem_cons.1 hline
    have hreturn : c ≠ '\r' := by
      rintro rfl
      cases hc
    rw [List.cons_append, Text.documentLinesFrom]
    · have hends : (c == '\n' || c == '\r') = false := hc
      rw [if_neg (by rw [hends]; exact Bool.false_ne_true), ih hline, List.append_assoc]
      rfl
    · exact fun _ hpair _ => hreturn hpair

/-- Lines that end nowhere inside can be read back from their document. -/
theorem documentLines_intercalate {lines : List (List Char)} (hne : lines ≠ [])
    (hlines : ∀ line ∈ lines, ∀ c ∈ line, endsLine c = false) :
    Text.documentLines (['\n'].intercalate lines) = lines := by
  induction lines with
  | nil => exact absurd rfl hne
  | cons line lines ih =>
    obtain ⟨hline, hlines⟩ := List.forall_mem_cons.1 hlines
    cases lines with
    | nil =>
      have hread := documentLinesFrom_append hline [] []
      rw [List.append_nil, List.nil_append] at hread
      rw [List.intercalate_singleton, Text.documentLines, hread]
      rfl
    | cons second lines =>
      rw [List.intercalate_cons_cons, List.append_assoc, Text.documentLines,
        documentLinesFrom_append hline, List.nil_append]
      show line :: Text.documentLines (['\n'].intercalate (second :: lines)) = _
      rw [ih (List.cons_ne_nil _ _) hlines]

/-- Every line of a comment, as documents have lines, starts with a number sign. -/
theorem documentLines_comment {text : String} (h : text ≠ "") :
    ∀ line ∈ Text.documentLines (comment text).toList, ['#'] <+: line := by
  have hne : Text.lines text.toList ≠ [] := by
    apply Text.linesFrom_ne_nil
    rw [List.nil_append, Ne, String.toList_eq_nil_iff]
    exact h
  rw [toList_comment, commentChars, documentLines_intercalate (by simpa using hne)]
  · intro line hline
    obtain ⟨inner, -, rfl⟩ := List.mem_map.1 hline
    exact List.prefix_append ['#'] (' ' :: inner)
  · rw [List.forall_mem_map]
    intro line hline c hc
    rcases List.mem_cons.1 hc with rfl | hc
    · rfl
    rcases List.mem_cons.1 hc with rfl | hc
    · rfl
    · exact not_endsLine_of_mem_lines hline hc

/-- **A comment cannot alter a document.** The document with a comment is the comment, a blank
line and the document without it; what cannot be printed without a comment cannot be printed with
one, for the same fault. Every line of the comment starts with a number sign, whatever ends the
lines of its text, and both documents have the same tokens. -/
theorem document_commented (schema : Schema) {text : String} (htext : text ≠ "") :
    document schema (.str text) =
      (document schema .null).map (comment text ++ "\n\n" ++ ·) ∧
    (∀ line ∈ Text.documentLines (comment text).toList, ['#'] <+: line) ∧
    ∀ plain, document schema .null = .ok plain →
      ∃ commented, document schema (.str text) = .ok commented ∧
        lexemes commented = lexemes plain := by
  have hempty : text.isEmpty = false := by
    rw [Bool.eq_false_iff, Ne, String.isEmpty_iff]
    exact htext
  have hdocument : document schema (.str text) =
      (document schema .null).map (comment text ++ "\n\n" ++ ·) := by
    rw [document_str schema hempty, document_null]
    cases print schema with
    | error fault => rfl
    | ok body =>
      show Except.ok (comment text ++ "\n\n" ++ body ++ "\n") = _
      rw [String.append_assoc]
      rfl
  refine ⟨hdocument, documentLines_comment htext, fun plain hplain => ?_⟩
  rw [hdocument, hplain]
  exact ⟨_, rfl, lexemes_heading text plain⟩

/-- A line separator and a carriage return before a line feed each end one line of the comment. -/
theorem document_commented_separators :
    let schema : Schema :=
      { query? := some "Query"
        definitions := [.object "Query" .null [] [{ name := "name", type := "String" }]] }
    let plain := "type Query \x7b\n  name: String\n\x7d\n"
    document schema .null = .ok plain ∧
    document schema (.str "by\u2028hand\r\n") = .ok ("# by\n# hand\n\n" ++ plain) ∧
    lexemes ("# by\n# hand\n\n" ++ plain) = lexemes plain := by
  intro schema plain
  have hplain : document schema .null = .ok plain := by rfl
  have hcomment : comment "by\u2028hand\r\n" = "# by\n# hand" := by decide
  have hne : "by\u2028hand\r\n" ≠ "" := by decide
  obtain ⟨hdocument, -, htokens⟩ := document_commented schema hne
  obtain ⟨commented, hcommented, hsame⟩ := htokens plain hplain
  rw [hplain, hcomment] at hdocument
  rw [hdocument] at hcommented
  cases hcommented
  exact ⟨hplain, hdocument, hsame⟩

end Sdl
end SchemaGraph
