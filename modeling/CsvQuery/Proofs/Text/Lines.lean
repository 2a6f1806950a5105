import CsvQuery.Proofs.Text.Trimming

/-!
# Lines

A text without line feeds is one line, and in front of a line feed it is the first line
of a longer text (`lines_append_newline`).  The carriage return such a line may lose is
a blank, so trimming the line gives what trimming the text gives (`trim_endedLine`).
-/

set_option autoImplicit false

namespace CsvQuery.Text

/-- A line that a line feed ends, without the carriage return in front of it. -/
def endedLine (line : List Char) : List Char :=
  if line.getLast? == some '\r' then line.dropLast else line

/-- A text without separators is put in front of the first piece of the text behind it. -/
theorem pieces_append {isSeparator : Char → Bool} {text : List Char}
    (isClear : ∀ c ∈ text, isSeparator c = false) (rest : List Char) :
    pieces isSeparator (text ++ rest) = (pieces isSeparator rest).modifyHead (text ++ ·) := by
  induction text with
  | nil =>
      rw [List.nil_append]
      cases pieces isSeparator rest <;> rfl
  | cons c text ih =>
      have clearHead : isSeparator c = false := isClear c (List.mem_cons_self ..)
      have clearRest := ih fun d isIn => isClear d (List.mem_cons_of_mem c isIn)
      rw [List.cons_append, pieces, clearHead, clearRest]
      exact List.modifyHead_modifyHead

theorem pieces_append_separator {isSeparator : Char → Bool} {text : List Char} {c : Char}
    (isClear : ∀ d ∈ text, isSeparator d = false) (separates : isSeparator c = true)
    (rest : List Char) :
    pieces isSeparator (text ++ c :: rest) = text :: pieces isSeparator rest := by
  rw [pieces_append isClear, pieces, if_pos separates, List.modifyHead_cons, List.append_nil]

theorem pieces_eq_singleton {isSeparator : Char → Bool} {text : List Char}
    (isClear : ∀ c ∈ text, isSeparator c = false) : pieces isSeparator text = [text] := by
  have whole := pieces_append isClear []
  rwa [pieces, List.modifyHead_cons, List.append_nil] at whole

theorem isClear_of_not_mem {text : List Char} (noNewline : '\n' ∉ text) :
    ∀ c ∈ text, (c == '\n') = false := by
  intro c isIn
  have other : c ≠ '\n' := fun same => noNewline (same ▸ isIn)
  simpa using other

/-- A text without line feeds is one line, unless it is empty. -/
theorem lines_eq_singleton {text : List Char} (noNewline : '\n' ∉ text) (nonempty : text ≠ []) :
    lines text = [text] := by
  simp [lines, pieces_eq_singleton (isClear_of_not_mem noNewline), nonempty]

/-- **The text in front of the first line feed is the first line.** -/
theorem lines_append_newline {text : List Char} (noNewline : '\n' ∉ text) (rest : List Char) :
    lines (text ++ '\n' :: rest) = endedLine text :: lines rest := by
  have split := pieces_append_separator (isClear_of_not_mem noNewline) (beq_self_eq_true '\n') rest
  cases reversed : (pieces (· == '\n') rest).reverse with
  | nil => exact absurd (List.reverse_eq_nil_iff.1 reversed) (pieces_ne_nil _ rest)
  | cons last ended =>
      simp only [lines, split, reversed, List.reverse_cons, List.cons_append]
      by_cases empty : last.isEmpty = true
      · simp [empty, endedLine]
      · simp [empty, endedLine]

theorem blanks_return : Blanks ['\r'] := by
  intro c isIn
  rw [List.mem_singleton.1 isIn]
  decide

theorem trim_endedLine (line : List Char) : trim (endedLine line) = trim line := by
  rw [endedLine]
  split
  next isReturn =>
    have last : line.getLast? = some '\r' := by simpa using isReturn
    have whole : line = line.dropLast ++ ['\r'] :=
      (List.dropLast_append_getLast? '\r' last).symm
    conv_rhs => rw [whole, trim_append_blanks blanks_return]
  next => rfl

/-- **A text in front of the end of a line is one line, up to the blanks around it.** -/
theorem exists_lines_append_ending {text ending : List Char} (noNewline : '\n' ∉ text)
    (nonempty : text ≠ []) (isEnding : ending ∈ [[], ['\n'], ['\r', '\n']]) :
    ∃ line, lines (text ++ ending) = [line] ∧ trim line = trim text := by
  have noLines : lines [] = [] := rfl
  rcases List.mem_cons.1 isEnding with rfl | more
  · refine ⟨text, ?_, rfl⟩
    rw [List.append_nil, lines_eq_singleton noNewline nonempty]
  rcases List.mem_cons.1 more with rfl | last
  · refine ⟨endedLine text, ?_, trim_endedLine text⟩
    rw [lines_append_newline noNewline, noLines]
  · obtain rfl := List.mem_singleton.1 last
    have stillNoNewline : '\n' ∉ text ++ ['\r'] := by simpa using noNewline
    have regroup : text ++ ['\r', '\n'] = (text ++ ['\r']) ++ '\n' :: [] := by simp
    refine ⟨endedLine (text ++ ['\r']), ?_, ?_⟩
    · rw [regroup, lines_append_newline stillNoNewline, noLines]
    · rw [trim_endedLine, trim_append_blanks blanks_return]

end CsvQuery.Text
