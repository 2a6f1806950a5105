import CsvQuery.Text.Blank
import Mathlib.Data.List.DropRight

/-!
# Trimming

A text is trimmed when trimming leaves it unchanged, and that is so exactly when
neither its first nor its last character is a blank.  Blanks put in front of a
text or behind it are cut away again, and every text is its trimmed form between
two runs of blanks (`exists_blanks_trim`).
-/

set_option autoImplicit false

namespace CsvQuery.Text

/-- What holds of the characters of a text is decided along the text, not along all
characters there are. -/
instance (priority := 2000) decidableForallMem (text : List Char) (p : Char → Prop)
    [DecidablePred p] : Decidable (∀ c ∈ text, p c) :=
  List.decidableBAll p text

/-- A run of blanks, which may be empty. -/
def Blanks (text : List Char) : Prop := ∀ c ∈ text, isBlank c = true

/-- A text that does not start with a blank. -/
def StartsClear (text : List Char) : Prop := ∀ c ∈ text.head?, isBlank c = false

/-- A text that does not end with a blank. -/
def EndsClear (text : List Char) : Prop := ∀ c ∈ text.getLast?, isBlank c = false

theorem Blanks.append {first second : List Char} (firstBlanks : Blanks first)
    (secondBlanks : Blanks second) : Blanks (first ++ second) :=
  List.forall_mem_append.2 ⟨firstBlanks, secondBlanks⟩

theorem StartsClear.append {text : List Char} (clear : StartsClear text) (nonempty : text ≠ [])
    (more : List Char) : StartsClear (text ++ more) := by
  cases text with
  | nil => exact absurd rfl nonempty
  | cons c rest => simpa [StartsClear] using clear

theorem EndsClear.append {text : List Char} (clear : EndsClear text) (nonempty : text ≠ [])
    (front : List Char) : EndsClear (front ++ text) := by
  intro c isLast
  rw [List.getLast?_append_of_ne_nil front nonempty] at isLast
  exact clear c isLast

/-- A text with a character that does not end with a blank has more than blanks. -/
theorem EndsClear.not_blanks {text : List Char} (clear : EndsClear text) (nonempty : text ≠ []) :
    ¬ Blanks text := by
  intro blanks
  obtain ⟨c, isLast⟩ := Option.isSome_iff_exists.1 (List.getLast?_isSome.2 nonempty)
  have notBlank := clear c isLast
  rw [blanks c (List.mem_of_mem_getLast? isLast)] at notBlank
  cases notBlank

/-! ## Cutting at one end -/

theorem trimStart_eq_self {text : List Char} (clear : StartsClear text) :
    trimStart text = text := by
  cases text with
  | nil => rfl
  | cons c rest => exact List.dropWhile_cons_of_neg (by simp [clear c rfl])

theorem trimStart_blanks_append {gap : List Char} (blanks : Blanks gap) (text : List Char) :
    trimStart (gap ++ text) = trimStart text :=
  List.dropWhile_append_of_pos blanks

theorem startsClear_trimStart (text : List Char) : StartsClear (trimStart text) := by
  intro c isFirst
  have stopped := List.head?_dropWhile_not isBlank text
  rw [Option.mem_def] at isFirst
  rw [trimStart] at isFirst
  rw [isFirst] at stopped
  simpa using stopped

theorem trimStart_eq_nil_iff {text : List Char} : trimStart text = [] ↔ Blanks text :=
  List.dropWhile_eq_nil_iff

/-- The blanks in front of a text and the text behind them. -/
theorem exists_blanks_trimStart (text : List Char) :
    ∃ gap, Blanks gap ∧ text = gap ++ trimStart text :=
  ⟨text.takeWhile isBlank, fun _ isIn => List.mem_takeWhile_imp isIn,
    List.takeWhile_append_dropWhile.symm⟩

theorem trimStart_append {text : List Char} (nonempty : trimStart text ≠ []) (rest : List Char) :
    trimStart (text ++ rest) = trimStart text ++ rest := by
  obtain ⟨gap, blanks, split⟩ := exists_blanks_trimStart text
  conv_lhs => rw [split, List.append_assoc, trimStart_blanks_append blanks]
  exact trimStart_eq_self ((startsClear_trimStart text).append nonempty rest)

theorem startsBlank_append {gap : List Char} (nonempty : gap ≠ []) (blanks : Blanks gap)
    (rest : List Char) : (gap ++ rest).head?.any isBlank = true := by
  cases gap with
  | nil => exact absurd rfl nonempty
  | cons c gap => simpa using blanks c (List.mem_cons_self ..)

theorem exists_gap_of_startsBlank {text : List Char}
    (startsBlank : text.head?.any isBlank = true) :
    ∃ gap, gap ≠ [] ∧ Blanks gap ∧ text = gap ++ trimStart text := by
  obtain ⟨gap, blanks, split⟩ := exists_blanks_trimStart text
  refine ⟨gap, ?_, blanks, split⟩
  rintro rfl
  cases first : text.head? with
  | none => simp [first] at startsBlank
  | some c =>
      have clear := startsClear_trimStart text c
      rw [List.nil_append] at split
      rw [← split] at clear
      simp [first, clear first] at startsBlank

theorem trimEnd_eq_reverse (text : List Char) :
    trimEnd text = (trimStart text.reverse).reverse := rfl

theorem trimEnd_eq_self {text : List Char} (clear : EndsClear text) : trimEnd text = text := by
  have clearReverse : StartsClear text.reverse := by
    simpa [StartsClear, EndsClear, List.head?_reverse] using clear
  rw [trimEnd_eq_reverse, trimStart_eq_self clearReverse, List.reverse_reverse]

theorem trimEnd_append_blanks {gap : List Char} (blanks : Blanks gap) (text : List Char) :
    trimEnd (text ++ gap) = trimEnd text := by
  have blanksReverse : Blanks gap.reverse := fun c isIn => blanks c (List.mem_reverse.1 isIn)
  rw [trimEnd_eq_reverse, List.reverse_append, trimStart_blanks_append blanksReverse,
    trimEnd_eq_reverse]

theorem endsClear_trimEnd (text : List Char) : EndsClear (trimEnd text) := by
  intro c isLast
  rw [trimEnd_eq_reverse, List.getLast?_reverse] at isLast
  exact startsClear_trimStart _ c isLast

/-- The blanks behind a text and the text in front of them. -/
theorem exists_trimEnd_blanks (text : List Char) :
    ∃ gap, Blanks gap ∧ text = trimEnd text ++ gap := by
  obtain ⟨gap, blanks, split⟩ := exists_blanks_trimStart text.reverse
  refine ⟨gap.reverse, fun c isIn => blanks c (List.mem_reverse.1 isIn), ?_⟩
  rw [trimEnd_eq_reverse, ← List.reverse_append, ← split, List.reverse_reverse]

/-- Cutting the blanks behind a text does not uncover blanks in front of it. -/
theorem startsClear_trimEnd {text : List Char} (clear : StartsClear text) :
    StartsClear (trimEnd text) := by
  obtain ⟨gap, -, split⟩ := exists_trimEnd_blanks text
  intro c isFirst
  refine clear c ?_
  rw [split]
  exact List.mem_head?_append_of_mem_head? isFirst

/-! ## Cutting at both ends -/

theorem trim_eq_self {text : List Char} (startsClear : StartsClear text)
    (endsClear : EndsClear text) : trim text = text := by
  rw [trim, trimStart_eq_self startsClear, trimEnd_eq_self endsClear]

theorem startsClear_trim (text : List Char) : StartsClear (trim text) :=
  startsClear_trimEnd (startsClear_trimStart text)

theorem endsClear_trim (text : List Char) : EndsClear (trim text) :=
  endsClear_trimEnd (trimStart text)

/-- **A text is trimmed exactly when it neither starts nor ends with a blank.** -/
theorem trim_eq_self_iff (text : List Char) :
    trim text = text ↔ StartsClear text ∧ EndsClear text := by
  constructor
  · intro trimmed
    rw [← trimmed]
    exact ⟨startsClear_trim text, endsClear_trim text⟩
  · rintro ⟨startsClear, endsClear⟩
    exact trim_eq_self startsClear endsClear

theorem trim_blanks_append {gap : List Char} (blanks : Blanks gap) (text : List Char) :
    trim (gap ++ text) = trim text := by
  rw [trim, trimStart_blanks_append blanks, trim]

theorem trim_blanks {gap : List Char} (blanks : Blanks gap) : trim gap = [] := by
  have trimmed := trim_blanks_append blanks []
  rwa [List.append_nil] at trimmed

/-- **Every text is its trimmed form between two runs of blanks.** -/
theorem exists_blanks_trim (text : List Char) :
    ∃ front behind, Blanks front ∧ Blanks behind ∧ text = front ++ trim text ++ behind := by
  obtain ⟨front, frontBlanks, frontSplit⟩ := exists_blanks_trimStart text
  obtain ⟨behind, behindBlanks, behindSplit⟩ := exists_trimEnd_blanks (trimStart text)
  refine ⟨front, behind, frontBlanks, behindBlanks, ?_⟩
  rw [List.append_assoc, trim, ← behindSplit, ← frontSplit]

theorem isInfix_trim (text : List Char) : trim text <:+: text := by
  obtain ⟨front, behind, -, -, split⟩ := exists_blanks_trim text
  exact ⟨front, behind, split.symm⟩

/-- Nothing is left of a text exactly when it is blank. -/
theorem trim_eq_nil_iff {text : List Char} : trim text = [] ↔ Blanks text := by
  constructor
  · intro nothingLeft
    obtain ⟨front, behind, frontBlanks, behindBlanks, split⟩ := exists_blanks_trim text
    rw [split, nothingLeft, List.append_nil]
    exact frontBlanks.append behindBlanks
  · exact trim_blanks

theorem trim_append_blanks {gap : List Char} (blanks : Blanks gap) (text : List Char) :
    trim (text ++ gap) = trim text := by
  obtain ⟨front, behind, frontBlanks, behindBlanks, split⟩ := exists_blanks_trim text
  have allBlanks : Blanks (behind ++ gap) := fun c isIn =>
    (List.mem_append.1 isIn).elim (behindBlanks c) (blanks c)
  conv_lhs => rw [split, List.append_assoc, List.append_assoc, trim_blanks_append frontBlanks]
  by_cases empty : trim text = []
  · rw [empty, List.nil_append, trim_blanks allBlanks]
  · rw [trim, trimStart_eq_self ((startsClear_trim text).append empty _),
      trimEnd_append_blanks allBlanks, trimEnd_eq_self (endsClear_trim text)]

theorem trim_trim (text : List Char) : trim (trim text) = trim text :=
  trim_eq_self (startsClear_trim text) (endsClear_trim text)

/-- Of a text behind one that starts and ends with no blank, only the blanks at the end
are cut away. -/
theorem trim_append {front : List Char} (nonempty : front ≠ []) (startsClear : StartsClear front)
    (endsClear : EndsClear front) (text : List Char) : trim (front ++ text) = front ++ trimEnd text := by
  obtain ⟨gap, blanks, split⟩ := exists_trimEnd_blanks text
  have clear : EndsClear (front ++ trimEnd text) := by
    by_cases empty : trimEnd text = []
    · rwa [empty, List.append_nil]
    · exact (endsClear_trimEnd text).append empty front
  conv_lhs => rw [split, ← List.append_assoc, trim_append_blanks blanks]
  exact trim_eq_self (startsClear.append nonempty _) clear

theorem trim_append_trimEnd (front text : List Char) :
    trim (front ++ trimEnd text) = trim (front ++ text) := by
  obtain ⟨gap, blanks, split⟩ := exists_trimEnd_blanks text
  conv_rhs => rw [split, ← List.append_assoc, trim_append_blanks blanks]

theorem trim_trimStart_append (text more : List Char) :
    trim (trimStart text ++ more) = trim (text ++ more) := by
  obtain ⟨gap, blanks, split⟩ := exists_blanks_trimStart text
  conv_rhs => rw [split, List.append_assoc, trim_blanks_append blanks]

/-! ## Spaces -/

theorem blanks_space : Blanks [' '] := by
  intro c isIn
  rw [List.mem_singleton.1 isIn]
  decide

theorem trim_space_cons (text : List Char) : trim (' ' :: text) = trim text :=
  trim_blanks_append blanks_space text

end CsvQuery.Text
