import CsvQuery.Text.Keyword
import CsvQuery.Proofs.Text.Trimming
import Mathlib.Data.List.Forall2

/-!
# Whole words in a text

A keyword stands at a place of a text when the characters there spell it and no
word character touches it on either side.  The search of `splitAtWord?` finds a
keyword exactly when it stands somewhere (`isSome_splitAtWord?_iff`), and what it
returns is such a place.

A character that belongs to no word divides the search: a keyword stands in
`front ++ separator :: rest` exactly when it stands in one of the two parts, and
the search looks into the first part first (`splitAtWord?_append_cons`).
-/

set_option autoImplicit false

namespace CsvQuery.Text

/-! ## Letters of a keyword -/

/-- The letters of a keyword are word characters in both cases, and there is at
least one. -/
structure IsKeyword (keyword : List Char) : Prop where
  nonempty : keyword ≠ []
  letters : ∀ letter ∈ keyword, isWordChar letter = true ∧ isWordChar letter.toLower = true

/-- The characters of a text that are read as the letters of a keyword. -/
def Spells (keyword word : List Char) : Prop :=
  List.Forall₂ (fun letter c => matchesLetter letter c = true) keyword word

/-- No word character stands at an end of a text that may be empty. -/
def NoWordChar (c? : Option Char) : Prop := ∀ c ∈ c?, isWordChar c = false

theorem noWordChar_iff (c? : Option Char) : NoWordChar c? ↔ c?.any isWordChar = false := by
  cases c? <;> simp [NoWordChar]

theorem isWordChar_of_matchesLetter {letter c : Char}
    (isWord : isWordChar letter = true ∧ isWordChar letter.toLower = true)
    (isMatch : matchesLetter letter c = true) : isWordChar c = true := by
  have long : isWordChar 'ſ' = true := by decide +kernel
  have kelvin : isWordChar '\u212a' = true := by decide +kernel
  simp only [matchesLetter, Bool.or_eq_true, Bool.and_eq_true, beq_iff_eq] at isMatch
  rcases isMatch with ((rfl | rfl) | ⟨_, rfl⟩) | ⟨_, rfl⟩
  · exact isWord.1
  · exact isWord.2
  · exact long
  · exact kelvin

theorem Spells.exists_letter {keyword word : List Char} (spells : Spells keyword word) :
    ∀ c ∈ word, ∃ letter ∈ keyword, matchesLetter letter c = true := by
  induction spells with
  | nil => simp
  | cons isMatch _ ih =>
      intro c isIn
      rcases List.mem_cons.1 isIn with rfl | inRest
      · exact ⟨_, List.mem_cons_self .., isMatch⟩
      · obtain ⟨letter, letterIn, restMatch⟩ := ih c inRest
        exact ⟨letter, List.mem_cons_of_mem _ letterIn, restMatch⟩

theorem Spells.isWordChar {keyword word : List Char} (spells : Spells keyword word)
    (isKeyword : IsKeyword keyword) : ∀ c ∈ word, isWordChar c = true := by
  intro c isIn
  obtain ⟨letter, letterIn, isMatch⟩ := spells.exists_letter c isIn
  exact isWordChar_of_matchesLetter (isKeyword.letters letter letterIn) isMatch

theorem Spells.ne_nil {keyword word : List Char} (spells : Spells keyword word)
    (isKeyword : IsKeyword keyword) : word ≠ [] := by
  rintro rfl
  exact isKeyword.nonempty (List.forall₂_nil_right_iff.1 spells)

theorem inRanges_iff (ranges : List (Nat × Nat)) (c : Char) :
    inRanges ranges c = true ↔ ∃ range ∈ ranges, range.1 ≤ c.toNat ∧ c.toNat ≤ range.2 := by
  simp [inRanges]

/-- Outside ASCII the ranges of the word characters and of the blanks are apart. -/
theorem wordRanges_apart_blankRanges : (wordRanges.all fun word => blankRanges.all fun blanks =>
    Nat.blt word.2 blanks.1 || Nat.blt blanks.2 word.1) = true := by decide +kernel

/-- A blank is no word character. -/
theorem isWordChar_eq_false_of_isBlank {c : Char} (blank : isBlank c = true) :
    isWordChar c = false := by
  obtain ⟨blanks, blanksIn, blanksLow, blanksHigh⟩ := (inRanges_iff blankRanges c).1 blank
  rw [isWordChar]
  split
  next ascii =>
    -- The blanks of ASCII are the space and the five controls from the tabulator on.
    have code : c.toNat ∈ [0x09, 0x0a, 0x0b, 0x0c, 0x0d, 0x20] := by
      simp only [blankRanges, List.mem_cons, Prod.ext_iff, List.not_mem_nil, or_false] at blanksIn
      simp only [List.mem_cons, List.not_mem_nil, or_false]
      omega
    have noWord : ∀ n ∈ [0x09, 0x0a, 0x0b, 0x0c, 0x0d, 0x20],
        ((Char.ofNat n).isAlphanum || Char.ofNat n == '_') = false := by decide
    have same := noWord c.toNat code
    rwa [Char.ofNat_toNat] at same
  next =>
    rw [← Bool.not_eq_true, inRanges_iff]
    rintro ⟨word, wordIn, wordLow, wordHigh⟩
    have apart := List.all_eq_true.1
      (List.all_eq_true.1 wordRanges_apart_blankRanges word wordIn) blanks blanksIn
    simp only [Nat.blt_eq, Bool.or_eq_true] at apart
    omega

theorem isBlank_eq_false_of_isWordChar {c : Char} (isWord : isWordChar c = true) :
    isBlank c = false := by
  rw [← Bool.not_eq_true]
  intro blank
  rw [isWordChar_eq_false_of_isBlank blank] at isWord
  cases isWord

theorem noWordChar_head?_append {gap : List Char} (nonempty : gap ≠ []) (blanks : Blanks gap)
    (rest : List Char) : NoWordChar (gap ++ rest).head? := by
  intro c isFirst
  rw [List.head?_append_of_ne_nil _ nonempty] at isFirst
  exact isWordChar_eq_false_of_isBlank (blanks c (List.mem_of_mem_head? isFirst))

/-- A keyword spells itself. -/
theorem spells_self (keyword : List Char) : Spells keyword keyword :=
  List.forall₂_same.2 fun letter _ => by simp [matchesLetter]

/-- There is no blank in a keyword. -/
theorem Spells.isBlank_eq_false {keyword word : List Char} (spells : Spells keyword word)
    (isKeyword : IsKeyword keyword) : ∀ c ∈ word, isBlank c = false :=
  fun c isIn => isBlank_eq_false_of_isWordChar (spells.isWordChar isKeyword c isIn)

theorem Spells.startsClear {keyword word : List Char} (spells : Spells keyword word)
    (isKeyword : IsKeyword keyword) (after : List Char) : StartsClear (word ++ after) :=
  StartsClear.append
    (fun c isFirst => spells.isBlank_eq_false isKeyword c (List.mem_of_mem_head? isFirst))
    (spells.ne_nil isKeyword) after

/-! ## A keyword at a place -/

/-- The characters of `text` between `front` and `after` are a keyword that stands
there as a whole word.  `before` is the character in front of the text, if there
is one. -/
structure StandsIn (keyword : List Char) (before : Option Char) (text front after : List Char) :
    Prop where
  spelled : ∃ word, Spells keyword word ∧ text = front ++ word ++ after
  startsWord : NoWordChar (front.getLast?.or before)
  endsWord : NoWordChar after.head?

/-- A text contains a keyword as a whole word. -/
def HasWord (keyword text : List Char) : Prop :=
  ∃ front after, StandsIn keyword none text front after

theorem strip?_eq_some_iff {keyword text rest : List Char} :
    strip? matchesLetter keyword text = some rest ↔
      ∃ word, Spells keyword word ∧ text = word ++ rest := by
  induction keyword generalizing text with
  | nil =>
      constructor
      · intro found
        exact ⟨[], .nil, by simpa [strip?] using found⟩
      · rintro ⟨word, spells, rfl⟩
        rw [List.forall₂_nil_left_iff.1 spells]
        rfl
  | cons letter keyword ih =>
      cases text with
      | nil =>
          constructor
          · intro found
            cases found
          · rintro ⟨word, spells, split⟩
            obtain ⟨empty, -⟩ := List.append_eq_nil_iff.1 split.symm
            rw [empty] at spells
            cases spells
      | cons c text =>
          rw [strip?]
          constructor
          · intro found
            split at found
            next isMatch =>
              obtain ⟨word, spells, rfl⟩ := ih.1 found
              exact ⟨c :: word, .cons isMatch spells, rfl⟩
            next => cases found
          · rintro ⟨word, spells, split⟩
            cases spells with
            | cons isMatch spells =>
                obtain ⟨rfl, rfl⟩ := List.cons.inj split
                rw [if_pos isMatch]
                exact ih.2 ⟨_, spells, rfl⟩

/-- **What stands behind a keyword at the front of a text.** -/
theorem wordAt?_eq_some_iff {keyword : List Char} {before : Option Char}
    {text after : List Char} :
    wordAt? keyword before text = some after ↔ StandsIn keyword before text [] after := by
  rw [wordAt?]
  constructor
  · intro found
    split at found
    · cases found
    next fresh =>
      cases stripped : strip? matchesLetter keyword text with
      | none => simp [stripped] at found
      | some rest =>
          simp only [stripped] at found
          split at found
          · cases found
          next ends =>
            cases found
            obtain ⟨word, spells, split⟩ := strip?_eq_some_iff.1 stripped
            exact ⟨⟨word, spells, split⟩, (noWordChar_iff _).2 (by simpa using fresh),
              (noWordChar_iff _).2 (by simpa using ends)⟩
  · rintro ⟨⟨word, spells, split⟩, fresh, ends⟩
    have stripped : strip? matchesLetter keyword text = some after :=
      strip?_eq_some_iff.2 ⟨word, spells, split⟩
    rw [noWordChar_iff] at fresh ends
    simp only [List.getLast?_nil, Option.none_or] at fresh
    simp [fresh, stripped, ends]

/-- A keyword spelled at the front of a text, with no word character behind it. -/
theorem Spells.wordAt? {keyword word after : List Char} (spells : Spells keyword word)
    (endsWord : NoWordChar after.head?) :
    Text.wordAt? keyword none (word ++ after) = some after :=
  wordAt?_eq_some_iff.2 ⟨⟨word, spells, by simp⟩, by simp [NoWordChar], endsWord⟩

/-- A keyword behind a text that does not end with a word character. -/
theorem hasWord_append_of_wordAt? {keyword front text after : List Char}
    (fresh : NoWordChar front.getLast?) (here : Text.wordAt? keyword none text = some after) :
    HasWord keyword (front ++ text) := by
  obtain ⟨⟨word, spells, split⟩, -, endsWord⟩ := wordAt?_eq_some_iff.1 here
  refine ⟨front, after, ⟨word, spells, ?_⟩, by simpa using fresh, endsWord⟩
  rw [split, List.nil_append, List.append_assoc]

/-- Only a word character in front of a text keeps a keyword from standing there. -/
theorem wordAt?_of_noWordChar {before : Option Char} (fresh : NoWordChar before)
    (keyword text : List Char) : wordAt? keyword before text = wordAt? keyword none text := by
  rw [noWordChar_iff] at fresh
  simp [wordAt?, fresh]

theorem wordAt?_nil {keyword : List Char} (isKeyword : IsKeyword keyword)
    (before : Option Char) : wordAt? keyword before [] = none := by
  refine Option.eq_none_iff_forall_ne_some.2 fun after found => ?_
  obtain ⟨word, spells, split⟩ := (wordAt?_eq_some_iff.1 found).spelled
  simp only [List.nil_append] at split
  exact spells.ne_nil isKeyword (List.append_eq_nil_iff.1 split.symm).1

theorem wordAt?_separator {keyword : List Char} (isKeyword : IsKeyword keyword) {separator : Char}
    (isSeparator : isWordChar separator = false) (before : Option Char) (rest : List Char) :
    wordAt? keyword before (separator :: rest) = none := by
  refine Option.eq_none_iff_forall_ne_some.2 fun after found => ?_
  obtain ⟨word, spells, split⟩ := (wordAt?_eq_some_iff.1 found).spelled
  cases word with
  | nil => exact spells.ne_nil isKeyword rfl
  | cons c word =>
      obtain ⟨rfl, -⟩ := List.cons.inj split
      exact absurd (spells.isWordChar isKeyword separator (List.mem_cons_self ..))
        (by simp [isSeparator])

/-- A keyword does not reach past a character that belongs to no word. -/
theorem wordAt?_append_separator {keyword : List Char} (isKeyword : IsKeyword keyword)
    {separator : Char} (isSeparator : isWordChar separator = false) (before : Option Char)
    (text rest : List Char) :
    wordAt? keyword before (text ++ separator :: rest) =
      (wordAt? keyword before text).map (· ++ separator :: rest) := by
  ext after
  rw [Option.map_eq_some_iff]
  simp only [wordAt?_eq_some_iff]
  constructor
  · rintro ⟨⟨word, spells, split⟩, startsWord, endsWord⟩
    rw [List.nil_append] at split
    rcases List.append_eq_append_iff.1 split with ⟨tail, rfl, same⟩ | ⟨tail, rfl, rfl⟩
    · -- The word would cover the separator, which is no word character.
      cases tail with
      | nil =>
          refine ⟨[], ⟨⟨text, by simpa using spells, by simp⟩, startsWord, ?_⟩, same⟩
          simp [NoWordChar]
      | cons c tail =>
          obtain ⟨rfl, -⟩ := List.cons.inj same
          have inWord := spells.isWordChar isKeyword separator (by simp)
          rw [isSeparator] at inWord
          cases inWord
    · refine ⟨tail, ⟨⟨word, spells, by simp⟩, startsWord, ?_⟩, rfl⟩
      intro c isFirst
      exact endsWord c (List.mem_head?_append_of_mem_head? isFirst)
  · rintro ⟨inner, ⟨⟨word, spells, split⟩, startsWord, endsWord⟩, rfl⟩
    refine ⟨⟨word, spells, by simp [split]⟩, startsWord, ?_⟩
    cases inner with
    | nil => simpa [NoWordChar] using isSeparator
    | cons c inner => simpa [NoWordChar] using endsWord

/-! ## The search for a keyword -/

theorem StandsIn.cons {keyword : List Char} {before : Option Char} {c : Char}
    {text front after : List Char} :
    StandsIn keyword before (c :: text) (c :: front) after ↔
      StandsIn keyword (some c) text front after := by
  have sameBefore : (c :: front).getLast?.or before = front.getLast?.or (some c) := by
    rw [List.getLast?_cons]
    cases front.getLast? <;> rfl
  constructor
  · rintro ⟨⟨word, spells, split⟩, startsWord, endsWord⟩
    exact ⟨⟨word, spells, (List.cons.inj split).2⟩, sameBefore ▸ startsWord, endsWord⟩
  · rintro ⟨⟨word, spells, split⟩, startsWord, endsWord⟩
    exact ⟨⟨word, spells, by simp [split]⟩, sameBefore.symm ▸ startsWord, endsWord⟩

/-- What the search returns is a place where the keyword stands. -/
theorem standsIn_of_splitAtWord? {keyword : List Char} {before : Option Char}
    {text front after : List Char}
    (found : splitAtWord? keyword before text = some (front, after)) :
    StandsIn keyword before text front after := by
  induction text generalizing before front with
  | nil => cases found
  | cons c rest ih =>
      rw [splitAtWord?] at found
      split at found
      next after' here =>
        cases found
        exact wordAt?_eq_some_iff.1 here
      next =>
        obtain ⟨⟨restFront, restAfter⟩, restFound, same⟩ := Option.map_eq_some_iff.1 found
        cases same
        exact StandsIn.cons.2 (ih restFound)

/-- What stands behind a keyword is told by the place of the keyword. -/
theorem StandsIn.eq_of_length_eq {keyword text front after other otherAfter : List Char}
    {before : Option Char} (stands : StandsIn keyword before text front after)
    (otherStands : StandsIn keyword before text other otherAfter)
    (sameLength : front.length = other.length) : front = other ∧ after = otherAfter := by
  obtain ⟨⟨word, spells, split⟩, -, -⟩ := stands
  obtain ⟨⟨otherWord, otherSpells, otherSplit⟩, -, -⟩ := otherStands
  rw [split, List.append_assoc, List.append_assoc] at otherSplit
  obtain ⟨sameFront, sameRest⟩ := List.append_inj otherSplit sameLength
  have wordLength : word.length = otherWord.length :=
    spells.length_eq.symm.trans otherSpells.length_eq
  exact ⟨sameFront, (List.append_inj sameRest wordLength).2⟩

/-- A keyword that stands somewhere is found, and not behind that place. -/
theorem StandsIn.exists_splitAtWord? {keyword : List Char} (isKeyword : IsKeyword keyword)
    {before : Option Char} {text front after : List Char}
    (stands : StandsIn keyword before text front after) :
    ∃ firstFront firstAfter, splitAtWord? keyword before text = some (firstFront, firstAfter) ∧
      firstFront.length ≤ front.length := by
  induction text generalizing before front with
  | nil =>
      obtain ⟨word, spells, split⟩ := stands.spelled
      simp only [List.append_assoc, List.nil_eq, List.append_eq_nil_iff] at split
      exact absurd split.2.1 (spells.ne_nil isKeyword)
  | cons c rest ih =>
      rw [splitAtWord?]
      split
      next after' here => exact ⟨[], after', rfl, Nat.zero_le _⟩
      next notHere =>
        cases front with
        | nil =>
            rw [wordAt?_eq_some_iff.2 stands] at notHere
            cases notHere
        | cons d front =>
            obtain ⟨word, spells, split⟩ := stands.spelled
            obtain ⟨rfl, -⟩ := List.cons.inj split
            obtain ⟨firstFront, firstAfter, found, earlier⟩ := ih (StandsIn.cons.1 stands)
            refine ⟨c :: firstFront, firstAfter, by rw [found]; rfl, ?_⟩
            simpa using earlier

/-- **The search finds a keyword exactly when the text contains it as a whole
word.** -/
theorem isSome_splitAtWord?_iff {keyword : List Char} (isKeyword : IsKeyword keyword)
    (text : List Char) :
    (splitAtWord? keyword none text).isSome = true ↔ HasWord keyword text := by
  rw [Option.isSome_iff_exists]
  constructor
  · rintro ⟨⟨front, after⟩, found⟩
    exact ⟨front, after, standsIn_of_splitAtWord? found⟩
  · rintro ⟨front, after, stands⟩
    obtain ⟨firstFront, firstAfter, found, -⟩ := stands.exists_splitAtWord? isKeyword
    exact ⟨(firstFront, firstAfter), found⟩

theorem splitAtWord?_eq_none_iff {keyword : List Char} (isKeyword : IsKeyword keyword)
    (text : List Char) :
    splitAtWord? keyword none text = none ↔ ¬ HasWord keyword text := by
  rw [← isSome_splitAtWord?_iff isKeyword, Option.not_isSome_iff_eq_none]

/-- A keyword that stands in a text stands there with more around the text too, if no word
goes on over its ends. -/
theorem HasWord.append {keyword text front behind : List Char} (has : HasWord keyword text)
    (fresh : NoWordChar front.getLast?) (ended : NoWordChar behind.head?) :
    HasWord keyword (front ++ text ++ behind) := by
  obtain ⟨inner, after, ⟨word, spells, split⟩, startsWord, endsWord⟩ := has
  rw [Option.or_none] at startsWord
  refine ⟨front ++ inner, after ++ behind, ⟨word, spells, by simp [split]⟩, ?_, ?_⟩
  · intro c isLast
    rw [Option.or_none, List.getLast?_append, Option.mem_def, Option.or_eq_some_iff] at isLast
    rcases isLast with inInner | ⟨-, inFront⟩
    · exact startsWord c inInner
    · exact fresh c inFront
  · intro c isFirst
    rw [List.head?_append, Option.mem_def, Option.or_eq_some_iff] at isFirst
    rcases isFirst with inAfter | ⟨-, inBehind⟩
    · exact endsWord c inAfter
    · exact ended c inBehind

/-- A keyword that stands in a text stands there with blanks around the text too. -/
theorem HasWord.append_blanks {keyword text front behind : List Char}
    (has : HasWord keyword text) (frontBlanks : Blanks front) (behindBlanks : Blanks behind) :
    HasWord keyword (front ++ text ++ behind) := by
  refine has.append (fun c isLast => ?_) fun c isFirst => ?_
  · exact isWordChar_eq_false_of_isBlank (frontBlanks c (List.mem_of_mem_getLast? isLast))
  · exact isWordChar_eq_false_of_isBlank (behindBlanks c (List.mem_of_mem_head? isFirst))

theorem hasWord_of_trim {keyword text : List Char} (has : HasWord keyword (trim text)) :
    HasWord keyword text := by
  obtain ⟨front, behind, frontBlanks, behindBlanks, split⟩ := exists_blanks_trim text
  rw [split]
  exact has.append_blanks frontBlanks behindBlanks

/-- In front of the first keyword of a text there is no other one. -/
theorem not_hasWord_of_splitAtWord? {keyword : List Char} (isKeyword : IsKeyword keyword)
    {text front after : List Char} (found : splitAtWord? keyword none text = some (front, after)) :
    ¬ HasWord keyword front := by
  rintro ⟨inner, rest, ⟨word, spells, innerSplit⟩, startsWord, endsWord⟩
  obtain ⟨⟨firstWord, -, split⟩, freshFirst, -⟩ := standsIn_of_splitAtWord? found
  have wordNonempty := spells.ne_nil isKeyword
  cases rest with
  | nil =>
      -- The inner keyword would touch the one that was found.
      obtain ⟨c, isLast⟩ := Option.isSome_iff_exists.1 (List.getLast?_isSome.2 wordNonempty)
      have isWord := spells.isWordChar isKeyword c (List.mem_of_mem_getLast? isLast)
      have notWord := freshFirst c <| by
        rw [innerSplit, List.append_nil, List.getLast?_append_of_ne_nil _ wordNonempty, isLast]
        rfl
      rw [isWord] at notWord
      cases notWord
  | cons c rest =>
      have inText : StandsIn keyword none text inner (c :: rest ++ (firstWord ++ after)) :=
        ⟨⟨word, spells, by simp [split, innerSplit]⟩, startsWord, by simpa using endsWord⟩
      obtain ⟨first, firstAfter, firstFound, earlier⟩ := inText.exists_splitAtWord? isKeyword
      rw [found] at firstFound
      cases firstFound
      rw [innerSplit] at earlier
      simp only [List.length_append, List.length_cons] at earlier
      omega

theorem splitAtWord?_of_noWordChar {before : Option Char} (fresh : NoWordChar before)
    (keyword text : List Char) :
    splitAtWord? keyword before text = splitAtWord? keyword none text := by
  cases text with
  | nil => rfl
  | cons c rest => rw [splitAtWord?, splitAtWord?, wordAt?_of_noWordChar fresh]

/-- **A character that belongs to no word divides the search.** -/
theorem splitAtWord?_append_cons {keyword : List Char} (isKeyword : IsKeyword keyword)
    {separator : Char} (isSeparator : isWordChar separator = false) (before : Option Char)
    (front rest : List Char) :
    splitAtWord? keyword before (front ++ separator :: rest) =
      ((splitAtWord? keyword before front).map
          fun parts => (parts.1, parts.2 ++ separator :: rest)).or
        ((splitAtWord? keyword none rest).map
          fun parts => (front ++ separator :: parts.1, parts.2)) := by
  have fresh : NoWordChar (some separator) := by simpa [NoWordChar] using isSeparator
  induction front generalizing before with
  | nil =>
      simp only [List.nil_append, splitAtWord?, wordAt?_separator isKeyword isSeparator,
        splitAtWord?_of_noWordChar fresh]
      rfl
  | cons c front ih =>
      rw [List.cons_append, splitAtWord?, splitAtWord?, ← List.cons_append,
        wordAt?_append_separator isKeyword isSeparator]
      cases here : wordAt? keyword before (c :: front) with
      | some after => rfl
      | none =>
          simp only [Option.map_none, ih]
          cases splitAtWord? keyword (some c) front <;>
            cases splitAtWord? keyword none rest <;> rfl

/-- **A keyword stands in a text exactly when it stands on one side of a character
that belongs to no word.** -/
theorem hasWord_append_cons_iff {keyword : List Char} (isKeyword : IsKeyword keyword)
    {separator : Char} (isSeparator : isWordChar separator = false) (front rest : List Char) :
    HasWord keyword (front ++ separator :: rest) ↔
      HasWord keyword front ∨ HasWord keyword rest := by
  simp only [← isSome_splitAtWord?_iff isKeyword,
    splitAtWord?_append_cons isKeyword isSeparator]
  cases splitAtWord? keyword none front <;> simp

theorem not_hasWord_nil {keyword : List Char} (isKeyword : IsKeyword keyword) :
    ¬ HasWord keyword [] :=
  (splitAtWord?_eq_none_iff isKeyword []).1 rfl

theorem hasWord_cons_iff {keyword : List Char} (isKeyword : IsKeyword keyword)
    {separator : Char} (isSeparator : isWordChar separator = false) (rest : List Char) :
    HasWord keyword (separator :: rest) ↔ HasWord keyword rest := by
  have divided := hasWord_append_cons_iff isKeyword isSeparator [] rest
  rw [List.nil_append] at divided
  simp [divided, not_hasWord_nil isKeyword]

/-- **The first keyword behind a text without it.** -/
theorem splitAtWord?_first {keyword : List Char} (isKeyword : IsKeyword keyword)
    {separator : Char} (isSeparator : isWordChar separator = false) {front rest after : List Char}
    (clear : ¬ HasWord keyword front) (here : wordAt? keyword none rest = some after) :
    splitAtWord? keyword none (front ++ separator :: rest) =
      some (front ++ [separator], after) := by
  rw [splitAtWord?_append_cons isKeyword isSeparator,
    (splitAtWord?_eq_none_iff isKeyword front).2 clear]
  cases rest with
  | nil => simp [wordAt?_nil isKeyword] at here
  | cons c rest => simp [splitAtWord?, here]

end CsvQuery.Text
