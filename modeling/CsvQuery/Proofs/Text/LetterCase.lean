import CsvQuery.Text.Keyword
import Mathlib.Data.List.Forall2

/-!
# The case of letters

Two texts are the same but for the case of their ASCII letters exactly when they become
the same text in lower case (`sameLetters_iff`).  So what the case of letters changes is
seen by comparing what is found in a text with what is found in its lower case.

Blanks, words, the letters of a keyword and all marks are told without looking at the
case (`CaseBlind`), and then cutting a text, finding a keyword in it and finding a symbol
give the same parts in lower case.
-/

set_option autoImplicit false

namespace CsvQuery.Text

/-- A text with its ASCII letters in lower case. -/
def lowered (text : List Char) : List Char := text.map Char.toLower

/-- Two texts of one length with the same character at every place, except that it may be
an ASCII letter in different cases. -/
def SameLetters (first second : String) : Prop :=
  List.Forall₂ (fun c d => c.toLower = d.toLower) first.toList second.toList

theorem lowered_cons (c : Char) (text : List Char) :
    lowered (c :: text) = c.toLower :: lowered text := rfl

theorem toList_toLower (text : String) : text.toLower.toList = lowered text.toList :=
  String.toList_map

theorem toLower_ofList (text : List Char) :
    (String.ofList text).toLower = String.ofList (lowered text) := by
  apply String.toList_injective
  rw [toList_toLower, String.toList_ofList, String.toList_ofList]

theorem forall₂_map_eq_iff {α β : Type} {f : α → β} {items others : List α} :
    List.Forall₂ (fun a b => f a = f b) items others ↔ items.map f = others.map f := by
  rw [← List.forall₂_eq_eq_eq, List.forall₂_map_left_iff, List.forall₂_map_right_iff]

theorem sameLetters_iff {first second : String} :
    SameLetters first second ↔ first.toLower = second.toLower := by
  rw [← String.toList_inj, toList_toLower, toList_toLower]
  exact forall₂_map_eq_iff

theorem forall₂_sameLetters {items others : List String}
    (same : items.map String.toLower = others.map String.toLower) :
    List.Forall₂ SameLetters items others :=
  (forall₂_map_eq_iff.2 same).imp fun _ _ => sameLetters_iff.2

/-! ## Characters -/

/-- What is told of a character without its case. -/
def CaseBlind {α : Type} (view : Char → α) : Prop := ∀ c : Char, view c.toLower = view c

theorem CaseBlind.comp_eq {α : Type} {view : Char → α} (blind : CaseBlind view) :
    view ∘ Char.toLower = view :=
  funext blind

/-- Only capitals have another lower case, so only they need to be looked at. -/
theorem caseBlind_of_capitals {α : Type} {view : Char → α}
    (capitals : ∀ n ∈ List.range' 65 26, view (Char.ofNat n).toLower = view (Char.ofNat n)) :
    CaseBlind view := by
  intro c
  by_cases isCapital : c.val ≥ 'A'.val ∧ c.val ≤ 'Z'.val
  · have code : c.toNat ∈ List.range' 65 26 := by
      have low : 65 ≤ c.toNat := UInt32.le_iff_toNat_le.1 isCapital.1
      have high : c.toNat ≤ 90 := UInt32.le_iff_toNat_le.1 isCapital.2
      rw [List.mem_range'_1]
      omega
    have same := capitals c.toNat code
    rwa [Char.ofNat_toNat] at same
  · have sameCase : c.toLower = c := dif_neg isCapital
    rw [sameCase]

theorem caseBlind_isBlank : CaseBlind isBlank := caseBlind_of_capitals (by decide)

theorem caseBlind_isWordChar : CaseBlind isWordChar := caseBlind_of_capitals (by decide)

/-- A character is told to be a letter of a keyword without its case. -/
def CaseBlindKeyword (keyword : List Char) : Prop :=
  ∀ letter ∈ keyword, CaseBlind (matchesLetter letter)

theorem caseBlindKeyword_of_capitals {keyword : List Char}
    (capitals : ∀ letter ∈ keyword, ∀ n ∈ List.range' 65 26,
      matchesLetter letter (Char.ofNat n).toLower = matchesLetter letter (Char.ofNat n)) :
    CaseBlindKeyword keyword :=
  fun letter isIn => caseBlind_of_capitals (capitals letter isIn)

/-- A character that is no letter is told without its case. -/
theorem caseBlind_beq {mark : Char} (noLetter : mark.isAlpha = false) :
    CaseBlind fun c => mark == c := by
  have letters : ∀ n ∈ List.range' 65 26,
      (Char.ofNat n).isAlpha = true ∧ (Char.ofNat n).toLower.isAlpha = true := by
    decide
  have different : ∀ c : Char, c.isAlpha = true → (mark == c) = false := by
    intro c isLetter
    refine beq_false_of_ne ?_
    rintro rfl
    rw [isLetter] at noLetter
    cases noLetter
  refine caseBlind_of_capitals fun n isCapital => ?_
  rw [different _ (letters n isCapital).1, different _ (letters n isCapital).2]

theorem toLower_eq_iff {mark : Char} (noLetter : mark.isAlpha = false) {c : Char} :
    c.toLower = mark ↔ c = mark := by
  have sameAnswer : (mark == c.toLower) = (mark == c) := caseBlind_beq noLetter c
  rw [eq_comm, ← beq_iff_eq, sameAnswer, beq_iff_eq, eq_comm]

/-! ## Marks -/

section Marks

variable {mark : Char} (noLetter : mark.isAlpha = false)
include noLetter

theorem mem_lowered_iff {text : List Char} : mark ∈ lowered text ↔ mark ∈ text := by
  rw [lowered, List.mem_map]
  constructor
  · rintro ⟨c, isIn, isMark⟩
    rwa [(toLower_eq_iff noLetter).1 isMark] at isIn
  · intro isIn
    exact ⟨mark, isIn, (toLower_eq_iff noLetter).2 rfl⟩

theorem map_toLower_eq_some_iff {c? : Option Char} :
    c?.map Char.toLower = some mark ↔ c? = some mark := by
  rw [Option.map_eq_some_iff]
  constructor
  · rintro ⟨c, rfl, isMark⟩
    rw [(toLower_eq_iff noLetter).1 isMark]
  · rintro rfl
    exact ⟨mark, rfl, (toLower_eq_iff noLetter).2 rfl⟩

theorem lowered_eq_cons_iff {text rest : List Char} :
    lowered text = mark :: rest ↔ ∃ behind, text = mark :: behind ∧ lowered behind = rest := by
  rw [lowered, List.map_eq_cons_iff]
  constructor
  · rintro ⟨c, behind, rfl, isMark, same⟩
    rw [(toLower_eq_iff noLetter).1 isMark]
    exact ⟨behind, rfl, same⟩
  · rintro ⟨behind, rfl, same⟩
    exact ⟨mark, behind, rfl, (toLower_eq_iff noLetter).2 rfl, same⟩

end Marks

/-! ## Cutting a text -/

section Cutting

variable {view : Char → Bool} (blind : CaseBlind view) (text : List Char)
include blind

theorem takeWhile_lowered : (lowered text).takeWhile view = lowered (text.takeWhile view) := by
  rw [lowered, List.takeWhile_map, blind.comp_eq, lowered]

theorem dropWhile_lowered : (lowered text).dropWhile view = lowered (text.dropWhile view) := by
  rw [lowered, List.dropWhile_map, blind.comp_eq, lowered]

theorem any_head?_lowered : (lowered text).head?.any view = text.head?.any view := by
  rw [lowered, List.head?_map, Option.any_map]
  exact congrArg (text.head?.any ·) blind.comp_eq

end Cutting

theorem lowered_eq_nil_iff {text : List Char} : lowered text = [] ↔ text = [] := List.map_eq_nil_iff

theorem isEmpty_lowered (text : List Char) : (lowered text).isEmpty = text.isEmpty :=
  List.isEmpty_map

theorem reverse_lowered (text : List Char) : (lowered text).reverse = lowered text.reverse :=
  List.map_reverse.symm

theorem head?_lowered (text : List Char) : (lowered text).head? = text.head?.map Char.toLower :=
  List.head?_map

theorem getLast?_lowered (text : List Char) :
    (lowered text).getLast? = text.getLast?.map Char.toLower :=
  List.getLast?_map

theorem dropLast_lowered (text : List Char) : (lowered text).dropLast = lowered text.dropLast :=
  List.map_dropLast.symm

theorem tail_lowered (text : List Char) : (lowered text).tail = lowered text.tail :=
  List.map_tail.symm

theorem trimStart_lowered (text : List Char) :
    trimStart (lowered text) = lowered (trimStart text) :=
  dropWhile_lowered caseBlind_isBlank text

theorem trimEnd_lowered (text : List Char) : trimEnd (lowered text) = lowered (trimEnd text) := by
  rw [trimEnd, trimEnd, reverse_lowered, dropWhile_lowered caseBlind_isBlank, reverse_lowered]

theorem trim_lowered (text : List Char) : trim (lowered text) = lowered (trim text) := by
  rw [trim, trim, trimStart_lowered, trimEnd_lowered]

/-! ## Finding a keyword or a symbol -/

theorem strip?_lowered {same : Char → Char → Bool} {symbol : List Char}
    (blind : ∀ s ∈ symbol, CaseBlind (same s)) (text : List Char) :
    strip? same symbol (lowered text) = (strip? same symbol text).map lowered := by
  induction symbol generalizing text with
  | nil => rfl
  | cons s symbol ih =>
      cases text with
      | nil => rfl
      | cons c text =>
          obtain ⟨sBlind, restBlind⟩ := List.forall_mem_cons.1 blind
          rw [lowered_cons, strip?, strip?, sBlind c, ih restBlind text]
          split <;> rfl

/-- The symbol of an operator is told without the case of letters. -/
theorem caseBlind_symbol {symbol : List Char} (noLetters : ∀ s ∈ symbol, s.isAlpha = false) :
    ∀ s ∈ symbol, CaseBlind fun c => s == c :=
  fun s isIn => caseBlind_beq (noLetters s isIn)

section Keyword

variable {keyword : List Char} (blind : CaseBlindKeyword keyword)
include blind

theorem wordAt?_lowered (before : Option Char) (text : List Char) :
    wordAt? keyword (before.map Char.toLower) (lowered text) =
      (wordAt? keyword before text).map lowered := by
  rw [wordAt?, wordAt?, strip?_lowered blind, Option.any_map]
  have sameBefore : before.any (fun c => isWordChar c.toLower) = before.any isWordChar :=
    congrArg (before.any ·) caseBlind_isWordChar.comp_eq
  rw [sameBefore]
  split
  · rfl
  · cases strip? matchesLetter keyword text with
    | none => rfl
    | some rest =>
        simp only [Option.map_some, any_head?_lowered caseBlind_isWordChar]
        split <;> rfl

theorem wordAt?_none_lowered (text : List Char) :
    wordAt? keyword none (lowered text) = (wordAt? keyword none text).map lowered :=
  wordAt?_lowered blind none text

theorem splitAtWord?_lowered (before : Option Char) (text : List Char) :
    splitAtWord? keyword (before.map Char.toLower) (lowered text) =
      (splitAtWord? keyword before text).map (Prod.map lowered lowered) := by
  induction text generalizing before with
  | nil => rfl
  | cons c rest ih =>
      have behind := ih (some c)
      rw [Option.map_some] at behind
      rw [lowered_cons, splitAtWord?, splitAtWord?, ← lowered_cons, wordAt?_lowered blind before]
      cases wordAt? keyword before (c :: rest) with
      | some after => rfl
      | none =>
          simp only [Option.map_none, behind]
          cases splitAtWord? keyword (some c) rest <;> rfl

end Keyword

theorem splitAtSymbol?_lowered {symbol : List Char} (noLetters : ∀ s ∈ symbol, s.isAlpha = false)
    (text : List Char) :
    splitAtSymbol? symbol (lowered text) =
      (splitAtSymbol? symbol text).map (Prod.map lowered lowered) := by
  induction text with
  | nil => rfl
  | cons c rest ih =>
      rw [lowered_cons, splitAtSymbol?, splitAtSymbol?, ← lowered_cons,
        strip?_lowered (caseBlind_symbol noLetters)]
      cases strip? (· == ·) symbol (c :: rest) with
      | some after => rfl
      | none =>
          simp only [Option.map_none, ih]
          cases splitAtSymbol? symbol rest <;> rfl

end CsvQuery.Text
