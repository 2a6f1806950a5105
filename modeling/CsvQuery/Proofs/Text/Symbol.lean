import CsvQuery.Text.Search
import Mathlib.Data.List.Infix

/-!
# Symbols in a text

The search of `splitAtSymbol?` finds a symbol exactly when the symbol is an infix
of the text (`splitAtSymbol?_eq_none_iff`).  A character that is not part of the
symbol divides the search as it divides the infixes: the symbol is looked for in
front of the character first and behind it afterwards
(`splitAtSymbol?_append_cons`, `infix_append_cons_iff`).
-/

set_option autoImplicit false

namespace CsvQuery.Text

theorem strip?_beq_eq_some_iff {symbol text rest : List Char} :
    strip? (· == ·) symbol text = some rest ↔ text = symbol ++ rest := by
  induction symbol generalizing text with
  | nil => simp [strip?]
  | cons s symbol ih =>
      cases text with
      | nil => simp [strip?]
      | cons c text =>
          rw [strip?]
          split
          next same =>
            rw [ih, eq_of_beq same]
            simp
          next different =>
            have apart : c ≠ s := fun same => different (by simp [same])
            simp [apart]

theorem strip?_beq_eq_none_iff {symbol text : List Char} :
    strip? (· == ·) symbol text = none ↔ ¬ symbol <+: text := by
  rw [Option.eq_none_iff_forall_ne_some]
  constructor
  · rintro refuses ⟨rest, split⟩
    exact refuses rest (strip?_beq_eq_some_iff.2 split.symm)
  · intro noPrefix rest found
    exact noPrefix ⟨rest, (strip?_beq_eq_some_iff.1 found).symm⟩

/-- **The search fails exactly on the texts without the symbol.** -/
theorem splitAtSymbol?_eq_none_iff {symbol : List Char} (nonempty : symbol ≠ [])
    (text : List Char) : splitAtSymbol? symbol text = none ↔ ¬ symbol <:+: text := by
  induction text with
  | nil => simpa [splitAtSymbol?] using nonempty
  | cons c rest ih =>
      rw [splitAtSymbol?, List.infix_cons_iff, not_or, ← strip?_beq_eq_none_iff]
      split
      next after here => simp [here]
      next notHere => simp [notHere, ih]

/-- What the search returns are the parts around an occurrence. -/
theorem eq_append_of_splitAtSymbol? {symbol text front after : List Char}
    (found : splitAtSymbol? symbol text = some (front, after)) :
    text = front ++ symbol ++ after := by
  induction text generalizing front with
  | nil => cases found
  | cons c rest ih =>
      rw [splitAtSymbol?] at found
      split at found
      next after' here =>
        cases found
        exact strip?_beq_eq_some_iff.1 here
      next =>
        obtain ⟨⟨restFront, restAfter⟩, restFound, same⟩ := Option.map_eq_some_iff.1 found
        cases same
        rw [ih restFound]
        rfl

/-- A symbol does not reach past a character it does not contain. -/
theorem prefix_append_cons_iff {symbol : List Char} {separator : Char} (apart : separator ∉ symbol)
    (front rest : List Char) : symbol <+: front ++ separator :: rest ↔ symbol <+: front := by
  constructor
  · rintro ⟨after, split⟩
    rcases List.append_eq_append_iff.1 split with ⟨tail, same, -⟩ | ⟨tail, rfl, same⟩
    · exact ⟨tail, same.symm⟩
    · cases tail with
      | nil => exact ⟨[], by simp⟩
      | cons c tail =>
          obtain ⟨rfl, -⟩ := List.cons.inj same
          exact absurd (by simp) apart
  · rintro ⟨after, rfl⟩
    exact ⟨after ++ separator :: rest, by simp⟩

/-- **A symbol occurs in a text exactly when it occurs on one side of a character
it does not contain.** -/
theorem infix_append_cons_iff {symbol : List Char} (nonempty : symbol ≠ []) {separator : Char}
    (apart : separator ∉ symbol) (front rest : List Char) :
    symbol <:+: front ++ separator :: rest ↔ symbol <:+: front ∨ symbol <:+: rest := by
  induction front with
  | nil =>
      have noPrefix : ¬ symbol <+: separator :: rest := by
        intro isPrefix
        have empty := (prefix_append_cons_iff apart [] rest).1 isPrefix
        exact nonempty (List.prefix_nil.1 empty)
      rw [List.nil_append, List.infix_cons_iff, List.infix_nil]
      simp [noPrefix, nonempty]
  | cons c front ih =>
      rw [List.cons_append, List.infix_cons_iff, List.infix_cons_iff, ih, ← List.cons_append,
        prefix_append_cons_iff apart, or_assoc]

theorem splitAtSymbol?_front {symbol : List Char} (nonempty : symbol ≠ []) (after : List Char) :
    splitAtSymbol? symbol (symbol ++ after) = some ([], after) := by
  cases symbol with
  | nil => exact absurd rfl nonempty
  | cons s symbol =>
      rw [List.cons_append, splitAtSymbol?, ← List.cons_append, strip?_beq_eq_some_iff.2 rfl]

/-- A symbol at the front of a text ends in front of a character it does not contain. -/
theorem strip?_append_cons {symbol : List Char} {separator : Char} (apart : separator ∉ symbol)
    (front rest : List Char) :
    strip? (· == ·) symbol (front ++ separator :: rest) =
      (strip? (· == ·) symbol front).map (· ++ separator :: rest) := by
  cases here : strip? (· == ·) symbol front with
  | none =>
      rw [strip?_beq_eq_none_iff, ← prefix_append_cons_iff apart front rest,
        ← strip?_beq_eq_none_iff] at here
      rw [here]
      rfl
  | some after =>
      rw [strip?_beq_eq_some_iff] at here
      rw [here, Option.map_some, strip?_beq_eq_some_iff, List.append_assoc]

/-- **A character that a symbol does not contain divides the search.** -/
theorem splitAtSymbol?_append_cons {symbol : List Char} (nonempty : symbol ≠ [])
    {separator : Char} (apart : separator ∉ symbol) (front rest : List Char) :
    splitAtSymbol? symbol (front ++ separator :: rest) =
      ((splitAtSymbol? symbol front).map fun parts => (parts.1, parts.2 ++ separator :: rest)).or
        ((splitAtSymbol? symbol rest).map fun parts => (front ++ separator :: parts.1, parts.2)) := by
  induction front with
  | nil =>
      have notHere : strip? (· == ·) symbol (separator :: rest) = none := by
        rw [strip?_beq_eq_none_iff]
        intro isPrefix
        exact nonempty (List.prefix_nil.1 ((prefix_append_cons_iff apart [] rest).1 isPrefix))
      simp only [List.nil_append, splitAtSymbol?, notHere]
      rfl
  | cons c front ih =>
      rw [List.cons_append, splitAtSymbol?, splitAtSymbol?, ← List.cons_append,
        strip?_append_cons apart]
      cases here : strip? (· == ·) symbol (c :: front) with
      | some after => rfl
      | none =>
          simp only [Option.map_none, ih]
          cases splitAtSymbol? symbol front <;> cases splitAtSymbol? symbol rest <;> rfl

/-- Characters that a symbol does not contain can be put in front of a text. -/
theorem splitAtSymbol?_append_left {symbol gap : List Char} (nonempty : symbol ≠ [])
    (apart : ∀ c ∈ gap, c ∉ symbol) (text : List Char) :
    splitAtSymbol? symbol (gap ++ text) =
      (splitAtSymbol? symbol text).map fun parts => (gap ++ parts.1, parts.2) := by
  induction gap with
  | nil => simp
  | cons c gap ih =>
      obtain ⟨firstApart, restApart⟩ := List.forall_mem_cons.1 apart
      have divided := splitAtSymbol?_append_cons nonempty firstApart [] (gap ++ text)
      rw [List.nil_append] at divided
      rw [List.cons_append, divided, ih restApart]
      simp [splitAtSymbol?, Function.comp_def]

/-- Characters that a symbol does not contain can be put behind a text. -/
theorem splitAtSymbol?_append_right {symbol gap : List Char} (nonempty : symbol ≠ [])
    (apart : ∀ c ∈ gap, c ∉ symbol) (text : List Char) :
    splitAtSymbol? symbol (text ++ gap) =
      (splitAtSymbol? symbol text).map fun parts => (parts.1, parts.2 ++ gap) := by
  cases gap with
  | nil => simp
  | cons c gap =>
      obtain ⟨firstApart, restApart⟩ := List.forall_mem_cons.1 apart
      have notBehind : splitAtSymbol? symbol gap = none := by
        rw [splitAtSymbol?_eq_none_iff nonempty]
        intro occurs
        obtain ⟨s, inSymbol⟩ := List.exists_mem_of_ne_nil symbol nonempty
        exact restApart s (occurs.subset inSymbol) inSymbol
      rw [splitAtSymbol?_append_cons nonempty firstApart, notBehind]
      simp

/-- **The first occurrence of a symbol behind a text without it.** -/
theorem splitAtSymbol?_first {symbol : List Char} {separator : Char}
    (apart : separator ∉ symbol) {front : List Char} (nonempty : symbol ≠ [])
    (clear : ¬ symbol <:+: front) (after : List Char) :
    splitAtSymbol? symbol (front ++ separator :: (symbol ++ after)) =
      some (front ++ [separator], after) := by
  rw [splitAtSymbol?_append_cons nonempty apart, (splitAtSymbol?_eq_none_iff nonempty front).2 clear,
    splitAtSymbol?_front nonempty]
  rfl

/-- A symbol that is not at the front of a text is looked for behind the first
character. -/
theorem splitAtSymbol?_cons_eq_some_iff {symbol : List Char} {c : Char}
    {text front after : List Char} (notHere : ¬ symbol <+: c :: text) :
    splitAtSymbol? symbol (c :: text) = some (front, after) ↔
      ∃ rest, front = c :: rest ∧ splitAtSymbol? symbol text = some (rest, after) := by
  rw [splitAtSymbol?, strip?_beq_eq_none_iff.2 notHere, Option.map_eq_some_iff]
  constructor
  · rintro ⟨⟨rest, restAfter⟩, found, same⟩
    cases same
    exact ⟨rest, rfl, found⟩
  · rintro ⟨rest, rfl, found⟩
    exact ⟨(rest, after), found, rfl⟩

/-- The search does not pass over an occurrence. -/
theorem length_le_of_splitAtSymbol? {symbol text front after : List Char}
    (found : splitAtSymbol? symbol text = some (front, after)) {other otherAfter : List Char}
    (occurs : text = other ++ symbol ++ otherAfter) : front.length ≤ other.length := by
  induction text generalizing front other with
  | nil => cases found
  | cons c text ih =>
      by_cases here : symbol <+: c :: text
      · obtain ⟨rest, split⟩ := here
        rw [splitAtSymbol?, strip?_beq_eq_some_iff.2 split.symm] at found
        cases found
        exact Nat.zero_le _
      · obtain ⟨rest, rfl, restFound⟩ := (splitAtSymbol?_cons_eq_some_iff here).1 found
        cases other with
        | nil => exact absurd ⟨otherAfter, occurs.symm⟩ here
        | cons d other =>
            obtain ⟨-, restOccurs⟩ := List.cons.inj occurs
            exact Nat.succ_le_succ (ih restFound restOccurs)

/-- In front of the first occurrence of a symbol there is none. -/
theorem not_infix_of_splitAtSymbol? {symbol : List Char} (nonempty : symbol ≠ [])
    {text front after : List Char} (found : splitAtSymbol? symbol text = some (front, after)) :
    ¬ symbol <:+: front := by
  rintro ⟨before, behind, rfl⟩
  have split := eq_append_of_splitAtSymbol? found
  rw [List.append_assoc, List.append_assoc] at split
  have earlier := length_le_of_splitAtSymbol? found split
  have positive := List.length_pos_iff.2 nonempty
  simp only [List.length_append] at earlier
  omega

end CsvQuery.Text
