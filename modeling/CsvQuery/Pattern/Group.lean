import CsvQuery.Pattern.Basic
import CsvQuery.Pattern.Cursor
import CsvQuery.Text.Alphanumeric

/-!
# Fronts of groups

A group is opened by a parenthesis, behind which a question mark may give it a name
or flags.  Flags that the closing parenthesis follows at once open no group: they
hold for the rest of the group around them.
-/

namespace CsvQuery.Pattern

open CsvQuery.Text

set_option autoImplicit false

/-- Flags in the order they are read, each with where it stands.  A dash negates the
flags behind it. -/
abbrev Flags := List (Char × Span)

/-- What some flags say about one flag, if they say anything. -/
def Flags.state? (flags : Flags) (flag : Char) : Option Bool :=
  let before := (flags.map Prod.fst).takeWhile (· != flag)
  if before.length == flags.length then none else some ('-' ∉ before)

/-- The flags. -/
def flagChars : List Char := ['i', 'm', 's', 'U', 'u', 'R', 'x']

/-- What reading an opening parenthesis leads to. -/
inductive Opening where
  /-- A group with flags for what is in it, which may be none. -/
  | group (flags : Flags)
  /-- A group with a name. -/
  | named (name : List Char) (span : Span)
  /-- Flags for what follows. -/
  | flags (flags : Flags)

/-- What is wrong with another flag behind some flags. -/
def flagFault? (flags : Flags) (flag : Char) (span : Span) : Option Fault :=
  if flag != '-' && flag ∉ flagChars then some ⟨.flagUnknown, span, none⟩
  else match flags.find? fun earlier => earlier.1 == flag with
    | some earlier =>
        some ⟨if flag == '-' then .negationRepeated else .flagRepeated, span, some earlier.2⟩
    | none => none

/-- What is wrong with flags that end: a dash is the last of them. -/
def flagsEndFault? (flags : Flags) : Option Fault :=
  match flags.getLast? with
  | some ('-', span) => some ⟨.negationDangling, span, none⟩
  | _ => none

/-- Reads flags, at most a given number of them, up to the colon or parenthesis that
ends them. -/
def readFlags : Nat → Flags → Cursor → Except Fault (Flags × Cursor)
  | 0, flags, cursor => .ok (flags, cursor)
  | count + 1, flags, cursor =>
      match cursor.rest with
      | [] => .error ⟨.flagsUnfinished, cursor.here, none⟩
      | c :: _ =>
          if c == ':' || c == ')' then
            match flagsEndFault? flags with
            | some fault => .error fault
            | none => .ok (flags, cursor)
          else
            match flagFault? flags c cursor.char with
            | some fault => .error fault
            | none => readFlags count (flags ++ [(c, cursor.char)]) (cursor.advance 1)

/-- How many characters at the front of a text can be the name of a group.  The
first of them is no digit. -/
def nameLength (isFirst : Bool) : List Char → Nat
  | [] => 0
  | c :: rest =>
      let accepted :=
        if isFirst then c == '_' || isAlphabetic c
        else c == '_' || c == '.' || c == '[' || c == ']' || isAlphanumeric c
      if accepted then nameLength false rest + 1 else 0

/-- The name of a group at a place, and the place behind the bracket that ends it. -/
def readName (cursor : Cursor) : Except Fault (Opening × Cursor) :=
  let length := nameLength true cursor.rest
  let last := cursor.advance length
  match last.rest with
  | [] => .error ⟨.nameUnfinished, last.here, none⟩
  | '>' :: _ =>
      if length = 0 then .error ⟨.nameEmpty, cursor.here, none⟩
      else
        .ok (.named (cursor.rest.take length) (last.since cursor.index), last.advance 1)
  | _ => .error ⟨.nameCharacter, last.char, none⟩

/-- The length of the mark at the front of a text that makes a group a condition on
the text around a match. -/
def lookAroundLength? : List Char → Option Nat
  | '?' :: '=' :: _ | '?' :: '!' :: _ => some 2
  | '?' :: '<' :: '=' :: _ | '?' :: '<' :: '!' :: _ => some 3
  | _ => none

/-- What is opened behind a parenthesis and a question mark, which stand at two
places, and the place behind it. -/
def readFlagged (parenthesis mark : Cursor) : Except Fault (Opening × Cursor) := do
  let first := mark.advance 1
  if first.rest.isEmpty then throw ⟨.groupUnclosed, parenthesis.char, none⟩
  let (flags, last) ← readFlags first.rest.length [] first
  match last.rest with
  | ')' :: _ =>
      if flags.isEmpty then throw ⟨.nothingToRepeat, mark.here, none⟩
      else return (.flags flags, last.advance 1)
  | _ :: _ => return (.group flags, last.advance 1)
  | [] => throw ⟨.flagsUnfinished, last.here, none⟩

/-- What the parenthesis at a place opens, and the place behind it. -/
def readOpening (cursor : Cursor) : Except Fault (Opening × Cursor) :=
  let mark := cursor.next
  match lookAroundLength? mark.rest with
  | some length => .error ⟨.lookAround, (mark.advance length).since cursor.index, none⟩
  | none =>
      match mark.rest with
      | '?' :: 'P' :: '<' :: _ => readName (mark.advance 3)
      | '?' :: '<' :: _ => readName (mark.advance 2)
      | '?' :: _ => readFlagged cursor mark
      | _ => .ok (.group [], mark)

end CsvQuery.Pattern
