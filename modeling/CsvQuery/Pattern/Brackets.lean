import CsvQuery.Pattern.Escape

/-!
# Sets of characters

A set stands in brackets and holds characters, ranges, escapes, named sets and other
sets.  Operators of two equal marks combine what stands on their two sides.  The
sets that are open at a place form a stack, since a fault points at the innermost.
-/

namespace CsvQuery.Pattern

open CsvQuery.Text

set_option autoImplicit false

/-- Items of a set, in the order they are read. -/
structure SetItems where
  /-- Where the first of them would stand if there were none. -/
  start : Nat
  /-- The items. -/
  items : List SetItem

namespace SetItems

/-- The items with one more. -/
def push (set : SetItems) (item : SetItem) : SetItems :=
  { set with items := set.items ++ [item] }

/-- The items as one. -/
def toItem (set : SetItems) : SetItem :=
  match set.items with
  | [] => .nothing ⟨set.start, set.start⟩
  | [item] => item
  | first :: rest => .union ⟨first.span.start, (rest.getLastD first).span.stop⟩ set.items

end SetItems

/-- A set whose closing bracket has not been read. -/
structure OpenSet where
  /-- Where the front of the set stands. -/
  front : Span
  /-- Whether the set holds the characters that are not given. -/
  negated : Bool
  /-- The items in front of the set in the set around it. -/
  outer : SetItems
  /-- What stands on the left of the last operator, if there is one. -/
  left : Option SetItem

namespace OpenSet

/-- What an open set holds after some more items. -/
def combine (opened : OpenSet) (items : SetItems) : SetItem :=
  let right := items.toItem
  match opened.left with
  | none => right
  | some left => .operation ⟨left.span.start, right.span.stop⟩ left right

/-- The fault of a set that is not closed. -/
def unclosed (opened : OpenSet) : Fault := ⟨.setUnclosed, opened.front, none⟩

end OpenSet

/-- The item of a single character at a place. -/
def literalAt (cursor : Cursor) (c : Char) : SetItem := .atom ⟨cursor.char, .literal c false⟩

/-- Reads the dashes at the front of a set, which stand for themselves. -/
def readDashes (start : Nat) : Nat → SetItems → Cursor → Except Fault (SetItems × Cursor)
  | 0, items, cursor => .ok (items, cursor)
  | count + 1, items, cursor =>
      match cursor.rest with
      | '-' :: _ =>
          if cursor.next.rest.isEmpty then .error ⟨.setUnclosed, ⟨start, start⟩, none⟩
          else readDashes start count (items.push (literalAt cursor '-')) cursor.next
      | _ => .ok (items, cursor)

/-- A place in a set that started at another, unless the pattern ends there. -/
def insideSet (start : Nat) (cursor : Cursor) : Except Fault Cursor :=
  if cursor.rest.isEmpty then .error ⟨.setUnclosed, cursor.since start, none⟩ else .ok cursor

/-- Reads the front of the set whose opening bracket stands at a place: a caret that
negates it, dashes, and a closing bracket if nothing stands in front of it. -/
def openSet (outer : SetItems) (cursor : Cursor) :
    Except Fault (OpenSet × SetItems × Cursor) := do
  let start := cursor.index
  let first ← insideSet start cursor.next
  let negated := first.rest.head? == some '^'
  let second ← if negated then insideSet start first.next else pure first
  let (dashes, third) ← readDashes start second.rest.length ⟨second.index, []⟩ second
  let bracketFirst := dashes.items.isEmpty && third.rest.head? == some ']'
  let fourth ← if bracketFirst then insideSet start third.next else pure third
  let items := if bracketFirst then dashes.push (literalAt third ']') else dashes
  return (⟨fourth.since start, negated, outer, none⟩, items, fourth)

/-- The names of the named sets. -/
def setNames : List String :=
  ["alnum", "alpha", "ascii", "blank", "cntrl", "digit", "graph", "lower", "print", "punct",
   "space", "upper", "word", "xdigit"]

/-- The named set at a place, and the place behind it. -/
def namedSet? (cursor : Cursor) : Option (SetItem × Cursor) :=
  match cursor.rest with
  | '[' :: ':' :: text =>
      let negated := text.head? == some '^'
      let name := (if negated then text.drop 1 else text).takeWhile (· != ':')
      let length := (if negated then 3 else 2) + name.length
      let last := cursor.advance (length + 2)
      if String.ofList name ∈ setNames ∧ (cursor.rest.drop length).take 2 = [':', ']'] then
        some (.named (last.since cursor.index) negated, last)
      else none
  | _ => none

/-- The character or escape at a place in a set, and the place behind it. -/
def readSetAtom (cursor : Cursor) : Except Fault (Atom × Cursor) :=
  match cursor.rest with
  | '\\' :: _ => readEscape cursor
  | c :: _ => .ok (⟨cursor.char, .literal c false⟩, cursor.advance 1)
  | [] => .error ⟨.setUnclosed, cursor.here, none⟩

/-- The item an atom is in a set. -/
def SetItem.ofAtom (atom : Atom) : Except Fault SetItem :=
  match atom.kind with
  | .literal _ _ | .shorthand _ | .property _ => .ok (.atom atom)
  | _ => .error ⟨.escapeInSet, atom.span, none⟩

/-- The character that an end of a range is. -/
def rangeEnd (atom : Atom) : Except Fault Char :=
  match atom.kind with
  | .literal c _ => .ok c
  | _ => .error ⟨.rangeEnd, atom.span, none⟩

/-- The range from one atom to another. -/
def SetItem.ofRange (first last : Atom) : Except Fault SetItem := do
  let low ← rangeEnd first
  let high ← rangeEnd last
  if low ≤ high then return .range first last
  else throw ⟨.rangeReversed, ⟨first.span.start, last.span.stop⟩, none⟩

/-- The item at a place in an open set, and the place behind it.  A dash makes a
range, unless a closing bracket or another dash follows it. -/
def readSetItem (opened : OpenSet) (cursor : Cursor) : Except Fault (SetItem × Cursor) := do
  let (first, afterFirst) ← readSetAtom cursor
  let dash := afterFirst.skipLoose
  match dash.rest with
  | [] => throw opened.unclosed
  | c :: _ =>
      if c != '-' || dash.peek? == some ']' || dash.peek? == some '-' then
        return (← SetItem.ofAtom first, dash)
      else if dash.next.rest.isEmpty then throw opened.unclosed
      else
        let (last, afterLast) ← readSetAtom dash.next
        return (← SetItem.ofRange first last, afterLast)

/-- Whether an operator on sets stands at the front of a text. -/
def startsOperator : List Char → Bool
  | '&' :: '&' :: _ | '-' :: '-' :: _ | '~' :: '~' :: _ => true
  | _ => false

/-- Reads the rest of an open set and of those around it, in at most a given number
of steps. -/
def readSetSteps : Nat → OpenSet → List OpenSet → SetItems → Cursor →
    Except Fault (SetItem × Cursor)
  | 0, opened, _, _, _ => .error opened.unclosed
  | steps + 1, opened, around, items, place =>
      let cursor := place.skipLoose
      match cursor.rest with
      | [] => .error opened.unclosed
      | '[' :: _ =>
          match namedSet? cursor with
          | some (item, last) => readSetSteps steps opened around (items.push item) last
          | none =>
              match openSet items cursor with
              | .error fault => .error fault
              | .ok (inner, front, last) =>
                  readSetSteps steps inner (opened :: around) front last
      | ']' :: _ =>
          let last := cursor.advance 1
          let span := last.since opened.front.start
          let closed := SetItem.set span opened.negated (opened.combine items)
          match around with
          | [] => .ok (closed, last)
          | next :: others => readSetSteps steps next others (opened.outer.push closed) last
      | text =>
          if startsOperator text then
            let last := cursor.advance 2
            let combined := { opened with left := some (opened.combine items) }
            readSetSteps steps combined around ⟨last.index, []⟩ last
          else
            match readSetItem opened cursor with
            | .error fault => .error fault
            | .ok (item, last) => readSetSteps steps opened around (items.push item) last

/-- The set whose opening bracket stands at a place, and the place behind it. -/
def readSet (cursor : Cursor) : Except Fault (SetItem × Cursor) := do
  let (opened, items, last) ← openSet ⟨cursor.index, []⟩ cursor
  readSetSteps cursor.rest.length opened [] items last

end CsvQuery.Pattern
