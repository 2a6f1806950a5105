import CsvQuery.Pattern.Fault

/-!
# Patterns

A pattern is read into a tree.  Of what its parts match, the tree keeps only what
decides whether a pattern can be used: which parts stand for characters outside
ASCII, where the flags change that says whether such characters count, and which
part of the text each node comes from.
-/

namespace CsvQuery.Pattern

set_option autoImplicit false

/-- What a part of a pattern without parts of its own stands for. -/
inductive AtomKind where
  /-- A character; `isByte` if it is written as the two digits of a byte. -/
  | literal (c : Char) (isByte : Bool)
  /-- Any character. -/
  | dot
  /-- An end of a line or of the text. -/
  | anchor
  /-- A place between a word character and another, or none. -/
  | wordBoundary
  /-- The digits, blanks or word characters, or the characters that are not. -/
  | shorthand (negated : Bool)
  /-- The characters with a property, or those without it. -/
  | property (name : Char)
  deriving DecidableEq

/-- A part of a pattern without parts of its own. -/
structure Atom where
  /-- Where it stands. -/
  span : Span
  /-- What it stands for. -/
  kind : AtomKind
  deriving DecidableEq

/-- What can stand in a set of characters. -/
inductive SetItem where
  /-- Nothing. -/
  | nothing (span : Span)
  /-- A character, a shorthand or a property. -/
  | atom (atom : Atom)
  /-- A range of characters. -/
  | range (first last : Atom)
  /-- A named set, or the characters that are not in it. -/
  | named (span : Span) (negated : Bool)
  /-- Several items. -/
  | union (span : Span) (items : List SetItem)
  /-- Two items with an operator between them. -/
  | operation (span : Span) (left right : SetItem)
  /-- A set in brackets, or the characters that are not in it. -/
  | set (span : Span) (negated : Bool) (content : SetItem)

/-- A pattern or a part of one. -/
inductive Node where
  /-- Nothing. -/
  | nothing (span : Span)
  /-- A change of flags, and what it says about characters outside ASCII. -/
  | flags (span : Span) (unicode : Option Bool)
  /-- A part without parts of its own. -/
  | atom (atom : Atom)
  /-- A set of characters. -/
  | set (item : SetItem)
  /-- A repetition. -/
  | repetition (span : Span) (body : Node)
  /-- A group, and what its flags say about characters outside ASCII. -/
  | group (span : Span) (unicode : Option Bool) (body : Node)
  /-- One part after another. -/
  | sequence (span : Span) (parts : List Node)
  /-- One of several branches. -/
  | alternation (span : Span) (branches : List Node)

/-- Where an item stands. -/
def SetItem.span : SetItem → Span
  | .nothing span | .named span _ | .union span _ | .operation span _ _ | .set span _ _ => span
  | .atom leaf => leaf.span
  | .range first last => ⟨first.span.start, last.span.stop⟩

/-- Where a part of a pattern stands. -/
def Node.span : Node → Span
  | .nothing span | .flags span _ | .repetition span _ | .group span _ _ | .sequence span _
  | .alternation span _ => span
  | .atom leaf => leaf.span
  | .set item => item.span

/-! ## Depth -/

mutual

/-- The first item, outer before inner ones, that lies too deep, if `depth` parts
are around the given one. -/
def SetItem.tooDeep? (depth : Nat) : SetItem → Option Span
  | .nothing _ | .atom _ | .range _ _ | .named _ _ => none
  | .union span items =>
      if depthLimit ≤ depth then some span else SetItem.anyTooDeep? (depth + 1) items
  | .operation span left right =>
      if depthLimit ≤ depth then some span
      else (left.tooDeep? (depth + 1)).or (right.tooDeep? (depth + 1))
  | .set span _ content =>
      if depthLimit ≤ depth then some span else content.tooDeep? (depth + 1)

/-- The first of some items and what is in them that lies too deep. -/
def SetItem.anyTooDeep? (depth : Nat) : List SetItem → Option Span
  | [] => none
  | item :: rest => (item.tooDeep? depth).or (SetItem.anyTooDeep? depth rest)

end

mutual

/-- The first part of a pattern, outer before inner ones, that lies too deep, if
`depth` parts are around the given one. -/
def Node.tooDeep? (depth : Nat) : Node → Option Span
  | .nothing _ | .flags _ _ | .atom _ => none
  | .set item => item.tooDeep? depth
  | .repetition span body | .group span _ body =>
      if depthLimit ≤ depth then some span else body.tooDeep? (depth + 1)
  | .sequence span nodes | .alternation span nodes =>
      if depthLimit ≤ depth then some span else Node.anyTooDeep? (depth + 1) nodes

/-- The first of some parts and what is in them that lies too deep. -/
def Node.anyTooDeep? (depth : Nat) : List Node → Option Span
  | [] => none
  | node :: rest => (node.tooDeep? depth).or (Node.anyTooDeep? depth rest)

end

end CsvQuery.Pattern
