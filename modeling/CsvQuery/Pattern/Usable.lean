import CsvQuery.Pattern.Reader

/-!
# Patterns that can be used

A well-formed pattern may still be of no use.  Its parts must not be too deep inside
each other; where its flags say that bytes are meant and not characters, no part may
match a byte outside ASCII; and where they do not, no part may look for the places
between words, because that needs more than one byte of the text at a time.
-/

namespace CsvQuery.Pattern

set_option autoImplicit false

/-- Whether a letter names a property, in either case: one of the groups of general
categories. -/
def isPropertyName (name : Char) : Bool :=
  name.toLower ∈ ['c', 'l', 'm', 'n', 'p', 's', 'z']

/-- What is wrong with an atom, where characters outside ASCII count or not. -/
def Atom.fault? (unicode : Bool) (atom : Atom) : Option Fault :=
  let fault? (isFaulty : Bool) (kind : FaultKind) : Option Fault :=
    if isFaulty then some ⟨kind, atom.span, none⟩ else none
  match atom.kind with
  | .literal c isByte => fault? (!unicode && isByte && 127 < c.toNat) .invalidUtf8
  | .dot => fault? (!unicode) .invalidUtf8
  | .anchor | .wordBoundary => none
  | .shorthand negated => fault? (!unicode && negated) .invalidUtf8
  | .property name =>
      (fault? (!unicode) .unicodeNotAllowed).or (fault? (!isPropertyName name) .propertyUnknown)

/-- What is wrong with an atom in a set: there, a character must also be a byte if
bytes are meant. -/
def Atom.setFault? (unicode : Bool) (atom : Atom) : Option Fault :=
  (atom.fault? unicode).or <|
    match atom.kind with
    | .literal c _ =>
        if !unicode && 127 < c.toNat then some ⟨.unicodeNotAllowed, atom.span, none⟩ else none
    | _ => none

/-- What is wrong with the negation of a set of characters: if bytes are meant, it
has those outside ASCII. -/
def negationFault? (unicode negated : Bool) (span : Span) : Option Fault :=
  if !unicode && negated then some ⟨.invalidUtf8, span, none⟩ else none

mutual

/-- What is wrong with an item of a set. -/
def SetItem.fault? (unicode : Bool) : SetItem → Option Fault
  | .nothing _ => none
  | .atom leaf => leaf.setFault? unicode
  | .range first last => (first.setFault? unicode).or (last.setFault? unicode)
  | .named span negated => negationFault? unicode negated span
  | .union _ items => SetItem.firstFault? unicode items
  | .operation _ left right => (left.fault? unicode).or (right.fault? unicode)
  | .set span negated content =>
      (content.fault? unicode).or (negationFault? unicode negated span)

/-- What is wrong with the first of some items that is not right. -/
def SetItem.firstFault? (unicode : Bool) : List SetItem → Option Fault
  | [] => none
  | item :: rest => (item.fault? unicode).or (SetItem.firstFault? unicode rest)

end

/-- What is known at a place of a pattern. -/
structure Usage where
  /-- Whether characters outside ASCII count. -/
  unicode : Bool
  /-- Whether a place between words has been looked for where they do. -/
  looksForWords : Bool

/-- What is known behind a part that may have a fault. -/
def Usage.unless (usage : Usage) : Option Fault → Except Fault Usage
  | some fault => .error fault
  | none => .ok usage

mutual

/-- What is known behind a part of a pattern. -/
def Node.use (usage : Usage) : Node → Except Fault Usage
  | .nothing _ => .ok usage
  | .flags _ unicode => .ok { usage with unicode := unicode.getD usage.unicode }
  | .atom leaf =>
      let looks := usage.unicode && leaf.kind == .wordBoundary
      { usage with looksForWords := usage.looksForWords || looks }.unless
        (leaf.fault? usage.unicode)
  | .set item => usage.unless (item.fault? usage.unicode)
  | .repetition _ body => body.use usage
  | .group _ unicode body =>
      (body.use { usage with unicode := unicode.getD usage.unicode }).map fun inner =>
        { inner with unicode := usage.unicode }
  | .sequence _ nodes | .alternation _ nodes => Node.useAll usage nodes

/-- What is known behind several parts of a pattern, one after another. -/
def Node.useAll (usage : Usage) : List Node → Except Fault Usage
  | [] => .ok usage
  | node :: rest =>
      match node.use usage with
      | .error fault => .error fault
      | .ok next => Node.useAll next rest

end

/-- Why a pattern cannot be used. -/
inductive PatternError where
  /-- The pattern has a fault. -/
  | faulty (pattern : List Char) (fault : Fault)
  /-- The pattern looks for places between words. -/
  | looksForWords
  deriving DecidableEq

namespace PatternError

/-- The texts of the error and of what caused it. -/
def causes : PatternError → List String
  | faulty pattern fault =>
      ["error building NFA", "error parsing regex", fault.message pattern]
  | looksForWords =>
      ["unsupported regex feature for DFAs: cannot build DFAs for regexes with Unicode word " ++
       "boundaries; switch to ASCII word boundaries, or heuristically enable Unicode word " ++
       "boundaries or use a different regex engine"]

/-- The text of the error. -/
def message (error : PatternError) : String := error.causes.headD ""

end PatternError

/-- Reads a pattern and tells whether it looks for places between words. -/
def looksForWords (pattern : List Char) : Except Fault Bool := do
  let node ← read pattern
  if let some span := node.tooDeep? 0 then throw ⟨.tooDeep, span, none⟩
  let usage ← node.use ⟨true, false⟩
  return usage.looksForWords

/-- Why a pattern cannot be used, if it cannot. -/
def error? (pattern : List Char) : Option PatternError :=
  match looksForWords pattern with
  | .error fault => some (.faulty pattern fault)
  | .ok true => some .looksForWords
  | .ok false => none

end CsvQuery.Pattern
