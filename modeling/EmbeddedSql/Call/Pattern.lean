import EmbeddedSql.Text.Casing

/-! Patterns for the names of functions.

`?` stands for one character, `*` for any number of them, and a class in brackets for one of
its members. `**` stands for whole components of a path and must be one itself. Letters of
ASCII match in either case, all others exactly as they are written. -/
namespace EmbeddedSql.Call

open Text

inductive PatternFault
  /-- More than two stars in a row. -/
  | tooManyStars
  /-- Two stars beside something else than a slash. -/
  | partOfComponent
  /-- A class without members or without an end. -/
  | badClass
deriving DecidableEq, Repr

/-- Why a text is no pattern, and how many characters stand in front of the fault. -/
structure PatternError where
  position : Nat
  fault : PatternFault
deriving DecidableEq, Repr

def PatternFault.message : PatternFault → String
  | tooManyStars => "wildcards are either regular \x60*\x60 or recursive \x60**\x60"
  | partOfComponent => "recursive wildcards must form a single path component"
  | badClass => "invalid range pattern"

def PatternError.message (e : PatternError) : String :=
  "Pattern syntax error near position " ++ toString e.position ++ ": " ++ e.fault.message

/-- Members of a class. -/
inductive Members
  | single (c : Char)
  | range (first last : Char)
deriving DecidableEq, Repr

inductive PatternPart
  | char (c : Char)
  /-- `?` -/
  | one
  /-- `*` -/
  | run
  /-- `**` -/
  | components
  | oneOf (members : List Members)
  | noneOf (members : List Members)
deriving DecidableEq, Repr

/-! ### Reading -/

/-- What stands between the brackets of a class. -/
def membersOf : List Char → List Members
  | first :: '-' :: last :: cs => .range first last :: membersOf cs
  | c :: cs => .single c :: membersOf cs
  | [] => []

/-- The class being read: where it started, whether it is negated, and its members so far,
the last one first. -/
structure OpenClass where
  start : Nat
  negated : Bool
  read : List Char

def OpenClass.part (o : OpenClass) : PatternPart :=
  let members := membersOf o.read.reverse
  if o.negated then .noneOf members else .oneOf members

/-- The parts of a pattern from character `place` on. `before` is the character in front, if
there is one, and `opened` the class that is being read. A closing bracket is a member if it
is the first one. -/
def partsFrom (place : Nat) (before : Option Char) (opened : Option OpenClass) :
    List Char → Except PatternError (List PatternPart)
  | [] =>
    match opened with
    | none => .ok []
    | some o => .error ⟨o.start, .badClass⟩
  | c :: cs =>
    match opened with
    | some o =>
      if c = ']' && !o.read.isEmpty then
        (partsFrom (place + 1) (some c) none cs).map (o.part :: ·)
      else if c = '!' && o.read.isEmpty && !o.negated && place = o.start + 1 then
        partsFrom (place + 1) (some c) (some {o with negated := true}) cs
      else partsFrom (place + 1) (some c) (some {o with read := c :: o.read}) cs
    | none =>
      match c, cs with
      | '[', cs => partsFrom (place + 1) (some c) (some ⟨place, false, []⟩) cs
      | '?', cs => (partsFrom (place + 1) (some c) none cs).map (.one :: ·)
      | '*', '*' :: '*' :: _ => .error ⟨place + 2, .tooManyStars⟩
      | '*', '*' :: cs =>
        match before with
        | none | some '/' =>
          match cs with
          | [] => .ok [.components]
          | '/' :: cs => (partsFrom (place + 3) (some '/') none cs).map (.components :: ·)
          | _ :: _ => .error ⟨place + 2, .partOfComponent⟩
        | some _ => .error ⟨place - 1, .partOfComponent⟩
      | '*', cs => (partsFrom (place + 1) (some c) none cs).map (.run :: ·)
      | c, cs => (partsFrom (place + 1) (some c) none cs).map (.char c :: ·)

/-- A pattern as it was written, and its parts. -/
structure Pattern where
  text : String
  parts : List PatternPart
deriving Repr

def Pattern.read (text : String) : Except PatternError Pattern :=
  (partsFrom 0 none none text.toList).map (⟨text, ·⟩)

/-! ### Matching -/

def isAscii (c : Char) : Bool := c.toNat < 128

/-- Equality in either case, for ASCII. -/
def sameChar (c d : Char) : Bool :=
  if isAscii c && isAscii d then c.toLower = d.toLower else c = d

/-- Between two characters; between two letters of ASCII in either case. -/
def inRange (first last c : Char) : Bool :=
  (first ≤ c && c ≤ last) ||
    (isAscii c && first.isAlpha && last.isAlpha &&
      first.toLower ≤ c.toLower && c.toLower ≤ last.toLower)

def Members.contains (c : Char) : Members → Bool
  | single d => sameChar c d
  | range first last => inRange first last c

def PatternPart.matchesChar (c : Char) : PatternPart → Bool
  | .char d => sameChar c d
  | .one => true
  | .oneOf members => members.any (·.contains c)
  | .noneOf members => !members.any (·.contains c)
  | .run | .components => false

/-- Tries what is left of a text behind each of its characters, the end included. -/
def anySuffix (p : List Char → Bool) : List Char → Bool
  | [] => p []
  | c :: cs => p (c :: cs) || anySuffix p cs

/-- Tries what is left of a text behind each of its slashes, and its end. -/
def anyComponent (p : List Char → Bool) : List Char → Bool
  | [] => p []
  | c :: cs => (c = '/' && p cs) || anyComponent p cs

def matchParts : List PatternPart → List Char → Bool
  | [], cs => cs.isEmpty
  | .run :: parts, cs => anySuffix (matchParts parts) cs
  | .components :: parts, cs => matchParts parts cs || anyComponent (matchParts parts) cs
  | _ :: _, [] => false
  | part :: parts, c :: cs => part.matchesChar c && matchParts parts cs

def Pattern.matches (p : Pattern) (name : String) : Bool := matchParts p.parts name.toList

/-- Patterns are the same if they differ in case only. -/
def Pattern.key (p : Pattern) : String := lower p.text

instance : BEq Pattern := ⟨fun p q => p.key == q.key⟩

end EmbeddedSql.Call
