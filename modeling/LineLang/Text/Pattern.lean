import LineLang.Text.WordChar

/-!
# Patterns

A pattern describes pieces of a text. Where it matches in several ways, they are tried in order, and
the first one counts. A pattern may mark parts of what it matches; `Pattern.marks` are the marked
parts of all matches in a text, which do not overlap.
-/

namespace LineLang.Text

/-- A pattern for a piece of text. -/
inductive Pattern
  /-- Nothing at all. -/
  | nothing
  /-- One character of a class. -/
  | one (p : Char → Bool)
  | seq (first second : Pattern)
  | either (first second : Pattern)
  /-- Repetitions, at least `least` and at most `most` of them; as few as possible if `lazily`, and
  otherwise as many as possible. -/
  | repeated (p : Pattern) (least : Nat) (most : Option Nat) (lazily : Bool)
  | marked (p : Pattern)
  /-- A place that follows no character of a class. -/
  | notAfter (p : Char → Bool)
  /-- A place where a word begins or ends, or one where none does. -/
  | wordEdge (isEdge : Bool)

/-- A place in a text, and the parts that were marked on the way to it. -/
structure Place where
  before : Option Char := none
  position : Nat := 0
  rest : List Char
  marks : List (Nat × Nat) := []

namespace Place

/-- Whether a word begins or ends at a place. -/
def isWordEdge (a : Place) : Bool :=
  a.before.any isWordChar != a.rest.head?.any isWordChar

/-- The place after the next character. -/
def next? (a : Place) : Option Place :=
  match a.rest with
  | [] => none
  | c :: rest => some { a with before := some c, position := a.position + 1, rest }

/-- What `goal` finds after repetitions of a step, `least` that must be made and `more` that may.
`advance` makes one step and hands the places that it leads to, one after another, to what follows,
until something is found. -/
def iterate (advance : (Place → Option Place) → Place → Option Place) (lazily : Bool)
    (goal : Place → Option Place) : (least more : Nat) → Place → Option Place
  | 0, 0, a => goal a
  | least + 1, more, a => advance (iterate advance lazily goal least more) a
  | 0, more + 1, a =>
    let further := advance (iterate advance lazily goal 0 more)
    if lazily then (goal a).orElse fun _ => further a else (further a).orElse fun _ => goal a

end Place

namespace Pattern

/-- What `goal` finds at the end of a match that begins at a place. The ends of matches are tried in
order until something is found. -/
def thenFind : Pattern → (goal : Place → Option Place) → Place → Option Place
  | nothing, goal, a => goal a
  | one p, goal, a => if a.rest.head?.any p then a.next?.bind goal else none
  | seq first second, goal, a => first.thenFind (second.thenFind goal) a
  | either first second, goal, a => (first.thenFind goal a).orElse fun _ => second.thenFind goal a
  | repeated p least most lazily, goal, a =>
    let more := most.getD (least + a.rest.length) - least
    Place.iterate p.thenFind lazily goal least more a
  | marked p, goal, a =>
    p.thenFind (fun b => goal { b with marks := (a.position, b.position) :: b.marks }) a
  | notAfter p, goal, a => if a.before.any p then none else goal a
  | wordEdge isEdge, goal, a => if a.isWordEdge == isEdge then goal a else none

/-- The marked parts of the matches from a place on, of which there are at most as many as
`fuel`. -/
def marksFrom (p : Pattern) : (fuel : Nat) → Place → List (Nat × Nat)
  | 0, _ => []
  | fuel + 1, a =>
    match p.thenFind (fun b => if a.position < b.position then some b else none) a, a.next? with
    | some b, _ => b.marks ++ p.marksFrom fuel { b with marks := [] }
    | none, some b => p.marksFrom fuel b
    | none, none => []

/-- The marked parts of all matches in a text, as the positions where they begin and end. -/
def marks (p : Pattern) (cs : List Char) : List (Nat × Nat) :=
  p.marksFrom cs.length { rest := cs }

/-! ## Writing patterns -/

/-- The characters of a text. -/
def literally (s : String) : Pattern :=
  s.toList.foldr (fun c p => seq (one (· == c)) p) nothing

/-- One of the characters of a text. -/
def oneOf (s : String) : Pattern :=
  one fun c => c ∈ s.toList

/-- One pattern after another. -/
def all (ps : List Pattern) : Pattern :=
  ps.foldr seq nothing

/-- One of several patterns. -/
def any (first : Pattern) (others : List Pattern) : Pattern :=
  others.foldl either first

/-- As many repetitions as possible, from `least` on. -/
def atLeast (least : Nat) (p : Pattern) : Pattern :=
  repeated p least none false

/-- As many repetitions as possible, from `least` to `most`. -/
def between (least most : Nat) (p : Pattern) : Pattern :=
  repeated p least (some most) false

/-- A pattern that may be left out. -/
def optional (p : Pattern) : Pattern :=
  between 0 1 p

end Pattern

end LineLang.Text
