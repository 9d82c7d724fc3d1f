import ExprLang.Pattern.CharSet

/-!
# Patterns

Regular expressions and how they match. A pattern that begins at a place in a text can end at
several places; `Pattern.ends` lists them in the order of preference, which is that of a search
that takes the first alternative first and repeats as often as it can, or as rarely if so
marked. The match in a text is the leftmost one, and of those the most preferred.
-/

namespace ExprLang

/-- A place of a certain kind in a text, without any extent. -/
inductive Boundary where
  | textStart | textEnd
  | lineStart | lineEnd
  /-- The start of a line where a line may also end with a carriage return. -/
  | returnStart
  /-- The end of a line where a line may also end with a carriage return. -/
  | returnEnd
  | wordBoundary | notWordBoundary
  | wordStart | wordEnd
  /-- No word character comes before. -/
  | afterNoWord
  /-- No word character comes after. -/
  | beforeNoWord
deriving DecidableEq, Repr, Inhabited

/-- A regular expression. -/
inductive Pattern where
  | empty
  | char (set : CharSet)
  | boundary (b : Boundary)
  | concat (p q : Pattern)
  | either (p q : Pattern)
  /-- At least `least` times, and at most `most` times if there is a limit. -/
  | repeated (p : Pattern) (least : Nat) (most : Option Nat) (greedy : Bool)
deriving Repr, Inhabited

/-- Whether the place before the character with index `i` is of a kind. -/
def Boundary.holds (text : Array Char) (i : Nat) : Boundary → Bool
  | textStart => i == 0
  | textEnd => i == text.size
  | lineStart => i == 0 || text[i - 1]? == some '\n'
  | lineEnd => i == text.size || text[i]? == some '\n'
  | returnStart =>
    i == 0 || text[i - 1]? == some '\n' ||
      (text[i - 1]? == some '\r' && text[i]? != some '\n')
  | returnEnd =>
    i == text.size || text[i]? == some '\r' ||
      (text[i]? == some '\n' && (i == 0 || text[i - 1]? != some '\r'))
  | wordBoundary => wordBefore != wordAfter
  | notWordBoundary => wordBefore == wordAfter
  | wordStart => !wordBefore && wordAfter
  | wordEnd => wordBefore && !wordAfter
  | afterNoWord => !wordBefore
  | beforeNoWord => !wordAfter
where
  /-- Whether a word character comes before the place. -/
  wordBefore : Bool := i != 0 && (text[i - 1]?).any Text.isWord
  /-- Whether a word character comes after the place. -/
  wordAfter : Bool := (text[i]?).any Text.isWord

namespace Pattern

/-- How many characters, boundaries and choices a pattern has when its repetitions are written
out. -/
def extent : Pattern → Nat
  | empty => 0
  | char _ | boundary _ => 1
  | concat p q => p.extent + q.extent
  | either p q => p.extent + q.extent + 1
  | repeated p least none _ => least.max 1 * p.extent + 1
  | repeated p least (some most) _ => most * p.extent + (most - least)

/-- The list without later occurrences of a number. -/
def firstOccurrences (ns : List Nat) : List Nat :=
  ns.foldl (fun kept n => if kept.contains n then kept else kept ++ [n]) []

/-- The places reached by one step from each of several places. -/
def stepAll (step : Nat → List Nat) (places : List Nat) : List Nat :=
  firstOccurrences (places.flatMap step)

/-- The places reached by exactly `n` steps. -/
def stepTimes (step : Nat → List Nat) : Nat → List Nat → List Nat
  | 0, places => places
  | n + 1, places => stepTimes step n (stepAll step places)

/-- The places reached by at most `n` steps. -/
def stepUpTo (step : Nat → List Nat) (greedy : Bool) : Nat → Nat → List Nat
  | 0, place => [place]
  | n + 1, place =>
    let more := stepAll (fun next => stepUpTo step greedy n next) (step place)
    firstOccurrences (if greedy then more ++ [place] else place :: more)

/-- A walk through the places of a repetition: where it has started a round, and the places that
it has given so far. -/
structure Walk where
  started : List Nat
  given : List Nat

/-- The walk with one more place given, unless it has been given before. -/
def Walk.give (w : Walk) (place : Nat) : Walk :=
  if w.given.contains place then w else { w with given := w.given ++ [place] }

/-- Walks one or more steps from a place. A step that gets nowhere ends the repetition, and no
round is started twice at one place. The first argument bounds the number of steps in a row that
get somewhere. -/
def walk (step : Nat → List Nat) (greedy : Bool) : Nat → Nat → Walk → Walk
  | 0, _, w => w
  | fuel + 1, place, w =>
    if w.started.contains place then w
    else
      (step place).foldl (fun w next =>
        if next ≤ place then w.give next
        else if greedy then (walk step greedy fuel next w).give next
        else walk step greedy fuel next (w.give next)) { w with started := place :: w.started }

/-- The places where a pattern that begins at `place` can end, the preferred ones first. -/
def ends (text : Array Char) : Pattern → Nat → List Nat
  | empty, place => [place]
  | char set, place =>
    match text[place]? with
    | some c => if set.contains c then [place + 1] else []
    | none => []
  | boundary b, place => if b.holds text place then [place] else []
  | concat p q, place => stepAll (ends text q) (ends text p place)
  | either p q, place => firstOccurrences (ends text p place ++ ends text q place)
  | repeated p least most greedy, place =>
    let step := ends text p
    match most with
    | some most => stepAll (stepUpTo step greedy (most - least)) (stepTimes step least [place])
    | none =>
      let more (from_ : Nat) := (walk step greedy (text.size + 1) from_ ⟨[], []⟩).given
      if least = 0 then
        firstOccurrences (if greedy then more place ++ [place] else place :: more place)
      else stepAll more (stepTimes step (least - 1) [place])

/-- The leftmost match that begins at `start` or behind it within the next `fuel` places: where it
begins and where it ends. -/
def findWithin (p : Pattern) (text : Array Char) : Nat → Nat → Option (Nat × Nat)
  | 0, _ => none
  | fuel + 1, start =>
    match ends text p start with
    | stop :: _ => some (start, stop)
    | [] => findWithin p text fuel (start + 1)

/-- The leftmost match at `start` or behind it. -/
def findFrom (p : Pattern) (text : Array Char) (start : Nat) : Option (Nat × Nat) :=
  findWithin p text (text.size + 1 - start) start

/-- Whether there is a match anywhere in a text. -/
def isMatch (p : Pattern) (text : Array Char) : Bool :=
  (p.findFrom text 0).isSome

/-- All matches from `start` on. After a match the search goes on at its end, but an empty match
must not touch the match before it, which ends at `last`. -/
def matchesFrom (p : Pattern) (text : Array Char) (last : Option Nat) :
    Nat → Nat → List (Nat × Nat)
  | 0, _ => []
  | fuel + 1, start =>
    let found :=
      match p.findFrom text start with
      | some (i, j) => if i = j ∧ last = some j then p.findFrom text (start + 1) else some (i, j)
      | none => none
    match found with
    | some (i, j) => (i, j) :: matchesFrom p text (some j) fuel j
    | none => []

/-- The pieces of a text between the matches of a pattern. -/
def split (p : Pattern) (text : Array Char) : List (List Char) :=
  pieces 0 (p.matchesFrom text none (2 * text.size + 2) 0)
where
  /-- The pieces from `start` on, between the given matches. -/
  pieces (start : Nat) : List (Nat × Nat) → List (List Char)
    | [] => [(text.extract start text.size).toList]
    | (i, j) :: rest => (text.extract start i).toList :: pieces j rest

end Pattern

end ExprLang
