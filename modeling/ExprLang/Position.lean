/-!
# Places in a text

A place is told by its offset, its line and its column. `Position.advance` follows a character, and
`Position.advanceOver` a run of characters.
-/

namespace ExprLang

/-- A place in a text: `offset` counts characters from 0, `line` and `column` count from 1. -/
structure Position where
  offset : Nat
  line : Nat
  column : Nat
deriving DecidableEq, Repr, Inhabited

namespace Position

/-- The place before the first character. -/
def start : Position :=
  ⟨0, 1, 1⟩

/-- The place after the character `c` at `p`; a newline begins the next line. -/
def advance (p : Position) (c : Char) : Position :=
  if c = '\n' then ⟨p.offset + 1, p.line + 1, 1⟩ else ⟨p.offset + 1, p.line, p.column + 1⟩

/-- The place after a run of characters. -/
def advanceOver (p : Position) (cs : List Char) : Position :=
  cs.foldl advance p

@[simp] theorem advanceOver_nil (p : Position) : p.advanceOver [] = p := rfl

@[simp] theorem advanceOver_cons (p : Position) (c : Char) (cs : List Char) :
    p.advanceOver (c :: cs) = (p.advance c).advanceOver cs := rfl

theorem advanceOver_append (p : Position) (xs ys : List Char) :
    p.advanceOver (xs ++ ys) = (p.advanceOver xs).advanceOver ys :=
  List.foldl_append

@[simp] theorem offset_advance (p : Position) (c : Char) :
    (p.advance c).offset = p.offset + 1 := by
  unfold advance
  split <;> rfl

theorem offset_advanceOver (p : Position) (cs : List Char) :
    (p.advanceOver cs).offset = p.offset + cs.length := by
  induction cs generalizing p with
  | nil => rfl
  | cons c cs ih => simp [ih]; omega

/-- The way a position is written in messages: `line:column`. -/
def text (p : Position) : String :=
  toString p.line ++ ":" ++ toString p.column

end Position

end ExprLang
