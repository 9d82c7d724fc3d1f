import ExprLang.Expr.Parser
import ExprLang.Expr.Printer

/-!
# Atoms of tokens and trees

What is left of a text when its punctuation is taken away: literals, names and operators, in the
order in which they are written. A tree has atoms too, and loses nothing but the punctuation.
`Tally` keeps account of the atoms and the open braces among tokens that are passed one by one.
-/

namespace ExprLang

/-- A literal by its value, a name, or an operator. -/
inductive Atom where
  | integer (n : Nat)
  | float (x : Number.Double)
  | decimal (d : Number.Decimal)
  | string (s : String)
  | boolean (b : Bool)
  | null
  | name (s : String)
  /-- An operator by the kind of its token, with a symbol where it has two spellings. -/
  | operator (kind : TokenKind)
  /-- A token that has no place in an expression. -/
  | foreign (kind : TokenKind)
deriving DecidableEq, Repr

/-! ### Tokens -/

namespace TokenKind

/-- Punctuation other than braces. -/
def isMark : TokenKind → Bool
  | openParen | closeParen | openBracket | closeBracket | comma | colon | semicolon | dot | question
  | arrow | assign | hash => true
  | _ => false

/-- What leaves no trace in a tree but its shape. -/
def isStructural : TokenKind → Bool
  | openBrace | closeBrace | endOfText => true
  | kind => kind.isMark

theorem isStructural_of_isMark {kind : TokenKind} (mark : kind.isMark = true) :
    kind.isStructural = true := by
  cases kind <;> first | rfl | cases mark

end TokenKind

namespace Token

/-- What a literal with a point or an exponent stands for. -/
def realAtom (lexeme : String) : Atom :=
  match Parser.floatLiteral? lexeme with
  | some (.float x) => .float x
  | some (.decimal d) => .decimal d
  | _ => .foreign .float

/-- What a token that is not punctuation stands for. -/
def atom (t : Token) : Atom :=
  match t.kind with
  | .integer => .integer (Number.valueOf t.lexeme.toList)
  | .float => realAtom t.lexeme
  | .string => .string t.lexeme
  | .boolean b => .boolean b
  | .null => .null
  | .identifier | .functionSuffix => .name t.lexeme
  | .operator op _ => .operator (.operator op .symbol)
  | .empty | .instanceOf | .star | .plus | .minus | .concat => .operator t.kind
  | kind => .foreign kind

/-- What a token stands for, unless it is punctuation. -/
def atom? (t : Token) : Option Atom :=
  if t.kind.isStructural then none else some t.atom

end Token

/-! ### Trees -/

namespace Expr

mutual

/-- The literals, names and operators of an expression, from left to right. -/
def atoms : Expr → List Atom
  | .integer n => [.integer n]
  | .float x => [.float x]
  | .decimal d => [.decimal d]
  | .string s => [.string s]
  | .boolean b => [.boolean b]
  | .null => [.null]
  | .identifier name => [.name name]
  | .implicit name => [.name name]
  | .key name => [.name name]
  | .access object k => atoms object ++ atoms k
  | .method object name args => atoms object ++ .name name :: atomsOfAll args
  | .function qualifier name args => (qualifier.toList ++ [name]).map .name ++ atomsOfAll args
  | .call callee args => atoms callee ++ atomsOfAll args
  | .unary op operand => .operator op.kind :: atoms operand
  | .binary op left right => atoms left ++ .operator op.kind :: atoms right
  | .conditional condition yes no => atoms condition ++ atoms yes ++ atoms no
  | .instanceOf operand typeName =>
    atoms operand ++ .operator .instanceOf :: (Printer.namesOf typeName.toList).map .name
  | .list elements => atomsOfAll elements
  | .set elements => atomsOfAll elements
  | .map entries => atomsOfEntries entries
  | .lambda params body => params.map .name ++ atoms body
  | .assign target value => atoms target ++ atoms value
  | .sequence steps => atomsOfAll steps
termination_by structural e => e

/-- The atoms of several expressions. -/
def atomsOfAll : List Expr → List Atom
  | [] => []
  | e :: es => atoms e ++ atomsOfAll es
termination_by structural es => es

/-- The atoms of the entries of a map. -/
def atomsOfEntries : List (Expr × Expr) → List Atom
  | [] => []
  | e :: es => atomsOfEntry e ++ atomsOfEntries es
termination_by structural es => es

/-- The atoms of a key and its value. -/
def atomsOfEntry : Expr × Expr → List Atom
  | (k, v) => atoms k ++ atoms v
termination_by structural e => e

end

/-- A literal with a point or an exponent has the one atom of its token. -/
theorem atoms_floatLiteral? {lexeme : String} {e : Expr}
    (literal : Parser.floatLiteral? lexeme = some e) : e.atoms = [Token.realAtom lexeme] := by
  rw [Token.realAtom, literal]
  unfold Parser.floatLiteral? at literal
  split at literal
  · cases literal
  · split at literal
    · cases literal
      simp [atoms]
    · obtain ⟨d, -, rfl⟩ := Option.map_eq_some_iff.mp literal
      simp [atoms]

end Expr

/-! ### Tallies -/

/-- The atoms among the tokens passed so far, and the number of braces that are open. -/
structure Tally where
  atoms : List Atom
  opened : Nat
deriving DecidableEq, Repr

namespace Tally

/-- Nothing has been passed. -/
def start : Tally :=
  ⟨[], 0⟩

/-- More atoms behind the others. -/
def plus (y : Tally) (atoms : List Atom) : Tally :=
  ⟨y.atoms ++ atoms, y.opened⟩

/-- A token is passed. No brace may be closed that was not opened. -/
def pass (y : Tally) (t : Token) : Option Tally :=
  match t.kind, y.opened with
  | .openBrace, opened => some ⟨y.atoms, opened + 1⟩
  | .closeBrace, 0 => none
  | .closeBrace, opened + 1 => some ⟨y.atoms, opened⟩
  | _, _ => some (y.plus t.atom?.toList)

/-- Several tokens are passed. -/
def passAll (y : Tally) : List Token → Option Tally
  | [] => some y
  | t :: ts => (y.pass t).bind (passAll · ts)

@[simp] theorem plus_nil (y : Tally) : y.plus [] = y := by
  simp [plus]

@[simp] theorem plus_plus (y : Tally) (as bs : List Atom) :
    (y.plus as).plus bs = y.plus (as ++ bs) := by
  simp [plus]

/-- Punctuation counts for nothing. -/
theorem pass_mark {t : Token} (mark : t.kind.isMark = true) (y : Tally) : y.pass t = some y := by
  have atom : t.atom? = none := if_pos (TokenKind.isStructural_of_isMark mark)
  unfold pass
  split
  · simp_all [TokenKind.isMark]
  · simp_all [TokenKind.isMark]
  · simp_all [TokenKind.isMark]
  · simp [atom]

/-- Any other token counts for what it stands for. -/
theorem pass_atom {t : Token} (content : t.kind.isStructural = false) (y : Tally) :
    y.pass t = some (y.plus [t.atom]) := by
  unfold pass
  split <;> simp_all [Token.atom?, TokenKind.isStructural]

theorem pass_openBrace {t : Token} (kind : t.kind = .openBrace) (y : Tally) :
    y.pass t = some ⟨y.atoms, y.opened + 1⟩ := by
  simp [pass, kind]

theorem pass_closeBrace {t : Token} (kind : t.kind = .closeBrace) (atoms : List Atom)
    (opened : Nat) : pass ⟨atoms, opened + 1⟩ t = some ⟨atoms, opened⟩ := by
  simp [pass, kind]

theorem passAll_append (y : Tally) (ts us : List Token) :
    y.passAll (ts ++ us) = (y.passAll ts).bind (passAll · us) := by
  induction ts generalizing y with
  | nil => rfl
  | cons t ts ih =>
    simp only [List.cons_append, passAll]
    cases y.pass t with
    | none => rfl
    | some z => exact ih z

/-- One token counts for its atom, if it has one. -/
theorem atoms_pass {y z : Tally} {t : Token} (passed : y.pass t = some z) :
    z.atoms = y.atoms ++ t.atom?.toList := by
  unfold pass at passed
  split at passed
  · cases passed
    simp_all [Token.atom?, TokenKind.isStructural]
  · cases passed
  · cases passed
    simp_all [Token.atom?, TokenKind.isStructural]
  · cases passed
    rfl

/-- The tokens that were passed have the atoms of the tally. -/
theorem atoms_passAll {y z : Tally} {ts : List Token} (passed : y.passAll ts = some z) :
    z.atoms = y.atoms ++ ts.filterMap Token.atom? := by
  induction ts generalizing y with
  | nil =>
    cases passed
    simp
  | cons t ts ih =>
    obtain ⟨between, first, rest⟩ := Option.bind_eq_some_iff.mp passed
    rw [ih rest, atoms_pass first, List.append_assoc]
    cases atom : t.atom? <;> simp [atom]

end Tally

end ExprLang
