import ExprLang.Token.Lexer

/-!
# Token streams

A stream stands on one token and can look at those ahead. It ends with the token at the end of the
text, which it repeats without end, or with a lexing error, which shows only when it is reached.
-/

namespace ExprLang

/-- A token and the items after it. -/
structure TokenStream where
  current : Token
  ahead : List (Except ParseError Token)

namespace TokenStream

/-- The stream of all tokens of a lexer. -/
def ofLexer (l : Lexer) : Except ParseError TokenStream :=
  match l.items with
  | [] => .ok ⟨.atEnd l.position, []⟩
  | .error e :: _ => .error e
  | .ok t :: ahead => .ok ⟨t, ahead⟩

/-- The stream on its next token. -/
def advance (s : TokenStream) : Except ParseError TokenStream :=
  match s.ahead with
  | [] => .ok s
  | .error e :: _ => .error e
  | .ok t :: ahead => .ok ⟨t, ahead⟩

/-- The token `n` places after the next one. -/
def peek (s : TokenStream) (n : Nat) : Except ParseError Token :=
  match s.ahead[n]? with
  | some item => item
  | none => s.ahead.getLast?.getD (.ok s.current)

/-- The kind of the token `n` places after the next one. -/
def peekKind (s : TokenStream) (n : Nat) : Except ParseError TokenKind :=
  (s.peek n).map Token.kind

/-- Whether a colon and the name of a function come after the current token. -/
def suffixAhead? (s : TokenStream) : Except ParseError Bool := do
  if (← s.peekKind 0) == .colon then
    return (← s.peekKind 1) == .functionSuffix
  else
    return false

/-- The error of finding the current token where something else is expected. -/
def unexpected (s : TokenStream) (expected : Expectation) : ParseError :=
  match s.current.kind with
  | .endOfText => .unexpectedEnd expected s.current.position
  | .illegal => .illegalCharacter (s.current.lexeme.toList.headD '\x00') s.current.position
  | _ => .unexpectedToken expected s.current

/-- The names of a parameter list and the items after its closing parenthesis. The list is read
from behind its opening parenthesis: nothing, or names with commas between them. It is `none` if
the items are no such list. -/
def parameters? (items : List (Except ParseError Token)) :
    Except ParseError (Option (List String × List (Except ParseError Token))) :=
  match items with
  | .error e :: _ => .error e
  | .ok t :: rest => if t.kind = .closeParen then .ok (some ([], rest)) else names? (.ok t :: rest)
  | [] => .ok none
where
  /-- A name, and perhaps more of them after a comma. -/
  names? : List (Except ParseError Token) →
      Except ParseError (Option (List String × List (Except ParseError Token)))
    | .error e :: _ => .error e
    | .ok name :: rest =>
      if name.kind = .identifier then
        match rest with
        | .error e :: _ => .error e
        | .ok t :: rest =>
          if t.kind = .closeParen then .ok (some ([name.lexeme], rest))
          else if t.kind = .comma then
            (names? rest).map fun found => found.map fun (names, rest) =>
              (name.lexeme :: names, rest)
          else .ok none
        | [] => .ok none
      else .ok none
    | [] => .ok none

/-- The parameters of a lambda and the stream on its arrow, if the first of the items after the
parameters is an arrow. -/
def onArrow? (params : List String) :
    List (Except ParseError Token) → Except ParseError (Option (List String × TokenStream))
  | .error e :: _ => .error e
  | .ok t :: rest => .ok (if t.kind = .arrow then some (params, ⟨t, rest⟩) else none)
  | [] => .ok none

/-- The parameters of a lambda, if the stream stands at the start of one: a name or a parameter
list, with an arrow after it. The stream then given stands on the arrow. -/
def lambdaHeader? (s : TokenStream) : Except ParseError (Option (List String × TokenStream)) :=
  match s.current.kind with
  | .identifier => onArrow? [s.current.lexeme] s.ahead
  | .openParen => do
    match ← parameters? s.ahead with
    | some (params, rest) => onArrow? params rest
    | none => return none
  | _ => return none

end TokenStream

end ExprLang
