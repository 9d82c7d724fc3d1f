import ExprLang.Proofs.Syntax.Lexing

/-!
# Trees that the grammar can produce

`Expr.WellFormed` says which trees without a real literal the grammar has: names are names, a key
stands only behind a dot, a map has an entry, a sequence has two steps, and a value is assigned only
to a place. What is printed for such a tree can be read piece by piece. **Key theorem**:
`Expr.WellFormed.legible`.
-/

namespace ExprLang

namespace Expr

/-- The trees without a real literal that the grammar has. -/
inductive WellFormed : Expr → Prop where
  | integer {n : Nat} : WellFormed (.integer n)
  | string {s : String} : WellFormed (.string s)
  | boolean {b : Bool} : WellFormed (.boolean b)
  | null : WellFormed .null
  | identifier {name : String} : IsName name → WellFormed (.identifier name)
  | implicit {name : String} : IsName name → WellFormed (.implicit name)
  | member {object : Expr} {name : String} : WellFormed object → IsName name →
      WellFormed (.access object (.key name))
  | index {object key : Expr} : WellFormed object → WellFormed key →
      WellFormed (.access object key)
  | method {object : Expr} {name : String} {args : List Expr} : WellFormed object → IsName name →
      (∀ a ∈ args, WellFormed a) → WellFormed (.method object name args)
  | function {name : String} {args : List Expr} : IsName name → (∀ a ∈ args, WellFormed a) →
      WellFormed (.function none name args)
  /-- Behind a qualifier, and before a function name, reserved words are names too. -/
  | qualified {qualifier name : String} {args : List Expr} : IsWord qualifier → IsWord name →
      (∀ a ∈ args, WellFormed a) → WellFormed (.function (some qualifier) name args)
  | call {callee : Expr} {args : List Expr} : WellFormed callee → (∀ a ∈ args, WellFormed a) →
      WellFormed (.call callee args)
  | unary {op : UnaryOp} {operand : Expr} : WellFormed operand → WellFormed (.unary op operand)
  | binary {op : BinaryOp} {left right : Expr} : WellFormed left → WellFormed right →
      WellFormed (.binary op left right)
  | conditional {condition yes no : Expr} : WellFormed condition → WellFormed yes →
      WellFormed no → WellFormed (.conditional condition yes no)
  | instanceOf {operand : Expr} {names : List String} : WellFormed operand → names ≠ [] →
      (∀ n ∈ names, IsName n) → WellFormed (.instanceOf operand (".".intercalate names))
  | list {elements : List Expr} : (∀ a ∈ elements, WellFormed a) → WellFormed (.list elements)
  | set {elements : List Expr} : (∀ a ∈ elements, WellFormed a) → WellFormed (.set elements)
  | map {entries : List (Expr × Expr)} : entries ≠ [] → (∀ e ∈ entries, WellFormed e.1) →
      (∀ e ∈ entries, WellFormed e.2) → WellFormed (.map entries)
  | lambda {params : List String} {body : Expr} : (∀ p ∈ params, IsName p) → WellFormed body →
      WellFormed (.lambda params body)
  | assign {target value : Expr} : target.isAssignable = true → WellFormed target →
      WellFormed value → WellFormed (.assign target value)
  | sequence {steps : List Expr} : 2 ≤ steps.length → (∀ a ∈ steps, WellFormed a) →
      WellFormed (.sequence steps)

end Expr

namespace Printer

/-! ### Lists of pieces -/

/-- The pieces of an argument, an element or a step. -/
def item (bare : Bool) (e : Expr) : List Lexeme :=
  fit .assignment e.level (lexemes bare e)

theorem items_eq_map (bare : Bool) (es : List Expr) : items bare es = es.map (item bare) := by
  induction es with
  | nil => rfl
  | cons e es ih => rw [items, ih, List.map_cons, item]

theorem entries_eq_map (bare : Bool) (es : List (Expr × Expr)) :
    entries bare es = es.map (entry bare) := by
  induction es with
  | nil => rfl
  | cons e es ih => rw [entries, ih, List.map_cons]

theorem separated_cons_cons (separator : TokenKind) (a b : List Lexeme)
    (rest : List (List Lexeme)) :
    separated separator (a :: b :: rest) =
      a ++ .mark separator :: separated separator (b :: rest) := by
  simp [separated]

/-- A type name holds the names that it was put together from. -/
theorem namesOf_intercalate {names : List String} (some : names ≠ [])
    (words : ∀ n ∈ names, IsWord n) : namesOf (".".intercalate names).toList = names := by
  have noDot : ∀ n ∈ names, '.' ∉ n.toList := by
    intro n mem dot
    exact absurd ((words n mem).parts '.' dot) (by decide)
  have parts : (".".intercalate names).toList.splitOn '.' = names.map String.toList := by
    rw [String.toList_intercalate]
    exact List.splitOn_intercalate '.' (by simpa using noDot) (by simpa using some)
  have same : String.ofList ∘ String.toList = id := funext fun _ => String.ofList_toList
  rw [namesOf, parts, List.map_map, same, List.map_id]

/-- A type name is written as the names that it was put together from. -/
theorem typeName_intercalate {names : List String} (some : names ≠ [])
    (words : ∀ n ∈ names, IsWord n) :
    typeName (".".intercalate names) = separated .dot (names.map fun n => [.word n]) := by
  rw [typeName, namesOf_intercalate some words]

/-- A key that is no name behind a dot stands in brackets. -/
theorem keyed_of_wellFormed {key : Expr} (h : key.WellFormed) (ls : List Lexeme) :
    keyed key ls = .mark .openBracket :: ls ++ [.mark .closeBracket] := by
  cases h <;> rfl

end Printer

/-! ### Legible pieces in front of others -/

/-- Pieces that can be read in front of any others that can be. -/
def Joins (ls : List Lexeme) : Prop :=
  ∀ depth rest, Legible depth rest → Legible depth (ls ++ rest)

namespace Joins

theorem nil : Joins [] :=
  fun _ _ h => h

theorem append {ls ms : List Lexeme} (first : Joins ls) (second : Joins ms) : Joins (ls ++ ms) := by
  intro depth rest h
  rw [List.append_assoc]
  exact first _ _ (second _ _ h)

theorem symbol {kind : TokenKind} (h : kind ∈ symbolKinds) : Joins [.mark kind] :=
  fun _ _ => .symbol h

theorem keyword {kind : TokenKind} (h : kind ∈ wordKinds) : Joins [.mark kind] :=
  fun _ _ => .keyword h

theorem word {name : String} (h : IsName name) : Joins [.word name] :=
  fun _ _ => .word h

/-- Pieces between two symbols. -/
theorem between {opening closing : TokenKind} {ls : List Lexeme} (ho : opening ∈ symbolKinds)
    (hc : closing ∈ symbolKinds) (h : Joins ls) :
    Joins (.mark opening :: ls ++ [.mark closing]) :=
  append (append (symbol ho) h) (symbol hc)

theorem parens {ls : List Lexeme} (h : Joins ls) : Joins (Printer.parens ls) :=
  between (by decide) (by decide) h

theorem braces {ls : List Lexeme} (h : Joins ls) :
    Joins (.mark .openBrace :: ls ++ [.mark .closeBrace]) := by
  intro depth rest legible
  have inside := h (depth + 1) (.mark .closeBrace :: rest) (.closeBrace legible)
  simpa using Legible.openBrace inside

theorem fit {ls : List Lexeme} (h : Joins ls) (slot level : Level) :
    Joins (Printer.fit slot level ls) := by
  unfold Printer.fit
  split
  · exact h.parens
  · exact h

theorem separated {separator : TokenKind} (hs : separator ∈ symbolKinds)
    {parts : List (List Lexeme)} (h : ∀ ls ∈ parts, Joins ls) :
    Joins (Printer.separated separator parts) := by
  induction parts with
  | nil => exact nil
  | cons first rest ih =>
    have head : Joins first := h first (by simp)
    cases rest with
    | nil => simpa [Printer.separated] using head
    | cons second rest =>
      rw [Printer.separated_cons_cons]
      exact head.append (append (symbol hs) (ih fun ls mem => h ls (by simp [mem])))

theorem names {separator : TokenKind} (hs : separator ∈ symbolKinds) {names : List String}
    (h : ∀ n ∈ names, IsName n) :
    Joins (Printer.separated separator (names.map fun n => [.word n])) := by
  refine separated hs ?_
  intro ls mem
  obtain ⟨n, there, rfl⟩ := List.mem_map.mp mem
  exact word (h n there)

theorem parameters (bare : Bool) {params : List String} (h : ∀ p ∈ params, IsName p) :
    Joins (Printer.parameters bare params) := by
  unfold Printer.parameters
  split
  · rename_i name
    have one : Joins [.word name] := word (h name (by simp))
    cases bare
    · exact one.parens
    · exact one
  · exact (names (by decide) h).parens

theorem items {bare : Bool} {es : List Expr} (h : ∀ e ∈ es, Joins (Printer.lexemes bare e)) :
    ∀ ls ∈ Printer.items bare es, Joins ls := by
  intro ls mem
  rw [Printer.items_eq_map] at mem
  obtain ⟨e, there, rfl⟩ := List.mem_map.mp mem
  exact (h e there).fit _ _

theorem arguments {bare : Bool} {args : List Expr}
    (h : ∀ a ∈ args, Joins (Printer.lexemes bare a)) :
    Joins (Printer.arguments (Printer.items bare args)) :=
  (separated (by decide) (items h)).parens

end Joins

theorem BinaryOp.kind_mem (op : BinaryOp) : op.kind ∈ symbolKinds := by
  cases op <;> decide

theorem Joins.unaryOp (op : UnaryOp) : Joins [.mark op.kind] := by
  cases op with
  | negate => exact symbol (by decide)
  | not => exact symbol (by decide)
  | empty => exact keyword (by decide)

namespace Expr.WellFormed

/-- What is printed for a tree of the grammar can be read in front of any other pieces. -/
theorem joins (bare : Bool) {e : Expr} (h : e.WellFormed) : Joins (Printer.lexemes bare e) := by
  induction h with
  | integer => exact fun _ _ => .integer
  | string => exact fun _ _ => .string
  | @boolean b => cases b <;> exact .keyword (by decide)
  | null => exact .keyword (by decide)
  | identifier name => exact .word name
  | implicit name =>
    have hash : Joins [.mark .hash] := .symbol (by decide)
    exact hash.append (.word name)
  | member _ name object =>
    have dot : Joins [.mark .dot] := .symbol (by decide)
    exact (object.fit _ _).append (dot.append (.word name))
  | index _ wellFormed object key =>
    rw [Printer.lexemes, Printer.keyed_of_wellFormed wellFormed]
    exact (object.fit _ _).append (.between (by decide) (by decide) key)
  | method _ name _ object args =>
    have dot : Joins [.mark .dot] := .symbol (by decide)
    exact ((object.fit _ _).append (dot.append (.word name))).append (.arguments args)
  | function name _ args => exact .append (.word name) (.arguments args)
  | qualified hq hname _ args =>
    intro depth rest legible
    exact .qualified hq hname (Joins.arguments args depth rest legible)
  | @call callee args _ _ object items =>
    refine .append ?_ (.arguments items)
    split
    · exact object.parens
    · exact object.fit _ _
  | @unary op operand _ ih => exact .append (.unaryOp op) (ih.fit _ _)
  | @binary op left right _ _ ihl ihr =>
    exact ((ihl.fit _ _).append (.symbol op.kind_mem)).append (ihr.fit _ _)
  | conditional _ _ _ condition yes no =>
    have question : Joins [.mark .question] := .symbol (by decide)
    have colon : Joins [.mark .colon] := .symbol (by decide)
    exact ((((condition.fit _ _).append question).append (yes.fit _ _)).append colon).append
      (no.fit _ _)
  | instanceOf _ some names operand =>
    rw [Printer.lexemes, Printer.typeName_intercalate some fun n mem => (names n mem).word]
    exact ((operand.fit _ _).append (.keyword (by decide))).append (.names (by decide) names)
  | list _ elements =>
    exact .between (by decide) (by decide) (.separated (by decide) (.items elements))
  | set _ elements => exact .braces (.separated (by decide) (.items elements))
  | map _ _ _ keys values =>
    refine .braces (.separated (by decide) ?_)
    intro ls mem
    rw [Printer.entries_eq_map] at mem
    obtain ⟨⟨k, v⟩, there, rfl⟩ := List.mem_map.mp mem
    exact (((keys _ there).fit _ _).append (.symbol (by decide))).append ((values _ there).fit _ _)
  | lambda params _ body =>
    exact ((Joins.parameters bare params).append (.symbol (by decide))).append (body.fit _ _)
  | assign _ _ _ target value =>
    exact ((target.fit _ _).append (.symbol (by decide))).append (value.fit _ _)
  | sequence _ _ steps => exact .separated (by decide) (.items steps)

/-- What is printed for a tree of the grammar can be read. -/
theorem legible (bare : Bool) {e : Expr} (h : e.WellFormed) :
    Legible 0 (Printer.lexemes bare e) := by
  simpa using h.joins bare 0 [] .nil

end Expr.WellFormed

end ExprLang
