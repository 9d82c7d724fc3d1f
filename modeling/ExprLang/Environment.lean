import ExprLang.Bindings

/-!
# Declarations of an application

What an application declares for the evaluation of expressions: enumerations, interfaces, editors
and resolvers. Editors and resolvers of the application itself appear here by number only; what
they do is in `Host`.
-/

namespace ExprLang

/-- An enumeration: its name and its members in order. -/
structure EnumType where
  name : String
  members : List String
deriving DecidableEq, Repr, Inhabited

/-- A member of an enumeration. Members are told apart by their names: of several with one name only
the first is one. -/
structure EnumMember where
  type : EnumType
  ordinal : Fin type.members.length
  first : type.members.finIdxOf? (type.members.get ordinal) = some ordinal
deriving DecidableEq, Repr

namespace EnumMember

/-- The name of a member. -/
def name (m : EnumMember) : String :=
  m.type.members.get m.ordinal

end EnumMember

/-- The member with a name. -/
def EnumType.member? (t : EnumType) (name : String) : Option EnumMember :=
  match found : t.members.finIdxOf? name with
  | some i =>
    have named : t.members.get i = name := (List.finIdxOf?_eq_some_iff.mp found).1
    some ⟨t, i, named.symm ▸ found⟩
  | none => none

/-- A member is the one with its name. -/
@[simp] theorem EnumMember.member?_name (m : EnumMember) : m.type.member? m.name = some m := by
  unfold EnumType.member?
  split
  · rename_i i found
    obtain rfl : i = m.ordinal := Option.some_inj.mp (found.symm.trans m.first)
    rfl
  · rename_i missing
    cases missing.symm.trans m.first

/-- A method of an interface. -/
structure Method where
  name : String
  arity : Nat
  isAbstract : Bool
deriving DecidableEq, Repr, Inhabited

/-- A contract of the application that objects fulfil, and lambdas too if it has only one abstract
method. -/
structure Interface where
  name : String
  methods : List Method
deriving DecidableEq, Repr, Inhabited

/-- The abstract method of an interface that has no other one. -/
def Interface.singleAbstractMethod? (i : Interface) : Option Method :=
  match i.methods.filter Method.isAbstract with
  | [m] => some m
  | _ => none

/-- Who is asked before the rules of the language apply. -/
inductive Resolver where
  /-- The standard methods of texts and collections, and the functions qualified by `fn`. -/
  | standard
  /-- Several resolvers, asked in turn until one claims the request. -/
  | chain (resolvers : List Resolver)
  /-- A resolver of the application. -/
  | host (id : Nat)
deriving Repr, Inhabited, BEq

/-- The declarations that are in force. -/
structure Environment where
  resolver : Option Resolver
  /-- Whether null and empty text count as zero; `none` leaves it to the process. -/
  coerceToZero : Option Bool
  /-- The editors of the application by the text of the type that they produce. -/
  editors : Bindings Nat
  enums : Bindings EnumType
  interfaces : Bindings Interface
deriving Repr, Inhabited

/-- No declarations. -/
def Environment.empty : Environment :=
  ⟨none, none, [], [], []⟩

end ExprLang
