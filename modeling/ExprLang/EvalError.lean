/-!
# Errors of evaluation

What can go wrong while values are converted, compared and combined. Each error names its cause;
the wording is in `EvalError.message`.
-/

namespace ExprLang

/-- The ways in which an evaluation can fail. -/
inductive EvalError where
  /-- A value has no counterpart in the type asked for. -/
  | conversion (value kind target : String)
  /-- Two values have no order. -/
  | comparison (left right : String)
  /-- Null has no order. -/
  | compareNull
  /-- A resolver gave null for a type without null. -/
  | nullRequired (target : String)
  | propertyNotFound (base property : String)
  | propertyNotWritable (base property : String)
  | methodNotFound (base method : String)
  | functionNotFound (name : String)
  | unknownType (name : String)
  /-- A lambda was called with too few arguments. -/
  | lambdaArity (required provided : Nat)
  | arithmetic (detail : String)
  /-- A failure of the application around the language. -/
  | host (detail : String)
deriving DecidableEq, Repr, Inhabited

/-- The message shown to the user. -/
def EvalError.message : EvalError → String
  | conversion value kind target =>
    "Cannot convert [" ++ value ++ "] of type [" ++ kind ++ "] to [" ++ target ++ "]"
  | comparison left right => "Cannot compare [" ++ left ++ "] to [" ++ right ++ "]"
  | compareNull => "Cannot compare null"
  | nullRequired target => "Null cannot be converted to [" ++ target ++ "]"
  | propertyNotFound base property =>
    "Property [" ++ property ++ "] not found on type [" ++ base ++ "]"
  | propertyNotWritable base property =>
    "Property [" ++ property ++ "] is not writable on type [" ++ base ++ "]"
  | methodNotFound base method =>
    "Method [" ++ method ++ "] not found on type [" ++ base ++ "]"
  | functionNotFound name => "Function [" ++ name ++ "] not found"
  | unknownType name => "Unknown type [" ++ name ++ "]"
  | lambdaArity required provided =>
    "Only [" ++ toString provided ++
      "] arguments were provided for a lambda expression that requires at least [" ++
      toString required ++ "]"
  | arithmetic detail => "Arithmetic error: " ++ detail
  | host detail => "Host error: " ++ detail

end ExprLang
