import ExprLang.Host

/-!
# Resolution

How a context turns to its resolver: an offer of a conversion, which leaves the flag as it was,
and a lookup, which leaves in the flag whether the request was claimed.
-/

namespace ExprLang

variable {σ α : Type} (host : Host σ)

mutual

/-- The conversion that a resolver claims. The standard resolver claims none. -/
def Resolver.convert (ctx : Context) (v : Value) (t : ValueType) :
    Resolver → HookM σ (Option Value)
  | .standard => return none
  | .chain resolvers => .firstSome (Resolver.conversions ctx v t resolvers)
  | .host id => (host.hooks id).convert ctx v t

/-- The conversions that several resolvers claim. -/
def Resolver.conversions (ctx : Context) (v : Value) (t : ValueType) :
    List Resolver → List (HookM σ (Option Value))
  | [] => []
  | r :: rest => Resolver.convert ctx v t r :: Resolver.conversions ctx v t rest

end

namespace Context

/-- Whether null and empty text count as zero. -/
def zeroMode (ctx : Context) : Bool :=
  ctx.environment.coerceToZero.getD host.coerceToZero

/-- Offers a conversion to the resolver. It claims the conversion by an answer, or by raising the
flag, which claims null. The flag is lowered for the offer and then put back. -/
def offerConversion (ctx : Context) (v : Value) (t : ValueType) : HookM σ (Option Value) :=
  match ctx.environment.resolver with
  | none => return none
  | some r => .keepingFlag do
    match ← host.watch (r.convert host ctx v t) with
    | some claimed => return some claimed
    | none => return if (← get).resolved then some .null else none

/-- Puts a request to the resolver: the flag is lowered first, and raised if the request is
claimed. -/
def claim (ctx : Context) (ask : Resolver → HookM σ (Option α)) : HookM σ (Option α) := do
  HookM.setResolved false
  match ctx.environment.resolver with
  | none => return none
  | some r =>
    let found ← host.watch (ask r)
    if found.isSome then HookM.setResolved true
    return found

end Context

end ExprLang
