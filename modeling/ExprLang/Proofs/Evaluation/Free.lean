import ExprLang.Evaluation
import ExprLang.Proofs.Comparison.Outcome

/-!
# Evaluation without a resolver

Where a context has no resolver, requests go unanswered and the rules of the language alone decide: a
name is an argument or else a variable, and a key is an index as the conversion of numbers has it
(`Coercion.index?`).
-/

namespace ExprLang

/-- A key as an index into a list-like value by the rules alone: `none` if it is none, `some none` if
it is negative. -/
def Coercion.index? (zeroMode : Bool) (key : Value) : Option (Option Nat) :=
  match numberOf zeroMode ⟨.long, true⟩ key with
  | .ok (.long n) => some (if n < 0 then none else some n.toInt.toNat)
  | _ => none

namespace Eval

open Comparison

variable {σ α : Type} (host : Host σ) {ctx : Context} (free : ctx.environment.resolver = none)
include free

/-- Without a resolver nobody claims a request. -/
theorem claim_of_free (ask : Hooks σ → Context → HookM σ (Option α)) (s : Ambient σ) :
    claim host ask ⟨ctx, s⟩ = (.ok none, ⟨ctx, { s with resolved := false }⟩) := by
  unfold claim within Context.claim
  dsimp only
  rw [free]
  rfl

/-- Without a resolver a name is an argument or else a variable. -/
theorem identifier_of_free {name : String} {v : Value}
    (read : (ctx.argument? name).or (ctx.binding? name) = some v) (s : Ambient σ) :
    ∃ after, identifier host name ⟨ctx, s⟩ = (.ok v, ⟨ctx, after⟩) := by
  unfold identifier
  rw [get_bind_apply]
  dsimp only
  cases argument : ctx.argument? name with
  | some w =>
    obtain rfl : w = v := by simpa [argument] using read
    exact ⟨s, rfl⟩
  | none =>
    have bound : ctx.binding? name = some v := by simpa [argument] using read
    refine ⟨{ s with resolved := false }, ?_⟩
    dsimp only
    rw [bind_apply, claim_of_free host free]
    dsimp only
    rw [get_bind_apply]
    dsimp only
    rw [bound]
    rfl

/-- Without a resolver a name that no argument hides is read as a variable. -/
theorem identifier_ok_of_free {name : String} (visible : ctx.argument? name = none)
    {s : Ambient σ} {v : Value} {after : Session σ}
    (run : identifier host name ⟨ctx, s⟩ = (.ok v, after)) :
    ctx.binding? name = some v ∧ after.context = ctx := by
  unfold identifier at run
  rw [get_bind_apply] at run
  dsimp only at run
  rw [visible] at run
  dsimp only at run
  rw [bind_apply, claim_of_free host free] at run
  dsimp only at run
  rw [get_bind_apply] at run
  dsimp only at run
  cases bound : ctx.binding? name with
  | some w =>
    rw [bound] at run
    cases run
    exact ⟨rfl, rfl⟩
  | none =>
    rw [bound] at run
    cases run

/-- Without a resolver a key is an index by the rules alone. -/
theorem index_of_free {base key : Value} {i : Option Nat} {s : Ambient σ} {after : Session σ} :
    index host base key ⟨ctx, s⟩ = (.ok i, after) ↔
      Coercion.index? (ctx.zeroMode host) key = some i ∧ after = ⟨ctx, s⟩ := by
  unfold index within Coercion.index?
  dsimp only
  rw [toNumber_of_free free]
  rcases Coercion.numberOf (ctx.zeroMode host) ⟨.long, true⟩ key with e | n
  · exact ⟨nofun, nofun⟩
  · cases n with
    | long n =>
      refine ⟨fun run => ?_, ?_⟩
      · cases run
        exact ⟨rfl, rfl⟩
      · rintro ⟨⟨⟩, rfl⟩
        rfl
    | _ => exact ⟨nofun, nofun⟩

/-- Without a resolver a map gives the value of a key. -/
theorem property_map_of_free (entries : List (Value × Value)) (key : Value) (s : Ambient σ) :
    (property host (.map entries) key ⟨ctx, s⟩).1 =
      .ok ((Value.mapGet? host.objects entries key).getD .null) := by
  unfold property
  rw [bind_apply, claim_of_free host free]
  rfl

/-- Without a resolver a list-like value gives its element with an index. -/
theorem property_elements_of_free {base key : Value} {items : List Value} {i : Option Nat}
    (elements : base.elements? = some items)
    (found : Coercion.index? (ctx.zeroMode host) key = some i) (s : Ambient σ) :
    (property host base key ⟨ctx, s⟩).1 = .ok ((i.bind fun i => items[i]?).getD .null) := by
  have indexed (base : Value) :
      index host base key ⟨ctx, { s with resolved := false }⟩ = (.ok i, ⟨ctx, _⟩) :=
    (index_of_free host free).mpr ⟨found, rfl⟩
  unfold property
  rw [bind_apply, claim_of_free host free]
  cases base with
  | list items' | set items' | array items' =>
    cases elements
    dsimp only
    rw [bind_apply, indexed]
    rfl
  | _ => cases elements

end Eval

end ExprLang
