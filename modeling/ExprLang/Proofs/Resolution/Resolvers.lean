import ExprLang.Proofs.Resolution.Stepwise
import ExprLang.Standard

/-!
# Relations that pass to every resolver

A resolver is the standard one, one of the application, or a chain. If a relation between the
computations of two applications holds of the steps of coercions and comparisons and of what the
resolvers of the applications do (`Resolving`), then it holds of every hook of every resolver
(`Resolving.hooks`), and of the requests that a context puts to its resolver (`Resolving.claim`,
`Resolving.resolveType`).
-/

namespace ExprLang

variable {σ τ : Type}

/-- Whatever is asked of them, the hooks do something related. -/
structure Hooks.Related (R : (α : Type) → HookM σ α → HookM τ α → Prop) (hooks : Hooks σ)
    (hooks' : Hooks τ) : Prop where
  convert : ∀ ctx v t, R (Option Value) (hooks.convert ctx v t) (hooks'.convert ctx v t)
  get : ∀ ctx base key, R (Option Value) (hooks.get ctx base key) (hooks'.get ctx base key)
  set : ∀ ctx base key v, R (Option Unit) (hooks.set ctx base key v) (hooks'.set ctx base key v)
  invoke : ∀ ctx base method args,
    R (Option Value) (hooks.invoke ctx base method args) (hooks'.invoke ctx base method args)
  call : ∀ ctx qualifier name args,
    R (Option Value) (hooks.call ctx qualifier name args) (hooks'.call ctx qualifier name args)
  implicit : ∀ ctx name, R (Option Value) (hooks.implicit ctx name) (hooks'.implicit ctx name)
  type : ∀ ctx name, R (Option ValueType) (hooks.type ctx name) (hooks'.type ctx name)

/-- Hooks are related to themselves if every computation is. -/
theorem Hooks.Related.refl {R : (α : Type) → HookM σ α → HookM σ α → Prop}
    (same : ∀ {α : Type} (m : HookM σ α), R α m m) (hooks : Hooks σ) : hooks.Related R hooks :=
  ⟨fun _ _ _ => same _, fun _ _ _ => same _, fun _ _ _ _ => same _, fun _ _ _ _ => same _,
    fun _ _ _ _ => same _, fun _ _ => same _, fun _ _ => same _⟩

/-- A relation between computations that also holds of the hooks of the applications and of the ways
in which a context uses them. -/
structure Resolving (host : Host σ) (host' : Host τ)
    (R : (α : Type) → HookM σ α → HookM τ α → Prop) : Prop extends Stepwise host host' R where
  /-- The hooks of a resolver of the application. -/
  application : ∀ id, (host.hooks id).Related R (host'.hooks id)
  /-- A change of the flag. -/
  flag : ∀ resolved, R Unit (HookM.setResolved resolved) (HookM.setResolved resolved)
  /-- A request that the log is told of. -/
  watch : ∀ {α : Type} {ask : HookM σ α} {ask' : HookM τ α}, R α ask ask' →
    R α (host.watch ask) (host'.watch ask')

namespace Sequential

variable {R : (α : Type) → HookM σ α → HookM τ α → Prop} (h : Sequential R)
include h

theorem declining : (Hooks.declining (σ := σ)).Related R Hooks.declining where
  convert _ _ _ := h.pure none
  get _ _ _ := h.pure none
  set _ _ _ _ := h.pure none
  invoke _ _ _ _ := h.pure none
  call _ _ _ _ := h.pure none
  implicit _ _ := h.pure none
  type _ _ := h.pure none

/-- What holds of all members of two chains holds of the chains. -/
theorem chain {members : List (Hooks σ)} {members' : List (Hooks τ)}
    (each : List.Forall₂ (Hooks.Related R) members members') :
    (Hooks.chain members).Related R (Hooks.chain members') := by
  have first {α : Type} (ask : Hooks σ → HookM σ (Option α)) (ask' : Hooks τ → HookM τ (Option α))
      (asks : ∀ hooks hooks', Hooks.Related R hooks hooks' →
        R (Option α) (ask hooks) (ask' hooks')) :
      R (Option α) (.firstSome (members.map ask)) (.firstSome (members'.map ask')) := by
    refine h.firstSome ?_
    rw [List.forall₂_map_left_iff, List.forall₂_map_right_iff]
    exact each.imp asks
  exact {
    convert := fun ctx v t => first _ _ fun _ _ all => all.convert ctx v t
    get := fun ctx base key => first _ _ fun _ _ all => all.get ctx base key
    set := fun ctx base key v => first _ _ fun _ _ all => all.set ctx base key v
    invoke := fun ctx base method args => first _ _ fun _ _ all => all.invoke ctx base method args
    call := fun ctx qualifier name args => first _ _ fun _ _ all => all.call ctx qualifier name args
    implicit := fun ctx name => first _ _ fun _ _ all => all.implicit ctx name
    type := fun ctx name => first _ _ fun _ _ all => all.type ctx name }

omit h in
mutual

/-- The conversions that resolvers claim, by those that the application's resolvers claim. -/
theorem convert (h : Sequential R) {host : Host σ} {host' : Host τ}
    (application : ∀ id, (host.hooks id).Related R (host'.hooks id)) (ctx : Context) (v : Value)
    (t : ValueType) :
    ∀ r : Resolver, R (Option Value) (r.convert host ctx v t) (r.convert host' ctx v t)
  | .standard => h.pure none
  | .chain members => h.firstSome (h.conversions application ctx v t members)
  | .host id => (application id).convert ctx v t

theorem conversions (h : Sequential R) {host : Host σ} {host' : Host τ}
    (application : ∀ id, (host.hooks id).Related R (host'.hooks id)) (ctx : Context) (v : Value)
    (t : ValueType) : ∀ members : List Resolver,
    List.Forall₂ (R (Option Value)) (Resolver.conversions host ctx v t members)
      (Resolver.conversions host' ctx v t members)
  | [] => .nil
  | r :: rest => .cons (h.convert application ctx v t r) (h.conversions application ctx v t rest)

end

end Sequential

/-! ### The standard resolver -/

namespace Stepwise

variable {host : Host σ} {host' : Host τ} {R : (α : Type) → HookM σ α → HookM τ α → Prop}
  (h : Stepwise host host' R) (ctx : Context)
include h

theorem charAt (s : String) (index : Value) :
    R Value (Standard.charAt host ctx s index) (Standard.charAt host' ctx s index) := by
  refine h.bind (h.toNumber ctx _ index) fun position => ?_
  dsimp only
  split
  all_goals
    refine h.bind (h.pure _) fun i => ?_
    split
    · exact h.pure _
    · exact h.throw _

theorem textMethod (s method : String) (args : List Value) :
    R (Option Value) (Standard.textMethod host ctx s method args)
      (Standard.textMethod host' ctx s method args) := by
  unfold Standard.textMethod
  split
  · exact h.pure _
  · exact h.pure _
  · exact h.pure _
  · exact h.pure _
  · exact h.pure _
  · exact h.bind (h.toText ctx _) fun _ => h.pure _
  · exact h.bind (h.toText ctx _) fun _ => h.pure _
  · exact h.bind (h.toText ctx _) fun _ => h.pure _
  · exact h.bind (h.toText ctx _) fun _ => h.bind (h.result _) fun _ => h.pure _
  · exact h.bind (h.toText ctx _) fun _ => h.bind (h.result _) fun _ => h.pure _
  · exact h.bind (h.charAt ctx s _) fun _ => h.pure _
  · exact h.pure _

theorem holdsEqual (items : List Value) (v : Value) :
    R Bool (Standard.holdsEqual host ctx items v) (Standard.holdsEqual host' ctx items v) :=
  h.anyM (fun item => h.equals ctx item v) items

theorem collectionMethod (items : List Value) (method : String) (args : List Value) :
    R (Option Value) (Standard.collectionMethod host ctx items method args)
      (Standard.collectionMethod host' ctx items method args) := by
  unfold Standard.collectionMethod
  split
  · exact h.pure _
  · exact h.pure _
  · exact h.bind (h.holdsEqual ctx items _) fun _ => h.pure _
  · exact h.pure _

theorem mapMethod (entries : List (Value × Value)) (method : String) (args : List Value) :
    R (Option Value) (Standard.mapMethod host ctx entries method args)
      (Standard.mapMethod host' ctx entries method args) := by
  unfold Standard.mapMethod
  split
  · exact h.pure _
  · exact h.pure _
  · exact h.bind (h.holdsEqual ctx _ _) fun _ => h.pure _
  · exact h.pure _

theorem standardInvoke (base : Value) (method : String) (args : List Value) :
    R (Option Value) (Standard.invoke host ctx base method args)
      (Standard.invoke host' ctx base method args) := by
  unfold Standard.invoke
  split
  · exact h.textMethod ctx _ method args
  · exact h.collectionMethod ctx _ method args
  · exact h.collectionMethod ctx _ method args
  · exact h.collectionMethod ctx _ method args
  · exact h.mapMethod ctx _ method args
  · exact h.pure none

theorem lengthOf (v : Value) :
    R Nat (Standard.lengthOf host ctx v) (Standard.lengthOf host' ctx v) := by
  unfold Standard.lengthOf
  split
  case h_7 => exact h.bind (h.toText ctx _) fun _ => h.pure _
  all_goals exact h.pure _

theorem joinedTexts (v : Value) :
    R (List String) (Standard.joinedTexts host ctx v) (Standard.joinedTexts host' ctx v) := by
  unfold Standard.joinedTexts
  split
  · exact h.mapM (h.toText ctx) _
  · split
    · exact h.pure []
    · exact h.bind (h.toText ctx v) fun _ => h.pure _

theorem standardFunction (name : String) (args : List Value) :
    R (Option Value) (Standard.function host ctx name args)
      (Standard.function host' ctx name args) := by
  unfold Standard.function
  split
  · exact h.bind (h.lengthOf ctx _) fun _ => h.pure _
  · exact h.bind (h.toText ctx _) fun _ => h.pure _
  · exact h.bind (h.toText ctx _) fun _ => h.pure _
  · exact h.bind (h.toText ctx _) fun _ => h.bind (h.toText ctx _) fun _ =>
      h.bind (h.result _) fun _ => h.pure _
  · exact h.bind (h.toText ctx _) fun _ => h.bind (h.joinedTexts ctx _) fun _ => h.pure _
  · exact h.pure none

omit ctx in
theorem standard : (Standard.hooks host).Related R (Standard.hooks host') :=
  { h.declining with
    invoke := fun ctx => h.standardInvoke ctx
    call := by
      intro ctx qualifier name args
      show R (Option Value) (if _ then _ else _) (if _ then _ else _)
      split
      · exact h.standardFunction ctx name args
      · exact h.pure none }

end Stepwise

/-! ### Every resolver -/

namespace Resolving

variable {host : Host σ} {host' : Host τ} {R : (α : Type) → HookM σ α → HookM τ α → Prop}

mutual

/-- What holds of the resolvers of the applications holds of every resolver. -/
theorem hooks (h : Resolving host host' R) :
    ∀ r : Resolver, (r.hooks host).Related R (r.hooks host')
  | .standard => h.standard
  | .chain members => h.chain (h.hooksOfAll members)
  | .host id => h.application id

theorem hooksOfAll (h : Resolving host host' R) : ∀ members : List Resolver,
    List.Forall₂ (Hooks.Related R) (Resolver.hooksOfAll host members)
      (Resolver.hooksOfAll host' members)
  | [] => .nil
  | r :: rest => .cons (h.hooks r) (h.hooksOfAll rest)

end

variable (h : Resolving host host' R) {α : Type} (ctx : Context)
include h

/-- A request that a context puts to its resolver. -/
theorem claim {ask : Hooks σ → HookM σ (Option α)} {ask' : Hooks τ → HookM τ (Option α)}
    (asks : ∀ hooks hooks', Hooks.Related R hooks hooks' →
      R (Option α) (ask hooks) (ask' hooks')) :
    R (Option α) (ctx.claim host fun r => ask (r.hooks host))
      (ctx.claim host' fun r => ask' (r.hooks host')) := by
  unfold Context.claim
  refine h.bind (h.flag false) fun _ => ?_
  split
  · exact h.pure none
  · refine h.bind (h.watch (asks _ _ (h.hooks _))) fun found => ?_
    dsimp only
    split
    · exact h.bind (h.flag true) fun _ => h.pure found
    · exact h.pure found

theorem resolveType (name : String) :
    R (Option ValueType) (ctx.resolveType host name) (ctx.resolveType host' name) := by
  unfold Context.resolveType
  split
  · exact h.pure _
  split
  · exact h.pure _
  split
  · exact h.pure _
  split
  · exact h.watch ((h.hooks _).type ctx name)
  · exact h.pure none

end Resolving

end ExprLang
