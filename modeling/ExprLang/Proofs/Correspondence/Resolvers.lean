import ExprLang.Proofs.Correspondence.Coercions
import ExprLang.Proofs.Evaluation.Invariant

/-!
# Resolvers in two runs that correspond

A resolver of the application respects a correspondence (`Correspondence.Respects`) if it answers like
values to like requests in corresponding contexts. Its hook for conversions may claim by the flag, which
it then has to leave alike. The standard resolver respects every coherent correspondence, and a chain
respects what its members respect; so whatever a context offers to its resolver (`Lawful.coherent`) or
asks of it (`Lawful.claim`) comes to the same in corresponding contexts, if the application's resolvers
respect the correspondence.
-/

namespace ExprLang

variable {σ α β : Type}

/-- The first answers that two lists of computations give. -/
theorem Matching.firstSome {S : Ambient σ → Ambient σ → Prop} {Q : α → β → Prop}
    {asks : List (HookM σ (Option α))} {asks' : List (HookM σ (Option β))}
    (each : List.Forall₂ (Matching S (Option.Rel Q)) asks asks') :
    Matching S (Option.Rel Q) (HookM.firstSome asks) (HookM.firstSome asks') := by
  induction each with
  | nil => exact .pure .none
  | cons first _ ih =>
    refine first.bind fun _ _ answers => ?_
    cases answers with
    | none => exact ih
    | some related => exact .pure (.some related)

namespace Correspondence

variable {C : Correspondence σ} {host : Host σ} {later : Time.Instant}

/-! ### What resolvers have to respect -/

/-- Besides, the flags of the two runs are the same. -/
def Marked (C : Correspondence σ) (s s' : Ambient σ) : Prop :=
  C.Near s s' ∧ s.resolved = s'.resolved

/-- To like requests in corresponding contexts the hooks of the two runs answer like values; a conversion
leaves the same flag if it is asked for under the same flag. -/
structure Respects (C : Correspondence σ) (hooks hooks' : Hooks σ) : Prop where
  convert : ∀ {ctx ctx' v v'} t, C.Contexts ctx ctx' → C.Values v v' →
    Matching C.Marked (Option.Rel C.Values) (hooks.convert ctx v t) (hooks'.convert ctx' v' t)
  get : ∀ {ctx ctx' base base' key key'}, C.Contexts ctx ctx' → Option.Rel C.Values base base' →
    C.Values key key' →
      Matching C.Near (Option.Rel C.Values) (hooks.get ctx base key) (hooks'.get ctx' base' key')
  set : ∀ {ctx ctx' base base' key key' v v'}, C.Contexts ctx ctx' → Option.Rel C.Values base base' →
    C.Values key key' → C.Values v v' →
      Matching C.Near (Option.Rel Eq) (hooks.set ctx base key v) (hooks'.set ctx' base' key' v')
  invoke : ∀ {ctx ctx' base base' args args'} method, C.Contexts ctx ctx' → C.Values base base' →
    List.Forall₂ C.Values args args' →
      Matching C.Near (Option.Rel C.Values) (hooks.invoke ctx base method args)
        (hooks'.invoke ctx' base' method args')
  call : ∀ {ctx ctx' args args'} qualifier name, C.Contexts ctx ctx' →
    List.Forall₂ C.Values args args' →
      Matching C.Near (Option.Rel C.Values) (hooks.call ctx qualifier name args)
        (hooks'.call ctx' qualifier name args')
  implicit : ∀ {ctx ctx'} name, C.Contexts ctx ctx' →
    Matching C.Near (Option.Rel C.Values) (hooks.implicit ctx name) (hooks'.implicit ctx' name)
  type : ∀ {ctx ctx'} name, C.Contexts ctx ctx' →
    Matching C.Near (Option.Rel Eq) (hooks.type ctx name) (hooks'.type ctx' name)

/-- The application treats the two runs alike where they correspond: when it compares its objects with
values, and in these of its resolvers. -/
structure Impartial (C : Correspondence σ) (host : Host σ) (known : Set Nat) : Prop where
  objects : ∀ o {v v'}, C.Values v v' → host.objects.compareTo o v = host.objects.compareTo o v'
  resolvers : ∀ id ∈ known, C.Respects (host.hooks id) (host.hooks id)

theorem Respects.declining : C.Respects (Hooks.declining (σ := σ)) Hooks.declining where
  convert _ _ _ := .pure .none
  get _ _ _ := .pure .none
  set _ _ _ _ := .pure .none
  invoke _ _ _ _ := .pure .none
  call _ _ _ _ := .pure .none
  implicit _ _ := .pure .none
  type _ _ := .pure .none

/-- What all members of two chains respect, the chains respect. -/
theorem Respects.chain {members members' : List (Hooks σ)}
    (each : List.Forall₂ C.Respects members members') :
    C.Respects (.chain members) (.chain members') := by
  have first {α : Type} {S : Ambient σ → Ambient σ → Prop} {Q : α → α → Prop}
      {ask ask' : Hooks σ → HookM σ (Option α)}
      (asks : ∀ hooks hooks', C.Respects hooks hooks' →
        Matching S (Option.Rel Q) (ask hooks) (ask' hooks')) :
      Matching S (Option.Rel Q) (HookM.firstSome (members.map ask))
        (HookM.firstSome (members'.map ask')) := by
    refine .firstSome ?_
    rw [List.forall₂_map_left_iff, List.forall₂_map_right_iff]
    exact each.imp asks
  exact {
    convert := fun t contexts like => first fun _ _ all => all.convert t contexts like
    get := fun contexts base key => first fun _ _ all => all.get contexts base key
    set := fun contexts base key value => first fun _ _ all => all.set contexts base key value
    invoke := fun method contexts base args =>
      first fun _ _ all => all.invoke method contexts base args
    call := fun qualifier name contexts args =>
      first fun _ _ all => all.call qualifier name contexts args
    implicit := fun name contexts => first fun _ _ all => all.implicit name contexts
    type := fun name contexts => first fun _ _ all => all.type name contexts }

/-! ### The standard resolver -/

namespace Coherent

variable (h : C.Coherent host later) {ctx ctx' : Context} (contexts : C.Contexts ctx ctx')
include h contexts

theorem charAt (s : String) {index index' : Value} (like : C.Values index index') :
    Matching C.Near C.Values (Standard.charAt host ctx s index)
      (Standard.charAt (host.showing later) ctx' s index') := by
  refine (h.toNumber contexts like _).bind fun _ _ position => ?_
  -- the position decides; there is none if the number is no integer of 64 bits
  cases position with
  | scalar _ =>
    dsimp only
    split
    all_goals
      refine Matching.bind_eq (.pure rfl) fun i => ?_
      split
      · exact .pure (.scalar rfl nofun)
      · exact .throw _
  | _ =>
    refine Matching.bind_eq (.pure rfl) fun i => ?_
    dsimp only
    split
    · exact .pure (.scalar rfl nofun)
    · exact .throw _

omit h contexts in
/-- The pieces of a text are texts. -/
theorem splitBy_values (source s : String) :
    Outcomes C.Values (Standard.splitBy source s) (Standard.splitBy source s) := by
  unfold Standard.splitBy
  split
  · refine .ok (.array (List.forall₂_same.mpr fun v mem => ?_))
    obtain ⟨_, _, rfl⟩ := List.mem_map.mp mem
    exact .scalar rfl nofun
  · exact .error _

omit h contexts in
/-- All methods of texts, with the number of their arguments. -/
theorem textMethod_of_other {s method : String} {args : List Value}
    (other : (method, args.length) ∉ [("length", 0), ("toUpperCase", 0), ("toLowerCase", 0),
      ("trim", 0), ("isEmpty", 0), ("contains", 1), ("startsWith", 1), ("endsWith", 1),
      ("matches", 1), ("split", 1), ("charAt", 1)]) :
    Standard.textMethod host ctx s method args = return none := by
  unfold Standard.textMethod
  split <;> first | rfl | exact absurd (by simp) other

omit h contexts in
/-- All methods of lists, sets and arrays. -/
theorem collectionMethod_of_other {items : List Value} {method : String} {args : List Value}
    (other : (method, args.length) ∉ [("size", 0), ("isEmpty", 0), ("contains", 1)]) :
    Standard.collectionMethod host ctx items method args = return none := by
  unfold Standard.collectionMethod
  split <;> first | rfl | exact absurd (by simp) other

omit h contexts in
/-- All methods of maps. -/
theorem mapMethod_of_other {entries : List (Value × Value)} {method : String} {args : List Value}
    (other : (method, args.length) ∉ [("size", 0), ("isEmpty", 0), ("containsKey", 1)]) :
    Standard.mapMethod host ctx entries method args = return none := by
  unfold Standard.mapMethod
  split <;> first | rfl | exact absurd (by simp) other

omit h contexts in
/-- All functions of the standard resolver. -/
theorem function_of_other {name : String} {args : List Value}
    (other : (name, args.length) ∉ [("length", 1), ("toUpperCase", 1), ("toLowerCase", 1),
      ("matches", 2), ("join", 2)]) :
    Standard.function host ctx name args = return none := by
  unfold Standard.function
  split <;> first | rfl | exact absurd (by simp) other

omit h contexts in
/-- An answer that is one and the same scalar. -/
theorem answer_scalar {v : Value} (scalar : v.isScalar = true)
    (still : v.isSystemClock = true → C.clocks) :
    Matching C.Near (Option.Rel C.Values) (return some v : HookM σ (Option Value)) (return some v) :=
  .pure (.some (.scalar scalar still))

theorem textMethod (s method : String) {args args' : List Value}
    (all : List.Forall₂ C.Values args args') :
    Matching C.Near (Option.Rel C.Values) (Standard.textMethod host ctx s method args)
      (Standard.textMethod (host.showing later) ctx' s method args') := by
  by_cases known : (method, args.length) ∈ [("length", 0), ("toUpperCase", 0), ("toLowerCase", 0),
      ("trim", 0), ("isEmpty", 0), ("contains", 1), ("startsWith", 1), ("endsWith", 1),
      ("matches", 1), ("split", 1), ("charAt", 1)]
  · rcases all with _ | ⟨like, _ | _⟩
    · obtain rfl | rfl | rfl | rfl | rfl :
          method = "length" ∨ method = "toUpperCase" ∨
          method = "toLowerCase" ∨ method = "trim" ∨ method = "isEmpty" := by
        simpa using known
      all_goals exact answer_scalar rfl nofun
    · obtain rfl | rfl | rfl | rfl | rfl | rfl :
          method = "contains" ∨ method = "startsWith" ∨ method = "endsWith" ∨
          method = "matches" ∨ method = "split" ∨ method = "charAt" := by
        simpa using known
      · exact (h.toText contexts like).bind_eq fun _ => answer_scalar rfl nofun
      · exact (h.toText contexts like).bind_eq fun _ => answer_scalar rfl nofun
      · exact (h.toText contexts like).bind_eq fun _ => answer_scalar rfl nofun
      · exact (h.toText contexts like).bind_eq fun _ =>
          Matching.bind_eq (.outcome (.of_eq rfl)) fun _ => answer_scalar rfl nofun
      · exact (h.toText contexts like).bind_eq fun _ =>
          Matching.bind (.outcome (splitBy_values _ _)) fun _ _ pieces => .pure (.some pieces)
      · exact (h.charAt contexts s like).bind fun _ _ char => .pure (.some char)
    · exact absurd known (by simp)
  · rw [textMethod_of_other known, textMethod_of_other (all.length_eq ▸ known)]
    exact .pure .none

theorem holdsEqual {items items' : List Value} (all : List.Forall₂ C.Values items items')
    {v v' : Value} (like : C.Values v v') :
    Matching C.Near Eq (Standard.holdsEqual host ctx items v)
      (Standard.holdsEqual (host.showing later) ctx' items' v') :=
  Matching.anyM (R := C.Values) (fun _ _ item => h.equals contexts item like) all

theorem collectionMethod {items items' : List Value} (elements : List.Forall₂ C.Values items items')
    (method : String) {args args' : List Value} (all : List.Forall₂ C.Values args args') :
    Matching C.Near (Option.Rel C.Values) (Standard.collectionMethod host ctx items method args)
      (Standard.collectionMethod (host.showing later) ctx' items' method args') := by
  by_cases known : (method, args.length) ∈ [("size", 0), ("isEmpty", 0), ("contains", 1)]
  · have empty : items.isEmpty = items'.isEmpty := by cases elements <;> rfl
    rcases all with _ | ⟨like, _ | _⟩
    · obtain rfl | rfl : method = "size" ∨ method = "isEmpty" := by
        simpa using known
      · simp only [Standard.collectionMethod, elements.length_eq]
        exact answer_scalar rfl nofun
      · simp only [Standard.collectionMethod, empty]
        exact answer_scalar rfl nofun
    · obtain rfl : method = "contains" := by simpa using known
      exact (h.holdsEqual contexts elements like).bind_eq fun _ => answer_scalar rfl nofun
    · exact absurd known (by simp)
  · rw [collectionMethod_of_other known, collectionMethod_of_other (all.length_eq ▸ known)]
    exact .pure .none

theorem mapMethod {es es' : List (Value × Value)}
    (keys : List.Forall₂ C.Values (es.map Prod.fst) (es'.map Prod.fst)) (method : String)
    {args args' : List Value} (all : List.Forall₂ C.Values args args') :
    Matching C.Near (Option.Rel C.Values) (Standard.mapMethod host ctx es method args)
      (Standard.mapMethod (host.showing later) ctx' es' method args') := by
  by_cases known : (method, args.length) ∈ [("size", 0), ("isEmpty", 0), ("containsKey", 1)]
  · have length : es.length = es'.length := by simpa using keys.length_eq
    have empty : es.isEmpty = es'.isEmpty := by
      rw [Bool.eq_iff_iff, List.isEmpty_iff_length_eq_zero, List.isEmpty_iff_length_eq_zero, length]
    rcases all with _ | ⟨like, _ | _⟩
    · obtain rfl | rfl : method = "size" ∨ method = "isEmpty" := by
        simpa using known
      · simp only [Standard.mapMethod, length]
        exact answer_scalar rfl nofun
      · simp only [Standard.mapMethod, empty]
        exact answer_scalar rfl nofun
    · obtain rfl : method = "containsKey" := by simpa using known
      exact (h.holdsEqual contexts keys like).bind_eq fun _ => answer_scalar rfl nofun
    · exact absurd known (by simp)
  · rw [mapMethod_of_other known, mapMethod_of_other (all.length_eq ▸ known)]
    exact .pure .none

theorem invoke {base base' : Value} (like : C.Values base base') (method : String)
    {args args' : List Value} (all : List.Forall₂ C.Values args args') :
    Matching C.Near (Option.Rel C.Values) (Standard.invoke host ctx base method args)
      (Standard.invoke (host.showing later) ctx' base' method args') := by
  cases like with
  | list elements | set elements | array elements =>
    exact h.collectionMethod contexts elements method all
  | map keys _ => exact h.mapMethod contexts keys method all
  | scalar scalar _ =>
    cases base with
    | string s => exact h.textMethod contexts s method all
    | list _ | set _ | array _ | map _ | lambda _ | adapter _ => cases scalar
    | _ => exact .pure .none
  | _ => exact .pure .none

theorem lengthOf {v v' : Value} (like : C.Values v v') :
    Matching C.Near Eq (Standard.lengthOf host ctx v)
      (Standard.lengthOf (host.showing later) ctx' v') := by
  have text := (h.toText contexts like).bind_eq fun s =>
    (Matching.pure rfl : Matching C.Near Eq (return s.length : HookM σ Nat) (return s.length))
  cases like with
  | list all | set all | array all => exact .pure all.length_eq
  | map keys _ => exact .pure (by simpa using keys.length_eq)
  | scalar scalar _ =>
    cases v with
    | null | string _ => exact .pure rfl
    | list _ | set _ | array _ | map _ | lambda _ | adapter _ => cases scalar
    | _ => exact text
  | _ => exact text

theorem joinedTexts {v v' : Value} (like : C.Values v v') :
    Matching C.Near Eq (Standard.joinedTexts host ctx v)
      (Standard.joinedTexts (host.showing later) ctx' v') := by
  have elements := like.elements?
  unfold Standard.joinedTexts
  rw [like.isNull_eq]
  generalize v.elements? = items, v'.elements? = items' at elements
  cases elements with
  | none =>
    dsimp only
    split
    · exact .pure rfl
    · exact (h.toText contexts like).bind_eq fun _ => .pure rfl
  | some all =>
    refine (Matching.mapM (fun _ _ item => h.toText contexts item) all).imp fun _ _ texts => ?_
    exact List.forall₂_eq_eq_eq ▸ texts

theorem function (name : String) {args args' : List Value} (all : List.Forall₂ C.Values args args') :
    Matching C.Near (Option.Rel C.Values) (Standard.function host ctx name args)
      (Standard.function (host.showing later) ctx' name args') := by
  by_cases known : (name, args.length) ∈ [("length", 1), ("toUpperCase", 1), ("toLowerCase", 1),
      ("matches", 2), ("join", 2)]
  · rcases all with _ | ⟨first, _ | ⟨second, _ | _⟩⟩
    · exact absurd known (by simp)
    · obtain rfl | rfl | rfl : name = "length" ∨ name = "toUpperCase" ∨ name = "toLowerCase" := by
        simpa using known
      · exact (h.lengthOf contexts first).bind_eq fun _ => answer_scalar rfl nofun
      · exact (h.toText contexts first).bind_eq fun _ => answer_scalar rfl nofun
      · exact (h.toText contexts first).bind_eq fun _ => answer_scalar rfl nofun
    · obtain rfl | rfl : name = "matches" ∨ name = "join" := by
        simpa using known
      · exact (h.toText contexts first).bind_eq fun _ => (h.toText contexts second).bind_eq fun _ =>
          Matching.bind_eq (.outcome (.of_eq rfl)) fun _ => answer_scalar rfl nofun
      · exact (h.toText contexts second).bind_eq fun _ =>
          (h.joinedTexts contexts first).bind_eq fun _ => answer_scalar rfl nofun
    · exact absurd known (by simp)
  · rw [function_of_other known, function_of_other (all.length_eq ▸ known)]
    exact .pure .none

end Coherent

/-- The standard resolver tells nothing apart that coercions and comparisons do not. -/
theorem Respects.standard (h : C.Coherent host later) :
    C.Respects (Standard.hooks host) (Standard.hooks (host.showing later)) :=
  { Respects.declining with
    invoke := fun method contexts base args => h.invoke contexts base method args
    call := by
      intro ctx ctx' args args' qualifier name contexts all
      show Matching _ _ (if _ then _ else _) (if _ then _ else _)
      split
      · exact h.function contexts name all
      · exact .pure .none }

/-! ### Requests of a context -/

/-- The two runs give corresponding numbers to what they make, and the resolvers of the application that
can be asked respect the correspondence. -/
structure Lawful (C : Correspondence σ) (host : Host σ) (later : Time.Instant) : Prop
    extends C.Steady host later where
  application : ∀ {environment : Environment} {id : Nat}, C.declarations environment →
    id ∈ environment.applications → C.Respects (host.hooks id) (host.hooks id)

mutual

/-- A resolver claims the conversions that the application's own resolvers within it claim. -/
theorem Contexts.convert {ctx ctx' : Context} (h : C.Contexts ctx ctx') {v v' : Value}
    (like : C.Values v v') (t : ValueType) :
    ∀ r : Resolver, (∀ id ∈ r.applications, C.Respects (host.hooks id) (host.hooks id)) →
      Matching C.Marked (Option.Rel C.Values) (Resolver.convert host ctx v t r)
        (Resolver.convert (host.showing later) ctx' v' t r)
  | .standard, _ => .pure .none
  | .chain members, application => .firstSome (h.conversions like t members application)
  | .host _, application => (application _ List.mem_cons_self).convert t h like

theorem Contexts.conversions {ctx ctx' : Context} (h : C.Contexts ctx ctx') {v v' : Value}
    (like : C.Values v v') (t : ValueType) :
    ∀ members : List Resolver,
      (∀ id ∈ Resolver.applicationsOfAll members, C.Respects (host.hooks id) (host.hooks id)) →
        List.Forall₂ (Matching C.Marked (Option.Rel C.Values))
          (Resolver.conversions host ctx v t members)
          (Resolver.conversions (host.showing later) ctx' v' t members)
  | [], _ => .nil
  | r :: rest, application =>
    .cons (h.convert like t r fun id mem => application id (List.mem_append_left _ mem))
      (h.conversions like t rest fun id mem => application id (List.mem_append_right _ mem))

end

namespace Lawful

section

variable (h : C.Lawful host later)
include h

/-- The application's own resolvers that a context may ask respect the correspondence. -/
theorem applications {environment : Environment} (declared : C.declarations environment) {r : Resolver}
    (resolver : environment.resolver = some r) :
    ∀ id ∈ r.applications, C.Respects (host.hooks id) (host.hooks id) := by
  refine fun id mem => h.application declared ?_
  rw [Environment.applications, resolver]
  exact mem

/-! ### Offers of conversions -/

/-- A computation that runs with the flag lowered is not told what the flag was. -/
theorem keepingFlag {Q : α → β → Prop} {m : HookM σ α} {m' : HookM σ β}
    (body : Matching C.Marked Q m m') :
    Matching C.Near Q (HookM.keepingFlag m) (HookM.keepingFlag m') := by
  intro s s' near
  obtain ⟨outcomes, after, -⟩ := body ⟨h.near_setFlag near false, rfl⟩
  exact ⟨outcomes, near.flag, after.fresh, after.world⟩

theorem coherent : C.Coherent host later where
  toSteady := h.toSteady
  offer := by
    intro ctx ctx' v v' t contexts like
    unfold Context.offerConversion
    rw [← contexts.environment]
    split
    · exact .pure .none
    · rename_i r resolver
      have asked : Matching C.Marked (Option.Rel C.Values) (r.convert host ctx v t)
          (r.convert (host.showing later) ctx' v' t) :=
        contexts.convert like t r (h.applications contexts.declarations resolver)
      have told {s s' : Ambient σ} (note : Note) (marked : C.Marked s s') :
          C.Marked (host.note note s) (host.note note s') :=
        ⟨h.near_note marked.1 note note, marked.2⟩
      refine h.keepingFlag ((asked.watch told).bind fun _ _ answers => ?_)
      cases answers with
      | some claimed => exact .pure (.some claimed)
      | none =>
        -- the flag decides, and it is the same in both runs
        intro s s' marked
        refine ⟨.ok ?_, marked⟩
        rw [marked.2]
        split
        · exact .some (.scalar rfl nofun)
        · exact .none

end

/-! ### Lookups -/

mutual

/-- A resolver respects what the application's own resolvers within it respect. -/
theorem hooks (h : C.Lawful host later) : ∀ r : Resolver,
    (∀ id ∈ r.applications, C.Respects (host.hooks id) (host.hooks id)) →
      C.Respects (r.hooks host) (r.hooks (host.showing later))
  | .standard, _ => .standard h.coherent
  | .chain members, application => .chain (h.hooksOfAll members application)
  | .host _, application => application _ List.mem_cons_self

theorem hooksOfAll (h : C.Lawful host later) : ∀ members : List Resolver,
    (∀ id ∈ Resolver.applicationsOfAll members, C.Respects (host.hooks id) (host.hooks id)) →
      List.Forall₂ C.Respects (Resolver.hooksOfAll host members)
        (Resolver.hooksOfAll (host.showing later) members)
  | [], _ => .nil
  | r :: rest, application => by
    refine .cons (h.hooks r fun id mem => application id ?_)
      (h.hooksOfAll rest fun id mem => application id ?_)
    · exact List.mem_append_left _ mem
    · exact List.mem_append_right _ mem

end

section

variable (h : C.Lawful host later) {ctx ctx' : Context} (contexts : C.Contexts ctx ctx')
include h contexts

/-- A request that a context puts to its resolver. -/
theorem claim {Q : α → β → Prop} {ask : Hooks σ → HookM σ (Option α)}
    {ask' : Hooks σ → HookM σ (Option β)}
    (asks : ∀ hooks hooks', C.Respects hooks hooks' →
      Matching C.Near (Option.Rel Q) (ask hooks) (ask' hooks')) :
    Matching C.Near (Option.Rel Q) (ctx.claim host fun r => ask (r.hooks host))
      (ctx'.claim (host.showing later) fun r => ask' (r.hooks (host.showing later))) := by
  refine (h.setResolved false).bind_eq fun _ => ?_
  rw [← contexts.environment]
  split
  · exact .pure .none
  · rename_i r resolver
    have answered := asks _ _ (h.hooks r (h.applications contexts.declarations resolver))
    refine (answered.watch fun _ near => h.near_note near _ _).bind fun _ _ found => ?_
    cases found with
    | none => exact .pure .none
    | some related => exact (h.setResolved true).bind_eq fun _ => .pure (.some related)

theorem resolveType (name : String) :
    Matching C.Near Eq (ctx.resolveType host name) (ctx'.resolveType (host.showing later) name) := by
  unfold Context.resolveType
  rw [← contexts.environment]
  split
  · exact .pure rfl
  split
  · exact .pure rfl
  split
  · exact .pure rfl
  split
  · rename_i r resolver
    have respects := h.hooks r (h.applications contexts.declarations resolver)
    refine ((respects.type name contexts).watch fun _ near => h.near_note near _ _).imp ?_
    intro _ _ related
    cases related with
    | none => rfl
    | some same => rw [same]
  · exact .pure rfl

end

end Lawful

end Correspondence

end ExprLang
