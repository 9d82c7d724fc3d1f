import ExprLang.Proofs.Comparison.Antisymmetry
import ExprLang.Proofs.Evaluation.Free

/-!
# Equality agrees with the order

Equality and order are decided by two chains of rules. Equality has rules for truth values and members
of enumerations where the order knows only their texts, and either chain may fail where the other one
does not. Still, without a resolver, the order of two values is that of equal values if and only if
they are equal (`compareValues_eq_iff`): each rule of the order that finds two values equal is met by a
rule of equality that does.

**Key theorem**: `relations_trichotomous`, for the relational operators between the values of two
names: all orders fail and the values are unequal, or the operators tell of one and the same order.
-/

namespace ExprLang

/-- A value that the language itself compares, and always in the same way: neither null nor an object
of the application nor the clock of the system, and no member without a name. -/
structure Value.Ordinary (v : Value) : Prop where
  present : v.isNull = false
  noObject : ∀ o, v ≠ .object o
  still : v.isSystemClock = false
  named : ∀ m, v = .enum m → m.name ≠ ""

namespace Comparison

variable {σ : Type}

/-- Two values that are no objects and are equal by the order of their kind are one value. -/
theorem eq_of_nativeOrder? {objects : ObjectModel} {a b : Value} (noObject : ∀ o, a ≠ .object o)
    (order : nativeOrder? objects a b = some (.ok .eq)) : a = b ∧ a.isPlain = true := by
  cases a with
  | object o => exact absurd rfl (noObject o)
  | boolean x =>
    cases b with
    | boolean y =>
      rw [nativeOrder?, Option.some_inj, Except.ok.injEq, Nat.compare_eq_eq] at order
      obtain rfl : x = y := by
        cases x <;> cases y <;> first | rfl | cases order
      exact ⟨rfl, rfl⟩
    | _ => cases order
  | enum m =>
    cases b with
    | enum n =>
      by_cases same : m.type = n.type
      · rw [nativeOrder?, if_pos same, Option.some_inj, Except.ok.injEq, Nat.compare_eq_eq] at order
        obtain ⟨t, i, first⟩ := m
        obtain ⟨t', j, first'⟩ := n
        obtain rfl : t = t' := same
        obtain rfl : i = j := Fin.ext order
        exact ⟨rfl, rfl⟩
      · rw [nativeOrder?, if_neg same] at order
        cases order
    | _ => cases order
  | _ => cases order

/-- Truth values and members of enumerations have no time. -/
theorem instantOf_of_other {now : Time.Instant} {v : Value} {t : Time.Instant}
    (read : Coercion.instantOf now v = .ok t) : isBoolean v = false ∧ ∀ m, v ≠ .enum m := by
  cases v <;> first | (cases read; done) | exact ⟨rfl, fun _ member => nomatch member⟩

section Free

variable {host : Host σ} {ctx : Context} (free : ctx.environment.resolver = none) {a b : Value}
  {s : Ambient σ}
include free

/-- Two values are equal as texts if they have one text. -/
theorem compareTexts_eq_iff :
    (compareTexts host ctx a b s).1 = .ok .eq ↔
      ∃ t, Coercion.textOf a = .ok t ∧ Coercion.textOf b = .ok t := by
  constructor
  · intro order
    rw [compareTexts, bind_apply, toText_of_free free] at order
    cases textA : Coercion.textOf a with
    | error e =>
      rw [textA] at order
      cases order
    | ok t =>
      rw [textA] at order
      dsimp only at order
      rw [bind_apply, toText_of_free free] at order
      cases textB : Coercion.textOf b with
      | error e =>
        rw [textB] at order
        cases order
      | ok u =>
        rw [textB] at order
        have same : t = u := Std.LawfulEqCmp.eq_of_compare (Except.ok.inj order)
        exact ⟨t, rfl, congrArg _ same.symm⟩
  · rintro ⟨t, textA, textB⟩
    rw [compareTexts, bind_apply, toText_of_free free, textA]
    dsimp only
    rw [bind_apply, toText_of_free free, textB]
    exact congrArg Except.ok Std.ReflCmp.compare_self

/-- Values that are in order as times are neither truth values nor members of enumerations. -/
theorem kinds_of_compareInstants {o : Ordering}
    (order : (compareInstants host ctx a b s).1 = .ok o) :
    (isBoolean a = false ∧ ∀ m, a ≠ .enum m) ∧ isBoolean b = false ∧ ∀ m, b ≠ .enum m := by
  have timed {v : Value} {s after : Ambient σ} {t : Time.Instant}
      (read : asInstant host ctx v s = (.ok t, after)) : isBoolean v = false ∧ ∀ m, v ≠ .enum m := by
    rw [asInstant, bind_apply, toInstant_of_free free] at read
    cases present : v.isNull with
    | true =>
      rw [if_pos present] at read
      cases read
    | false =>
      rw [if_neg (by simp [present])] at read
      cases found : Coercion.instantOf host.now v with
      | error e =>
        rw [found] at read
        cases read
      | ok t => exact instantOf_of_other found
  rcases run : compareInstants host ctx a b s with ⟨e | o', after⟩
  · rw [run] at order
    cases order
  obtain ⟨t, between, first, rest⟩ := bind_ok run
  obtain ⟨u, later, second, -⟩ := bind_ok rest
  exact ⟨timed first, timed second⟩

/-! ### The rules of the order and those of equality -/

/-- Values that are equal as times are equal. -/
theorem equalsAcross_of_times (basis : basis? a b = none)
    (time : (a.isTemporal || b.isTemporal) = true)
    (order : (compareInstants host ctx a b s).1 = .ok .eq) :
    (equalsAcross host ctx a b s).1 = .ok true := by
  obtain ⟨⟨noTruth, noMember⟩, noTruth', noMember'⟩ := kinds_of_compareInstants free order
  unfold equalsAcross
  rw [basis, noTruth, noTruth']
  dsimp only
  rw [if_neg (by decide)]
  split
  · exact absurd rfl (noMember _)
  · exact absurd rfl (noMember' _)
  · rw [if_pos time]
    exact test_eq_true_iff.mpr order

/-- A text equals a value that is no time if it is the text of the value. -/
theorem equalsAcross_of_text {t : String} (noTime : b.isTemporal = false)
    (named : ∀ m, b = .enum m → m.name ≠ "") (text : Coercion.textOf b = .ok t) :
    (equalsAcross host ctx (.string t) b s).1 = .ok true := by
  have textual : (compareTexts host ctx (.string t) b s).1 = .ok .eq :=
    (compareTexts_eq_iff free).mpr ⟨t, rfl, text⟩
  cases b with
  | boolean x =>
    have spelled : (x == Text.equalsIgnoringAsciiCase t "true") = true := by
      cases x <;> cases text <;> decide
    show ((do return (← Coercion.toBoolean host ctx false (.string t)) ==
      (← Coercion.toBoolean host ctx false (.boolean x)) : HookM σ Bool) s).1 = .ok true
    rw [bind_apply, toBoolean_of_free free, Coercion.booleanOf, ← beq_iff_eq.mp spelled]
    dsimp only
    rw [bind_apply, toBoolean_of_free free]
    exact congrArg Except.ok (beq_self_eq_true (some x))
  | enum m =>
    obtain rfl : m.name = t := Except.ok.inj text
    have filled : m.name.isEmpty = false := by simpa using named m rfl
    have converted : Coercion.enumOf m.type (.string m.name) = .ok (some m) := by
      rw [Coercion.enumOf, if_neg (by simp [filled]), EnumMember.member?_name]
    show ((do return (← Coercion.toEnum host ctx m.type (.string m.name)) == some m :
      HookM σ Bool) s).1 = .ok true
    rw [bind_apply, toEnum_of_free free, converted]
    exact congrArg Except.ok (beq_self_eq_true (some m))
  | instant | date | temporal | clock => cases noTime
  | _ => exact test_eq_true_iff.mpr textual

/-- Values that are equal as texts are equal. -/
theorem equalsAcross_of_texts (noTime : (a.isTemporal || b.isTemporal) = false)
    (text : (a.isText || b.isText) = true) (ordinaryA : a.Ordinary) (ordinaryB : b.Ordinary)
    (order : (compareTexts host ctx a b s).1 = .ok .eq) :
    (equalsAcross host ctx a b s).1 = .ok true := by
  obtain ⟨t, textA, textB⟩ := (compareTexts_eq_iff free).mp order
  obtain ⟨noTimeA, noTimeB⟩ := Bool.or_eq_false_iff.mp noTime
  rcases (Bool.or_eq_true _ _).mp text with isText | isText
  · cases a with
    | string u =>
      obtain rfl : u = t := Except.ok.inj textA
      exact equalsAcross_of_text free noTimeB ordinaryB.named textB
    | _ => cases isText
  · cases b with
    | string u =>
      obtain rfl : u = t := Except.ok.inj textB
      exact (alternate_equalsAcross free _ _ s s).mpr
        (equalsAcross_of_text free noTimeA ordinaryA.named textA)
    | _ => cases isText

/-- Values other than objects are equal if they are in order as equal values. -/
theorem tryEquals_of_compareAcross (ordinaryA : a.Ordinary) (ordinaryB : b.Ordinary)
    (order : (compareAcross host ctx a b s).1 = .ok .eq) :
    (tryEquals host ctx a b s).1 = .ok true := by
  have across (equal : (equalsAcross host ctx a b s).1 = .ok true) :
      (tryEquals host ctx a b s).1 = .ok true := by
    unfold tryEquals
    rw [ordinaryA.present, ordinaryB.present]
    split
    · rfl
    · exact equal
  unfold compareAcross at order
  cases basis : basis? a b with
  | some kind =>
    rw [basis] at order
    refine across ?_
    unfold equalsAcross
    rw [basis]
    exact test_eq_true_iff.mpr order
  | none =>
    rw [basis] at order
    dsimp only at order
    split at order
    · rename_i time
      exact across (equalsAcross_of_times free basis time order)
    rename_i noTime
    split at order
    · rename_i text
      exact across (equalsAcross_of_texts free (by simpa using noTime) text ordinaryA ordinaryB order)
    rw [nativeOrder?_swap ordinaryA.noObject ordinaryB.noObject] at order
    cases native : nativeOrder? host.objects a b with
    | none =>
      rw [native] at order
      cases order
    | some result =>
      rw [native] at order
      obtain rfl : result = .ok .eq := order
      obtain ⟨rfl, plain⟩ := eq_of_nativeOrder? ordinaryA.noObject native
      have alike : Value.same host.objects a a = true :=
        Value.same_leaf_self (Value.isCollection_of_isPlain plain)
      rw [tryEquals_of_same alike]

/-- Ordinary values are in order as equal values if and only if they are equal. -/
theorem compareValues_eq_iff (ordinaryA : a.Ordinary) (ordinaryB : b.Ordinary) (s s' : Ambient σ) :
    (compareValues host ctx a b s).1 = .ok .eq ↔ (equals host ctx a b s').1 = true := by
  rw [compareValues_outcome free, equals_outcome_eq free s s', ordinaryA.present, ordinaryB.present]
  split
  · rename_i equal
    exact ⟨fun _ => equal, fun _ => rfl⟩
  · rename_i unequal
    refine ⟨fun order => absurd ?_ unequal, fun equal => absurd equal unequal⟩
    rw [← equals_outcome_eq free s s', equals_eq_true_iff]
    exact tryEquals_of_compareAcross free ordinaryA ordinaryB order

end Free

end Comparison

/-! ### The operators -/

/-- The operators that ask for an order. -/
def BinaryOp.orders : List BinaryOp :=
  [less, greater, lessEqual, greaterEqual]

namespace Eval

open Comparison

variable {σ : Type} (host : Host σ) {ctx : Context} (free : ctx.environment.resolver = none)
include free

omit free in
/-- An operator of order says of present values whether their order is the one it asks for. -/
theorem binary_order_outcome {op : BinaryOp} (order : op ∈ BinaryOp.orders) {a b : Value}
    (presentA : a.isNull = false) (presentB : b.isNull = false) (s : Session σ) :
    (binary host op a b s).1 =
      ((compareValues host s.context a b s.ambient).1.map fun o => .boolean (admits op o)).mapError
        .error := by
  have compared : binary host op a b =
      within fun ctx => return .boolean (admits op (← compareValues host ctx a b)) := by
    simp only [BinaryOp.orders, List.mem_cons, List.not_mem_nil, or_false] at order
    rcases order with rfl | rfl | rfl | rfl <;> rw [binary, presentA, presentB] <;> rfl
  rw [compared]
  unfold within
  dsimp only
  rw [bind_apply]
  rcases compareValues host s.context a b s.ambient with ⟨e | o, after⟩ <;> rfl

variable {x y : String} {a b : Value}
  (readX : (ctx.argument? x).or (ctx.binding? x) = some a)
  (readY : (ctx.argument? y).or (ctx.binding? y) = some b)
include readX readY

/-- An operator between two names is the operator between their values. -/
theorem eval_binary_of_free {op : BinaryOp} (strict : op ≠ .and ∧ op ≠ .or) (s : Ambient σ) :
    ∃ after, (Expr.binary op (.identifier x) (.identifier y)).eval host ⟨ctx, s⟩ =
      binary host op a b ⟨ctx, after⟩ := by
  obtain ⟨between, first⟩ := identifier_of_free host free readX s
  obtain ⟨after, second⟩ := identifier_of_free host free readY between
  have operands : (Expr.binary op (.identifier x) (.identifier y)).eval host = (do
      let a ← identifier host x
      let b ← identifier host y
      binary host op a b) := by
    cases op with
    | and => exact absurd rfl strict.1
    | or => exact absurd rfl strict.2
    | _ => rfl
  refine ⟨after, ?_⟩
  rw [operands, bind_apply, first]
  dsimp only
  rw [bind_apply, second]

variable (ordinaryA : a.Ordinary) (ordinaryB : b.Ordinary) (now : Time.Instant)
include ordinaryA ordinaryB

/-- What `==` says of the values of two names, at whatever time and in whatever surroundings. -/
theorem eval_equal_of_free (s rest : Ambient σ) :
    ((Expr.binary .equal (.identifier x) (.identifier y)).eval (host.showing now) ⟨ctx, s⟩).1 =
      .ok (.boolean (equals host ctx a b rest).1) := by
  obtain ⟨after, run⟩ := eval_binary_of_free (host.showing now) free readX readY
    (show BinaryOp.equal ≠ .and ∧ BinaryOp.equal ≠ .or by decide) s
  have said : (binary (host.showing now) .equal a b ⟨ctx, after⟩).1 =
      .ok (.boolean (equals (host.showing now) ctx a b after).1) := rfl
  rw [run, said, equals_showing free now ordinaryA.still ordinaryB.still,
    equals_outcome_eq free after rest]

/-- What an operator of order says of the values of two names, at whatever time and in whatever
surroundings. -/
theorem eval_order_of_free {op : BinaryOp} (order : op ∈ BinaryOp.orders) (s rest : Ambient σ) :
    ((Expr.binary op (.identifier x) (.identifier y)).eval (host.showing now) ⟨ctx, s⟩).1 =
      ((compareValues host ctx a b rest).1.map fun o => .boolean (admits op o)).mapError .error := by
  have strict : op ≠ .and ∧ op ≠ .or := by
    constructor <;> (rintro rfl; simp [BinaryOp.orders] at order)
  obtain ⟨after, run⟩ := eval_binary_of_free (host.showing now) free readX readY strict s
  rw [run, binary_order_outcome _ order ordinaryA.present ordinaryB.present,
    compareValues_showing free now ordinaryA.still ordinaryB.still,
    compareValues_outcome_eq free after rest]

end Eval

open Comparison Eval in
/-- Without a resolver, either no order between two ordinary values can be told and they are unequal,
or exactly one of `<`, `==` and `>` holds of them, and `<=` and `>=` say what they say. The values are
those of two names; the operators may be applied at different times and in different surroundings. -/
theorem relations_trichotomous {σ : Type} (host : Host σ) {ctx : Context}
    (free : ctx.environment.resolver = none) {x y : String} {a b : Value}
    (readX : (ctx.argument? x).or (ctx.binding? x) = some a)
    (readY : (ctx.argument? y).or (ctx.binding? y) = some b)
    (ordinaryA : a.Ordinary) (ordinaryB : b.Ordinary)
    (now : BinaryOp → Time.Instant) (s : BinaryOp → Ambient σ) :
    let told op := ((Expr.binary op (.identifier x) (.identifier y)).eval
      (host.showing (now op)) ⟨ctx, s op⟩).1
    (((∀ op ∈ BinaryOp.orders, ∃ e, told op = .error (.error e)) ∧
        told .equal = .ok (.boolean false)) ∨
      ∃ lt eq gt, told .less = .ok (.boolean lt) ∧ told .equal = .ok (.boolean eq) ∧
        told .greater = .ok (.boolean gt) ∧ [lt, eq, gt].count true = 1 ∧
        told .lessEqual = .ok (.boolean (lt || eq)) ∧
        told .greaterEqual = .ok (.boolean (gt || eq))) ∧
    ∀ t t' r r', (compareValues (host.showing t) ctx a b r).1 = .ok .eq ↔
      (equals (host.showing t') ctx a b r').1 = true := by
  intro told
  have agree (r r' : Ambient σ) :
      (compareValues host ctx a b r).1 = .ok .eq ↔ (equals host ctx a b r').1 = true :=
    compareValues_eq_iff free ordinaryA ordinaryB r r'
  refine ⟨?_, fun t t' r r' => ?_⟩
  · have equal : told .equal = .ok (.boolean (equals host ctx a b (s .equal)).1) :=
      eval_equal_of_free host free readX readY ordinaryA ordinaryB _ _ _
    have order (op) (mem : op ∈ BinaryOp.orders) :
        told op = ((compareValues host ctx a b (s .equal)).1.map
          fun o => .boolean (admits op o)).mapError .error :=
      eval_order_of_free host free readX readY ordinaryA ordinaryB _ mem _ _
    have same := agree (s .equal) (s .equal)
    rcases compared : (compareValues host ctx a b (s .equal)).1 with e | o
    · rw [compared] at same order
      have unequal : (equals host ctx a b (s .equal)).1 = false := by simpa using same
      rw [unequal] at equal
      exact .inl ⟨fun op mem => ⟨e, order op mem⟩, equal⟩
    · rw [compared, Except.ok.injEq] at same
      have equality : (equals host ctx a b (s .equal)).1 = o.isEq := by
        rw [Bool.eq_iff_iff, ← same]
        cases o <;> decide
      rw [equality] at equal
      rw [compared] at order
      refine .inr ⟨o.isLT, o.isEq, o.isGT, order .less (by decide), equal, order .greater (by decide),
        by cases o <;> rfl, ?_, ?_⟩
      · rw [order .lessEqual (by decide)]
        cases o <;> rfl
      · rw [order .greaterEqual (by decide)]
        cases o <;> rfl
  · rw [compareValues_showing free _ ordinaryA.still ordinaryB.still,
      equals_showing free _ ordinaryA.still ordinaryB.still]
    exact agree r r'

open Comparison Eval in
/-- A text and the member of an enumeration that it names. -/
theorem relations_trichotomous_member :
    let host := Host.plain false
    let red : EnumMember := ⟨⟨"Color", ["RED", "BLUE"]⟩, 0, by decide⟩
    let ctx : Context := ⟨[("x", .string "RED"), ("y", .enum red)], [], .empty⟩
    let told op := ((Expr.binary op (.identifier "x") (.identifier "y")).eval
      (host.showing ⟨0, 0⟩) ⟨ctx, ⟨true, 0, ()⟩⟩).1
    ctx.environment.resolver = none ∧ (Value.string "RED").Ordinary ∧ (Value.enum red).Ordinary ∧
      told .equal = .ok (.boolean true) ∧ told .less = .ok (.boolean false) ∧
      told .lessEqual = .ok (.boolean true) := by
  intro host red ctx told
  have free : ctx.environment.resolver = none := rfl
  have ordinaryX : (Value.string "RED").Ordinary := ⟨rfl, nofun, rfl, nofun⟩
  have ordinaryY : (Value.enum red).Ordinary :=
    ⟨rfl, nofun, rfl, fun m same => by cases same; decide⟩
  have readX : (ctx.argument? "x").or (ctx.binding? "x") = some (.string "RED") := rfl
  have readY : (ctx.argument? "y").or (ctx.binding? "y") = some (.enum red) := rfl
  have toldEqual : told .equal = .ok (.boolean true) := by
    have equal : (equals host ctx (.string "RED") (.enum red) ⟨true, 0, ()⟩).1 = true := by
      rw [equals_eq_true_iff, tryEquals, Value.same_leaf rfl]
      exact equalsAcross_of_text free rfl ordinaryY.named rfl
    rw [← equal]
    exact eval_equal_of_free host free readX readY ordinaryX ordinaryY _ _ _
  obtain ⟨⟨-, apart⟩ | ⟨lt, eq, gt, less, same, -, one, atMost, -⟩, -⟩ :=
    relations_trichotomous host free readX readY ordinaryX ordinaryY (fun _ => ⟨0, 0⟩)
      fun _ => ⟨true, 0, ()⟩
  · cases toldEqual.symm.trans apart
  · cases toldEqual.symm.trans same
    obtain rfl : lt = false := by
      cases lt <;> cases gt <;> first | rfl | cases one
    exact ⟨free, ordinaryX, ordinaryY, toldEqual, less, atMost⟩

end ExprLang
