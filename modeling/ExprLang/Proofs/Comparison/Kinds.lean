import ExprLang.Proofs.Comparison.Numeric
import ExprLang.Proofs.Comparison.Trichotomy
import ExprLang.Proofs.Number.Codes

/-!
# Equality within one kind

Two values of one kind that are not the same are still brought to a kind in which they are compared:
integers and characters to 64 bits, singles to doubles, times to points in time. All values but two
sorts keep apart on the way, so that they are equal only if they are the same. Characters are cut down
to 16 bits, by which a character beyond U+FFFF may meet another one; and a single that is a signalling
NaN becomes a quiet one, by which it meets its own quiet form (`Value.Merged`).

**Key theorem**: `equals_within_kind`.
-/

namespace ExprLang

namespace Value

/-- The values are of one kind, which is not that of clocks. -/
inductive SameKind : Value → Value → Prop where
  | null : SameKind null null
  | boolean (a b : Bool) : SameKind (boolean a) (boolean b)
  | char (a b : Char) : SameKind (char a) (char b)
  | byte (a b : Int8) : SameKind (byte a) (byte b)
  | short (a b : Int16) : SameKind (short a) (short b)
  | integer (a b : Int32) : SameKind (integer a) (integer b)
  | long (a b : Int64) : SameKind (long a) (long b)
  | float (a b : Number.Single) : SameKind (float a) (float b)
  | double (a b : Number.Double) : SameKind (double a) (double b)
  | bigInteger (a b : Int) : SameKind (bigInteger a) (bigInteger b)
  | bigDecimal (a b : Number.Decimal) : SameKind (bigDecimal a) (bigDecimal b)
  | string (a b : String) : SameKind (string a) (string b)
  | enum (a b : EnumMember) : SameKind (enum a) (enum b)
  | instant (a b : Time.Instant) : SameKind (instant a) (instant b)
  | date (a b : Time.Instant) : SameKind (date a) (date b)
  | temporal (a b : Time.OffsetInstant) : SameKind (temporal a) (temporal b)
  | list (as bs : List Value) : SameKind (list as) (list bs)
  | set (as bs : List Value) : SameKind (set as) (set bs)
  | map (as bs : List (Value × Value)) : SameKind (map as) (map bs)
  | array (as bs : List Value) : SameKind (array as) (array bs)
  | lambda (a b : Lambda) : SameKind (lambda a) (lambda b)
  | adapter (a b : Adapter) : SameKind (adapter a) (adapter b)
  | object (a b : HostObject) : SameKind (object a) (object b)

/-- The values are two characters whose numbers agree in 16 bits, or two singles of which one is a
signalling NaN and the other its quiet form. -/
inductive Merged : Value → Value → Prop where
  | chars {c d : Char} : c ≠ d → c.toNat % 0x10000 = d.toNat % 0x10000 → Merged (char c) (char d)
  | quieted {x : Number.Single} : x.IsSignalling → Merged (float x) (float x.quieted)
  | signalling {x : Number.Single} : x.IsSignalling → Merged (float x.quieted) (float x)

/-- The value is a character with more than 16 bits. -/
def IsWide (v : Value) : Prop :=
  ∃ c, v = char c ∧ 0xFFFF < c.toNat

/-- The value is a single that is a signalling NaN. -/
def IsSignallingNan (v : Value) : Prop :=
  ∃ x, v = float x ∧ x.IsSignalling

/-- Characters have one code if their numbers agree in 16 bits. -/
theorem charCode_eq_iff {c d : Char} :
    Coercion.charCode c = Coercion.charCode d ↔ c.toNat % 0x10000 = d.toNat % 0x10000 := by
  rw [← Int16.toInt_inj, Coercion.charCode, Coercion.charCode, Int16.toInt_ofNat', Int16.toInt_ofNat',
    Int.bmod_def, Int.bmod_def, Int16.size]
  split <;> split <;> omega

/-- Only characters with more than 16 bits and signalling NaNs are merged with others. -/
theorem Merged.cause {a b : Value} (merged : Merged a b) :
    (a.IsWide ∨ b.IsWide) ∨ (a.IsSignallingNan ∨ b.IsSignallingNan) := by
  cases merged with
  | @chars c d differ numbers =>
    by_contra narrow
    simp only [IsWide, char.injEq, exists_eq_left', not_or, not_lt] at narrow
    have equal : c.toNat = d.toNat := by omega
    exact differ (Char.toNat_inj.mp equal)
  | quieted signalling => exact .inr (.inl ⟨_, rfl, signalling⟩)
  | signalling signalling => exact .inr (.inr ⟨_, rfl, signalling⟩)

/-- Two singles that are one double are the same or merged. -/
theorem merged_of_toDouble_eq {x y : Number.Single} (differ : x ≠ y)
    (doubles : x.toDouble = y.toDouble) : Merged (float x) (float y) := by
  rcases (Number.Single.toDouble_eq_iff differ).mp doubles with
    ⟨signalling, rfl⟩ | ⟨signalling, rfl⟩
  · exact .quieted signalling
  · exact .signalling signalling

end Value

theorem Time.Instant.compareTime_eq_iff {t u : Time.Instant} :
    t.compareTime u = .eq ↔ t = u := by
  rw [compareTime, Ordering.then_eq_eq, compare_eq_iff_eq, compare_eq_iff_eq]
  cases t
  cases u
  rw [Instant.mk.injEq]

namespace Comparison

open Value (SameKind Merged)

variable {σ : Type} {host : Host σ} {ctx : Context} {a b : Value} {s : Ambient σ}

/-- Two values are equal if they are the same, or neither is null and the rules find them equal. -/
theorem equals_iff_across :
    (equals host ctx a b s).1 = true ↔ Value.same host.objects a b = true ∨
      (a.isNull || b.isNull) = false ∧ (equalsAcross host ctx a b s).1 = .ok true := by
  rw [equals_eq_true_iff, tryEquals]
  split
  · rename_i alike
    exact ⟨fun _ => .inl alike, fun _ => rfl⟩
  rename_i apart
  split
  · rename_i null
    constructor
    · intro equal
      cases equal
    · rintro (alike | ⟨present, -⟩)
      · exact absurd alike apart
      · exact absurd null (by simp [present])
  · rename_i present
    refine ⟨fun equal => .inr ⟨by simpa using present, equal⟩, ?_⟩
    rintro (alike | ⟨-, equal⟩)
    · exact absurd alike apart
    · exact equal

/-! ### Within one kind -/

section Free

variable (free : ctx.environment.resolver = none)
include free

/-- Two values that become numbers on one scale are found equal if the numbers are. -/
theorem across_numbers_iff (basis : Basis) {m n : Value} {p q : basis.Point}
    (chosen : basis? a b = some basis)
    (converted : ∀ zeroMode, Coercion.numberOf zeroMode ⟨basis.kind, false⟩ a = .ok m)
    (converted' : ∀ zeroMode, Coercion.numberOf zeroMode ⟨basis.kind, false⟩ b = .ok n)
    (point : basis.point? m = some p) (point' : basis.point? n = some q) :
    (equalsAcross host ctx a b s).1 = .ok true ↔ basis.order p q = .eq := by
  have read {v w : Value} {r : basis.Point} (s : Ambient σ)
      (converted : ∀ zeroMode, Coercion.numberOf zeroMode ⟨basis.kind, false⟩ v = .ok w)
      (point : basis.point? w = some r) : basis.read host ctx v s = (.ok r, s) := by
    simp only [Basis.read, bind_apply, toNumber_of_free free, converted, point]
    rfl
  have order : compareOn host ctx basis a b s = (.ok (basis.order p q), s) := by
    rw [compareOn_eq_read]
    simp only [bind_apply, read _ converted point, read _ converted' point']
    rfl
  unfold equalsAcross
  rw [chosen]
  refine test_eq_true_iff.trans ?_
  rw [order, Except.ok.injEq]

/-- Two values that become integers of 64 bits are found equal only if these are the same. -/
theorem toInt_eq_of_across {m n : Int64} (chosen : basis? a b = some .long)
    (converted : ∀ zeroMode, Coercion.numberOf zeroMode ⟨.long, false⟩ a = .ok (.long m))
    (converted' : ∀ zeroMode, Coercion.numberOf zeroMode ⟨.long, false⟩ b = .ok (.long n))
    (equal : (equalsAcross host ctx a b s).1 = .ok true) : m.toInt = n.toInt := by
  rw [across_numbers_iff free .long chosen converted converted' rfl rfl] at equal
  exact compare_eq_iff_eq.mp equal

/-- Two values that become points in time are in order as equal ones if the points are. -/
theorem compareInstants_eq_iff {t u : Time.Instant} (present : a.isNull = false)
    (present' : b.isNull = false) (read : Coercion.instantOf host.now a = .ok t)
    (read' : Coercion.instantOf host.now b = .ok u) :
    (compareInstants host ctx a b s).1 = .ok .eq ↔ t = u := by
  have point {v : Value} {t : Time.Instant} (s : Ambient σ) (present : v.isNull = false)
      (read : Coercion.instantOf host.now v = .ok t) : asInstant host ctx v s = (.ok t, s) := by
    rw [asInstant, bind_apply, toInstant_of_free free, present, read]
    rfl
  have order : compareInstants host ctx a b s = (.ok (t.compareTime u), s) := by
    simp only [compareInstants, bind_apply, point _ present read, point _ present' read']
    rfl
  rw [order, Except.ok.injEq, Time.Instant.compareTime_eq_iff]

/-- What the rules find equal within one kind is the same, or is merged. -/
theorem same_or_merged_of_across (kind : a.SameKind b)
    (equal : (equalsAcross host ctx a b s).1 = .ok true) :
    Value.same host.objects a b = true ∨ a.Merged b := by
  have alike {v w : Value} (leaf : v.isCollection = false) (same : v = w) :
      Value.same host.objects v w = true :=
    same ▸ Value.same_leaf_self leaf
  cases kind with
  | null => exact .inl (alike rfl rfl)
  | boolean x y =>
    refine .inl (alike rfl (congrArg _ ?_))
    change ((do return (← Coercion.toBoolean host ctx false (.boolean x)) ==
      (← Coercion.toBoolean host ctx false (.boolean y)) : HookM σ Bool) s).1 = .ok true at equal
    simp only [bind_apply, toBoolean_of_free free, Coercion.booleanOf] at equal
    exact Option.some_inj.mp (beq_iff_eq.mp (Except.ok.inj equal))
  | char c d =>
    have codes := toInt_eq_of_across free rfl (fun _ => rfl) (fun _ => rfl) equal
    rw [Int16.toInt_toInt64, Int16.toInt_toInt64, Int16.toInt_inj] at codes
    by_cases same : c = d
    · exact .inl (alike rfl (congrArg _ same))
    · exact .inr (.chars same (Value.charCode_eq_iff.mp codes))
  | byte m n =>
    have numbers := toInt_eq_of_across free rfl (fun _ => rfl) (fun _ => rfl) equal
    rw [Int8.toInt_toInt64, Int8.toInt_toInt64, Int8.toInt_inj] at numbers
    exact .inl (alike rfl (congrArg _ numbers))
  | short m n =>
    have numbers := toInt_eq_of_across free rfl (fun _ => rfl) (fun _ => rfl) equal
    rw [Int16.toInt_toInt64, Int16.toInt_toInt64, Int16.toInt_inj] at numbers
    exact .inl (alike rfl (congrArg _ numbers))
  | integer m n =>
    have numbers := toInt_eq_of_across free rfl (fun _ => rfl) (fun _ => rfl) equal
    rw [Int32.toInt_toInt64, Int32.toInt_toInt64, Int32.toInt_inj] at numbers
    exact .inl (alike rfl (congrArg _ numbers))
  | long m n =>
    have numbers := toInt_eq_of_across free rfl (fun _ => rfl) (fun _ => rfl) equal
    exact .inl (alike rfl (congrArg _ (Int64.toInt_inj.mp numbers)))
  | float x y =>
    have doubles := (across_numbers_iff free .double rfl (fun _ => rfl) (fun _ => rfl) rfl rfl).mp equal
    by_cases same : x = y
    · exact .inl (alike rfl (congrArg _ same))
    · exact .inr (Value.merged_of_toDouble_eq same (Number.Double.compareTotal_eq_iff.mp doubles))
  | double x y =>
    have doubles := (across_numbers_iff free .double rfl (fun _ => rfl) (fun _ => rfl) rfl rfl).mp equal
    exact .inl (alike rfl (congrArg _ (Number.Double.compareTotal_eq_iff.mp doubles)))
  | bigInteger m n =>
    have numbers :=
      (across_numbers_iff free .bigInteger rfl (fun _ => rfl) (fun _ => rfl) rfl rfl).mp equal
    exact .inl (alike rfl (congrArg _ (compare_eq_iff_eq.mp numbers)))
  | bigDecimal d e =>
    have numbers :=
      (across_numbers_iff free .decimal rfl (fun _ => rfl) (fun _ => rfl) rfl rfl).mp equal
    have values : d.value = e.value :=
      compare_eq_iff_eq.mp ((Number.Decimal.compareValue_eq d e).symm.trans numbers)
    refine .inl ?_
    rw [Value.same_leaf rfl, Value.sameLeaf, Number.Decimal.sameValue_eq, decide_eq_true values]
  | string t u =>
    obtain ⟨text, first, second⟩ := (compareTexts_eq_iff free).mp (test_eq_true_iff.mp equal)
    exact .inl (alike rfl (congrArg _ (Except.ok.inj (first.trans second.symm))))
  | enum m n => exact .inl (alike rfl (congrArg _ ((member_eq_true_iff free m n s).mp equal).symm))
  | instant t u | date t u =>
    have times := (compareInstants_eq_iff free rfl rfl rfl rfl).mp (test_eq_true_iff.mp equal)
    exact .inl (alike rfl (congrArg _ times))
  | temporal t u =>
    have times := (compareInstants_eq_iff free rfl rfl rfl rfl).mp (test_eq_true_iff.mp equal)
    refine .inl ?_
    rw [Value.same_leaf rfl, Value.sameLeaf, beq_iff_eq]
    exact times
  | list | set | map | array | lambda | adapter | object => cases equal

/-- The rules find equal what is merged. -/
theorem across_of_merged (merged : a.Merged b) : (equalsAcross host ctx a b s).1 = .ok true := by
  have singles {x y : Number.Single} (doubles : x.toDouble = y.toDouble) :
      (equalsAcross host ctx (.float x) (.float y) s).1 = .ok true := by
    refine (across_numbers_iff free .double rfl (fun _ => rfl) (fun _ => rfl) rfl rfl).mpr ?_
    exact Number.Double.compareTotal_eq_iff.mpr doubles
  cases merged with
  | chars _ numbers =>
    refine (across_numbers_iff free .long rfl (fun _ => rfl) (fun _ => rfl) rfl rfl).mpr ?_
    exact compare_eq_iff_eq.mpr (by rw [Value.charCode_eq_iff.mpr numbers])
  | quieted signalling => exact singles signalling.toDouble_quieted.symm
  | signalling signalling => exact singles signalling.toDouble_quieted

/-- In a context without a resolver, two values of one kind other than clocks are equal if and only if
they are the same or are merged: two characters that agree in 16 bits, of which one has more, or a
signalling NaN and its quiet form. -/
theorem equals_within_kind (kind : a.SameKind b) (s : Ambient σ) :
    ((equals host ctx a b s).1 = true ↔ Value.same host.objects a b = true ∨ a.Merged b) ∧
    (a.Merged b → (a.IsWide ∨ b.IsWide) ∨ (a.IsSignallingNan ∨ b.IsSignallingNan)) := by
  refine ⟨?_, Merged.cause⟩
  rw [equals_iff_across]
  constructor
  · rintro (alike | ⟨-, equal⟩)
    · exact .inl alike
    · exact same_or_merged_of_across free kind equal
  · rintro (alike | merged)
    · exact .inl alike
    · refine .inr ⟨?_, across_of_merged free merged⟩
      cases merged <;> rfl

end Free

/-- The letter `A` has the number 65, and `𐁁` has 65 in its lower 16 bits: they are equal, and they are
not the same. -/
theorem equals_within_kind_wide :
    let host := Host.plain false
    let ctx := Context.ofEnvironment .empty
    let a := Value.char 'A'
    let b := Value.char '𐁁'
    let s : Ambient Unit := ⟨true, 0, ()⟩
    ctx.environment.resolver = none ∧ a.SameKind b ∧ Value.same host.objects a b = false ∧
      (equals host ctx a b s).1 = true ∧ b.IsWide := by
  intro host ctx a b s
  have free : ctx.environment.resolver = none := rfl
  have kind : a.SameKind b := .char 'A' '𐁁'
  have merged : a.Merged b := .chars (by decide) (by decide)
  have equal : (equals host ctx a b s).1 = true :=
    (equals_within_kind free kind s).1.mpr (.inr merged)
  exact ⟨free, kind, by simp [a, b, Value.same, Value.sameLeaf], equal, '𐁁', rfl, by decide⟩

end Comparison

end ExprLang
