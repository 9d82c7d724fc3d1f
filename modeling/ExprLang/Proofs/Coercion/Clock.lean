import ExprLang.Proofs.Resolution.Resolvers

/-!
# The clock of the system

The application shows the language the time of one clock, that of the system. The rules read it only to
make a point in time of this clock itself (`Coercion.instantOf_eq`), and a resolver claims the same
conversions at all times (`Resolver.convert_showing`). So what is converted at one time may be converted
at another, as long as it is not the clock.
-/

namespace ExprLang

variable {σ : Type}

/-- The application when its clock shows another time. -/
def Host.showing (host : Host σ) (now : Time.Instant) : Host σ :=
  { host with now := now }

@[simp] theorem Host.showing_objects (host : Host σ) (now : Time.Instant) :
    (host.showing now).objects = host.objects :=
  rfl

/-- Whether the value is the clock of the system, which shows another time whenever it is read. -/
def Value.isSystemClock : Value → Bool
  | .clock c => c.reading.isNone
  | _ => false

theorem Value.isSystemClock_of_isNumber {v : Value} (number : v.isNumber = true) :
    v.isSystemClock = false := by
  cases v <;> first | rfl | cases number

/-- What is no clock of the system is one point in time at all times. -/
theorem Coercion.instantOf_eq {now later : Time.Instant} {v : Value}
    (still : v.isSystemClock = true → now = later) : instantOf now v = instantOf later v := by
  cases v with
  | clock c =>
    obtain ⟨id, reading⟩ := c
    cases reading with
    | none => rw [still rfl]
    | some t => rfl
  | _ => rfl

variable {host : Host σ} {now : Time.Instant}

/-- A resolver claims the same conversions at all times. -/
theorem Resolver.convert_showing (ctx : Context) (v : Value) (t : ValueType) (r : Resolver) :
    r.convert (host.showing now) ctx v t = r.convert host ctx v t := by
  have steps : Sequential fun α (m m' : HookM σ α) => m = m' :=
    { result := fun _ => rfl
      bind := fun first rest => by rw [first, funext rest] }
  have application (id : Nat) :
      ((host.showing now).hooks id).Related (fun _ m m' => m = m') (host.hooks id) :=
    .refl (fun _ => rfl) _
  exact steps.convert application ctx v t r

end ExprLang
