/-!
# Bindings

Values by name. A name is bound at most once; binding it again replaces the value in its place.
-/

namespace ExprLang

/-- Names with what they are bound to, in the order of their first binding. -/
abbrev Bindings (α : Type) := List (String × α)

namespace Bindings

variable {α : Type}

/-- What a name is bound to. -/
def get? (b : Bindings α) (name : String) : Option α :=
  match b with
  | [] => none
  | (n, x) :: rest => if n = name then some x else get? rest name

/-- The bindings with `name` bound to `a`. -/
def insert (b : Bindings α) (name : String) (a : α) : Bindings α :=
  match b with
  | [] => [(name, a)]
  | (n, x) :: rest => if n = name then (n, a) :: rest else (n, x) :: insert rest name a

/-- The bindings with all of `more` added, later ones replacing earlier ones. -/
def insertAll (b more : Bindings α) : Bindings α :=
  more.foldl (fun b e => b.insert e.1 e.2) b

theorem get?_insert (b : Bindings α) (name other : String) (a : α) :
    (b.insert name a).get? other = if name = other then some a else b.get? other := by
  induction b with
  | nil => rfl
  | cons e rest ih =>
    obtain ⟨n, x⟩ := e
    by_cases hn : n = name
    · subst hn
      by_cases h : n = other <;> simp [insert, get?, h]
    · by_cases h : n = other
      · subst h
        simp [insert, get?, hn, Ne.symm hn]
      · simp [insert, get?, hn, h, ih]

end Bindings

end ExprLang
