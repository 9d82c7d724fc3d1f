import ExprLang.ValueType

/-!
# Names of types

The types that need no declaration are told by their names: the reader and the printer are written
separately, with a name for each primitive type and one for the type with null, and agree on all of
them (`ofSimpleName?_eq_some_iff`). Arrays add their brackets behind the name of the element, nested
to any depth. **Key theorem**: `names_of_types_read_back`.
-/

namespace ExprLang.ValueType

/-- The types that need no declaration: those of the language itself, and arrays of them. Numbers
of a kind are primitive only if the kind has a primitive type. -/
def Predefined : ValueType → Prop
  | number t => t.primitive = true → t.kind.primitiveName?.isSome = true
  | array element => element.Predefined
  | enum _ | interface _ | host _ => False
  | _ => True

/-- Whether the type is an array. -/
def isArray : ValueType → Bool
  | array _ => true
  | _ => false

/-! ### Types that are no arrays -/

/-- A name that is read is the name of the type. -/
theorem text_of_ofSimpleName? {name : String} {t : ValueType} (read : ofSimpleName? name = some t) :
    t.Predefined ∧ t.isArray = false ∧ t.text = name := by
  unfold ofSimpleName? at read
  split at read <;> cases read <;> exact ⟨by simp [Predefined, boxed, unboxed], rfl, rfl⟩

/-- The name of a type is read as the type. -/
theorem ofSimpleName?_text {t : ValueType} (predefined : t.Predefined) (simple : t.isArray = false) :
    ofSimpleName? t.text = some t := by
  cases t with
  | boolean primitive => cases primitive <;> rfl
  | character primitive => cases primitive <;> rfl
  | number t =>
    obtain ⟨kind, primitive⟩ := t
    cases primitive with
    | false => cases kind <;> rfl
    | true =>
      have named : kind.primitiveName?.isSome = true := predefined rfl
      cases kind <;> first | rfl | cases named
  | array element => cases simple
  | enum type => cases predefined
  | interface type => cases predefined
  | host name => cases predefined
  | _ => rfl

/-- A name is read as the type that has the name, is no array and needs no declaration. -/
theorem ofSimpleName?_eq_some_iff {name : String} {t : ValueType} :
    ofSimpleName? name = some t ↔ t.Predefined ∧ t.isArray = false ∧ t.text = name := by
  constructor
  · exact text_of_ofSimpleName?
  · intro ⟨predefined, simple, same⟩
    rw [← same]
    exact ofSimpleName?_text predefined simple

/-- No name that is read ends with a bracket. -/
theorem last_of_ofSimpleName? {name : String} {t : ValueType} (read : ofSimpleName? name = some t) :
    name.toList.reverse.head? ≠ some ']' := by
  unfold ofSimpleName? at read
  split at read <;> first | decide | cases read

/-! ### Arrays -/

theorem reverse_text_array (element : ValueType) :
    (array element).text.toList.reverse = ']' :: '[' :: element.text.toList.reverse := by
  simp [text]

/-- A name that is read backwards is the name of the type. -/
theorem reverse_text_of_ofReversedName? {cs : List Char} {t : ValueType}
    (read : ofReversedName? cs = some t) : t.Predefined ∧ t.text.toList.reverse = cs := by
  induction cs using ofReversedName?.induct generalizing t with
  | case1 cs ih =>
    rw [ofReversedName?] at read
    obtain ⟨element, readElement, rfl⟩ := Option.map_eq_some_iff.mp read
    obtain ⟨predefined, same⟩ := ih readElement
    exact ⟨predefined, by rw [reverse_text_array, same]⟩
  | case2 cs other =>
    rw [ofReversedName?.eq_2 cs other] at read
    obtain ⟨predefined, -, same⟩ := ofSimpleName?_eq_some_iff.mp read
    exact ⟨predefined, by simp [same]⟩

theorem ofReversedName?_of_simple {t : ValueType} (predefined : t.Predefined)
    (simple : t.isArray = false) : ofReversedName? t.text.toList.reverse = some t := by
  have read : ofSimpleName? t.text = some t :=
    ofSimpleName?_eq_some_iff.mpr ⟨predefined, simple, rfl⟩
  have other : ∀ cs, t.text.toList.reverse ≠ ']' :: '[' :: cs := by
    intro cs same
    apply last_of_ofSimpleName? read
    rw [same]
    rfl
  rw [ofReversedName?.eq_2 _ other]
  simp [read]

/-- The name of a type, read backwards, is read as the type. -/
theorem ofReversedName?_text {t : ValueType} (predefined : t.Predefined) :
    ofReversedName? t.text.toList.reverse = some t := by
  induction t with
  | array element ih =>
    rw [reverse_text_array, ofReversedName?, ih predefined]
    rfl
  | _ => exact ofReversedName?_of_simple predefined rfl

/-- A name is read as the type that needs no declaration and has the name. -/
theorem ofName?_eq_some_iff {name : String} {t : ValueType} :
    ofName? name = some t ↔ t.Predefined ∧ t.text = name := by
  constructor
  · intro read
    obtain ⟨predefined, same⟩ := reverse_text_of_ofReversedName? read
    exact ⟨predefined, String.toList_inj.mp (List.reverse_inj.mp same)⟩
  · intro ⟨predefined, same⟩
    rw [← same]
    exact ofReversedName?_text predefined

/-- Names of types read back: a name is read as a type exactly if the type needs no declaration and
is printed by that name. Therefore different names never denote the same type, and the types that
need no declaration can be told apart by what they are printed as. -/
theorem names_of_types_read_back :
    (∀ (name : String) (t : ValueType), ofName? name = some t ↔ t.Predefined ∧ t.text = name) ∧
    (∀ (name name' : String) (t : ValueType), ofName? name = some t → ofName? name' = some t →
      name = name') ∧
    ∀ t t' : ValueType, t.Predefined → t'.Predefined → t.text = t'.text → t = t' := by
  refine ⟨fun name t => ofName?_eq_some_iff, fun name name' t read read' => ?_,
    fun t t' predefined predefined' same => ?_⟩
  · obtain ⟨-, text⟩ := ofName?_eq_some_iff.mp read
    obtain ⟨-, text'⟩ := ofName?_eq_some_iff.mp read'
    exact text.symm.trans text'
  · have read : ofName? t.text = some t := ofName?_eq_some_iff.mpr ⟨predefined, rfl⟩
    have read' : ofName? t.text = some t' := ofName?_eq_some_iff.mpr ⟨predefined', same.symm⟩
    exact Option.some.inj (read.symm.trans read')

/-- Arrays of primitive numbers, two deep, and a name that is none. -/
theorem names_of_types_read_back_array :
    ofName? "int[][]" = some (array (array (unboxed .integer))) ∧
      (array (array (unboxed .integer))).text = "int[][]" ∧ ofName? "Widget" = none := by
  obtain ⟨read, -, -⟩ := names_of_types_read_back
  have named : ofName? "int[][]" = some (array (array (unboxed .integer))) := by decide
  exact ⟨named, ((read _ _).mp named).2, by decide⟩

end ExprLang.ValueType
