import ExprLang.Value.Json
import Mathlib.Data.List.Induction
import Mathlib.Data.String.Basic

/-!
# JSON documents through values

A JSON document holds integers of 64 bits, finite doubles, and objects whose members stand in the
order of their names, no name twice (`JsonValue.Document`). Every value is written as a document
(`document_toJson`), and a document comes back from the value that it is read as
(`toJson_ofJson`), so that documents are what values are written as.
**Key theorem**: `documents_survive_values`.
-/

namespace ExprLang

namespace JsonValue

/-- Members in the order of their names, no name twice. -/
abbrev InOrder (members : List (String × JsonValue)) : Prop :=
  members.Pairwise fun m n => m.1 < n.1

/-- A JSON value as the format holds it: integers fit 64 bits, with or without a sign, doubles are
finite, and the members of an object stand in the order of their names. -/
inductive Document : JsonValue → Prop where
  | null : Document null
  | boolean (b : Bool) : Document (boolean b)
  | integer {n : Int} : minInteger ≤ n → n ≤ maxInteger → Document (integer n)
  | double {x : Number.Double} : x.isFinite = true → Document (double x)
  | string (s : String) : Document (string s)
  | array {items : List JsonValue} : (∀ j ∈ items, Document j) → Document (array items)
  | object {members : List (String × JsonValue)} : (∀ m ∈ members, Document m.2) →
      InOrder members → Document (object members)

/-! ### Objects -/

section Order

variable {members : List (String × JsonValue)} {name : String} {v : JsonValue}

theorem mem_insertMember {m : String × JsonValue} (mem : m ∈ insertMember members name v) :
    m = (name, v) ∨ m ∈ members := by
  induction members with
  | nil => simpa [insertMember] using mem
  | cons first rest ih =>
    obtain ⟨n, w⟩ := first
    rw [insertMember] at mem
    cases order : compare name n with
    | lt =>
      rw [order] at mem
      simpa using mem
    | eq =>
      rw [order] at mem
      rcases List.mem_cons.mp mem with new | old
      · exact .inl new
      · exact .inr (List.mem_cons_of_mem _ old)
    | gt =>
      rw [order] at mem
      rcases List.mem_cons.mp mem with first | later
      · exact .inr (first ▸ List.mem_cons_self)
      · rcases ih later with new | old
        · exact .inl new
        · exact .inr (List.mem_cons_of_mem _ old)

theorem inOrder_insertMember (order : InOrder members) : InOrder (insertMember members name v) := by
  induction members with
  | nil => simp [insertMember]
  | cons first rest ih =>
    obtain ⟨n, w⟩ := first
    rw [InOrder, List.pairwise_cons] at order
    rw [insertMember]
    cases place : compare name n with
    | lt =>
      have less : name < n := compare_lt_iff_lt.mp place
      refine List.pairwise_cons.mpr ⟨fun m mem => ?_, List.pairwise_cons.mpr order⟩
      rcases List.mem_cons.mp mem with rfl | later
      · exact less
      · exact less.trans (order.1 m later)
    | eq =>
      obtain rfl : name = n := compare_eq_iff_eq.mp place
      exact List.pairwise_cons.mpr order
    | gt =>
      have greater : n < name := compare_gt_iff_gt.mp place
      refine List.pairwise_cons.mpr ⟨fun m mem => ?_, ih order.2⟩
      rcases mem_insertMember mem with rfl | old
      · exact greater
      · exact order.1 m old

/-- A member whose name comes after all others stands behind them. -/
theorem insertMember_of_last (last : ∀ m ∈ members, m.1 < name) :
    insertMember members name v = members ++ [(name, v)] := by
  induction members with
  | nil => rfl
  | cons first rest ih =>
    obtain ⟨n, w⟩ := first
    rw [List.forall_mem_cons] at last
    have place : compare name n = .gt := compare_gt_iff_gt.mpr last.1
    simp [insertMember, place, ih last.2]

/-- Members in order are an object as they stand. -/
theorem ofMembers_of_inOrder (order : InOrder members) : ofMembers members = object members := by
  have kept : members.foldl (fun ms m => insertMember ms m.1 m.2) [] = members := by
    induction members using List.reverseRecOn with
    | nil => rfl
    | append_singleton earlier m ih =>
      obtain ⟨inOrder, -, last⟩ := List.pairwise_append.mp order
      rw [List.foldl_append, ih inOrder]
      exact insertMember_of_last fun n mem => last n mem m (by simp)
  rw [ofMembers, kept]

/-- Whatever the members, the object of them is a document if their values are. -/
theorem document_ofMembers (values : ∀ m ∈ members, m.2.Document) :
    (ofMembers members).Document := by
  have made : InOrder (members.foldl (fun ms m => insertMember ms m.1 m.2) []) ∧
      ∀ m ∈ members.foldl (fun ms m => insertMember ms m.1 m.2) [], m.2.Document := by
    refine List.foldlRecOn
      (motive := fun ms : List (String × JsonValue) => InOrder ms ∧ ∀ m ∈ ms, m.2.Document)
      members _ ⟨.nil, nofun⟩ ?_
    intro ms ⟨order, all⟩ m mem
    refine ⟨inOrder_insertMember order, fun n inside => ?_⟩
    rcases mem_insertMember inside with rfl | old
    · exact values m mem
    · exact all n old
  exact .object made.2 made.1

end Order

end JsonValue

namespace Value

open JsonValue (Document)

/-! ### Lists of values -/

theorem ofJsonAll_eq_map (items : List JsonValue) : ofJsonAll items = items.map ofJson := by
  induction items with
  | nil => rfl
  | cons j js ih => rw [ofJsonAll, ih, List.map_cons]

theorem ofJsonMembers_eq_map (members : List (String × JsonValue)) :
    ofJsonMembers members = members.map fun m => (string m.1, ofJson m.2) := by
  induction members with
  | nil => rfl
  | cons m ms ih => rw [ofJsonMembers, ih, List.map_cons, ofJsonMember]

theorem toJsonAll_eq_map (items : List Value) : toJsonAll items = items.map toJson := by
  induction items with
  | nil => rfl
  | cons v vs ih => rw [toJsonAll, ih, List.map_cons]

theorem toJsonMembers_eq_map (entries : List (Value × Value)) :
    toJsonMembers entries = entries.map fun e => (e.1.text, toJson e.2) := by
  induction entries with
  | nil => rfl
  | cons e es ih => rw [toJsonMembers, ih, List.map_cons, toJsonMember]

/-! ### Numbers -/

theorem document_integer {n : Int} (low : -9223372036854775808 ≤ n)
    (high : n < 9223372036854775808) : Document (.integer n) := by
  have bound : (9223372036854775808 : Int) ≤ JsonValue.maxInteger := by decide
  exact .integer low (by omega)

theorem document_doubleToJson (x : Number.Double) : (doubleToJson x).Document := by
  unfold doubleToJson
  by_cases finite : x.isFinite = true
  · rw [if_pos finite]
    exact .double finite
  · rw [if_neg finite]
    exact .null

theorem document_integerToJson (n : Int) : (integerToJson n).Document := by
  unfold integerToJson
  by_cases fits : JsonValue.minInteger ≤ n ∧ n ≤ JsonValue.maxInteger
  · rw [if_pos fits]
    exact .integer fits.1 fits.2
  · rw [if_neg fits]
    exact .string _

theorem document_decimalToJson (d : Number.Decimal) : (decimalToJson d).Document := by
  unfold decimalToJson
  by_cases finite : d.toDouble.isFinite = true
  · rw [if_pos finite]
    exact .double finite
  · rw [if_neg finite]
    exact .string _

/-- An integer of 64 bits is written as itself, whichever kind it is read as. -/
theorem toJson_ofInteger {n : Int} (low : JsonValue.minInteger ≤ n)
    (high : n ≤ JsonValue.maxInteger) : toJson (ofInteger n) = .integer n := by
  unfold ofInteger
  by_cases narrow : -Nat.pow 2 63 ≤ n ∧ n < Nat.pow 2 63
  · rw [if_pos narrow]
    exact congrArg JsonValue.integer (Int64.toInt_ofInt_of_le narrow.1 narrow.2)
  · rw [if_neg narrow]
    exact if_pos ⟨low, high⟩

/-! ### Documents -/

theorem document_leafToJson (v : Value) : v.leafToJson.Document := by
  cases v with
  | null => exact .null
  | boolean b => exact .boolean b
  | byte n =>
    have low := n.le_toInt
    have high := n.toInt_lt
    exact document_integer (by omega) (by omega)
  | short n =>
    have low := n.le_toInt
    have high := n.toInt_lt
    exact document_integer (by omega) (by omega)
  | integer n =>
    have low := n.le_toInt
    have high := n.toInt_lt
    exact document_integer (by omega) (by omega)
  | long n => exact document_integer n.le_toInt n.toInt_lt
  | float x => exact document_doubleToJson x.toDouble
  | double x => exact document_doubleToJson x
  | bigInteger n => exact document_integerToJson n
  | bigDecimal d => exact document_decimalToJson d
  | _ => exact .string _

/-- Several values are written as documents if each of them is. -/
theorem document_toJsonAll {items : List Value} (each : ∀ v ∈ items, (toJson v).Document) :
    Document (.array (toJsonAll items)) := by
  rw [toJsonAll_eq_map]
  exact .array (List.forall_mem_map.mpr each)

theorem sizeOf_snd_lt (e : Value × Value) : sizeOf e.2 < sizeOf e := by
  cases e
  simp

/-- Every value is written as a document. -/
theorem document_toJson (v : Value) : (toJson v).Document := by
  have leaf : v.leafToJson.Document := document_leafToJson v
  cases v with
  | list items => exact document_toJsonAll fun w _ => document_toJson w
  | set items => exact document_toJsonAll fun w _ => document_toJson w
  | array items => exact document_toJsonAll fun w _ => document_toJson w
  | map entries =>
    rw [toJson, toJsonMembers_eq_map]
    exact JsonValue.document_ofMembers
      (List.forall_mem_map.mpr fun e _ =>
        have _ := sizeOf_snd_lt e
        document_toJson e.2)
  | _ => exact leaf
termination_by sizeOf v
decreasing_by
  all_goals
    have smaller := List.sizeOf_lt_of_mem ‹_ ∈ _›
    simp only [list.sizeOf_spec, set.sizeOf_spec, array.sizeOf_spec, map.sizeOf_spec]
    omega

/-- A document comes back from the value that it is read as. -/
theorem toJson_ofJson {j : JsonValue} (document : j.Document) : toJson (ofJson j) = j := by
  induction document with
  | null => rfl
  | boolean b => rfl
  | integer low high => exact toJson_ofInteger low high
  | double finite => simp [ofJson, toJson, leafToJson, doubleToJson, finite]
  | string s => rfl
  | @array items _ ih =>
    have each : items.map (toJson ∘ ofJson) = items.map id := List.map_congr_left ih
    simp [ofJson, toJson, ofJsonAll_eq_map, toJsonAll_eq_map, each]
  | @object members _ order ih =>
    have each : members.map (fun m => (m.1, toJson (ofJson m.2))) = members.map id := by
      refine List.map_congr_left fun m mem => ?_
      rw [ih m mem]
      rfl
    have text (s : String) : (string s).text = s := rfl
    simp only [ofJson, toJson, ofJsonMembers_eq_map, toJsonMembers_eq_map, List.map_map,
      Function.comp_def, text, each, List.map_id]
    exact JsonValue.ofMembers_of_inOrder order

/-- A JSON value survives the way through values and back exactly if it is a document: an integer of
64 bits, a finite double, or anything made of such in which no object has a name twice. -/
theorem documents_survive_values (j : JsonValue) : toJson (ofJson j) = j ↔ j.Document := by
  constructor
  · intro same
    rw [← same]
    exact document_toJson (ofJson j)
  · exact toJson_ofJson

/-- The integers at both ends of their range, a double, and objects within each other. -/
theorem documents_survive_values_nested :
    let j : JsonValue := .object
      [("a", .array [.integer (-9223372036854775808), .integer 18446744073709551615]),
        ("b", .object [("", .double (.ofInt 1)), ("c", .null)])]
    toJson (ofJson j) = j := by
  intro j
  have less {s t : String} (h : s.toList < t.toList) : s < t := String.lt_iff_toList_lt.mpr h
  have numbers : Document
      (.array [.integer (-9223372036854775808), .integer 18446744073709551615]) := by
    refine .array ?_
    simp only [List.mem_cons, List.not_mem_nil, or_false, forall_eq_or_imp, forall_eq]
    exact ⟨.integer (by decide) (by decide), .integer (by decide) (by decide)⟩
  have inner : Document (.object [("", .double (.ofInt 1)), ("c", .null)]) := by
    refine .object ?_ (List.pairwise_pair.mpr (less (by decide)))
    simp only [List.mem_cons, List.not_mem_nil, or_false, forall_eq_or_imp, forall_eq]
    exact ⟨.double (by decide), .null⟩
  refine (documents_survive_values j).mpr (.object ?_ (List.pairwise_pair.mpr (less (by decide))))
  simp only [List.mem_cons, List.not_mem_nil, or_false, forall_eq_or_imp, forall_eq]
  exact ⟨numbers, inner⟩

end Value

end ExprLang
