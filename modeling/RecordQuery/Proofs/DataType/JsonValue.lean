import RecordQuery.Proofs.DataType.SafeText
import RecordQuery.Proofs.Number.Binary64

/-!
# Values made of JSON

JSON that is turned into a value and back is the same JSON, except that outside of objects an
integer beyond the signed 64-bit integers has become a double.  The types of JSON read the
value of an array in the same way.
-/

namespace RecordQuery

open Number

/-!
# Numbers that a value keeps
-/

namespace JsonNumber

/-- An integer beyond the signed 64-bit integers becomes the nearest double. -/
def narrow : JsonNumber -> JsonNumber
  | .integer i lower upper =>
      if h : i < 9223372036854775808 then
        .integer i lower upper
      else
        .real (intToFloat i) (intToFloat_wide (Int.not_lt.mp h) upper).left
  | .real x finite => .real x finite

variable {i : Int} {lower : -9223372036854775808 ≤ i} {upper : i < 18446744073709551616}

theorem narrow_integer (h : i < 9223372036854775808) :
    narrow (.integer i lower upper) = .integer i lower upper := by
  rw [narrow, dif_pos h]

theorem narrow_wide (h : 9223372036854775808 ≤ i) :
    exists finite, narrow (.integer i lower upper) = .real (intToFloat i) finite :=
  ⟨_, dif_neg (Int.not_lt.mpr h)⟩

end JsonNumber

namespace Json

/-- Outside of objects every integer is a signed 64-bit integer. -/
inductive SignedOutside : Json -> Prop where
  | null : SignedOutside .null
  | bool (b : Bool) : SignedOutside (.bool b)
  | integer (i : Int) (lower : -9223372036854775808 ≤ i) (upper : i < 18446744073709551616)
      (h : i < 9223372036854775808) : SignedOutside (.number (.integer i lower upper))
  | real (x : Float) (finite : x.isFinite = true) : SignedOutside (.number (.real x finite))
  | string (s : String) : SignedOutside (.string s)
  | array {items : List Json} (h : forall x, x ∈ items -> SignedOutside x) :
      SignedOutside (.array items)
  | object (members : List (String × Json)) : SignedOutside (.object members)

theorem narrow_number_eq_iff {n : JsonNumber} : n.narrow = n ↔ SignedOutside (.number n) := by
  constructor
  · intro heq
    cases n with
    | real x finite =>
        exact .real x finite
    | integer i lower upper =>
        rcases Int.lt_or_le i 9223372036854775808 with hsigned | hwide
        · exact .integer i lower upper hsigned
        · rcases JsonNumber.narrow_wide hwide with ⟨finite, hreal⟩
          rw [hreal] at heq
          cases heq
  · intro h
    cases h with
    | integer i lower upper hsigned =>
        exact JsonNumber.narrow_integer hsigned
    | real x finite =>
        rfl

mutual
def narrow : Json -> Json
  | .null => .null
  | .bool b => .bool b
  | .number n => .number n.narrow
  | .string s => .string s
  | .array items => .array (narrowItems items)
  | .object members => .object members

def narrowItems : List Json -> List Json
  | [] => []
  | j :: rest => narrow j :: narrowItems rest
end

mutual
theorem narrow_eq_iff : (j : Json) -> (j.narrow = j ↔ j.SignedOutside)
  | .null => by
      rw [narrow]
      exact ⟨fun _ => .null, fun _ => rfl⟩
  | .bool b => by
      rw [narrow]
      exact ⟨fun _ => .bool b, fun _ => rfl⟩
  | .number n => by
      rw [narrow, Json.number.injEq]
      exact narrow_number_eq_iff
  | .string s => by
      rw [narrow]
      exact ⟨fun _ => .string s, fun _ => rfl⟩
  | .array items => by
      rw [narrow, Json.array.injEq, narrowItems_eq_iff items]
      exact ⟨.array, fun h => by cases h; assumption⟩
  | .object members => by
      rw [narrow]
      exact ⟨fun _ => .object members, fun _ => rfl⟩

theorem narrowItems_eq_iff :
    (items : List Json) -> (narrowItems items = items ↔ forall x, x ∈ items -> x.SignedOutside)
  | [] => by
      simp [narrowItems]
  | j :: rest => by
      rw [narrowItems, List.cons.injEq, narrow_eq_iff j, narrowItems_eq_iff rest,
        List.forall_mem_cons]
end

end Json

/-!
# JSON as a value and back
-/

namespace Value

theorem ofNumber_ofInt64 (n : Int64) : ofNumber (.ofInt64 n) = .int n := by
  have hupper : n.toInt < 9223372036854775808 := Int64.toInt_lt n
  rw [ofNumber, JsonNumber.ofInt64, JsonNumber.toInt64?, if_pos hupper, Int64.ofInt_toInt]

theorem toJson_float {x : Float} (finite : x.isFinite = true) :
    (Value.float x).toJson = .number (.real x finite) := by
  rw [toJson, Json.ofFloat, JsonNumber.ofFloat?, dif_pos finite]

theorem toJson_ofNumber (n : JsonNumber) : (ofNumber n).toJson = .number n.narrow := by
  cases n with
  | real x finite =>
      exact toJson_float finite
  | integer i lower upper =>
      rcases Int.lt_or_le i 9223372036854775808 with hsigned | hwide
      · have hback : (Int64.ofInt i).toInt = i := Int64.toInt_ofInt_of_le lower hsigned
        simp only [ofNumber, JsonNumber.toInt64?, if_pos hsigned, toJson, Json.ofInt64,
          JsonNumber.ofInt64, hback, JsonNumber.narrow_integer hsigned]
      · rcases JsonNumber.narrow_wide hwide with ⟨finite, hreal⟩
        rw [hreal, ← toJson_float finite, ofNumber, JsonNumber.toInt64?,
          if_neg (Int.not_lt.mpr hwide)]
        rfl

mutual
theorem toJson_ofJson : (j : Json) -> (ofJson j).toJson = j.narrow
  | .null => by
      rw [ofJson, toJson, Json.narrow]
  | .bool _ => by
      rw [ofJson, toJson, Json.narrow]
  | .number n => by
      rw [ofJson, toJson_ofNumber, Json.narrow]
  | .string _ => by
      rw [ofJson, toJson, Json.narrow]
  | .array items => by
      rw [ofJson, toJson, itemsToJson_ofItems items, Json.narrow]
  | .object _ => by
      rw [ofJson, toJson, Json.narrow]

theorem itemsToJson_ofItems :
    (items : List Json) -> itemsToJson (ofItems items) = Json.narrowItems items
  | [] => by
      rw [ofItems, itemsToJson, Json.narrowItems]
  | x :: rest => by
      rw [ofItems, itemsToJson, toJson_ofJson x, itemsToJson_ofItems rest, Json.narrowItems]
end

end Value

namespace BaseType

variable {t : BaseType}

theorem read_ofJson_array (hkind : t.kind = .json ∨ t.kind = .jsonArray) (items : List Json) :
    t.read (Value.ofJson (.array items)) = .ok (some (.json (Json.array items).narrow)) := by
  have hjson : (Value.list (Value.ofItems items)).toJson = (Json.array items).narrow := by
    rw [Value.toJson, Value.itemsToJson_ofItems, Json.narrow]
  rw [Value.ofJson]
  rcases t with ⟨name, kind⟩
  rcases hkind with rfl | rfl
  all_goals
    apply read_of_convert_eq rfl rfl
    simp only [convert, readJson, hjson, Json.narrow]
    rfl

end BaseType

namespace Value

/-- JSON comes back from its value narrowed, which is the same JSON exactly if every integer
outside of objects is signed.  Any other integer comes back as a whole double, a multiple of
2048 that is 1024 away at most.  The types of JSON read the value of an array as what comes
back. -/
theorem toJson_ofJson_eq_iff (j : Json) :
    (ofJson j).toJson = j.narrow ∧ ((ofJson j).toJson = j ↔ j.SignedOutside) ∧
      (forall i lower upper, j = .number (.integer i lower upper) -> 9223372036854775808 ≤ i ->
        exists x finite k, (ofJson j).toJson = .number (.real x finite) ∧
          wholeNumber? x = some k ∧ 2048 ∣ k ∧ k ≤ i + 1024 ∧ i ≤ k + 1024) ∧
      forall (t : BaseType) (items : List Json), t.kind = .json ∨ t.kind = .jsonArray ->
        j = .array items -> t.read (ofJson j) = .ok (some (.json (ofJson j).toJson)) := by
  rw [toJson_ofJson]
  refine ⟨rfl, j.narrow_eq_iff, ?_, ?_⟩
  · rintro i lower upper rfl hwide
    rcases intToFloat_wide hwide upper with ⟨_, k, hwhole, hbounds⟩
    rcases JsonNumber.narrow_wide hwide with ⟨finite, hreal⟩
    refine ⟨_, finite, k, ?_, hwhole, hbounds⟩
    rw [Json.narrow, hreal]
  · rintro t items hkind rfl
    exact t.read_ofJson_array hkind items

end Value

namespace Sample

def jsonArrays : BaseType :=
  ⟨"jsonarray", .jsonArray⟩

def greatestUnsigned : Json :=
  .number (.integer 18446744073709551615 (by decide) (by decide))

/-- An array of the greatest unsigned integer comes back as an array of a double. -/
theorem not_forall_toJson_ofJson :
    ¬ forall j : Json, (Value.ofJson j).toJson = j := by
  intro h
  have hnarrow := h (.array [greatestUnsigned])
  rw [Value.toJson_ofJson, Json.narrow_eq_iff] at hnarrow
  cases hnarrow with
  | array hitems =>
      cases hitems greatestUnsigned List.mem_cons_self with
      | integer i lower upper hsigned =>
          revert hsigned
          decide

def nestedArray : Json :=
  .array [.number (.real 0.1 (by decide)), .string " ", .null,
    .object [("a", greatestUnsigned), ("b", .array [])]]

theorem signedOutside_nestedArray : nestedArray.SignedOutside := by
  refine .array ?_
  intro x hx
  simp only [List.mem_cons, List.not_mem_nil, or_false] at hx
  rcases hx with rfl | rfl | rfl | rfl
  · exact .real _ _
  · exact .string _
  · exact .null
  · exact .object _

theorem toJson_ofJson_eq_iff_nestedArray :
    (9223372036854775808 : Int) ≤ 18446744073709551615 ∧
      (exists x finite k,
        (Value.ofJson greatestUnsigned).toJson = .number (.real x finite) ∧
          wholeNumber? x = some k ∧ 2048 ∣ k ∧ k ≤ 18446744073709551615 + 1024 ∧
            18446744073709551615 ≤ k + 1024) ∧
      jsonArrays.kind = .jsonArray ∧
      jsonArrays.read (Value.ofJson nestedArray) = .ok (some (.json nestedArray)) := by
  have hwide : (9223372036854775808 : Int) ≤ 18446744073709551615 := by
    decide
  rcases Value.toJson_ofJson_eq_iff greatestUnsigned with ⟨_, _, hrounded, _⟩
  rcases Value.toJson_ofJson_eq_iff nestedArray with ⟨_, hsame, _, hread⟩
  have harray := hread jsonArrays _ (.inr rfl) rfl
  rw [hsame.mpr signedOutside_nestedArray] at harray
  exact ⟨hwide, hrounded _ _ _ rfl hwide, rfl, harray⟩

end Sample
end RecordQuery
