import RecordQuery.Proofs.DataType.SafeCollection

/-!
# Forms of an array

An array is given as a list, as JSON, or as a JSON text.  In the last two forms it is read
item by item, and what is absent is left out.  A list whose items all are instances is
taken as it is, which makes a difference where a blank string is among them.
-/

namespace RecordQuery

open Number

/-!
# Absent instances
-/

namespace BaseType

variable {t : BaseType} {v : Value}

theorem read_eq_ok_none_iff : t.read v = .ok none ↔ v.isAbsent = true := by
  rw [read]
  cases v.isAbsent with
  | true =>
      simp
  | false =>
      cases t.isInstance v with
      | true =>
          simp
      | false =>
          simp [map_eq_ok]

theorem find?_of_blank {s : String} (h : Text.blank s = true) : DataType.find? s = none := by
  have hstrip : Text.strip s = "" := by
    rw [Text.strip, Text.trim, Text.trimStart_of_blank h]
    rfl
  rw [DataType.find?, hstrip]
  decide +kernel

/-- Of the instances only blank texts are absent, and only types of texts have them. -/
theorem isCharacter_of_isAbsent (hinstance : t.isInstance v = true) (habsent : v.isAbsent = true) :
    t.kind.isCharacter = true := by
  rcases t with ⟨name, kind⟩
  cases v with
  | null =>
      rw [isInstance_null] at hinstance
      cases hinstance
  | string s =>
      cases kind with
      | asciiString | asciiText | utf8String | utf8Text | html | xml =>
          rfl
      | localDateTime =>
          rcases Bool.and_eq_true_iff.mp hinstance with ⟨_, hread⟩
          rcases Option.isSome_iff_exists.mp hread with ⟨m, hm⟩
          rw [Value.isAbsent, Calendar.blank_eq_false_of_readFull hm] at habsent
          cases habsent
      | localDate =>
          rcases Bool.and_eq_true_iff.mp hinstance with ⟨_, hread⟩
          rcases Option.isSome_iff_exists.mp hread with ⟨m, hm⟩
          rw [Value.isAbsent, Calendar.blank_eq_false_of_readDay hm] at habsent
          cases habsent
      | type =>
          have hfound : (DataType.find? s).isSome = true := hinstance
          rw [find?_of_blank habsent] at hfound
          cases hfound
      | _ =>
          cases hinstance
  | _ =>
      cases habsent

end BaseType

/-!
# Items
-/

namespace DataType

variable {t : DataType} {item : BaseType} {vs ws : List Value}

theorem readItems_eq_ok_iff :
    readItems item vs = .ok ws ↔
      List.Forall₂ (fun v w => item.read v = .ok (some w)) (vs.filter fun v => !v.isAbsent) ws := by
  induction vs generalizing ws with
  | nil =>
      simp [readItems, eq_comm]
  | cons v vs ih =>
      cases habsent : v.isAbsent with
      | true =>
          have hnone := (item.read_eq_ok_none_iff).mpr habsent
          rw [readItems, hnone, List.filter_cons_of_neg (by simp [habsent]), ← ih]
          cases readItems item vs <;>
            rfl
      | false =>
          rw [readItems, List.filter_cons_of_pos (by simp [habsent])]
          simp only [bind_eq_ok]
          constructor
          · rintro ⟨o, ho, us, hus, ⟨⟩⟩
            cases o with
            | none =>
                rw [item.read_eq_ok_none_iff.mp ho] at habsent
                cases habsent
            | some w =>
                exact .cons ho (ih.mp hus)
          · intro h
            cases h with
            | cons hw hws =>
                exact ⟨_, hw, _, ih.mpr hws, rfl⟩

theorem readItems_of_isInstance (h : forall v, v ∈ vs -> item.isInstance v = true) :
    readItems item vs = .ok (vs.filter fun v => !v.isAbsent) := by
  rw [readItems_eq_ok_iff, List.forall₂_same]
  intro v hv
  rcases List.mem_filter.mp hv with ⟨hmem, hthere⟩
  exact item.read_of_isInstance (by simpa using hthere) (h v hmem)

theorem isInstance_of_ne_list (ht : t.itemType? = some item) {v : Value}
    (hv : forall vs, v ≠ .list vs) :
    t.isInstance v = false := by
  cases t with
  | base b =>
      cases ht
  | list b | set b =>
      cases v with
      | list vs =>
          exact absurd rfl (hv vs)
      | _ =>
          rfl

theorem read_json_array (ht : t.itemType? = some item) (items : List Json) :
    t.read (.json (.array items)) =
      (readItems item (Value.ofItems items)).map fun vs => some (.list vs) := by
  have hinstance : t.isInstance (.json (.array items)) = false :=
    isInstance_of_ne_list ht (by simp)
  have habsent : (Value.json (.array items)).isAbsent = false := rfl
  simp only [read_eq_readCollection ht, readCollection, habsent, hinstance, itemsOf?,
    if_neg Bool.false_ne_true]

/-- Every item would be taken as it is, though one of them stands for nothing. -/
def KeepsBlanks (item : BaseType) (vs : List Value) : Prop :=
  (forall v, v ∈ vs -> item.isInstance v = true) ∧ exists v, v ∈ vs ∧ v.isAbsent = true

theorem read_list_eq_iff (ht : t.itemType? = some item) (vs : List Value) :
    t.read (.list vs) = (readItems item vs).map (fun ws => some (.list ws)) ↔
      ¬ KeepsBlanks item vs := by
  have habsent : (Value.list vs).isAbsent = false := rfl
  rw [read_eq_readCollection ht, readCollection, habsent, isInstance_list ht,
    if_neg Bool.false_ne_true]
  cases hall : vs.all item.isInstance with
  | false =>
      have hkeeps : ¬ KeepsBlanks item vs := by
        rintro ⟨hinstances, _⟩
        rw [List.all_eq_true.mpr hinstances] at hall
        cases hall
      exact iff_of_true rfl hkeeps
  | true =>
      have hinstances := List.all_eq_true.mp hall
      rw [readItems_of_isInstance hinstances, KeepsBlanks]
      simp only [if_true, Except.map, Except.ok.injEq, Option.some.injEq, Value.list.injEq]
      rw [eq_comm, List.filter_eq_self]
      constructor
      · rintro hthere ⟨_, v, hv, habsent⟩
        have hpresent := hthere v hv
        rw [habsent] at hpresent
        cases hpresent
      · intro hkeeps v hv
        cases habsent : v.isAbsent with
        | false =>
            rfl
        | true =>
            exact absurd ⟨hinstances, v, hv, habsent⟩ hkeeps

/-- An array is read alike in all forms, unless a blank string is among the instances of a
character type; JSON is read item by item without what is absent. -/
theorem read_array_forms (ht : t.itemType? = some item) (items : List Json) :
    (forall s, Json.read? s = some (.array items) ->
      t.read (.string s) = t.read (.json (.array items))) ∧
      (t.read (Value.ofJson (.array items)) = t.read (.json (.array items)) ↔
        ¬ KeepsBlanks item (Value.ofItems items)) ∧
      (KeepsBlanks item (Value.ofItems items) -> item.kind.isCharacter = true) ∧
      forall ws, t.read (.json (.array items)) = .ok (some (.list ws)) ↔
        List.Forall₂ (fun v w => item.read v = .ok (some w))
          ((Value.ofItems items).filter fun v => !v.isAbsent) ws := by
  rw [read_json_array ht]
  refine ⟨?_, ?_, ?_, ?_⟩
  · intro s hs
    exact read_string_of_array ht (Json.visible_of_read? hs) hs
  · rw [Value.ofJson]
    exact read_list_eq_iff ht _
  · rintro ⟨hinstances, v, hv, habsent⟩
    exact item.isCharacter_of_isAbsent (hinstances v hv) habsent
  · intro ws
    rw [← readItems_eq_ok_iff, map_eq_ok]
    simp

/-- As a list, an array of texts keeps the blank text that is dropped from the JSON. -/
theorem not_forall_read_ofJson_eq :
    ¬ forall (t : DataType) (item : BaseType) (items : List Json), item ∈ baseTypes ->
      t.itemType? = some item ->
        t.read (Value.ofJson (.array items)) = t.read (.json (.array items)) := by
  intro h
  let item : BaseType := ⟨"utf8text", .utf8Text⟩
  have hregistered : item ∈ baseTypes := by
    decide
  have heq := h (.list item) item [.string " ", .string "a"] hregistered rfl
  have hlist : DataType.read (.list item) (Value.ofJson (.array [.string " ", .string "a"])) =
      .ok (some (.list [.string " ", .string "a"])) := by
    rfl
  have hjson : DataType.read (.list item) (.json (.array [.string " ", .string "a"])) =
      .ok (some (.list [.string "a"])) := by
    rfl
  rw [hlist, hjson] at heq
  simp at heq

end DataType

namespace Sample

def smallIntegers : DataType :=
  .set ⟨"int(2)", .integer 2 (-32768) 32767⟩

def numberTexts : List Json :=
  [.string "1", .null, .string " ", Json.ofInt64 3]

theorem read_array_forms_numberTexts :
    smallIntegers.itemType? = some ⟨"int(2)", .integer 2 (-32768) 32767⟩ ∧
      Json.read? "[\"1\", null, \" \", 3]" = some (.array numberTexts) ∧
      ¬ DataType.KeepsBlanks ⟨"int(2)", .integer 2 (-32768) 32767⟩ (Value.ofItems numberTexts) ∧
      smallIntegers.read (.string "[\"1\", null, \" \", 3]") =
        .ok (some (.list [.int 1, .int 3])) ∧
      smallIntegers.read (Value.ofJson (.array numberTexts)) =
        .ok (some (.list [.int 1, .int 3])) := by
  have hitem : smallIntegers.itemType? = some ⟨"int(2)", .integer 2 (-32768) 32767⟩ := rfl
  have htext : Json.read? "[\"1\", null, \" \", 3]" = some (.array numberTexts) := by
    rfl
  rcases DataType.read_array_forms hitem numberTexts with ⟨hforms, hlist, hcharacter, hitems⟩
  have hkeeps : ¬ DataType.KeepsBlanks ⟨"int(2)", .integer 2 (-32768) 32767⟩
      (Value.ofItems numberTexts) := by
    intro h
    cases hcharacter h
  have hjson : smallIntegers.read (.json (.array numberTexts)) =
      .ok (some (.list [.int 1, .int 3])) := by
    rw [hitems]
    exact .cons rfl (.cons rfl .nil)
  exact ⟨hitem, htext, hkeeps, (hforms _ htext).trans hjson, (hlist.mpr hkeeps).trans hjson⟩

end Sample
end RecordQuery
