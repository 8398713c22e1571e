import RecordQuery.Proofs.DataType.JsonValue
import RecordQuery.Proofs.DataType.Zone
import RecordQuery.Proofs.Json.Assembly

/-!
# Safe texts of collections are read back

The safe text of a collection is JSON.  Read into the collection again it gives the items
without the blank strings among them, which stand for nothing.  What JSON cannot carry is
left out: doubles that are infinite or rounded by the reader, and unsigned integers that
stand outside of objects.
-/

namespace RecordQuery

open Number

/-!
# Items
-/

namespace BaseType

variable {t : BaseType} {v : Value}

theorem read_ofJson_of_signedOutside {items : List Json}
    (hinstance : t.isInstance (.json (.array items)) = true)
    (hitems : (Json.array items).SignedOutside) :
    t.read (Value.ofJson (.array items)) = .ok (some (.json (.array items))) := by
  have hkind : t.kind = .json ∨ t.kind = .jsonArray := by
    rcases t with ⟨name, kind⟩
    cases kind with
    | json =>
        exact .inl rfl
    | jsonArray =>
        exact .inr rfl
    | _ =>
        cases hinstance
  rw [read_ofJson_array hkind, (Json.narrow_eq_iff _).mpr hitems]

theorem read_ofJson_toJson (habsent : v.isAbsent = false) (hinstance : t.isInstance v = true)
    (hfinite : forall x, v = .float x -> x.isFinite = true)
    (hsigned : forall j, v = .json j -> j.SignedOutside) :
    t.read (Value.ofJson v.toJson) = .ok (some v) := by
  cases v with
  | null =>
      cases habsent
  | int n =>
      rw [Value.toJson, Json.ofInt64, Value.ofJson, Value.ofNumber_ofInt64]
      exact read_of_isInstance habsent hinstance
  | float x =>
      have hx := hfinite x rfl
      rw [Value.toJson_float hx, Value.ofJson]
      exact read_of_isInstance habsent hinstance
  | string s =>
      rw [Value.toJson, Value.ofJson]
      exact read_of_isInstance habsent hinstance
  | boolean b =>
      rw [Value.toJson, Value.ofJson]
      exact read_of_isInstance habsent hinstance
  | json j =>
      rw [Value.toJson]
      cases j with
      | array items =>
          exact read_ofJson_of_signedOutside hinstance (hsigned _ rfl)
      | object members =>
          rw [Value.ofJson]
          exact read_of_isInstance habsent hinstance
      | _ =>
          rcases t with ⟨name, kind⟩
          cases kind <;>
            cases hinstance
  | uuid u =>
      rw [Value.toJson, Value.ofJson]
      rcases t with ⟨name, kind⟩
      cases kind with
      | uuid =>
          exact read_of_convert_eq (Text.blank_eq_false_iff.mpr u.visible_text) rfl
            (readUuid_text ⟨name, .uuid⟩ u)
      | _ =>
          cases hinstance
  | timestamp m =>
      rcases t with ⟨name, kind⟩
      cases kind <;>
        cases hinstance
  | list items =>
      rcases t with ⟨name, kind⟩
      cases kind <;>
        cases hinstance

theorem read_ofJson_toJson_of_isAbsent (habsent : v.isAbsent = true) :
    t.read (Value.ofJson v.toJson) = .ok none := by
  have hsame : Value.ofJson v.toJson = v := by
    cases v with
    | null | string s =>
        rw [Value.toJson, Value.ofJson]
    | _ =>
        cases habsent
  rw [hsame, read, if_pos habsent]

end BaseType

/-!
# Collections
-/

namespace DataType

variable {t : DataType} {item : BaseType} {opts : FormatOptions} {vs : List Value}

theorem readItems_ofItems (hlist : forall v, v ∈ vs -> item.isInstance v = true)
    (hfinite : forall x, .float x ∈ vs -> x.isFinite = true)
    (hsigned : forall j, .json j ∈ vs -> j.SignedOutside) :
    readItems item (Value.ofItems (Value.itemsToJson vs)) =
      .ok (vs.filter fun v => !v.isAbsent) := by
  induction vs with
  | nil =>
      rw [Value.itemsToJson, Value.ofItems]
      rfl
  | cons v vs ih =>
      have hrest := ih (fun u hu => hlist u (List.mem_cons_of_mem v hu))
        (fun x hx => hfinite x (List.mem_cons_of_mem v hx))
        (fun j hj => hsigned j (List.mem_cons_of_mem v hj))
      rw [Value.itemsToJson, Value.ofItems, readItems, hrest]
      cases habsent : v.isAbsent with
      | true =>
          rw [item.read_ofJson_toJson_of_isAbsent habsent]
          simp [habsent, bind, Except.bind]
      | false =>
          have hfirst : item.read (Value.ofJson v.toJson) = .ok (some v) := by
            apply item.read_ofJson_toJson habsent (hlist v List.mem_cons_self)
            · rintro x rfl
              exact hfinite x List.mem_cons_self
            · rintro j rfl
              exact hsigned j List.mem_cons_self
          rw [hfirst]
          simp [habsent, bind, Except.bind]

theorem read_string_of_array (ht : t.itemType? = some item) {s : String} {items : List Json}
    (hvisible : Text.Visible s.toList) (hread : Json.read? s = some (.array items)) :
    t.read (.string s) =
      (readItems item (Value.ofItems items)).map fun vs => some (.list vs) := by
  have habsent : (Value.string s).isAbsent = false := Text.blank_eq_false_iff.mpr hvisible
  have hinstance : t.isInstance (.string s) = false := by
    cases t with
    | base b =>
        cases ht
    | list b | set b =>
        rfl
  have hitems : itemsOf? (.string s) = some (Value.ofItems items) := by
    simp only [itemsOf?, hread]
  simp only [read_eq_readCollection ht, readCollection, habsent, hinstance, hitems,
    if_neg Bool.false_ne_true]

theorem visible_pretty_array (items : List Json) :
    Text.Visible (Json.array items).pretty.toList := by
  cases items with
  | nil =>
      rw [Json.pretty, Json.prettyAt]
      exact Text.visible_cons _ rfl
  | cons x rest =>
      rw [Json.pretty, Json.toList_prettyAt_array]
      exact Text.visible_cons _ rfl

theorem format_list_safe (ht : t.itemType? = some item) (hinstance : t.isInstance (.list vs) = true)
    (hsafe : opts.safe = true) :
    t.format opts (.list vs) = .ok (Value.list vs).toJson.pretty := by
  have hread : t.read (.list vs) = .ok (some (.list vs)) := by
    rw [read_eq_readCollection ht, readCollection, hinstance]
    rfl
  rw [format_of_read_list ht hread, writeCollection_safe hsafe]

/-- A collection has a safe text, which is read as the collection without its blank strings, if
it is not nested too deeply, its doubles are finite and survive their JSON texts, and integers
that are not inside of objects are signed. -/
theorem read_format_collection (ht : t.itemType? = some item)
    (hinstance : t.isInstance (.list vs) = true) (hsafe : opts.safe = true) :
    exists s, t.format opts (.list vs) = .ok s ∧
      ((Value.list vs).toJson.depth ≤ Json.nestingLimit -> (Value.list vs).toJson.Readable ->
        (forall x, .float x ∈ vs -> x.isFinite = true) ->
        (forall j, .json j ∈ vs -> j.SignedOutside) ->
        t.read (.string s) = .ok (some (.list (vs.filter fun v => !v.isAbsent)))) := by
  have hlist : forall v, v ∈ vs -> item.isInstance v = true := by
    rw [isInstance_list ht, List.all_eq_true] at hinstance
    exact hinstance
  refine ⟨_, format_list_safe ht hinstance hsafe, ?_⟩
  intro hdepth hreadable hfinite hsigned
  have hread : Json.read? (Value.list vs).toJson.pretty = some (Value.list vs).toJson :=
    Json.readWithin?_pretty hreadable hdepth
  rw [Value.toJson] at hread ⊢
  rw [read_string_of_array ht (visible_pretty_array _) hread,
    readItems_ofItems hlist hfinite hsigned]
  rfl

/-- Whatever the options are beside safe, the text of the collection is read as all of it. -/
def RestoresAll (t : DataType) (vs : List Value) : Prop :=
  forall opts s, opts.safe = true -> t.format opts (.list vs) = .ok s ->
    (Value.list vs).toJson.depth ≤ Json.nestingLimit ->
      t.read (.string s) = .ok (some (.list vs))

def readsSame (r : Except Error (Option Value)) (v : Value) : Bool :=
  match r with
  | .ok (some w) => w.same v
  | _ => false

theorem not_restoresAll (ht : t.itemType? = some item) (hinstance : t.isInstance (.list vs) = true)
    (hdepth : (Value.list vs).toJson.depth ≤ Json.nestingLimit)
    (hself : (Value.list vs).same (.list vs) = true)
    (hother : readsSame (t.read (.string (Value.list vs).toJson.pretty)) (.list vs) = false) :
    t.isInstance (.list vs) = true ∧ ¬ t.RestoresAll vs := by
  refine ⟨hinstance, fun h => ?_⟩
  rw [h .safely _ rfl (format_list_safe ht hinstance rfl) hdepth, readsSame, hself] at hother
  cases hother

end DataType

namespace Sample

def texts : DataType :=
  .list ⟨"utf8text", .utf8Text⟩

def doubles : DataType :=
  .list ⟨"float(8)", .float 8⟩

def arrays : DataType :=
  .set ⟨"jsonarray", .jsonArray⟩

def infinity : Float :=
  signedFloat false infiniteBits

/-- Blank strings, infinite doubles, doubles that the reader rounds, and unsigned integers
outside of objects do not come back. -/
theorem not_restoresAll_items :
    (forall t, t ∈ [texts, doubles, arrays] -> exists b, b ∈ baseTypes ∧ t.itemType? = some b) ∧
      (texts.isInstance (.list [.string " "]) = true ∧ ¬ texts.RestoresAll [.string " "]) ∧
      (doubles.isInstance (.list [.float infinity]) = true ∧
        ¬ doubles.RestoresAll [.float infinity]) ∧
      (doubles.isInstance (.list [.float 7e-23]) = true ∧ ¬ doubles.RestoresAll [.float 7e-23]) ∧
      (arrays.isInstance (.list [.json (.array [greatestUnsigned])]) = true ∧
        ¬ arrays.RestoresAll [.json (.array [greatestUnsigned])]) := by
  refine ⟨by decide, ?_, ?_, ?_, ?_⟩
  iterate 4
    · exact DataType.not_restoresAll rfl (by decide +kernel) (by decide +kernel)
        (by decide +kernel) (by decide +kernel)

theorem readable_nestedArray : nestedArray.Readable := by
  have hobject : (Json.object [("a", greatestUnsigned), ("b", .array [])]).Readable := by
    refine .object (by decide) ?_
    intro m hm
    rcases List.mem_pair.mp hm with rfl | rfl
    · exact .integer _ _ _
    · exact .array (by simp)
  refine .array ?_
  intro x hx
  simp only [List.mem_cons, List.not_mem_nil, or_false] at hx
  rcases hx with rfl | rfl | rfl | rfl
  · exact .real _ _ (by decide +kernel)
  · exact .string _
  · exact .null
  · exact hobject

theorem read_format_collection_nestedArray :
    arrays.itemType? = some ⟨"jsonarray", .jsonArray⟩ ∧
      arrays.isInstance (.list [.json nestedArray]) = true ∧ safeAnyway.safe = true ∧
      (Value.list [.json nestedArray]).toJson.depth ≤ Json.nestingLimit ∧
      (Value.list [.json nestedArray]).toJson.Readable ∧
      (forall x, .float x ∈ [Value.json nestedArray] -> x.isFinite = true) ∧
      (forall j, .json j ∈ [Value.json nestedArray] -> j.SignedOutside) ∧
      exists s, arrays.format safeAnyway (.list [.json nestedArray]) = .ok s ∧
        arrays.read (.string s) = .ok (some (.list [.json nestedArray])) := by
  have hinstance : arrays.isInstance (.list [.json nestedArray]) = true := rfl
  have hdepth : (Value.list [.json nestedArray]).toJson.depth ≤ Json.nestingLimit := by
    decide
  have hreadable : (Value.list [.json nestedArray]).toJson.Readable := by
    simp only [Value.toJson, Value.itemsToJson]
    exact .array (by simpa using readable_nestedArray)
  have hfinite : forall x, .float x ∈ [Value.json nestedArray] -> x.isFinite = true := by
    simp
  have hsigned : forall j, .json j ∈ [Value.json nestedArray] -> j.SignedOutside := by
    simpa using signedOutside_nestedArray
  have hsafe : safeAnyway.safe = true := rfl
  rcases DataType.read_format_collection rfl hinstance hsafe with ⟨s, hformat, hread⟩
  exact ⟨rfl, hinstance, hsafe, hdepth, hreadable, hfinite, hsigned, s, hformat,
    hread hdepth hreadable hfinite hsigned⟩

end Sample
end RecordQuery
