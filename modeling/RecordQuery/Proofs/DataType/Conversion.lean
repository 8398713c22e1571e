import RecordQuery.Proofs.DataType.PlainText
import RecordQuery.Proofs.Results
import RecordQuery.Proofs.Text.Words

/-!
# Converted values

What the rules of the kinds make of a value is there, and it is an instance of the type.
Only clock readings and their dates need not be instances, since their texts may show a
year of more than four digits; but then the rule gives them back as they are.
-/

namespace RecordQuery

open Calendar Number

def Kind.isLocal : Kind -> Bool
  | .localDateTime | .localDate => true
  | _ => false

def Kind.isFloat : Kind -> Bool
  | .float _ => true
  | _ => false

def Kind.isJson : Kind -> Bool
  | .json | .jsonArray | .jsonObject => true
  | _ => false

def Kind.isIntegral : Kind -> Bool
  | .integer _ _ _ | .instant _ | .duration _ | .dateTime | .date | .enumeration _ | .id => true
  | _ => false

def Kind.isTextual : Kind -> Bool
  | .asciiString _ | .asciiText | .utf8String _ | .utf8Text | .html | .xml => true
  | .localDateTime | .localDate | .type => true
  | _ => false

namespace BaseType

variable {t : BaseType} {v w : Value}

@[simp]
theorem refuse_ne_ok {α : Type} (reason : Reason) (a : α) : t.refuse v reason ≠ .ok a := by
  rw [refuse]
  simp

@[simp]
theorem orRefuse_eq_ok {α : Type} {reason : Reason} {o : Option α} {a : α} :
    t.orRefuse v reason o = .ok a ↔ o = some a := by
  cases o with
  | none =>
      simp [orRefuse]
  | some b =>
      simp [orRefuse]

/-!
# Instances and conversions
-/

theorem isInstance_null : t.isInstance .null = false := by
  rcases t with ⟨name, kind⟩
  cases kind <;>
    rfl

theorem read_cases (h : t.read v = .ok (some w)) :
    v.isAbsent = false ∧ (t.isInstance v = true ∧ v = w ∨ t.convert v = .ok w) := by
  rw [read] at h
  split at h
  · cases h
  · rename_i habsent
    refine ⟨eq_false_of_ne_true habsent, ?_⟩
    split at h
    · rename_i hinstance
      cases h
      exact .inl ⟨hinstance, rfl⟩
    · rcases map_eq_ok.mp h with ⟨_, hconvert, ⟨⟩⟩
      exact .inr hconvert

/-- A value that reading into the type can give. -/
def IsResult (t : BaseType) (w : Value) : Prop :=
  t.isInstance w = true ∨ exists v, t.convert v = .ok w

theorem isResult_of_read (h : t.read v = .ok (some w)) : t.IsResult w := by
  rcases read_cases h with ⟨_, ⟨hinstance, rfl⟩ | hconvert⟩
  · exact .inl hinstance
  · exact .inr ⟨v, hconvert⟩

theorem read_of_isInstance (habsent : v.isAbsent = false) (h : t.isInstance v = true) :
    t.read v = .ok (some v) := by
  rw [read, habsent, h]
  rfl

theorem read_of_convert (habsent : v.isAbsent = false) (h : t.convert v = .ok v) :
    t.read v = .ok (some v) := by
  rw [read, habsent, h]
  cases t.isInstance v <;>
    rfl

/-!
# Results of the rules
-/

theorem boolean_of_readBoolean (h : t.readBoolean v = .ok w) : exists b, w = .boolean b := by
  unfold readBoolean at h
  split at h
  · simp only at h
    split at h
    · cases h
      exact ⟨_, rfl⟩
    · split at h
      · cases h
        exact ⟨_, rfl⟩
      · exact absurd h (refuse_ne_ok _ _)
  · cases h
    exact ⟨_, rfl⟩
  · cases h
    exact ⟨_, rfl⟩
  · exact absurd h (refuse_ne_ok _ _)

theorem int_of_boundsCheck {least greatest n : Int64}
    (h : (if n < least then t.refuse v (.lessThan least)
      else if greatest < n then t.refuse v (.greaterThan greatest)
      else .ok (.int n)) = .ok w) :
    exists n, w = .int n ∧ least ≤ n ∧ n ≤ greatest := by
  split at h
  · exact absurd h (refuse_ne_ok _ _)
  · split at h
    · exact absurd h (refuse_ne_ok _ _)
    · cases h
      exact ⟨n, rfl, Int64.not_lt.mp ‹_›, Int64.not_lt.mp ‹_›⟩

theorem int_of_readInteger {least greatest : Int64}
    (h : t.readInteger least greatest v = .ok w) :
    exists n, w = .int n ∧ least ≤ n ∧ n ≤ greatest := by
  -- the bounds are checked last, wherever the integer comes from
  unfold readInteger at h
  split at h <;>
    rcases bind_eq_ok.mp h with ⟨n, _, hcheck⟩ <;>
    exact int_of_boundsCheck hcheck

theorem float_of_readDouble (h : t.readDouble v = .ok w) :
    exists x, w = .float x ∧ x.isNaN = false := by
  unfold readDouble at h
  split at h
  · split at h
    · exact absurd h (refuse_ne_ok _ _)
    · cases h
      exact ⟨_, rfl, eq_false_of_ne_true ‹_›⟩
  · exact absurd h (refuse_ne_ok _ _)

theorem string_of_readShortText {limit : Nat} (h : t.readShortText limit v = .ok w) :
    exists text, v.plainText? = some text ∧ w = .string (Text.normalize text) ∧
      (Text.normalize text).length ≤ limit := by
  simp only [readShortText, bind_eq_ok, orRefuse_eq_ok] at h
  rcases h with ⟨text, htext, h⟩
  split at h
  · cases h
  · cases h
    exact ⟨text, htext, rfl, Nat.not_lt.mp ‹_›⟩

theorem string_of_readText (h : t.readText v = .ok w) :
    exists text, v.plainText? = some text ∧ w = .string text := by
  simp only [readText, map_eq_ok, orRefuse_eq_ok] at h
  rcases h with ⟨text, htext, rfl⟩
  exact ⟨text, htext, rfl⟩

theorem int_of_countMoment {unit : TimeUnit} {m : Moment} (h : t.countMoment unit v m = .ok w) :
    exists n, w = .int n := by
  rcases map_eq_ok.mp h with ⟨n, _, rfl⟩
  exact ⟨n, rfl⟩

theorem int_of_readInstant {unit : TimeUnit} (h : t.readInstant unit v = .ok w) :
    exists n, w = .int n := by
  unfold readInstant at h
  split at h
  · split at h
    · cases h
      exact ⟨_, rfl⟩
    · rcases bind_eq_ok.mp h with ⟨m, _, h⟩
      exact int_of_countMoment h
  · rcases map_eq_ok.mp h with ⟨n, _, rfl⟩
    exact ⟨n, rfl⟩
  · exact int_of_countMoment h
  · exact absurd h (refuse_ne_ok _ _)

theorem int_of_readCount (h : t.readCount v = .ok w) : exists n, w = .int n := by
  unfold readCount at h
  split at h
  · rcases map_eq_ok.mp h with ⟨n, _, rfl⟩
    exact ⟨n, rfl⟩
  · rcases map_eq_ok.mp h with ⟨n, _, rfl⟩
    exact ⟨n, rfl⟩
  · exact absurd h (refuse_ne_ok _ _)

theorem json_of_shapeCheck {shaped : Json -> Bool} {j : Json}
    (h : (if shaped j then .ok (.json j) else t.refuse v .wrongJsonShape) = .ok w) :
    exists j, w = .json j ∧ shaped j = true := by
  split at h
  · cases h
    exact ⟨j, rfl, ‹_›⟩
  · exact absurd h (refuse_ne_ok _ _)

theorem json_of_readJson {shaped : Json -> Bool} (h : t.readJson shaped v = .ok w) :
    exists j, w = .json j ∧ shaped j = true := by
  unfold readJson at h
  split at h <;>
    rcases bind_eq_ok.mp h with ⟨j, _, hcheck⟩ <;>
    exact json_of_shapeCheck hcheck

theorem mem_of_enumMember? {e : Enumeration} {m : EnumMember} (h : enumMember? e v = some m) :
    m ∈ e.members := by
  unfold enumMember? at h
  split at h
  · exact List.mem_of_find?_eq_some h
  · split at h
    · exact List.mem_of_find?_eq_some h
    · exact List.mem_of_find?_eq_some h
  · cases h

theorem isSome_byId?_of_mem {e : Enumeration} {m : EnumMember} (h : m ∈ e.members) :
    (e.byId? m.id).isSome = true := by
  rw [Enumeration.byId?, List.find?_isSome]
  exact ⟨m, h, beq_self_eq_true m.id⟩

theorem int_of_readMember {e : Enumeration} (h : t.readMember e v = .ok w) :
    exists n, w = .int n ∧ (e.byId? n).isSome = true := by
  simp only [readMember, map_eq_ok, orRefuse_eq_ok] at h
  rcases h with ⟨m, hm, rfl⟩
  exact ⟨m.id, rfl, isSome_byId?_of_mem (mem_of_enumMember? hm)⟩

theorem uuid_of_readUuid (h : t.readUuid v = .ok w) : exists u, w = .uuid u := by
  unfold readUuid at h
  split at h
  · rcases map_eq_ok.mp h with ⟨u, _, rfl⟩
    exact ⟨u, rfl⟩
  · exact absurd h (refuse_ne_ok _ _)

/-!
# Forms of instances and of results
-/

theorem int_of_isInstance (hkind : t.kind.isIntegral = true) (h : t.isInstance v = true) :
    exists n, v = .int n := by
  cases v with
  | int n =>
      exact ⟨n, rfl⟩
  | _ =>
      rcases t with ⟨name, kind⟩
      cases kind with
      | integer | instant | duration | dateTime | date | enumeration | id =>
          cases h
      | _ =>
          cases hkind

theorem string_of_isInstance (hkind : t.kind.isTextual = true) (h : t.isInstance v = true) :
    exists s, v = .string s := by
  cases v with
  | string s =>
      exact ⟨s, rfl⟩
  | _ =>
      rcases t with ⟨name, kind⟩
      cases kind with
      | asciiString | asciiText | utf8String | utf8Text | html | xml =>
          cases h
      | localDateTime | localDate | type =>
          cases h
      | _ =>
          cases hkind

theorem json_of_isInstance (hkind : t.kind.isJson = true) (h : t.isInstance v = true) :
    exists j, v = .json j := by
  cases v with
  | json j =>
      exact ⟨j, rfl⟩
  | _ =>
      rcases t with ⟨name, kind⟩
      cases kind with
      | json | jsonArray | jsonObject =>
          cases h
      | _ =>
          cases hkind

theorem boolean_of_isInstance {name : String} (h : isInstance ⟨name, .boolean⟩ v = true) :
    exists b, v = .boolean b := by
  cases v with
  | boolean b =>
      exact ⟨b, rfl⟩
  | _ =>
      cases h

theorem float_of_isInstance {name : String} {size : Nat}
    (h : isInstance ⟨name, .float size⟩ v = true) :
    exists x, v = .float x := by
  cases v with
  | float x =>
      exact ⟨x, rfl⟩
  | _ =>
      cases h

theorem uuid_of_isInstance {name : String} (h : isInstance ⟨name, .uuid⟩ v = true) :
    exists u, v = .uuid u := by
  cases v with
  | uuid u =>
      exact ⟨u, rfl⟩
  | _ =>
      cases h

theorem int_of_isResult (hkind : t.kind.isIntegral = true) (hw : t.IsResult w) :
    exists n, w = .int n := by
  rcases hw with hinstance | ⟨v, hconvert⟩
  · exact int_of_isInstance hkind hinstance
  · rcases t with ⟨name, kind⟩
    cases kind with
    | integer size least greatest =>
        rcases int_of_readInteger hconvert with ⟨n, rfl, _⟩
        exact ⟨n, rfl⟩
    | instant unit | dateTime | date =>
        exact int_of_readInstant hconvert
    | duration unit | id =>
        exact int_of_readCount hconvert
    | enumeration e =>
        rcases int_of_readMember hconvert with ⟨n, rfl, _⟩
        exact ⟨n, rfl⟩
    | _ =>
        cases hkind

theorem boolean_of_isResult {name : String} (hw : IsResult ⟨name, .boolean⟩ w) :
    exists b, w = .boolean b := by
  rcases hw with hinstance | ⟨v, hconvert⟩
  · exact boolean_of_isInstance hinstance
  · exact boolean_of_readBoolean hconvert

theorem float_of_isResult {name : String} {size : Nat} (hw : IsResult ⟨name, .float size⟩ w) :
    exists x, w = .float x := by
  rcases hw with hinstance | ⟨v, hconvert⟩
  · exact float_of_isInstance hinstance
  · rcases float_of_readDouble hconvert with ⟨x, rfl, _⟩
    exact ⟨x, rfl⟩

/-- JSON of another shape than that of the type is refused, so that results are instances. -/
theorem json_of_isResult (hkind : t.kind.isJson = true) (hw : t.IsResult w) :
    t.isInstance w = true ∧ exists j, w = .json j := by
  rcases hw with hinstance | ⟨v, hconvert⟩
  · exact ⟨hinstance, json_of_isInstance hkind hinstance⟩
  · rcases t with ⟨name, kind⟩
    cases kind with
    | json | jsonArray | jsonObject =>
        rcases json_of_readJson hconvert with ⟨j, rfl, hshaped⟩
        exact ⟨hshaped, j, rfl⟩
    | _ =>
        cases hkind

/-!
# Conversions into other kinds than clock readings
-/

theorem isShortText_normalize {limit : Nat} {text : String}
    (h : (Text.normalize text).length ≤ limit) :
    isShortText limit (Text.normalize text) = true := by
  simp [isShortText, h, Text.normalize_normalize]

theorem isInstance_of_convert (hv : v.FreeOfJsonStrings) (habsent : v.isAbsent = false)
    (hlocal : t.kind.isLocal = false) (h : t.convert v = .ok w) :
    w.isAbsent = false ∧ t.isInstance w = true := by
  have hvisible : forall {text}, v.plainText? = some text -> Text.Visible text.toList :=
    Value.visible_of_plainText? hv habsent
  rcases t with ⟨name, kind⟩
  cases kind with
  | boolean =>
      rcases boolean_of_readBoolean h with ⟨b, rfl⟩
      exact ⟨rfl, rfl⟩
  | integer size least greatest =>
      rcases int_of_readInteger h with ⟨n, rfl, hleast, hgreatest⟩
      have hbounds : (decide (least ≤ n) && decide (n ≤ greatest)) = true := by
        rw [decide_eq_true hleast, decide_eq_true hgreatest]
        rfl
      exact ⟨rfl, hbounds⟩
  | float size =>
      rcases float_of_readDouble h with ⟨x, rfl, hx⟩
      have hnumber : (!x.isNaN) = true := by
        rw [hx]
        rfl
      exact ⟨rfl, hnumber⟩
  | asciiString limit | utf8String limit =>
      rcases string_of_readShortText h with ⟨text, htext, rfl, hlimit⟩
      refine ⟨?_, isShortText_normalize hlimit⟩
      rw [Value.isAbsent, Text.blank_normalize]
      exact Text.blank_eq_false_iff.mpr (hvisible htext)
  | asciiText | utf8Text | html | xml =>
      rcases string_of_readText h with ⟨text, htext, rfl⟩
      exact ⟨Text.blank_eq_false_iff.mpr (hvisible htext), rfl⟩
  | instant unit | dateTime | date =>
      rcases int_of_readInstant h with ⟨n, rfl⟩
      exact ⟨rfl, rfl⟩
  | duration unit | id =>
      rcases int_of_readCount h with ⟨n, rfl⟩
      exact ⟨rfl, rfl⟩
  | localDateTime | localDate =>
      cases hlocal
  | json | jsonArray | jsonObject =>
      rcases json_of_readJson h with ⟨j, rfl, hshaped⟩
      exact ⟨rfl, hshaped⟩
  | enumeration e =>
      rcases int_of_readMember h with ⟨n, rfl, hmember⟩
      exact ⟨rfl, hmember⟩
  | uuid =>
      rcases uuid_of_readUuid h with ⟨u, rfl⟩
      exact ⟨rfl, rfl⟩
  | type =>
      exact absurd h (refuse_ne_ok _ _)

/-!
# Clock readings and their dates
-/

theorem localMoment?_localText (m : Moment) :
    localMoment? (.string m.localText) = some m.shown := by
  rw [localMoment?, m.readTrimmedInt64_localText, readLocal_localText]

theorem localMoment?_dateText (m : Moment) :
    localMoment? (.string m.dateText) = some m.startOfDay := by
  rw [localMoment?, m.readTrimmedInt64_dateText, readLocal_dateText]

theorem convert_localDateTime (name : String) (v : Value) :
    convert ⟨name, .localDateTime⟩ v =
      (readLocalMoment ⟨name, .localDateTime⟩ v).map fun m => .string m.localText :=
  rfl

theorem convert_localDate (name : String) (v : Value) :
    convert ⟨name, .localDate⟩ v =
      (readLocalMoment ⟨name, .localDate⟩ v).map fun m => .string m.dateText :=
  rfl

/-- A converted clock reading is converted to itself, whatever its year. -/
theorem convert_of_convert (hlocal : t.kind.isLocal = true) (h : t.convert v = .ok w) :
    w.isAbsent = false ∧ t.convert w = .ok w := by
  rcases t with ⟨name, kind⟩
  cases kind with
  | localDateTime =>
      rcases map_eq_ok.mp h with ⟨m, _, rfl⟩
      refine ⟨Text.blank_eq_false_iff.mpr m.visible_localText, ?_⟩
      have hmoment : readLocalMoment ⟨name, .localDateTime⟩ (.string m.localText) =
          .ok m.shown :=
        orRefuse_eq_ok.mpr (localMoment?_localText m)
      rw [convert_localDateTime, hmoment, Except.map, m.localText_shown]
  | localDate =>
      rcases map_eq_ok.mp h with ⟨m, _, rfl⟩
      refine ⟨Text.blank_eq_false_iff.mpr m.visible_dateText, ?_⟩
      have hmoment : readLocalMoment ⟨name, .localDate⟩ (.string m.dateText) =
          .ok m.startOfDay :=
        orRefuse_eq_ok.mpr (localMoment?_dateText m)
      rw [convert_localDate, hmoment, Except.map, m.dateText_startOfDay]
  | _ =>
      cases hlocal

theorem read_of_read (hv : v.FreeOfJsonStrings) (h : t.read v = .ok (some w)) :
    t.read w = .ok (some w) ∧ (t.kind.isLocal = false -> t.isInstance w = true) := by
  rcases read_cases h with ⟨habsent, ⟨hinstance, rfl⟩ | hconvert⟩
  · exact ⟨h, fun _ => hinstance⟩
  · cases hlocal : t.kind.isLocal with
    | false =>
        rcases isInstance_of_convert hv habsent hlocal hconvert with ⟨hthere, hinstance⟩
        exact ⟨read_of_isInstance hthere hinstance, fun _ => hinstance⟩
    | true =>
        rcases convert_of_convert hlocal hconvert with ⟨hthere, hself⟩
        exact ⟨read_of_convert hthere hself, fun hfalse => nomatch hfalse⟩

end BaseType
end RecordQuery
