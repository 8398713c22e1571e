import RecordQuery.DataType.Writing
import RecordQuery.Proofs.DataType.Conversion
import RecordQuery.Proofs.Enumeration
import RecordQuery.Proofs.Number.Integer

/-!
# Safe texts are read back

The safe text of an instance, read into the type again, gives the instance, whatever
the options say about markup and patterns.  This holds for every registered base type
but those whose values hold doubles: the floats, and JSON.
-/

namespace RecordQuery

open Number

namespace BaseType

variable {t : BaseType} {v w : Value} {opts : FormatOptions}

/-- `s` is what the safe form writes for `v`, and it is read as `v` again. -/
def Restores (t : BaseType) (opts : FormatOptions) (v : Value) (s : String) : Prop :=
  t.writeInstance opts v = .ok s ∧ t.read (.string s) = .ok (some v)

/-!
# Reading what was written
-/

theorem format_of_isInstance (habsent : v.isAbsent = false) (h : t.isInstance v = true) :
    t.format opts v = t.writeInstance opts v := by
  rw [format, read_of_isInstance habsent h]
  rfl

theorem read_of_convert_eq (habsent : v.isAbsent = false) (hinstance : t.isInstance v = false)
    (h : t.convert v = .ok w) :
    t.read v = .ok (some w) := by
  rw [read, habsent, hinstance, h]
  rfl

theorem isAbsent_int64Text (n : Int64) : (Value.string (int64Text n)).isAbsent = false :=
  Text.blank_eq_false_iff.mpr (visible_intText n.toInt)

theorem restores_string {s : String} (habsent : (Value.string s).isAbsent = false)
    (hinstance : t.isInstance (.string s) = true)
    (hwrite : t.writeInstance opts (.string s) = .ok s) :
    t.Restores opts (.string s) s :=
  ⟨hwrite, read_of_isInstance habsent hinstance⟩

theorem restores_int {n : Int64} (hwrite : t.writeInstance opts (.int n) = .ok (int64Text n))
    (hinstance : t.isInstance (.string (int64Text n)) = false)
    (hconvert : t.convert (.string (int64Text n)) = .ok (.int n)) :
    t.Restores opts (.int n) (int64Text n) :=
  ⟨hwrite, read_of_convert_eq (isAbsent_int64Text n) hinstance hconvert⟩

/-!
# Conversions of written integers
-/

theorem readInteger_int64Text (t : BaseType) {least greatest n : Int64} (hleast : least ≤ n)
    (hgreatest : n ≤ greatest) :
    t.readInteger least greatest (.string (int64Text n)) = .ok (.int n) := by
  have hlower : ¬ n < least := Int64.not_lt.mpr hleast
  have hupper : ¬ greatest < n := Int64.not_lt.mpr hgreatest
  simp only [readInteger, orRefuse, readTrimmedInt64_int64Text]
  simp only [bind, Except.bind, if_neg hlower, if_neg hupper]

theorem readInstant_int64Text (t : BaseType) (unit : TimeUnit) (n : Int64) :
    t.readInstant unit (.string (int64Text n)) = .ok (.int n) := by
  rw [readInstant, readTrimmedInt64_int64Text]

theorem readCount_int64Text (t : BaseType) (n : Int64) :
    t.readCount (.string (int64Text n)) = .ok (.int n) := by
  rw [readCount, readTrimmedInt64_int64Text]
  rfl

theorem readBoolean_boolText (t : BaseType) (b : Bool) :
    t.readBoolean (.string (Value.boolText b)) = .ok (.boolean b) := by
  have hword : Text.lower (Text.strip (Value.boolText b)) = Value.boolText b := by
    cases b <;>
      exact Text.lower_eq_self_of_all (by decide)
  rw [readBoolean, hword]
  cases b <;>
    rfl

theorem readUuid_text (t : BaseType) (u : Uuid) : t.readUuid (.string u.text) = .ok (.uuid u) := by
  rw [readUuid, u.read_trim_text]
  rfl

theorem readMember_name (t : BaseType) {e : Enumeration} {m : EnumMember} (he : e ∈ Enumeration.all)
    (hm : m ∈ e.members) :
    t.readMember e (.string m.name) = .ok (.int m.id) := by
  rw [readMember, enumMember?, Enumeration.readTrimmedInt64_name he hm,
    Enumeration.byName?_name he hm]
  rfl

/-!
# Members of enumerations
-/

theorem restores_member (name : String) {e : Enumeration} {n : Int64} {m : EnumMember}
    (he : e ∈ Enumeration.all) (hm : e.byId? n = some m) (hsafe : opts.safe = true) :
    Restores ⟨name, .enumeration e⟩ opts (.int n) m.name := by
  have hmem : m ∈ e.members := List.mem_of_find?_eq_some hm
  have hid : m.id = n := by
    simpa using List.find?_some hm
  constructor
  · simp only [writeInstance, writeMember, Value.asInt64?, hm, hsafe, if_true]
  · rw [← hid]
    exact read_of_convert_eq (Enumeration.blank_name he hmem) rfl
      (readMember_name ⟨name, .enumeration e⟩ he hmem)

/-!
# All kinds
-/

theorem writeInstant_safe (t : BaseType) (unit : TimeUnit) (n : Int64) (hsafe : opts.safe = true) :
    t.writeInstant unit opts (.int n) = .ok (int64Text n) := by
  simp only [writeInstant, Value.asInt64?, hsafe, if_true]

theorem writeDate_safe (t : BaseType) (n : Int64) (hsafe : opts.safe = true) :
    t.writeDate opts (.int n) = .ok (int64Text n) := by
  rw [writeDate, hsafe, Bool.not_true, Bool.and_false, if_neg Bool.false_ne_true]
  exact writeInstant_safe t .millis n hsafe

theorem exists_restores (ht : t ∈ baseTypes) (hfloat : t.kind.isFloat = false)
    (hjson : t.kind.isJson = false) (hsafe : opts.safe = true) (habsent : v.isAbsent = false)
    (hinstance : t.isInstance v = true) :
    exists s, t.Restores opts v s := by
  rcases t with ⟨name, kind⟩
  cases kind with
  | boolean =>
      rcases boolean_of_isInstance hinstance with ⟨b, rfl⟩
      refine ⟨Value.boolText b, rfl, ?_⟩
      exact read_of_convert_eq (Text.blank_eq_false_iff.mpr (Value.visible_boolText b)) rfl
        (readBoolean_boolText ⟨name, .boolean⟩ b)
  | integer size least greatest =>
      rcases int_of_isInstance rfl hinstance with ⟨n, rfl⟩
      rcases Bool.and_eq_true_iff.mp hinstance with ⟨hleast, hgreatest⟩
      have hconvert := readInteger_int64Text ⟨name, .integer size least greatest⟩
        (of_decide_eq_true hleast) (of_decide_eq_true hgreatest)
      exact ⟨int64Text n, restores_int rfl rfl hconvert⟩
  | float size =>
      cases hfloat
  | asciiString limit | utf8String limit | asciiText | utf8Text | html | xml =>
      rcases string_of_isInstance rfl hinstance with ⟨s, rfl⟩
      refine ⟨s, restores_string habsent hinstance ?_⟩
      simp only [writeInstance, writeText, hsafe, if_true]
      rfl
  | instant unit =>
      rcases int_of_isInstance rfl hinstance with ⟨n, rfl⟩
      exact ⟨int64Text n, restores_int (writeInstant_safe _ unit n hsafe) rfl
        (readInstant_int64Text ⟨name, .instant unit⟩ unit n)⟩
  | dateTime =>
      rcases int_of_isInstance rfl hinstance with ⟨n, rfl⟩
      exact ⟨int64Text n, restores_int (writeInstant_safe _ .millis n hsafe) rfl
        (readInstant_int64Text ⟨name, .dateTime⟩ .millis n)⟩
  | date =>
      rcases int_of_isInstance rfl hinstance with ⟨n, rfl⟩
      exact ⟨int64Text n, restores_int (writeDate_safe _ n hsafe) rfl
        (readInstant_int64Text ⟨name, .date⟩ .millis n)⟩
  | duration unit =>
      rcases int_of_isInstance rfl hinstance with ⟨n, rfl⟩
      refine ⟨int64Text n, restores_int ?_ rfl (readCount_int64Text ⟨name, .duration unit⟩ n)⟩
      simp only [writeInstance, writeDuration, Value.asInt64?, hsafe, if_true]
  | id =>
      rcases int_of_isInstance rfl hinstance with ⟨n, rfl⟩
      exact ⟨int64Text n, restores_int rfl rfl (readCount_int64Text ⟨name, .id⟩ n)⟩
  | localDateTime =>
      rcases string_of_isInstance rfl hinstance with ⟨s, rfl⟩
      refine ⟨s, restores_string habsent hinstance ?_⟩
      simp only [writeInstance, writeLocal, hsafe, if_true]
      rfl
  | localDate | type =>
      rcases string_of_isInstance rfl hinstance with ⟨s, rfl⟩
      exact ⟨s, restores_string habsent hinstance rfl⟩
  | json | jsonArray | jsonObject =>
      cases hjson
  | enumeration e =>
      rcases int_of_isInstance rfl hinstance with ⟨n, rfl⟩
      have he : e ∈ Enumeration.all := Enumeration.mem_all_of_mem_baseTypes ht rfl
      rcases Option.isSome_iff_exists.mp hinstance with ⟨m, hm⟩
      exact ⟨m.name, restores_member name he hm hsafe⟩
  | uuid =>
      rcases uuid_of_isInstance hinstance with ⟨u, rfl⟩
      refine ⟨u.text, rfl, ?_⟩
      exact read_of_convert_eq (Text.blank_eq_false_iff.mpr u.visible_text) rfl
        (readUuid_text ⟨name, .uuid⟩ u)

/-- Whatever the other options say, the safe text of an instance exists, and it is read as
the instance. -/
theorem read_format_safe (ht : t ∈ baseTypes) (hfloat : t.kind.isFloat = false)
    (hjson : t.kind.isJson = false) (hinstance : t.isInstance v = true)
    (hblank : forall s, v = .string s -> Text.blank s = false) (hsafe : opts.safe = true) :
    exists s, t.format opts v = .ok s ∧ t.read (.string s) = .ok (some v) := by
  have habsent : v.isAbsent = false := by
    cases v with
    | string s =>
        exact hblank s rfl
    | null =>
        rw [isInstance_null] at hinstance
        cases hinstance
    | _ =>
        rfl
  rcases exists_restores ht hfloat hjson hsafe habsent hinstance with ⟨s, hwrite, hread⟩
  exact ⟨s, (format_of_isInstance habsent hinstance).trans hwrite, hread⟩

end BaseType

namespace Sample

def levelType : BaseType :=
  ⟨"notification_level", .enumeration Enumeration.notificationLevel⟩

/-- Safe, with other wishes that do not matter then. -/
def safeAnyway : FormatOptions :=
  ⟨true, true, some "%z"⟩

theorem read_format_safe_warning :
    levelType ∈ baseTypes ∧ levelType.kind.isFloat = false ∧ levelType.kind.isJson = false ∧
      levelType.isInstance (.int 4) = true ∧
      (forall s, Value.int 4 = .string s -> Text.blank s = false) ∧ safeAnyway.safe = true ∧
      levelType.format safeAnyway (.int 4) = .ok "warning" ∧
      levelType.read (.string "warning") = .ok (some (.int 4)) := by
  have hregistered : levelType ∈ baseTypes := by
    decide
  have hblank : forall s, Value.int 4 = .string s -> Text.blank s = false :=
    fun _ hs => nomatch hs
  have hinstance : levelType.isInstance (.int 4) = true := rfl
  have hsafe : safeAnyway.safe = true := rfl
  rcases BaseType.read_format_safe hregistered rfl rfl hinstance hblank hsafe with
    ⟨s, hformat, hread⟩
  have hwarning : levelType.format safeAnyway (.int 4) = .ok "warning" := rfl
  cases hwarning.symm.trans hformat
  exact ⟨hregistered, rfl, rfl, hinstance, hblank, hsafe, hwarning, hread⟩

end Sample
end RecordQuery
