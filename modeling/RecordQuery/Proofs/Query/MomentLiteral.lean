import Mathlib.Tactic.Simps.Basic
import RecordQuery.Proofs.Calendar.RoundTrip
import RecordQuery.Proofs.Json.Assembly
import RecordQuery.Proofs.Query.Members
import RecordQuery.Proofs.Query.Views

/-!
# Literals for moments

A literal that is read keeps its wire form from the first time it is written.  For clock
readings this holds without exception.  A literal in universal time needs a year of four
digits there, whatever year its text shows in the zone that it names: the writer puts a sign
before any other year, and the reader refuses the sign beside the mark of the zone.
-/

namespace RecordQuery

open Calendar

def momentJson (type : ExpressionType) (text : String) : Json :=
  .object [("type", Named.toJson type), ("value", .string text)]

theorem Json.ofMembers_moment (type : ExpressionType) (text : String) :
    ofMembers (Members.tagged type.name ++ [("value", .string text)]) =
      momentJson type text := by
  have hkeys : "type" < "value" := by
    decide
  exact ofMembers_eq (List.pairwise_pair.mpr hkeys)

/-!
# Forms of literals

The two literals for moments differ in how they write a moment and read a text.
-/

structure MomentForm where
  type : ExpressionType
  kind : Moment -> ExpressionKind
  text : Moment -> String
  read : String -> Option Moment
  fault : Reason
  type_kind : forall t, (kind t).type = type
  members_kind : forall readable t,
    (kind t).members readable = .ok [("value", .string (text t))]
  ofReadings_type : forall s rs, ExpressionKind.ofReadings s rs type =
    readMoment rs type.name read fault >>= fun t => .ok (kind t)

namespace MomentForm

@[simps]
def universal : MomentForm where
  type := .dateTime
  kind := .dateTime
  text := Moment.utcText
  read := readUtc
  fault := .notZonedTime
  type_kind := fun _ => rfl
  members_kind := fun _ _ => rfl
  ofReadings_type := fun _ _ => rfl

@[simps]
def clock : MomentForm where
  type := .localDateTime
  kind := .localDateTime
  text := Moment.localText
  read := readLocal
  fault := .notLocalTime
  type_kind := fun _ => rfl
  members_kind := fun _ _ => rfl
  ofReadings_type := fun _ _ => rfl

/-!
# Writing and reading
-/

variable (F : MomentForm) {s : Schema} {readable : Bool} {text : String} {t : Moment}

theorem encode_kind (readable : Bool) (t : Moment) :
    Expression.encode readable ⟨F.kind t, none⟩ = .ok (momentJson F.type (F.text t)) := by
  rw [Expression.encode, F.members_kind, F.type_kind]
  exact congrArg Except.ok (Json.ofMembers_moment F.type (F.text t))

theorem decode_momentJson (s : Schema) (text : String) :
    Expression.decode s (momentJson F.type text) =
      match F.read text with
      | some t => .ok ⟨F.kind t, none⟩
      | none => .error (.parse F.type.name text F.fault) := by
  have hholds := Readings.holds_ofMembers s
    [("type", Named.toJson F.type), ("value", .string text)]
  have htype : Readings.Holds s _ "type" (some (Named.toJson F.type)) := hholds "type"
  have hvalue : Readings.Holds s _ "value" (some (.string text)) := hholds "value"
  have hmeta : Readings.Holds s _ "meta" none := hholds "meta"
  show Expression.ofReadings s (Reading.ofMembers s _) = _
  rw [Expression.ofReadings, htype.named_eq "expression", hmeta.json?_eq (by simp)]
  simp only [bind, Except.bind, F.ofReadings_type, readMoment, hvalue.string_eq]
  cases F.read text <;>
    rfl

theorem decode_of_read (s : Schema) (h : F.read text = some t) :
    Expression.decode s (momentJson F.type text) = .ok ⟨F.kind t, none⟩ := by
  rw [decode_momentJson, h]

theorem exists_of_decode {e : Expression}
    (h : Expression.decode s (momentJson F.type text) = .ok e) :
    exists t, F.read text = some t ∧ e = ⟨F.kind t, none⟩ := by
  rw [decode_momentJson] at h
  cases hread : F.read text with
  | none =>
      rw [hread] at h
      cases h
  | some t =>
      rw [hread] at h
      cases h
      exact ⟨t, rfl, rfl⟩

/-- A written literal is stable if its text is read as a moment with the same text. -/
theorem exists_decode_text {u : Moment} (s : Schema) (readable : Bool)
    (hread : F.read (F.text t) = some u) (htext : F.text u = F.text t) :
    exists f, Expression.decode s (momentJson F.type (F.text t)) = .ok f ∧
      f.encode readable = .ok (momentJson F.type (F.text t)) := by
  refine ⟨⟨F.kind u, none⟩, F.decode_of_read s hread, ?_⟩
  rw [encode_kind, htext]

end MomentForm

namespace Expression

variable {s : Schema} {text : String} {e : Expression}

/-!
# Clock readings
-/

/-- A clock reading that is read is stable from the first time it is written. -/
theorem decode_encode_of_decode_localDateTime (readable : Bool)
    (h : decode s (momentJson .localDateTime text) = .ok e) :
    exists t, readLocal text = some t ∧
      e.encode readable = .ok (momentJson .localDateTime t.localText) ∧
      exists f, decode s (momentJson .localDateTime t.localText) = .ok f ∧
        f.encode readable = .ok (momentJson .localDateTime t.localText) := by
  rcases MomentForm.clock.exists_of_decode h with ⟨t, hread, rfl⟩
  have hagain : MomentForm.clock.read (MomentForm.clock.text t) = some t.shown := by
    rw [MomentForm.clock_read, MomentForm.clock_text, readLocal_localText]
  exact ⟨t, hread, MomentForm.clock.encode_kind readable t,
    MomentForm.clock.exists_decode_text s readable hagain t.localText_shown⟩

/-!
# Universal time
-/

theorem decode_utcText_eq_error (s : Schema) {t : Moment}
    (hyear : ¬ (0 ≤ t.date.year ∧ t.date.year ≤ 9999)) :
    decode s (momentJson .dateTime t.utcText) =
      .error (.parse "dt" t.utcText .notZonedTime) := by
  have hnone : MomentForm.universal.read t.utcText = none := by
    rw [MomentForm.universal_read, readUtc_utcText_eq_none hyear]
  have hdecode := MomentForm.universal.decode_momentJson s t.utcText
  rw [hnone] at hdecode
  exact hdecode

/-- What is read is written again, and the written form is stable in the years of four digits
and refused in all others. -/
theorem decode_encode_of_decode_dateTime (readable : Bool)
    (h : decode s (momentJson .dateTime text) = .ok e) :
    exists t, readUtc text = some t ∧
      e.encode readable = .ok (momentJson .dateTime t.utcText) ∧
      (0 ≤ t.date.year ∧ t.date.year ≤ 9999 ->
        exists f, decode s (momentJson .dateTime t.utcText) = .ok f ∧
          f.encode readable = .ok (momentJson .dateTime t.utcText)) ∧
      (¬ (0 ≤ t.date.year ∧ t.date.year ≤ 9999) ->
        decode s (momentJson .dateTime t.utcText) =
          .error (.parse "dt" t.utcText .notZonedTime)) := by
  rcases MomentForm.universal.exists_of_decode h with ⟨t, hread, rfl⟩
  refine ⟨t, hread, MomentForm.universal.encode_kind readable t, ?_, ?_⟩
  · rintro ⟨hyear, hyear'⟩
    have hagain : MomentForm.universal.read (MomentForm.universal.text t) = some t.shown := by
      rw [MomentForm.universal_read, MomentForm.universal_text, readUtc_utcText t hyear hyear']
    exact MomentForm.universal.exists_decode_text s readable hagain t.utcText_shown
  · intro hyear
    exact decode_utcText_eq_error s hyear

/-- Half past eleven on the last evening of the year 9999, an hour behind universal time, is
in the year 10000. -/
theorem not_forall_decode_encode_dateTime :
    ¬ forall (s : Schema) (text : String) (e : Expression),
      decode s (momentJson .dateTime text) = .ok e ->
        exists j f, e.encode false = .ok j ∧ decode s j = .ok f ∧ f.encode false = .ok j := by
  intro h
  let t : Moment := ⟨253402302600, 0, by decide, by decide, by decide⟩
  have hread : MomentForm.universal.read "9999-12-31T23:30:00-01:00" = some t := by
    rw [MomentForm.universal_read]
    decide
  have hyear : ¬ (0 ≤ t.date.year ∧ t.date.year ≤ 9999) := by
    decide
  rcases h .empty _ _ (MomentForm.universal.decode_of_read .empty hread) with
    ⟨j, f, hencode, hagain, _⟩
  have hwritten := MomentForm.universal.encode_kind false t
  cases hwritten.symm.trans hencode
  cases (decode_utcText_eq_error .empty hyear).symm.trans hagain

end Expression

/-!
# An example
-/

namespace Sample

open Expression

/-- Half a second into the leap second at the end of 2016. -/
def leapSecond : Moment :=
  ⟨1483228799, 1500000000, by decide, by decide, by decide⟩

theorem decode_encode_of_decode_dateTime_leapSecond :
    decode schema (momentJson .dateTime "2016-12-31T23:59:60.5Z") =
        .ok ⟨.dateTime leapSecond, none⟩ ∧
      exists t, readUtc "2016-12-31T23:59:60.5Z" = some t ∧
        encode false ⟨.dateTime leapSecond, none⟩ = .ok (momentJson .dateTime t.utcText) ∧
        (0 ≤ t.date.year ∧ t.date.year ≤ 9999 ->
          exists f, decode schema (momentJson .dateTime t.utcText) = .ok f ∧
            f.encode false = .ok (momentJson .dateTime t.utcText)) ∧
        (¬ (0 ≤ t.date.year ∧ t.date.year ≤ 9999) ->
          decode schema (momentJson .dateTime t.utcText) =
            .error (.parse "dt" t.utcText .notZonedTime)) := by
  have hread : MomentForm.universal.read "2016-12-31T23:59:60.5Z" = some leapSecond := by
    rw [MomentForm.universal_read]
    decide
  have hdecode := MomentForm.universal.decode_of_read schema hread
  exact ⟨hdecode, decode_encode_of_decode_dateTime false hdecode⟩

end Sample
end RecordQuery
