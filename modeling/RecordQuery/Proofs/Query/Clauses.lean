import RecordQuery.Proofs.Query.Members
import RecordQuery.Proofs.Query.Tree

/-!
# Clauses of selects

A select is written clause by clause, and a clause that is absent or empty is left
out.  A union states neither whether it is distinct nor columns nor a source; the
other clauses keep their presence and their number of items.
-/

namespace RecordQuery

structure WrittenClauses where
  unions : List Json
  columns : List Json
  source : Option Json
  filter : Option Json
  groupBy : List Json
  having : Option Json
  orderBy : List Json
  limit : Option Json
  offset : Option Json

namespace WrittenClauses

open Members

def members (distinct : Option Bool) (w : WrittenClauses) : Members :=
  optional "distinct" (distinct.map Json.bool) ++ nonempty "union" w.unions ++
    nonempty "columns" w.columns ++ optional "from" w.source ++ optional "where" w.filter ++
    nonempty "group" w.groupBy ++ optional "having" w.having ++ nonempty "order" w.orderBy ++
    optional "limit" w.limit ++ optional "offset" w.offset

end WrittenClauses

namespace Select

/-- What a select states about being distinct; a union states nothing. -/
def stated? (t : Select) : Option Bool :=
  if t.isUnion then none else some t.distinct

/-- The clauses that are written are those of the select as it is written. -/
structure WritesClauses (readable : Bool) (t : Select) (w : WrittenClauses) : Prop where
  unions : t.unions.mapM (encode readable) = .ok w.unions
  columns : t.written.columns.mapM (ResultColumn.encode readable) = .ok w.columns
  source : t.written.source.mapM (Source.encode readable) = .ok w.source
  filter : t.filter.mapM (Expression.encode readable) = .ok w.filter
  groupBy : t.groupBy.mapM (Expression.encode readable) = .ok w.groupBy
  having : t.having.mapM (Expression.encode readable) = .ok w.having
  orderBy : t.orderBy.mapM (OrderTerm.encode readable) = .ok w.orderBy
  limit : t.limit.mapM (Expression.encode readable) = .ok w.limit
  offset : t.offset.mapM (Expression.encode readable) = .ok w.offset

theorem encode_eq_ok {readable : Bool} {t : Select} {j : Json} :
    t.encode readable = .ok j ↔
      exists w, t.WritesClauses readable w ∧ j = Json.ofMembers (w.members t.stated?) := by
  rcases t with ⟨distinct, unions, columns, source, filter, groupBy, having, orderBy, limit,
    offset⟩
  simp only [encode, encodeAll_eq, ResultColumn.encodeAll_eq, Source.encodeOptional_eq,
    Expression.encodeOptional_eq, Expression.encodeAll_eq, OrderTerm.encodeAll_eq]
  -- both forms come to the same list of members, since the parts of the other form are empty
  cases unions with
  | nil =>
      simp only [List.isEmpty_nil, ↓reduceIte, bind_eq_ok, Except.ok.injEq]
      constructor
      · rintro ⟨columns', hcolumns, source', hsource, _, rfl, filter', hfilter, groupBy',
          hgroupBy, having', hhaving, orderBy', horderBy, limit', hlimit, offset', hoffset, rfl⟩
        exact ⟨⟨[], columns', source', filter', groupBy', having', orderBy', limit', offset'⟩,
          ⟨rfl, hcolumns, hsource, hfilter, hgroupBy, hhaving, horderBy, hlimit, hoffset⟩,
          rfl⟩
      · rintro ⟨⟨unions', columns', source', filter', groupBy', having', orderBy', limit',
          offset'⟩, ⟨⟨⟩, hcolumns, hsource, hfilter, hgroupBy, hhaving, horderBy, hlimit,
          hoffset⟩, rfl⟩
        exact ⟨columns', hcolumns, source', hsource, _, rfl, filter', hfilter, groupBy',
          hgroupBy, having', hhaving, orderBy', horderBy, limit', hlimit, offset', hoffset, rfl⟩
  | cons u us =>
      simp only [List.isEmpty_cons, Bool.false_eq_true, ↓reduceIte, bind_eq_ok,
        Except.ok.injEq]
      -- a walk over a list that is not empty writes a list that is not empty
      have hmembers : forall {unions' : List Json},
          (u :: us).mapM (encode readable) = .ok unions' ->
          Members.nonempty "union" unions' = [("union", .array unions')] := by
        intro unions' hunions
        have hlength := length_of_mapM hunions
        cases unions' with
        | nil =>
            simp at hlength
        | cons j js =>
            rfl
      constructor
      · rintro ⟨unions', hunions, _, rfl, filter', hfilter, groupBy', hgroupBy, having',
          hhaving, orderBy', horderBy, limit', hlimit, offset', hoffset, rfl⟩
        refine ⟨⟨unions', [], none, filter', groupBy', having', orderBy', limit', offset'⟩,
          ⟨hunions, rfl, rfl, hfilter, hgroupBy, hhaving, horderBy, hlimit, hoffset⟩,
          ?_⟩
        rw [← hmembers hunions]
        simp [WrittenClauses.members, stated?, isUnion]
      · rintro ⟨⟨unions', columns', source', filter', groupBy', having', orderBy', limit',
          offset'⟩, ⟨hunions, ⟨⟩, ⟨⟩, hfilter, hgroupBy, hhaving, horderBy, hlimit, hoffset⟩,
          rfl⟩
        refine ⟨unions', hunions, _, rfl, filter', hfilter, groupBy', hgroupBy, having',
          hhaving, orderBy', horderBy, limit', hlimit, offset', hoffset, ?_⟩
        rw [← hmembers hunions]
        simp [WrittenClauses.members, stated?, isUnion]

end Select

/-!
# Clauses that are read back
-/

structure Readings.HoldClauses (s : Schema) (rs : Readings) (distinct : Option Bool)
    (w : WrittenClauses) : Prop where
  distinct : rs.Holds s "distinct" (distinct.map Json.bool)
  unions : rs.Holds s "union" (if w.unions = [] then none else some (.array w.unions))
  columns : rs.Holds s "columns" (if w.columns = [] then none else some (.array w.columns))
  source : rs.Holds s "from" w.source
  filter : rs.Holds s "where" w.filter
  groupBy : rs.Holds s "group" (if w.groupBy = [] then none else some (.array w.groupBy))
  having : rs.Holds s "having" w.having
  orderBy : rs.Holds s "order" (if w.orderBy = [] then none else some (.array w.orderBy))
  limit : rs.Holds s "limit" w.limit
  offset : rs.Holds s "offset" w.offset

theorem WrittenClauses.holdClauses {s : Schema} {rs : Readings} {distinct : Option Bool}
    {w : WrittenClauses} (hrs : forall key, rs.Holds s key ((w.members distinct).last? key)) :
    rs.HoldClauses s distinct w where
  distinct := by simpa [members] using hrs "distinct"
  unions := by simpa [members] using hrs "union"
  columns := by simpa [members] using hrs "columns"
  source := by simpa [members] using hrs "from"
  filter := by simpa [members] using hrs "where"
  groupBy := by simpa [members] using hrs "group"
  having := by simpa [members] using hrs "having"
  orderBy := by simpa [members] using hrs "order"
  limit := by simpa [members] using hrs "limit"
  offset := by simpa [members] using hrs "offset"

theorem Expression.ne_null_of_encode {readable : Bool} {e : Expression} {j : Json}
    (h : e.encode readable = .ok j) :
    j ≠ .null := by
  rcases e with ⟨kind, clientData⟩
  simp only [encode, bind_eq_ok] at h
  rcases h with ⟨ms, _, ⟨⟩⟩
  simp [Json.ofMembers]

theorem Source.ne_null_of_encode {readable : Bool} {t : Source} {j : Json}
    (h : t.encode readable = .ok j) :
    j ≠ .null := by
  rcases t with ⟨kind, aliasName, clientData⟩
  simp only [encode, bind_eq_ok] at h
  rcases h with ⟨ms, _, ⟨⟩⟩
  simp [Json.ofMembers]

theorem Readings.Holds.isSome_written {α β : Type} {s : Schema} {rs : Readings} {key : String}
    {f : α -> Except Error Json} {o : Option α} {written : Option Json}
    {part : Reading -> Except Error β} {r : Option β}
    (hnull : forall a j, f a = .ok j -> j ≠ .null) (hwritten : o.mapM f = .ok written)
    (h : rs.Holds s key written) (hr : rs.optionalComponent key part = .ok r) :
    r.isSome = o.isSome := by
  rcases some_of_optionMapM hnull hwritten with ⟨hne, hsome⟩
  rw [h.isSome_optionalComponent (fun heq => hne _ heq rfl) hr, hsome]

namespace Select

/-- The same clauses are present, with the same numbers of items. -/
structure SameClauses (t u : Select) : Prop where
  distinct : u.distinct = t.distinct
  unions : u.unions.length = t.unions.length
  columns : u.columns.length = t.columns.length
  source : u.source.isSome = t.source.isSome
  filter : u.filter.isSome = t.filter.isSome
  groupBy : u.groupBy.length = t.groupBy.length
  having : u.having.isSome = t.having.isSome
  orderBy : u.orderBy.length = t.orderBy.length
  limit : u.limit.isSome = t.limit.isSome
  offset : u.offset.isSome = t.offset.isSome

theorem stated?_getD (t : Select) : t.stated?.getD false = t.written.distinct := by
  rw [stated?, written]
  split <;>
    rfl

theorem written_eq (t : Select) :
    t.written = { t with
      distinct := t.written.distinct, columns := t.written.columns,
      source := t.written.source } := by
  rcases t with ⟨distinct, unions, columns, source, filter, groupBy, having, orderBy, limit,
    offset⟩
  rw [written]
  split <;>
    rfl

/-- Whatever the validity of a select, it has the clauses of its written form when it is
read back. -/
theorem sameClauses_of_decode {s : Schema} {readable : Bool} {t u : Select} {j : Json}
    (hencode : t.encode readable = .ok j) (hdecode : decode s j = .ok u) :
    t.written.SameClauses u := by
  rcases encode_eq_ok.mp hencode with ⟨w, hw, rfl⟩
  rcases Reading.ofJson_ofMembers s (w.members t.stated?) with ⟨rs, hrs, heq⟩
  have hheld := WrittenClauses.holdClauses hrs
  rw [decode, heq, Reading.ofObject] at hdecode
  simp only [ofReadings, bind_eq_ok] at hdecode
  rcases hdecode with ⟨unions, hunions, columns, hcolumns, source, hsource, filter, hfilter,
    groupBy, hgroupBy, having, hhaving, orderBy, horderBy, limit, hlimit, offset, hoffset, ⟨⟩⟩
  have hnull : forall (e : Expression) (j : Json), e.encode readable = .ok j -> j ≠ .null :=
    fun _ _ => Expression.ne_null_of_encode
  rw [written_eq]
  constructor
  · rw [hheld.distinct.flag_eq_getD, stated?_getD]
  · rw [hheld.unions.length_optionalComponents _ hunions, length_of_mapM hw.unions]
  · rw [hheld.columns.length_optionalComponents _ hcolumns, length_of_mapM hw.columns]
  · exact hheld.source.isSome_written (fun _ _ => Source.ne_null_of_encode) hw.source hsource
  · exact hheld.filter.isSome_written hnull hw.filter hfilter
  · rw [hheld.groupBy.length_optionalComponents _ hgroupBy, length_of_mapM hw.groupBy]
  · exact hheld.having.isSome_written hnull hw.having hhaving
  · rw [hheld.orderBy.length_optionalComponents _ horderBy, length_of_mapM hw.orderBy]
  · exact hheld.limit.isSome_written hnull hw.limit hlimit
  · exact hheld.offset.isSome_written hnull hw.offset hoffset

theorem columns_eq_nil_of_isValid {t : Select} (hvalid : t.isValid = true)
    (hunion : t.isUnion = true) :
    t.columns = [] := by
  rcases t with ⟨distinct, unions, columns, source, filter, groupBy, having, orderBy, limit,
    offset⟩
  simp only [isUnion, Bool.not_eq_true'] at hunion
  simp only [isValid, Bool.and_eq_true, Bool.or_eq_true, hunion] at hvalid
  simp_all

/-- A valid select that is written and read back has the clauses it had, but a union no
longer states that it is distinct and has no source. -/
theorem clauses_of_decode_encode {s : Schema} {readable : Bool} {t u : Select} {j : Json}
    (hvalid : t.isValid = true) (hencode : t.encode readable = .ok j)
    (hdecode : decode s j = .ok u) :
    u.distinct = (!t.isUnion && t.distinct) ∧ u.source.isSome = (!t.isUnion && t.source.isSome) ∧
      u.filter.isSome = t.filter.isSome ∧ u.having.isSome = t.having.isSome ∧
      u.limit.isSome = t.limit.isSome ∧ u.offset.isSome = t.offset.isSome ∧
      u.unions.length = t.unions.length ∧ u.columns.length = t.columns.length ∧
      u.groupBy.length = t.groupBy.length ∧ u.orderBy.length = t.orderBy.length := by
  have hsame := sameClauses_of_decode hencode hdecode
  cases hunion : t.isUnion with
  | true =>
      have hcolumns := columns_eq_nil_of_isValid hvalid hunion
      rw [written, if_pos hunion] at hsame
      rcases hsame with ⟨hdistinct, hunions, hnone, hsource, hfilter, hgroupBy, hhaving,
        horderBy, hlimit, hoffset⟩
      rw [hcolumns]
      exact ⟨hdistinct, hsource, hfilter, hhaving, hlimit, hoffset, hunions, hnone, hgroupBy,
        horderBy⟩
  | false =>
      rw [written, if_neg (by simp [hunion])] at hsame
      rcases hsame with ⟨hdistinct, hunions, hcolumns, hsource, hfilter, hgroupBy, hhaving,
        horderBy, hlimit, hoffset⟩
      exact ⟨hdistinct, hsource, hfilter, hhaving, hlimit, hoffset, hunions, hcolumns, hgroupBy,
        horderBy⟩

def bare : Select :=
  ⟨false, [], [], none, none, [], none, [], none, none⟩

def limitedUnion : Select :=
  { bare with distinct := true, unions := [bare], limit := some ⟨.countRows, none⟩ }

def limitedUnionJson : Json :=
  .object [("limit", .object [("type", .string "count_rows")]),
    ("union", .array [.object [("distinct", .bool false)]])]

theorem clauses_of_decode_encode_limitedUnion :
    limitedUnion.isValid = true ∧ limitedUnion.encode false = .ok limitedUnionJson ∧
      exists u, decode Schema.empty limitedUnionJson = .ok u ∧
        u.distinct = (!limitedUnion.isUnion && limitedUnion.distinct) ∧
        u.limit.isSome = limitedUnion.limit.isSome ∧
        u.unions.length = limitedUnion.unions.length := by
  have hvalid : limitedUnion.isValid = true := rfl
  have hencode : limitedUnion.encode false = .ok limitedUnionJson := rfl
  have hdecode : decode Schema.empty limitedUnionJson =
      .ok { limitedUnion with distinct := false } := rfl
  rcases clauses_of_decode_encode hvalid hencode hdecode with
    ⟨hdistinct, _, _, _, hlimit, _, hunions, _⟩
  exact ⟨hvalid, hencode, _, hdecode, hdistinct, hlimit, hunions⟩

/-- A valid union that was read as distinct is not distinct once it was written and read
again. -/
theorem union_loses_distinct :
    exists (s : Schema) (j b : Json) (t u : Select),
      decode s j = .ok t ∧ t.isValid = true ∧ t.encode false = .ok b ∧ decode s b = .ok u ∧
        t.distinct = true ∧ u.distinct = false :=
  ⟨Schema.empty, .object [("distinct", .bool true), ("union", .array [.object []])],
    .object [("union", .array [.object [("distinct", .bool false)]])],
    { bare with unions := [bare], distinct := true }, { bare with unions := [bare] },
    rfl, rfl, rfl, rfl, rfl, rfl⟩

end Select
end RecordQuery
