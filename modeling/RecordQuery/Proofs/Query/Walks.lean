import RecordQuery.Proofs.Results
import RecordQuery.Query.Component

/-!
# Walks over lists and options

The walks over the syntax treat lists and optional parts by companions of their own.
Each companion is the library's walk, so that what a successful walk says about the
items is stated once for all of them.
-/

namespace RecordQuery

@[simp]
theorem Expression.encodeAll_eq (readable : Bool) (es : List Expression) :
    encodeAll readable es = es.mapM (encode readable) :=
  eq_mapM (by rw [encodeAll]) (fun e es => by rw [encodeAll]) es

@[simp]
theorem CaseBranch.encodeAll_eq (readable : Bool) (branches : List CaseBranch) :
    encodeAll readable branches = branches.mapM (encode readable) :=
  eq_mapM (by rw [encodeAll]) (fun b bs => by rw [encodeAll]) branches

@[simp]
theorem OrderTerm.encodeAll_eq (readable : Bool) (ts : List OrderTerm) :
    encodeAll readable ts = ts.mapM (encode readable) :=
  eq_mapM (by rw [encodeAll]) (fun t ts => by rw [encodeAll]) ts

@[simp]
theorem ResultColumn.encodeAll_eq (readable : Bool) (cs : List ResultColumn) :
    encodeAll readable cs = cs.mapM (encode readable) :=
  eq_mapM (by rw [encodeAll]) (fun c cs => by rw [encodeAll]) cs

@[simp]
theorem Select.encodeAll_eq (readable : Bool) (selects : List Select) :
    encodeAll readable selects = selects.mapM (encode readable) :=
  eq_mapM (by rw [encodeAll]) (fun s ss => by rw [encodeAll]) selects

@[simp]
theorem Expression.encodeOptional_eq (readable : Bool) (o : Option Expression) :
    encodeOptional readable o = o.mapM (encode readable) :=
  eq_optionMapM (by rw [encodeOptional]) (fun e => by rw [encodeOptional]) o

@[simp]
theorem Source.encodeOptional_eq (readable : Bool) (o : Option Source) :
    encodeOptional readable o = o.mapM (encode readable) :=
  eq_optionMapM (by rw [encodeOptional]) (fun s => by rw [encodeOptional]) o

@[simp]
theorem Constraint.encodeOptional_eq (readable : Bool) (o : Option Constraint) :
    encodeOptional readable o = o.mapM (encode readable) :=
  eq_optionMapM (by rw [encodeOptional]) (fun c => by rw [encodeOptional]) o

theorem Readings.eachOf_eq {α : Type} (part : Reading -> Except Error α) (rs : List Reading) :
    eachOf part rs = rs.mapM part :=
  eq_mapM (by rw [eachOf]) (fun r rs => by rw [eachOf]) rs

end RecordQuery
