import RecordQuery.Proofs.Results
import RecordQuery.Schema.Basic

/-!
# The databases of a schema

The databases of a schema are the described ones, each of them once: group after group,
in a group its own databases before those of its subgroups, and after each database the
ones nested in it.  Each knows its paths from the outermost group down, and its fields
carry its handle.  A schema is refused only for a field whose type is not registered.
-/

namespace RecordQuery

/-!
# Places

Where the description of a database stands: the names and labels that lead to it, its own
among them.
-/

structure Place where
  /-- Names with their labels, from the outermost group down to the database. -/
  trail : List (String × String)
  database : DatabaseDescription

namespace Place

def path (p : Place) : String :=
  String.intercalate "." (p.trail.map Prod.fst)

def labelPath (p : Place) : String :=
  String.intercalate " / " (p.trail.map Prod.snd)

end Place

/-- The name of what is described with its label, which is the name where none is given. -/
def titled (name : String) (label : Option String) : String × String :=
  (name, label.getD name)

namespace DatabaseDescription

mutual
/-- A described database, and then those nested in it, depth first. -/
def places (trail : List (String × String)) : DatabaseDescription -> List Place
  | ⟨id, name, label, format, fields, databases⟩ =>
      let here := trail ++ [titled name label]
      ⟨here, ⟨id, name, label, format, fields, databases⟩⟩ :: placesOf here databases

def placesOf (trail : List (String × String)) : List DatabaseDescription -> List Place
  | [] => []
  | d :: rest => places trail d ++ placesOf trail rest
end

end DatabaseDescription

namespace GroupDescription

mutual
def places (trail : List (String × String)) : GroupDescription -> List Place
  | ⟨_, name, label, groups, databases⟩ =>
      let here := trail ++ [titled name label]
      DatabaseDescription.placesOf here databases ++ placesOf here groups

def placesOf (trail : List (String × String)) : List GroupDescription -> List Place
  | [] => []
  | g :: rest => places trail g ++ placesOf trail rest
end

end GroupDescription

def fieldsAt (places : List Place) : List FieldDescription :=
  places.flatMap fun p => p.database.fields

namespace SchemaDescription

def places (d : SchemaDescription) : List Place :=
  GroupDescription.placesOf [] d.groups

def fields (d : SchemaDescription) : List FieldDescription :=
  fieldsAt d.places

end SchemaDescription

/-!
# Elements for their descriptions
-/

namespace FieldDescription

/-- The field of a database, given by its handle, that is made of a description. -/
structure Makes (handle : Handle) (d : FieldDescription) (f : Field) : Prop where
  id : f.id = d.id
  name : f.name = d.name
  label : f.label = d.label.getD d.name
  type : DataType.find? d.type = some f.type
  isKey : f.isKey = d.isKey
  database : f.database = handle
  path : f.path = handle.path ++ "." ++ d.name

end FieldDescription

namespace Place

/-- The database that is made of the description at a place. -/
structure Makes (p : Place) (d : Database) : Prop where
  id : d.id = p.database.id
  name : d.name = p.database.name
  label : d.label = p.database.label.getD p.database.name
  format : d.format = p.database.format
  path : d.path = p.path
  labelPath : d.labelPath = p.labelPath
  fields : List.Forall₂ (FieldDescription.Makes d.handle) p.database.fields d.fields

end Place

/-!
# Results of building

What is built of described fields exists when all of their types do, and otherwise the
type of one of them is reported.
-/

inductive Built {α : Type} (fields : List FieldDescription) (want : α -> Prop) :
    Except Error α -> Prop where
  | made {a : α} (hfields : forall f, f ∈ fields -> DataType.find? f.type ≠ none)
      (ha : want a) :
      Built fields want (.ok a)
  | refused {f : FieldDescription} (hf : f ∈ fields) (htype : DataType.find? f.type = none) :
      Built fields want (.error (.unknownName "type" f.type))

namespace Built

variable {α β : Type} {fields more : List FieldDescription} {want : α -> Prop}
variable {goal : β -> Prop} {x : Except Error α} {f : α -> Except Error β}

theorem of_ok {a : α} (h : want a) : Built [] want (.ok a) :=
  .made (by simp) h

theorem comm (hx : Built (more ++ fields) want x) : Built (fields ++ more) want x := by
  have hmem : forall d, d ∈ more ++ fields ↔ d ∈ fields ++ more := by
    intro d
    rw [List.mem_append, List.mem_append, or_comm]
  cases hx with
  | made hfields ha =>
      exact .made (fun d hd => hfields d ((hmem d).mpr hd)) ha
  | refused hd htype =>
      exact .refused ((hmem _).mp hd) htype

theorem bind (hx : Built fields want x) (hf : forall a, want a -> Built more goal (f a)) :
    Built (fields ++ more) goal (x >>= f) := by
  cases hx with
  | made hfields ha =>
      rename_i a
      have hrest := hf a ha
      show Built (fields ++ more) goal (f a)
      generalize f a = y at hrest ⊢
      cases hrest with
      | made hmore hb =>
          refine .made ?_ hb
          intro d hd
          rcases List.mem_append.mp hd with hd | hd
          · exact hfields d hd
          · exact hmore d hd
      | refused hd htype =>
          exact .refused (List.mem_append_right fields hd) htype
  | refused hd htype =>
      exact .refused (List.mem_append_left more hd) htype

theorem map (hx : Built fields want x) {g : α -> β} (hg : forall a, want a -> goal (g a)) :
    Built fields goal (x >>= fun a => .ok (g a)) := by
  rw [← List.append_nil fields]
  exact hx.bind fun a ha => of_ok (hg a ha)

end Built

/-!
# Scopes
-/

/-- The paths that lead to an element inside of everything along the trail. -/
def Scope.along (trail : List (String × String)) : Scope :=
  match trail with
  | [] => top
  | _ :: _ =>
      inside (String.intercalate "." (trail.map Prod.fst))
        (String.intercalate " / " (trail.map Prod.snd))

theorem Scope.pathTo_along (trail : List (String × String)) (title : String × String) :
    (along trail).pathTo title.1 =
      String.intercalate "." ((trail ++ [title]).map Prod.fst) := by
  cases trail with
  | nil =>
      simp [along, pathTo, top]
  | cons first rest =>
      have hrest : (first :: rest).map Prod.fst ≠ [] := by
        simp
      rw [List.map_append, String.intercalate_append_of_ne_nil hrest (by simp)]
      simp [along, pathTo, inside]

theorem Scope.labelPathTo_along (trail : List (String × String)) (title : String × String) :
    (along trail).labelPathTo title.2 =
      String.intercalate " / " ((trail ++ [title]).map Prod.snd) := by
  cases trail with
  | nil =>
      simp [along, labelPathTo, top]
  | cons first rest =>
      have hrest : (first :: rest).map Prod.snd ≠ [] := by
        simp
      rw [List.map_append, String.intercalate_append_of_ne_nil hrest (by simp)]
      simp [along, labelPathTo, inside]

theorem Scope.inside_along (trail : List (String × String)) (title : String × String) :
    inside ((along trail).pathTo title.1) ((along trail).labelPathTo title.2) =
      along (trail ++ [title]) := by
  rw [pathTo_along, labelPathTo_along]
  cases trail <;>
    rfl

/-!
# Fields
-/

namespace Field

theorem built_ofDescription (handle : Handle) (d : FieldDescription) :
    Built [d] (d.Makes handle) (ofDescription handle d) := by
  cases htype : DataType.find? d.type with
  | none =>
      have hrefused : ofDescription handle d = .error (.unknownName "type" d.type) := by
        simp only [ofDescription, DataType.ofName, htype]
        rfl
      rw [hrefused]
      exact .refused List.mem_cons_self htype
  | some t =>
      have hmade : ofDescription handle d = .ok ⟨d.id, d.name, d.label.getD d.name, t, d.isKey,
          handle, handle.path ++ "." ++ d.name⟩ := by
        simp only [ofDescription, DataType.ofName, htype]
        rfl
      rw [hmade]
      refine .made ?_ ⟨rfl, rfl, rfl, htype, rfl, rfl, rfl⟩
      intro f hf
      rw [List.mem_singleton.mp hf, htype]
      exact Option.some_ne_none t

theorem built_ofDescriptions (handle : Handle) (ds : List FieldDescription) :
    Built ds (List.Forall₂ (FieldDescription.Makes handle) ds) (ofDescriptions handle ds) := by
  induction ds with
  | nil =>
      exact .of_ok .nil
  | cons d ds ih =>
      exact (built_ofDescription handle d).bind fun f hf =>
        ih.map fun fs hfs => .cons hf hfs

end Field

/-!
# Databases and groups

A list of databases is built of what is nested first to last, which is the order of the
places.
-/

theorem fieldsAt_append (ps qs : List Place) :
    fieldsAt (ps ++ qs) = fieldsAt ps ++ fieldsAt qs :=
  List.flatMap_append

namespace Database

mutual
theorem built_ofDescription (trail : List (String × String)) : (d : DatabaseDescription) ->
    Built (fieldsAt (d.places trail))
      (fun made => List.Forall₂ Place.Makes (d.places trail) (made :: made.descendants))
      (ofDescription (Scope.along trail) d)
  | ⟨id, name, label, format, fields, databases⟩ => by
      have hpath := Scope.pathTo_along trail (titled name label)
      have hlabelPath := Scope.labelPathTo_along trail (titled name label)
      have hscope := Scope.inside_along trail (titled name label)
      have hnested := built_ofDescriptions (trail ++ [titled name label]) databases
      rw [← hscope] at hnested
      rw [ofDescription, DatabaseDescription.places]
      refine (Field.built_ofDescriptions _ fields).bind fun fs hfs => ?_
      refine hnested.map fun nested hplaces => ?_
      exact .cons ⟨rfl, rfl, rfl, rfl, hpath, hlabelPath, hfs⟩ hplaces

theorem built_ofDescriptions (trail : List (String × String)) :
    (ds : List DatabaseDescription) ->
    Built (fieldsAt (DatabaseDescription.placesOf trail ds))
      (fun made => List.Forall₂ Place.Makes (DatabaseDescription.placesOf trail ds)
        (withDescendants made))
      (ofDescriptions (Scope.along trail) ds)
  | [] => .of_ok .nil
  | d :: rest => by
      rw [DatabaseDescription.placesOf, fieldsAt_append]
      exact (built_ofDescription trail d).bind fun first hfirst =>
        (built_ofDescriptions trail rest).map fun others hothers =>
          List.rel_append hfirst hothers
end

end Database

namespace Group

mutual
theorem built_ofDescription (trail : List (String × String)) : (g : GroupDescription) ->
    Built (fieldsAt (g.places trail))
      (fun made => List.Forall₂ Place.Makes (g.places trail) made.allDatabases)
      (ofDescription (Scope.along trail) g)
  | ⟨id, name, label, groups, databases⟩ => by
      have hscope := Scope.inside_along trail (titled name label)
      have hgroups := built_ofDescriptions (trail ++ [titled name label]) groups
      have hdatabases := Database.built_ofDescriptions (trail ++ [titled name label]) databases
      rw [← hscope] at hgroups hdatabases
      -- subgroups are built first and listed last
      rw [ofDescription, GroupDescription.places, fieldsAt_append]
      refine Built.comm (hgroups.bind fun subgroups hsubgroups => ?_)
      exact hdatabases.map fun own hown => List.rel_append hown hsubgroups

theorem built_ofDescriptions (trail : List (String × String)) :
    (gs : List GroupDescription) ->
    Built (fieldsAt (GroupDescription.placesOf trail gs))
      (fun made => List.Forall₂ Place.Makes (GroupDescription.placesOf trail gs)
        (allDatabasesOf made))
      (ofDescriptions (Scope.along trail) gs)
  | [] => .of_ok .nil
  | g :: rest => by
      rw [GroupDescription.placesOf, fieldsAt_append]
      exact (built_ofDescription trail g).bind fun first hfirst =>
        (built_ofDescriptions trail rest).map fun others hothers =>
          List.rel_append hfirst hothers
end

end Group

/-!
# Schemas
-/

namespace Schema

theorem built_ofDescription (d : SchemaDescription) :
    Built d.fields (fun s => List.Forall₂ Place.Makes d.places s.databases) (ofDescription d) :=
  (Group.built_ofDescriptions [] d.groups).map fun _ hplaces => hplaces

/-- A schema is refused exactly if the type of a field at any depth is not registered, which
is then reported; otherwise its databases are made of the described ones, in the order of
their places. -/
theorem ofDescription_flattens (d : SchemaDescription) :
    ((exists e, ofDescription d = .error e) ↔
        exists f, f ∈ d.fields ∧ DataType.find? f.type = none) ∧
      match ofDescription d with
      | .error e => exists f, f ∈ d.fields ∧ DataType.find? f.type = none ∧
          e = .unknownName "type" f.type
      | .ok s => List.Forall₂ Place.Makes d.places s.databases := by
  have hbuilt := built_ofDescription d
  generalize ofDescription d = result at hbuilt ⊢
  cases hbuilt with
  | made hfields hplaces =>
      refine ⟨⟨?_, ?_⟩, hplaces⟩
      · rintro ⟨e, he⟩
        cases he
      · rintro ⟨f, hf, htype⟩
        exact absurd htype (hfields f hf)
  | refused hf htype =>
      exact ⟨⟨fun _ => ⟨_, hf, htype⟩, fun _ => ⟨_, rfl⟩⟩, _, hf, htype, rfl⟩

end Schema

namespace Sample

def archive : GroupDescription :=
  ⟨2, "archive", some "Archive", [], [⟨12, "orders", none, none, [], []⟩]⟩

def sales : GroupDescription :=
  ⟨1, "sales", some "Sales", [archive],
    [⟨10, "orders", some "Orders", none, [], [⟨11, "lines", none, none, [], []⟩]⟩,
      ⟨13, "stock", none, none, [], []⟩]⟩

example :
    (Schema.ofDescription ⟨[sales], [], []⟩).map (fun s => s.databases.map Database.labelPath) =
      .ok ["Sales / Orders", "Sales / Orders / lines", "Sales / stock",
        "Sales / Archive / orders"] :=
  rfl

end Sample
end RecordQuery
