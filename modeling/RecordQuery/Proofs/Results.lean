import Mathlib.Data.List.Forall2

/-!
# Results that may fail

What a successful step, or a successful walk over a list or an option, says about the
steps it is made of.
-/

namespace RecordQuery

variable {α β γ ε : Type}

/-!
# Successful steps
-/

theorem bind_eq_ok {x : Except ε α} {f : α -> Except ε β} {b : β} :
    x >>= f = .ok b ↔ exists a, x = .ok a ∧ f a = .ok b := by
  cases x with
  | error e =>
      simp [bind, Except.bind]
  | ok a =>
      simp [bind, Except.bind]

theorem exists_bind_eq_ok {x : Except ε α} {f : α -> Except ε β} :
    (exists b, x >>= f = .ok b) ↔ exists a, x = .ok a ∧ exists b, f a = .ok b := by
  simp only [bind_eq_ok]
  constructor
  · rintro ⟨b, a, ha, hb⟩
    exact ⟨a, ha, b, hb⟩
  · rintro ⟨a, ha, b, hb⟩
    exact ⟨b, a, ha, hb⟩

theorem map_eq_ok {x : Except ε α} {f : α -> β} {b : β} :
    x.map f = .ok b ↔ exists a, x = .ok a ∧ f a = b := by
  cases x with
  | error e =>
      simp [Except.map]
  | ok a =>
      simp [Except.map]

theorem exists_map_eq_ok {x : Except ε α} {f : α -> β} :
    (exists b, x.map f = .ok b) ↔ exists a, x = .ok a := by
  cases x with
  | error e =>
      simp [Except.map]
  | ok a =>
      simp [Except.map]

theorem exists_eq_error_iff {x : Except ε α} :
    (exists e, x = .error e) ↔ ¬ exists a, x = .ok a := by
  cases x with
  | error e =>
      simp
  | ok a =>
      simp

/-!
# Successful walks
-/

theorem mapM_eq_ok {f : α -> Except ε β} {as : List α} {bs : List β} :
    as.mapM f = .ok bs ↔ List.Forall₂ (fun a b => f a = .ok b) as bs := by
  induction as generalizing bs with
  | nil =>
      cases bs with
      | nil =>
          simp [pure, Except.pure]
      | cons b bs =>
          simp [pure, Except.pure]
  | cons a as ih =>
      simp only [List.mapM_cons, bind_eq_ok, ih, pure, Except.pure, Except.ok.injEq]
      constructor
      · rintro ⟨b, hb, bs, hbs, rfl⟩
        exact .cons hb hbs
      · intro h
        cases h with
        | cons hb hbs =>
            exact ⟨_, hb, _, hbs, rfl⟩

theorem length_of_mapM {f : α -> Except ε β} {as : List α} {bs : List β}
    (h : as.mapM f = .ok bs) :
    bs.length = as.length :=
  (mapM_eq_ok.mp h).length_eq.symm

theorem exists_of_mem_mapM {f : α -> Except ε β} {as : List α} {bs : List β} {b : β}
    (h : as.mapM f = .ok bs) (hb : b ∈ bs) :
    exists a, a ∈ as ∧ f a = .ok b := by
  rw [mapM_eq_ok] at h
  induction h with
  | nil =>
      cases hb
  | cons ha _ ih =>
      rcases List.mem_cons.mp hb with rfl | hb
      · exact ⟨_, List.mem_cons_self, ha⟩
      · rcases ih hb with ⟨a, hmem, ha⟩
        exact ⟨a, List.mem_cons_of_mem _ hmem, ha⟩

theorem exists_mem_of_mapM {f : α -> Except ε β} {as : List α} {bs : List β} {a : α}
    (h : as.mapM f = .ok bs) (ha : a ∈ as) :
    exists b, b ∈ bs ∧ f a = .ok b := by
  rw [mapM_eq_ok] at h
  induction h with
  | nil =>
      cases ha
  | cons hb _ ih =>
      rcases List.mem_cons.mp ha with rfl | ha
      · exact ⟨_, List.mem_cons_self, hb⟩
      · rcases ih ha with ⟨b, hmem, hb⟩
        exact ⟨b, List.mem_cons_of_mem _ hmem, hb⟩

theorem exists_mapM_eq_ok {f : α -> Except ε β} {as : List α} :
    (exists bs, as.mapM f = .ok bs) ↔ forall a, a ∈ as -> exists b, f a = .ok b := by
  induction as with
  | nil =>
      simp [pure, Except.pure]
  | cons a as ih =>
      simp only [List.mapM_cons, exists_bind_eq_ok, List.forall_mem_cons, ← ih]
      simp [pure, Except.pure]

theorem optionMapM_eq_ok {f : α -> Except ε β} {o : Option α} {r : Option β} :
    o.mapM f = .ok r ↔ Option.Rel (fun a b => f a = .ok b) o r := by
  cases o with
  | none =>
      cases r <;>
        simp [pure, Except.pure]
  | some a =>
      cases r <;>
        simp [Functor.map, map_eq_ok]

theorem exists_optionMapM_eq_ok {f : α -> Except ε β} {o : Option α} :
    (exists r, o.mapM f = .ok r) ↔ forall a, a ∈ o.toList -> exists b, f a = .ok b := by
  cases o with
  | none =>
      simp [pure, Except.pure]
  | some a =>
      simp [Functor.map, exists_map_eq_ok]

theorem some_of_optionMapM {P : β -> Prop} {f : α -> Except ε β} {o : Option α} {r : Option β}
    (step : forall a b, f a = .ok b -> P b) (h : o.mapM f = .ok r) :
    (forall b, r = some b -> P b) ∧ r.isSome = o.isSome := by
  rw [optionMapM_eq_ok] at h
  cases h with
  | none =>
      simp
  | some hb =>
      simpa using step _ _ hb

theorem forall₂_of_mapM {R : β -> γ -> Prop} {f : α -> Except ε β} {g : α -> γ}
    {as : List α} {bs : List β} (step : forall a, a ∈ as -> forall b, f a = .ok b -> R b (g a))
    (h : as.mapM f = .ok bs) :
    List.Forall₂ R bs (as.map g) := by
  rw [mapM_eq_ok] at h
  induction h with
  | nil =>
      exact .nil
  | cons hb _ ih =>
      constructor
      · exact step _ List.mem_cons_self _ hb
      · exact ih fun a ha => step a (List.mem_cons_of_mem _ ha)

theorem rel_of_optionMapM {R : β -> γ -> Prop} {f : α -> Except ε β} {g : α -> γ}
    {o : Option α} {r : Option β}
    (step : forall a, a ∈ o.toList -> forall b, f a = .ok b -> R b (g a))
    (h : o.mapM f = .ok r) :
    Option.Rel R r (o.map g) := by
  rw [optionMapM_eq_ok] at h
  cases h with
  | none =>
      exact .none
  | some hb =>
      exact .some (step _ (by simp) _ hb)

theorem mapM_map_congr {f : β -> Except ε γ} {g : α -> β} {h : α -> Except ε γ} {as : List α}
    (step : forall a, a ∈ as -> f (g a) = h a) :
    (as.map g).mapM f = as.mapM h := by
  induction as with
  | nil =>
      rfl
  | cons a as ih =>
      rw [List.map_cons, List.mapM_cons, List.mapM_cons, step a List.mem_cons_self,
        ih fun b hb => step b (List.mem_cons_of_mem a hb)]

theorem optionMapM_map_congr {f : β -> Except ε γ} {g : α -> β} {h : α -> Except ε γ}
    {o : Option α} (step : forall a, a ∈ o.toList -> f (g a) = h a) :
    (o.map g).mapM f = o.mapM h := by
  cases o with
  | none =>
      rfl
  | some a =>
      rw [Option.map_some, Option.mapM_some, Option.mapM_some, step a (by simp)]

theorem optionMap_eq_optionMap_iff {f g : α -> β} {o : Option α} :
    o.map f = o.map g ↔ forall a, a ∈ o.toList -> f a = g a := by
  cases o <;>
    simp

/-!
# Outcomes
-/

/-- A value meets the one condition, an error the other. -/
inductive Outcome (P : α -> Prop) (Q : ε -> Prop) : Except ε α -> Prop where
  | ok {a : α} (h : P a) : Outcome P Q (.ok a)
  | error {e : ε} (h : Q e) : Outcome P Q (.error e)

namespace Outcome

variable {P : α -> Prop} {R : β -> Prop} {Q : ε -> Prop} {x : Except ε α}

theorem of_ok {a : α} (h : Outcome P Q x) (ha : x = .ok a) : P a := by
  cases h with
  | ok hP =>
      cases ha
      exact hP
  | error =>
      cases ha

theorem of_error {e : ε} (h : Outcome P Q x) (he : x = .error e) : Q e := by
  cases h with
  | ok =>
      cases he
  | error hQ =>
      cases he
      exact hQ

theorem bind {f : α -> Except ε β} (h : Outcome P Q x)
    (hstep : forall a, P a -> Outcome R Q (f a)) :
    Outcome R Q (x >>= f) := by
  cases h with
  | ok hP =>
      exact hstep _ hP
  | error hQ =>
      exact .error hQ

theorem map {f : α -> β} (h : Outcome P Q x) (hstep : forall a, P a -> R (f a)) :
    Outcome R Q (x.map f) := by
  cases h with
  | ok hP =>
      exact .ok (hstep _ hP)
  | error hQ =>
      exact .error hQ

theorem mapM {f : β -> Except ε α} {bs : List β}
    (hstep : forall b, b ∈ bs -> Outcome P Q (f b)) :
    Outcome (fun as => forall a, a ∈ as -> P a) Q (bs.mapM f) := by
  induction bs with
  | nil =>
      exact .ok (by simp)
  | cons b bs ih =>
      rw [List.mapM_cons]
      apply (hstep b List.mem_cons_self).bind
      intro a ha
      apply (ih fun c hc => hstep c (List.mem_cons_of_mem b hc)).bind
      intro as has
      exact .ok (List.forall_mem_cons.mpr ⟨ha, has⟩)

theorem optionMapM {f : β -> Except ε α} {o : Option β}
    (hstep : forall b, b ∈ o.toList -> Outcome P Q (f b)) :
    Outcome (fun r => forall a, a ∈ r.toList -> P a) Q (o.mapM f) := by
  cases o with
  | none =>
      exact .ok (by simp)
  | some b =>
      rw [Option.mapM_some]
      exact (hstep b (by simp)).map (by simp)

end Outcome

/-!
# Walks by companions
-/

theorem eq_map {walk : List α -> List β} {f : α -> β} (hnil : walk [] = [])
    (hcons : forall a as, walk (a :: as) = f a :: walk as) (as : List α) :
    walk as = as.map f := by
  induction as with
  | nil =>
      exact hnil
  | cons a as ih =>
      rw [hcons, ih, List.map_cons]

theorem eq_mapM {walk : List α -> Except ε (List β)} {f : α -> Except ε β}
    (hnil : walk [] = .ok [])
    (hcons : forall a as, walk (a :: as) = do
      let b <- f a
      let bs <- walk as
      .ok (b :: bs)) (as : List α) :
    walk as = as.mapM f := by
  induction as with
  | nil =>
      exact hnil
  | cons a as ih =>
      rw [hcons, ih, List.mapM_cons]
      rfl

theorem eq_optionMapM {walk : Option α -> Except ε (Option β)} {f : α -> Except ε β}
    (hnone : walk none = .ok none)
    (hsome : forall a, walk (some a) = do
      let b <- f a
      .ok (some b)) (o : Option α) :
    walk o = o.mapM f := by
  cases o with
  | none =>
      exact hnone
  | some a =>
      rw [hsome, Option.mapM_some]
      cases f a <;>
        rfl

theorem eq_all {walk : List α -> Bool} {p : α -> Bool} (hnil : walk [] = true)
    (hcons : forall a as, walk (a :: as) = (p a && walk as)) (as : List α) :
    walk as = as.all p := by
  induction as with
  | nil =>
      exact hnil
  | cons a as ih =>
      rw [hcons, ih, List.all_cons]

end RecordQuery
