import EdgeRoutes.Log.Logged
import Mathlib.Data.List.Forall2

/-! Computations that come to a result: each of their parts came to one. -/

namespace EdgeRoutes

variable {ε α β : Type}

theorem bind_eq_ok_iff {x : Except ε α} {f : α → Except ε β} {b : β} :
    x.bind f = .ok b ↔ ∃ a, x = .ok a ∧ f a = .ok b := by
  cases x with
  | error fault => simp [Except.bind]
  | ok a => simp [Except.bind]

theorem map_eq_ok_iff {x : Except ε α} {f : α → β} {b : β} :
    x.map f = .ok b ↔ ∃ a, x = .ok a ∧ f a = b := by
  cases x with
  | error fault => simp [Except.map]
  | ok a => simp [Except.map]

theorem toOption_eq_some_iff {x : Except ε α} {a : α} : x.toOption = some a ↔ x = .ok a := by
  cases x with
  | error fault => simp [Except.toOption]
  | ok b => simp [Except.toOption]

/-- What a view of the result shows, the result shows. -/
theorem eq_of_map_toOption {x : Except ε α} {a : α} (h : x = .ok a) {f : α → β} {b : β}
    (hview : x.toOption.map f = some b) : f a = b := by
  rw [h] at hview
  exact Option.some.inj hview

theorem exists_eq_ok {x : Except ε α} (h : x.toOption.isSome = true) : ∃ a, x = .ok a := by
  obtain ⟨a, ha⟩ := Option.isSome_iff_exists.mp h
  exact ⟨a, toOption_eq_some_iff.mp ha⟩

theorem mapM_eq_ok_iff {f : α → Except ε β} {as : List α} {bs : List β} :
    as.mapM f = .ok bs ↔ List.Forall₂ (fun a b => f a = .ok b) as bs := by
  induction as generalizing bs with
  | nil =>
      rw [List.mapM_nil, List.forall₂_nil_left_iff]
      exact ⟨fun h => (Except.ok.inj h).symm, fun h => congrArg Except.ok h.symm⟩
  | cons a as ih =>
      rw [List.mapM_cons, List.forall₂_cons_left_iff]
      constructor
      · intro h
        obtain ⟨b, hb, h⟩ := bind_eq_ok_iff.mp h
        obtain ⟨rest, hrest, h⟩ := bind_eq_ok_iff.mp h
        exact ⟨b, rest, hb, ih.mp hrest, (Except.ok.inj h).symm⟩
      · rintro ⟨b, rest, hb, hrest, rfl⟩
        exact bind_eq_ok_iff.mpr ⟨b, hb, bind_eq_ok_iff.mpr ⟨rest, ih.mpr hrest, rfl⟩⟩

theorem mapM_eq_of_forall₂ {γ : Type} {R : α → β → Prop} {f : α → Except ε γ} {g : β → Except ε γ}
    (hagree : ∀ a b, R a b → f a = g b) {as : List α} {bs : List β} (h : List.Forall₂ R as bs) :
    as.mapM f = bs.mapM g := by
  induction h with
  | nil => rfl
  | @cons a b as bs hab _ ih => rw [List.mapM_cons, List.mapM_cons, hagree a b hab, ih]

/-- Where just the elements with a property have a counterpart, leaving out what is missing pairs them up. -/
theorem forall₂_filter_filterMap {R : α → β → Prop} {p : α → Bool} {as : List α} {found : List (Option β)}
    (h : List.Forall₂ (fun a x => if p a then ∃ b, some b = x ∧ R a b else none = x) as found) :
    List.Forall₂ R (as.filter p) (found.filterMap id) := by
  induction h with
  | nil => exact List.Forall₂.nil
  | @cons a x as found hfound _ ih =>
      by_cases hp : p a = true
      · rw [if_pos hp] at hfound
        obtain ⟨b, rfl, hb⟩ := hfound
        rw [List.filter_cons_of_pos hp]
        exact List.Forall₂.cons hb ih
      · rw [if_neg hp] at hfound
        obtain rfl := hfound
        rw [List.filter_cons_of_neg hp]
        exact ih

/-- Lists that go with the same list, element by element, look the same where corresponding elements do. -/
theorem map_eq_of_forall₂ {γ δ : Type} {R : α → β → Prop} {S : α → γ → Prop} {f : β → δ} {g : γ → δ}
    (hagree : ∀ a b c, R a b → S a c → f b = g c) {as : List α} {bs : List β} {cs : List γ}
    (hb : List.Forall₂ R as bs) (hc : List.Forall₂ S as cs) : bs.map f = cs.map g := by
  induction hb generalizing cs with
  | nil =>
      cases hc
      rfl
  | @cons a b as bs hab _ ih =>
      cases hc with
      | @cons _ c _ cs hac hcs => rw [List.map_cons, List.map_cons, hagree a b c hab hac, ih hcs]

theorem forall₂_zipIdx {R : α → β → Prop} {as : List α} {bs : List β} (h : List.Forall₂ R as bs) (i : Nat) :
    List.Forall₂ (fun x y => R x.1 y.1 ∧ x.2 = y.2) (as.zipIdx i) (bs.zipIdx i) := by
  induction h generalizing i with
  | nil => exact List.Forall₂.nil
  | cons hab _ ih =>
      rw [List.zipIdx_cons, List.zipIdx_cons]
      exact List.Forall₂.cons ⟨hab, rfl⟩ (ih (i + 1))

theorem flatMap_eq_of_forall₂ {γ : Type} {R : α → β → Prop} {f : α → List γ} {g : β → List γ}
    (hagree : ∀ a b, R a b → f a = g b) {as : List α} {bs : List β} (h : List.Forall₂ R as bs) :
    as.flatMap f = bs.flatMap g := by
  induction h with
  | nil => rfl
  | @cons a b as bs hab _ ih => rw [List.flatMap_cons, List.flatMap_cons, hagree a b hab, ih]

theorem exists_right_of_forall₂ {R : α → β → Prop} {as : List α} {bs : List β} (h : List.Forall₂ R as bs) {a : α}
    (ha : a ∈ as) : ∃ b ∈ bs, R a b := by
  induction h with
  | nil => cases ha
  | @cons a' b as bs hab _ ih =>
      rcases List.mem_cons.mp ha with rfl | ha
      · exact ⟨b, List.mem_cons_self, hab⟩
      · obtain ⟨b', hb', hab'⟩ := ih ha
        exact ⟨b', List.mem_cons_of_mem _ hb', hab'⟩

theorem exists_left_of_forall₂ {R : α → β → Prop} {as : List α} {bs : List β} (h : List.Forall₂ R as bs) {b : β}
    (hb : b ∈ bs) : ∃ a ∈ as, R a b :=
  exists_right_of_forall₂ h.flip hb

theorem exists_forall₂ {R : α → β → Prop} {as : List α} (h : ∀ a ∈ as, ∃ b, R a b) : ∃ bs, List.Forall₂ R as bs := by
  induction as with
  | nil => exact ⟨[], .nil⟩
  | cons a as ih =>
      obtain ⟨b, hb⟩ := h a List.mem_cons_self
      obtain ⟨bs, hbs⟩ := ih fun a' ha' => h a' (List.mem_cons_of_mem a ha')
      exact ⟨b :: bs, .cons hb hbs⟩

/-- Tests that agree on elements in a relation find elements in that relation. -/
theorem rel_find? {R : α → β → Prop} {p : α → Bool} {q : β → Bool} (hagree : ∀ a b, R a b → p a = q b)
    {as : List α} {bs : List β} (h : List.Forall₂ R as bs) : Option.Rel R (as.find? p) (bs.find? q) := by
  induction h with
  | nil => exact Option.Rel.none
  | @cons a b as bs hab _ ih =>
      have hpq := hagree a b hab
      rw [List.find?_cons, List.find?_cons, ← hpq]
      cases hp : p a with
      | true => exact Option.Rel.some hab
      | false => exact ih

namespace Logged

theorem ext {x y : Logged α} (hevents : x.events = y.events) (hresult : x.result = y.result) : x = y := by
  obtain ⟨events, result⟩ := x
  obtain ⟨events', result'⟩ := y
  obtain rfl : events = events' := hevents
  obtain rfl : result = result' := hresult
  rfl

theorem bind_of_result_ok {x : Logged α} {a : α} (h : x.result = .ok a) (f : α → Logged β) :
    x >>= f = ⟨x.events ++ (f a).events, (f a).result⟩ := by
  change Logged.bind x f = _
  rw [Logged.bind, h]

theorem bind_of_result_error {x : Logged α} {fault : Fault} (h : x.result = .error fault) (f : α → Logged β) :
    x >>= f = ⟨x.events, .error fault⟩ := by
  change Logged.bind x f = _
  rw [Logged.bind, h]

/-- What follows only matters for the value that the computation comes to. -/
theorem bind_congr_of_result {x : Logged α} {f g : α → Logged β} (h : ∀ a, x.result = .ok a → f a = g a) :
    x >>= f = x >>= g := by
  cases hx : x.result with
  | ok a => rw [bind_of_result_ok hx, bind_of_result_ok hx, h a hx]
  | error fault => rw [bind_of_result_error hx, bind_of_result_error hx]

theorem id_map_eq (x : Logged α) : id <$> x = x := by
  cases hx : x.result with
  | ok a => exact (bind_of_result_ok hx _).trans (ext (List.append_nil _) hx.symm)
  | error fault => exact (bind_of_result_error hx _).trans (ext rfl hx.symm)

theorem bind_bind_eq {γ : Type} (x : Logged α) (f : α → Logged β) (g : β → Logged γ) :
    x >>= f >>= g = x >>= fun a => f a >>= g := by
  cases hx : x.result with
  | error fault => rw [bind_of_result_error hx, bind_of_result_error hx, bind_of_result_error rfl]
  | ok a =>
      rw [bind_of_result_ok hx, bind_of_result_ok hx]
      cases hf : (f a).result with
      | error fault => rw [bind_of_result_error rfl, bind_of_result_error hf]
      | ok b => rw [bind_of_result_ok rfl, bind_of_result_ok hf, List.append_assoc]

instance : LawfulMonad Logged := LawfulMonad.mk' Logged id_map_eq (fun _ _ => rfl) bind_bind_eq

@[simp] theorem result_map (f : α → β) (x : Logged α) : (f <$> x).result = x.result.map f := by
  rw [← bind_pure_comp, result_bind]
  cases x.result <;> rfl

@[simp] theorem events_map (f : α → β) (x : Logged α) : (f <$> x).events = x.events := by
  rw [← bind_pure_comp]
  cases hx : x.result with
  | ok a => rw [bind_of_result_ok hx, events_pure, List.append_nil]
  | error fault => rw [bind_of_result_error hx]

@[simp] theorem result_liftM (x : Except Fault α) : (liftM x : Logged α).result = x := rfl

theorem result_forEach (f : α → Logged β) (as : List α) :
    (forEach f as).result = as.mapM fun a => (f a).result := by
  induction as with
  | nil => rfl
  | cons a as ih =>
      rw [forEach, List.mapM_cons, result_bind]
      simp only [result_bind, ih, result_pure]
      rfl

theorem result_forEach_eq_ok_iff {f : α → Logged β} {as : List α} {bs : List β} :
    (forEach f as).result = .ok bs ↔ List.Forall₂ (fun a b => (f a).result = .ok b) as bs := by
  rw [result_forEach, mapM_eq_ok_iff]

end Logged

end EdgeRoutes
