import EdgeRoutes.Data.Fields
import Mathlib.Data.List.Nodup

/-! Ordered maps. A map whose keys are distinct is known by the order of its keys and the values under them. An update keeps
the places of the keys that were there, puts the new ones behind them, and lets the later values win; so updates can be
gathered before they are made. -/

namespace EdgeRoutes.Fields

variable {β : Type}

@[simp] theorem keys_nil : keys ([] : Fields β) = [] := rfl

@[simp] theorem keys_cons (e : String × β) (m : Fields β) : keys (e :: m) = e.1 :: keys m := rfl

theorem nodup_keys_cons {e : String × β} {m : Fields β} : (keys (e :: m)).Nodup ↔ e.1 ∉ keys m ∧ (keys m).Nodup :=
  List.nodup_cons

theorem get?_cons (e : String × β) (m : Fields β) (key : String) :
    get? (e :: m) key = if e.1 = key then some e.2 else get? m key := by
  by_cases h : e.1 = key <;> simp [get?, h]

theorem get?_eq_none_iff {m : Fields β} {key : String} : m.get? key = none ↔ key ∉ m.keys := by
  induction m with
  | nil => simp [get?]
  | cons e m ih =>
      rw [get?_cons, keys_cons, List.mem_cons, not_or]
      by_cases h : e.1 = key
      · simp [h]
      · rw [if_neg h, ih]
        exact ⟨fun hm => ⟨fun hk => h hk.symm, hm⟩, And.right⟩

theorem put_cons (e : String × β) (m : Fields β) (name : String) (value : β) :
    put (e :: m) name value = if e.1 = name then (e.1, value) :: m else e :: put m name value := by
  by_cases h : e.1 = name <;> simp [put, putBy, h]

theorem put_of_notMem {m : Fields β} {name : String} (h : name ∉ m.keys) (value : β) :
    m.put name value = m ++ [(name, value)] := by
  induction m with
  | nil => rfl
  | cons e m ih =>
      rw [keys_cons, List.mem_cons, not_or] at h
      rw [put_cons, if_neg fun he => h.1 he.symm, ih h.2, List.cons_append]

/-- A key that is there keeps its place, a new one goes to the end. -/
theorem keys_put (m : Fields β) (name : String) (value : β) :
    (m.put name value).keys = if name ∈ m.keys then m.keys else m.keys ++ [name] := by
  induction m with
  | nil => rfl
  | cons e m ih =>
      rw [put_cons]
      by_cases h : e.1 = name
      · simp [h]
      · have hne : name ≠ e.1 := fun hn => h hn.symm
        simp only [if_neg h, keys_cons, ih, List.mem_cons, hne, false_or]
        split_ifs <;> rfl

theorem get?_put (m : Fields β) (name : String) (value : β) (key : String) :
    (m.put name value).get? key = if name = key then some value else m.get? key := by
  induction m with
  | nil => simp [put, putBy, get?_cons]
  | cons e m ih =>
      rw [put_cons]
      by_cases h : e.1 = name
      · rw [if_pos h, get?_cons, get?_cons, h]
        split_ifs <;> rfl
      · rw [if_neg h, get?_cons, get?_cons, ih]
        split_ifs with hkey hname
        · exact absurd (hkey.trans hname.symm) h
        all_goals rfl

theorem has_put (m : Fields β) (name : String) (value : β) (key : String) :
    (m.put name value).has key = (m.has key || name == key) := by
  induction m with
  | nil => simp [put, putBy, has]
  | cons e m ih =>
      rw [put_cons]
      by_cases h : e.1 = name
      · rw [if_pos h, ← h]
        simp only [has, List.any_cons]
        cases e.1 == key <;> simp
      · rw [if_neg h]
        simp only [has, List.any_cons, Bool.or_assoc] at ih ⊢
        rw [ih]

theorem nodup_keys_put {m : Fields β} (h : m.keys.Nodup) (name : String) (value : β) :
    (m.put name value).keys.Nodup := by
  rw [keys_put]
  split_ifs with hname
  · exact h
  · exact h.append (List.nodup_singleton name) (by simpa using hname)

@[simp] theorem update_nil (m : Fields β) : m.update [] = m := rfl

theorem update_cons (m : Fields β) (e : String × β) (n : Fields β) :
    m.update (e :: n) = (m.put e.1 e.2).update n := rfl

theorem nodup_keys_update {m : Fields β} (h : m.keys.Nodup) (n : Fields β) : (m.update n).keys.Nodup := by
  induction n generalizing m with
  | nil => exact h
  | cons e n ih => exact ih (nodup_keys_put h e.1 e.2)

/-- The new keys come behind those that were there. -/
theorem keys_update (m : Fields β) {n : Fields β} (hn : n.keys.Nodup) :
    (m.update n).keys = m.keys ++ n.keys.filter (· ∉ m.keys) := by
  induction n generalizing m with
  | nil => simp
  | cons e n ih =>
      obtain ⟨hfresh, hn⟩ := nodup_keys_cons.mp hn
      rw [update_cons, ih _ hn, keys_put, keys_cons]
      by_cases hmem : e.1 ∈ m.keys
      · rw [if_pos hmem, List.filter_cons_of_neg (by simpa using hmem)]
      · have hrest : (keys n).filter (· ∉ m.keys ++ [e.1]) = (keys n).filter (· ∉ m.keys) := by
          refine List.filter_congr fun key hkey => ?_
          have hne : key ≠ e.1 := fun h => hfresh (h ▸ hkey)
          simp [hne]
        rw [if_neg hmem, hrest, List.filter_cons_of_pos (by simpa using hmem), List.append_assoc]
        rfl

/-- The values of the update win. -/
theorem get?_update (m : Fields β) {n : Fields β} (hn : n.keys.Nodup) (key : String) :
    (m.update n).get? key = (n.get? key).or (m.get? key) := by
  induction n generalizing m with
  | nil => rfl
  | cons e n ih =>
      obtain ⟨hfresh, hn⟩ := nodup_keys_cons.mp hn
      rw [update_cons, ih _ hn, get?_put, get?_cons]
      by_cases h : e.1 = key
      · rw [if_pos h, if_pos h, get?_eq_none_iff.mpr (h ▸ hfresh)]
        rfl
      · rw [if_neg h, if_neg h]

/-- Maps with the same keys in the same order and the same values under them are the same. -/
theorem ext_of_keys {m n : Fields β} (hnodup : m.keys.Nodup) (hkeys : m.keys = n.keys)
    (hvalues : ∀ key, m.get? key = n.get? key) : m = n := by
  induction m generalizing n with
  | nil =>
      cases n with
      | nil => rfl
      | cons e n => cases hkeys
  | cons e m ih =>
      cases n with
      | nil => cases hkeys
      | cons f n =>
          obtain ⟨hfresh, hnodup⟩ := nodup_keys_cons.mp hnodup
          obtain ⟨hkey, hkeys⟩ : e.1 = f.1 ∧ keys m = keys n := List.cons.inj hkeys
          have hvalue := hvalues e.1
          rw [get?_cons, get?_cons, if_pos rfl, if_pos hkey.symm] at hvalue
          have hrest : m = n := by
            refine ih hnodup hkeys fun key => ?_
            by_cases h : e.1 = key
            · rw [h] at hfresh
              rw [get?_eq_none_iff.mpr hfresh, get?_eq_none_iff.mpr (hkeys ▸ hfresh)]
            · have hkeyvalue := hvalues key
              rw [get?_cons, get?_cons, if_neg h, if_neg (hkey ▸ h)] at hkeyvalue
              exact hkeyvalue
          rw [hrest, Prod.ext hkey (Option.some.inj hvalue)]

theorem nil_update {m : Fields β} (h : m.keys.Nodup) : update [] m = m := by
  have hnil : (keys ([] : Fields β)).Nodup := List.nodup_nil
  refine ext_of_keys (nodup_keys_update hnil m) ?_ fun key => ?_
  · simp [keys_update [] h]
  · rw [get?_update [] h]
    exact Option.or_none

/-- Updates one after the other are one update with all of them. -/
theorem update_assoc {a b c : Fields β} (ha : a.keys.Nodup) (hb : b.keys.Nodup) (hc : c.keys.Nodup) :
    (a.update b).update c = a.update (b.update c) := by
  have hbc := nodup_keys_update hb c
  refine ext_of_keys (nodup_keys_update (nodup_keys_update ha b) c) ?_ fun key => ?_
  · rw [keys_update _ hc, keys_update _ hb, keys_update _ hbc, keys_update _ hc, List.filter_append,
      List.filter_filter, List.append_assoc]
    congr 2
    refine List.filter_congr fun key _ => ?_
    by_cases hkey : key ∈ a.keys <;> simp [hkey]
  · rw [get?_update _ hc, get?_update _ hb, get?_update _ hbc, get?_update _ hc, Option.or_assoc]

end EdgeRoutes.Fields
