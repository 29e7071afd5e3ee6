import EdgeRoutes.Generate.Blocks
import EdgeRoutes.Proofs.Results
import Mathlib.Data.List.Flatten
import Mathlib.Data.List.Nodup

/-! Routes, and how they are found. A configuration is searched for one location, however many others say the same; the
search finds it where it is held and nowhere else, and for a location that is not held it comes to nothing. -/

namespace EdgeRoutes

open Location

theorem dot_not_mem_toString (n : Nat) : '.' ∉ (toString n).toList := by
  rw [Nat.toString_eq_repr, Nat.toList_repr]
  intro hmem
  have hdigit := Nat.isDigit_of_mem_toDigits (by decide) (by decide) hmem
  cases hdigit

theorem toList_toString_injective {m n : Nat} (h : (toString m).toList = (toString n).toList) : m = n := by
  simp only [Nat.toString_eq_repr, Nat.toList_repr] at h
  have hvalue := congrArg (fun digits => Nat.ofDigitChars 10 digits 0) h
  simpa using hvalue

/-- The text of a route tells the route. -/
theorem Route.id_injective {r r' : Route} (h : r.id = r'.id) : r = r' := by
  obtain ⟨server, position⟩ := r
  obtain ⟨server', position'⟩ := r'
  have hlist := congrArg String.toList h
  have hdot : ".".toList = ['.'] := rfl
  simp only [Route.id, String.toList_append, hdot, List.append_assoc, List.singleton_append] at hlist
  rw [List.append_cons_inj_of_notMem (dot_not_mem_toString server) (dot_not_mem_toString position)] at hlist
  obtain ⟨hserver, -, hposition⟩ := hlist
  obtain rfl : server = server' := toList_toString_injective hserver
  obtain rfl : position = position' := toList_toString_injective hposition
  rfl

namespace Location

theorem getElem?_place (locations : List Location) (i : Nat) :
    (place locations)[i]? = locations[i]?.map fun l => ⟨i + 1, l⟩ := by
  rw [place, List.getElem?_map, List.getElem?_zipIdx, Option.map_map, Nat.add_comm i 1]
  rfl

theorem mem_place {locations : List Location} {p : Placed} :
    p ∈ place locations ↔ ∃ j, locations[j]? = some p.location ∧ p.position = j + 1 := by
  rw [List.mem_iff_getElem?]
  simp only [getElem?_place, Option.map_eq_some_iff]
  constructor
  · rintro ⟨j, l, hl, rfl⟩
    exact ⟨j, hl, rfl⟩
  · rintro ⟨j, hl, hposition⟩
    exact ⟨j, p.location, hl, by rw [← hposition]⟩

theorem nodup_place (locations : List Location) : ((place locations).map Placed.position).Nodup := by
  have hpositions : (place locations).map Placed.position = List.range' 1 locations.length := by
    rw [place, List.map_map]
    exact List.zipIdx_map_snd 1 locations
  rw [hpositions]
  exact List.nodup_range'

end Location

namespace Config

variable {c : Config}

def HasAt (c : Config) (r : Route) (l : Location) : Prop :=
  ∃ i j server, c.servers[i]? = some server ∧ server.locations[j]? = some l ∧ r = ⟨i + 1, j + 1⟩

/-- At most one location stands at a route. -/
theorem HasAt.unique {r : Route} {l l' : Location} (h : c.HasAt r l) (h' : c.HasAt r l') : l = l' := by
  obtain ⟨i, j, server, hserver, hl, rfl⟩ := h
  obtain ⟨i', j', server', hserver', hl', hroute⟩ := h'
  obtain ⟨hi, hj⟩ := Route.mk.inj hroute
  obtain rfl : i = i' := by omega
  obtain rfl : j = j' := by omega
  obtain rfl : server = server' := Option.some.inj (hserver.symm.trans hserver')
  exact Option.some.inj (hl.symm.trans hl')

theorem mem_numbered {index : Nat} {server : Server} :
    (index, server) ∈ c.numbered ↔ ∃ i, c.servers[i]? = some server ∧ index = i + 1 := by
  simp only [numbered, List.mem_map, Prod.exists, List.mk_mem_zipIdx_iff_le_and_getElem?_sub, Prod.mk.injEq]
  constructor
  · rintro ⟨server, index, ⟨hle, hserver⟩, rfl, rfl⟩
    exact ⟨index - 1, hserver, by omega⟩
  · rintro ⟨i, hserver, rfl⟩
    exact ⟨server, i + 1, ⟨by omega, hserver⟩, rfl, rfl⟩

theorem map_fst_numbered (c : Config) : c.numbered.map Prod.fst = List.range' 1 c.servers.length := by
  rw [numbered, List.map_map]
  exact List.zipIdx_map_snd 1 c.servers

theorem nodup_numbered (c : Config) : (c.numbered.map Prod.fst).Nodup := by
  rw [map_fst_numbered]
  exact List.nodup_range'

end Config

theorem Server.getElem?_held (s : Server) (index j : Nat) :
    (s.held index)[j]? = s.locations[j]?.map fun l => ⟨index, j + 1, l⟩ := by
  rw [held, List.getElem?_map, getElem?_place, Option.map_map]
  rfl

theorem Config.getElem?_held (c : Config) (i : Nat) : c.held[i]? = c.servers[i]?.map fun s => s.held (i + 1) := by
  rw [held, numbered, List.map_map, List.getElem?_map, List.getElem?_zipIdx, Option.map_map, Nat.add_comm 1 i]
  rfl

/-- The locations of a configuration stand in it as they are numbered. -/
theorem Config.held_eq_some_iff {c : Config} {i j : Nat} {h : Held} :
    (∃ held, c.held[i]? = some held ∧ held[j]? = some h) ↔
      c.HasAt ⟨i + 1, j + 1⟩ h.location ∧ h.site.route = ⟨i + 1, j + 1⟩ := by
  constructor
  · rintro ⟨held, hheld, hh⟩
    rw [getElem?_held] at hheld
    obtain ⟨server, hserver, rfl⟩ := Option.map_eq_some_iff.mp hheld
    rw [Server.getElem?_held] at hh
    obtain ⟨l, hl, rfl⟩ := Option.map_eq_some_iff.mp hh
    exact ⟨⟨i, j, server, hserver, hl, rfl⟩, rfl⟩
  · rintro ⟨⟨i', j', server, hserver, hl, hroute⟩, hplace⟩
    obtain ⟨hi, hj⟩ := Route.mk.inj hroute
    obtain rfl := Nat.add_right_cancel hi
    obtain rfl := Nat.add_right_cancel hj
    obtain ⟨index, position, l⟩ := h
    obtain ⟨rfl, rfl⟩ := Route.mk.inj hplace
    exact ⟨server.held (i + 1), by rw [getElem?_held, hserver]; rfl, by rw [Server.getElem?_held, hl]; rfl⟩

namespace Held

theorem isSame_iff {a b : Held} : a.isSame b = true ↔ a.server = b.server ∧ a.position = b.position := by
  rw [isSame, Bool.and_eq_true, beq_iff_eq, beq_iff_eq]

theorem route_eq_of_isSame {a b : Held} (h : a.isSame b = true) : a.site.route = b.site.route := by
  obtain ⟨hserver, hposition⟩ := isSame_iff.mp h
  rw [site, site, hserver, hposition]

theorem mem_of_routeIn? {h : Held} {servers : List (List Held)} {r : Route} (hfound : h.routeIn? servers = some r) :
    ∃ i j held candidate, servers[i]? = some held ∧ held[j]? = some candidate ∧ candidate.isSame h = true ∧
      r = ⟨i + 1, j + 1⟩ := by
  obtain ⟨⟨held, server⟩, hserver, hfound⟩ := List.exists_of_findSome?_eq_some hfound
  obtain ⟨⟨candidate, position⟩, hposition, hfound⟩ := List.exists_of_findSome?_eq_some hfound
  obtain ⟨hserver_le, hheld⟩ := List.mk_mem_zipIdx_iff_le_and_getElem?_sub.mp hserver
  obtain ⟨hposition_le, hcandidate⟩ := List.mk_mem_zipIdx_iff_le_and_getElem?_sub.mp hposition
  obtain ⟨hsame, hroute⟩ := Option.ite_none_right_eq_some.mp hfound
  refine ⟨server - 1, position - 1, held, candidate, hheld, hcandidate, hsame, ?_⟩
  rw [Nat.sub_add_cancel hserver_le, Nat.sub_add_cancel hposition_le]
  exact (Option.some.inj hroute).symm

theorem exists_routeIn? {h candidate : Held} {servers : List (List Held)} {held : List Held} {i j : Nat}
    (hheld : servers[i]? = some held) (hcandidate : held[j]? = some candidate) (hsame : candidate.isSame h = true) :
    ∃ r, h.routeIn? servers = some r := by
  rw [← Option.isSome_iff_exists, routeIn?, List.findSome?_isSome_iff]
  refine ⟨(held, 1 + i), List.mk_mem_zipIdx_iff_le_and_getElem?_sub.mpr ⟨by omega, ?_⟩, ?_⟩
  · rw [Nat.add_sub_cancel_left]
    exact hheld
  rw [List.findSome?_isSome_iff]
  refine ⟨(candidate, 1 + j), List.mk_mem_zipIdx_iff_le_and_getElem?_sub.mpr ⟨by omega, ?_⟩, ?_⟩
  · rw [Nat.add_sub_cancel_left]
    exact hcandidate
  · simp only [hsame, if_true, Option.isSome_some]

end Held

namespace Config

variable {c : Config} {h : Held}

/-- The configuration holds the location, which is told by where it is held. -/
def Holds (c : Config) (h : Held) : Prop := ∃ l, c.HasAt h.site.route l

/-- The search finds a location where it is held. -/
theorem routeOf_eq_ok_iff {r : Route} : c.routeOf h = .ok r ↔ r = h.site.route ∧ c.Holds h := by
  have hplaces : ∀ {route}, h.routeIn? c.held = some route → route = h.site.route ∧ c.Holds h := by
    intro route hroute
    obtain ⟨i, j, held, candidate, hheld, hcandidate, hsame, rfl⟩ := Held.mem_of_routeIn? hroute
    obtain ⟨hat, hplace⟩ := held_eq_some_iff.mp ⟨held, hheld, hcandidate⟩
    have hroute : h.site.route = ⟨i + 1, j + 1⟩ := by rw [← hplace, Held.route_eq_of_isSame hsame]
    exact ⟨hroute.symm, candidate.location, hroute ▸ hat⟩
  constructor
  · intro hfound
    rw [routeOf] at hfound
    cases hroute : h.routeIn? c.held with
    | none =>
        rw [hroute] at hfound
        cases hfound
    | some route =>
        rw [hroute] at hfound
        exact Except.ok.inj hfound ▸ hplaces hroute
  · rintro ⟨rfl, l, hat⟩
    obtain ⟨i, j, -, -, -, hplace⟩ := id hat
    obtain ⟨held, hheld, hcandidate⟩ := held_eq_some_iff (h := ⟨h.server, h.position, l⟩).mpr ⟨hplace ▸ hat, hplace⟩
    obtain ⟨route, hroute⟩ := Held.exists_routeIn? (h := h) hheld hcandidate (Held.isSame_iff.mpr ⟨rfl, rfl⟩)
    rw [routeOf, hroute, (hplaces hroute).1]

/-- A location that is not held has no route, and the fault names it. -/
theorem routeOf_eq_error_iff {fault : Fault} :
    c.routeOf h = .error fault ↔ fault = .foreignLocation h.location.label ∧ ¬ c.Holds h := by
  constructor
  · intro hfault
    have hnot : ¬ c.Holds h := by
      intro hholds
      rw [routeOf_eq_ok_iff.mpr ⟨rfl, hholds⟩] at hfault
      cases hfault
    rw [routeOf] at hfault
    cases hroute : h.routeIn? c.held with
    | some route =>
        rw [hroute] at hfault
        cases hfault
    | none =>
        rw [hroute] at hfault
        exact ⟨(Except.error.inj hfault).symm, hnot⟩
  · rintro ⟨rfl, hnot⟩
    rw [routeOf]
    cases hroute : h.routeIn? c.held with
    | none => rfl
    | some route => exact absurd (routeOf_eq_ok_iff.mp (by rw [routeOf, hroute])).2 hnot

theorem routeId_eq_ok_iff {id : String} : c.routeId h = .ok id ↔ id = h.site.route.id ∧ c.Holds h := by
  simp only [routeId, map_eq_ok_iff, routeOf_eq_ok_iff]
  constructor
  · rintro ⟨r, ⟨rfl, hholds⟩, rfl⟩
    exact ⟨rfl, hholds⟩
  · rintro ⟨rfl, hholds⟩
    exact ⟨_, ⟨rfl, hholds⟩, rfl⟩

theorem routeId_of_not_holds (hnot : ¬ c.Holds h) : c.routeId h = .error (.foreignLocation h.location.label) := by
  rw [routeId, routeOf_eq_error_iff.mpr ⟨rfl, hnot⟩]
  rfl

/-- The ids of all locations are found one by one, in the order of their declaration. -/
theorem mapM_routeId (c : Config) : c.held.flatten.mapM c.routeId = .ok (c.routes.map Route.id) := by
  have hroutes : c.routes = c.held.flatten.map fun h => h.site.route := by
    simp only [routes, held, Server.held, ← List.flatMap_def, List.map_flatMap, List.map_map]
    rfl
  rw [hroutes, List.map_map, mapM_eq_ok_iff, List.forall₂_map_right_iff, List.forall₂_same]
  intro h hh
  obtain ⟨held, hheld, hmem⟩ := List.mem_flatten.mp hh
  obtain ⟨i, hi⟩ := List.mem_iff_getElem?.mp hheld
  obtain ⟨j, hj⟩ := List.mem_iff_getElem?.mp hmem
  obtain ⟨hat, hplace⟩ := held_eq_some_iff.mp ⟨held, hi, hj⟩
  exact routeId_eq_ok_iff.mpr ⟨rfl, h.location, hplace ▸ hat⟩

def Has (c : Config) (h : Held) : Prop := c.HasAt h.site.route h.location

theorem Has.holds (hh : c.Has h) : c.Holds h := ⟨_, hh⟩

theorem Has.routeId (hh : c.Has h) : c.routeId h = .ok h.site.route.id := routeId_eq_ok_iff.mpr ⟨rfl, hh.holds⟩

/-- An id is that of one location only. -/
theorem Has.eq_of_routeId {h' : Held} {id : String} (hh : c.Has h) (hh' : c.Has h') (hid : c.routeId h = .ok id)
    (hid' : c.routeId h' = .ok id) : h = h' := by
  have hroute := Route.id_injective ((routeId_eq_ok_iff.mp hid).1.symm.trans (routeId_eq_ok_iff.mp hid').1)
  obtain ⟨server, position, l⟩ := h
  obtain ⟨server', position', l'⟩ := h'
  obtain ⟨rfl, rfl⟩ := Route.mk.inj hroute
  obtain rfl : l = l' := HasAt.unique hh hh'
  rfl

end Config

theorem Server.holds_of_mem_candidates {c : Config} {s : Nat × Server} (hs : s ∈ c.numbered) {h : Held}
    (hh : h ∈ s.2.candidates s.1) : c.Holds h := by
  obtain ⟨p, hp, rfl⟩ := List.mem_map.mp hh
  obtain ⟨i, hserver, hindex⟩ := Config.mem_numbered.mp hs
  have hplaced : p ∈ place s.2.locations := (List.mergeSort_perm _ _).mem_iff.mp (List.mem_filter.mp hp).1
  obtain ⟨j, hl, hposition⟩ := mem_place.mp hplaced
  exact ⟨p.location, i, j, s.2, hserver, hl, by rw [Held.site, hindex, hposition]⟩

namespace Generator

variable {g : Generator} {h : Held} {site : Site}

/-- Where a location has a route, it is the place where the configuration holds it. -/
theorem site_eq_of_ok (hsite : g.site h = .ok site) : site = h.site := by
  unfold Generator.site at hsite
  split at hsite
  · obtain ⟨route, hroute, rfl⟩ := map_eq_ok_iff.mp hsite
    rw [(Config.routeOf_eq_ok_iff.mp hroute).1, Held.site]
  · exact (Except.ok.inj hsite).symm

theorem site_of_holds (hholds : g.config.Holds h) : g.site h = .ok h.site := by
  unfold Generator.site
  split
  · rw [Config.routeOf_eq_ok_iff.mpr ⟨rfl, hholds⟩]
    rfl
  · rfl

end Generator

end EdgeRoutes
