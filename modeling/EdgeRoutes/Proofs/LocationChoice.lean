import EdgeRoutes.Proofs.Execution
import EdgeRoutes.Proofs.LocationBody
import Mathlib.Data.List.Sort

/-! Which location answers a request. Locations are tried in a sorted order, and the first one whose condition holds
is chosen. The order puts exact paths first and longer paths before shorter ones, so the choice can be told from the
declarations: the location for exactly the path of the request, or else a matching one with the longest path. -/

namespace EdgeRoutes

open Pattern Location

namespace Location

def isExactly (path : String) (l : Location) : Bool :=
  l.modifier == some .exact && l.path == path

def answers (e : Engine) (dialect : Dialect) (path : String) (l : Location) : Bool :=
  match l.condition dialect with
  | .ok c => c.holds e path
  | .error _ => false

theorem precedes_iff (a b : Location) :
    precedes a b = true ↔ a.rank < b.rank ∨ a.rank = b.rank ∧ b.path.length ≤ a.path.length := by
  simp [precedes]

theorem precedes_trans (a b c : Location) (hab : precedes a b = true) (hbc : precedes b c = true) :
    precedes a c = true := by
  rw [precedes_iff] at *
  omega

theorem precedes_total (a b : Location) : (precedes a b || precedes b a) = true := by
  rw [Bool.or_eq_true, precedes_iff, precedes_iff]
  omega

theorem rank_eq_zero_iff (l : Location) : l.rank = 0 ↔ l.modifier = some .exact := by
  unfold rank
  split_ifs with h <;> simp [h]

theorem isExactly_iff (path : String) (l : Location) :
    l.isExactly path = true ↔ l.modifier = some .exact ∧ l.path = path := by
  simp [isExactly]

theorem answers_of_exact {e : Engine} {dialect : Dialect} {path : String} {l : Location}
    (h : l.modifier = some .exact) : l.answers e dialect path = (path == l.path) := by
  simp [answers, condition, translation?, isRegex, h, Modifier.isRegex, plainCondition,
    Condition.holds, Test.holds, bind, Except.bind, pure, Except.pure]

/-- An exact location answers for its own path and no other. -/
theorem answers_iff_isExactly {e : Engine} {dialect : Dialect} {path : String} {l : Location}
    (h : l.rank = 0) : l.answers e dialect path = true ↔ l.isExactly path = true := by
  rw [rank_eq_zero_iff] at h
  rw [answers_of_exact h, beq_iff_eq, isExactly_iff]
  exact ⟨fun hpath => ⟨h, hpath.symm⟩, fun hexact => hexact.2.symm⟩

theorem rank_of_isExactly {path : String} {l : Location} (h : l.isExactly path = true) : l.rank = 0 :=
  (rank_eq_zero_iff l).mpr ((isExactly_iff path l).mp h).1

theorem rank_le_one (l : Location) : l.rank ≤ 1 := by
  unfold rank
  split_ifs <;> omega

/-- The path of the location is compared as text: as a whole, or as the beginning of a path. -/
def IsTextual (l : Location) : Prop :=
  l.modifier = some .exact ∨ l.modifier = some .priority ∨
    l.modifier = none ∧ Text.endsWith l.path '/' = true

instance (l : Location) : Decidable l.IsTextual := inferInstanceAs (Decidable (_ ∨ _))

/-- The location is not exact, and the path starts with its path. -/
def isPrefixOf (path : String) (l : Location) : Bool :=
  l.modifier != some .exact && Text.startsWith path l.path

theorem answers_of_isTextual {e : Engine} {dialect : Dialect} {path : String} {l : Location}
    (h : l.IsTextual) : l.answers e dialect path = (l.isExactly path || l.isPrefixOf path) := by
  rcases h with hexact | hpriority | ⟨hplain, hslash⟩
  · simp [answers_of_exact hexact, isExactly, isPrefixOf, hexact, eq_comm, beq_eq_decide]
  · have hne : (some Modifier.priority == some Modifier.exact) = false := rfl
    simp only [answers, condition, translation?, isRegex, hpriority, Option.any_some, Modifier.isRegex,
      plainCondition, Condition.holds, List.any_cons, List.any_nil, Bool.or_false, Test.holds, bind,
      Except.bind, pure, Except.pure, isExactly, isPrefixOf, bne, hne, Bool.false_and, Bool.false_or,
      Bool.not_false, Bool.true_and, Bool.false_eq_true, if_false]
  · simp [answers, condition, translation?, isRegex, hplain, plainCondition, hslash,
      Condition.holds, Test.holds, bind, Except.bind, pure, Except.pure, isExactly, isPrefixOf]

/-- `a` is tried before `b`, or could be. -/
def Placed.Before (a b : Placed) : Prop :=
  precedes a.location b.location = true ∧
    (precedes b.location a.location = true → a.position ≤ b.position)

theorem position_of_getElem? {locations : List Location} {i : Nat} {p : Placed}
    (h : (place locations)[i]? = some p) : p.position = i + 1 := by
  rw [getElem?_place] at h
  obtain ⟨l, -, hl⟩ := Option.map_eq_some_iff.mp h
  rw [← hl]

/-- Locations that compare equal keep the order of their declaration. -/
theorem pairwise_sorted (locations : List Location) :
    (sorted (place locations)).Pairwise Placed.Before := by
  rw [sorted, ← List.mergeSort_zipIdx, List.pairwise_map]
  have hsorted := List.pairwise_mergeSort
    (List.zipIdxLE_trans fun a b c : Placed => precedes_trans a.location b.location c.location)
    (List.zipIdxLE_total fun a b : Placed => precedes_total a.location b.location)
    (place locations).zipIdx
  refine hsorted.imp_of_mem fun {a b} ha hb hab => ?_
  have hpa := position_of_getElem? (List.mem_zipIdx_iff_getElem?.mp (List.mem_mergeSort.mp ha))
  have hpb := position_of_getElem? (List.mem_zipIdx_iff_getElem?.mp (List.mem_mergeSort.mp hb))
  unfold List.zipIdxLE at hab
  split_ifs at hab with h1 h2
  · refine ⟨h1, fun _ => ?_⟩
    have hle := of_decide_eq_true hab
    omega
  · exact ⟨h1, fun h => absurd h h2⟩

theorem eq_of_position_eq {locations : List Location} {p q : Placed} (hp : p ∈ place locations)
    (hq : q ∈ place locations) (h : p.position = q.position) : p = q := by
  obtain ⟨i, hi⟩ := List.mem_iff_getElem?.mp hp
  obtain ⟨j, hj⟩ := List.mem_iff_getElem?.mp hq
  have hpi := position_of_getElem? hi
  have hqj := position_of_getElem? hj
  obtain rfl : i = j := by omega
  exact Option.some.inj (hi.symm.trans hj)

end Location

namespace Server

/-- The locations that a path can reach, in the order of their declaration. -/
def addressable (s : Server) : List Placed :=
  (place s.locations).filter (!·.location.isNamed)

theorem perm_tried (s : Server) : s.tried.Perm s.addressable :=
  (List.mergeSort_perm _ _).filter _

theorem pairwise_tried (s : Server) : s.tried.Pairwise Placed.Before :=
  (pairwise_sorted s.locations).filter _

theorem mem_place_of_mem_addressable {s : Server} {p : Placed} (h : p ∈ s.addressable) :
    p ∈ place s.locations := (List.mem_filter.mp h).1

/-- What the declarations say about the location that answers a request: it is the first one for exactly the path if
there is one, and otherwise the first of those with the longest path among all that answer. -/
structure Selects (e : Engine) (dialect : Dialect) (s : Server) (path : String) (p : Placed) : Prop where
  mem : p ∈ s.addressable
  answers : p.location.answers e dialect path = true
  exactly : ∀ q ∈ s.addressable, q.location.isExactly path = true →
    p.location.isExactly path = true ∧ p.position ≤ q.position
  longest : (∀ q ∈ s.addressable, q.location.isExactly path = false) →
    ∀ q ∈ s.addressable, q.location.answers e dialect path = true →
      q.location.path.length < p.location.path.length ∨
        q.location.path.length = p.location.path.length ∧ p.position ≤ q.position

variable {e : Engine} {dialect : Dialect} {s : Server} {path : String}

/-- At most one location fits. -/
theorem Selects.unique {p q : Placed} (hp : s.Selects e dialect path p) (hq : s.Selects e dialect path q) :
    p = q := by
  apply eq_of_position_eq (mem_place_of_mem_addressable hp.mem) (mem_place_of_mem_addressable hq.mem)
  by_cases hexact : ∃ r ∈ s.addressable, r.location.isExactly path = true
  · obtain ⟨r, hr, hrpath⟩ := hexact
    have hpq := (hp.exactly q hq.mem (hq.exactly r hr hrpath).1).2
    have hqp := (hq.exactly p hp.mem (hp.exactly r hr hrpath).1).2
    omega
  · have hnone : ∀ r ∈ s.addressable, r.location.isExactly path = false := fun r hr =>
      Bool.eq_false_iff.mpr fun h => hexact ⟨r, hr, h⟩
    have hpq := hp.longest hnone q hq.mem hq.answers
    have hqp := hq.longest hnone p hp.mem hp.answers
    omega

/-- Of the locations that answer, the one that is found comes before all others. -/
theorem before_of_find? {p q : Placed} (hp : s.tried.find? (·.location.answers e dialect path) = some p)
    (hq : q ∈ s.addressable) (hanswers : q.location.answers e dialect path = true) :
    q = p ∨ p.Before q := by
  obtain ⟨-, before, after, hsplit, hbefore⟩ := List.find?_eq_some_iff_append.mp hp
  have hmem := s.perm_tried.mem_iff.mpr hq
  have hpairwise := s.pairwise_tried
  rw [hsplit] at hmem hpairwise
  rcases List.mem_append.mp hmem with hmem | hmem
  · have := hbefore q hmem
    simp [hanswers] at this
  · rcases List.mem_cons.mp hmem with heq | hmem
    · exact Or.inl heq
    · exact Or.inr ((List.pairwise_cons.mp (List.pairwise_append.mp hpairwise).2.1).1 q hmem)

/-- The location that the order of trying finds first is the one selected. -/
theorem selects_of_find? {p : Placed}
    (hp : s.tried.find? (·.location.answers e dialect path) = some p) : s.Selects e dialect path p where
  mem := s.perm_tried.mem_iff.mp (List.mem_of_find?_eq_some hp)
  answers := by simpa using List.find?_some hp
  exactly q hq hqpath := by
    have hqrank := rank_of_isExactly hqpath
    rcases before_of_find? hp hq ((answers_iff_isExactly hqrank).mpr hqpath) with rfl | hbefore
    · exact ⟨hqpath, le_refl _⟩
    · have hprank : p.location.rank = 0 := by
        have := (precedes_iff _ _).mp hbefore.1
        omega
      have hanswers : p.location.answers e dialect path = true := by simpa using List.find?_some hp
      have hppath := (answers_iff_isExactly hprank).mp hanswers
      have hlength : p.location.path = q.location.path :=
        ((isExactly_iff _ _).mp hppath).2.trans ((isExactly_iff _ _).mp hqpath).2.symm
      refine ⟨hppath, hbefore.2 ((precedes_iff _ _).mpr (Or.inr ⟨hqrank.trans hprank.symm, ?_⟩))⟩
      rw [hlength]
  longest hnone q hq hqanswers := by
    have hrank : ∀ r ∈ s.addressable, r.location.answers e dialect path = true → r.location.rank = 1 := by
      intro r hr hanswers
      have hle := rank_le_one r.location
      have hne : r.location.rank ≠ 0 := fun h0 => by
        have := (answers_iff_isExactly h0).mp hanswers
        rw [hnone r hr] at this
        cases this
      omega
    have hpmem := s.perm_tried.mem_iff.mp (List.mem_of_find?_eq_some hp)
    have hprank := hrank p hpmem (by simpa using List.find?_some hp)
    have hqrank := hrank q hq hqanswers
    rcases before_of_find? hp hq hqanswers with rfl | hbefore
    · exact Or.inr ⟨rfl, le_refl _⟩
    · have hle : q.location.path.length ≤ p.location.path.length := by
        have := (precedes_iff _ _).mp hbefore.1
        omega
      rcases Nat.lt_or_eq_of_le hle with hlt | heq
      · exact Or.inl hlt
      · exact Or.inr ⟨heq, hbefore.2 ((precedes_iff _ _).mpr (Or.inr ⟨by omega, by omega⟩))⟩

end Server

theorem BlockOf.holds_eq_answers {target : Target} {index : Nat} {p : Placed} {b : LocationBlock}
    (h : BlockOf target index p b) (e : Engine) (path : String) :
    p.location.answers e target.dialect path = b.condition.holds e path := by
  rw [answers, h.condition]

end EdgeRoutes
