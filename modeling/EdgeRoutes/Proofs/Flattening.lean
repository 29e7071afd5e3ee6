import EdgeRoutes.Model.Build
import EdgeRoutes.Proofs.Results
import Mathlib.Data.List.Lex
import Mathlib.Tactic.SplitIfs

/-! Nested locations. A server has one flat list of locations: every location of its block that is reached through
locations with a path, an outer one before those nested in it. Each takes its path, its line and its directives from its
own node alone. -/

namespace EdgeRoutes

theorem Modifier.ofToken?_eq_some_iff (s : String) (m : Modifier) : ofToken? s = some m ↔ s = m.token := by
  constructor
  · intro h
    have htoken := List.find?_some h
    exact (beq_iff_eq.mp htoken).symm
  · rintro rfl
    cases m <;> rfl

namespace Location

/-- What the arguments of a location say: a path, or a modifier with a path after it. Further arguments do not count. -/
inductive Heading : List String → Option Modifier → String → Prop where
  | plain {path : String} (rest : List String) (h : ∀ m : Modifier, path ≠ m.token) : Heading (path :: rest) none path
  | modified (m : Modifier) (path : String) (rest : List String) : Heading (m.token :: path :: rest) (some m) path

/-- The heading of a location, read from its arguments. -/
theorem target?_eq_some_iff {args : List String} {modifier : Option Modifier} {path : String} :
    target? args = some (modifier, path) ↔ Heading args modifier path := by
  constructor
  · intro h
    cases args with
    | nil => cases h
    | cons first rest =>
        rw [target?] at h
        cases htoken : Modifier.ofToken? first with
        | none =>
            rw [htoken] at h
            cases h
            refine Heading.plain rest fun m hm => ?_
            rw [(Modifier.ofToken?_eq_some_iff _ m).mpr hm] at htoken
            cases htoken
        | some m =>
            rw [htoken] at h
            obtain rfl := (Modifier.ofToken?_eq_some_iff _ m).mp htoken
            cases rest with
            | nil => cases h
            | cons path' rest =>
                cases h
                exact Heading.modified m path rest
  · rintro (⟨rest, hplain⟩ | ⟨m, path, rest⟩)
    · have htoken : Modifier.ofToken? path = none := by
        cases h : Modifier.ofToken? path with
        | none => rfl
        | some m => exact absurd ((Modifier.ofToken?_eq_some_iff _ m).mp h) (hplain m)
      rw [target?, htoken]
    · rw [target?, (Modifier.ofToken?_eq_some_iff _ m).mpr rfl]
      rfl

end Location

open Location

namespace Node

/-- A location whose arguments give a path. -/
def IsPathed (n : Node) : Prop :=
  n.name = "location" ∧ ∃ modifier path, Heading n.args modifier path

/-- The address leads from the directives of a block to a location: through locations with a path only, and to one. The
numbers of an address are places among the directives of a block, counted from zero. -/
inductive Nested : List Node → List Nat → Node → Prop where
  | here {ns : List Node} {i : Nat} {n : Node} (hn : ns[i]? = some n) (hpathed : n.IsPathed) : Nested ns [i] n
  | inside {ns : List Node} {i : Nat} {n m : Node} {address : List Nat} (hn : ns[i]? = some n) (hpathed : n.IsPathed)
      (h : Nested n.children address m) : Nested ns (i :: address) m

/-- The directives of a block that are neither locations nor blocks themselves. -/
def ownDirectives (body : List Node) : List Directive :=
  (body.filter fun child => child.name != "location" && !child.isBlock).map head

mutual

/-- The location and those nested in it, with their addresses from there. -/
def preorder : Node → List (List Nat × Node)
  | .simple head => if (target? head.args).isSome then [([], .simple head)] else []
  | .block head body => if (target? head.args).isSome then ([], .block head body) :: preorderAll 0 body else []

/-- The locations among the directives of a block and those nested in them, the directives being counted from `i`. -/
def preorderAll (i : Nat) : List Node → List (List Nat × Node)
  | [] => []
  | child :: rest =>
    (if child.name == "location" then child.preorder.map fun x => (i :: x.1, x.2) else []) ++ preorderAll (i + 1) rest

end

theorem ownDirectives_of_location {child : Node} (h : child.name = "location") (rest : List Node) :
    ownDirectives (child :: rest) = ownDirectives rest := by
  rw [ownDirectives, List.filter_cons_of_neg (by simp [h])]
  rfl

theorem ownDirectives_of_block {child : Node} (h : child.isBlock = true) (rest : List Node) :
    ownDirectives (child :: rest) = ownDirectives rest := by
  rw [ownDirectives, List.filter_cons_of_neg (by simp [h])]
  rfl

theorem ownDirectives_of_simple {child : Node} (hname : child.name ≠ "location") (h : child.isBlock = false)
    (rest : List Node) : ownDirectives (child :: rest) = child.head :: ownDirectives rest := by
  rw [ownDirectives, List.filter_cons_of_pos (by simp [hname, h])]
  rfl

theorem preorderAll_of_location {child : Node} (h : child.name = "location") (i : Nat) (rest : List Node) :
    preorderAll i (child :: rest) = (child.preorder.map fun x => (i :: x.1, x.2)) ++ preorderAll (i + 1) rest := by
  rw [preorderAll, if_pos (beq_iff_eq.mpr h)]

theorem preorderAll_of_other {child : Node} (h : child.name ≠ "location") (i : Nat) (rest : List Node) :
    preorderAll i (child :: rest) = preorderAll (i + 1) rest := by
  rw [preorderAll, if_neg (by simpa using h), List.nil_append]

end Node

open Node

/-- What directives come to one after the other, put into those already read. -/
def Directives.readAll (read : Directives) : List Directive → Except Fault Directives
  | [] => .ok read
  | d :: ds => (read.apply d).result.bind fun read => read.readAll ds

/-- The location says what its node says. Its directives come from those directly in the block of the node, in order,
and from nothing else. -/
structure Location.ConvertedFrom (n : Node) (l : Location) : Prop where
  heading : Heading n.args l.modifier l.path
  line : l.line = n.line
  directives : Directives.readAll {} (ownDirectives n.children) = .ok l.directives

namespace Location

mutual

/-- The node of a location gives the locations in and under it. -/
theorem convertedFrom_of_ofNode (n : Node) {found : List Location} (h : (ofNode n).result = .ok found) :
    List.Forall₂ (fun x l => ConvertedFrom x.2 l) n.preorder found := by
  cases n with
  | simple head =>
      rw [ofNode] at h
      rw [preorder]
      cases htarget : target? head.args with
      | none =>
          rw [htarget, Logged.result_bind] at h
          obtain ⟨-, -, h⟩ := bind_eq_ok_iff.mp h
          cases h
          exact List.Forall₂.nil
      | some target =>
          rw [htarget] at h
          cases h
          exact List.Forall₂.cons ⟨target?_eq_some_iff.mp htarget, rfl, rfl⟩ List.Forall₂.nil
  | block head body =>
      rw [ofNode] at h
      rw [preorder]
      cases htarget : target? head.args with
      | none =>
          rw [htarget, Logged.result_bind] at h
          obtain ⟨-, -, h⟩ := bind_eq_ok_iff.mp h
          cases h
          exact List.Forall₂.nil
      | some target =>
          rw [htarget, Logged.result_bind] at h
          obtain ⟨⟨directives, nested⟩, hinside, h⟩ := bind_eq_ok_iff.mp h
          obtain ⟨hdirectives, hnested⟩ := convertedFrom_of_inside target.2 {} 0 body hinside
          cases h
          exact List.Forall₂.cons ⟨target?_eq_some_iff.mp htarget, rfl, hdirectives⟩ hnested

/-- Inside a location, plain directives are its own, and the locations are those in and under its block. -/
theorem convertedFrom_of_inside (path : String) (read : Directives) (i : Nat) (body : List Node)
    {directives : Directives} {found : List Location} (h : (inside path read body).result = .ok (directives, found)) :
    read.readAll (ownDirectives body) = .ok directives ∧
      List.Forall₂ (fun x l => ConvertedFrom x.2 l) (preorderAll i body) found := by
  cases body with
  | nil =>
      rw [inside] at h
      cases h
      exact ⟨rfl, List.Forall₂.nil⟩
  | cons child rest =>
      rw [inside] at h
      split_ifs at h with hname hblock
      · have hname := beq_iff_eq.mp hname
        rw [Logged.result_bind] at h
        obtain ⟨nested, hnested, h⟩ := bind_eq_ok_iff.mp h
        rw [Logged.result_bind] at h
        obtain ⟨⟨directives', more⟩, hrest, h⟩ := bind_eq_ok_iff.mp h
        obtain ⟨hdirectives, hmore⟩ := convertedFrom_of_inside path read (i + 1) rest hrest
        cases h
        rw [ownDirectives_of_location hname, preorderAll_of_location hname]
        refine ⟨hdirectives, List.rel_append ?_ hmore⟩
        rw [List.forall₂_map_left_iff]
        exact convertedFrom_of_ofNode child hnested
      · have hname : child.name ≠ "location" := by simpa using hname
        rw [Logged.result_bind] at h
        obtain ⟨-, -, h⟩ := bind_eq_ok_iff.mp h
        rw [ownDirectives_of_block hblock, preorderAll_of_other hname]
        exact convertedFrom_of_inside path read (i + 1) rest h
      · have hname : child.name ≠ "location" := by simpa using hname
        have hblock : child.isBlock = false := by simpa using hblock
        rw [Logged.result_bind] at h
        obtain ⟨read', hread, h⟩ := bind_eq_ok_iff.mp h
        obtain ⟨hdirectives, hmore⟩ := convertedFrom_of_inside path read' (i + 1) rest h
        rw [ownDirectives_of_simple hname hblock, preorderAll_of_other hname]
        exact ⟨bind_eq_ok_iff.mpr ⟨read', hread, hdirectives⟩, hmore⟩

end

end Location

namespace Server

/-- A location among the directives of a server adds what its node gives. -/
theorem locations_of_apply_location {s s' : Server} {child : Node} (hname : child.name = "location")
    (h : (s.apply child).result = .ok s') :
    ∃ added, (ofNode child).result = .ok added ∧ s'.locations = s.locations ++ added := by
  have hhead : child.head.name = "location" := hname
  simp only [apply, hhead] at h
  obtain ⟨added, hadded, h⟩ := bind_eq_ok_iff.mp ((Logged.result_bind _ _).symm.trans h)
  cases h
  exact ⟨added, hadded, rfl⟩

/-- No other directive of a server touches its locations. -/
theorem locations_of_apply_other {s s' : Server} {child : Node} (hname : child.name ≠ "location")
    (h : (s.apply child).result = .ok s') : s'.locations = s.locations := by
  have hhead : ¬ (child.head.name == "location") = true := mt beq_iff_eq.mp hname
  simp only [apply, if_neg hhead] at h
  split_ifs at h
  · obtain ⟨listen, -, h⟩ := bind_eq_ok_iff.mp ((Logged.result_bind _ _).symm.trans h)
    cases h
    rfl
  · cases h
    rfl
  · obtain ⟨-, -, h⟩ := bind_eq_ok_iff.mp ((Logged.result_bind _ _).symm.trans h)
    cases h
    rfl
  · cases h
    rfl
  · obtain ⟨-, -, h⟩ := bind_eq_ok_iff.mp ((Logged.result_bind _ _).symm.trans h)
    cases h
    rfl
  · obtain ⟨value, -, h⟩ := bind_eq_ok_iff.mp ((Logged.result_bind _ _).symm.trans h)
    cases h
    rfl

/-- The directives of a server add the locations in and under its block to those it has. -/
theorem locations_of_applyAll {s s' : Server} (i : Nat) {body : List Node} (h : (s.applyAll body).result = .ok s') :
    ∃ added, s'.locations = s.locations ++ added ∧
      List.Forall₂ (fun x l => ConvertedFrom x.2 l) (preorderAll i body) added := by
  induction body generalizing s i with
  | nil =>
      cases h
      exact ⟨[], (List.append_nil _).symm, List.Forall₂.nil⟩
  | cons child rest ih =>
      rw [applyAll, Logged.result_bind] at h
      obtain ⟨t, ht, h⟩ := bind_eq_ok_iff.mp h
      obtain ⟨more, hmore, hrest⟩ := ih (i + 1) h
      by_cases hname : child.name = "location"
      · obtain ⟨found, hfound, hlocations⟩ := locations_of_apply_location hname ht
        rw [preorderAll_of_location hname]
        refine ⟨found ++ more, by rw [hmore, hlocations, List.append_assoc], List.rel_append ?_ hrest⟩
        rw [List.forall₂_map_left_iff]
        exact convertedFrom_of_ofNode child hfound
      · rw [preorderAll_of_other hname]
        exact ⟨more, by rw [hmore, locations_of_apply_other hname ht], hrest⟩

end Server

namespace Node

theorem isPathed_iff (n : Node) : n.IsPathed ↔ n.name = "location" ∧ (target? n.args).isSome = true := by
  simp only [IsPathed, Option.isSome_iff_exists, Prod.exists, target?_eq_some_iff]

/-- No address is empty. -/
theorem nested_iff_exists_cons {ns : List Node} {address : List Nat} {m : Node} :
    Nested ns address m ↔ ∃ i rest, address = i :: rest ∧ Nested ns (i :: rest) m := by
  constructor
  · intro h
    cases h with
    | here hn hpathed => exact ⟨_, _, rfl, Nested.here hn hpathed⟩
    | inside hn hpathed h => exact ⟨_, _, rfl, Nested.inside hn hpathed h⟩
  · rintro ⟨i, rest, rfl, h⟩
    exact h

theorem not_nested_nil {address : List Nat} {m : Node} : ¬ Nested [] address m := by
  rintro (⟨hn, -⟩ | ⟨hn, -, -⟩) <;> cases hn

theorem nested_cons_succ {n : Node} {ns : List Node} {i : Nat} {address : List Nat} {m : Node} :
    Nested (n :: ns) ((i + 1) :: address) m ↔ Nested ns (i :: address) m := by
  constructor
  · rintro (⟨hn, hpathed⟩ | ⟨hn, hpathed, h⟩)
    · exact Nested.here hn hpathed
    · exact Nested.inside hn hpathed h
  · rintro (⟨hn, hpathed⟩ | ⟨hn, hpathed, h⟩)
    · exact Nested.here hn hpathed
    · exact Nested.inside hn hpathed h

theorem nested_cons_zero {n : Node} {ns : List Node} {address : List Nat} {m : Node} :
    Nested (n :: ns) (0 :: address) m ↔ n.IsPathed ∧ (address = [] ∧ m = n ∨ Nested n.children address m) := by
  constructor
  · rintro (⟨hn, hpathed⟩ | ⟨hn, hpathed, h⟩)
    · cases hn
      exact ⟨hpathed, Or.inl ⟨rfl, rfl⟩⟩
    · cases hn
      exact ⟨hpathed, Or.inr h⟩
  · rintro ⟨hpathed, ⟨rfl, rfl⟩ | h⟩
    · exact Nested.here rfl hpathed
    · exact Nested.inside rfl hpathed h

mutual

/-- The nodes in preorder are the location itself and those nested in it. -/
theorem mem_preorder (n : Node) (address : List Nat) (m : Node) :
    (address, m) ∈ n.preorder ↔
      (target? n.args).isSome = true ∧ (address = [] ∧ m = n ∨ Nested n.children address m) := by
  cases n with
  | simple head =>
      change (address, m) ∈ preorder (simple head) ↔
        (target? head.args).isSome = true ∧ (address = [] ∧ m = simple head ∨ Nested [] address m)
      rw [preorder]
      split_ifs with htarget
      · simp [htarget, not_nested_nil]
      · simp [htarget]
  | block head body =>
      change (address, m) ∈ preorder (block head body) ↔
        (target? head.args).isSome = true ∧ (address = [] ∧ m = block head body ∨ Nested body address m)
      have hbody := mem_preorderAll 0 body address m
      simp only [Nat.zero_add, ← nested_iff_exists_cons] at hbody
      rw [preorder]
      split_ifs with htarget
      · simp [htarget, hbody]
      · simp [htarget]

/-- The nodes of several locations in preorder are those nested in them, with the number of the location in front. -/
theorem mem_preorderAll (k : Nat) (ns : List Node) (address : List Nat) (m : Node) :
    (address, m) ∈ preorderAll k ns ↔ ∃ i rest, address = (k + i) :: rest ∧ Nested ns (i :: rest) m := by
  cases ns with
  | nil => simp [preorderAll, not_nested_nil]
  | cons child others =>
      have hchild : (address, m) ∈ (if child.name == "location" then child.preorder.map fun x => (k :: x.1, x.2) else []) ↔
          ∃ rest, address = k :: rest ∧ Nested (child :: others) (0 :: rest) m := by
        by_cases hname : child.name = "location"
        · have hmem := fun rest => mem_preorder child rest m
          simp only [hname, beq_self_eq_true, if_true, List.mem_map, Prod.exists, Prod.mk.injEq, nested_cons_zero,
            isPathed_iff, true_and]
          constructor
          · rintro ⟨rest, m', hrest, rfl, rfl⟩
            exact ⟨rest, rfl, (hmem rest).mp hrest⟩
          · rintro ⟨rest, rfl, h⟩
            exact ⟨rest, m, (hmem rest).mpr h, rfl, rfl⟩
        · simp [hname, nested_cons_zero, IsPathed]
      rw [preorderAll, List.mem_append, hchild, mem_preorderAll (k + 1) others address m]
      constructor
      · rintro (⟨rest, haddress, h⟩ | ⟨i, rest, haddress, h⟩)
        · exact ⟨0, rest, haddress, h⟩
        · exact ⟨i + 1, rest, by rw [haddress, Nat.add_right_comm, Nat.add_assoc], nested_cons_succ.mpr h⟩
      · rintro ⟨- | i, rest, haddress, h⟩
        · exact Or.inl ⟨rest, haddress, h⟩
        · exact Or.inr ⟨i, rest, by rw [haddress, Nat.add_right_comm, Nat.add_assoc], nested_cons_succ.mp h⟩

end

mutual

theorem pairwise_preorder (n : Node) : (n.preorder.map Prod.fst).Pairwise (· < ·) := by
  cases n with
  | simple head =>
      rw [preorder]
      split_ifs
      · exact List.pairwise_singleton _ _
      · exact List.Pairwise.nil
  | block head body =>
      rw [preorder]
      split_ifs
      · rw [List.map_cons, List.pairwise_cons]
        refine ⟨fun address haddress => ?_, pairwise_preorderAll 0 body⟩
        obtain ⟨⟨_, m⟩, hm, rfl⟩ := List.mem_map.mp haddress
        obtain ⟨i, rest, rfl, -⟩ := (mem_preorderAll 0 body _ m).mp hm
        exact List.nil_lt_cons _ _
      · exact List.Pairwise.nil

/-- Addresses grow in preorder. -/
theorem pairwise_preorderAll (k : Nat) (ns : List Node) : ((preorderAll k ns).map Prod.fst).Pairwise (· < ·) := by
  cases ns with
  | nil => exact List.Pairwise.nil
  | cons child others =>
      have hothers := pairwise_preorderAll (k + 1) others
      by_cases hname : child.name = "location"
      · rw [preorderAll_of_location hname, List.map_append, List.map_map, List.pairwise_append]
        refine ⟨?_, hothers, ?_⟩
        · have hchild := pairwise_preorder child
          rw [List.pairwise_map] at hchild ⊢
          exact hchild.imp fun h => List.cons_lt_cons_self.mpr h
        · intro a ha b hb
          obtain ⟨x, -, rfl⟩ := List.mem_map.mp ha
          obtain ⟨⟨_, m⟩, hm, rfl⟩ := List.mem_map.mp hb
          obtain ⟨i, rest, rfl, -⟩ := (mem_preorderAll (k + 1) others _ m).mp hm
          exact List.cons_lt_cons_iff.mpr (Or.inl (by omega))
      · rw [preorderAll_of_other hname]
        exact hothers

end

end Node

/-- The locations of a server are those in and under its block that are reached through locations with a path, in the
order of their addresses, which puts an outer location before those nested in it and otherwise keeps the order of the
text. Each has the path, the modifier, the line and the directives that its own node gives. -/
theorem locations_in_preorder (head : Directive) (body : List Node) {s : Server}
    (h : (Server.ofBlock head body).result = .ok s) :
    ∃ found : List (List Nat × Node),
      (found.map Prod.fst).Pairwise (· < ·) ∧
        (∀ address n, (address, n) ∈ found ↔ Nested body address n) ∧
        List.Forall₂ (fun x l => ConvertedFrom x.2 l) found s.locations := by
  obtain ⟨added, hlocations, hadded⟩ := Server.locations_of_applyAll 0 h
  refine ⟨preorderAll 0 body, pairwise_preorderAll 0 body, fun address n => ?_, ?_⟩
  · rw [mem_preorderAll, nested_iff_exists_cons]
    simp only [Nat.zero_add]
  · rw [hlocations]
    exact hadded

/-- A location with another one in it, and with two more that do not count: one in a block that is no location, and one
in a location without a path. After it stands a location without a block. -/
def nestedBody : List Node :=
  [.block ⟨"location", ["/a/"], some (.number 2)⟩
    [.simple ⟨"root", ["/srv"], none⟩,
      .block ⟨"location", ["=", "/a/b"], some (.number 4)⟩ [.simple ⟨"return", ["204"], none⟩],
      .block ⟨"if", ["$x"], none⟩ [.block ⟨"location", ["/lost"], none⟩ []],
      .block ⟨"location", ["~"], none⟩ [.block ⟨"location", ["/lost"], none⟩ []],
      .simple ⟨"expires", ["1h"], none⟩],
    .simple ⟨"location", ["/c"], none⟩]

theorem locations_in_preorder_nested :
    ∃ (s : Server) (found : List (List Nat × Node)),
      (Server.ofBlock ⟨"server", [], none⟩ nestedBody).result = .ok s ∧
        s.locations.map Location.label = ["/a/", "= /a/b", "/c"] ∧
        (∀ address n, (address, n) ∈ found ↔ Nested nestedBody address n) ∧
        List.Forall₂ (fun x l => ConvertedFrom x.2 l) found s.locations := by
  have hresult : ∃ s : Server, (Server.ofBlock ⟨"server", [], none⟩ nestedBody).result = .ok s ∧
      s.locations.map Location.label = ["/a/", "= /a/b", "/c"] := ⟨_, rfl, by decide +kernel⟩
  obtain ⟨s, hs, hlabels⟩ := hresult
  obtain ⟨found, -, hfound, hlocations⟩ := locations_in_preorder _ _ hs
  exact ⟨s, found, hs, hlabels, hfound, hlocations⟩

end EdgeRoutes
