import EdgeRoutes.Proofs.RewriteRules
import EdgeRoutes.Proofs.RoutePhases

/-! Routing a request. The blocks of the servers are gone through one after the other, and in each the blocks of its
locations. A block that is entered ends the request, so at most one is. It is the block of the first server, in the
order of declaration, that answers for the host and has a location for the path. -/

namespace EdgeRoutes

open Pattern Location

/-- What blocks do with a request: the routes of the location blocks that are entered, and how the request is left. -/
structure Passage where
  entered : List Route
  verdict : Verdict

namespace Passage

/-- Nothing happens to the request. -/
def idle (r : RequestState) : Passage := ⟨[], .passed r⟩

/-- What comes next happens only to a request that has not been ended. -/
def followedBy (p : Passage) (next : RequestState → Passage) : Passage :=
  match p.verdict with
  | .passed r => ⟨p.entered ++ (next r).entered, (next r).verdict⟩
  | _ => p

theorem idle_followedBy (r : RequestState) (next : RequestState → Passage) :
    (idle r).followedBy next = next r := rfl

end Passage

/-- The request is not left to whatever comes next. -/
def Verdict.Ends (v : Verdict) : Prop := ∀ r, v ≠ .passed r

theorem Passage.followedBy_of_ends {p : Passage} (h : p.verdict.Ends) (next : RequestState → Passage) :
    p.followedBy next = p := by
  obtain ⟨entered, verdict⟩ := p
  cases verdict with
  | passed r => exact absurd rfl (h r)
  | redirected url code headers => rfl
  | ended ending r => rfl

def LocationBlock.run (e : Engine) (b : LocationBlock) (r : RequestState) : Passage :=
  if b.condition.holds e r.path then ⟨[b.route], Statement.runAll e b.body r⟩ else .idle r

/-- What the blocks of locations do one after the other. -/
def LocationBlock.runAll (e : Engine) : List LocationBlock → RequestState → Passage
  | [], r => .idle r
  | b :: bs, r => (b.run e r).followedBy (LocationBlock.runAll e bs)

/-- What the block of a server does with a request to a host. -/
def ServerBlock.run (e : Engine) (host : String) (b : ServerBlock) (r : RequestState) : Passage :=
  if b.condition.holds e host then LocationBlock.runAll e b.locations r else .idle r

/-- What the blocks of servers do one after the other. A request that passes all of them is left to the code after
them. -/
def ServerBlock.runAll (e : Engine) (host : String) : List ServerBlock → RequestState → Passage
  | [], r => .idle r
  | b :: bs, r => (b.run e host r).followedBy (ServerBlock.runAll e host bs)

theorem ends_finish (e : Engine) (r : RequestState) (ending : Ending) : (e.finish r ending).Ends := by
  intro r'
  unfold Engine.finish
  split <;> simp

/-- Statements that close with an ending end the request, whatever stands before the ending. -/
theorem Closes.ends {body : List Statement} (h : Closes body) (e : Engine) (r : RequestState) :
    (Statement.runAll e body r).Ends := by
  obtain ⟨before, ending, rfl⟩ := h
  induction before generalizing r with
  | nil =>
      rw [List.nil_append, runAll_singleton, Statement.run]
      exact ends_finish e r ending
  | cons s before ih =>
      rw [List.cons_append, Statement.runAll]
      cases s.run e r with
      | passed next => exact ih next
      | redirected url code headers => intro r' h; cases h
      | ended ending r'' => intro r' h; cases h

/-- Of blocks that end the requests they take, the first whose condition holds is entered, and no other. -/
theorem runAll_locationBlocks (e : Engine) {blocks : List LocationBlock} (hcloses : ∀ b ∈ blocks, Closes b.body)
    (r : RequestState) :
    LocationBlock.runAll e blocks r =
      (blocks.find? (·.condition.holds e r.path)).elim (.idle r) fun b => ⟨[b.route], Statement.runAll e b.body r⟩ := by
  induction blocks with
  | nil => rfl
  | cons b bs ih =>
      rw [LocationBlock.runAll, LocationBlock.run, List.find?_cons]
      cases hholds : b.condition.holds e r.path with
      | true =>
          have hends := (hcloses b List.mem_cons_self).ends e r
          exact Passage.followedBy_of_ends (p := ⟨[b.route], Statement.runAll e b.body r⟩) hends _
      | false =>
          rw [if_neg Bool.false_ne_true, Passage.idle_followedBy]
          exact ih fun b' hb' => hcloses b' (List.mem_cons_of_mem _ hb')

namespace Server

/-- The condition that the names of the server put on the host holds. -/
def answers (e : Engine) (dialect : Dialect) (host : String) (s : Server) : Bool :=
  match Host.condition s.names dialect with
  | .ok c => c.holds e host
  | .error _ => false

/-- A location of the server that a path can reach answers for this path. -/
def serves (e : Engine) (dialect : Dialect) (path : String) (s : Server) : Bool :=
  s.tried.any (·.location.answers e dialect path)

end Server

theorem ServerBlockOf.holds_eq_answers {t : Target} {s : Nat × Server} {b : ServerBlock} (h : ServerBlockOf t s b)
    (e : Engine) (host : String) : b.condition.holds e host = s.2.answers e t.dialect host := by
  rw [Server.answers, h.condition]

theorem ServerBlockOf.closes {t : Target} {s : Nat × Server} {b : ServerBlock} (h : ServerBlockOf t s b) :
    ∀ block ∈ b.locations, Closes block.body := by
  intro block hblock
  obtain ⟨p, -, hof⟩ := exists_left_of_forall₂ h.locations hblock
  exact closes_of_locationBody hof.body

/-- A server takes a request: the block of the location that its declarations select for the path is entered, no other
block is, and its statements end the request. -/
def Takes (t : Target) (e : Engine) (path : String) (s : Nat × Server) (passage : Passage) : Prop :=
  ∃ p body, s.2.Selects e t.dialect path p ∧
    (locationBody t ⟨⟨s.1, p.position⟩, p.location⟩).result = .ok body ∧
    passage = ⟨[⟨s.1, p.position⟩], Statement.runAll e body (.ofPath path false)⟩ ∧ passage.verdict.Ends

theorem Takes.entered {t : Target} {e : Engine} {path : String} {s : Nat × Server} {passage : Passage}
    (h : Takes t e path s passage) : ∃ position, passage.entered = [⟨s.1, position⟩] := by
  obtain ⟨p, body, -, -, rfl, -⟩ := h
  exact ⟨p.position, rfl⟩

theorem Takes.ends {t : Target} {e : Engine} {path : String} {s : Nat × Server} {passage : Passage}
    (h : Takes t e path s passage) : passage.verdict.Ends := by
  obtain ⟨p, body, -, -, -, hends⟩ := h
  exact hends

section Blocks

variable {t : Target} {s : Nat × Server} {b : ServerBlock} {e : Engine} {path : String}

theorem takes_of_serves (h : ServerBlockOf t s b) (hserves : s.2.serves e t.dialect path = true) :
    Takes t e path s (LocationBlock.runAll e b.locations (.ofPath path false)) := by
  have hrel := rel_find? (p := fun p => p.location.answers e t.dialect path) (q := fun b => b.condition.holds e path)
    (fun p b hb => hb.holds_eq_answers e path) h.locations
  obtain ⟨p, hp⟩ := Option.isSome_iff_exists.mp (List.find?_isSome.mpr (List.any_eq_true.mp hserves))
  have hrun := runAll_locationBlocks e h.closes (.ofPath path false)
  change _ = Option.elim (b.locations.find? fun b => b.condition.holds e path) _ _ at hrun
  rw [hp] at hrel
  generalize b.locations.find? _ = found at hrel hrun
  cases hrel with
  | some hblock =>
      rw [hrun]
      refine ⟨p, _, Server.selects_of_find? hp, hblock.body, ?_, (closes_of_locationBody hblock.body).ends e _⟩
      rw [Option.elim_some, hblock.route]

theorem idle_of_not_serves (h : ServerBlockOf t s b) (hserves : s.2.serves e t.dialect path = false) :
    LocationBlock.runAll e b.locations (.ofPath path false) = .idle (.ofPath path false) := by
  have hnone : b.locations.find? (fun b => b.condition.holds e path) = none := by
    rw [List.find?_eq_none]
    intro block hblock
    obtain ⟨p, hp, hof⟩ := exists_left_of_forall₂ h.locations hblock
    rw [← hof.holds_eq_answers]
    exact List.any_eq_false.mp hserves p hp
  have hrun := runAll_locationBlocks e h.closes (.ofPath path false)
  change _ = Option.elim (b.locations.find? fun b => b.condition.holds e path) _ _ at hrun
  rw [hrun, hnone]
  rfl

variable {host : String}

/-- The block of a server that can serve the request takes it. -/
theorem takes_run (h : ServerBlockOf t s b) (hserving : (s.2.answers e t.dialect host && s.2.serves e t.dialect path) = true) :
    Takes t e path s (b.run e host (.ofPath path false)) := by
  obtain ⟨hanswers, hserves⟩ := Bool.and_eq_true_iff.mp hserving
  rw [ServerBlock.run, h.holds_eq_answers, if_pos hanswers]
  exact takes_of_serves h hserves

/-- The block of any other server leaves the request alone: it is not entered, or none of the blocks in it is. -/
theorem idle_run (h : ServerBlockOf t s b) (hserving : (s.2.answers e t.dialect host && s.2.serves e t.dialect path) = false) :
    b.run e host (.ofPath path false) = .idle (.ofPath path false) := by
  rw [ServerBlock.run, h.holds_eq_answers]
  rcases Bool.and_eq_false_iff.mp hserving with hanswers | hserves
  · rw [hanswers]
    rfl
  · split_ifs
    · exact idle_of_not_serves h hserves
    · rfl

/-- The blocks of servers leave a request to the first server that can serve it. -/
theorem runAll_serverBlocks (e : Engine) (host path : String) {servers : List (Nat × Server)} {blocks : List ServerBlock}
    (h : List.Forall₂ (ServerBlockOf t) servers blocks) :
    (servers.find? fun s => s.2.answers e t.dialect host && s.2.serves e t.dialect path).elim
      (ServerBlock.runAll e host blocks (.ofPath path false) = .idle (.ofPath path false))
      fun s => Takes t e path s (ServerBlock.runAll e host blocks (.ofPath path false)) := by
  induction h with
  | nil => rfl
  | @cons s b servers blocks hof _ ih =>
      rw [List.find?_cons, ServerBlock.runAll]
      cases hserving : s.2.answers e t.dialect host && s.2.serves e t.dialect path with
      | true =>
          have htakes := takes_run hof hserving
          rw [Passage.followedBy_of_ends htakes.ends]
          exact htakes
      | false =>
          rw [idle_run hof hserving, Passage.idle_followedBy]
          exact ih

end Blocks

namespace Config

/-- The servers that answer for the host and have a location for the path, in the order of their declaration. -/
def serving (c : Config) (e : Engine) (dialect : Dialect) (host path : String) : List (Nat × Server) :=
  c.numbered.filter fun s => s.2.answers e dialect host && s.2.serves e dialect path

/-- Only servers with a location that a path can reach have a location for some path. -/
theorem serving_eq (c : Config) (e : Engine) (dialect : Dialect) (host path : String) :
    c.serving e dialect host path =
      c.reachable.filter fun s => s.2.answers e dialect host && s.2.serves e dialect path := by
  rw [serving, reachable, List.filter_filter]
  refine List.filter_congr fun s _ => ?_
  cases htried : s.2.tried with
  | nil => simp [Server.serves, htried]
  | cons p ps => simp

end Config

/-- What becomes of a request: the first server that can serve it takes it, and without one it is left alone. -/
structure Routed (c : Config) (t : Target) (e : Engine) (host path : String) (passage : Passage) : Prop where
  taken : ∀ s, (c.serving e t.dialect host path).head? = some s → Takes t e path s passage
  left : c.serving e t.dialect host path = [] → passage = .idle (.ofPath path false)

theorem routed_of_serverBlocks {c : Config} {t : Target} {blocks : List ServerBlock}
    (h : List.Forall₂ (ServerBlockOf t) c.reachable blocks) (e : Engine) (host path : String) :
    Routed c t e host path (ServerBlock.runAll e host blocks (.ofPath path false)) := by
  have hrun := runAll_serverBlocks e host path h
  rw [← List.head?_filter, ← Config.serving_eq] at hrun
  constructor
  · intro s hs
    rw [hs] at hrun
    exact hrun
  · intro hs
    rw [hs] at hrun
    exact hrun

end EdgeRoutes
