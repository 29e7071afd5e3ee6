import EdgeRoutes.Proofs.BlockEndings
import EdgeRoutes.Proofs.LineReading
import EdgeRoutes.Proofs.Nesting

/-! Running emitted code line by line. A line tests the request, changes it, sends it away, or belongs to a branch that is
not taken and is passed over up to the brace that closes the branch. The lines that a statement is written in do what the
statement does; from there it is known for the blocks of locations and of servers. -/

namespace EdgeRoutes

open Js Js.Code

namespace Js

/-- How lines are gone through: they run, or they are passed over up to the end of a branch. `depth` blocks have begun in
the branch, and `otherwise` says that another branch, if there is one, is taken. -/
inductive Mode where
  | running
  | skipping (depth : Nat) (otherwise : Bool)

/-- How lines leave a request. -/
inductive Conclusion where
  | passed (r : RequestState)
  | redirected (url : String) (code : Nat) (headers : String)
  /-- The statements that end the request come next. -/
  | left (statements : List String) (r : RequestState)

/-- Runs lines that have no indentation. -/
def run (R : Runtime) (t : Target) (host : String) : Mode → List String → RequestState → Option Conclusion
  | .running, [], r => some (.passed r)
  | .running, text :: texts, r =>
    match readStep? t text with
    | none => none
    | some .nothing => run R t host .running texts r
    | some (.test checks) =>
      run R t host (if checks.any (Check.holds R host r.path) then .running else .skipping 0 true) texts r
    | some .otherwise => run R t host (.skipping 0 false) texts r
    | some .mark => run R t host .running texts { r with rewritten := true }
    | some (.assign path) => run R t host .running texts { r with path := path.value R r }
    | some .follow => run R t host .running texts { r with uri := r.path }
    | some (.redirect url code headers) => some (.redirected (url.value R r) code headers)
    | some .leave => some (.left (text :: texts) r)
  | .skipping _ _, [], _ => none
  | .skipping depth otherwise, text :: texts, r =>
    if depth = 0 ∧ closesBlock text = true then
      if opensBlock text = true ∧ otherwise = false then none else run R t host .running texts r
    else run R t host (.skipping (depth - (closesBlock text).toNat + (opensBlock text).toNat) otherwise) texts r

/-- The conclusion is what the verdict says. -/
inductive Concludes (t : Target) : Verdict → Conclusion → Prop where
  | passed (r : RequestState) : Concludes t (.passed r) (.passed r)
  | redirected (url : String) (code : Nat) (headers : Fields String) :
      Concludes t (.redirected url code headers) (.redirected url code (objectLiteral headers))
  | ended (ending : Ending) (r : RequestState) (rest : List String) :
      Concludes t (.ended ending r) (.left ((ending.code t).texts ++ rest) r)

end Js

namespace Verdict

/-- What comes next sees only a request that has not been ended. -/
def followedBy (v : Verdict) (next : RequestState → Verdict) : Verdict :=
  match v with
  | .passed r => next r
  | _ => v

theorem passed_or_ends (v : Verdict) : (∃ r, v = .passed r) ∨ v.Ends := by
  cases v with
  | passed r => exact Or.inl ⟨r, rfl⟩
  | redirected url code headers => exact Or.inr nofun
  | ended ending r => exact Or.inr nofun

theorem followedBy_of_ends {v : Verdict} (h : v.Ends) (next : RequestState → Verdict) : v.followedBy next = v := by
  cases v with
  | passed r => exact absurd rfl (h r)
  | redirected url code headers => rfl
  | ended ending r => rfl

end Verdict

namespace Js.Code

/-- The code does to a request what a function says, whatever lines follow it. -/
structure Does (R : Runtime) (t : Target) (host : String) (code : Code) (f : RequestState → Verdict) : Prop where
  passes : ∀ rest r next, f r = .passed next →
    run R t host .running (code.texts ++ rest) r = run R t host .running rest next
  ends : ∀ rest r, (f r).Ends → ∃ c, run R t host .running (code.texts ++ rest) r = some c ∧ Concludes t (f r) c

variable {R : Runtime} {t : Target} {host : String}

/-- The lines of the code, without their indentation. -/
theorem unindented_lines {code : Code} (h : Each Flush code) (level : Nat) :
    (code.lines level).map unindented = code.texts := by
  rw [Code.lines, List.map_map, texts]
  refine List.map_congr_left fun line hline => ?_
  have hflush := h line hline
  rw [Function.comp_apply]
  split_ifs with hempty
  · rw [String.isEmpty_iff.mp hempty]
    rfl
  · rw [unindented_spaces, hflush.unindented_eq]

/-- Lines that are passed over count the blocks that begin and end in them. -/
theorem run_skipping {code : Code} {before after : Nat} (h : levelAfter before code = some after) (otherwise : Bool)
    (rest : List String) (r : RequestState) :
    run R t host (.skipping before otherwise) (code.texts ++ rest) r = run R t host (.skipping after otherwise) rest r := by
  induction code generalizing before with
  | nil =>
      obtain rfl := Option.some.inj h
      rfl
  | cons line code ih =>
      rw [levelAfter] at h
      split_ifs at h with hbefore
      have hinside : ¬ (before = 0 ∧ closesBlock line.text = true) := by
        rintro ⟨hzero, hcloses⟩
        rw [hcloses, Bool.toNat_true] at hbefore
        omega
      have hdepth : before - (closesBlock line.text).toNat = line.depth := by omega
      have htexts : texts (line :: code) = line.text :: texts code := rfl
      rw [htexts, List.cons_append, run, if_neg hinside, hdepth]
      exact ih h

/-- A branch that is not taken is passed over up to its closing line. -/
theorem run_skipping_branch {body : Code} (h : Nests body) {closing : String} (hcloses : closesBlock closing = true)
    (otherwise : Bool) (rest : List String) (r : RequestState) :
    run R t host (.skipping 0 otherwise) (body.texts ++ closing :: rest) r =
      if opensBlock closing = true ∧ otherwise = false then none else run R t host .running rest r := by
  rw [run_skipping h, run, if_pos ⟨rfl, hcloses⟩]

namespace Does

variable {f g : RequestState → Verdict}

theorem congr {code : Code} (h : Does R t host code f) (hfg : ∀ r, f r = g r) : Does R t host code g := by
  rwa [← funext hfg]

theorem nil : Does R t host [] .passed where
  passes rest r next h := by
    cases h
    rfl
  ends rest r h := absurd rfl (h r)

/-- Code after code goes on with the request that the first leaves, unless that has ended. -/
theorem append {a b : Code} (ha : Does R t host a f) (hb : Does R t host b g) :
    Does R t host (a ++ b) fun r => (f r).followedBy g where
  passes rest r next h := by
    rw [texts_append, List.append_assoc]
    rcases (f r).passed_or_ends with ⟨middle, hf⟩ | hends
    · rw [hf] at h
      rw [ha.passes _ _ _ hf]
      exact hb.passes _ _ _ h
    · rw [Verdict.followedBy_of_ends hends] at h
      exact absurd h (hends next)
  ends rest r h := by
    rw [texts_append, List.append_assoc]
    rcases (f r).passed_or_ends with ⟨middle, hf⟩ | hends
    · simp only [hf] at h ⊢
      rw [ha.passes _ _ _ hf]
      exact hb.ends _ _ h
    · rw [Verdict.followedBy_of_ends hends]
      exact ha.ends _ _ hends

variable {text : String}

/-- A line that does nothing. -/
theorem nothing (h : readStep? t text = some .nothing) : Does R t host (flat [text]) .passed where
  passes rest r next hnext := by
    cases hnext
    rw [texts_flat, List.singleton_append, run, h]
  ends rest r hends := absurd rfl (hends r)

/-- A block behind a condition. -/
theorem block {checks : List Check} (h : readStep? t text = some (.test checks)) {body : Code} (hnests : Nests body)
    (hbody : Does R t host body f) :
    Does R t host (block text body "\x7d") fun r => if checks.any (Check.holds R host r.path) then f r else .passed r := by
  have hopening : ∀ rest r, run R t host .running ((Code.block text body "\x7d").texts ++ rest) r =
      run R t host (if checks.any (Check.holds R host r.path) then .running else .skipping 0 true)
        (body.texts ++ "\x7d" :: rest) r := by
    intro rest r
    rw [texts_block, List.cons_append, run, h, List.append_assoc, List.singleton_append]
  have hclosing : ∀ rest r, run R t host .running ("\x7d" :: rest) r = run R t host .running rest r := by
    intro rest r
    rw [run, readStep?_closing]
  constructor
  · intro rest r next hnext
    rw [hopening]
    split_ifs at hnext ⊢ with hholds
    · rw [hbody.passes _ _ _ hnext, hclosing]
    · cases hnext
      rw [run_skipping_branch hnests (by decide), if_neg (by decide)]
  · intro rest r hends
    rw [hopening]
    split_ifs at hends ⊢ with hholds
    · exact hbody.ends _ _ hends
    · exact absurd rfl (hends r)

/-- Two branches, of which one is taken. -/
theorem branches {checks : List Check} (h : readStep? t text = some (.test checks)) {body other : Code}
    (hnests : Nests body) (hbody : Does R t host body f) (hnests' : Nests other) (hother : Does R t host other g) :
    Does R t host (flat [text] ++ nested body ++ Code.block "\x7d else \x7b" other "\x7d") fun r =>
      if checks.any (Check.holds R host r.path) then f r else g r := by
  have htexts : ∀ rest, (flat [text] ++ nested body ++ Code.block "\x7d else \x7b" other "\x7d").texts ++ rest =
      text :: (body.texts ++ "\x7d else \x7b" :: (other.texts ++ "\x7d" :: rest)) := by
    intro rest
    rw [texts_append, texts_append, texts_flat, texts_nested, texts_block]
    simp
  have hopening : ∀ rest r, run R t host .running
      ((flat [text] ++ nested body ++ Code.block "\x7d else \x7b" other "\x7d").texts ++ rest) r =
        run R t host (if checks.any (Check.holds R host r.path) then .running else .skipping 0 true)
          (body.texts ++ "\x7d else \x7b" :: (other.texts ++ "\x7d" :: rest)) r := by
    intro rest r
    rw [htexts, run, h]
  -- after the first branch the second is passed over
  have hfirst : ∀ rest r, run R t host .running ("\x7d else \x7b" :: (other.texts ++ "\x7d" :: rest)) r =
      run R t host .running rest r := by
    intro rest r
    rw [run, readStep?_otherwise]
    simp only
    rw [run_skipping_branch hnests' (by decide), if_neg (by decide)]
  have hsecond : ∀ rest r, run R t host (.skipping 0 true)
      (body.texts ++ "\x7d else \x7b" :: (other.texts ++ "\x7d" :: rest)) r =
        run R t host .running (other.texts ++ "\x7d" :: rest) r := by
    intro rest r
    rw [run_skipping_branch hnests (by decide), if_neg (by decide)]
  have hclosing : ∀ rest r, run R t host .running ("\x7d" :: rest) r = run R t host .running rest r := by
    intro rest r
    rw [run, readStep?_closing]
  constructor
  · intro rest r next hnext
    rw [hopening]
    split_ifs at hnext ⊢ with hholds
    · rw [hbody.passes _ _ _ hnext, hfirst]
    · rw [hsecond, hother.passes _ _ _ hnext, hclosing]
  · intro rest r hends
    rw [hopening]
    split_ifs at hends ⊢ with hholds
    · exact hbody.ends _ _ hends
    · rw [hsecond]
      exact hother.ends _ _ hends

end Does

end Js.Code

section Endings

variable {t : Target} {R : Runtime} {host : String}

theorem finish_redirect (R : Runtime) (r : RequestState) (d : Destination) (code : Nat) (headers : Fields String) :
    R.engine.finish r (.redirect d code headers) = .redirected (d.address.value R r) code headers := by
  cases d <;> rfl

/-- The lines of an ending end the request as the ending does. -/
theorem does_ending {ending : Ending} (h : ∀ p ∈ ending.patterns, Js.Writable p.source) :
    Does R t host (ending.code t) fun r => R.engine.finish r ending where
  passes rest r next hnext := absurd hnext (ends_finish R.engine r ending next)
  ends rest r hends := by
    by_cases hredirect : ∃ d code headers, ending = .redirect d code headers
    · obtain ⟨d, code, headers, rfl⟩ := hredirect
      have hsource : ∀ s, d = .replaced s → Js.Writable s.pattern.source := by
        rintro s rfl
        exact h _ (List.mem_singleton_self _)
      rw [Ending.code, texts_flat, List.singleton_append, run, readStep?_redirect t hsource, finish_redirect]
      exact ⟨_, rfl, .redirected _ _ _⟩
    · have hother : ∀ d code headers, ending ≠ .redirect d code headers :=
        fun d code headers heq => hredirect ⟨d, code, headers, heq⟩
      obtain ⟨line, more, htexts, hleaves⟩ := exists_leaves t hother
      have hfinish : R.engine.finish r ending = .ended ending r := by
        cases ending with
        | redirect d code headers => exact absurd rfl (hother d code headers)
        | _ => rfl
      have hconcludes := Concludes.ended (t := t) ending r rest
      rw [htexts, List.cons_append] at hconcludes
      rw [htexts, List.cons_append, run, hleaves.readStep?_eq, hfinish]
      exact ⟨_, rfl, hconcludes⟩

end Endings

section Statements

variable {R : Runtime} {t : Target} {host : String}

theorem does_commentCode (comments : Bool) (text : String) : Does R t host (commentCode comments text) .passed := by
  unfold commentCode
  split_ifs
  · refine .nothing ?_
    rw [readStep?, if_pos (Or.inr (Or.inl (Text.startsWith_append (by decide +kernel) text)))]
  · exact .nil

theorem does_substitution {s : Substitution} (h : Js.Writable s.pattern.source) :
    Does R t host s.code fun r => .passed (R.engine.rewrite s r) where
  passes rest r next hnext := by
    cases hnext
    have hmark : readStep? t "rewritten = true;" = some .mark := rfl
    have hfollow : readStep? t "vars.uri = path;" = some .follow := rfl
    rw [Substitution.code, texts_flat, List.cons_append, List.cons_append, List.singleton_append, run, hmark]
    simp only
    rw [run, readStep?_assignment h]
    simp only
    rw [run, hfollow]
    rfl
  ends rest r hends := absurd rfl (hends _)

theorem holds_pattern (R : Runtime) (host path : String) (p : PathPattern) :
    [Check.matches (bodyOf p.source) p.ignoreCase .path].any (Check.holds R host path) = R.engine.tests p path := by
  rw [List.any_cons, List.any_nil, Bool.or_false]
  rfl

mutual

/-- The lines of a statement do what the statement does. -/
theorem does_code (comments : Bool) : (s : Statement) → (∀ p ∈ s.patterns, Js.Writable p.source) →
    Does R t host (s.code t comments) (s.run R.engine)
  | .comment text, _ => by
      rw [Statement.code]
      exact (does_commentCode comments text).congr fun r => by rw [Statement.run]
  | .rewrite s, h => by
      rw [Statement.code]
      refine (does_substitution (h _ ?_)).congr fun r => by rw [Statement.run]
      rw [Statement.patterns]
      exact List.mem_singleton_self _
  | .branch p body none, h => by
      rw [Statement.patterns, List.forall_mem_cons] at h
      have hbody : Does R t host _ _ := does_codeAll comments body h.2
      rw [Statement.code]
      refine (Does.block (readStep?_opening h.1) (nests_codeAll t comments body) hbody).congr fun r => ?_
      rw [Statement.run, holds_pattern]
  | .branch p body (some otherwise), h => by
      rw [Statement.patterns, List.cons_append, List.forall_mem_cons, List.forall_mem_append] at h
      have hbody : Does R t host _ _ := does_codeAll comments body h.2.1
      have hother : Does R t host _ _ := does_codeAll comments otherwise h.2.2
      rw [Statement.code]
      refine (Does.branches (readStep?_opening h.1) (nests_codeAll t comments body) hbody
        (nests_codeAll t comments otherwise) hother).congr fun r => ?_
      rw [Statement.run, holds_pattern]
  | .finish ending, h => by
      rw [Statement.code]
      rw [Statement.patterns] at h
      exact (does_ending h).congr fun r => by rw [Statement.run]

theorem does_codeAll (comments : Bool) : (body : List Statement) →
    (∀ p ∈ Statement.patternsAll body, Js.Writable p.source) →
      Does R t host (Statement.codeAll t comments body) (Statement.runAll R.engine body)
  | [], _ => by
      rw [Statement.codeAll]
      exact Does.nil.congr fun r => by rw [Statement.runAll]
  | s :: ss, h => by
      rw [Statement.patternsAll, List.forall_mem_append] at h
      rw [Statement.codeAll]
      refine ((does_code comments s h.1).append (does_codeAll comments ss h.2)).congr fun r => ?_
      rw [Statement.runAll]
      cases s.run R.engine r <;> rfl

end

end Statements

section Blocks

variable {R : Runtime} {t : Target} {host : String}

/-- The block can be read from its lines. -/
structure LocationBlock.Writable (b : LocationBlock) : Prop where
  tests : b.condition.tests ≠ []
  condition : ∀ test ∈ b.condition.tests, test.Writable
  body : ∀ p ∈ Statement.patternsAll b.body, Js.Writable p.source

/-- The block and those in it can be read from their lines. -/
structure ServerBlock.Writable (b : ServerBlock) : Prop where
  tests : b.condition.tests ≠ []
  condition : ∀ test ∈ b.condition.tests, test.Writable
  locations : ∀ block ∈ b.locations, block.Writable

theorem verdict_followedBy (p : Passage) (next : RequestState → Passage) :
    (p.followedBy next).verdict = p.verdict.followedBy fun r => (next r).verdict := by
  obtain ⟨entered, verdict⟩ := p
  cases verdict <;> rfl

theorem Js.Code.Does.after_nothing {a b : Code} {f : RequestState → Verdict} (ha : Does R t host a .passed)
    (hb : Does R t host b f) : Does R t host (a ++ b) f := ha.append hb

theorem Js.Code.Does.guarded {c : Condition} (hne : c.tests ≠ []) (hc : ∀ test ∈ c.tests, test.Writable) (s : Subject)
    {body : Code} (hnests : Nests body) {f : RequestState → Verdict} (hbody : Does R t host body f) :
    Does R t host (guarded (c.render s.name) body) fun r =>
      if c.holds R.engine (s.value host r.path) then f r else .passed r :=
  (Does.block (readStep?_guard hne hc s) hnests hbody).congr fun r => by rw [Condition.holds_checks]

/-- The lines of the block of a location do what the block does. -/
theorem does_locationBlock (comments : Bool) {b : LocationBlock} (h : b.Writable) :
    Does R t host (b.code t comments) fun r => (b.run R.engine r).verdict := by
  have hnever : Does R t host (if b.condition.isNever then
      commentCode comments "regex could not be translated; this location never matches" else []) .passed := by
    split_ifs
    · exact does_commentCode comments _
    · exact .nil
  have hbody : Does R t host _ _ := does_codeAll comments b.body h.body
  have hguarded := Does.guarded h.tests h.condition .path (nests_codeAll t comments b.body) hbody
  unfold LocationBlock.code
  refine (((does_commentCode comments _).after_nothing hnever).after_nothing hguarded).congr fun r => ?_
  unfold LocationBlock.run
  split_ifs <;> first | rfl | contradiction

theorem does_locationBlocks (comments : Bool) {bs : List LocationBlock} (h : ∀ b ∈ bs, b.Writable) :
    Does R t host (bs.flatMap (LocationBlock.code t comments)) fun r => (LocationBlock.runAll R.engine bs r).verdict := by
  induction bs with
  | nil => exact .nil
  | cons b bs ih =>
      obtain ⟨hb, hbs⟩ := List.forall_mem_cons.mp h
      rw [List.flatMap_cons]
      refine ((does_locationBlock comments hb).append (ih hbs)).congr fun r => ?_
      rw [LocationBlock.runAll, verdict_followedBy]

theorem does_serverBlock (comments : Bool) {b : ServerBlock} (h : b.Writable) :
    Does R t host (b.code t comments) fun r => (b.run R.engine host r).verdict := by
  have hnests : Nests (b.locations.flatMap (LocationBlock.code t comments)) :=
    nests_flatMap (nests_locationBlock t comments) b.locations
  have hlocations : Does R t host _ _ := does_locationBlocks comments h.locations
  have hguarded := Does.guarded h.tests h.condition .hostname hnests hlocations
  unfold ServerBlock.code
  refine ((does_commentCode comments _).after_nothing hguarded).congr fun r => ?_
  unfold ServerBlock.run
  split_ifs <;> first | rfl | contradiction

/-- The lines of the blocks of servers do what the blocks do one after the other. -/
theorem does_serverBlocks (comments : Bool) {bs : List ServerBlock} (h : ∀ b ∈ bs, b.Writable) :
    Does R t host (paragraphs (bs.map (ServerBlock.code t comments))) fun r =>
      (ServerBlock.runAll R.engine host bs r).verdict := by
  have hgap : Does R t host (flat [""]) .passed := .nothing rfl
  induction bs with
  | nil => exact .nil
  | cons b bs ih =>
      obtain ⟨hb, hbs⟩ := List.forall_mem_cons.mp h
      have hrest : Does R t host
          (b.code t comments ++ paragraphs (bs.map (ServerBlock.code t comments))) fun r =>
            (ServerBlock.runAll R.engine host (b :: bs) r).verdict := by
        refine ((does_serverBlock comments hb).append (ih hbs)).congr fun r => ?_
        rw [ServerBlock.runAll, verdict_followedBy]
      cases bs with
      | nil => exact hrest
      | cons next bs =>
          refine ((does_serverBlock comments hb).append (hgap.after_nothing (ih hbs))).congr fun r => ?_
          rw [ServerBlock.runAll, verdict_followedBy]

end Blocks

end EdgeRoutes
