import EdgeRoutes.Proofs.GrammarFaults
import EdgeRoutes.Proofs.Results

/-! Flags of the grammar check. Flags for a whole pattern are taken at its start only, so a pattern that opens neither
with flags nor with a comment, behind which flags could stand, has none, and no flags of it contradict each other. -/

namespace EdgeRoutes.Pattern.Grammar

variable {α β : Type}

/-- What the reading comes to, if it comes to something, has the property. -/
def Gives (P : α → Prop) (x : Reading α) : Prop := ∀ a, x = .ok a → P a

namespace Gives

variable {P Q : α → Prop}

theorem ok {a : α} (h : P a) : Gives P (.ok a) := by
  rintro _ ⟨⟩
  exact h

theorem pure {a : α} (h : P a) : Gives P (Pure.pure a) := ok h

theorem reject (reason : Rejection) : Gives P (Grammar.reject reason) := nofun

theorem bind {Q : β → Prop} {x : Reading α} {f : α → Reading β} (h : ∀ a, x = .ok a → Gives Q (f a)) :
    Gives Q (x >>= f) := by
  intro b hb
  obtain ⟨a, ha, hb⟩ := bind_eq_ok_iff.mp hb
  exact h a ha b hb

end Gives

namespace Reader

/-- The frame of the pattern itself, below all groups that are open. -/
def root (r : Reader) : Frame := r.outer.getLastD r.frame

/-- No flags have been taken, and the pattern itself is at the bottom. -/
structure Rooted (r : Reader) : Prop where
  flags : r.flags = []
  whole : r.root.opening = .whole

/-- Besides, something has been read: a group is open, or the pattern has an item or an alternative. -/
structure Begun (r : Reader) : Prop extends Rooted r where
  begun : r.outer = [] → r.frame.done ≠ [] ∨ r.frame.items ≠ []

variable {r r' : Reader}

theorem opening_getLastD (outer : List Frame) {f f' : Frame} (h : f'.opening = f.opening) :
    (outer.getLastD f').opening = (outer.getLastD f).opening := by
  cases outer with
  | nil => exact h
  | cons g outer => rfl

theorem Rooted.of_same (h : Rooted r) (hflags : r'.flags = r.flags) (houter : r'.outer = r.outer)
    (hopening : r'.frame.opening = r.frame.opening) : Rooted r' := by
  refine ⟨hflags.trans h.flags, ?_⟩
  rw [root, houter, opening_getLastD r.outer hopening]
  exact h.whole

theorem Rooted.begun_of_items (h : Rooted r) (hflags : r'.flags = r.flags) (houter : r'.outer = r.outer)
    (hopening : r'.frame.opening = r.frame.opening) (hitems : r'.frame.items ≠ []) : Begun r' :=
  ⟨h.of_same hflags houter hopening, fun _ => Or.inr hitems⟩

theorem Rooted.begun_of_outer (h : Rooted r) (hflags : r'.flags = r.flags) (houter : r'.outer = r.frame :: r.outer) :
    Begun r' := by
  refine ⟨⟨hflags.trans h.flags, ?_⟩, fun hempty => ?_⟩
  · rw [root, houter, List.getLastD_cons]
    exact h.whole
  · rw [houter] at hempty
    cases hempty

theorem Rooted.push (h : Rooted r) (i : Item) : Begun (r.push i) :=
  h.begun_of_items rfl rfl rfl (List.cons_ne_nil _ _)

theorem Rooted.enter (h : Rooted r) (opening : Opening) (verbose : Bool) : Begun (r.enter opening verbose) :=
  h.begun_of_outer rfl rfl

theorem Rooted.openCapture (h : Rooted r) (name : Option String) : Gives Begun (r.openCapture name) := by
  unfold Reader.openCapture
  cases name with
  | none => exact .ok (h.begun_of_outer rfl rfl)
  | some name =>
      dsimp only
      split
      · exact .reject _
      · exact .ok (h.begun_of_outer rfl rfl)

theorem Rooted.quantify (h : Rooted r) (least : Nat) (most : Option Nat) (cs : List Char) :
    Gives (fun a => Begun a.1) (r.quantify least most cs) := by
  unfold Reader.quantify
  split
  · exact .reject _
  · exact .reject _
  · exact .reject _
  · have hquantified (kind : RepeatKind) (item : Item) (items : List Item) : Begun
        { r with frame := { r.frame with items := .repeated kind least most [item] :: items } } :=
      h.begun_of_items rfl rfl rfl (List.cons_ne_nil _ _)
    refine .bind fun found _ => ?_
    cases found with
    | some rest => exact .pure (hquantified _ _ _)
    | none =>
        refine .bind fun found _ => ?_
        cases found <;> exact .pure (hquantified _ _ _)

theorem Rooted.brace (h : Rooted r) (cs : List Char) : Gives (fun a => Begun a.1) (r.brace cs) := by
  unfold Reader.brace
  split_ifs
  · exact .ok (h.push _)
  · refine .bind fun found _ => ?_
    cases found with
    | none => exact .pure (h.push _)
    | some bounds => exact h.quantify _ _ _

theorem Rooted.openConditional (h : Rooted r) (cs : List Char) :
    Gives (fun a => Begun a.1) (r.openConditional cs) := by
  refine .bind fun a _ => ?_
  dsimp only
  split_ifs
  all_goals
    refine .bind fun group _ => .bind ?_
    rintro _ ⟨⟩
    exact .bind fun _ _ => .pure (h.begun_of_outer rfl rfl)

theorem Rooted.openNamed (h : Rooted r) (cs : List Char) : Gives (fun a => Begun a.1) (r.openNamed cs) := by
  refine .bind fun found _ => ?_
  cases found with
  | some rest => exact .bind fun a _ => .bind fun opened hopened => .pure (h.openCapture _ opened hopened)
  | none =>
      refine .bind fun found _ => ?_
      cases found with
      | some rest => exact .bind fun a _ => .bind fun group _ => .bind fun item _ => .pure (h.push item)
      | none =>
          dsimp only
          split
          · exact .reject _
          · exact .bind fun _ _ => .reject _

theorem Rooted.openLookaround (h : Rooted r) (behind : Bool) : Begun (r.openLookaround behind) := by
  unfold Reader.openLookaround
  dsimp only
  split_ifs <;> exact h.begun_of_outer rfl rfl

theorem Rooted.openLookbehind (h : Rooted r) (cs : List Char) : Gives (fun a => Begun a.1) (r.openLookbehind cs) := by
  unfold Reader.openLookbehind
  split
  · exact .reject _
  · refine .bind fun rest _ => ?_
    split_ifs
    · exact .pure (h.openLookaround true)
    · exact .reject _

/-- Flags for the whole pattern are refused once something has been read. -/
theorem Begun.openFlags (h : Begun r) (c : Char) (cs : List Char) : Gives (fun a => Begun a.1) (r.openFlags c cs) := by
  refine .bind fun a _ => ?_
  obtain ⟨setting, rest⟩ := a
  cases setting with
  | whole on =>
      have hmisplaced : (!r.outer.isEmpty || !r.frame.done.isEmpty || !r.frame.items.isEmpty) = true := by
        by_cases houter : r.outer = []
        · rcases h.begun houter with hdone | hitems
          · simp [hdone]
          · simp [hitems]
        · simp [houter]
      dsimp only
      rw [if_pos hmisplaced]
      exact .reject _
  | group on off => exact .pure (h.enter _ _)

/-- What stands after `(?` where flags, or a comment before them, do. -/
def leadsToFlags (c : Char) : Bool := setsFlags c || c == '#'

/-- The text opens with flags or with a comment. -/
def OpensFlags (cs : List Char) : Prop := ∃ c, leadsToFlags c = true ∧ ['(', '?', c] <+: cs

theorem Rooted.openExtension (h : Rooted r) {t : Token}
    (ht : Begun r ∨ ∀ c, t = .plain c → leadsToFlags c = false) (cs : List Char) :
    Gives (fun a => Begun a.1) (r.openExtension t cs) := by
  unfold Reader.openExtension
  split
  · exact h.openNamed cs
  · exact .ok (h.enter _ _)
  · exact .ok (h.enter _ _)
  · exact .bind fun rest _ => .pure (ht.resolve_right fun ht => absurd (ht '#' rfl) (by decide))
  · exact .ok (h.openLookaround false)
  · exact .ok (h.openLookaround false)
  · exact h.openLookbehind cs
  · exact h.openConditional cs
  · next c _ _ _ _ _ _ _ _ =>
      split_ifs with hflags
      · have hleads : leadsToFlags c = true := Bool.or_eq_true_iff.mpr (Or.inl hflags)
        exact (ht.resolve_right fun ht => absurd hleads (by rw [ht c rfl]; decide)).openFlags c cs
      · exact .reject _
  · exact .reject _

theorem Rooted.openGroup (h : Rooted r) {cs : List Char}
    (hcs : Begun r ∨ ∀ c, leadsToFlags c = true → ¬ ['?', c] <+: cs) :
    Gives (fun a => Begun a.1) (r.openGroup cs) := by
  unfold Reader.openGroup accept
  split_ifs with hnext
  · refine .bind fun found hfound => ?_
    obtain ⟨rest, hrest, rfl⟩ := map_eq_ok_iff.mp hfound
    obtain rfl := (consumes_atToken cs (afterToken cs)).result rest hrest
    dsimp only
    split
    · exact .reject _
    · next t ht =>
        refine .bind fun rest _ => h.openExtension (hcs.imp_right fun hcs c hc => ?_) rest
        by_contra hleads
        refine hcs c (by simpa using hleads) ?_
        subst hc
        rw [eq_cons_of_next? hnext, eq_cons_of_next? ht]
        exact ⟨_, rfl⟩
  · refine .bind fun found hfound => ?_
    cases hfound
    exact .bind fun opened hopened => .pure (h.openCapture none opened hopened)

/-- A reader that stands at the root begins a pattern with any token that opens no group of flags. -/
theorem Rooted.take (h : Rooted r) {t : Token} {cs : List Char}
    (ht : Begun r ∨ r.frame.verbose = false ∧ (t = .plain '(' → ∀ c, leadsToFlags c = true → ¬ ['?', c] <+: cs)) :
    Gives (fun a => Begun a.1) (r.take t cs) := by
  unfold Reader.take
  split
  · exact .bind fun a _ => .pure (h.push _)
  · split_ifs with hskipped hcomment
    · refine .ok (ht.resolve_right fun ht => ?_)
      rw [ht.1] at hskipped
      cases hskipped
    · refine .bind fun rest _ => .pure (ht.resolve_right fun ht => ?_)
      rw [ht.1] at hcomment
      cases hcomment
    · split
      · exact .bind fun rest _ => .pure (h.push _)
      · exact h.quantify _ _ _
      · exact h.quantify _ _ _
      · exact h.quantify _ _ _
      · exact h.brace _
      · exact h.openGroup (ht.imp_right fun ht => ht.2 rfl)
      · exact .ok (h.push _)
      · exact .ok (h.push _)
      · exact .ok (h.push _)

/-- A reader has begun once a group is closed. -/
theorem Rooted.close (h : Rooted r) {parent : Frame} {outer : List Frame} (houter : r.outer = parent :: outer) :
    Begun (r.close parent outer) := by
  have hparent : Rooted { r with frame := parent, outer } := by
    refine ⟨h.flags, ?_⟩
    have hwhole := h.whole
    rwa [root, houter, List.getLastD_cons] at hwhole
  unfold Reader.close
  split
  · exact hparent.push _
  · exact hparent.push _
  · dsimp only
    refine Rooted.push ?_ _
    exact hparent.of_same rfl rfl rfl
  · dsimp only
    refine Rooted.push ?_ _
    exact hparent.of_same rfl rfl rfl
  · exact hparent.push _
  · exact hparent.push _

theorem Rooted.alternative (h : Rooted r) : Gives Begun r.alternative := by
  unfold Reader.alternative
  split
  · next hopening =>
      have houter : r.outer ≠ [] := by
        intro houter
        have hwhole := h.whole
        rw [root, houter, List.getLastD_nil, hopening] at hwhole
        cases hwhole
      obtain ⟨parent, outer, houter⟩ := List.exists_cons_of_ne_nil houter
      refine .ok ⟨⟨h.flags, ?_⟩, fun hempty => absurd hempty (by simp [houter])⟩
      have hwhole := h.whole
      rw [root, houter, List.getLastD_cons] at hwhole ⊢
      exact hwhole
  · exact .reject _
  · exact .ok ⟨h.of_same rfl rfl rfl, fun _ => Or.inl (List.append_ne_nil_of_right_ne_nil _ (List.cons_ne_nil _ _))⟩

/-- A run that has begun, or that does not open with flags, takes none. -/
theorem Rooted.run (h : Rooted r) {cs : List Char} (hcs : Begun r ∨ r.frame.verbose = false ∧ ¬ OpensFlags cs) :
    Gives (fun a => a.1.flags = []) (r.run cs) := by
  induction hlength : cs.length using Nat.strong_induction_on generalizing r cs with
  | _ n ih =>
      rw [Reader.run]
      split
      · split_ifs
        · exact .ok h.flags
        · exact .reject _
      · next t ht =>
          -- one token has been taken, so the run has begun for all that is left
          have hgo : ∀ b : Reader × List Char, Begun b.1 → Gives (fun a => a.1.flags = [])
              (if b.2.length < cs.length then b.1.run b.2 else reject .unbalanced) := by
            rintro ⟨r', rest⟩ hr'
            split_ifs with hlt
            · exact ih rest.length (hlength ▸ hlt) hr'.toRooted (Or.inl hr') rfl
            · exact .reject _
          split
          · exact .ok h.flags
          · refine .bind fun rest hrest => ?_
            obtain rfl := (consumes_atToken cs (afterToken cs)).result rest hrest
            dsimp only
            split
            · refine .bind fun r' hr' => ?_
              exact hgo (r', afterToken cs) (h.alternative r' hr')
            · next houter _ => exact hgo (_, afterToken cs) (h.close houter)
            · refine .bind fun b hb => hgo b (h.take (hcs.imp_right fun hcs => ⟨hcs.1, ?_⟩) b hb)
              rintro rfl c hc hprefix
              refine hcs.2 ⟨c, hc, ?_⟩
              rw [eq_cons_of_next? ht]
              exact List.cons_prefix_cons.mpr ⟨rfl, hprefix⟩

end Reader

/-- A text that does not open with flags is rejected or accepted, unless a repetition count in it is too large. -/
theorem countFault_of_rejection? {cs : List Char} (h : ¬ Reader.OpensFlags cs) {fault : Fault}
    (hfault : rejection? cs = .error fault) : CountFault cs fault := by
  unfold rejection? at hfault
  split at hfault
  · cases hfault
  · cases hfault
  · next hcheck =>
      cases hfault
      have hinitial : Reader.initial.Rooted := ⟨rfl, rfl⟩
      refine (fault_of_check_run hcheck).resolve_right fun ⟨_, found, hrun, hflags⟩ => hflags ?_
      exact hinitial.run (Or.inr ⟨rfl, h⟩) found hrun

end EdgeRoutes.Pattern.Grammar
