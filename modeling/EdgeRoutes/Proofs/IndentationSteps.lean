import EdgeRoutes.Proofs.SourceLines

/-! Changing the width of the indentation. It moves the start of each line and nothing else. A width of at least two holds
whatever was left over beside the steps of two, so the step from there to any other width loses nothing: both steps
together are the direct one, and the way back to two leads to the text that was there first. -/

namespace EdgeRoutes.Js

theorem head?_dropWhile_spaces (line : List Char) : (line.dropWhile (· == ' ')).head? ≠ some ' ' := by
  intro hhead
  have hnot := List.head?_dropWhile_not (· == ' ') line
  rw [hhead] at hnot
  simp at hnot

/-- What follows the spaces at the start of a line stays as it is. -/
theorem dropWhile_reindentLine (width unit : Nat) (line : List Char) :
    (reindentLine (spaces width) unit line).dropWhile (· == ' ') = line.dropWhile (· == ' ') := by
  rw [reindentLine_eq, dropWhile_spaces_append (head?_dropWhile_spaces line)]

/-- The spaces at the start of a line, after they were written anew. -/
theorem indentation_reindentLine (width unit : Nat) (line : List Char) :
    indentation (reindentLine (spaces width) unit line) =
      indentation line / unit * width + indentation line % unit := by
  rw [reindentLine_eq, indentation_spaces_append (head?_dropWhile_spaces line)]

/-- The units of a line are found again, as long as what is left over does not fill one of the new ones. -/
theorem reindentLine_reindentLine {unit middle : Nat} (hunit : 0 < unit) (hle : unit ≤ middle) (width : Nat)
    (line : List Char) : reindentLine (spaces width) middle (reindentLine (spaces middle) unit line) =
      reindentLine (spaces width) unit line := by
  have hleft : indentation line % unit < middle := (Nat.mod_lt _ hunit).trans_le hle
  have hdiv : (indentation line / unit * middle + indentation line % unit) / middle = indentation line / unit := by
    rw [Nat.mul_comm, Nat.mul_add_div (hunit.trans_le hle), Nat.div_eq_of_lt hleft, Nat.add_zero]
  have hmod : (indentation line / unit * middle + indentation line % unit) % middle = indentation line % unit := by
    rw [Nat.mul_comm, Nat.mul_add_mod, Nat.mod_eq_of_lt hleft]
  rw [reindentLine_eq width middle, indentation_reindentLine, dropWhile_reindentLine, hdiv, hmod, ← reindentLine_eq]

/-- To indent a text anew is to move the starts of its lines: there are as many lines, each line is the same behind its
spaces, and of these each two become `b` and an odd one stays. Done in two steps, by way of any width of at least two, the
outcome is the same, and so the text comes back when the second step leads to the width of two. -/
theorem reindent_in_steps (text : String) {a : Nat} (ha : 2 ≤ a) (b : Nat) :
    ∃ between once,
      reindent text (spaces a) "  " = .ok between ∧ reindent text (spaces b) "  " = .ok once ∧
      reindent between (spaces b) (spaces a) = .ok once ∧ (b = 2 → once = text) ∧
      (Text.lines once.toList).length = (Text.lines text.toList).length ∧
      (Text.lines once.toList).map (·.dropWhile (· == ' ')) = (Text.lines text.toList).map (·.dropWhile (· == ' ')) ∧
      (Text.lines once.toList).map indentation =
        (Text.lines text.toList).map fun line => indentation line / 2 * b + indentation line % 2 := by
  have htwo : "  " = spaces 2 := by decide
  have ha' : 0 < a := Nat.lt_of_lt_of_le (by decide) ha
  obtain ⟨between, hbetween⟩ : ∃ between, reindent text (spaces a) (spaces 2) = .ok between :=
    ⟨_, reindent_eq (by decide) text a⟩
  obtain ⟨once, honce⟩ : ∃ once, reindent text (spaces b) (spaces 2) = .ok once := ⟨_, reindent_eq (by decide) text b⟩
  have hlines := lines_of_reindent (by decide : 0 < 2) honce
  rw [htwo]
  refine ⟨between, once, hbetween, honce, ?_, ?_, ?_, ?_, ?_⟩
  · have hsteps : (fun line => reindentLine (spaces b) a (reindentLine (spaces a) 2 line)) = reindentLine (spaces b) 2 :=
      funext (reindentLine_reindentLine (by decide) ha b)
    rw [← honce, reindent_eq ha', reindent_eq (by decide), lines_of_reindent (by decide) hbetween, List.map_map]
    exact congrArg (fun f => Except.ok (String.ofList (['\n'].intercalate ((Text.lines text.toList).map f)))) hsteps
  · rintro rfl
    rw [reindent, if_pos rfl] at honce
    exact (Except.ok.inj honce).symm
  · rw [hlines, List.length_map]
  · rw [hlines, List.map_map]
    exact List.map_congr_left fun line _ => dropWhile_reindentLine b 2 line
  · rw [hlines, List.map_map]
    exact List.map_congr_left fun line _ => indentation_reindentLine b 2 line

/-- The lines of a comment keep their space, and a line of code that is not indented evenly keeps its odd one. -/
theorem reindent_in_steps_comment : 2 ≤ 4 ∧ ∃ between once,
    reindent "/**\n * x\n */\n     y" (spaces 4) "  " = .ok between ∧ reindent between (spaces 3) (spaces 4) = .ok once ∧
      between = "/**\n * x\n */\n         y" ∧ once = "/**\n * x\n */\n       y" := by
  obtain ⟨between, once, hbetween, honce, hsteps, -⟩ :=
    reindent_in_steps "/**\n * x\n */\n     y" (by decide : 2 ≤ 4) 3
  have hfour : reindent "/**\n * x\n */\n     y" (spaces 4) "  " = .ok "/**\n * x\n */\n         y" :=
    toOption_eq_some_iff.mp (by decide +kernel)
  have hthree : reindent "/**\n * x\n */\n     y" (spaces 3) "  " = .ok "/**\n * x\n */\n       y" :=
    toOption_eq_some_iff.mp (by decide +kernel)
  exact ⟨by decide, between, once, hbetween, hsteps, Except.ok.inj (hbetween.symm.trans hfour),
    Except.ok.inj (honce.symm.trans hthree)⟩

/-- A space that is left over fills a unit of one, and then the second step does not lead back. -/
example : reindentLine (spaces 2) 1 (reindentLine (spaces 1) 2 " * x".toList) = "  * x".toList := by
  decide

end EdgeRoutes.Js
