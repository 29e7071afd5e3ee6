import EdgeRoutes.Generate.Plan
import EdgeRoutes.Proofs.Execution
import EdgeRoutes.Proofs.Results
import Mathlib.Tactic.SplitIfs

/-! Rewrite rules. The statements of a list of rules, with their branches nested in each other, do what going through
the rules one by one does. -/

namespace EdgeRoutes

open Pattern

/-- A rule together with the translation of its pattern. -/
abbrev TranslatedRule := RewriteRule × Translation

/-- The rules with their translations, if translating comes to an end for all of them. -/
def translateRules (dialect : Dialect) (rules : List RewriteRule) :
    Except Fault (List TranslatedRule) :=
  rules.mapM fun rule => (translate rule.regex dialect false).map (Prod.mk rule)

def TranslatedRule.substitution (r : TranslatedRule) : Substitution :=
  ⟨⟨r.2.source, r.2.ignoreCase⟩, r.1.replacement⟩

/-- The rule can be used and matches the path. -/
def TranslatedRule.applies (e : Engine) (r : TranslatedRule) (path : String) : Bool :=
  r.2.supported && e.matchesPattern r.2.source r.2.ignoreCase path

/-- The rules one by one, each on the path that the rules before it have left. A redirect ends the request, and a
final rule ends the list. -/
def followRules (e : Engine) (headers : Fields String) :
    List TranslatedRule → (path : String) → (rewritten : Bool) → Verdict
  | [], path, rewritten => .passed (.ofPath path rewritten)
  | r :: rules, path, rewritten =>
    if r.applies e path then
      let next := e.expand path (e.substitute r.substitution path)
      if r.1.isRedirect then .redirected next r.1.statusCode headers
      else if r.1.isFinal then .passed (.ofPath next true)
      else followRules e headers rules next true
    else followRules e headers rules path rewritten

def ruleStatements (headers : Fields String) : List TranslatedRule → List Statement
  | [] => []
  | r :: rules =>
    let rest := ruleStatements headers rules
    let s := r.substitution
    if !r.2.supported then
      .comment ("rewrite " ++ Js.commentText r.1.regex ++ " skipped: regex not translatable") :: rest
    else if r.1.isRedirect then
      .branch s.pattern [.finish (.redirect (.replaced s) r.1.statusCode headers)] none :: rest
    else if r.1.isFinal && !rules.isEmpty then [.branch s.pattern [.rewrite s] (some rest)]
    else .branch s.pattern [.rewrite s] none :: rest

theorem translateRules_cons (dialect : Dialect) (rule : RewriteRule) (rules : List RewriteRule) :
    translateRules dialect (rule :: rules) = (do
      let t ← translate rule.regex dialect false
      let rest ← translateRules dialect rules
      return (rule, t) :: rest) := by
  rw [translateRules, List.mapM_cons]
  cases translate rule.regex dialect false <;> rfl

theorem isEmpty_of_translateRules {dialect : Dialect} {rules : List RewriteRule}
    {ts : List TranslatedRule} (h : translateRules dialect rules = .ok ts) :
    ts.isEmpty = rules.isEmpty := by
  have hlength := (mapM_eq_ok_iff.mp h).length_eq
  rw [Bool.eq_iff_iff, List.isEmpty_iff_length_eq_zero, List.isEmpty_iff_length_eq_zero, hlength]

/-- Making the statements of rules needs nothing of them but their translations. -/
theorem rewriteStatements_eq (dialect : Dialect) (headers : Fields String) (rules : List RewriteRule) :
    rewriteStatements dialect headers rules =
      (translateRules dialect rules).map (ruleStatements headers) := by
  induction rules with
  | nil => rfl
  | cons rule rules ih =>
      rw [rewriteStatements, translateRules_cons, ih]
      cases ht : translate rule.regex dialect false with
      | error fault => rfl
      | ok t =>
          cases hrest : translateRules dialect rules with
          | error fault => rfl
          | ok rest =>
              have hempty := isEmpty_of_translateRules hrest
              simp only [Except.map, bind, Except.bind, pure, Except.pure, ruleStatements, ← hempty]
              split_ifs <;> rfl

theorem applies_eq (e : Engine) (rule : TranslatedRule) (path : String) (hs : rule.2.supported = true) :
    rule.applies e path = e.tests rule.substitution.pattern path := by
  rw [TranslatedRule.applies, hs, Bool.true_and]
  rfl

theorem runAll_singleton (e : Engine) (s : Statement) (r : RequestState) :
    Statement.runAll e [s] r = s.run e r := by
  rw [Statement.runAll]
  cases s.run e r <;> rfl

/-- What the statements of one rule do before those of the rules after it. The statements of the rules after a final
rule are inside its second branch, so they only run if it does not match. -/
theorem runAll_ruleStatements_cons (e : Engine) (headers : Fields String) (rule : TranslatedRule)
    (rules : List TranslatedRule) (r : RequestState) :
    Statement.runAll e (ruleStatements headers (rule :: rules)) r =
      if rule.applies e r.path then
        if rule.1.isRedirect then .redirected (e.replaced rule.substitution r) rule.1.statusCode headers
        else if rule.1.isFinal then .passed (e.rewrite rule.substitution r)
        else Statement.runAll e (ruleStatements headers rules) (e.rewrite rule.substitution r)
      else Statement.runAll e (ruleStatements headers rules) r := by
  by_cases hs : rule.2.supported = true
  · rw [applies_eq e rule r.path hs]
    by_cases hredirect : rule.1.isRedirect = true
    · have hstatements : ruleStatements headers (rule :: rules) =
          .branch rule.substitution.pattern
            [.finish (.redirect (.replaced rule.substitution) rule.1.statusCode headers)] none ::
            ruleStatements headers rules := by
        simp [ruleStatements, hs, hredirect]
      rw [hstatements, Statement.runAll, Statement.run, runAll_singleton, hredirect]
      cases e.tests rule.substitution.pattern r.path <;> rfl
    · by_cases hnested : (rule.1.isFinal && !rules.isEmpty) = true
      · have hstatements : ruleStatements headers (rule :: rules) =
            [.branch rule.substitution.pattern [.rewrite rule.substitution]
              (some (ruleStatements headers rules))] := by
          simp only [ruleStatements, hs, hredirect, hnested, Bool.not_true, Bool.false_eq_true, if_false, if_true]
        rw [Bool.and_eq_true] at hnested
        rw [hstatements, runAll_singleton, Statement.run, runAll_singleton, Statement.run, hnested.1]
        simp only [hredirect, Bool.false_eq_true, if_false, if_true]
      · have hstatements : ruleStatements headers (rule :: rules) =
            .branch rule.substitution.pattern [.rewrite rule.substitution] none ::
              ruleStatements headers rules := by
          simp only [ruleStatements, hs, hredirect, hnested, Bool.not_true, Bool.false_eq_true, if_false]
        -- A final rule that is not nested is the last one, and running no further rules changes nothing.
        have hlast : rule.1.isFinal = true → rules = [] := by
          intro hfinal
          simpa [hfinal] using hnested
        rw [hstatements, Statement.runAll, Statement.run, runAll_singleton, Statement.run]
        simp only [hredirect, Bool.false_eq_true, if_false]
        cases e.tests rule.substitution.pattern r.path with
        | false => rfl
        | true =>
            cases hfinal : rule.1.isFinal with
            | false => rfl
            | true =>
                rw [hlast hfinal]
                rfl
  · have happlies : rule.applies e r.path = false := by
      rw [TranslatedRule.applies, Bool.eq_false_iff.mpr hs, Bool.false_and]
    simp [ruleStatements, Statement.runAll, Statement.run, hs, happlies]

theorem runAll_ruleStatements (e : Engine) (headers : Fields String) (rules : List TranslatedRule)
    (path : String) (rewritten : Bool) :
    Statement.runAll e (ruleStatements headers rules) (.ofPath path rewritten) =
      followRules e headers rules path rewritten := by
  induction rules generalizing path rewritten with
  | nil => rfl
  | cons rule rules ih =>
      -- The variable for the path follows the path, so the substitution sees the same text on both sides.
      have hreplaced : e.replaced rule.substitution (.ofPath path rewritten) =
          e.expand path (e.substitute rule.substitution path) := rfl
      rw [runAll_ruleStatements_cons, followRules, Engine.rewrite, hreplaced, ih, ih]
      rfl

/-- The nested statements of a list of rules do what the rules do one by one; where a pattern cannot be translated at
all, there are no statements, and the fault is that of the first such pattern. -/
theorem runAll_rewriteStatements (e : Engine) (target : Target) (headers : Fields String)
    (rules : List RewriteRule) (path : String) (rewritten : Bool) :
    (rewriteStatements target.dialect headers rules).map
        (fun statements => Statement.runAll e statements (.ofPath path rewritten)) =
      (translateRules target.dialect rules).map
        (fun translated => followRules e headers translated path rewritten) := by
  rw [rewriteStatements_eq]
  cases translateRules target.dialect rules with
  | error fault => rfl
  | ok translated => exact congrArg Except.ok (runAll_ruleStatements e headers translated path rewritten)

end EdgeRoutes
