import EdgeRoutes.Proofs.CommentLines
import EdgeRoutes.Proofs.RewriteRules
import EdgeRoutes.Proofs.RoutePhases
import EdgeRoutes.Proofs.StringLiterals

/-! The path that code sends to an upstream. It is the path of the request, or a text followed by what is left of that
path; how much is left is said by a prefix or by a number of UTF-16 units. What the code for a target says is read from
its lines, and the lines of the rules before them are never taken for those that say it. -/

namespace EdgeRoutes

open Js Js.Code Http

/-- The number of UTF-16 units of a text. -/
def units : List Char → Nat
  | [] => 0
  | c :: cs => (if c.toNat < 0x10000 then 1 else 2) + units cs

theorem length_le_units (cs : List Char) : cs.length ≤ units cs := by
  induction cs with
  | nil => exact Nat.le_refl 0
  | cons c cs ih =>
      rw [List.length_cons, units]
      split_ifs <;> omega

/-- Counting characters and counting units give the same just if no character has two units. -/
theorem units_eq_length_iff {cs : List Char} : units cs = cs.length ↔ ∀ c ∈ cs, c.toNat < 0x10000 := by
  induction cs with
  | nil => exact iff_of_true rfl nofun
  | cons c cs ih =>
      have hle := length_le_units cs
      rw [List.forall_mem_cons, ← ih, units, List.length_cons]
      by_cases hc : c.toNat < 0x10000
      · rw [if_pos hc]
        omega
      · rw [if_neg hc]
        omega

/-- How the path of a request is sent on. -/
inductive Forwarding where
  | unchanged
  /-- Text in which variables are filled in takes the place of the first units of the path. -/
  | replaced (uri : String) (offset : Nat)
  deriving DecidableEq

namespace Forwarding

/-- The path that is sent, in UTF-16 units. -/
def sent (expand : String → List UInt16) (path : List UInt16) : Forwarding → List UInt16
  | .unchanged => path
  | .replaced uri offset => expand uri ++ path.drop offset

/-- The part after an origin takes the place of a prefix, if there is one. -/
def ofUri (offset : Nat) : Option String → Forwarding
  | none => .unchanged
  | some uri => .replaced uri offset

theorem ofUri_injective (offset : Nat) {uri uri' : Option String} (h : ofUri offset uri = ofUri offset uri') :
    uri = uri' := by
  cases uri <;> cases uri' <;> cases h <;> rfl

/-- Different ways to send paths on send different paths. -/
theorem eq_of_sent {f g : Forwarding} (h : ∀ expand path, f.sent expand path = g.sent expand path) : f = g := by
  cases f with
  | unchanged =>
      cases g with
      | unchanged => rfl
      | replaced uri offset =>
          have hempty := h (fun _ => [0]) []
          simp [sent] at hempty
  | replaced uri offset =>
      cases g with
      | unchanged =>
          have hempty := h (fun _ => [0]) []
          simp [sent] at hempty
      | replaced uri' offset' =>
          have huri : uri = uri' := by
            by_contra hne
            have hempty := h (fun text => if text = uri then [0] else []) []
            simp [sent, Ne.symm hne] at hempty
          have hoffset := congrArg List.length (h (fun _ => []) (List.replicate (offset + offset') 0))
          simp only [sent, List.nil_append, List.length_drop, List.length_replicate] at hoffset
          rw [huri, show offset = offset' by omega]

end Forwarding

/-- What follows a mark on the first line of the code that starts with it. -/
def Js.Code.field? (mark : String) (code : Code) : Option (List Char) :=
  code.findSome? fun line => Text.after? mark.toList line.text.toList

/-- Reads an expression for a path, with the mark that ends its statement. -/
def readPath? (cs : List Char) : Option Forwarding :=
  if cs = "path;".toList then some .unchanged
  else do
    let rest ← Text.after? "expandVars(".toList cs
    let (uri, rest) ← readString? rest
    let rest ← Text.after? ", vars) + path.slice(".toList rest
    if rest.dropWhile Char.isDigit = ");".toList then
      return .replaced uri (Nat.ofDigitChars 10 (rest.takeWhile Char.isDigit) 0)
    else none

/-- Reads a value that is a string or null. -/
def readNullable? (cs : List Char) : Option (Option String) :=
  match Text.after? "null".toList cs with
  | some _ => some none
  | none => (readString? cs).map fun (text, _) => some text

/-- Reads the call of the helper that puts a text, if there is one, in the place of a prefix. -/
def readCall? (code : Code) : Option Forwarding := do
  let uri ← (code.field? "uri: ").bind readNullable?
  let (mount, _) ← (code.field? "prefix: ").bind readString?
  return .ofUri (units mount.toList) uri

/-- Reads how code for a target sends paths on. The network keeps the path of a request unless it is set. -/
def readForwarding? (target : Target) (code : Code) : Option Forwarding :=
  match target with
  | .worker | .minimal => readCall? code
  | .middleware => (code.field? "upstream.pathname = ").bind readPath?
  | .edgeHook =>
    match code.field? "request.uri = " with
    | some path => readPath? path
    | none => if code.getLast?.map (·.text) = some "return request;" then some .unchanged else none

section Reading

variable {mark : String}

theorem field?_append (a b : Code) : field? mark (a ++ b) = (a.field? mark).or (b.field? mark) :=
  List.findSome?_append

theorem field?_nested (code : Code) : field? mark (nested code) = code.field? mark := by
  rw [field?, nested, List.findSome?_map]
  rfl

theorem field?_flat (lines : List String) :
    field? mark (flat lines) = lines.findSome? fun line => Text.after? mark.toList line.toList := by
  rw [field?, flat, List.findSome?_map]
  rfl

/-- The line does not start with the mark. -/
def Lacks (mark line : String) : Prop := Text.after? mark.toList line.toList = none

instance (line : String) : Decidable (Lacks mark line) :=
  inferInstanceAs (Decidable (Text.after? mark.toList line.toList = none))

theorem field?_of_lacks {code : Code} (h : Each (Lacks mark) code) : code.field? mark = none :=
  List.findSome?_eq_none_iff.mpr h

/-- Two texts differ at a place that both have. -/
def clashes : List Char → List Char → Bool
  | a :: as, b :: bs => a != b || clashes as bs
  | _, _ => false

theorem clashes_append_left (a b c : List Char) : clashes (a ++ b) (a ++ c) = clashes b c := by
  induction a with
  | nil => rfl
  | cons d a ih => rw [List.cons_append, List.cons_append, clashes, bne_self_eq_false, Bool.false_or, ih]

theorem clashes_append {a b : List Char} (h : clashes a b = true) (c d : List Char) :
    clashes (a ++ c) (b ++ d) = true := by
  fun_induction clashes a b with
  | case1 x xs y ys ih =>
      rw [List.cons_append, List.cons_append, clashes, Bool.or_eq_true]
      exact (Bool.or_eq_true_iff.mp h).imp_right ih
  | case2 => cases h

theorem clashes_append_right {a b : List Char} (h : clashes a b = true) (c : List Char) : clashes a (b ++ c) = true := by
  have happend := clashes_append h [] c
  rwa [List.append_nil] at happend

/-- What clashes with the start of a text clashes with the text. -/
theorem clashes_of_startsWith {start : String} {cs : List Char} (hmark : Text.startsWith mark start = true)
    (h : clashes start.toList cs = true) : clashes mark.toList cs = true := by
  obtain ⟨rest, hrest⟩ := Text.startsWith_iff.mp hmark
  have happend := clashes_append h rest []
  rwa [List.append_nil, hrest] at happend

theorem lacks_of_startsWith {head line : String} (h : clashes mark.toList head.toList = true)
    (hline : Text.startsWith line head = true) : Lacks mark line := by
  obtain ⟨rest, hrest⟩ := Text.startsWith_iff.mp hline
  rw [Lacks, ← hrest]
  generalize mark.toList = ms at h
  generalize head.toList = cs at h
  fun_induction clashes ms cs with
  | case1 m ms c cs ih =>
      rw [List.cons_append, Text.after?]
      split_ifs with hm
      · rw [hm, bne_self_eq_false, Bool.false_or] at h
        exact ih h
      · rfl
  | case2 => cases h

theorem lacks_of_clashes {head : String} (h : clashes mark.toList head.toList = true) (rest : String) :
    Lacks mark (head ++ rest) := by
  refine lacks_of_startsWith h (Text.startsWith_iff.mpr ?_)
  rw [String.toList_append]
  exact List.prefix_append _ _

theorem lacks_between {head : String} (h : clashes mark.toList head.toList = true) (a b : String) :
    Lacks mark (head ++ a ++ b) := by
  rw [String.append_assoc]
  exact lacks_of_clashes h _

/-- The expression that puts a text in the place of a prefix is read back. -/
theorem readPath?_replacedMount (uri mount : String) :
    readPath? (replacedMount uri mount ++ ";").toList = some (.replaced uri mount.length) := by
  have hdigits : ∀ c ∈ Nat.toDigits 10 mount.length, c.isDigit = true := fun c hc =>
    Nat.isDigit_of_mem_toDigits (by decide) (by decide) hc
  have htext : (replacedMount uri mount ++ ";").toList =
      "expandVars(".toList ++ ((string uri).toList ++ (", vars) + path.slice(".toList ++
        (Nat.toDigits 10 mount.length ++ ");".toList))) := by
    have hslice : ", vars) + path.slice(".toList = ", vars)".toList ++ " + path.slice(".toList := rfl
    have hclose : ");".toList = ")".toList ++ ";".toList := rfl
    rw [replacedMount, expanded, Nat.toString_eq_repr, hslice, hclose]
    simp only [String.toList_append, Nat.toList_repr, List.append_assoc]
  have hother : (replacedMount uri mount ++ ";").toList ≠ "path;".toList := by
    rw [htext]
    intro h
    cases h
  rw [readPath?, if_neg hother, htext]
  simp only [Text.after?_append, Option.bind_eq_bind, Option.bind_some, readString?_string,
    List.dropWhile_append_of_pos hdigits, List.takeWhile_append_of_pos hdigits]
  have hrest : (");".toList.takeWhile Char.isDigit, ");".toList.dropWhile Char.isDigit) = ([], ");".toList) := by decide
  rw [(Prod.mk.inj hrest).1, (Prod.mk.inj hrest).2, if_pos rfl, List.append_nil, Nat.ofDigitChars_ten_toDigits]
  rfl

theorem after?_mark (mark rest : String) : Text.after? mark.toList (mark ++ rest).toList = some rest.toList := by
  rw [String.toList_append, Text.after?_append]

/-- Where the lines before the fields of the call do not have the mark, the fields are searched for it. -/
theorem field?_proxyCall {opening : String} {upstream : List String} {p : Proxy} {headers : Fields String}
    {rest : List Char} (hopening : clashes mark.toList "const response".toList = true)
    (hupstream : ∀ line ∈ upstream, Lacks mark line)
    (hfields : ["uri: " ++ p.uri.literal ++ ",", "prefix: " ++ string p.mount ++ ",",
      "headers: " ++ objectLiteral p.headers ++ ","].findSome? (fun line => Text.after? mark.toList line.toList) =
        some rest) : (proxyCall opening upstream p headers).field? mark = some rest := by
  have hcall : Lacks mark ("const response = await proxyRequest(" ++ opening ++ ", path, \x7b") := by
    have hsplit : "const response = await proxyRequest(" = "const response" ++ " = await proxyRequest(" := rfl
    rw [hsplit, String.append_assoc, String.append_assoc]
    exact lacks_of_clashes hopening _
  rw [Lacks] at hcall
  unfold proxyCall Code.block
  simp only [field?_append, field?_nested, field?_flat, List.findSome?_append, List.findSome?_singleton, hcall,
    List.findSome?_eq_none_iff.mpr hupstream, hfields, Option.none_or, Option.some_or]

theorem readNullable?_null (rest : List Char) : readNullable? ("null".toList ++ rest) = some none := by
  unfold readNullable?
  rw [Text.after?_append]

theorem readNullable?_string (text : String) (rest : List Char) :
    readNullable? ((string text).toList ++ rest) = some (some text) := by
  have hnull : Text.after? "null".toList ((string text).toList ++ rest) = none := by
    obtain ⟨tail, htail⟩ := exists_toList_string text
    have hother : ∀ cs, Text.after? "null".toList ('"' :: cs) = none := fun _ => rfl
    rw [htail, List.cons_append, hother]
  unfold readNullable?
  rw [hnull, readString?_string]
  rfl

theorem readNullable?_literal (uri : Option String) (rest : List Char) :
    readNullable? ((uri.elim UriPart.keep UriPart.replace).literal.toList ++ rest) = some uri := by
  cases uri with
  | none => exact readNullable?_null rest
  | some uri => exact readNullable?_string uri rest

theorem readCall?_proxyCall {opening : String} {upstream : List String} {p : Proxy} {headers : Fields String}
    (hupstream : ∀ line ∈ upstream, Lacks "uri: " line ∧ Lacks "prefix: " line) {uri : Option String}
    (huri : p.uri = uri.elim .keep .replace) :
    readCall? (proxyCall opening upstream p headers) = some (.ofUri (units p.mount.toList) uri) := by
  have hfield : (proxyCall opening upstream p headers).field? "uri: " = some (p.uri.literal ++ ",").toList := by
    refine field?_proxyCall rfl (fun line hline => (hupstream line hline).1) ?_
    rw [List.findSome?_cons, String.append_assoc, after?_mark]
  have hmount : (proxyCall opening upstream p headers).field? "prefix: " = some (string p.mount ++ ",").toList := by
    refine field?_proxyCall rfl (fun line hline => (hupstream line hline).2) ?_
    have hlacks : Lacks "prefix: " ("uri: " ++ p.uri.literal ++ ",") := lacks_between rfl _ _
    rw [Lacks] at hlacks
    rw [List.findSome?_cons, hlacks, List.findSome?_cons, String.append_assoc, after?_mark]
  unfold readCall?
  simp only [hfield, hmount, huri, Option.bind_some, readNullable?_literal, String.toList_append, readString?_string,
    Option.bind_eq_bind, Option.pure_def]

theorem readPath?_path : readPath? ("path" ++ ";").toList = some .unchanged := by
  unfold readPath?
  exact if_pos (by decide)

theorem readPath?_pathExpression (uri : Option String) (mount : String) :
    readPath? ((uri.elim UriPart.keep UriPart.replace).pathExpression mount ++ ";").toList =
      some (.ofUri mount.length uri) := by
  cases uri with
  | none => exact readPath?_path
  | some uri => exact readPath?_replacedMount uri mount

theorem field?_middleware (p : Proxy) (route : Route) (headers : Fields String) :
    (proxyCode .middleware p route headers).field? "upstream.pathname = " =
      some (p.uri.pathExpression p.mount ++ ";").toList := by
  have horigin : Lacks "upstream.pathname = " ("const upstream = new URL(" ++ expanded (string p.origin) ++ ");") :=
    lacks_between rfl _ _
  rw [Lacks] at horigin
  unfold proxyCode
  rw [field?_append, field?_flat, List.findSome?_cons, horigin, List.findSome?_cons, String.append_assoc, after?_mark]
  rfl

/-- No line of the code of rewrite rules starts with the mark. -/
def ForeignToRules (mark : String) : Prop :=
  ∀ head ∈ ["// ", "if (", "return ", "rewritten = true;", "path = ", "vars.uri = path;", "\x7d"],
    clashes mark.toList head.toList = true

instance : Decidable (ForeignToRules mark) := inferInstanceAs (Decidable (∀ head ∈ _, _))

theorem lacks_commentCode (hmark : ForeignToRules mark) (comments : Bool) (text : String) :
    Each (Lacks mark) (commentCode comments text) := by
  unfold commentCode
  split_ifs
  · refine each_flat.mpr (List.forall_mem_singleton.mpr ?_)
    exact lacks_of_clashes (hmark "// " (by decide)) text
  · exact each_nil

theorem lacks_substitutionCode (hmark : ForeignToRules mark) (s : Substitution) : Each (Lacks mark) s.code := by
  have hrewritten : Lacks mark "rewritten = true;" :=
    lacks_of_startsWith (hmark "rewritten = true;" (by decide)) (by decide)
  have hpath : Lacks mark ("path = " ++ expanded s.expression ++ ";") := lacks_between (hmark "path = " (by decide)) _ _
  have hvars : Lacks mark "vars.uri = path;" := lacks_of_startsWith (hmark "vars.uri = path;" (by decide)) (by decide)
  unfold Substitution.code
  rw [each_flat, List.forall_mem_cons, List.forall_mem_cons, List.forall_mem_singleton]
  exact ⟨hrewritten, hpath, hvars⟩

theorem lacks_redirectStatement (hmark : ForeignToRules mark) (target : Target) (url : String) (code : Nat)
    (headers : Fields String) : Lacks mark (redirectStatement target url code headers) := by
  have hreturn : Text.startsWith (redirectStatement target url code headers) "return " = true :=
    @IsReturn.startsWith _ (isReturn_redirectStatement target url code headers) ⟨0, _⟩ rfl
  exact lacks_of_startsWith (hmark "return " (by decide)) hreturn

/-- The branches of rules hold redirects and changes of the path, and the branches of other rules. -/
theorem lacks_branch (hmark : ForeignToRules mark) {target : Target} {comments : Bool} {p : PathPattern}
    {body : List Statement} {otherwise : Option (List Statement)}
    (hbody : Each (Lacks mark) (Statement.codeAll target comments body))
    (hotherwise : ∀ rest, otherwise = some rest → Each (Lacks mark) (Statement.codeAll target comments rest)) :
    Each (Lacks mark) ((Statement.branch p body otherwise).code target comments) := by
  have hopening : Lacks mark p.opening := by
    unfold PathPattern.opening
    exact lacks_between (hmark "if (" (by decide)) _ _
  have hclosing : Lacks mark "\x7d" := lacks_of_startsWith (hmark "\x7d" (by decide)) (by decide)
  have helse : Lacks mark "\x7d else \x7b" := lacks_of_startsWith (hmark "\x7d" (by decide)) (by decide)
  cases otherwise with
  | none =>
      rw [Statement.code, each_block]
      exact ⟨hopening, hbody, hclosing⟩
  | some rest =>
      rw [Statement.code, each_append, each_append, each_flat, each_nested, each_block, List.forall_mem_singleton]
      exact ⟨⟨hopening, hbody⟩, helse, hotherwise rest rfl, hclosing⟩

theorem codeAll_singleton (target : Target) (comments : Bool) (s : Statement) :
    Statement.codeAll target comments [s] = s.code target comments := by
  rw [Statement.codeAll, Statement.codeAll, List.append_nil]

/-- Rules have no line with a mark that is foreign to them. -/
theorem lacks_ruleStatements (hmark : ForeignToRules mark) (target : Target) (comments : Bool) (headers : Fields String)
    (rules : List TranslatedRule) :
    Each (Lacks mark) (Statement.codeAll target comments (ruleStatements headers rules)) := by
  have hrewrite : ∀ s : Substitution, Each (Lacks mark) (Statement.codeAll target comments [.rewrite s]) := by
    intro s
    rw [codeAll_singleton, Statement.code]
    exact lacks_substitutionCode hmark s
  have hredirect : ∀ destination code, Each (Lacks mark)
      (Statement.codeAll target comments [.finish (.redirect destination code headers)]) := by
    intro destination code
    rw [codeAll_singleton, Statement.code, Ending.code, each_flat, List.forall_mem_singleton]
    exact lacks_redirectStatement hmark target _ code headers
  have hnone : ∀ rest, none = some rest → Each (Lacks mark) (Statement.codeAll target comments rest) := by
    intro rest hrest
    cases hrest
  induction rules with
  | nil => exact each_nil
  | cons rule rules ih =>
      unfold ruleStatements
      simp only
      split_ifs
      · rw [Statement.codeAll, each_append, Statement.code]
        exact ⟨lacks_commentCode hmark comments _, ih⟩
      · rw [Statement.codeAll, each_append]
        exact ⟨lacks_branch hmark (hredirect _ _) hnone, ih⟩
      · rw [codeAll_singleton]
        exact lacks_branch hmark (hrewrite _) fun rest hrest => Option.some.inj hrest ▸ ih
      · rw [Statement.codeAll, each_append]
        exact ⟨lacks_branch hmark (hrewrite _) hnone, ih⟩

/-- The field of the ending is not hidden by the rules before it. -/
theorem field?_of_rules (hmark : ForeignToRules mark) {target : Target} {headers : Fields String}
    {rules : List RewriteRule} {statements : List Statement}
    (hrules : rewriteStatements target.dialect headers rules = .ok statements) (comments : Bool) (ending : Ending) :
    (Statement.codeAll target comments (statements ++ [.finish ending])).field? mark =
      (ending.code target).field? mark := by
  rw [rewriteStatements_eq] at hrules
  obtain ⟨translated, -, rfl⟩ := map_eq_ok_iff.mp hrules
  rw [codeAll_append, field?_append, field?_of_lacks (lacks_ruleStatements hmark target comments headers translated),
    codeAll_singleton, Statement.code, Option.none_or]

theorem lacks_setHeader (receiver name value : String) : Lacks "request.uri = " (setHeader receiver name value) := by
  unfold setHeader
  simp only [String.append_assoc]
  exact lacks_of_clashes rfl _

/-- Only the assignment of a path has the mark in the code that names an origin. -/
theorem field?_customOrigin (o : CustomOrigin) :
    o.code.field? "request.uri = " = (o.uri.assignment o.mount).field? "request.uri = " := by
  have hcustom : Each (Lacks "request.uri = ") (flat o.fields) := by
    simp only [each_flat, CustomOrigin.fields, List.forall_mem_cons]
    exact ⟨lacks_between rfl _ _, lacks_between rfl _ _, lacks_between rfl _ _, by decide, by decide,
      lacks_between rfl _ _, by decide, by decide, List.forall_mem_nil _⟩
  have hlast : Each (Lacks "request.uri = ") (flat ["return request;"]) :=
    each_flat.mpr (List.forall_mem_singleton.mpr (by decide))
  rw [o.code_eq, field?_append, field?_append, field?_append, field?_of_lacks hlast, Option.or_none, field?_of_lacks,
    field?_of_lacks, Option.none_or, Option.none_or]
  · rw [each_flat, List.forall_mem_map]
    exact fun entry _ => lacks_setHeader _ _ _
  · rw [each_block, each_block]
    exact ⟨by decide, ⟨by decide, hcustom, by decide⟩, by decide⟩

/-- The origin of a network is read for the path it is sent, whatever foreign code stands before it. -/
theorem readForwarding?_customOrigin (o : CustomOrigin) {uri : Option String} (huri : o.uri = uri.elim .keep .replace)
    (before : Code) (hbefore : Each (Lacks "request.uri = ") before) :
    readForwarding? .edgeHook (before ++ o.code) = some (.ofUri o.mount.length uri) := by
  have hfield : field? "request.uri = " (before ++ o.code) = (o.uri.assignment o.mount).field? "request.uri = " := by
    rw [field?_append, field?_of_lacks hbefore, Option.none_or, field?_customOrigin]
  have hlast : ((before ++ o.code).getLast?.map (·.text)) = some "return request;" := by
    unfold CustomOrigin.code
    rw [← List.append_assoc]
    exact congrArg (Option.map _) List.getLast?_concat
  unfold readForwarding?
  simp only [hfield, hlast]
  rw [huri]
  cases uri with
  | none => rfl
  | some uri =>
      have hassign : (Option.elim (some uri) UriPart.keep UriPart.replace).assignment o.mount =
          flat ["request.uri = " ++ replacedMount uri o.mount ++ ";"] := rfl
      rw [hassign, field?_flat, List.findSome?_singleton, String.append_assoc, after?_mark]
      exact readPath?_replacedMount uri o.mount

end Reading

end EdgeRoutes
