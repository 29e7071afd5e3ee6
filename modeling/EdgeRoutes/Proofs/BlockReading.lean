import EdgeRoutes.Program.Print
import EdgeRoutes.Proofs.ClassReading
import EdgeRoutes.Proofs.StringLiterals

/-! Reading blocks off the lines of emitted code. A block on a level begins with a line that opens it there and ends with
the first line after it that closes a block there; all that is between stands deeper. So the printed lines tell which
servers and locations have a block, behind which conditions, for which route, and which lines stand in each. -/

namespace EdgeRoutes

namespace Js

/-- The text of a line that stands on a level. -/
def textAt? (level : Nat) (line : String) : Option (List Char) :=
  Text.after? (spaces (2 * level)).toList line.toList

/-- The line is empty or holds a comment. -/
def isSilent (level : Nat) (line : String) : Bool :=
  line == "" || (textAt? level line).any (Text.starts "//".toList)

/-- The condition of the block that a line opens. -/
def readOpening? (level : Nat) (line : String) : Option String := do
  let text ← textAt? level line
  let rest ← Text.after? "if (".toList text
  let condition ← Text.after? ") \x7b".toList.reverse rest.reverse
  return String.ofList condition.reverse

/-- The line that closes a block. -/
def closingLine (level : Nat) : String := spaces (2 * level) ++ "\x7d"

/-- Reads the blocks on a level, each as its condition and the lines in it. `opened` is the block that the lines before
have opened, with what was read of it. Between blocks there are comments and empty lines. -/
def readBlocks? (level : Nat) (opened : Option (String × List String)) :
    List String → Option (List (String × List String))
  | [] => if opened.isSome then none else some []
  | line :: lines =>
    match opened with
    | some (condition, body) =>
      if line = closingLine level then (readBlocks? level none lines).map ((condition, body) :: ·)
      else readBlocks? level (some (condition, body ++ [line])) lines
    | none =>
      if isSilent level line then readBlocks? level none lines
      else (readOpening? level line).bind fun condition => readBlocks? level (some (condition, [])) lines

/-- Reads blocks of blocks: what they hold are blocks one level deeper. -/
def readNestedBlocks? (level : Nat) (lines : List String) : Option (List (String × List (String × List String))) := do
  let blocks ← readBlocks? level none lines
  blocks.mapM fun (condition, body) => (readBlocks? (level + 1) none body).map fun inner => (condition, inner)

/-- Reads the id in the condition of a block that is chosen by its route. -/
def readRouteId? (condition : String) : Option String := do
  let rest ← Text.after? "route === ".toList condition.toList
  let (id, rest) ← readString? rest
  if rest.isEmpty then some id else none

/-- Reads blocks that are chosen by their route, each as its id and the lines in it. -/
def readRouteBlocks? (level : Nat) (lines : List String) : Option (List (String × List String)) := do
  let blocks ← readBlocks? level none lines
  blocks.mapM fun (condition, body) => (readRouteId? condition).map fun id => (id, body)

theorem mapM_map_eq_some {α β γ : Type} {f : α → β} {g : β → Option γ} {k : α → γ} (h : ∀ a, g (f a) = some (k a))
    (as : List α) : (as.map f).mapM g = some (as.map k) := by
  induction as with
  | nil => rfl
  | cons a as ih =>
      rw [List.map_cons, List.mapM_cons, h, ih]
      rfl

section Lines

theorem append_ne_empty {a : String} (h : a ≠ "") (b : String) : a ++ b ≠ "" :=
  fun hempty => h (String.append_eq_empty_iff.mp hempty).1

theorem textAt?_append (level : Nat) (text : String) : textAt? level (spaces (2 * level) ++ text) = some text.toList := by
  rw [textAt?, String.toList_append, Text.after?_append]

theorem readOpening?_append (level : Nat) (condition : String) :
    readOpening? level (spaces (2 * level) ++ ("if (" ++ condition ++ ") \x7b")) = some condition := by
  have htext : ("if (" ++ condition ++ ") \x7b").toList = "if (".toList ++ (condition.toList ++ ") \x7b".toList) := by
    rw [String.toList_append, String.toList_append, List.append_assoc]
  rw [readOpening?, textAt?_append, htext]
  simp only [Option.bind_eq_bind, Option.bind_some, Text.after?_append, List.reverse_append, List.reverse_reverse,
    String.ofList_toList, Option.pure_def]

theorem isSilent_opening (level : Nat) (condition : String) :
    isSilent level (spaces (2 * level) ++ ("if (" ++ condition ++ ") \x7b")) = false := by
  have htext : ("if (" ++ condition ++ ") \x7b").toList = 'i' :: ("f (".toList ++ (condition.toList ++ ") \x7b".toList)) := by
    rw [String.toList_append, String.toList_append, List.append_assoc]
    rfl
  have hne : (spaces (2 * level) ++ ("if (" ++ condition ++ ") \x7b") == "") = false := by
    rw [beq_eq_false_iff_ne, Ne, String.append_eq_empty_iff, not_and]
    exact fun _ => append_ne_empty (append_ne_empty (by decide) _) _
  rw [isSilent, hne, textAt?_append, htext]
  rfl

theorem isSilent_comment (level : Nat) (text : String) :
    isSilent level (spaces (2 * level) ++ ("// " ++ text)) = true := by
  have htext : ("// " ++ text).toList = "//".toList ++ (' ' :: text.toList) := by
    rw [String.toList_append]
    rfl
  rw [isSilent, textAt?_append, htext, Option.any_some, Text.starts, Text.after?_append, Option.isSome_some,
    Bool.or_true]

/-- A line that stands deeper closes no block. -/
theorem ne_closingLine {level depth : Nat} (hdeeper : level < depth) (text : String) :
    spaces (2 * depth) ++ text ≠ closingLine level := by
  intro h
  have hspaces : spaces (2 * depth) = spaces (2 * level) ++ (" " ++ spaces (2 * (depth - level) - 1)) := by
    apply String.toList_injective
    have hcount : 2 * depth = 2 * level + (1 + (2 * (depth - level) - 1)) := by omega
    simp only [spaces, String.toList_append, String.toList_ofList]
    rw [hcount, List.replicate_add, List.replicate_add]
    rfl
  rw [hspaces, closingLine, String.append_assoc] at h
  have hlists := congrArg String.toList h
  simp only [String.toList_append] at hlists
  cases List.append_cancel_left hlists

end Lines

namespace Code

theorem lines_append (a b : Code) (level : Nat) : (a ++ b).lines level = a.lines level ++ b.lines level :=
  List.map_append

theorem lines_nested (code : Code) (level : Nat) : (nested code).lines level = code.lines (level + 1) := by
  rw [lines, nested, List.map_map, lines]
  refine List.map_congr_left fun line _ => ?_
  have hdepth : level + (line.depth + 1) = level + 1 + line.depth := by omega
  simp only [Function.comp_apply, hdepth]

theorem lines_flat_singleton {text : String} (h : text ≠ "") (level : Nat) :
    (flat [text]).lines level = [spaces (2 * level) ++ text] := by
  have hempty : text.isEmpty = false := by rwa [Bool.eq_false_iff, Ne, String.isEmpty_iff]
  simp only [flat, lines, List.map_cons, List.map_nil, hempty, Nat.add_zero, Bool.false_eq_true, if_false]

theorem ne_closingLine_of_mem {code : Code} {level : Nat} {line : String} (h : line ∈ code.lines (level + 1)) :
    line ≠ closingLine level := by
  obtain ⟨l, -, rfl⟩ := List.mem_map.mp h
  split_ifs
  · intro hempty
    have hlists := congrArg String.toList hempty
    rw [closingLine, String.toList_append] at hlists
    exact absurd hlists.symm (by simp)
  · exact ne_closingLine (by omega) l.text

end Code

section Blocks

variable {level : Nat} {condition : String} {body rest : List String}

/-- The lines of an open block are read up to the one that closes it. -/
theorem readBlocks?_body (hbody : ∀ line ∈ body, line ≠ closingLine level) (read : List String) :
    readBlocks? level (some (condition, read)) (body ++ closingLine level :: rest) =
      (readBlocks? level none rest).map ((condition, read ++ body) :: ·) := by
  induction body generalizing read with
  | nil => rw [List.nil_append, readBlocks?, if_pos rfl, List.append_nil]
  | cons line body ih =>
      obtain ⟨hline, hbody⟩ := List.forall_mem_cons.mp hbody
      rw [List.cons_append, readBlocks?, if_neg hline, ih hbody, List.append_assoc, List.singleton_append]

/-- The lines of the code are read as these blocks, whatever follows. -/
def ReadsAs (level : Nat) (code : Code) (blocks : List (String × List String)) : Prop :=
  ∀ rest, readBlocks? level none (code.lines level ++ rest) = (readBlocks? level none rest).map (blocks ++ ·)

namespace ReadsAs

theorem nil : ReadsAs level [] [] := by
  intro rest
  change readBlocks? level none rest = _
  cases readBlocks? level none rest <;> rfl

theorem append {a b : Code} {as bs : List (String × List String)} (ha : ReadsAs level a as) (hb : ReadsAs level b bs) :
    ReadsAs level (a ++ b) (as ++ bs) := by
  intro rest
  rw [Code.lines_append, List.append_assoc, ha, hb, Option.map_map]
  simp only [Function.comp_def, List.append_assoc]

theorem after_silent {a b : Code} {bs : List (String × List String)} (ha : ReadsAs level a [])
    (hb : ReadsAs level b bs) : ReadsAs level (a ++ b) bs := ha.append hb

theorem of_silent {line : String} (h : isSilent level line = true) {code : Code} (hlines : code.lines level = [line]) :
    ReadsAs level code [] := by
  intro rest
  rw [hlines, List.singleton_append, readBlocks?, if_pos h]
  cases readBlocks? level none rest <;> rfl

theorem comment (comments : Bool) (text : String) : ReadsAs level (commentCode comments text) [] := by
  unfold commentCode
  split_ifs
  · exact of_silent (isSilent_comment level text) (Code.lines_flat_singleton (append_ne_empty (by decide) _) level)
  · exact nil

/-- A guarded block is read as its condition and what stands in it. -/
theorem guarded (condition : String) (body : Code) :
    ReadsAs level (EdgeRoutes.guarded condition body) [(condition, body.lines (level + 1))] := by
  have hopening : "if (" ++ condition ++ ") \x7b" ≠ "" := append_ne_empty (append_ne_empty (by decide) _) _
  intro rest
  rw [EdgeRoutes.guarded, Code.block, Code.lines_append, Code.lines_append, Code.lines_flat_singleton hopening,
    Code.lines_nested, Code.lines_flat_singleton (by decide), List.append_assoc, List.append_assoc,
    List.singleton_append, List.singleton_append, readBlocks?, isSilent_opening, readOpening?_append]
  exact readBlocks?_body (fun line hline => Code.ne_closingLine_of_mem hline) []

variable {α : Type} {f : α → Code} {g : α → String × List String}

theorem flatMap (h : ∀ a, ReadsAs level (f a) [g a]) (as : List α) : ReadsAs level (as.flatMap f) (as.map g) := by
  induction as with
  | nil => exact nil
  | cons a as ih => exact (h a).append ih

theorem paragraphs (h : ∀ a, ReadsAs level (f a) [g a]) (as : List α) :
    ReadsAs level (EdgeRoutes.paragraphs (as.map f)) (as.map g) := by
  have hgap : ReadsAs level (Code.flat [""]) [] := of_silent rfl rfl
  induction as with
  | nil => exact nil
  | cons a as ih =>
      cases as with
      | nil => exact (h a).append nil
      | cons b as => exact (h a).append (hgap.after_silent ih)

/-- Where nothing follows, the blocks are all that is read. -/
theorem readBlocks?_eq {code : Code} {blocks : List (String × List String)} (h : ReadsAs level code blocks) :
    readBlocks? level none (code.lines level) = some blocks := by
  have hread := h []
  rwa [List.append_nil, readBlocks?, Option.isSome_none, if_neg Bool.false_ne_true, Option.map_some,
    List.append_nil] at hread

end ReadsAs

end Blocks

theorem readRouteId?_eq (id : String) : readRouteId? ("route === " ++ string id) = some id := by
  have hread : readString? ((string id).toList ++ []) = some (id, []) := readString?_string id []
  rw [List.append_nil] at hread
  rw [readRouteId?, String.toList_append, Text.after?_append]
  simp only [Option.bind_eq_bind, Option.bind_some, hread]
  rfl

end Js

open Js

section Reading

variable (t : Target) (comments : Bool) {level : Nat}

theorem readsAs_locationBlock (b : LocationBlock) : ReadsAs level (b.code t comments)
    [(b.condition.render "path", (Statement.codeAll t comments b.body).lines (level + 1))] := by
  unfold LocationBlock.code
  refine .after_silent (.after_silent (.comment comments _) ?_) (.guarded _ _)
  split_ifs
  · exact .comment comments _
  · exact .nil

theorem readsAs_serverBlock (b : ServerBlock) : ReadsAs level (b.code t comments)
    [(b.condition.render "hostname", Code.lines (b.locations.flatMap (LocationBlock.code t comments)) (level + 1))] :=
  .after_silent (.comment comments _) (.guarded _ _)

theorem readsAs_routeBlock (b : RouteBlock) : ReadsAs level (b.code t comments)
    [("route === " ++ string b.route.id, (Statement.codeAll t comments b.body).lines (level + 1))] :=
  .after_silent (.comment comments _) (.guarded _ _)

/-- The lines of server blocks tell the servers and their locations: the conditions, and the lines of each location's
statements. -/
theorem readNestedBlocks?_serverBlocks (level : Nat) (blocks : List ServerBlock) :
    readNestedBlocks? level ((paragraphs (blocks.map (ServerBlock.code t comments))).lines level) =
      some (blocks.map fun b => (b.condition.render "hostname", b.locations.map fun block =>
        (block.condition.render "path", (Statement.codeAll t comments block.body).lines (level + 2)))) := by
  have hservers : ReadsAs level (paragraphs (blocks.map (ServerBlock.code t comments))) _ :=
    .paragraphs (readsAs_serverBlock t comments) blocks
  rw [readNestedBlocks?, hservers.readBlocks?_eq, Option.bind_eq_bind, Option.bind_some]
  refine mapM_map_eq_some (fun b => ?_) blocks
  dsimp only
  rw [(ReadsAs.flatMap (readsAs_locationBlock t comments) b.locations).readBlocks?_eq]
  rfl

/-- The lines of route blocks tell the ids, and the lines of each location's statements. -/
theorem readRouteBlocks?_routeBlocks (level : Nat) (blocks : List RouteBlock) :
    readRouteBlocks? level ((paragraphs (blocks.map (RouteBlock.code t comments))).lines level) =
      some (blocks.map fun b => (b.route.id, (Statement.codeAll t comments b.body).lines (level + 1))) := by
  have hroutes : ReadsAs level (paragraphs (blocks.map (RouteBlock.code t comments))) _ :=
    .paragraphs (readsAs_routeBlock t comments) blocks
  rw [readRouteBlocks?, hroutes.readBlocks?_eq, Option.bind_eq_bind, Option.bind_some]
  refine mapM_map_eq_some (fun b => ?_) blocks
  dsimp only
  rw [readRouteId?_eq]
  rfl

end Reading

end EdgeRoutes
