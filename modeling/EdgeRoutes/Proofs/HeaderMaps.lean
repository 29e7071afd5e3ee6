import EdgeRoutes.Proofs.Conversions
import EdgeRoutes.Proofs.Flattening
import EdgeRoutes.Proofs.OrderedMaps

/-! Headers of a location. Of the directives that set a header the last one counts, letter case aside, and the headers
stand in the order of the directives that count. A directive that gives no value is reported and changes nothing. On
responses the caching rule of `expires` stands before these headers, unless one of them is about caching. -/

namespace EdgeRoutes

open Build Http Location

/-- The two kinds of headers that a location sets. -/
inductive HeaderKind where
  /-- Headers of responses. -/
  | response
  /-- Headers of requests to an upstream. -/
  | request

/-- Names of headers that differ in more than letter case. -/
def DistinctNames (headers : Fields String) : Prop :=
  headers.Pairwise fun a b => Text.lower a.1 ≠ Text.lower b.1

namespace HeaderKind

def directive : HeaderKind → String
  | .response => "add_header"
  | .request => "proxy_set_header"

/-- The headers of the kind among the directives of a location. -/
def headers (kind : HeaderKind) (ds : Directives) : Fields String :=
  match kind with
  | .response => ds.addHeaders
  | .request => ds.proxyHeaders

/-- The header that arguments set. The first one is its name, and the others, with single spaces between them, are its
value. A last word `always` is no part of the value of a response header if a word of the value stands before it. -/
inductive Sets : HeaderKind → List String → String × String → Prop where
  | whole {kind : HeaderKind} (name : String) {values : List String} (hvalues : values ≠ [])
      (hlast : kind = .response → 1 < values.length → values.getLast? ≠ some "always") :
      Sets kind (name :: values) (name, Text.joined " " values)
  | always (name : String) {values : List String} (hvalues : values ≠ []) :
      Sets .response (name :: (values ++ ["always"])) (name, Text.joined " " values)

/-- The directive at a place among others sets a header. -/
def SetAt (kind : HeaderKind) (ds : List Directive) (i : Nat) (e : String × String) : Prop :=
  ∃ d, ds[i]? = some d ∧ d.name = kind.directive ∧ kind.Sets d.args e

/-- The directive at a place sets a header, and no later one sets a header of the same name. -/
def CountsAt (kind : HeaderKind) (ds : List Directive) (i : Nat) (e : String × String) : Prop :=
  kind.SetAt ds i e ∧ ∀ j e', i < j → kind.SetAt ds j e' → Text.lower e'.1 ≠ Text.lower e.1

/-- The headers are those of the directives that count, in the order of these directives. -/
structure LastWins (kind : HeaderKind) (ds : List Directive) (headers : Fields String) : Prop where
  distinct : DistinctNames headers
  ordered : ∃ places : List Nat, places.Pairwise (· < ·) ∧ List.Forall₂ (kind.CountsAt ds) places headers ∧
    ∀ i e, kind.CountsAt ds i e → i ∈ places

/-- The header that a directive sets, if it sets one of the kind. -/
def setting? (kind : HeaderKind) (d : Directive) : Option (String × String) :=
  match d.args with
  | name :: value :: values =>
    if d.name = kind.directive then some (name, headerValue d.name (value :: values)) else none
  | _ => none

/-- The headers that count among directives, with the places of these, which are counted from `i`. -/
def counting (kind : HeaderKind) (i : Nat) : List Directive → List (Nat × String × String)
  | [] => []
  | d :: ds =>
    match kind.setting? d with
    | none => kind.counting (i + 1) ds
    | some e =>
      if (kind.counting (i + 1) ds).any fun x => sameHeader e.1 x.2.1 then kind.counting (i + 1) ds
      else (i, e) :: kind.counting (i + 1) ds

variable {kind : HeaderKind}

theorem sameHeader_iff {a b : String} : sameHeader a b = true ↔ Text.lower a = Text.lower b := beq_iff_eq

theorem headerValue_of_always {values : List String} (hvalues : values ≠ []) :
    headerValue "add_header" (values ++ ["always"]) = Text.joined " " values := by
  have hlength : 1 < (values ++ ["always"]).length := by
    have := List.length_pos_iff.mpr hvalues
    simp only [List.length_append, List.length_singleton]
    omega
  simp only [headerValue, List.getLast?_concat, List.dropLast_concat, hlength, beq_self_eq_true, decide_true,
    Bool.and_self, if_true]

theorem headerValue_of_whole {values : List String}
    (hlast : kind = .response → 1 < values.length → values.getLast? ≠ some "always") :
    headerValue kind.directive values = Text.joined " " values := by
  have hnot : (kind.directive == "add_header" && decide (1 < values.length) &&
      values.getLast? == some "always") = false := by
    cases kind with
    | request => rfl
    | response =>
        by_cases hlength : 1 < values.length
        · simp [directive, hlength, hlast rfl hlength]
        · simp [hlength]
  rw [headerValue, hnot]
  rfl

/-- What is kept of the arguments after the name is the value that they set. -/
theorem sets_iff {name : String} {values : List String} {e : String × String} :
    kind.Sets (name :: values) e ↔ values ≠ [] ∧ e = (name, headerValue kind.directive values) := by
  constructor
  · rintro (⟨_, hvalues, hlast⟩ | ⟨_, hvalues⟩)
    · exact ⟨hvalues, by rw [headerValue_of_whole hlast]⟩
    · exact ⟨by simp, by rw [directive, headerValue_of_always hvalues]⟩
  · rintro ⟨hvalues, rfl⟩
    by_cases halways : kind = .response ∧ 1 < values.length ∧ values.getLast? = some "always"
    · obtain ⟨rfl, hlength, hlast⟩ := halways
      obtain ⟨before, rfl⟩ := List.getLast?_eq_some_iff.mp hlast
      have hbefore : before ≠ [] := by
        rintro rfl
        exact absurd hlength (by simp)
      rw [directive, headerValue_of_always hbefore]
      exact Sets.always name hbefore
    · have hlast : kind = .response → 1 < values.length → values.getLast? ≠ some "always" :=
        fun hkind hlength hlast => halways ⟨hkind, hlength, hlast⟩
      rw [headerValue_of_whole hlast]
      exact Sets.whole name hvalues hlast

theorem setting?_eq_some_iff {d : Directive} {e : String × String} :
    kind.setting? d = some e ↔ d.name = kind.directive ∧ kind.Sets d.args e := by
  obtain ⟨name, args, line⟩ := d
  rcases args with - | ⟨first, - | ⟨value, values⟩⟩
  · simp only [setting?, reduceCtorEq, false_iff, not_and]
    rintro - ⟨⟩
  · simp [setting?, sets_iff]
  · simp only [setting?, sets_iff, ne_eq, reduceCtorEq, not_false_eq_true, true_and]
    by_cases hname : name = kind.directive
    · simp [hname, eq_comm]
    · simp [hname]

theorem setAt_zero {d : Directive} {ds : List Directive} {e : String × String} :
    kind.SetAt (d :: ds) 0 e ↔ kind.setting? d = some e := by
  simp [SetAt, setting?_eq_some_iff]

theorem setAt_succ {d : Directive} {ds : List Directive} {i : Nat} {e : String × String} :
    kind.SetAt (d :: ds) (i + 1) e ↔ kind.SetAt ds i e := Iff.rfl

theorem not_setAt_nil {i : Nat} {e : String × String} : ¬ kind.SetAt [] i e := by
  rintro ⟨d, hd, -⟩
  cases hd

theorem countsAt_succ {d : Directive} {ds : List Directive} {i : Nat} {e : String × String} :
    kind.CountsAt (d :: ds) (i + 1) e ↔ kind.CountsAt ds i e := by
  constructor
  · rintro ⟨hset, hlater⟩
    exact ⟨hset, fun j e' hj hset' => hlater (j + 1) e' (by omega) hset'⟩
  · rintro ⟨hset, hlater⟩
    refine ⟨hset, fun j e' hj hset' => ?_⟩
    obtain ⟨j, rfl⟩ := Nat.exists_eq_add_of_lt (Nat.zero_lt_of_lt hj)
    exact hlater (0 + j) e' (by omega) hset'

theorem countsAt_zero {d : Directive} {ds : List Directive} {e : String × String} :
    kind.CountsAt (d :: ds) 0 e ↔
      kind.setting? d = some e ∧ ∀ j e', kind.SetAt ds j e' → Text.lower e'.1 ≠ Text.lower e.1 := by
  rw [CountsAt, setAt_zero]
  refine and_congr_right fun _ => ⟨fun h j e' => h (j + 1) e' (Nat.succ_pos j), fun h j e' hj => ?_⟩
  obtain ⟨j, rfl⟩ := Nat.exists_eq_add_of_lt hj
  exact h (0 + j) e'

theorem counting_of_none {d : Directive} (h : kind.setting? d = none) (i : Nat) (ds : List Directive) :
    kind.counting i (d :: ds) = kind.counting (i + 1) ds := by
  rw [counting, h]

theorem counting_of_some {d : Directive} {e : String × String} (h : kind.setting? d = some e) (i : Nat)
    (ds : List Directive) :
    kind.counting i (d :: ds) =
      if (kind.counting (i + 1) ds).any fun x => sameHeader e.1 x.2.1 then kind.counting (i + 1) ds
      else (i, e) :: kind.counting (i + 1) ds := by
  rw [counting, h]

/-- Of every name that is set a header counts. -/
theorem exists_counting_of_setAt {ds : List Directive} {j : Nat} {e : String × String} (h : kind.SetAt ds j e)
    (i : Nat) : ∃ x ∈ kind.counting i ds, Text.lower e.1 = Text.lower x.2.1 := by
  induction ds generalizing i j with
  | nil => exact absurd h not_setAt_nil
  | cons d ds ih =>
      cases hset : kind.setting? d with
      | none =>
          rw [counting_of_none hset]
          cases j with
          | zero =>
              rw [setAt_zero, hset] at h
              cases h
          | succ j => exact ih (setAt_succ.mp h) (i + 1)
      | some e' =>
          rw [counting_of_some hset]
          cases j with
          | zero =>
              rw [setAt_zero, hset] at h
              cases h
              split_ifs with hlater
              · obtain ⟨x, hx, hsame⟩ := List.any_eq_true.mp hlater
                exact ⟨x, hx, sameHeader_iff.mp hsame⟩
              · exact ⟨(i, e), List.mem_cons_self, rfl⟩
          | succ j =>
              obtain ⟨x, hx, hsame⟩ := ih (setAt_succ.mp h) (i + 1)
              split_ifs
              · exact ⟨x, hx, hsame⟩
              · exact ⟨x, List.mem_cons_of_mem _ hx, hsame⟩

/-- A header counts at the place of its directive. -/
theorem mem_counting {ds : List Directive} {i k : Nat} {e : String × String} :
    (k, e) ∈ kind.counting i ds ↔ ∃ j, k = i + j ∧ kind.CountsAt ds j e := by
  induction ds generalizing i k e with
  | nil => simp [counting, CountsAt, not_setAt_nil]
  | cons d ds ih =>
      have hlater : (k, e) ∈ kind.counting (i + 1) ds ↔ ∃ j, k = i + (j + 1) ∧ kind.CountsAt (d :: ds) (j + 1) e := by
        simp only [ih, countsAt_succ, Nat.add_assoc, Nat.add_comm 1]
      have hsplit : (∃ j, k = i + j ∧ kind.CountsAt (d :: ds) j e) ↔
          (k = i ∧ kind.CountsAt (d :: ds) 0 e) ∨ (k, e) ∈ kind.counting (i + 1) ds := by
        rw [hlater]
        constructor
        · rintro ⟨- | j, hj⟩
          · exact Or.inl hj
          · exact Or.inr ⟨j, hj⟩
        · rintro (h | ⟨j, hj⟩)
          · exact ⟨0, h⟩
          · exact ⟨j + 1, hj⟩
      rw [hsplit, countsAt_zero]
      cases hd : kind.setting? d with
      | none => simp [counting_of_none hd]
      | some own =>
          rw [counting_of_some hd]
          have hrepeated : ((kind.counting (i + 1) ds).any fun x => sameHeader own.1 x.2.1) = true ↔
              ∃ j e', kind.SetAt ds j e' ∧ Text.lower e'.1 = Text.lower own.1 := by
            rw [List.any_eq_true]
            constructor
            · rintro ⟨⟨k', e'⟩, hx, hsame⟩
              obtain ⟨j, -, hset, -⟩ := ih.mp hx
              exact ⟨j, e', hset, (sameHeader_iff.mp hsame).symm⟩
            · rintro ⟨j, e', hset, hname⟩
              obtain ⟨x, hx, hsame⟩ := exists_counting_of_setAt hset (i + 1)
              exact ⟨x, hx, sameHeader_iff.mpr (hname.symm.trans hsame)⟩
          split_ifs with hlast
          · obtain ⟨j, e', hset, hname⟩ := hrepeated.mp hlast
            refine ⟨Or.inr, fun h => h.resolve_left ?_⟩
            rintro ⟨-, hown, hlater⟩
            cases hown
            exact hlater j e' hset hname
          · rw [List.mem_cons, Prod.mk.injEq]
            refine or_congr_left ⟨?_, fun ⟨hk, hown, _⟩ => ⟨hk, (Option.some.inj hown).symm⟩⟩
            rintro ⟨rfl, rfl⟩
            exact ⟨rfl, rfl, fun j e' hset hname => hlast (hrepeated.mpr ⟨j, e', hset, hname⟩)⟩

theorem pairwise_counting (i : Nat) (ds : List Directive) :
    (kind.counting i ds).Pairwise fun x y => x.1 < y.1 := by
  induction ds generalizing i with
  | nil => exact List.Pairwise.nil
  | cons d ds ih =>
      cases hset : kind.setting? d with
      | none =>
          rw [counting_of_none hset]
          exact ih (i + 1)
      | some e =>
          rw [counting_of_some hset]
          split_ifs
          · exact ih (i + 1)
          · refine List.pairwise_cons.mpr ⟨fun x hx => ?_, ih (i + 1)⟩
            obtain ⟨j, hj, -⟩ := mem_counting.mp hx
            change i < x.1
            omega

/-- What counts among the directives is what their last settings give. -/
theorem lastWins_counting (ds : List Directive) : kind.LastWins ds ((kind.counting 0 ds).map Prod.snd) := by
  have hcounts : ∀ x ∈ kind.counting 0 ds, kind.CountsAt ds x.1 x.2 := by
    intro x hx
    obtain ⟨j, hj, hcounts⟩ := mem_counting.mp hx
    rwa [hj, Nat.zero_add]
  constructor
  · refine List.pairwise_map.mpr ((pairwise_counting 0 ds).imp_of_mem fun hx hy hlt => ?_)
    exact ((hcounts _ hx).2 _ _ hlt (hcounts _ hy).1).symm
  · refine ⟨(kind.counting 0 ds).map Prod.fst, List.pairwise_map.mpr (pairwise_counting 0 ds), ?_, ?_⟩
    · rw [List.forall₂_map_left_iff, List.forall₂_map_right_iff, List.forall₂_same]
      exact hcounts
    · intro i e hi
      exact List.mem_map.mpr ⟨(i, e), mem_counting.mpr ⟨i, (Nat.zero_add i).symm, hi⟩, rfl⟩

theorem setting?_of_name_ne {d : Directive} (h : d.name ≠ kind.directive) : kind.setting? d = none :=
  Option.eq_none_iff_forall_not_mem.mpr fun _ he => h (setting?_eq_some_iff.mp he).1

theorem result_applyHeader {d : Directive} (h : d.name = kind.directive) (headers : Fields String) :
    (applyHeader headers d).result =
      .ok ((kind.setting? d).elim headers fun e => putHeader headers e.1 e.2) := by
  obtain ⟨name, args, line⟩ := d
  obtain rfl : name = kind.directive := h
  rcases args with - | ⟨first, - | ⟨value, values⟩⟩
  · rfl
  · rfl
  · simp only [setting?, if_true]
    rfl

theorem headers_of_keep {read read' : Directives} {d : Directive} (h : (read.keep d).result = .ok read') :
    read'.addHeaders = read.addHeaders ∧ read'.proxyHeaders = read.proxyHeaders := by
  simp only [Directives.keep, Logged.result_bind] at h
  obtain ⟨value, -, h⟩ := bind_eq_ok_iff.mp h
  cases h
  exact ⟨rfl, rfl⟩

/-- Headers change with their own directive only. -/
theorem headers_of_apply_other {read read' : Directives} {d : Directive} (h : (read.apply d).result = .ok read') :
    (d.name ≠ "add_header" → read'.addHeaders = read.addHeaders) ∧
      (d.name ≠ "proxy_set_header" → read'.proxyHeaders = read.proxyHeaders) := by
  unfold Directives.apply at h
  split at h
  case h_13 => exact ⟨fun _ => (headers_of_keep h).1, fun _ => (headers_of_keep h).2⟩
  case h_5 | h_6 | h_7 | h_8 =>
    cases h
    exact ⟨fun _ => rfl, fun _ => rfl⟩
  case h_10 =>
    rw [Logged.result_bind] at h
    obtain ⟨- | answer, -, h⟩ := bind_eq_ok_iff.mp h
    · exact ⟨fun _ => (headers_of_keep h).1, fun _ => (headers_of_keep h).2⟩
    · cases h
      exact ⟨fun _ => rfl, fun _ => rfl⟩
  all_goals
    rw [Logged.result_bind] at h
    obtain ⟨value, -, h⟩ := bind_eq_ok_iff.mp h
    cases h
  case h_11 hname => exact ⟨fun hne => absurd hname hne, fun _ => rfl⟩
  case h_12 hname => exact ⟨fun _ => rfl, fun hne => absurd hname hne⟩
  all_goals exact ⟨fun _ => rfl, fun _ => rfl⟩

/-- A directive of a location puts the header that it sets, and touches no other header. -/
theorem headers_of_apply {read read' : Directives} {d : Directive} (h : (read.apply d).result = .ok read') :
    kind.headers read' =
      (kind.setting? d).elim (kind.headers read) fun e => putHeader (kind.headers read) e.1 e.2 := by
  by_cases hname : d.name = kind.directive
  · have happly := hname
    cases kind with
    | response =>
        rw [Directives.apply, happly, directive] at h
        simp only [Logged.result_bind, result_applyHeader hname] at h
        cases h
        rfl
    | request =>
        rw [Directives.apply, happly, directive] at h
        simp only [Logged.result_bind, result_applyHeader hname] at h
        cases h
        rfl
  · rw [setting?_of_name_ne hname, Option.elim_none]
    cases kind with
    | response => exact (headers_of_apply_other h).1 hname
    | request => exact (headers_of_apply_other h).2 hname

/-- The headers already read are kept as far as none of the directives sets them. -/
theorem headers_of_readAll {read read' : Directives} {ds : List Directive} (h : read.readAll ds = .ok read') (i : Nat) :
    kind.headers read' =
      ((kind.headers read).filter fun e => !(kind.counting i ds).any fun x => sameHeader e.1 x.2.1) ++
        (kind.counting i ds).map Prod.snd := by
  induction ds generalizing read i with
  | nil =>
      cases h
      simp [counting]
  | cons d ds ih =>
      obtain ⟨next, hnext, hrest⟩ := bind_eq_ok_iff.mp h
      rw [ih hrest (i + 1), headers_of_apply hnext]
      cases hd : kind.setting? d with
      | none =>
          rw [counting_of_none hd]
          rfl
      | some own =>
          rw [counting_of_some hd, Option.elim_some, putHeader, List.filter_append, List.filter_filter]
          split_ifs with hlater
          · -- the setting does not count, and what counts later replaces the same headers
            obtain ⟨x, hx, hsame⟩ := List.any_eq_true.mp hlater
            have hown : ∀ e : String × String, sameHeader e.1 own.1 = true →
                ((kind.counting (i + 1) ds).any fun x => sameHeader e.1 x.2.1) = true := fun e he =>
              List.any_eq_true.mpr ⟨x, hx, sameHeader_iff.mpr ((sameHeader_iff.mp he).trans (sameHeader_iff.mp hsame))⟩
            rw [List.filter_cons_of_neg (by simpa using hlater), List.filter_nil, List.append_nil]
            congr 1
            refine List.filter_congr fun e _ => ?_
            cases hsame : sameHeader e.1 own.1 with
            | false => simp
            | true => simp [hown e hsame]
          · rw [List.filter_cons_of_pos (by simpa using hlater), List.filter_nil, List.append_assoc]
            congr 1
            refine List.filter_congr fun e _ => ?_
            simp [Bool.and_comm]

/-- The last settings among the directives of a location are its headers. -/
theorem lastWins_of_readAll {ds : List Directive} {read : Directives} (h : Directives.readAll {} ds = .ok read) :
    kind.LastWins ds (kind.headers read) := by
  have hempty : kind.headers {} = [] := by cases kind <;> rfl
  rw [headers_of_readAll h 0, hempty, List.filter_nil, List.nil_append]
  exact lastWins_counting ds

theorem apply_of_short {d : Directive} (hname : d.name = kind.directive) (hargs : d.args.length < 2)
    (read : Directives) :
    read.apply d = ⟨[Event.anomaly Build.source ("'" ++ d.name ++ "' needs a name and a value") d.line], .ok read⟩ := by
  obtain ⟨name, args, line⟩ := d
  obtain rfl : name = kind.directive := hname
  rcases args with - | ⟨first, - | ⟨value, values⟩⟩
  · cases kind <;> rfl
  · cases kind <;> rfl
  · exact absurd hargs (by simp)

end HeaderKind

/-- The second computation does what the first one does and reports one event more. -/
structure Logged.AddsEvent {α : Type} (event : Event) (x y : Logged α) : Prop where
  result : y.result = x.result
  events : ∀ a, x.result = .ok a →
    ∃ before after, x.events = before ++ after ∧ y.events = before ++ event :: after

namespace Logged.AddsEvent

variable {α β : Type} {event : Event}

theorem bind_left {x y : Logged α} (h : AddsEvent event x y) (f : α → Logged β) :
    AddsEvent event (x >>= f) (y >>= f) := by
  cases hx : x.result with
  | error fault =>
      rw [Logged.bind_of_result_error hx, Logged.bind_of_result_error (h.result.trans hx)]
      exact ⟨rfl, fun _ ha => by cases ha⟩
  | ok a =>
      rw [Logged.bind_of_result_ok hx, Logged.bind_of_result_ok (h.result.trans hx)]
      obtain ⟨before, after, hbefore, hafter⟩ := h.events a hx
      refine ⟨rfl, fun _ _ => ⟨before, after ++ (f a).events, ?_, ?_⟩⟩
      · rw [hbefore, List.append_assoc]
      · rw [hafter, List.append_assoc, List.cons_append]

theorem bind_right {x : Logged α} {f g : α → Logged β}
    (h : ∀ a, x.result = .ok a → AddsEvent event (f a) (g a)) : AddsEvent event (x >>= f) (x >>= g) := by
  cases hx : x.result with
  | error fault =>
      rw [Logged.bind_of_result_error hx, Logged.bind_of_result_error hx]
      exact ⟨rfl, fun _ ha => by cases ha⟩
  | ok a =>
      rw [Logged.bind_of_result_ok hx, Logged.bind_of_result_ok hx]
      refine ⟨(h a hx).result, fun b hb => ?_⟩
      obtain ⟨before, after, hbefore, hafter⟩ := (h a hx).events b hb
      exact ⟨x.events ++ before, after, by rw [hbefore, List.append_assoc], by rw [hafter, List.append_assoc]⟩

/-- A step that only reports the event. -/
theorem of_report {x : Logged α} {a : α} (hx : x = ⟨[event], .ok a⟩) (f : α → Logged β) :
    AddsEvent event (f a) (x >>= f) := by
  rw [Logged.bind_of_result_ok (by rw [hx]), hx]
  exact ⟨rfl, fun _ _ => ⟨[], (f a).events, rfl, rfl⟩⟩

end Logged.AddsEvent

namespace Location

/-- A directive that only reports an event, wherever it stands inside a location, adds this event and nothing else. -/
theorem addsEvent_of_inside {d : Directive} {event : Event} (hname : d.name ≠ "location")
    (hd : ∀ read : Directives, read.apply d = ⟨[event], .ok read⟩) (path : String) (read : Directives)
    (before after : List Node) :
    Logged.AddsEvent event (inside path read (before ++ after)) (inside path read (before ++ .simple d :: after)) := by
  induction before generalizing read with
  | nil =>
      have hlocation : ((Node.simple d).name == "location") = false := beq_eq_false_iff_ne.mpr hname
      rw [List.nil_append, List.nil_append, inside.eq_2, hlocation]
      exact Logged.AddsEvent.of_report (hd read) fun read => inside path read after
  | cons child before ih =>
      rw [List.cons_append, List.cons_append, inside, inside]
      split_ifs
      · exact Logged.AddsEvent.bind_right fun nested _ => (ih read).bind_left _
      · exact Logged.AddsEvent.bind_right fun _ _ => ih read
      · exact Logged.AddsEvent.bind_right fun read _ => ih read

theorem addsEvent_of_ofNode {d : Directive} {event : Event} (hname : d.name ≠ "location")
    (hd : ∀ read : Directives, read.apply d = ⟨[event], .ok read⟩) {head : Directive} {before after : List Node}
    {found : List Location} (h : (ofNode (.block head (before ++ .simple d :: after))).result = .ok found)
    (hfound : found ≠ []) :
    Logged.AddsEvent event (ofNode (.block head (before ++ after)))
      (ofNode (.block head (before ++ .simple d :: after))) := by
  rw [ofNode] at h ⊢
  rw [ofNode]
  cases htarget : target? head.args with
  | none =>
      rw [htarget, Logged.result_bind] at h
      obtain ⟨-, -, h⟩ := bind_eq_ok_iff.mp h
      cases h
      exact absurd rfl hfound
  | some target => exact (addsEvent_of_inside hname hd target.2 {} before after).bind_left _

end Location

namespace Http

theorem distinctNames_append {xs ys : Fields String} :
    DistinctNames (xs ++ ys) ↔
      DistinctNames xs ∧ DistinctNames ys ∧ ∀ x ∈ xs, ∀ y ∈ ys, Text.lower x.1 ≠ Text.lower y.1 :=
  List.pairwise_append

theorem lower_cacheControl : Text.lower "Cache-Control" = "cache-control" := by decide +kernel

theorem addHeader_of_fresh {m : Fields String} {name : String} (value : String)
    (h : ∀ e ∈ m, Text.lower e.1 ≠ Text.lower name) : addHeader m name value = m ++ [(name, value)] := by
  have hkey : name ∉ m.keys := by
    intro hname
    obtain ⟨e, he, rfl⟩ := List.mem_map.mp hname
    exact h e he rfl
  unfold addHeader
  split_ifs with hcaching
  · have hkept : m.filter (·.1 != "Cache-Control") = m := by
      refine List.filter_eq_self.mpr fun e he => bne_iff_ne.mpr fun hcache => h e he ?_
      rw [hcache, lower_cacheControl, beq_iff_eq.mp hcaching]
    rw [hkept, Fields.put_of_notMem hkey]
  · exact Fields.put_of_notMem hkey value

/-- Headers of new names go to the end. -/
theorem foldl_addHeader {m hs : Fields String} (h : DistinctNames (m ++ hs)) :
    hs.foldl (fun headers e => addHeader headers e.1 e.2) m = m ++ hs := by
  induction hs generalizing m with
  | nil => exact (List.append_nil m).symm
  | cons e hs ih =>
      have hfresh := (distinctNames_append.mp h).2.2
      rw [List.foldl_cons, addHeader_of_fresh e.2 fun x hx => hfresh x hx e List.mem_cons_self]
      rw [ih (by rwa [List.append_assoc]), List.append_assoc]
      rfl

/-- The rule of `expires` gives way to a header about caching. -/
theorem foldl_addHeader_of_caching {hs : Fields String} (h : DistinctNames hs)
    (hcaching : ∃ e ∈ hs, Text.lower e.1 = "cache-control") (value : String) :
    hs.foldl (fun headers e => addHeader headers e.1 e.2) [("Cache-Control", value)] = hs := by
  obtain ⟨e, he, hname⟩ := hcaching
  obtain ⟨xs, ys, rfl⟩ := List.append_of_mem he
  obtain ⟨hxs, -, hfresh⟩ := distinctNames_append.mp h
  have hbefore : ∀ x ∈ xs, Text.lower x.1 ≠ "cache-control" := fun x hx => hname ▸ hfresh x hx e List.mem_cons_self
  have hfirst : DistinctNames ([("Cache-Control", value)] ++ xs) := by
    refine List.pairwise_cons.mpr ⟨fun x hx => ?_, hxs⟩
    rw [lower_cacheControl]
    exact (hbefore x hx).symm
  have hrest : DistinctNames ((xs ++ [e]) ++ ys) := by rwa [List.append_assoc]
  have hkept : xs.filter (·.1 != "Cache-Control") = xs :=
    List.filter_eq_self.mpr fun x hx => bne_iff_ne.mpr fun hx' => hbefore x hx (hx' ▸ lower_cacheControl)
  have hput : Fields.put xs e.1 e.2 = xs ++ [e] := Fields.put_of_notMem (fun hkey => by
    obtain ⟨x, hx, hxe⟩ := List.mem_map.mp hkey
    exact hbefore x hx (hxe ▸ hname)) e.2
  have hstep : addHeader ([("Cache-Control", value)] ++ xs) e.1 e.2 = xs ++ [e] := by
    rw [addHeader, if_pos (beq_iff_eq.mpr hname), List.filter_append, hkept]
    exact hput
  rw [List.foldl_append, foldl_addHeader hfirst, List.foldl_cons, hstep, foldl_addHeader hrest, List.append_assoc]
  rfl

/-- The response headers are the caching rule of `expires` and then the added headers. There is a rule just if the
value of `expires` gives one and no added header is about caching. -/
structure CachingFirst (d : Directives) (hs : Fields String) : Prop where
  distinct : DistinctNames hs
  parts : ∃ rule : Option String, hs = (rule.map fun value => ("Cache-Control", value)).toList ++ d.addHeaders ∧
    ∀ value, rule = some value ↔ (∀ e ∈ d.addHeaders, Text.lower e.1 ≠ "cache-control") ∧
      ∃ expires, d.expires = some expires ∧ cacheControl expires = .ok (some value)

theorem rule_of_responseHeaders {d : Directives} {hs : Fields String} (h : responseHeaders d = .ok hs) :
    ∃ rule : Option String,
      (∀ value, rule = some value ↔
        ∃ expires, d.expires = some expires ∧ cacheControl expires = .ok (some value)) ∧
      hs = d.addHeaders.foldl (fun headers e => addHeader headers e.1 e.2)
        (rule.map fun value => ("Cache-Control", value)).toList := by
  unfold responseHeaders at h
  cases hexpires : d.expires with
  | none =>
      rw [hexpires] at h
      cases h
      exact ⟨none, by simp, rfl⟩
  | some expires =>
      rw [hexpires] at h
      obtain ⟨rule, hrule, h⟩ := bind_eq_ok_iff.mp h
      exact ⟨rule, by simp [hrule], (Except.ok.inj h).symm⟩

/-- The caching rule comes first unless a header of the location is about caching. -/
theorem cachingFirst_of_responseHeaders {d : Directives} {hs : Fields String} (hdistinct : DistinctNames d.addHeaders)
    (h : responseHeaders d = .ok hs) : CachingFirst d hs := by
  obtain ⟨rule, hrule, hhs⟩ := rule_of_responseHeaders h
  cases rule with
  | none =>
      rw [show hs = d.addHeaders from hhs.trans (foldl_addHeader hdistinct)]
      exact ⟨hdistinct, none, rfl, fun value => ⟨nofun, fun h => (hrule value).mpr h.2⟩⟩
  | some given =>
      by_cases hcaching : ∃ e ∈ d.addHeaders, Text.lower e.1 = "cache-control"
      · rw [show hs = d.addHeaders from hhs.trans (foldl_addHeader_of_caching hdistinct hcaching given)]
        refine ⟨hdistinct, none, rfl, fun value => ⟨nofun, fun h => ?_⟩⟩
        obtain ⟨e, he, hname⟩ := hcaching
        exact absurd hname (h.1 e he)
      · have hother : ∀ e ∈ d.addHeaders, Text.lower e.1 ≠ "cache-control" :=
          fun e he hname => hcaching ⟨e, he, hname⟩
        have hfirst : DistinctNames ([("Cache-Control", given)] ++ d.addHeaders) := by
          refine List.pairwise_cons.mpr ⟨fun e he => ?_, hdistinct⟩
          rw [lower_cacheControl]
          exact (hother e he).symm
        rw [show hs = [("Cache-Control", given)] ++ d.addHeaders from hhs.trans (foldl_addHeader hfirst)]
        exact ⟨hfirst, some given, rfl, fun value =>
          ⟨fun h => ⟨hother, (hrule value).mp h⟩, fun h => (hrule value).mpr h.2⟩⟩

end Http

theorem Location.convertedFrom_head {n : Node} {l : Location} {nested : List Location}
    (h : (ofNode n).result = .ok (l :: nested)) : ConvertedFrom n l := by
  have hfirst := convertedFrom_of_ofNode n h
  cases n with
  | simple head =>
      rw [Node.preorder] at hfirst
      split_ifs at hfirst
      · exact (List.forall₂_cons.mp hfirst).1
      · cases hfirst
  | block head body =>
      rw [Node.preorder] at hfirst
      split_ifs at hfirst
      · exact (List.forall₂_cons.mp hfirst).1
      · cases hfirst

/-- The headers of a location, of either kind, are those that its own directives set last. A header directive without a
value, wherever it stands in the block, changes nothing and is reported once. The headers of responses are the added
ones, with the caching rule of `expires` before them unless one of them is about caching; there are such headers unless
the time of `expires` cannot be computed. -/
theorem headers_set_last {n : Node} {l : Location} {nested : List Location}
    (h : (ofNode n).result = .ok (l :: nested)) :
    (∀ kind : HeaderKind, kind.LastWins (Node.ownDirectives n.children) (kind.headers l.directives)) ∧
      (∀ (kind : HeaderKind) (head d : Directive) (before after : List Node),
        n = .block head (before ++ .simple d :: after) → d.name = kind.directive → d.args.length < 2 →
          Logged.AddsEvent (Event.anomaly Build.source ("'" ++ d.name ++ "' needs a name and a value") d.line)
            (ofNode (.block head (before ++ after))) (ofNode n)) ∧
      ((∃ hs, responseHeaders l.directives = .ok hs) ↔
        ∀ expires, l.directives.expires = some expires → TimeSound (expiresTime expires)) ∧
      ∀ hs, responseHeaders l.directives = .ok hs → CachingFirst l.directives hs := by
  have hlast : ∀ kind : HeaderKind, kind.LastWins (Node.ownDirectives n.children) (kind.headers l.directives) :=
    fun kind => HeaderKind.lastWins_of_readAll (convertedFrom_head h).directives
  refine ⟨hlast, ?_, (needs_responseHeaders l.directives).returns,
    fun hs => cachingFirst_of_responseHeaders (hlast .response).distinct⟩
  rintro kind head d before after rfl hname hargs
  have hlocation : d.name ≠ "location" := by
    rw [hname]
    cases kind <;> decide
  exact addsEvent_of_ofNode hlocation (HeaderKind.apply_of_short hname hargs) h (List.cons_ne_nil l nested)

/-- A location that sets headers again in other letters, and one of them without a value. -/
def repeatedHeaders : Node :=
  .block ⟨"location", ["/a"], none⟩
    [.simple ⟨"add_header", ["X-Frame", "DENY", "always"], none⟩,
      .simple ⟨"proxy_set_header", ["Host", "a.example"], none⟩,
      .simple ⟨"add_header", ["X-Served", "by", "edge"], none⟩,
      .simple ⟨"expires", ["1h"], none⟩,
      .simple ⟨"add_header", ["x-served"], some (.number 7)⟩,
      .simple ⟨"add_header", ["x-frame", "always"], none⟩,
      .simple ⟨"proxy_set_header", ["host", "b.example", "always"], none⟩]

theorem headers_set_last_repeated :
    ∃ l : Location, (ofNode repeatedHeaders).result = .ok [l] ∧
      l.directives.addHeaders = [("X-Served", "by edge"), ("x-frame", "always")] ∧
      l.directives.proxyHeaders = [("host", "b.example always")] ∧
      responseHeaders l.directives =
        .ok [("Cache-Control", "max-age=3600"), ("X-Served", "by edge"), ("x-frame", "always")] ∧
      ∀ kind : HeaderKind, kind.LastWins (Node.ownDirectives repeatedHeaders.children) (kind.headers l.directives) := by
  have hresult : ∃ l : Location, (ofNode repeatedHeaders).result = .ok [l] ∧
      l.directives.addHeaders = [("X-Served", "by edge"), ("x-frame", "always")] ∧
      l.directives.proxyHeaders = [("host", "b.example always")] ∧
      (responseHeaders l.directives).toOption =
        some [("Cache-Control", "max-age=3600"), ("X-Served", "by edge"), ("x-frame", "always")] :=
    ⟨_, rfl, by decide +kernel, by decide +kernel, by decide +kernel⟩
  obtain ⟨l, hl, hadd, hproxy, hresponse⟩ := hresult
  exact ⟨l, hl, hadd, hproxy, toOption_eq_some_iff.mp hresponse, (headers_set_last hl).1⟩

end EdgeRoutes
