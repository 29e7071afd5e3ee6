import EdgeRoutes.Proofs.Building
import EdgeRoutes.Proofs.OrderedMaps

/-! The packaging of directives. What a list of directives contributes to a configuration is put together from what its
parts contribute, so neither the files of a payload nor `http` blocks around some of the directives make a
difference. -/

namespace EdgeRoutes

open Build

namespace Parts

/-- The settings have distinct names. -/
def Distinct (p : Parts) : Prop := p.globals.keys.Nodup

theorem Distinct.append {p : Parts} (hp : p.Distinct) (q : Parts) : (p.append q).Distinct :=
  Fields.nodup_keys_update hp q.globals

theorem empty_append {p : Parts} (hp : p.Distinct) : append {} p = p := by
  obtain ⟨servers, upstreams, globals⟩ := p
  exact congrArg (Parts.mk servers upstreams) (Fields.nil_update hp)

theorem append_assoc {p q r : Parts} (hp : p.Distinct) (hq : q.Distinct) (hr : r.Distinct) :
    (p.append q).append r = p.append (q.append r) := by
  simp only [append, List.append_assoc, Fields.update_assoc hp hq hr]

theorem nodup_of_settings {body : List Node} {globals : Fields Setting} (h : (settings body).result = .ok globals) :
    globals.keys.Nodup := by
  induction body generalizing globals with
  | nil =>
      cases h
      exact List.nodup_nil
  | cons n body ih =>
      cases n with
      | block head inner => exact ih h
      | simple d =>
          simp only [settings, Logged.result_bind] at h
          obtain ⟨value, -, h⟩ := bind_eq_ok_iff.mp h
          obtain ⟨more, -, h⟩ := bind_eq_ok_iff.mp h
          cases h
          have hsingle : (Fields.keys [(d.name, value)]).Nodup := List.nodup_singleton d.name
          exact Fields.nodup_keys_update hsingle more

mutual

/-- The settings of built parts have distinct names. -/
theorem distinct_of_ofNode (n : Node) {p : Parts} (h : (ofNode n).result = .ok p) : p.Distinct := by
  cases n with
  | simple d =>
      simp only [ofNode, Logged.result_bind] at h
      obtain ⟨value, -, h⟩ := bind_eq_ok_iff.mp h
      cases h
      exact List.nodup_singleton d.name
  | block d body =>
      rw [ofNode] at h
      split_ifs at h
      · exact distinct_of_ofNodes body h
      · obtain ⟨server, -, h⟩ := bind_eq_ok_iff.mp ((Logged.result_bind _ _).symm.trans h)
        cases h
        exact List.nodup_nil
      · obtain ⟨upstream, -, h⟩ := bind_eq_ok_iff.mp ((Logged.result_bind _ _).symm.trans h)
        cases h
        exact List.nodup_nil
      · obtain ⟨globals, hglobals, h⟩ := bind_eq_ok_iff.mp ((Logged.result_bind _ _).symm.trans h)
        cases h
        exact nodup_of_settings hglobals
      · cases h
        exact List.nodup_nil

theorem distinct_of_ofNodes (ns : List Node) {p : Parts} (h : (ofNodes ns).result = .ok p) : p.Distinct := by
  cases ns with
  | nil =>
      cases h
      exact List.nodup_nil
  | cons n ns =>
      simp only [ofNodes, Logged.result_bind] at h
      obtain ⟨q, hq, h⟩ := bind_eq_ok_iff.mp h
      obtain ⟨r, -, h⟩ := bind_eq_ok_iff.mp h
      cases h
      exact (distinct_of_ofNode n hq).append r

end

/-- The contributions of two runs of directives are put together, and so are the events. -/
theorem ofNodes_append (xs ys : List Node) :
    ofNodes (xs ++ ys) = (do
      let p ← ofNodes xs
      let q ← ofNodes ys
      return p.append q) := by
  induction xs with
  | nil =>
      rw [List.nil_append, ofNodes, pure_bind]
      conv_lhs => rw [← bind_pure (ofNodes ys)]
      exact Logged.bind_congr_of_result fun q hq => by rw [empty_append (distinct_of_ofNodes ys hq)]
  | cons x xs ih =>
      rw [List.cons_append, ofNodes, ih, ofNodes]
      simp only [bind_assoc, pure_bind]
      refine Logged.bind_congr_of_result fun p hp => Logged.bind_congr_of_result fun q hq =>
        Logged.bind_congr_of_result fun r hr => ?_
      rw [append_assoc (distinct_of_ofNode x hp) (distinct_of_ofNodes xs hq) (distinct_of_ofNodes ys hr)]

end Parts

/-- `Wraps xs ys` says that `ys` is `xs` with some runs of nodes in `http` blocks, which may stand in each other. -/
inductive Wraps : List Node → List Node → Prop
  | nil : Wraps [] []
  | keep {n : Node} {xs ys : List Node} (h : Wraps xs ys) : Wraps (n :: xs) (n :: ys)
  | wrap {head : Directive} {run body xs ys : List Node} (hname : head.name = "http") (hbody : Wraps run body)
      (h : Wraps xs ys) : Wraps (run ++ xs) (.block head body :: ys)

theorem Wraps.ofNodes_eq {xs ys : List Node} (h : Wraps xs ys) : Parts.ofNodes ys = Parts.ofNodes xs := by
  induction h with
  | nil => rfl
  | keep _ ih => rw [Parts.ofNodes, Parts.ofNodes, ih]
  | wrap hname _ _ ihbody ih =>
      rw [Parts.ofNodes_append, Parts.ofNodes, Parts.ofNode, if_pos (by rw [hname]; rfl), ihbody, ih]

/-- The configuration `c` is what `a` and `b` come to one after the other: of settings under the same name the first
place and the last value counts. -/
structure Config.Joins (a b c : Config) : Prop where
  servers : c.servers = a.servers ++ b.servers
  upstreams : c.upstreams = a.upstreams ++ b.upstreams
  warnings : c.warnings = a.warnings ++ b.warnings
  globals : c.globals = a.globals.update b.globals
  keys : c.globals.keys = a.globals.keys ++ b.globals.keys.filter (· ∉ a.globals.keys)
  values : ∀ key, c.globals.get? key = (b.globals.get? key).or (a.globals.get? key)

theorem Config.joins_of_build {xs ys : Tree} {a b : Config} (ha : (build xs).result = .ok a)
    (hb : (build ys).result = .ok b) : ∃ c, (build (xs ++ ys)).result = .ok c ∧ Joins a b c := by
  rw [result_build] at ha hb
  obtain ⟨p, hp, rfl⟩ := map_eq_ok_iff.mp ha
  obtain ⟨q, hq, rfl⟩ := map_eq_ok_iff.mp hb
  have hjoined : Parts.ofNodes (xs ++ ys) =
      ⟨(Parts.ofNodes xs).events ++ (Parts.ofNodes ys).events, .ok (p.append q)⟩ := by
    rw [Parts.ofNodes_append, Logged.bind_of_result_ok hp, Logged.bind_of_result_ok hq]
    exact Logged.ext (by rw [Logged.events_pure, List.append_nil]) rfl
  have hdistinct := Parts.distinct_of_ofNodes ys hq
  refine ⟨_, by rw [result_build, hjoined]; rfl, rfl, rfl, ?_, rfl, Fields.keys_update _ hdistinct,
    Fields.get?_update _ hdistinct⟩
  exact warningTexts_append _ _

namespace Node

theorem listOfData_append (xs ys : List Data) :
    listOfData (xs ++ ys) = (do
      let ns ← listOfData xs
      let ms ← listOfData ys
      return ns ++ ms) := by
  induction xs with
  | nil =>
      simp only [List.nil_append, listOfData]
      cases listOfData ys <;> rfl
  | cons x xs ih =>
      rw [List.cons_append, listOfData, ih, listOfData]
      cases ofData x with
      | error fault => rfl
      | ok n =>
          cases listOfData xs with
          | error fault => rfl
          | ok ns => cases listOfData ys <;> rfl

theorem listOfData_flatten (chunks : List (List Data)) :
    listOfData chunks.flatten = (chunks.mapM listOfData).map List.flatten := by
  induction chunks with
  | nil => rfl
  | cons chunk chunks ih =>
      rw [List.flatten_cons, listOfData_append, ih, List.mapM_cons]
      cases listOfData chunk with
      | error fault => rfl
      | ok ns => cases chunks.mapM listOfData <;> rfl

end Node

namespace Node

theorem get?_object (entries : Fields Data) (name : String) : (Data.object entries).get? name = entries.get? name := by
  rw [Data.object, Data.get?, List.find?_map, Option.map_map]
  have htest : ((fun e : Scalar × Data => e.1 == Scalar.text name) ∘ fun e : String × Data => (Scalar.text e.1, e.2)) =
      fun e : String × Data => e.1 == name := by
    funext e
    simp [beq_eq_decide]
  rw [htest]
  rfl

theorem lineOf_headEntries (head : Directive) {more : Fields Data} (hmore : more.get? "line" = none) :
    Directive.lineOf ((headEntries head ++ more).map fun e => (Scalar.text e.1, e.2)) = head.line := by
  have hget : Fields.get? (headEntries head ++ more) "line" = head.line.map Fault.lineData := by
    simp only [Fields.get?, Option.map_eq_none_iff] at hmore ⊢
    cases hline : head.line <;> simp [headEntries, hline, hmore]
  have hentry := (get?_object (headEntries head ++ more) "line").trans hget
  simp only [Data.object] at hentry
  rw [Directive.lineOf, hentry]
  rcases head.line with - | (n | b) <;> rfl

theorem ofEntries_headEntries {head : Directive} (hname : head.name ≠ "") (more : Fields Data)
    (hmore : more.get? "line" = none) :
    Directive.ofEntries ((headEntries head ++ more).map fun e => (Scalar.text e.1, e.2)) = .ok head := by
  have hdirective : (Data.map ((headEntries head ++ more).map fun e => (Scalar.text e.1, e.2))).get? "directive" =
      some (.text head.name) := rfl
  have hargs : (Data.map ((headEntries head ++ more).map fun e => (Scalar.text e.1, e.2))).get? "args" =
      some (.texts head.args) := rfl
  have htexts : head.args.map (Data.display ∘ Data.text) = head.args := List.map_id' head.args
  have hempty : ¬ head.name.isEmpty = true := by simpa using hname
  simp only [Directive.ofEntries, lineOf_headEntries head hmore, hdirective, hargs, if_neg hempty, Option.getD_some,
    Data.texts, List.map_map, htexts]

theorem listToData_eq_map (ns : List Node) : listToData ns = ns.map toData := by
  induction ns with
  | nil => rfl
  | cons n ns ih => rw [listToData, ih, List.map_cons]

theorem listToData_flatten (chunks : List (List Node)) :
    listToData chunks.flatten = (chunks.map listToData).flatten := by
  rw [listToData_eq_map, List.map_flatten]
  exact congrArg List.flatten (List.map_congr_left fun chunk _ => (listToData_eq_map chunk).symm)

mutual

theorem ofData_toData (n : Node) (hnamed : ∀ d ∈ n.walk, d.name ≠ "") : ofData n.toData = .ok n := by
  cases n with
  | simple head =>
      have hhead := ofEntries_headEntries (hnamed head List.mem_cons_self) [] rfl
      rw [List.append_nil] at hhead
      rw [toData, Data.object, ofData, hhead]
      rcases hline : head.line with - | (n | b) <;>
        simp [headEntries, hline, blockOf, Fault.lineData, Data.texts, bind, Except.bind, pure, Except.pure]
  | block head body =>
      have hhead := ofEntries_headEntries (hnamed head List.mem_cons_self) [("block", .list (listToData body))] rfl
      have hbody := listOfData_listToData body fun d hd => hnamed d (List.mem_cons_of_mem _ hd)
      rw [toData, Data.object, ofData, hhead]
      rcases hline : head.line with - | (n | b) <;>
        simp [headEntries, hline, blockOf, Fault.lineData, Data.texts, hbody, bind, Except.bind, pure, Except.pure,
          Except.map]

theorem listOfData_listToData (ns : List Node) (hnamed : ∀ d ∈ walkAll ns, d.name ≠ "") :
    listOfData (listToData ns) = .ok ns := by
  cases ns with
  | nil => rfl
  | cons n ns =>
      have hn := ofData_toData n fun d hd => hnamed d (List.mem_append_left _ hd)
      have hns := listOfData_listToData ns fun d hd => hnamed d (List.mem_append_right _ hd)
      rw [listToData, listOfData, hn, hns]
      rfl

end

end Node

/-- The file of a payload carries these items as its nodes. What else it says only shows in the log. -/
structure CarriesNodes (items : List Data) (file : Data) : Prop where
  isMap : ∃ entries, file = .map entries
  parsed : Tree.membersOf (file.get? "parsed") = .ok items
  errors : ∃ errors, Tree.membersOf (file.get? "errors") = .ok errors

/-- The payload has these runs of items in its files. -/
structure Carries (chunks : List (List Data)) (payload : Data) : Prop where
  isMap : ∃ entries, payload = .map entries
  files : ∃ files, payload.get? "config" = some (.list files) ∧ List.Forall₂ CarriesNodes chunks files

namespace Tree

theorem result_ofFile {items : List Data} {file : Data} (h : CarriesNodes items file) :
    (ofFile file).result = Node.listOfData items := by
  obtain ⟨⟨entries, rfl⟩, hparsed, errors, herrors⟩ := h
  have hreported : (Logged.forEach
      (reportError (((Data.map entries).get? "file").getD (.text "<unknown>"))) errors).result =
      .ok (errors.map fun _ => ()) := by
    rw [Logged.result_forEach_eq_ok_iff, List.forall₂_map_right_iff, List.forall₂_same]
    exact fun _ _ => rfl
  simp only [ofFile, Logged.result_bind, Logged.result_liftM, herrors, Except.bind, hreported, hparsed]

theorem result_statusWarning (status : Option Data) : (statusWarning status).result = .ok () := by
  unfold statusWarning
  split <;> rfl

/-- The files of a payload load like the items of all of them in one list. -/
theorem result_load {chunks : List (List Data)} {payload : Data} (h : Carries chunks payload) :
    (load payload).result = Node.listOfData chunks.flatten := by
  obtain ⟨⟨entries, rfl⟩, files, hconfig, hfiles⟩ := h
  have hloaded : chunks.mapM Node.listOfData = files.mapM fun file => (ofFile file).result := by
    refine mapM_eq_of_forall₂ ?_ hfiles
    intro items file hfile
    exact (result_ofFile hfile).symm
  simp only [load, hconfig, Logged.result_bind, result_statusWarning, Logged.result_forEach, ← hloaded,
    Node.listOfData_flatten]
  cases chunks.mapM Node.listOfData <;> rfl

end Tree

theorem Config.result_ofData (data : Data) :
    (ofData data).result = (Tree.load data).result.bind fun tree => (build tree).result :=
  Logged.result_bind _ _

/-- Neither the files of a payload nor `http` blocks around runs of directives make a difference to the configuration,
and the configuration of two lists one after the other joins those of the two. -/
theorem packaging_makes_no_difference :
    (∀ xs ys : Tree, Wraps xs ys → (Config.build ys).result = (Config.build xs).result) ∧
    (∀ (chunks : List (List Data)) (payload : Data), Carries chunks payload →
      (Config.ofData payload).result = (Config.ofData (.list chunks.flatten)).result) ∧
    (∀ (xs : Tree) (chunks : List Tree) (payload : Data), Wraps xs chunks.flatten →
      (∀ d ∈ Node.walkAll chunks.flatten, d.name ≠ "") → Carries (chunks.map Node.listToData) payload →
      (Config.ofData payload).result = (Config.build xs).result) ∧
    (∀ (xs ys : Tree) (a b : Config), (Config.build xs).result = .ok a → (Config.build ys).result = .ok b →
      ∃ c, (Config.build (xs ++ ys)).result = .ok c ∧ Config.Joins a b c) := by
  have hwraps : ∀ xs ys : Tree, Wraps xs ys → (Config.build ys).result = (Config.build xs).result := by
    intro xs ys h
    rw [Config.result_build, Config.result_build, h.ofNodes_eq]
  refine ⟨hwraps, ?_, ?_, fun _ _ _ _ => Config.joins_of_build⟩
  · intro chunks payload hpayload
    rw [Config.result_ofData, Config.result_ofData, Tree.result_load hpayload]
    rfl
  · intro xs chunks payload hxs hnamed hpayload
    rw [Config.result_ofData, Tree.result_load hpayload, ← Node.listToData_flatten,
      Node.listOfData_listToData _ hnamed, ← hwraps xs _ hxs]
    rfl

/-- A group, a server and a setting that is given twice. -/
def flatSample : Tree :=
  [.simple ⟨"user", ["web"], none⟩,
   .block ⟨"upstream", ["pool"], none⟩ [.simple ⟨"server", ["a:80", "weight=x"], none⟩],
   .block ⟨"server", [], none⟩ [.simple ⟨"listen", ["80"], none⟩],
   .simple ⟨"user", ["edge"], some (.number 9)⟩]

/-- The same in two files, the group and the server in nested `http` blocks. -/
def packedSample : List Tree :=
  [[.simple ⟨"user", ["web"], none⟩],
   [.block ⟨"http", [], none⟩
     [.block ⟨"upstream", ["pool"], none⟩ [.simple ⟨"server", ["a:80", "weight=x"], none⟩],
      .block ⟨"http", [], none⟩ [.block ⟨"server", [], none⟩ [.simple ⟨"listen", ["80"], none⟩]]],
    .simple ⟨"user", ["edge"], some (.number 9)⟩]]

def packedPayload : Data :=
  .object [("config", .list (packedSample.map fun tree => .object [("parsed", .list (Node.listToData tree))]))]

theorem packaging_makes_no_difference_nested :
    Wraps flatSample packedSample.flatten ∧ Carries (packedSample.map Node.listToData) packedPayload ∧
    (Config.ofData packedPayload).result = (Config.build flatSample).result ∧
    ∃ a c, (Config.build flatSample).result = .ok a ∧ (Config.build (flatSample ++ flatSample)).result = .ok c ∧
      Config.Joins a a c := by
  have hwraps : Wraps flatSample packedSample.flatten :=
    .keep (@Wraps.wrap _ [_, _] _ _ _ rfl (.keep (@Wraps.wrap _ [_] _ _ _ rfl (.keep .nil) .nil)) (.keep .nil))
  have hcarries : Carries (packedSample.map Node.listToData) packedPayload :=
    ⟨⟨_, rfl⟩, _, rfl, .cons ⟨⟨_, rfl⟩, rfl, [], rfl⟩ (.cons ⟨⟨_, rfl⟩, rfl, [], rfl⟩ .nil)⟩
  obtain ⟨-, -, hpayload, hjoins⟩ := packaging_makes_no_difference
  have hnamed : ∀ d ∈ Node.walkAll packedSample.flatten, d.name ≠ "" := by decide
  obtain ⟨a, ha⟩ : ∃ a, (Config.build flatSample).result = .ok a := ⟨_, rfl⟩
  obtain ⟨c, hc, hac⟩ := hjoins flatSample flatSample a a ha ha
  exact ⟨hwraps, hcarries, hpayload flatSample packedSample packedPayload hwraps hnamed hcarries, a, c, ha, hc, hac⟩

end EdgeRoutes
