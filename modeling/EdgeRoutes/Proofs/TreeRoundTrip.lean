import EdgeRoutes.Proofs.TreeShapes

/-! Trees that were loaded, loaded again. Loading turns arguments into text, drops what is no line and joins the files of
a payload; what comes out is not changed by writing it as data and loading that, nor by loading the nodes themselves. So
the data, the nodes and the nodes written as data build the same configuration. -/

namespace EdgeRoutes

theorem Directive.name_of_ofEntries {entries : List (Scalar × Data)} {head : Directive}
    (h : Directive.ofEntries entries = .ok head) : head.name ≠ "" := by
  unfold Directive.ofEntries at h
  split at h
  · next name hname =>
      split_ifs at h with hempty
      split at h <;> cases h
      · exact fun hname => hempty (String.isEmpty_iff.mpr hname)
      · exact fun hname => hempty (String.isEmpty_iff.mpr hname)
  · cases h

namespace Node

def Named (ns : List Node) : Prop := ∀ d ∈ walkAll ns, d.name ≠ ""

theorem named_nil : Named [] := nofun

theorem named_cons_iff {n : Node} {ns : List Node} : Named (n :: ns) ↔ (∀ d ∈ n.walk, d.name ≠ "") ∧ Named ns := by
  rw [Named, walkAll, List.forall_mem_append]
  rfl

theorem Named.append {xs ys : List Node} (hxs : Named xs) (hys : Named ys) : Named (xs ++ ys) := by
  induction xs with
  | nil => exact hys
  | cons x xs ih =>
      obtain ⟨hx, hrest⟩ := named_cons_iff.mp hxs
      exact named_cons_iff.mpr ⟨hx, ih hrest⟩

theorem Named.flatten {chunks : List (List Node)} (h : ∀ chunk ∈ chunks, Named chunk) : Named chunks.flatten := by
  induction chunks with
  | nil => exact named_nil
  | cons chunk chunks ih =>
      obtain ⟨hchunk, hrest⟩ := List.forall_mem_cons.mp h
      exact hchunk.append (ih hrest)

mutual

/-- No directive of a loaded node has an empty name. -/
theorem named_of_ofData : (d : Data) → {n : Node} → ofData d = .ok n → ∀ head ∈ n.walk, head.name ≠ ""
  | .map entries, n, h => by
      rw [ofData] at h
      obtain ⟨head, hhead, h⟩ := bind_eq_ok_iff.mp h
      obtain ⟨block, hblock, h⟩ := bind_eq_ok_iff.mp h
      have hname := Directive.name_of_ofEntries hhead
      cases block with
      | none =>
          cases h
          rw [walk]
          exact List.forall_mem_singleton.mpr hname
      | some body =>
          cases h
          rw [walk]
          exact List.forall_mem_cons.mpr ⟨hname, named_of_blockOf head entries hblock⟩
  | .list items, n, h => by
      rw [ofData] at h
      cases h
  | .scalar s, n, h => by
      rw [ofData] at h
      cases h

theorem named_of_blockOf (head : Directive) : (entries : List (Scalar × Data)) → {body : List Node} →
    blockOf head entries = .ok (some body) → Named body
  | [], body, h => by
      rw [blockOf] at h
      cases h
  | (key, .list items) :: rest, body, h => by
      rw [blockOf] at h
      split_ifs at h
      · obtain ⟨nodes, hnodes, hbody⟩ := map_eq_ok_iff.mp h
        cases hbody
        exact named_of_listOfData items hnodes
      · exact named_of_blockOf head rest h
  | (key, .scalar s) :: rest, body, h => by
      rw [blockOf] at h
      split_ifs at h
      · cases h
      · exact named_of_blockOf head rest h
  | (key, .map entries) :: rest, body, h => by
      rw [blockOf] at h
      split_ifs at h
      exact named_of_blockOf head rest h

theorem named_of_listOfData : (ds : List Data) → {ns : List Node} → listOfData ds = .ok ns → Named ns
  | [], ns, h => by
      rw [listOfData] at h
      cases h
      exact named_nil
  | d :: ds, ns, h => by
      rw [listOfData] at h
      obtain ⟨n, hn, h⟩ := bind_eq_ok_iff.mp h
      obtain ⟨more, hmore, h⟩ := bind_eq_ok_iff.mp h
      cases h
      exact named_cons_iff.mpr ⟨named_of_ofData d hn, named_of_listOfData ds hmore⟩

end

end Node

namespace Tree

theorem named_of_ofFile {file : Data} {tree : Tree} (h : (ofFile file).result = .ok tree) : Node.Named tree := by
  cases file with
  | scalar _ | list _ => cases h
  | map entries =>
      rw [result_ofFile_map] at h
      obtain ⟨_, -, h⟩ := bind_eq_ok_iff.mp h
      obtain ⟨nodes, -, hnodes⟩ := bind_eq_ok_iff.mp h
      exact Node.named_of_listOfData nodes hnodes

/-- In a tree that was loaded, all directives have names. -/
theorem named_of_load {data : Data} {tree : Tree} (h : (load data).result = .ok tree) : Node.Named tree := by
  cases data with
  | scalar s => cases h
  | list items => exact Node.named_of_listOfData items h
  | map entries =>
      cases hconfig : (Data.map entries).get? "config" with
      | none =>
          rw [load, hconfig] at h
          cases h
      | some config =>
          cases config with
          | list files =>
              rw [result_load_payload hconfig] at h
              obtain ⟨trees, htrees, rfl⟩ := map_eq_ok_iff.mp h
              refine Node.Named.flatten fun tree htree => ?_
              obtain ⟨file, -, hfile⟩ := exists_left_of_forall₂ (mapM_eq_ok_iff.mp htrees) htree
              exact named_of_ofFile hfile
          | scalar _ | map _ =>
              rw [load, hconfig] at h
              cases h

theorem load_listToData {tree : Tree} (h : Node.Named tree) : load (.list (Node.listToData tree)) = pure tree := by
  rw [load, Node.listOfData_listToData tree h]
  rfl

theorem load_nodes (tree : Tree) : (Source.list (tree.map .node)).load = pure tree := by
  have hread : (tree.map Item.node).mapM Item.read = .ok tree := by
    rw [mapM_eq_ok_iff, List.forall₂_map_left_iff, List.forall₂_same]
    exact fun _ _ => rfl
  rw [Source.load, hread]
  rfl

theorem nodes?_nodes (tree : Tree) : (Source.list (tree.map .node)).nodes? = some tree := by
  rw [Source.nodes?]
  induction tree with
  | nil => rfl
  | cons n tree ih =>
      rw [List.map_cons, List.mapM_cons, ih]
      rfl

end Tree

theorem Config.result_ofSource_data (data : Data) :
    (ofSource (.data data)).result = (Tree.load data).result.bind fun tree => (build tree).result :=
  Logged.result_bind _ _

theorem Config.ofSource_nodes (tree : Tree) : ofSource (.list (tree.map .node)) = build tree := by
  rw [ofSource, Tree.nodes?_nodes]
  exact pure_bind tree build

/-- A tree that was loaded is loaded again from the data that it is written as, and from its own nodes, with nothing to
report. The data that it came from, the nodes and the data that they are written as all build the same configuration, with
the same warnings, or stop with the same fault. -/
theorem trees_round_trip {data : Data} {tree : Tree} (h : (Tree.load data).result = .ok tree) :
    Tree.load (.list (Node.listToData tree)) = pure tree ∧
    (Tree.Source.list (tree.map .node)).load = pure tree ∧
    (Config.ofSource (.data data)).result = (Config.build tree).result ∧
    (Config.ofSource (.list (tree.map .node))).result = (Config.build tree).result ∧
    (Config.ofSource (.data (.list (Node.listToData tree)))).result = (Config.build tree).result := by
  have hwritten := Tree.load_listToData (Tree.named_of_load h)
  refine ⟨hwritten, Tree.load_nodes tree, ?_, ?_, ?_⟩
  · rw [Config.result_ofSource_data, h]
    rfl
  · rw [Config.ofSource_nodes]
  · rw [Config.result_ofSource_data, hwritten]
    rfl

/-- Two files: a server with a number for an argument and odd lines, and a block with nothing in it. -/
def oddPayload : Data :=
  .object [("status", .text "failed"), ("config", .list [
    .object [("errors", .list [.text "late"]), ("parsed", .list [
      .object [("directive", .text "server"), ("args", .null), ("line", .bool true), ("block", .list [
        .object [("directive", .text "listen"), ("args", .list [.int 80]), ("line", .text "3")]])]])],
    .object [("parsed", .list [.object [("directive", .text "events"), ("block", .list [])]])]])]

def oddTree : Tree :=
  [.block ⟨"server", [], some (.flag true)⟩ [.simple ⟨"listen", ["80"], none⟩], .block ⟨"events", [], none⟩ []]

theorem trees_round_trip_odd :
    (Tree.load oddPayload).result = .ok oddTree ∧ Tree.load (.list (Node.listToData oddTree)) = pure oddTree ∧
      (Config.ofSource (.data oddPayload)).result =
        (Config.ofSource (.data (.list (Node.listToData oddTree)))).result := by
  have h : (Tree.load oddPayload).result = .ok oddTree := rfl
  obtain ⟨hwritten, -, hdata, -, hagain⟩ := trees_round_trip h
  exact ⟨h, hwritten, hdata.trans hagain.symm⟩

end EdgeRoutes
