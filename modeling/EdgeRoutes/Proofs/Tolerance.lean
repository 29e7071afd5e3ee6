import EdgeRoutes.Proofs.Building

/-! Tolerance of odd values. Directives with malformed values are reported and left out or kept as they are; only a text
of digits that is not a numeral stops a build. -/

namespace EdgeRoutes

open Build Number

/-- What becomes of malformed directives: the field stays empty, the directive is kept as a setting under its name, or
it changes nothing. -/
structure MalformedSpared : Prop where
  listen (s : Server) {d : Directive} {address : String} {args : List String} (hname : d.name = "listen")
    (hargs : d.args = address :: args) (hport : Text.allDigits (splitAddress address).2 = false) :
    ∃ l, (s.apply (.simple d)).result = .ok { s with listen := s.listen ++ [l] } ∧ l.port = none
  answer (ds : Directives) {d : Directive} (hname : d.name = "return")
    (hcode : (Return.ofDirective d).result = .ok none) :
    ∃ v, Setting.ofArgs d.args = .ok v ∧ (ds.apply d).result = .ok { ds with extra := ds.extra.put "return" v }
  pair (ds : Directives) {d : Directive} (hname : d.name ∈ ["rewrite", "add_header", "proxy_set_header"])
    (hargs : d.args.length < 2) : (ds.apply d).result = .ok ds
  port {address : String} (hport : Text.allDigits (Account.memberParts address).2 = false) :
    UpstreamServer.ofAddress address = .ok { address }
  parameter (s : UpstreamServer) (line : Option LineMark) {arg : String}
    (hkey : (UpstreamServer.parameter arg).1 ∈ ["weight", "max_fails"])
    (hvalue : Text.allDigits (UpstreamServer.parameter arg).2 = false) : (s.apply line arg).result = .ok s

/-- The arguments after an address change nothing of what is known about it. -/
theorem address_addArguments (args : List String) (l : Listen) :
    (args.foldl Listen.addArgument l).port = l.port ∧ (args.foldl Listen.addArgument l).host = l.host := by
  induction args generalizing l with
  | nil => exact ⟨rfl, rfl⟩
  | cons arg args ih =>
      obtain ⟨hport, hhost⟩ := ih (l.addArgument arg)
      rw [List.foldl_cons, hport, hhost]
      unfold Listen.addArgument
      split <;> exact ⟨rfl, rfl⟩

theorem listen_spared (s : Server) {d : Directive} {address : String} {args : List String} (hname : d.name = "listen")
    (hargs : d.args = address :: args) (hport : Text.allDigits (splitAddress address).2 = false) :
    ∃ l, (s.apply (.simple d)).result = .ok { s with listen := s.listen ++ [l] } ∧ l.port = none := by
  have hlisten : (Listen.ofDirective d).result =
      .ok (some (args.foldl Listen.addArgument { port := none, host := (splitAddress address).1 })) := by
    simp only [Listen.ofDirective, hargs, natural?_of_not_digits hport]
    rfl
  refine ⟨_, ?_, (address_addArguments args { port := none, host := (splitAddress address).1 }).1⟩
  simp only [Server.apply, Node.head, hname, beq_self_eq_true, if_true, Logged.result_bind, hlisten]
  rfl

theorem answer_spared (ds : Directives) {d : Directive} (hname : d.name = "return")
    (hcode : (Return.ofDirective d).result = .ok none) :
    ∃ v, Setting.ofArgs d.args = .ok v ∧ (ds.apply d).result = .ok { ds with extra := ds.extra.put "return" v } := by
  obtain ⟨kept, hkept, -⟩ := map_eq_ok_iff.mp (Follows.keep_of_answer ds hcode).converts
  have happly : (ds.apply d).result = (ds.keep d).result := by
    rw [Directives.apply, hname]
    simp only [Logged.result_bind, hcode]
    rfl
  rw [happly]
  simp only [Directives.keep, Logged.result_bind, Logged.result_liftM, hname] at hkept ⊢
  obtain ⟨v, hv, -⟩ := bind_eq_ok_iff.mp hkept
  rw [hv]
  exact ⟨v, rfl, rfl⟩

theorem pair_spared (ds : Directives) {d : Directive} (hname : d.name ∈ ["rewrite", "add_header", "proxy_set_header"])
    (hargs : d.args.length < 2) : (ds.apply d).result = .ok ds := by
  have hrewrites : { ds with rewrites := ds.rewrites ++ (none : Option RewriteRule).toList } = ds := by
    rw [Option.toList_none, List.append_nil]
  obtain ⟨name, args, line⟩ := d
  rcases args with - | ⟨first, - | ⟨value, values⟩⟩
  · simp only [List.mem_cons, List.not_mem_nil, or_false] at hname
    rcases hname with rfl | rfl | rfl
    · exact congrArg Except.ok hrewrites
    · rfl
    · rfl
  · simp only [List.mem_cons, List.not_mem_nil, or_false] at hname
    rcases hname with rfl | rfl | rfl
    · exact congrArg Except.ok hrewrites
    · rfl
    · rfl
  · exact absurd hargs (by simp)

theorem port_spared {address : String} (hport : Text.allDigits (Account.memberParts address).2 = false) :
    UpstreamServer.ofAddress address = .ok { address } := by
  rw [Follows.ofAddress_eq, natural?_of_not_digits hport]
  have hshown : (Account.memberParts address).1 = address := by
    unfold Account.memberParts at hport ⊢
    split_ifs at hport ⊢
    · rfl
    · rcases hsplit : splitAddress address with ⟨- | host, port⟩
      · rfl
      · rw [hsplit] at hport
        exact if_neg (by rw [hport]; decide)
  rw [hshown]
  rfl

theorem parameter_spared (s : UpstreamServer) (line : Option LineMark) {arg : String}
    (hkey : (UpstreamServer.parameter arg).1 ∈ ["weight", "max_fails"])
    (hvalue : Text.allDigits (UpstreamServer.parameter arg).2 = false) : (s.apply line arg).result = .ok s := by
  rcases hparameter : UpstreamServer.parameter arg with ⟨key, value⟩
  rw [hparameter] at hkey hvalue
  simp only [List.mem_cons, List.not_mem_nil, or_false] at hkey
  have hnumeric : (s.numeric line arg value).result = .ok none := by
    simp only [UpstreamServer.numeric, natural?_of_not_digits hvalue]
    rfl
  rcases hkey with rfl | rfl
  · simp [UpstreamServer.apply, hparameter, hnumeric, Except.map]
  · simp [UpstreamServer.apply, hparameter, hnumeric, Except.map]

theorem malformed_spared : MalformedSpared where
  listen := listen_spared
  answer := answer_spared
  pair := pair_spared
  port := port_spared
  parameter := parameter_spared

/-- A build comes to a configuration, with the warnings of its account, just if the texts of the account convert. -/
theorem build_ok_iff_convertAll (tree : Tree) :
    (∃ c, (Config.build tree).result = .ok c ∧ c.warnings = (Account.ofNodes tree).warnings) ↔
      convertAll (Account.ofNodes tree).texts = .ok () := by
  have hfollows := Follows.nodes tree
  rw [Config.result_build, ← hfollows.converts, map_eq_ok_iff]
  constructor
  · rintro ⟨c, hc, -⟩
    obtain ⟨parts, hparts, -⟩ := map_eq_ok_iff.mp hc
    exact ⟨parts, hparts, rfl⟩
  · rintro ⟨parts, hparts, -⟩
    exact ⟨_, map_eq_ok_iff.mpr ⟨parts, hparts, rfl⟩, hfollows.warns parts hparts⟩

theorem convertAll_of_build_error {tree : Tree} {fault : Fault} (h : (Config.build tree).result = .error fault) :
    convertAll (Account.ofNodes tree).texts = .error fault := by
  rw [Config.result_build] at h
  rw [← (Follows.nodes tree).converts]
  cases hparts : (Parts.ofNodes tree).result with
  | ok parts =>
      rw [hparts] at h
      cases h
  | error cause =>
      rw [hparts] at h
      cases h
      rfl

/-- A build comes to a configuration, with the warnings of its account, just if each text of digits it converts is a
numeral; if one is not, it stops there. -/
theorem build_returns_iff_numerals (tree : Tree) :
    ((∃ c, (Config.build tree).result = .ok c ∧ c.warnings = (Account.ofNodes tree).warnings) ↔
      ∀ text ∈ (Account.ofNodes tree).texts, Text.allDigits text = true → IsNumeral text) ∧
    (∀ fault, (Config.build tree).result = .error fault →
      ∃ text ∈ (Account.ofNodes tree).texts, Text.allDigits text = true ∧ ¬ IsNumeral text ∧
        ∃ cause, readNatural text = .error cause ∧ fault = .integer cause) ∧
    MalformedSpared :=
  ⟨(build_ok_iff_convertAll tree).trans (convertAll_ok_iff _),
    fun _ hfault => convertAll_error (convertAll_of_build_error hfault), malformed_spared⟩

def superscriptPort : Tree := [.block ⟨"server", [], none⟩ [.simple ⟨"listen", ["a:²"], none⟩]]

/-- A superscript is a digit and yet no numeral. -/
theorem superscript_port_stops_build : ¬ ∃ c, (Config.build superscriptPort).result = .ok c := by
  rintro ⟨c, hc⟩
  have hfault : convertAll (Account.ofNodes superscriptPort).texts ≠ .ok () := by
    intro hconverted
    obtain ⟨hdigits, hnumeral⟩ := superscript_not_numeral
    exact hnumeral ((convertAll_ok_iff _).mp hconverted "²" (by decide +kernel) hdigits)
  rw [Config.result_build] at hc
  obtain ⟨parts, hparts, -⟩ := map_eq_ok_iff.mp hc
  rw [← (Follows.nodes superscriptPort).converts, hparts] at hfault
  exact hfault rfl

end EdgeRoutes
