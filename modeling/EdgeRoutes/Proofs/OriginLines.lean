import EdgeRoutes.Proofs.CodeRuns
import EdgeRoutes.Proofs.RoutePhases

/-! What the later phases of a request do, read off the lines of their blocks: the upstream that a request is pointed at,
the headers that are set on requests and responses, and what is returned. -/

namespace EdgeRoutes

open Js Js.Code

/-- Where an upstream is. -/
structure Origin where
  scheme : String
  host : String
  port : Nat

structure HeaderSetting where
  name : String
  value : String
  /-- Variables in the value are filled in. -/
  filled : Bool

inductive PhaseStep where
  /-- The request goes on, with headers set on it, to an upstream. -/
  | toOrigin (origin : Origin) (settings : List HeaderSetting)
  /-- The response goes on, with headers set on it. -/
  | withHeaders (settings : List HeaderSetting)
  /-- The request is answered with a status. -/
  | answered (code : Nat)

namespace Js

/-- What follows a mark on the first line that begins with it. -/
def fieldOf? (mark : String) (texts : List String) : Option (List Char) :=
  texts.findSome? fun text => Text.after? mark.toList text.toList

/-- Reads a string literal that only the ending follows. -/
def readStringBefore? (ending : List Char) (cs : List Char) : Option String :=
  (readString? cs).bind fun (text, rest) => if rest = ending then some text else none

def readTextField? (mark : String) (texts : List String) : Option String :=
  (fieldOf? mark texts).bind (readStringBefore? [','])

def readNumberField? (mark : String) (texts : List String) : Option Nat := do
  let (number, rest) := readNumber (← fieldOf? mark texts)
  if rest = [','] then some number else none

def readOrigin? (texts : List String) : Option Origin := do
  let host ← readTextField? "domainName: " texts
  let port ← readNumberField? "port: " texts
  let scheme ← readTextField? "protocol: " texts
  return ⟨scheme, host, port⟩

/-- Reads the value of a header to the end of the call that sets it, and whether variables are filled in. -/
def readValue? (cs : List Char) : Option (String × Bool) :=
  match Text.after? "expandVars(".toList cs with
  | some rest => (readStringBefore? ", vars));".toList rest).map (·, true)
  | none => (readStringBefore? ");".toList cs).map (·, false)

/-- Reads what follows the receiver in the call that sets a header. -/
def readSetting? (cs : List Char) : Option HeaderSetting := do
  let (name, rest) ← readString? cs
  let (value, filled) ← readValue? (← Text.after? ", ".toList rest)
  return ⟨name, value, filled⟩

/-- Reads the headers that lines set on a receiver, in their order. -/
def readSettings? (receiver : String) (texts : List String) : Option (List HeaderSetting) :=
  (texts.filterMap fun text => Text.after? ("setHeader(" ++ receiver ++ ", ").toList text.toList).mapM readSetting?

/-- Reads what the lines of a block do. The last one tells what is returned. -/
def readPhaseStep? (texts : List String) : Option PhaseStep := do
  let last ← texts.getLast?
  if last = "return request;" then
    return .toOrigin (← readOrigin? texts) (← readSettings? "request.headers" texts)
  else if last = "return response;" then
    return .withHeaders (← readSettings? "response.headers" texts)
  else
    let (code, _) := readNumber (← Text.after? "return statusResponse(".toList last.toList)
    return .answered code

end Js

/-- A header in whose value variables are filled in. -/
def HeaderSetting.ofEntry (entry : String × String) : HeaderSetting := ⟨entry.1, entry.2, true⟩

/-- What a location asks of the phase that sends requests to upstreams. An upstream that cannot be reached makes it
answer with an error. -/
inductive Location.Requests (l : Location) : PhaseStep → Prop
  | reached {url : String} {t : Http.ProxyTarget} (hproxy : l.directives.proxyPass = some url)
      (ht : resolve url = .ok (.ok t)) :
      l.Requests (.toOrigin ⟨t.scheme, t.host, t.port⟩
        (⟨"Host", t.host, false⟩ :: l.directives.proxyHeaders.map HeaderSetting.ofEntry))
  | refused {url reason : String} (hproxy : l.directives.proxyPass = some url)
      (hreason : resolve url = .ok (.error reason)) : l.Requests (.answered 502)

/-- What a location asks of the phase that takes the responses of upstreams. -/
inductive Location.Responds (l : Location) : PhaseStep → Prop
  | headers {headers : Fields String} (h : Http.responseHeaders l.directives = .ok headers) (hne : headers ≠ []) :
      l.Responds (.withHeaders (headers.map HeaderSetting.ofEntry))

section Fields

variable {mark : String}

theorem fieldOf?_texts (code : Code) : fieldOf? mark code.texts = code.field? mark := by
  rw [fieldOf?, texts, List.findSome?_map]
  rfl

theorem readStringBefore?_string (text : String) (ending : List Char) :
    readStringBefore? ending ((string text).toList ++ ending) = some text := by
  rw [readStringBefore?, readString?_string, Option.bind_some]
  exact if_pos rfl

theorem readTextField?_eq {texts : List String} {text : String}
    (h : fieldOf? mark texts = some (string text ++ ",").toList) : readTextField? mark texts = some text := by
  rw [readTextField?, h, Option.bind_some, String.toList_append]
  exact readStringBefore?_string text [',']

theorem readNumberField?_eq {texts : List String} {n : Nat}
    (h : fieldOf? mark texts = some (toString n ++ ",").toList) : readNumberField? mark texts = some n := by
  have hread := readNumber_toString n (c := ',') rfl []
  have htext : (toString n ++ ",").toList = (toString n).toList ++ [','] := String.toList_append
  rw [readNumberField?, h]
  simp only [Option.bind_eq_bind, Option.bind_some, htext, hread]
  rfl

end Fields

section Settings

variable {receiver : String}

theorem after?_setHeader (name value : String) :
    Text.after? ("setHeader(" ++ receiver ++ ", ").toList (setHeader receiver name value).toList =
      some ((string name).toList ++ (", ".toList ++ (value.toList ++ ");".toList))) := by
  have hcall : setHeader receiver name value =
      ("setHeader(" ++ receiver ++ ", ") ++ (string name ++ (", " ++ (value ++ ");"))) := by
    unfold setHeader
    simp only [String.append_assoc]
  rw [hcall, after?_mark]
  simp only [String.toList_append]

theorem after?_expandVars_string (text : String) (rest : List Char) :
    Text.after? "expandVars(".toList ((string text).toList ++ rest) = none := by
  obtain ⟨tail, htail⟩ := exists_toList_string text
  rw [htail]
  rfl

/-- A value without variables. -/
theorem readValue?_fixed (value : String) : readValue? ((string value).toList ++ ");".toList) = some (value, false) := by
  unfold readValue?
  rw [after?_expandVars_string]
  exact congrArg (Option.map (·, false)) (readStringBefore?_string value _)

theorem readValue?_filled (value : String) :
    readValue? ((expanded (string value)).toList ++ ");".toList) = some (value, true) := by
  have hvalue : (expanded (string value)).toList ++ ");".toList =
      "expandVars(".toList ++ ((string value).toList ++ ", vars));".toList) := by
    have hclose : ", vars));".toList = ", vars)".toList ++ ");".toList := rfl
    rw [expanded, String.toList_append, String.toList_append, hclose]
    simp only [List.append_assoc]
  rw [hvalue]
  unfold readValue?
  rw [Text.after?_append]
  exact congrArg (Option.map (·, true)) (readStringBefore?_string value _)

theorem readSetting?_eq (name : String) {cs : List Char} {value : String} {filled : Bool}
    (h : readValue? cs = some (value, filled)) :
    readSetting? ((string name).toList ++ (", ".toList ++ cs)) = some ⟨name, value, filled⟩ := by
  simp only [readSetting?, readString?_string, Text.after?_append, h, Option.bind_eq_bind, Option.bind_some,
    Option.pure_def]

/-- No line of the code sets a header on the receiver. -/
def SetsNone (receiver : String) (code : Code) : Prop := Each (Lacks ("setHeader(" ++ receiver ++ ", ")) code

/-- The lines of code set these headers on the receiver, and nothing is set by what stands around them. -/
theorem readSettings?_of_between {before after : Code} {entries : List (String × String)}
    {settings : List HeaderSetting} (hbefore : SetsNone receiver before) (hafter : SetsNone receiver after)
    (hsettings : List.Forall₂ (fun e s => e.1 = s.name ∧ readValue? (e.2.toList ++ ");".toList) = some (s.value, s.filled))
      entries settings) :
    readSettings? receiver (before ++ flat (entries.map fun e => setHeader receiver e.1 e.2) ++ after).texts =
      some settings := by
  have hnone : ∀ code, SetsNone receiver code →
      (code.texts.filterMap fun text => Text.after? ("setHeader(" ++ receiver ++ ", ").toList text.toList) = [] := by
    intro code hcode
    rw [texts, List.filterMap_map, List.filterMap_eq_nil_iff]
    exact hcode
  rw [readSettings?, texts_append, texts_append, texts_flat, List.filterMap_append, List.filterMap_append, hnone _ hbefore,
    hnone _ hafter, List.nil_append, List.append_nil, List.filterMap_map]
  induction hsettings with
  | nil => rfl
  | @cons e s es ss he _ ih =>
      rw [List.filterMap_cons_some (by exact after?_setHeader e.1 e.2), List.mapM_cons, readSetting?_eq e.1 he.2, ih, he.1]
      rfl

end Settings

section Origin

variable {mark : String} {before : Code}

/-- The fields of an origin stand behind two lines that open blocks. -/
theorem field?_of_fields {o : CustomOrigin} {rest : List Char} (horigin : Lacks mark "request.origin = \x7b")
    (hcustom : Lacks mark "custom: \x7b")
    (hfields : o.fields.findSome? (fun line => Text.after? mark.toList line.toList) = some rest) :
    o.code.field? mark = some rest := by
  rw [Lacks] at horigin hcustom
  rw [o.code_eq]
  unfold Code.block
  simp only [field?_append, field?_nested, field?_flat, List.findSome?_singleton, horigin, hcustom, hfields,
    Option.none_or, Option.some_or]

theorem readOrigin?_customOrigin (o : CustomOrigin)
    (hbefore : ∀ mark ∈ ["domainName: ", "port: ", "protocol: "], Each (Lacks mark) before) :
    readOrigin? (before ++ o.code).texts = some ⟨o.target.scheme, o.target.host, o.target.port⟩ := by
  have hfield : ∀ mark ∈ ["domainName: ", "port: ", "protocol: "],
      fieldOf? mark (before ++ o.code).texts = o.code.field? mark := by
    intro mark hmark
    rw [fieldOf?_texts, field?_append, field?_of_lacks (hbefore mark hmark), Option.none_or]
  have hhost : o.code.field? "domainName: " = some (string o.target.host ++ ",").toList := by
    refine field?_of_fields (by decide) (by decide) ?_
    rw [CustomOrigin.fields, List.findSome?_cons, String.append_assoc, after?_mark]
  have hport : o.code.field? "port: " = some (toString o.target.port ++ ",").toList := by
    have hlacks : Lacks "port: " ("domainName: " ++ string o.target.host ++ ",") := lacks_between rfl _ _
    rw [Lacks] at hlacks
    refine field?_of_fields (by decide) (by decide) ?_
    rw [CustomOrigin.fields, List.findSome?_cons, hlacks, List.findSome?_cons, String.append_assoc, after?_mark]
  have hscheme : o.code.field? "protocol: " = some (string o.target.scheme ++ ",").toList := by
    have hlacks : Lacks "protocol: " ("domainName: " ++ string o.target.host ++ ",") := lacks_between rfl _ _
    have hlacks' : Lacks "protocol: " ("port: " ++ toString o.target.port ++ ",") := lacks_between rfl _ _
    rw [Lacks] at hlacks hlacks'
    refine field?_of_fields (by decide) (by decide) ?_
    rw [CustomOrigin.fields, List.findSome?_cons, hlacks, List.findSome?_cons, hlacks', List.findSome?_cons,
      String.append_assoc, after?_mark]
  rw [readOrigin?, readTextField?_eq ((hfield _ (by simp)).trans hhost),
    readNumberField?_eq ((hfield _ (by simp)).trans hport), readTextField?_eq ((hfield _ (by simp)).trans hscheme)]
  rfl

/-- Only the lines in the middle of the code for an origin set headers. -/
theorem readSettings?_customOrigin (o : CustomOrigin) (hbefore : SetsNone "request.headers" before) :
    readSettings? "request.headers" (before ++ o.code).texts =
      some (⟨"Host", o.target.host, false⟩ :: o.headers.map HeaderSetting.ofEntry) := by
  have horigin : SetsNone "request.headers"
      (block "request.origin = \x7b" (block "custom: \x7b" (flat o.fields) "\x7d,") "\x7d;") := by
    rw [SetsNone, each_block, each_block, CustomOrigin.fields]
    simp only [each_flat, List.forall_mem_cons]
    exact ⟨by decide, ⟨by decide, ⟨lacks_between rfl _ _, lacks_between rfl _ _, lacks_between rfl _ _, by decide,
      by decide, lacks_between rfl _ _, by decide, by decide, List.forall_mem_nil _⟩, by decide⟩, by decide⟩
  have hassign : SetsNone "request.headers" (o.uri.assignment o.mount) := by
    have huri : ∀ uri, SetsNone "request.headers" (flat ["request.uri = " ++ replacedMount uri o.mount ++ ";"]) :=
      fun uri => each_flat.mpr (List.forall_mem_singleton.mpr (lacks_between rfl _ _))
    cases o.uri with
    | keep => exact each_nil
    | replace uri => exact huri uri
    | replaceUnlessRewritten uri => exact each_block.mpr ⟨by decide, huri uri, by decide⟩
  have hlast : SetsNone "request.headers" (flat ["return request;"]) :=
    each_flat.mpr (List.forall_mem_singleton.mpr (by decide))
  have hcode : before ++ o.code = before ++ block "request.origin = \x7b" (block "custom: \x7b" (flat o.fields) "\x7d,")
      "\x7d;" ++ flat (o.entries.map fun e => setHeader "request.headers" e.1 e.2) ++
        (o.uri.assignment o.mount ++ flat ["return request;"]) := by
    rw [o.code_eq]
    simp only [List.append_assoc]
  rw [hcode]
  refine readSettings?_of_between (each_append.mpr ⟨hbefore, horigin⟩) (each_append.mpr ⟨hassign, hlast⟩) ?_
  refine .cons ⟨rfl, readValue?_fixed _⟩ ?_
  rw [List.forall₂_map_left_iff, List.forall₂_map_right_iff]
  exact List.forall₂_same.mpr fun e _ => ⟨rfl, readValue?_filled e.2⟩

end Origin

section Phases

variable {site : Site} {body : List Statement}

theorem readPhaseStep?_toOrigin {texts : List String} (hlast : texts.getLast? = some "return request;")
    {origin : Origin} (horigin : readOrigin? texts = some origin) {settings : List HeaderSetting}
    (hsettings : readSettings? "request.headers" texts = some settings) :
    readPhaseStep? texts = some (.toOrigin origin settings) := by
  simp only [readPhaseStep?, hlast, horigin, hsettings, Option.bind_eq_bind, Option.bind_some, if_true, Option.pure_def]

theorem readPhaseStep?_withHeaders {texts : List String} (hlast : texts.getLast? = some "return response;")
    {settings : List HeaderSetting} (hsettings : readSettings? "response.headers" texts = some settings) :
    readPhaseStep? texts = some (.withHeaders settings) := by
  have hother : ¬ "return response;" = "return request;" := by decide
  simp only [readPhaseStep?, hlast, hsettings, hother, Option.bind_eq_bind, Option.bind_some, if_false, if_true,
    Option.pure_def]

/-- The answer for an upstream that cannot be reached. -/
theorem readPhaseStep?_answered {texts : List String}
    (hlast : texts.getLast? = some (respondStatement .edgeHook 502 .none [])) :
    readPhaseStep? texts = some (.answered 502) := by
  have hrequest : ¬ respondStatement .edgeHook 502 .none [] = "return request;" := by decide +kernel
  have hresponse : ¬ respondStatement .edgeHook 502 .none [] = "return response;" := by decide +kernel
  have hcode : (Text.after? "return statusResponse(".toList (respondStatement .edgeHook 502 .none []).toList).map
      (fun rest => (readNumber rest).1) = some 502 := by decide +kernel
  obtain ⟨rest, hrest, hcode⟩ := Option.map_eq_some_iff.mp hcode
  simp only [readPhaseStep?, hlast, hrequest, hresponse, hrest, hcode, Option.bind_eq_bind, Option.bind_some, if_false,
    Option.pure_def]

/-- The statements that send a request to an upstream are read as what the location asks for. -/
theorem readPhaseStep?_requests (h : (originRequestBody site).result = .ok body) (hne : body ≠ []) (comments : Bool) :
    ∃ step, readPhaseStep? (Statement.codeAll .edgeHook comments body).texts = some step ∧
      site.location.Requests step := by
  rcases originRequestBody_parts h with ⟨-, hnil⟩ | ⟨url, hproxy, -, ⟨reason, hreason, rfl⟩ | ⟨t, timeout, ht, rfl⟩⟩
  · exact absurd hnil hne
  · refine ⟨.answered 502, readPhaseStep?_answered ?_, .refused hproxy hreason⟩
    rw [degraded, Statement.codeAll, codeAll_singleton, Statement.code, Statement.code, Ending.code, texts_append,
      texts_flat, List.getLast?_concat]
  · refine ⟨_, ?_, .reached hproxy ht⟩
    have hforeign : ∀ mark ∈ ["domainName: ", "port: ", "protocol: "], ForeignToRules mark := by decide +kernel
    rw [Statement.codeAll, codeAll_singleton, Statement.code, Statement.code, Ending.code]
    refine readPhaseStep?_toOrigin ?_ (readOrigin?_customOrigin _ fun mark hmark => ?_) (readSettings?_customOrigin _ ?_)
    · rw [CustomOrigin.code_eq, ← List.append_assoc, texts_append, texts_flat, List.getLast?_concat]
    · exact lacks_commentCode (hforeign mark hmark) comments _
    · exact lacks_commentCode (by decide +kernel) comments _

theorem readPhaseStep?_responds (h : (originResponseBody site).result = .ok body) (hne : body ≠ []) (comments : Bool) :
    ∃ step, readPhaseStep? (Statement.codeAll .edgeHook comments body).texts = some step ∧
      site.location.Responds step := by
  rw [originResponseBody, Logged.result_bind] at h
  obtain ⟨headers, hheaders, h⟩ := bind_eq_ok_iff.mp h
  obtain rfl := Except.ok.inj h
  split_ifs at hne with hempty
  · exact absurd rfl hne
  · have hcode : (Ending.passResponse headers).code .edgeHook = [] ++
        flat ((headers.map fun e => (e.1, expanded (string e.2))).map fun e => setHeader "response.headers" e.1 e.2) ++
          flat ["return response;"] := by
      rw [Ending.code, flat, List.map_append, ← flat, ← flat, List.map_map]
      rfl
    have hlast : SetsNone "response.headers" (flat ["return response;"]) :=
      each_flat.mpr (List.forall_mem_singleton.mpr (by decide))
    refine ⟨_, ?_, .headers hheaders (by simpa using hempty)⟩
    rw [if_neg hempty, codeAll_singleton, Statement.code, hcode]
    refine readPhaseStep?_withHeaders ?_ (readSettings?_of_between each_nil hlast ?_)
    · rw [texts_append, texts_flat ["return response;"], List.getLast?_concat]
    · rw [List.forall₂_map_left_iff, List.forall₂_map_right_iff]
      exact List.forall₂_same.mpr fun e _ => ⟨rfl, readValue?_filled e.2⟩

end Phases

end EdgeRoutes
