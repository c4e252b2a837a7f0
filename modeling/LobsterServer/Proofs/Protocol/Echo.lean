import LobsterServer.Protocol.Decode
import LobsterServer.Protocol.Encode

set_option autoImplicit false

/-!
# What the editor sends back

A diagnostic that the server has published, and that the editor sends back with a request, is read
as the diagnostic that it was.  An edit of a quick fix, taken from the answer to such a request and
sent back as a change of the document, is read as the replacement that it was.
-/

namespace LobsterServer

open Json (required? optional?)

/-! ## Fields -/

namespace Json

variable {α : Type} (read : Json → Option α)

theorem required?_some (j : Json) : required? read (some j) = read j := rfl

theorem optional?_obj (fields : List (String × Json)) :
    optional? read (some (.obj fields)) = (read (.obj fields)).map some := rfl

theorem toUInt32?_ofNat (n : UInt32) : (ofNat n.toNat).toUInt32? = some n := by
  have hlt := n.toNat_lt
  have hbounds : (0 : Int) ≤ Int.ofNat n.toNat ∧ Int.ofNat n.toNat < 0x100000000 := by
    simp only [Int.ofNat_eq_natCast]
    omega
  simp only [ofNat, toUInt32?, toIntIn?, if_pos hbounds, Option.map_some]
  simp

end Json

/-! ## Positions and ranges -/

theorem Position.ofJson?_of_record {j : Json} {line character : Option Json}
    (h : j.record? ["line", "character"] false = some [line, character]) :
    Position.ofJson? j =
      (required? Json.toUInt32? line).bind fun line =>
        (required? Json.toUInt32? character).bind fun character => some ⟨line, character⟩ := by
  rw [ofJson?, h]
  rfl

theorem Position.ofJson?_toJson (p : Position) : Position.ofJson? p.toJson = some p := by
  have hrecord : p.toJson.record? ["line", "character"] false =
      some [some (.ofNat p.line.toNat), some (.ofNat p.character.toNat)] := rfl
  rw [ofJson?_of_record hrecord, Json.required?_some, Json.required?_some,
    Json.toUInt32?_ofNat, Json.toUInt32?_ofNat, Option.bind_some, Option.bind_some]

theorem Range.ofJson?_of_record {j : Json} {start stop : Option Json}
    (h : j.record? ["start", "end"] false = some [start, stop]) :
    Range.ofJson? j =
      (required? Position.ofJson? start).bind fun start =>
        (required? Position.ofJson? stop).bind fun stop => some ⟨start, stop⟩ := by
  rw [ofJson?, h]
  rfl

theorem Range.ofJson?_toJson (r : Range) : Range.ofJson? r.toJson = some r := by
  have hrecord : r.toJson.record? ["start", "end"] false =
      some [some r.start.toJson, some r.end.toJson] := rfl
  rw [ofJson?_of_record hrecord,
    Json.required?_some, Json.required?_some, Position.ofJson?_toJson, Position.ofJson?_toJson,
    Option.bind_some, Option.bind_some]

/-! ## Diagnostics -/

theorem Diagnostic.ofEditor?_of_record {j range severity message : Json}
    {code source : Option Json}
    (h : j.record? ["range", "severity", "code", "codeDescription", "source", "message",
      "relatedInformation", "tags", "data"] false =
        some [some range, some severity, code, none, source, some message, none, none, none]) :
    Diagnostic.ofEditor? j =
      (Range.ofJson? range).bind fun range =>
        (optional? Json.toInt32? (some severity)).bind fun severity =>
          (optional? Json.toCode? code).bind fun code =>
            (optional? Json.toString? source).bind fun source =>
              message.toString?.bind fun message =>
                some ⟨range, Severity.ofNumber severity, code, source, message⟩ := by
  rw [ofEditor?, h]
  rfl

theorem Severity.optional?_number (severity : Severity) :
    optional? Json.toInt32? (some (.ofNat severity.number)) =
      some (some (severity.number : Int)) := by
  cases severity <;> decide

theorem Json.optional?_code (code : Option String) :
    optional? toCode? (code.map Json.str) = some code := by
  cases code <;> rfl

theorem Json.optional?_string (source : Option String) :
    optional? toString? (source.map Json.str) = some source := by
  cases source <;> rfl

/-- A published diagnostic that comes back is read as it was. -/
theorem Diagnostic.ofEditor?_toEditor (d : Diagnostic) :
    Diagnostic.ofEditor? d.toEditor = some d := by
  have hrecord : d.toEditor.record? ["range", "severity", "code", "codeDescription", "source",
      "message", "relatedInformation", "tags", "data"] false =
        some [some d.range.toJson, some (.ofNat d.severity.number), d.code.map Json.str, none,
          d.source.map Json.str, some (.str d.message), none, none, none] := by
    obtain ⟨range, severity, code, source, message⟩ := d
    cases code <;> cases source <;> rfl
  rw [ofEditor?_of_record hrecord, Range.ofJson?_toJson, Severity.optional?_number,
    Json.optional?_code, Json.optional?_string]
  simp only [Option.bind_some, Severity.ofNumber_number]
  rfl

/-! ## Edits -/

/-- The edits that an action has for a document, in the editor's spelling. -/
def Json.editsFor? (action : Json) (uri : String) : Option Json :=
  ((action.field? "edit").bind fun edit => edit.field? "changes").bind fun changes =>
    changes.field? uri

/-- The change that makes an edit: the editor writes it with the range and the text of the edit. -/
def Json.changeOf? (edit : Json) : Option Json := do
  let range ← edit.field? "range"
  let text ← edit.field? "newText"
  return .obj [("range", range), ("text", text)]

/-- The edits of an action are written for the document of the action. -/
theorem CodeAction.editsFor?_toEditor (a : CodeAction) :
    a.toEditor.editsFor? a.uri = some (.arr (a.edits.map TextEdit.toEditor)) := by
  have hchanges : ((a.toEditor.field? "edit").bind fun edit => edit.field? "changes") =
      some (.obj [(a.uri, .arr (a.edits.map TextEdit.toEditor))]) := rfl
  rw [Json.editsFor?, hchanges, Option.bind_some]
  simp [Json.field?]

theorem Change.ofEditor?_of_record {j range text : Json}
    (h : j.record? ["range", "rangeLength", "text"] false =
      some [some range, none, some text]) :
    Change.ofEditor? j =
      (optional? Range.ofJson? (some range)).bind fun range =>
        text.toText?.bind fun text => some ⟨range, text⟩ := by
  rw [ofEditor?, h]
  rfl

/-- An edit that comes back as a change is read as the replacement that it was. -/
theorem Change.ofEditor?_changeOf (e : TextEdit) :
    ∃ change, e.toEditor.changeOf? = some change ∧
      Change.ofEditor? change = some ⟨some e.range, e.newText⟩ := by
  have hrange : optional? Range.ofJson? (some e.range.toJson) = some (some e.range) := by
    rw [Range.toJson, Json.optional?_obj, ← Range.toJson, Range.ofJson?_toJson, Option.map_some]
  have htext : (Json.ofText e.newText).toText? = some e.newText := by
    simp [Json.ofText, Json.toText?, Json.toString?]
  refine ⟨.obj [("range", e.range.toJson), ("text", .ofText e.newText)], rfl, ?_⟩
  have hrecord : Json.record? ["range", "rangeLength", "text"] false
      (.obj [("range", e.range.toJson), ("text", .ofText e.newText)]) =
        some [some e.range.toJson, none, some (.ofText e.newText)] := rfl
  rw [ofEditor?_of_record hrecord, hrange, htext, Option.bind_some, Option.bind_some]

/-! ## Messages -/

/-- Parameters of a request about a document that carry one diagnostic, as it was shown. -/
structure Json.Echoes (params : Json) (uri : String) (shown : Json) : Prop where
  about : ((params.field? "textDocument").bind fun document => document.field? "uri").bind
    Json.toUri? = some uri
  carries : ((params.field? "context").bind fun context => context.field? "diagnostics") =
    some (.arr [shown])

/-- Parameters that tell of one change of a document, which leads to a version. -/
structure Json.Tells (params : Json) (uri : String) (version : Int) (change : Json) : Prop where
  about : ((params.field? "textDocument").bind fun document => document.field? "uri").bind
    Json.toUri? = some uri
  leads : ((params.field? "textDocument").bind fun document => document.field? "version").bind
    Json.toInt32? = some version
  carries : params.field? "contentChanges" = some (.arr [change])

/-- A value with a field is an object, and read by the names of its fields. -/
theorem Json.record?_of_field? {j value : Json} {name : String} (h : j.field? name = some value)
    (names : List String) (short : Bool) : j.record? names short = some (names.map j.field?) := by
  cases j with
  | obj fields => rfl
  | _ => cases h

/-- The field of a record whose other fields do not matter is read by its name. -/
theorem Json.fieldOf?_of_field? {α : Type} (read : Json → Option α) (names : List String)
    {j value : Json} {name : String} (listed : name ∈ names) (h : j.field? name = some value) :
    fieldOf? names name read j = read value := by
  have hlookup : (names.zip (names.map j.field?)).lookup name = some (some value) := by
    induction names with
    | nil => cases listed
    | cons first rest ih =>
      by_cases hfirst : name = first
      · simp [← hfirst, h]
      · have hrest := ih ((List.mem_cons.mp listed).resolve_left hfirst)
        have hunlike : (name == first) = false := beq_eq_false_iff_ne.mpr hfirst
        simpa only [List.map_cons, List.zip_cons_cons, List.lookup_cons, hunlike] using hrest
  simp only [fieldOf?, record?_of_field? h, hlookup, Option.bind_eq_bind, Option.bind_some,
    required?_some]

theorem Json.toList?_single {α : Type} {read : Json → Option α} {j : Json} {a : α}
    (h : read j = some a) : toList? read (.arr [j]) = some [a] := by
  simp [toList?, h]

/-- A request that carries a diagnostic is read as a question about that diagnostic. -/
theorem Message.ofEditor?_of_echoes {params shown : Json} {uri : String} {d : Diagnostic}
    (h : params.Echoes uri shown) (reads : Diagnostic.ofEditor? shown = some d) (request : Nat) :
    Message.ofEditor? request "textDocument/codeAction" params =
      some (.quickFixes request uri [d]) := by
  obtain ⟨name, hname, huri⟩ := Option.bind_eq_some_iff.mp h.about
  obtain ⟨document, hdocument, hname⟩ := Option.bind_eq_some_iff.mp hname
  obtain ⟨context, hcontext, hcarries⟩ := Option.bind_eq_some_iff.mp h.carries
  have hdiagnostics := Json.fieldOf?_of_field? (Json.toList? Diagnostic.ofEditor?)
    ["diagnostics", "only", "triggerKind"] (by decide) hcarries
  have hnamed := Json.fieldOf?_of_field? Json.toUri? ["uri"] (by decide) hname
  rw [Json.toList?_single reads] at hdiagnostics
  rw [huri] at hnamed
  simp only [ofEditor?, asked?, Json.documentName?, Option.bind_eq_bind, hdocument, hcontext,
    Option.bind_some, hdiagnostics, hnamed]
  rfl

/-- A notification that tells of a change is read with that change. -/
theorem Message.ofEditor?_of_tells {params change : Json} {uri : String} {version : Int}
    {c : Change} (h : params.Tells uri version change) (reads : Change.ofEditor? change = some c)
    (request : Nat) :
    Message.ofEditor? request "textDocument/didChange" params =
      some (.didChange uri [c] version) := by
  obtain ⟨name, hname, huri⟩ := Option.bind_eq_some_iff.mp h.about
  obtain ⟨document, hdocument, hname⟩ := Option.bind_eq_some_iff.mp hname
  have hversion := h.leads
  rw [hdocument, Option.bind_some] at hversion
  obtain ⟨number, hnumber, hversion⟩ := Option.bind_eq_some_iff.mp hversion
  have hparams := Json.record?_of_field? hdocument ["textDocument", "contentChanges"] false
  have hfields := Json.record?_of_field? hname ["uri", "version"] false
  simp only [List.map_cons, List.map_nil, hdocument, h.carries] at hparams
  simp only [List.map_cons, List.map_nil, hname, hnumber] at hfields
  simp only [ofEditor?, changed?, Option.bind_eq_bind, hparams, hfields, Option.bind_some,
    Json.required?_some, huri, hversion, Json.toList?_single reads]
  rfl

end LobsterServer
