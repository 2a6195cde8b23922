import ScriptLint.Diagnostic
import ScriptLint.Json.Basic

/-!
# Diagnostics as JSON records

`toJson` writes all fields of a diagnostic. `ofJson?` reads them again: only the edit and the end
position may be missing, and a field that no diagnostic has is passed over, except in a range.
-/

namespace ScriptLint

namespace Span

def toJson (s : Span) : Json := .obj [("start", .ofNat s.start), ("end", .ofNat s.stop)]

def ofJson? (value : Json) : Option Span := do
  let fields ← value.record? ["start", "end"]
  let known := match value with
    | .obj members => members.all fun m => m.1 == "start" || m.1 == "end"
    | _ => true
  match known, fields with
  | true, [start, stop] => some ⟨← start.asNat64?, ← stop.asNat64?⟩
  | _, _ => none

end Span

namespace Edit

def toJson (e : Edit) : Json := .obj [("range", e.span.toJson), ("text", .ofText e.text)]

def ofJson? (value : Json) : Option Edit := do
  match ← value.record? ["range", "text"] with
  | [range, text] => some ⟨← Span.ofJson? range, (← text.asString?).toList⟩
  | _ => none

end Edit

namespace Location

def toJson (l : Location) : Json :=
  .obj [("file", .str l.file.toString), ("line", .ofNat l.start.line),
    ("column", .ofNat l.start.column), ("endLine", .ofOption .ofNat l.endLine),
    ("endColumn", .ofOption .ofNat l.endColumn), ("offset", .ofNat l.offset),
    ("length", .ofNat l.length)]

def ofJson? (value : Json) : Option Location := do
  let names := ["file", "line", "column", "endLine", "endColumn", "offset", "length"]
  match ← value.record? names with
  | [file, line, column, endLine, endColumn, offset, length] =>
    some ⟨.ofString (← file.asString?), ⟨← line.asNat64?, ← column.asNat64?⟩,
      ← endLine.optional? Json.asNat64?, ← endColumn.optional? Json.asNat64?, ← offset.asNat64?,
      ← length.asNat64?⟩
  | _ => none

end Location

namespace Severity

def toJson (s : Severity) : Json := .str s.name

def ofJson? (value : Json) : Option Severity := value.caseName?.bind ofName?

end Severity

namespace EditStatus

def toJson (s : EditStatus) : Json := .str s.name

def ofJson? (value : Json) : Option EditStatus := value.caseName?.bind ofName?

end EditStatus

namespace Diagnostic

def toJson (d : Diagnostic) : Json :=
  .obj [("ruleId", .str d.rule), ("messageId", .str d.messageId), ("severity", d.severity.toJson),
    ("message", .str d.message), ("location", d.location.toJson),
    ("fix", .ofOption Edit.toJson d.edit), ("fixStatus", d.status.toJson)]

def ofJson? (value : Json) : Option Diagnostic := do
  let names := ["ruleId", "messageId", "severity", "message", "location", "fix", "fixStatus"]
  match ← value.record? names with
  | [rule, messageId, severity, message, location, edit, status] =>
    some ⟨← rule.asString?, ← messageId.asString?, ← Severity.ofJson? severity,
      ← message.asString?, ← Location.ofJson? location, ← edit.optional? Edit.ofJson?,
      ← EditStatus.ofJson? status⟩
  | _ => none

end Diagnostic

end ScriptLint
