import SourceDiagnostics.Json.Text
import SourceDiagnostics.Report.Basic

/-!
# Reports in JSON

A report is an object laid out over several lines, set in as an element of an array. Its
members always come in the same order, and a missing code is written as null.
-/

namespace SourceDiagnostics.Json

/-- The elements of an array on lines of their own, with a comma behind all but the last. -/
def elements : List String → String
  | [] => ""
  | [last] => last ++ "\n"
  | element :: others => element ++ ",\n" ++ elements others

/-- A place as an object on one line. -/
def ofPlace (place : Place) : String :=
  "\x7b \"line\": " ++ toString place.line ++ ", \"column\": " ++ toString place.column ++ " \x7d"

/-- A marked span as an object, in the array of a report. -/
def ofMarkedSpan (marked : MarkedSpan) : String :=
  "      \x7b\n" ++
  "        \"kind\": \"" ++ marked.marker.role.name ++ "\",\n" ++
  "        \"message\": " ++ quote marked.marker.message ++ ",\n" ++
  "        \"file\": " ++ quote marked.span.file ++ ",\n" ++
  "        \"begin\": " ++ ofPlace marked.span.start ++ ",\n" ++
  "        \"end\": " ++ ofPlace marked.span.stop ++ "\n" ++
  "      \x7d"

/-- A note as an object on one line, in the array of a report. -/
def ofNote (note : Note) : String :=
  "      \x7b \"kind\": \"" ++ note.kind.name ++ "\", \"message\": " ++
    quote note.message ++ " \x7d"

/-- A code, or null where there is none. -/
def ofCode : Option String → String
  | some code => quote code
  | none => "null"

/-- A report as an object, in the array of a document. -/
def ofReport (report : Report) : String :=
  "  \x7b\n" ++
  "    \"severity\": \"" ++ report.severity.name ++ "\",\n" ++
  "    \"code\": " ++ ofCode report.code ++ ",\n" ++
  "    \"headline\": " ++ quote report.headline ++ ",\n" ++
  "    \"annotations\": [\n" ++ elements (report.annotations.map ofMarkedSpan) ++ "    ],\n" ++
  "    \"notes\": [\n" ++ elements (report.notes.map ofNote) ++ "    ]\n" ++
  "  \x7d"

end SourceDiagnostics.Json
