import SymbolCache.Json.Value
import SymbolCache.Outcome

/-!
# Handing commands over

The program starts no other program itself. It hands each command over as a line of JSON, and reads
back as another line what the command left behind.
-/

set_option autoImplicit false

namespace SymbolCache.CommandLine.Exchange

def requestLine (request : Request) : String :=
  String.ofList <| Json.render <| .object
    [("program", .string request.invocation.program),
      ("arguments", .array (request.invocation.arguments.map .string)),
      ("directory", .string request.directory),
      ("milliseconds", .integer (request.limit.nanoseconds / 1000000))]

def textField (record : Json) (name : String) : String :=
  ((record.field? name).bind Json.asString?).getD ""

def countField? (record : Json) (name : String) : Option Nat :=
  (record.field? name).bind (Json.asNat? 64)

/-- What a command left behind, by a record of it. A record without a status stands for a command
that could not be started, and one with a null status for a command that a signal ended. -/
def outcomeOfRecord (record : Json) : Except FileError Program.Outcome :=
  match record.field? "status" with
  | none => .error .notFound
  | some status =>
    .ok {
      written :=
        #[(.output, Program.bytes (textField record "output")),
          (.messages, Program.bytes (textField record "messages"))]
      ending := match status.asNat? 8 with
        | some status => .exited status
        | none => .killed ((countField? record "signal").getD 0)
      elapsed := .ofMilliseconds ((countField? record "milliseconds").getD 0) }

def answerOfLine (request : Request) (line : String) : Answer :=
  Program.answer request <|
    match Json.read? line with
    | some record => outcomeOfRecord record
    | none => .error .notFound

end SymbolCache.CommandLine.Exchange
