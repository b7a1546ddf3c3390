import SymbolCache.Command
import SymbolCache.Text.Cut
import SymbolCache.Text.Lossy

/-!
# Outcomes

What a process leaves behind when it ends, and how that answers the request that started it. The
process has no input; its output and its messages are captured.
-/

set_option autoImplicit false

namespace SymbolCache.Program

inductive Ending where
  | exited (status : Nat)
  | killed (signal : Nat)
  deriving Repr, DecidableEq

inductive Stream where
  | output
  | messages
  deriving Repr, DecidableEq

structure Outcome where
  written : Array (Stream × List UInt8) := #[]
  ending : Ending := .exited 0
  elapsed : Duration := ⟨0⟩
  deriving Repr, DecidableEq

namespace Outcome

def textOf (outcome : Outcome) (stream : Stream) : List UInt8 :=
  (outcome.written.toList.filter fun part => part.1 == stream).flatMap Prod.snd

def output (outcome : Outcome) : List UInt8 :=
  outcome.textOf .output

def messages (outcome : Outcome) : List UInt8 :=
  outcome.textOf .messages

end Outcome

def Ending.status? : Ending → Option Int
  | .exited status => some status
  | .killed _ => none

/-- The answer to a request, by the outcome of the process or why it could not be started. A process
that takes as long as its limit is stopped. Messages count only if the process fails. -/
def answer (request : Request) : Except FileError Outcome → Answer
  | .error cause => .error (.spawn request.invocation.line cause)
  | .ok outcome =>
    if request.limit.nanoseconds ≤ outcome.elapsed.nanoseconds then
      .error (.timeout request.invocation.line request.limit)
    else if outcome.ending = .exited 0 then .ok (Text.decodeLossy outcome.output)
    else
      .error (.execution request.invocation.line outcome.ending.status?
        (String.ofList (Text.trim (Text.decodeLossy outcome.messages).toList)))

def forever : Duration := .ofMilliseconds (Nat.pow 10 18)

def characterBytes (characters : List Char) : List UInt8 :=
  Text.encodeLetters characters

def bytes (text : String) : List UInt8 :=
  characterBytes text.toList

namespace Outcome

def failure (status : Nat) (message : String) : Outcome where
  written := #[(.messages, bytes message)]
  ending := .exited status

def printing (output : List UInt8) (elapsed : Duration) : Outcome where
  written := #[(.output, output)]
  elapsed

def success (output : List UInt8) : Outcome :=
  printing output ⟨0⟩

def ofBool (holds : Bool) : Outcome where
  ending := .exited (if holds then 0 else 1)

/-- What two processes leave behind that run one after the other. A failure of either is one of
both. -/
def andThen (first second : Outcome) : Outcome where
  written := first.written ++ second.written
  ending := if first.ending = .exited 0 then second.ending else first.ending
  elapsed := ⟨first.elapsed.nanoseconds + second.elapsed.nanoseconds⟩

end Outcome

end SymbolCache.Program
