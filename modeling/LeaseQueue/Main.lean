/-
The administration program.

* `main`: reads the command line, the environment and payload files, and leaves behind what
  `Admin.run` says.

There is no way to a broker from here: every run that would need one ends with the failure to reach
it.
-/
import LeaseQueue.Admin.Run
import LeaseQueue.Table.Store

namespace LeaseQueue.Admin

/-- The text of a file, or the reason why it cannot be read. -/
def readFile (path : String) : IO (Except String String) := do
  try
    let bytes ← IO.FS.readBinFile path
    return match String.fromUTF8? bytes with
      | some text => .ok text
      | none => .error "stream did not contain valid UTF-8"
  catch e => return .error (toString e)

/-- The text of the payload file that a command line names, if it names one. -/
def payloadFile (words : List String) : IO (Except String String) :=
  match parse words with
  | .ok (_, .enqueue _ none (some path) _) => readFile path
  | _ => return .ok ""

end LeaseQueue.Admin

open LeaseQueue in
/-- Run one command. -/
def main (words : List String) : IO UInt32 := do
  let address ← IO.getEnv Admin.addressVariable
  let environment := fun name => if name = Admin.addressVariable then address else none
  let payload ← Admin.payloadFile words
  let now ← IO.monoMsNow
  let service : Service Table := ⟨.empty, .standard, .none, .none⟩
  let network := Network.unreachable "Network is unreachable (os error 101)"
    "failed to lookup address information: Temporary failure in name resolution"
  let (ending, _) :=
    Admin.run network (fun _ => payload) environment "" (Int64.ofNat now) service words
  (← IO.getStdout).putStr ending.output
  (← IO.getStderr).putStr ending.errors
  return UInt32.ofNat ending.exitCode
