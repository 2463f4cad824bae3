import Gatehouse.Account.Command

/-!
The command line: registers an account in a table in memory and prints what came of it. The
password is read from the standard input.
-/
namespace Gatehouse

/-- What ends the command with a message or an exit code. -/
def failureText : Fault → String
  | .exit message => message
  | f => f.reportName

end Gatehouse

def main (arguments : List String) : IO UInt32 := do
  let input ← IO.getStdin
  let line ← input.getLine
  let password := String.ofList (line.toList.takeWhile fun c => c != '\n' && c != '\r')
  match Gatehouse.Command.run Gatehouse.Accounts.empty .inMemory .sha256 arguments password with
  | .ok (printed, _) =>
    IO.print printed
    return 0
  | .error f =>
    IO.eprintln (Gatehouse.failureText f)
    return 2
