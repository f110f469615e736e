import Bata.Command

namespace Bata

/-- The number of an error, which systems report with either sign. -/
def errorNumber (code : UInt32) : Nat :=
  min code.toNat (UInt32.size - code.toNat)

def faultOfNumber (n : Nat) (details : String) : Fault :=
  match n with
  | 2 => .notFound
  | 20 => .notDirectory
  | 21 => .isDirectory
  | 36 => .nameTooLong
  | _ => .other (details ++ " (os error " ++ toString n ++ ")")

def faultOf : IO.Error → Fault
  | .noFileOrDirectory _ code details
  | .inappropriateType _ code details
  | .invalidArgument _ code details
  | .permissionDenied _ code details
  | .resourceExhausted _ code details => faultOfNumber (errorNumber code) details
  | e => .other (toString e)

def attempt {α : Type} (action : IO α) : IO (Except Fault α) :=
  try return .ok (← action) catch e => return .error (faultOf e)

def disk : FileAccess IO where
  read path := attempt (IO.FS.readBinFile path)
  write path content := attempt (IO.FS.writeBinFile path content)

end Bata

open Bata in
def main (arguments : List String) : IO UInt32 := do
  let outcome ← Command.run disk (← IO.getEnv "RUST_LOG") arguments
  IO.print outcome.output
  for piece in outcome.errors do
    IO.eprint piece
  return outcome.exit.toUInt32
