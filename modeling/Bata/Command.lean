import Bata.Conversion
import Bata.Log
import Bata.Text.Basic
import Bata.Text.Plain

namespace Bata

/-- How a record is shown: on a line of its own, with further lines of its message indented. A
control sequence that the message leaves open can take the end of the line with it. -/
def Record.shown (r : Record) : String :=
  let level := r.level.name.toList
  let message := r.message.toList.flatMap fun c => if c = '\n' then "\n    ".toList else [c]
  Text.plain (String.ofList
    ('[' :: level ++ List.replicate (5 - level.length) ' ' ++ ' ' :: r.target.toList ++
      ']' :: ' ' :: message ++ ['\n']))

def SettingFault.shown (f : SettingFault) : String :=
  "warning: " ++ f.message ++ ", ignoring it\n"

def Failure.shown (f : Failure) : String :=
  "Error: " ++ f.message ++ "\n"

namespace Command

structure Outcome where
  exit : Nat
  output : String
  errors : List String
  deriving DecidableEq, Repr

def usage : String :=
  "Usage: tubs-gen input.txt output.html\n"

def outcome (setting : LogSetting) (run : Logged Unit) : Outcome :=
  let shown := setting.faults.map SettingFault.shown ++
    (run.log.filter setting.filter.shows).map Record.shown
  match run.result with
  | .ok () => ⟨0, "", shown⟩
  | .error failure => ⟨1, "", shown ++ [failure.shown]⟩

def run {m : Type → Type} [Monad m] (files : FileAccess m) (setting : Option String)
    (arguments : List String) : m Outcome :=
  let setting := LogSetting.ofSetting setting
  match arguments with
  | [input, output] =>
    return outcome setting (← files.convert input output)
  | _ => return ⟨2, usage, setting.faults.map SettingFault.shown⟩

end Command

end Bata
