import Bata.FileSystem
import Bata.Log
import Bata.Notation
import Bata.Page

namespace Bata

inductive Failure where
  | read (path : String) (fault : Fault)
  | write (path : String) (fault : Fault)
  deriving DecidableEq, Repr

def Failure.message : Failure → String
  | .read path fault => "Failed to read file '" ++ path ++ "': " ++ fault.message
  | .write path fault => "Failed to write file '" ++ path ++ "': " ++ fault.message

structure Logged (α : Type) where
  result : Except Failure α
  log : List Record

def decode (source : Except Fault ByteArray) : Except Fault String :=
  source.bind fun content =>
    match String.fromUTF8? content with
    | some text => .ok text
    | none => .error .notText

/-- What reading a text as a toque gives and logs. -/
def Toque.ofSource (path : String) (source : Except Fault ByteArray) : Logged Toque :=
  match decode source with
  | .error fault => ⟨.error (.read path fault), []⟩
  | .ok text => ⟨.ok (Toque.ofText text), [.reading (Notation.Header.ofText text)]⟩

def Toque.drawing (t : Toque) : Record :=
  .drawing t.name t.ruling.columns t.ruling.barLength

/-- What drawing the toque of a text gives and logs: its warnings come before its drawing. -/
def documentOfSource (path : String) (source : Except Fault ByteArray) : Logged String :=
  match Toque.ofSource path source with
  | ⟨.error failure, log⟩ => ⟨.error failure, log⟩
  | ⟨.ok t, log⟩ => ⟨.ok t.document, log ++ t.warnings.map .warning ++ [t.drawing]⟩

namespace FileAccess

variable {m : Type → Type} [Monad m] (files : FileAccess m)

def toque (path : String) : m (Logged Toque) :=
  return Toque.ofSource path (← files.read path)

def document (path : String) : m (Logged String) :=
  return documentOfSource path (← files.read path)

def written (output : String) (log : List Record) : Except Fault Unit → Logged Unit
  | .error fault => ⟨.error (.write output fault), log⟩
  | .ok () => ⟨.ok (), log ++ [.written output]⟩

def deliver (output : String) : Logged String → m (Logged Unit)
  | ⟨.error failure, log⟩ => return ⟨.error failure, log⟩
  | ⟨.ok document, log⟩ => return written output log (← files.write output document.toUTF8)

/-- Nothing is written unless the input can be read. -/
def convert (input output : String) : m (Logged Unit) := do
  files.deliver output (← files.document input)

end FileAccess

namespace FileSystem

theorem toque_run (fs : FileSystem) (path : String) :
    (access.toque path).run fs = (Toque.ofSource path (fs.read path), fs) :=
  rfl

theorem document_run (fs : FileSystem) (path : String) :
    (access.document path).run fs = (documentOfSource path (fs.read path), fs) :=
  rfl

theorem write_run (fs : FileSystem) (path : String) (content : ByteArray) :
    (access.write path content).run fs =
      match fs.write path content with
      | .ok after => (.ok (), after)
      | .error fault => (.error fault, fs) :=
  rfl

theorem convert_run (fs : FileSystem) (input output : String) :
    (access.convert input output).run fs =
      match documentOfSource input (fs.read input) with
      | ⟨.error failure, log⟩ => (⟨.error failure, log⟩, fs)
      | ⟨.ok document, log⟩ =>
        match fs.write output document.toUTF8 with
        | .error fault => (⟨.error (.write output fault), log⟩, fs)
        | .ok after => (⟨.ok (), log ++ [.written output]⟩, after) := by
  change (access.deliver output (documentOfSource input (fs.read input))).run fs = _
  rcases documentOfSource input (fs.read input) with ⟨_ | document, log⟩
  · rfl
  · rw [FileAccess.deliver, StateT.run_bind, write_run]
    dsimp only
    cases fs.write output document.toUTF8 <;> rfl

end FileSystem

end Bata
