import Bata.Notation
import Bata.Pattern.Written
import Bata.Text.Basic
import Bata.Toque

namespace Bata

inductive Level where
  | error
  | warn
  | info
  | debug
  | trace
  deriving DecidableEq, Repr

namespace Level

def all : List Level :=
  [.error, .warn, .info, .debug, .trace]

def name : Level → String
  | .error => "ERROR"
  | .warn => "WARN"
  | .info => "INFO"
  | .debug => "DEBUG"
  | .trace => "TRACE"

def rank : Level → Nat
  | .error => 1
  | .warn => 2
  | .info => 3
  | .debug => 4
  | .trace => 5

end Level

inductive Record where
  | reading (header : Notation.Header)
  | warning (warning : Warning)
  | drawing (name : String) (columns barLength : Nat)
  | written (path : String)
  deriving DecidableEq, Repr

namespace Record

def level : Record → Level
  | .reading _ => .debug
  | .warning _ => .warn
  | .drawing _ _ _ => .debug
  | .written _ => .info

def target : Record → String
  | .reading _ => "tubs::parser"
  | .warning _ => "tubs"
  | .drawing _ _ _ => "tubs::renderer"
  | .written _ => "tubs"

def message : Record → String
  | .reading header => "parsing toque in " ++ header.name ++ " format"
  | .warning w => w.message
  | .drawing name columns barLength =>
    "rendering '" ++ name ++ "': " ++ String.ofList (Text.decimal columns) ++ " columns, " ++
      String.ofList (Text.decimal barLength) ++ " per bar"
  | .written path => "wrote " ++ path

end Record

/-- Up to which level the records of some targets are shown. -/
structure Directive where
  /-- The targets that begin so, where it is not for all. -/
  target : Option String
  /-- The most detailed level shown, none where nothing is. -/
  limit : Option Level
  deriving DecidableEq, Repr

/-- What is wrong with a part of a setting, which is then ignored. -/
inductive SettingFault where
  | level (piece : String)
  | slashes (setting : String)
  | pattern (written : List Char) (refusal : Pattern.Refusal)
  deriving DecidableEq, Repr

def SettingFault.message : SettingFault → String
  | .level piece => "invalid logging spec '" ++ piece ++ "'"
  | .slashes setting => "invalid logging spec '" ++ setting ++ "' (too many '/'s)"
  | .pattern written refusal => "invalid regex filter - " ++ refusal.message written

namespace Directive

def covers (d : Directive) (r : Record) : Bool :=
  d.target.all fun target => target.toList.isPrefixOf r.target.toList

def shows (d : Directive) (r : Record) : Bool :=
  match d.limit with
  | none => false
  | some limit => r.level.rank ≤ limit.rank

/-- A level in letters of either case, or `off`. -/
def limit? (word : String) : Option (Option Level) :=
  if word.toUpper = "OFF" then some none
  else (Level.all.find? (·.name = word.toUpper)).map some

/-- A level for all targets, a target with a level, or a target alone, which is shown in full. -/
def ofChars (piece : List Char) : Except SettingFault Directive :=
  match piece.splitOn '=' with
  | [word] =>
    match limit? (String.ofList word) with
    | some limit => .ok ⟨none, limit⟩
    | none => .ok ⟨some (String.ofList word), some .trace⟩
  | [target, word] =>
    let word := String.ofList (Text.trim word)
    if word = "" then .ok ⟨some (String.ofList target), some .trace⟩
    else
      match limit? word with
      | some limit => .ok ⟨some (String.ofList target), limit⟩
      | none => .error (.level word)
  | _ => .error (.level (String.ofList piece))

def targetLength (d : Directive) : Nat :=
  (d.target.map String.length).getD 0

end Directive

/-- Directives, and a pattern that the message of a shown record contains. -/
structure LogFilter where
  directives : List Directive
  pattern : Option Pattern

namespace LogFilter

/-- A directive takes the place of an earlier one for the same target. -/
def insert (d : Directive) : List Directive → List Directive
  | [] => [d]
  | e :: es => if e.target = d.target then d :: es else e :: insert d es

/-- Without any directive errors are shown. -/
def ofDirectives (ds : List Directive) (pattern : Option Pattern) : LogFilter :=
  match ds.foldl (fun held d => insert d held) [] with
  | [] => ⟨[⟨none, some .error⟩], pattern⟩
  | ds => ⟨ds, pattern⟩

/-- The directive with the longest target that covers the record, the last of several such. -/
def decisive? (f : LogFilter) (r : Record) : Option Directive :=
  (f.directives.filter (·.covers r)).foldl
    (fun best d =>
      match best with
      | none => some d
      | some b => if b.targetLength ≤ d.targetLength then some d else some b)
    none

def shows (f : LogFilter) (r : Record) : Bool :=
  (f.decisive? r).any (·.shows r) && f.pattern.all (·.occursIn r.message.toList)

end LogFilter

structure LogSetting where
  filter : LogFilter
  faults : List SettingFault

namespace LogSetting

/-- The pieces between commas that are not blank. -/
def directives (cs : List Char) : List (Except SettingFault Directive) :=
  (((cs.splitOn ',').map Text.trim).filter (!·.isEmpty)).map Directive.ofChars

def ofDirectives (ds : List (Except SettingFault Directive)) (pattern : Option Pattern)
    (faults : List SettingFault) : LogSetting where
  filter := .ofDirectives (ds.filterMap Except.toOption) pattern
  faults := ds.filterMap (fun | .ok _ => none | .error fault => some fault) ++ faults

/-- Directives, and after a slash the pattern. -/
def ofText (text : String) : LogSetting :=
  match text.toList.splitOn '/' with
  | [ds] => ofDirectives (directives ds) none []
  | [ds, written] =>
    match Pattern.ofChars written with
    | .ok p => ofDirectives (directives ds) (some p) []
    | .error refusal => ofDirectives (directives ds) none [.pattern written refusal]
  | _ => ofDirectives [] none [.slashes text]

/-- What a setting asks for; without one, warnings are shown. -/
def ofSetting : Option String → LogSetting
  | none => ⟨⟨[⟨none, some .warn⟩], none⟩, []⟩
  | some text => ofText text

end LogSetting

end Bata
