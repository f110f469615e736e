import Bata.Conversion
import Bata.Proofs.FileSystem.Write
import Mathlib.Tactic.Common

namespace Bata

/-- What is logged until the toque of a text has been drawn. -/
def drawingLog (text : String) : List Record :=
  .reading (Notation.Header.ofText text) :: (Toque.ofText text).warnings.map .warning ++
    [(Toque.ofText text).drawing]

theorem fromUTF8?_toUTF8 (text : String) : String.fromUTF8? text.toUTF8 = some text :=
  dif_pos text.isValidUTF8

theorem decode_of_text {content : ByteArray} {text : String}
    (h : String.fromUTF8? content = some text) : decode (.ok content) = .ok text := by
  rw [decode, Except.bind, h]

theorem decode_of_not_text {content : ByteArray} (h : String.fromUTF8? content = none) :
    decode (.ok content) = .error .notText := by
  rw [decode, Except.bind, h]

theorem documentOfSource_of_error {source : Except Fault ByteArray} {fault : Fault}
    (h : decode source = .error fault) (path : String) :
    documentOfSource path source = ⟨.error (.read path fault), []⟩ := by
  rw [documentOfSource, Toque.ofSource, h]

theorem documentOfSource_of_text {source : Except Fault ByteArray} {text : String}
    (h : decode source = .ok text) (path : String) :
    documentOfSource path source = ⟨.ok (Toque.ofText text).document, drawingLog text⟩ := by
  rw [documentOfSource, Toque.ofSource, h]
  rfl

namespace FileSystem

/-- The ways in which a conversion from `p` to `q` ends: what comes of it with its log, and the file
system after it. -/
inductive Ending (fs : FileSystem) (p q : String) : Logged Unit → FileSystem → Prop
  | unreadable {fault : Fault} (hread : fs.read p = .error fault) :
      Ending fs p q ⟨.error (.read p fault), []⟩ fs
  | notText {content : ByteArray} (hread : fs.read p = .ok content)
      (htext : String.fromUTF8? content = none) :
      Ending fs p q ⟨.error (.read p .notText), []⟩ fs
  | unwritable {content : ByteArray} {text : String} {fault : Fault}
      (hread : fs.read p = .ok content) (htext : String.fromUTF8? content = some text)
      (hplace : fs.place q = .error fault) :
      Ending fs p q ⟨.error (.write q fault), drawingLog text⟩ fs
  | written {content : ByteArray} {text : String} {l : Location} {after : FileSystem}
      (hread : fs.read p = .ok content) (htext : String.fromUTF8? content = some text)
      (hplace : fs.place q = .ok l)
      (hfile : after.entry l = some (.file (Toque.ofText text).document.toUTF8))
      (hothers : ∀ k, k ≠ l → after.entry k = fs.entry k)
      (hdirectory : after.workingDirectory = fs.workingDirectory)
      (hrefusal : after.refusal = fs.refusal)
      (hback : after.read q = .ok (Toque.ofText text).document.toUTF8)
      (htextBack : decode (after.read q) = .ok (Toque.ofText text).document) :
      Ending fs p q ⟨.ok (), drawingLog text ++ [.written q]⟩ after

variable {fs : FileSystem} {p q : String}

theorem eq_insert {l : Location} {n : Node} {after : FileSystem} (hfile : after.entry l = some n)
    (hothers : ∀ k, k ≠ l → after.entry k = fs.entry k)
    (hdirectory : after.workingDirectory = fs.workingDirectory)
    (hrefusal : after.refusal = fs.refusal) : after = fs.insert l n := by
  obtain ⟨entry, directory, refusal⟩ := after
  have hentry : entry = (fs.insert l n).entry := by
    funext k
    by_cases h : k = l
    · rw [h]
      exact hfile.trans (entry_insert_self fs l n).symm
    · exact (hothers k h).trans (entry_insert_of_ne fs n h).symm
  rw [hentry, show directory = fs.workingDirectory from hdirectory,
    show refusal = fs.refusal from hrefusal]
  rfl

theorem convert_run_of_error {fault : Fault} (h : decode (fs.read p) = .error fault) :
    (access.convert p q).run fs = (⟨.error (.read p fault), []⟩, fs) := by
  rw [convert_run, documentOfSource_of_error h]

theorem convert_run_of_unwritable {text : String} {fault : Fault}
    (h : decode (fs.read p) = .ok text) (hplace : fs.place q = .error fault) :
    (access.convert p q).run fs = (⟨.error (.write q fault), drawingLog text⟩, fs) := by
  rw [convert_run, documentOfSource_of_text h]
  simp only [write_eq_map_place, hplace, Except.map]

theorem convert_run_of_writable {text : String} {l : Location}
    (h : decode (fs.read p) = .ok text) (hplace : fs.place q = .ok l) :
    (access.convert p q).run fs = (⟨.ok (), drawingLog text ++ [.written q]⟩,
      fs.insert l (.file (Toque.ofText text).document.toUTF8)) := by
  rw [convert_run, documentOfSource_of_text h]
  simp only [write_eq_map_place, hplace, Except.map]

theorem Ending.convert_run {r : Logged Unit} {after : FileSystem} (h : Ending fs p q r after) :
    (access.convert p q).run fs = (r, after) := by
  cases h with
  | unreadable hread => exact convert_run_of_error (congrArg decode hread)
  | notText hread htext =>
    exact convert_run_of_error ((congrArg decode hread).trans (decode_of_not_text htext))
  | unwritable hread htext hplace =>
    exact convert_run_of_unwritable ((congrArg decode hread).trans (decode_of_text htext)) hplace
  | written hread htext hplace hfile hothers hdirectory hrefusal =>
    rw [eq_insert hfile hothers hdirectory hrefusal]
    exact convert_run_of_writable ((congrArg decode hread).trans (decode_of_text htext)) hplace

theorem exists_ending (fs : FileSystem) (p q : String) : ∃ r after, Ending fs p q r after := by
  cases hread : fs.read p with
  | error fault => exact ⟨_, _, .unreadable hread⟩
  | ok content =>
    cases htext : String.fromUTF8? content with
    | none => exact ⟨_, _, .notText hread htext⟩
    | some text =>
      cases hplace : fs.place q with
      | error fault => exact ⟨_, _, .unwritable hread htext hplace⟩
      | ok l =>
        have hback := read_insert_of_place hplace (Toque.ofText text).document.toUTF8
        have htextBack := (congrArg decode hback).trans (decode_of_text (fromUTF8?_toUTF8 _))
        exact ⟨_, _, .written hread htext hplace (entry_insert_self fs l _)
          (fun k hk => entry_insert_of_ne fs _ hk) rfl rfl hback htextBack⟩

/-- A text is replaced in place, unless the system refuses it. -/
theorem convert_in_place {content : ByteArray} {text : String} (hread : fs.read p = .ok content)
    (htext : String.fromUTF8? content = some text) :
    ∃ l, fs.node? l = some (.file content) ∧
      ((access.convert p p).run fs).1.result =
        match fs.refusal l with
        | none => .ok ()
        | some reason => .error (.write p (.other reason)) := by
  have hdecode : decode (fs.read p) = .ok text := (congrArg decode hread).trans (decode_of_text htext)
  obtain ⟨l, hfile, hplace⟩ := place_of_read hread
  refine ⟨l, hfile, ?_⟩
  cases hrefusal : fs.refusal l with
  | none =>
    rw [hrefusal] at hplace
    rw [convert_run_of_writable hdecode hplace]
  | some reason =>
    rw [hrefusal] at hplace
    rw [convert_run_of_unwritable hdecode hplace]

theorem toque_fails_iff {failure : Failure} :
    ((access.toque p).run fs).1.result = .error failure ↔
      ∃ fault, failure = .read p fault ∧ decode (fs.read p) = .error fault := by
  rw [toque_run, Toque.ofSource]
  cases decode (fs.read p) with
  | error fault => simp [eq_comm]
  | ok text => simp

theorem document_fails_iff {failure : Failure} :
    ((access.document p).run fs).1.result = .error failure ↔
      ∃ fault, failure = .read p fault ∧ decode (fs.read p) = .error fault := by
  rw [document_run]
  cases hdecode : decode (fs.read p) with
  | error fault => simp [documentOfSource_of_error hdecode, eq_comm]
  | ok text => simp [documentOfSource_of_text hdecode]

theorem convert_cannot_read_iff {fault : Fault} :
    ((access.convert p q).run fs).1.result = .error (.read p fault) ↔
      decode (fs.read p) = .error fault := by
  cases hdecode : decode (fs.read p) with
  | error fault' => simp [convert_run_of_error hdecode]
  | ok text =>
    cases hplace : fs.place q with
    | error fault' => simp [convert_run_of_unwritable hdecode hplace]
    | ok l => simp [convert_run_of_writable hdecode hplace]

/-- A conversion ends in one of four ways, and only the last of them changes the file system.
Reading a toque, or drawing it, never does, and fails just where a conversion cannot read its
input. -/
theorem convert_ends (fs : FileSystem) (p q : String) :
    (∀ r after, (access.convert p q).run fs = (r, after) ↔ Ending fs p q r after) ∧
      ((access.toque p).run fs).2 = fs ∧ ((access.document p).run fs).2 = fs ∧
      (∀ failure, ((access.toque p).run fs).1.result = .error failure ↔
        ∃ fault, failure = .read p fault ∧
          ((access.convert p q).run fs).1.result = .error (.read p fault)) ∧
      (∀ failure, ((access.document p).run fs).1.result = .error failure ↔
        ∃ fault, failure = .read p fault ∧
          ((access.convert p q).run fs).1.result = .error (.read p fault)) ∧
      (∀ w : Warning, (Record.warning w).level = .warn ∧ (Record.warning w).message = w.message) ∧
      (Record.written q).level = .info ∧ (Record.written q).message = "wrote " ++ q := by
  refine ⟨fun r after => ⟨fun h => ?_, Ending.convert_run⟩, rfl, rfl, fun failure => ?_,
    fun failure => ?_, fun w => ⟨rfl, rfl⟩, rfl, rfl⟩
  · obtain ⟨r', after', hending⟩ := exists_ending fs p q
    obtain ⟨rfl, rfl⟩ := Prod.mk.inj (hending.convert_run.symm.trans h)
    exact hending
  · simp only [convert_cannot_read_iff]
    exact toque_fails_iff
  · simp only [convert_cannot_read_iff]
    exact document_fails_iff

end FileSystem

end Bata
