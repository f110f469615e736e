import Bata.FileSystem
import Bata.Proofs.Text.Basic
import Mathlib.Tactic.Common

namespace Bata.FileSystem

theorem entry_insert_self (fs : FileSystem) (l : Location) (n : Node) :
    (fs.insert l n).entry l = some n :=
  if_pos rfl

theorem entry_insert_of_ne (fs : FileSystem) {k l : Location} (n : Node) (h : k ≠ l) :
    (fs.insert l n).entry k = fs.entry k :=
  if_neg h

theorem node?_insert_of_ne (fs : FileSystem) {k l : Location} (n : Node) (h : k ≠ l) :
    (fs.insert l n).node? k = fs.node? k := by
  cases k with
  | nil => rfl
  | cons name k => exact entry_insert_of_ne fs n h

theorem node?_insert_self {fs : FileSystem} {l : Location} (n : Node)
    (hl : fs.node? l ≠ some .directory) : (fs.insert l n).node? l = some n := by
  cases l with
  | nil => exact absurd rfl hl
  | cons name l => exact entry_insert_self fs (name :: l) n

theorem enter_eq_ok_iff {fs : FileSystem} {here there : Location} {name : String} :
    fs.enter here name = .ok there ↔
      step here name = .ok there ∧ fs.node? there = some .directory := by
  rw [enter, bind_eq_ok_iff]
  constructor
  · rintro ⟨l, hstep, h⟩
    split at h
    · cases h
    · cases h
    · rename_i hdir
      cases h
      exact ⟨hstep, hdir⟩
  · rintro ⟨hstep, hdir⟩
    refine ⟨there, hstep, ?_⟩
    rw [hdir]

theorem openAt_eq_ok_iff {fs : FileSystem} {p : Path} {l : Location} :
    fs.openAt p = .ok l ↔
      fs.locate p = .ok l ∧ p.slashAfter = false ∧ fs.node? l ≠ some .directory ∧
        fs.refusal l = none := by
  rw [openAt, bind_eq_ok_iff, locate, bind_eq_ok_iff]
  constructor
  · rintro ⟨here, hparent, h⟩
    split at h
    · cases h
    · rename_i hslash
      obtain ⟨k, hstep, h⟩ := bind_eq_ok_iff.1 h
      split at h
      · cases h
      · cases h
      · rename_i hrefusal hdir
        cases h
        exact ⟨⟨here, hparent, hstep⟩, Bool.eq_false_iff.2 hslash, hdir, hrefusal⟩
  · rintro ⟨⟨here, hparent, hstep⟩, hslash, hdir, hrefusal⟩
    refine ⟨here, hparent, ?_⟩
    rw [if_neg (Bool.eq_false_iff.1 hslash), bind_eq_ok_iff]
    refine ⟨l, hstep, ?_⟩
    rw [hrefusal]
    split
    · rename_i h
      exact absurd h hdir
    · rename_i h _
      cases h
    · rfl

theorem readAt_eq_ok_iff {fs : FileSystem} {p : Path} {content : ByteArray} :
    fs.readAt p = .ok content ↔
      ∃ l, fs.locate p = .ok l ∧ p.slashAfter = false ∧ fs.node? l = some (.file content) := by
  rw [readAt, bind_eq_ok_iff]
  refine exists_congr fun l => and_congr_right fun _ => ?_
  constructor
  · intro h
    split at h
    · cases h
    · cases h
    · rename_i hfile
      split at h
      · cases h
      · rename_i hslash
        cases h
        exact ⟨Bool.eq_false_iff.2 hslash, hfile⟩
  · rintro ⟨hslash, hfile⟩
    rw [hfile, hslash]
    rfl

variable {fs : FileSystem} {l : Location}

/-- A way that leads through directories does not meet what is put where none stands. -/
theorem foldlM_enter_insert (n : Node) (hl : fs.node? l ≠ some .directory) {names : List String}
    {here there : Location} (h : names.foldlM fs.enter here = .ok there) :
    names.foldlM (fs.insert l n).enter here = .ok there := by
  induction names generalizing here with
  | nil => exact h
  | cons name names ih =>
    rw [List.foldlM_cons, bind_eq_ok_iff] at h ⊢
    obtain ⟨next, hnext, h⟩ := h
    obtain ⟨hstep, hdir⟩ := enter_eq_ok_iff.1 hnext
    have hne : next ≠ l := by
      rintro rfl
      exact hl hdir
    have hafter := (node?_insert_of_ne fs n hne).trans hdir
    exact ⟨next, enter_eq_ok_iff.2 ⟨hstep, hafter⟩, ih h⟩

theorem locate_insert (n : Node) (hl : fs.node? l ≠ some .directory) {p : Path} {k : Location}
    (h : fs.locate p = .ok k) : (fs.insert l n).locate p = .ok k := by
  rw [locate, bind_eq_ok_iff] at h ⊢
  obtain ⟨here, hparent, hstep⟩ := h
  exact ⟨here, foldlM_enter_insert n hl hparent, hstep⟩

theorem readAt_insert {p : Path} (h : fs.openAt p = .ok l) (content : ByteArray) :
    (fs.insert l (.file content)).readAt p = .ok content := by
  obtain ⟨hlocate, hslash, hdir, -⟩ := openAt_eq_ok_iff.1 h
  exact readAt_eq_ok_iff.2 ⟨l, locate_insert _ hdir hlocate, hslash, node?_insert_self _ hdir⟩

def place (fs : FileSystem) (path : String) : Except Fault Location :=
  (Path.parse path).bind fs.openAt

theorem write_eq_map_place (fs : FileSystem) (path : String) (content : ByteArray) :
    fs.write path content = (fs.place path).map fun l => fs.insert l (.file content) :=
  rfl

/-- A file that is read can be written, unless the system refuses it. -/
theorem place_of_read {path : String} {content : ByteArray} (h : fs.read path = .ok content) :
    ∃ l, fs.node? l = some (.file content) ∧
      fs.place path =
        match fs.refusal l with
        | none => .ok l
        | some reason => .error (.other reason) := by
  obtain ⟨p, hparse, hread⟩ := bind_eq_ok_iff.1 h
  obtain ⟨l, hlocate, hslash, hfile⟩ := readAt_eq_ok_iff.1 hread
  refine ⟨l, hfile, ?_⟩
  cases hrefusal : fs.refusal l with
  | none =>
    have hdir : fs.node? l ≠ some .directory := by simp [hfile]
    exact bind_eq_ok_iff.2 ⟨p, hparse, openAt_eq_ok_iff.2 ⟨hlocate, hslash, hdir, hrefusal⟩⟩
  | some reason =>
    obtain ⟨here, hparent, hstep⟩ := bind_eq_ok_iff.1 hlocate
    have hopen : fs.openAt p = .error (.other reason) := by
      simp [openAt, bind, Except.bind, hparent, hslash, hstep, hfile, hrefusal]
    rw [place, hparse]
    exact hopen

theorem read_insert_of_place {path : String} (h : fs.place path = .ok l) (content : ByteArray) :
    (fs.insert l (.file content)).read path = .ok content := by
  obtain ⟨p, hparse, hopen⟩ := bind_eq_ok_iff.1 h
  rw [read, hparse]
  exact readAt_insert hopen content

end Bata.FileSystem
