import Bata.FileSystem
import Bata.Proofs.FileSystem.Conversion
import Mathlib.Tactic.Common

namespace Bata.FileSystem

/-- The entry that a path denotes, whether or not it exists. -/
def denoted (fs : FileSystem) (path : String) : Except Fault Location :=
  (Path.parse path).bind fs.locate

/-- The entries that names lead to, one after the other, up to one that cannot be entered. -/
def passed (fs : FileSystem) (here : Location) : List String → List Location
  | [] => []
  | name :: names =>
    match step here name with
    | .error _ => []
    | .ok l =>
      l :: match fs.enter here name with
        | .error _ => []
        | .ok there => fs.passed there names

/-- The entries that are passed through while a path is resolved, before the one that it denotes. -/
def way (fs : FileSystem) (path : String) : List Location :=
  match Path.parse path with
  | .error _ => []
  | .ok p => fs.passed (fs.start p) p.parents

/-- What `q` denotes is neither denoted by `path` nor passed through while that is resolved. -/
def Apart (fs : FileSystem) (q path : String) : Prop :=
  ∀ l, fs.denoted q = .ok l → fs.denoted path ≠ .ok l ∧ l ∉ fs.way path

instance (fs : FileSystem) (q path : String) : Decidable (Apart fs q path) :=
  match h : fs.denoted q with
  | .error _ => isTrue fun _ hl => nomatch h.symm.trans hl
  | .ok l => decidable_of_iff (fs.denoted path ≠ .ok l ∧ l ∉ fs.way path)
    ⟨fun hl _ hk => Except.ok.inj (h.symm.trans hk) ▸ hl, fun hl => hl l h⟩

variable {fs : FileSystem} {l : Location}

/-- What comes after a step only counts where the step succeeds. -/
theorem bind_congr_of_ok {α β : Type} {x : Except Fault α} {f g : α → Except Fault β}
    (h : ∀ a, x = .ok a → f a = g a) : x >>= f = x >>= g := by
  cases x with
  | error fault => rfl
  | ok a => exact h a rfl

theorem enter_insert_of_ne (n : Node) {here : Location} {name : String}
    (h : step here name ≠ .ok l) : (fs.insert l n).enter here name = fs.enter here name := by
  refine bind_congr_of_ok fun k hstep => ?_
  have hk : k ≠ l := by
    rintro rfl
    exact h hstep
  rw [node?_insert_of_ne fs n hk]

theorem foldlM_enter_insert_of_not_mem (n : Node) {names : List String} {here : Location}
    (h : l ∉ fs.passed here names) :
    names.foldlM (fs.insert l n).enter here = names.foldlM fs.enter here := by
  induction names generalizing here with
  | nil => rfl
  | cons name names ih =>
    rw [passed] at h
    have hstep : step here name ≠ .ok l := by
      intro hl
      simp [hl] at h
    rw [List.foldlM_cons, List.foldlM_cons, enter_insert_of_ne n hstep]
    cases henter : fs.enter here name with
    | error fault => rfl
    | ok there =>
      rw [(enter_eq_ok_iff.1 henter).1, henter, List.mem_cons, not_or] at h
      exact ih h.2

theorem locate_insert_of_not_mem (n : Node) {p : Path}
    (h : l ∉ fs.passed (fs.start p) p.parents) : (fs.insert l n).locate p = fs.locate p := by
  have hparent : (fs.insert l n).parent p = fs.parent p := foldlM_enter_insert_of_not_mem n h
  rw [locate, locate, hparent]

theorem readAt_insert_of_ne (n : Node) {p : Path} (hway : l ∉ fs.passed (fs.start p) p.parents)
    (hne : fs.locate p ≠ .ok l) : (fs.insert l n).readAt p = fs.readAt p := by
  rw [readAt, readAt, locate_insert_of_not_mem n hway]
  refine bind_congr_of_ok fun k hlocate => ?_
  have hk : k ≠ l := by
    rintro rfl
    exact hne hlocate
  rw [node?_insert_of_ne fs n hk]

theorem openAt_insert_of_ne (n : Node) {p : Path} (hway : l ∉ fs.passed (fs.start p) p.parents)
    (hne : fs.locate p ≠ .ok l) : (fs.insert l n).openAt p = fs.openAt p := by
  have hparent : (fs.insert l n).parent p = fs.parent p := foldlM_enter_insert_of_not_mem n hway
  rw [openAt, openAt, hparent]
  refine bind_congr_of_ok fun here hhere => ?_
  by_cases hslash : p.slashAfter = true
  · rw [if_pos hslash, if_pos hslash]
  · rw [if_neg hslash, if_neg hslash]
    refine bind_congr_of_ok fun k hstep => ?_
    have hk : k ≠ l := by
      rintro rfl
      exact hne (bind_eq_ok_iff.2 ⟨here, hhere, hstep⟩)
    rw [node?_insert_of_ne fs n hk]
    rfl

theorem read_insert_of_apart {q path : String} (h : Apart fs q path) (hl : fs.denoted q = .ok l)
    (n : Node) : (fs.insert l n).read path = fs.read path := by
  obtain ⟨hne, hway⟩ := h l hl
  rw [denoted] at hne
  rw [way] at hway
  rw [read, read]
  cases hparse : Path.parse path with
  | error fault => rfl
  | ok p =>
    rw [hparse] at hne hway
    exact readAt_insert_of_ne n hway hne

theorem place_insert_of_apart {q path : String} (h : Apart fs q path) (hl : fs.denoted q = .ok l)
    (n : Node) : (fs.insert l n).place path = fs.place path := by
  obtain ⟨hne, hway⟩ := h l hl
  rw [denoted] at hne
  rw [way] at hway
  rw [place, place]
  cases hparse : Path.parse path with
  | error fault => rfl
  | ok p =>
    rw [hparse] at hne hway
    exact openAt_insert_of_ne n hway hne

theorem denoted_of_place {path : String} (h : fs.place path = .ok l) :
    fs.denoted path = .ok l := by
  obtain ⟨p, hparse, hopen⟩ := bind_eq_ok_iff.1 h
  exact bind_eq_ok_iff.2 ⟨p, hparse, (openAt_eq_ok_iff.1 hopen).1⟩

def concluded (p q : String) (source : Except Fault ByteArray) (place : Except Fault Location) :
    Logged Unit :=
  match decode source, place with
  | .error fault, _ => ⟨.error (.read p fault), []⟩
  | .ok text, .error fault => ⟨.error (.write q fault), drawingLog text⟩
  | .ok text, .ok _ => ⟨.ok (), drawingLog text ++ [.written q]⟩

def made (source : Except Fault ByteArray) (place : Except Fault Location) :
    Option (Location × ByteArray) :=
  match decode source, place with
  | .ok text, .ok l => some (l, (Toque.ofText text).document.toUTF8)
  | _, _ => none

def put (fs : FileSystem) : Option (Location × ByteArray) → FileSystem
  | none => fs
  | some (l, content) => fs.insert l (.file content)

theorem convert_run_eq_put (fs : FileSystem) (p q : String) :
    (access.convert p q).run fs =
      (concluded p q (fs.read p) (fs.place q), fs.put (made (fs.read p) (fs.place q))) := by
  cases htext : decode (fs.read p) with
  | error fault => simp [convert_run_of_error htext, concluded, made, put, htext]
  | ok text =>
    cases hplace : fs.place q with
    | error fault => simp [convert_run_of_unwritable htext hplace, concluded, made, put, htext]
    | ok l => simp [convert_run_of_writable htext hplace, concluded, made, put, htext]

theorem place_of_made {source : Except Fault ByteArray} {place : Except Fault Location}
    {content : ByteArray} (h : made source place = some (l, content)) : place = .ok l := by
  unfold made at h
  split at h
  · simp_all
  · cases h

theorem read_put_of_apart {p q path : String} (h : Apart fs q path) :
    (fs.put (made (fs.read p) (fs.place q))).read path = fs.read path := by
  cases hmade : made (fs.read p) (fs.place q) with
  | none => rfl
  | some file => exact read_insert_of_apart h (denoted_of_place (place_of_made hmade)) _

theorem place_put_of_apart {p q path : String} (h : Apart fs q path) :
    (fs.put (made (fs.read p) (fs.place q))).place path = fs.place path := by
  cases hmade : made (fs.read p) (fs.place q) with
  | none => rfl
  | some file => exact place_insert_of_apart h (denoted_of_place (place_of_made hmade)) _

theorem insert_comm (fs : FileSystem) {k l : Location} (h : k ≠ l) (m n : Node) :
    (fs.insert k m).insert l n = (fs.insert l n).insert k m := by
  simp only [insert, mk.injEq, and_true]
  funext j
  split_ifs <;> simp_all

theorem put_comm {p₁ q₁ p₂ q₂ : String} (h : Apart fs q₁ q₂) :
    (fs.put (made (fs.read p₁) (fs.place q₁))).put (made (fs.read p₂) (fs.place q₂)) =
      (fs.put (made (fs.read p₂) (fs.place q₂))).put (made (fs.read p₁) (fs.place q₁)) := by
  cases h₁ : made (fs.read p₁) (fs.place q₁) with
  | none => rfl
  | some file₁ =>
    cases h₂ : made (fs.read p₂) (fs.place q₂) with
    | none => rfl
    | some file₂ =>
      have hne : file₁.1 ≠ file₂.1 := by
        intro he
        have hdenoted := (h _ (denoted_of_place (place_of_made h₁))).1
        exact hdenoted (he ▸ denoted_of_place (place_of_made h₂))
      exact insert_comm fs hne _ _

theorem convert_run_put {p q p' q' : String} (hp : Apart fs q p') (hq : Apart fs q q') :
    (access.convert p' q').run (fs.put (made (fs.read p) (fs.place q))) =
      (concluded p' q' (fs.read p') (fs.place q'),
        (fs.put (made (fs.read p) (fs.place q))).put (made (fs.read p') (fs.place q'))) := by
  rw [convert_run_eq_put, read_put_of_apart hp, place_put_of_apart hq]

theorem run_both {α β γ σ : Type} {x : StateM σ α} {y : StateM σ β} {s s' s'' : σ} {a : α} {b : β}
    (hx : x.run s = (a, s')) (hy : y.run s' = (b, s'')) (f : α → β → γ) :
    (do
      let u ← x
      let v ← y
      return f u v).run s = (f a b, s'') := by
  rw [StateT.run_bind, hx]
  change (y >>= fun v => pure (f a v)).run s' = _
  rw [StateT.run_bind, hy]
  rfl

/-- Two conversions of which neither writes what the other looks at give the same results, logs and
files in either order. -/
theorem convert_commutes {p₁ q₁ p₂ q₂ : String} (hp₂ : Apart fs q₁ p₂) (hq₂ : Apart fs q₁ q₂)
    (hp₁ : Apart fs q₂ p₁) (hq₁ : Apart fs q₂ q₁) :
    (do
      let r₁ ← access.convert p₁ q₁
      let r₂ ← access.convert p₂ q₂
      return (r₁, r₂)).run fs =
    (do
      let r₂ ← access.convert p₂ q₂
      let r₁ ← access.convert p₁ q₁
      return (r₁, r₂)).run fs := by
  rw [run_both (convert_run_eq_put fs p₁ q₁) (convert_run_put hp₂ hq₂) Prod.mk,
    run_both (convert_run_eq_put fs p₂ q₂) (convert_run_put hp₁ hq₁) fun r₂ r₁ => (r₁, r₂),
    put_comm hq₂]

def twoTexts : FileSystem :=
  (fresh.putFile "a.txt" "Iya\nA".toUTF8).putFile "pages/b.txt" "4/4".toUTF8

/-- One text is converted in place while another leaves its directory. -/
theorem convert_commutes_in_place :
    (Apart twoTexts "a.txt" "pages/b.txt" ∧ Apart twoTexts "a.txt" "pages/../b.html" ∧
      Apart twoTexts "pages/../b.html" "a.txt") ∧
    (do
      let r₁ ← access.convert "a.txt" "a.txt"
      let r₂ ← access.convert "pages/b.txt" "pages/../b.html"
      return (r₁, r₂)).run twoTexts =
    (do
      let r₂ ← access.convert "pages/b.txt" "pages/../b.html"
      let r₁ ← access.convert "a.txt" "a.txt"
      return (r₁, r₂)).run twoTexts := by
  have hp₂ : Apart twoTexts "a.txt" "pages/b.txt" := by decide
  have hq₂ : Apart twoTexts "a.txt" "pages/../b.html" := by decide
  have hp₁ : Apart twoTexts "pages/../b.html" "a.txt" := by decide
  exact ⟨⟨hp₂, hq₂, hp₁⟩, convert_commutes hp₂ hq₂ hp₁ hp₁⟩

end Bata.FileSystem
