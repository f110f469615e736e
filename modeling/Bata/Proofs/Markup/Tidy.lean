import Bata.Markup
import Bata.Proofs.Text.Basic
import Mathlib.Tactic.Common

namespace Bata

/-- Of the letters that a name may have, only those of ASCII. -/
def Xml.isName : List Char → Bool
  | [] => false
  | c :: cs => c.isAlpha && cs.all fun d => d.isAlphanum || d ∈ ['-', '_', '.']

namespace Markup

def IsTagName (s : String) : Prop :=
  Xml.isName s.toList = true

instance : DecidablePred IsTagName :=
  fun _ => instDecidableEqBool _ _

/-- A line feed or a printable character of ASCII. -/
def isPlain (c : Char) : Bool :=
  c = '\n' || (0x20 ≤ c.toNat && c.toNat ≤ 0x7E)

def Holds (extra : List Char) (s : String) : Prop :=
  ∀ c ∈ s.toList, isPlain c = true ∨ c ∈ extra

structure TidyTag (extra : List Char) (tag : String) (attributes : List (String × String)) :
    Prop where
  tag : IsTagName tag
  names : ∀ a ∈ attributes, IsTagName a.1
  distinct : (attributes.map Prod.fst).Nodup
  values : ∀ a ∈ attributes, Holds extra a.2

def isText : Markup → Bool
  | .text _ => true
  | _ => false

theorem exists_of_isText {m : Markup} (h : isText m = true) : ∃ value, m = .text value := by
  cases m with
  | text value => exact ⟨value, rfl⟩
  | element tag attributes children => cases h
  | closed tag attributes => cases h

def startsWithText (ms : List Markup) : Bool :=
  ms.head?.any isText

mutual

/-- No tag is out of order, a text is neither empty nor next to another text, and there are no
characters but plain ones and those of `extra`. -/
def Tidy (extra : List Char) : Markup → Prop
  | .text value => value ≠ "" ∧ Holds extra value
  | .element tag attributes children => TidyTag extra tag attributes ∧ TidyAll extra children
  | .closed tag attributes => TidyTag extra tag attributes

def TidyAll (extra : List Char) : List Markup → Prop
  | [] => True
  | m :: ms => Tidy extra m ∧ TidyAll extra ms ∧ (m.isText = true → startsWithText ms = false)

end

theorem IsTagName.mem {s : String} (h : IsTagName s) {c : Char} (hc : c ∈ s.toList) :
    c.isAlphanum = true ∨ c ∈ ['-', '_', '.'] := by
  cases hs : s.toList with
  | nil =>
    rw [hs] at hc
    cases hc
  | cons first rest =>
    rw [IsTagName, hs, Xml.isName, Bool.and_eq_true, List.all_eq_true] at h
    rw [hs, List.mem_cons] at hc
    rcases hc with rfl | hc
    · exact .inl (by simp [Char.isAlphanum, h.1])
    · simpa using h.2 c hc

theorem IsTagName.not_mem {s : String} (h : IsTagName s) {c : Char}
    (hc : c ∈ [' ', '<', '>', '"', '/']) : c ∉ s.toList := by
  intro hs
  have hname := h.mem hs
  simp only [List.mem_cons, List.not_mem_nil, or_false] at hc
  rcases hc with rfl | rfl | rfl | rfl | rfl <;> exact absurd hname (by decide)

theorem exists_cons_of_isTagName {s : String} (h : IsTagName s) :
    ∃ c cs, s.toList = c :: cs ∧ c ≠ '/' := by
  cases hs : s.toList with
  | nil =>
    rw [IsTagName, hs] at h
    cases h
  | cons c cs =>
    refine ⟨c, cs, rfl, ?_⟩
    rintro rfl
    have hslash : '/' ∉ s.toList := h.not_mem (by decide)
    exact hslash (hs ▸ List.mem_cons_self)

theorem isPlain_of_le {lo c hi : Char} (hlo : ' ' ≤ lo) (hhi : hi ≤ '~') (h : lo ≤ c ∧ c ≤ hi) :
    isPlain c = true := by
  have hfrom : 0x20 ≤ c.toNat := UInt32.le_iff_toNat_le.1 (Char.le_trans hlo h.1)
  have hto : c.toNat ≤ 0x7E := UInt32.le_iff_toNat_le.1 (Char.le_trans h.2 hhi)
  simp [isPlain, hfrom, hto]

theorem isPlain_of_isAlphanum {c : Char} (h : c.isAlphanum = true) : isPlain c = true := by
  obtain hletter | hdigit := Bool.or_eq_true_iff.1 h
  · obtain hupper | hlower := Bool.or_eq_true_iff.1 hletter
    · have hrange : 'A' ≤ c ∧ c ≤ 'Z' := of_decide_eq_true hupper
      exact isPlain_of_le (by decide) (by decide) hrange
    · have hrange : 'a' ≤ c ∧ c ≤ 'z' :=
        (Bool.and_eq_true_iff.1 hlower).imp of_decide_eq_true of_decide_eq_true
      exact isPlain_of_le (by decide) (by decide) hrange
  · have hrange : '0' ≤ c ∧ c ≤ '9' :=
      (Bool.and_eq_true_iff.1 hdigit).imp of_decide_eq_true of_decide_eq_true
    exact isPlain_of_le (by decide) (by decide) hrange

theorem IsTagName.isPlain {s : String} (h : IsTagName s) {c : Char} (hc : c ∈ s.toList) :
    isPlain c = true := by
  obtain hc | hc := h.mem hc
  · exact isPlain_of_isAlphanum hc
  · simp only [List.mem_cons, List.not_mem_nil, or_false] at hc
    rcases hc with rfl | rfl | rfl <;> decide

variable {extra : List Char}

theorem holds_of_all {s : String} (h : s.toList.all Markup.isPlain = true) : Holds extra s :=
  fun c hc => .inl (List.all_eq_true.1 h c hc)

theorem holds_append {s s' : String} (h : Holds extra s) (h' : Holds extra s') :
    Holds extra (s ++ s') := by
  intro c hc
  rw [String.toList_append, List.mem_append] at hc
  exact hc.elim (h c) (h' c)

theorem holds_join {l : List String} (h : ∀ s ∈ l, Holds extra s) :
    Holds extra (String.join l) := by
  intro c hc
  rw [String.toList_join, List.mem_flatMap] at hc
  obtain ⟨s, hs, hc⟩ := hc
  exact h s hs c hc

theorem holds_intercalate {separator : String} (hs : Holds extra separator) {l : List String}
    (h : ∀ s ∈ l, Holds extra s) : Holds extra (separator.intercalate l) := by
  intro c hc
  rw [String.toList_intercalate] at hc
  obtain hc | ⟨cs, hcs, hc⟩ := Text.mem_of_mem_intercalate hc
  · exact hs c hc
  · obtain ⟨s, hs, rfl⟩ := List.mem_map.1 hcs
    exact h s hs c hc

theorem tidy_text {s : String} (hne : s ≠ "") (h : s.toList.all Markup.isPlain = true) :
    Tidy extra (.text s) :=
  ⟨hne, holds_of_all h⟩

theorem tidyAll_singleton {m : Markup} (h : Tidy extra m) : TidyAll extra [m] :=
  ⟨h, trivial, fun _ => rfl⟩

theorem tidyAll_text_cons {s : String} (hs : Tidy extra (.text s)) {m : Markup} (hm : Tidy extra m)
    (hn : isText m = false) {ms : List Markup} (hms : TidyAll extra ms) :
    TidyAll extra (.text s :: m :: ms) := by
  refine ⟨hs, ⟨hm, hms, ?_⟩, ?_⟩
  · intro h
    rw [hn] at h
    cases h
  · intro _
    simpa [startsWithText] using hn

theorem onLines_cons (m : Markup) (ms : List Markup) :
    onLines (m :: ms) = .text "\n" :: m :: onLines ms := by
  simp [onLines]

theorem tidyAll_onLines {ms : List Markup} (h : ∀ m ∈ ms, Tidy extra m ∧ isText m = false) :
    TidyAll extra (onLines ms) := by
  have hnewline : Tidy extra (.text "\n") := tidy_text (by decide) (by decide)
  induction ms with
  | nil => exact tidyAll_singleton hnewline
  | cons m ms ih =>
    rw [List.forall_mem_cons] at h
    rw [onLines_cons]
    exact tidyAll_text_cons hnewline h.1.1 h.1.2 (ih h.2)

theorem tidy_plain {tag : String} (ht : IsTagName tag) {children : List Markup}
    (h : TidyAll extra children) : Tidy extra (.element tag [] children) :=
  ⟨⟨ht, List.forall_mem_nil _, List.nodup_nil, List.forall_mem_nil _⟩, h⟩

theorem tidy_classed {tag : String} (ht : IsTagName tag) {kind : String} (hk : Holds extra kind)
    {children : List Markup} (h : TidyAll extra children) :
    Tidy extra (.element tag [("class", kind)] children) :=
  have hname : IsTagName "class" := by decide
  ⟨⟨ht, List.forall_mem_singleton.2 hname, List.pairwise_singleton _ _,
    List.forall_mem_singleton.2 hk⟩, h⟩

theorem tidy_closed {tag : String} {attributes : List (String × String)} (ht : IsTagName tag)
    (hn : attributes.all (fun a => Xml.isName a.1.toList && a.2.toList.all Markup.isPlain) = true)
    (hd : (attributes.map Prod.fst).Nodup) : Tidy extra (.closed tag attributes) := by
  simp only [List.all_eq_true (l := attributes), Bool.and_eq_true] at hn
  exact ⟨ht, fun a ha => (hn a ha).1, hd, fun a ha => holds_of_all (hn a ha).2⟩

end Markup

end Bata
