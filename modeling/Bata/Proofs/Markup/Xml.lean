import Bata.Proofs.Markup.Entity
import Bata.Proofs.Markup.Tidy

namespace Bata

namespace Xml

open Markup

/-- The ranges of `Char` in XML 1.0. -/
def charRanges : List (Nat × Nat) :=
  [(0x9, 0xA), (0xD, 0xD), (0x20, 0xD7FF), (0xE000, 0xFFFD), (0x10000, 0x10FFFF)]

def isChar (c : Char) : Bool :=
  charRanges.any fun (lo, hi) => lo ≤ c.toNat && c.toNat ≤ hi

def isSpace (c : Char) : Bool :=
  c ∈ [' ', '\t', '\r', '\n']

/-- What stands between the quotation marks of an attribute. -/
inductive IsValue : List Char → Prop where
  | nil : IsValue []
  | char {c : Char} {cs : List Char} : c ∉ ['<', '&', '"'] → IsValue cs → IsValue (c :: cs)
  | entity {e : String} {cs : List Char} : e ∈ entities → IsValue cs → IsValue (e.toList ++ cs)

/-- Attributes of the given names, each with white space before it. -/
inductive IsAttributes : List (List Char) → List Char → Prop where
  | nil : IsAttributes [] []
  | cons {space name value cs : List Char} {names : List (List Char)} :
    space ≠ [] → space.all isSpace = true → isName name = true → name ∉ names → IsValue value →
      IsAttributes names cs →
        IsAttributes (name :: names) (space ++ name ++ ['=', '"'] ++ value ++ '"' :: cs)

mutual

inductive IsElement : List Char → Prop where
  | pair {tag attributes space inside : List Char} {names : List (List Char)} :
    isName tag = true → IsAttributes names attributes → space.all isSpace = true →
      IsContent inside →
        IsElement ('<' :: tag ++ attributes ++ space ++ '>' :: inside ++ ['<', '/'] ++ tag ++ ['>'])
  | closed {tag attributes space : List Char} {names : List (List Char)} :
    isName tag = true → IsAttributes names attributes → space.all isSpace = true →
      IsElement ('<' :: tag ++ attributes ++ space ++ ['/', '>'])

inductive IsContent : List Char → Prop where
  | nil : IsContent []
  | char {c : Char} {cs : List Char} :
    c ∉ ['<', '&'] → ¬[']', ']', '>'] <+: c :: cs → IsContent cs → IsContent (c :: cs)
  | entity {e : String} {cs : List Char} :
    e ∈ entities → IsContent cs → IsContent (e.toList ++ cs)
  | element {xs cs : List Char} : IsElement xs → IsContent cs → IsContent (xs ++ cs)

end

/-- One root element, with white space after it: a document without prolog, remarks, instructions
and `CDATA`. -/
def IsDocument (cs : List Char) : Prop :=
  ∃ root space, cs = root ++ space ∧ IsElement root ∧ space.all isSpace = true

structure WellFormed (cs : List Char) : Prop where
  document : IsDocument cs
  legal : ∀ c ∈ cs, isChar c = true

end Xml

namespace Markup

open Xml

theorem escapeChar_cases (c : Char) :
    (∃ e ∈ entities, escapeChar c = e.toList) ∨
      escapeChar c = [c] ∧ c ∉ ['&', '<', '>', '"', '\''] := by
  unfold escapeChar
  split_ifs with hamp hlt hgt hquot hapos
  · exact .inl ⟨_, by simp [entities], rfl⟩
  · exact .inl ⟨_, by simp [entities], rfl⟩
  · exact .inl ⟨_, by simp [entities], rfl⟩
  · exact .inl ⟨_, by simp [entities], rfl⟩
  · exact .inl ⟨_, by simp [entities], rfl⟩
  · exact .inr ⟨rfl, by simp [hamp, hlt, hgt, hquot, hapos]⟩

theorem escapeChar_of_not_isPlain {c : Char} (h : isPlain c = false) : escapeChar c = [c] := by
  have hplain : ['&', '<', '>', '"', '\''].all isPlain = true := by decide
  have hspecial : ∀ d ∈ ['&', '<', '>', '"', '\''], d ≠ c := by
    rintro d hd rfl
    exact absurd (List.all_eq_true.1 hplain d hd) (by simp [h])
  unfold escapeChar
  split_ifs with hamp hlt hgt hquot hapos
  · exact absurd hamp.symm (hspecial _ (by decide))
  · exact absurd hlt.symm (hspecial _ (by decide))
  · exact absurd hgt.symm (hspecial _ (by decide))
  · exact absurd hquot.symm (hspecial _ (by decide))
  · exact absurd hapos.symm (hspecial _ (by decide))
  · rfl

theorem isValue_escape (s : String) : IsValue (escape s) := by
  rw [escape]
  induction s.toList with
  | nil => exact .nil
  | cons c cs ih =>
    rw [List.flatMap_cons]
    obtain ⟨e, he, hc⟩ | ⟨hc, hno⟩ := escapeChar_cases c
    · rw [hc]
      exact .entity he ih
    · rw [hc]
      exact .char (fun h => hno (by simp_all)) ih

/-- Up to the next tag there is no bracket, so that no `]]>` can reach into `cs`. -/
def OpenEnd (cs : List Char) : Prop :=
  '>' ∉ cs.takeWhile (· ≠ '<')

theorem openEnd_append {xs : List Char} (hl : '<' ∉ xs) (hg : '>' ∉ xs) {cs : List Char}
    (h : OpenEnd cs) : OpenEnd (xs ++ cs) := by
  have hbefore : ∀ c ∈ xs, decide (c ≠ '<') = true := by
    intro c hc
    simpa using fun he : c = '<' => hl (he ▸ hc)
  rw [OpenEnd, List.takeWhile_append_of_pos hbefore, List.mem_append, not_or]
  exact ⟨hg, h⟩

theorem not_end_of_openEnd {cs : List Char} (h : OpenEnd cs) (c : Char) :
    ¬[']', ']', '>'] <+: c :: cs := by
  rintro ⟨rest, he⟩
  obtain ⟨-, rfl⟩ := List.cons.inj he
  exact h (by simp)

theorem isContent_escape_append {cs : List Char} (ho : OpenEnd cs) (h : IsContent cs) (s : String) :
    IsContent (escape s ++ cs) := by
  rw [escape]
  induction s.toList with
  | nil => exact h
  | cons c rest ih =>
    rw [List.flatMap_cons, List.append_assoc]
    obtain ⟨e, he, hc⟩ | ⟨hc, hno⟩ := escapeChar_cases c
    · rw [hc]
      exact .entity he ih
    · have hrest : OpenEnd (rest.flatMap escapeChar ++ cs) := by
        have hescape : rest.flatMap escapeChar = escape (String.ofList rest) := by
          rw [escape, String.toList_ofList]
        rw [hescape]
        exact openEnd_append (fun hm => (mem_escape hm).1 rfl) (fun hm => (mem_escape hm).2.1 rfl) ho
      rw [hc]
      exact .char (fun hm => hno (by simp_all)) (not_end_of_openEnd hrest c) ih

theorem isAttributes_flatMap {extra : List Char} {tag : String}
    {attributes : List (String × String)} (h : TidyTag extra tag attributes) :
    IsAttributes (attributes.map (·.1.toList)) (attributes.flatMap attributeChars) := by
  obtain ⟨-, hnames, hdistinct, -⟩ := h
  induction attributes with
  | nil => exact .nil
  | cons a attributes ih =>
    obtain ⟨name, value⟩ := a
    rw [List.forall_mem_cons] at hnames
    rw [List.map_cons, List.nodup_cons] at hdistinct
    have hnew : name.toList ∉ attributes.map (·.1.toList) := by
      simpa [String.toList_inj] using hdistinct.1
    have hspace : [' '] ≠ [] := List.cons_ne_nil _ _
    have hone := IsAttributes.cons hspace (by decide) hnames.1 hnew (isValue_escape value)
      (ih hnames.2 hdistinct.2)
    simpa [attributeChars] using hone

theorem openEnd_chars_append (m : Markup) {cs : List Char} (h : OpenEnd cs) :
    OpenEnd (m.chars ++ cs) := by
  cases m with
  | text value =>
    exact openEnd_append (fun hm => (mem_escape hm).1 rfl) (fun hm => (mem_escape hm).2.1 rfl) h
  | element tag attributes children => simp [OpenEnd, chars, openingChars]
  | closed tag attributes => simp [OpenEnd, chars, openingChars]

theorem openEnd_charsOfAll (ms : List Markup) : OpenEnd (charsOfAll ms) := by
  induction ms with
  | nil => simp [OpenEnd, charsOfAll]
  | cons m ms ih => exact openEnd_chars_append m ih

theorem isElement_element {extra : List Char} {tag : String} {attributes : List (String × String)}
    {children : List Markup} (h : TidyTag extra tag attributes)
    (hinside : IsContent (charsOfAll children)) :
    IsElement (chars (.element tag attributes children)) := by
  have hspace : ([] : List Char).all isSpace = true := rfl
  have hpair := IsElement.pair h.tag (isAttributes_flatMap h) hspace hinside
  simpa [chars, openingChars, closingChars] using hpair

theorem isElement_closed {extra : List Char} {tag : String} {attributes : List (String × String)}
    (h : TidyTag extra tag attributes) : IsElement (chars (.closed tag attributes)) := by
  have hspace : [' '].all isSpace = true := by decide
  have hclosed := IsElement.closed h.tag (isAttributes_flatMap h) hspace
  simpa [chars, openingChars] using hclosed

mutual

/-- A text is not judged alone: what comes after it could complete a `]]>`. -/
theorem isContent_chars_append {extra : List Char} (m : Markup) (h : Tidy extra m)
    {cs : List Char} (ho : OpenEnd cs) (hcs : IsContent cs) : IsContent (m.chars ++ cs) := by
  match m with
  | .text value => exact isContent_escape_append ho hcs value
  | .closed tag attributes => exact .element (isElement_closed h) hcs
  | .element tag attributes children =>
    exact .element (isElement_element h.1 (isContent_charsOfAll children h.2)) hcs

theorem isContent_charsOfAll {extra : List Char} (ms : List Markup) (h : TidyAll extra ms) :
    IsContent (charsOfAll ms) := by
  match ms with
  | [] => exact .nil
  | m :: ms =>
    exact isContent_chars_append m h.1 (openEnd_charsOfAll ms) (isContent_charsOfAll ms h.2.1)

end

theorem holds_escape {extra : List Char} {s : String} (h : Holds extra s) :
    ∀ c ∈ escape s, isPlain c = true ∨ c ∈ extra := by
  intro c hc
  obtain ⟨d, hd, hc⟩ := List.mem_flatMap.1 hc
  obtain ⟨e, he, hescape⟩ | ⟨hescape, -⟩ := escapeChar_cases d
  · have hentity : entities.all (fun e => e.toList.all isPlain) = true := by decide
    simp only [List.all_eq_true] at hentity
    exact .inl (hentity e he c (hescape ▸ hc))
  · rw [hescape, List.mem_singleton] at hc
    exact hc ▸ h d hd

theorem holds_openingChars {extra : List Char} {tag : String} {attributes : List (String × String)}
    (h : TidyTag extra tag attributes) :
    ∀ c ∈ openingChars tag attributes, isPlain c = true ∨ c ∈ extra := by
  intro c hc
  simp only [openingChars, List.cons_append, List.mem_cons, List.mem_append, List.mem_flatMap] at hc
  rcases hc with rfl | hc | ⟨⟨name, value⟩, ha, hc⟩
  · exact .inl (by decide)
  · exact .inl (h.tag.isPlain hc)
  · simp only [attributeChars, List.cons_append, List.mem_cons, List.mem_append, List.not_mem_nil,
      or_false, or_assoc] at hc
    rcases hc with rfl | hc | rfl | rfl | hc | rfl
    · exact .inl (by decide)
    · exact .inl ((h.names _ ha).isPlain hc)
    · exact .inl (by decide)
    · exact .inl (by decide)
    · exact holds_escape (h.values _ ha) c hc
    · exact .inl (by decide)

mutual

theorem holds_chars {extra : List Char} (m : Markup) (h : Tidy extra m) :
    ∀ c ∈ m.chars, isPlain c = true ∨ c ∈ extra := by
  intro c hc
  match m with
  | .text value => exact holds_escape h.2 c hc
  | .closed tag attributes =>
    simp only [chars, List.mem_append] at hc
    obtain hc | hc := hc
    · exact holds_openingChars h c hc
    · have hend : [' ', '/', '>'].all isPlain = true := by decide
      exact .inl (List.all_eq_true.1 hend c hc)
  | .element tag attributes children =>
    simp only [chars, closingChars, List.mem_append, List.mem_cons, List.not_mem_nil, or_false,
      or_assoc] at hc
    rcases hc with hc | rfl | hc | rfl | rfl | hc | rfl
    · exact holds_openingChars h.1 c hc
    · exact .inl (by decide)
    · exact holds_charsOfAll children h.2 c hc
    · exact .inl (by decide)
    · exact .inl (by decide)
    · exact .inl (h.1.tag.isPlain hc)
    · exact .inl (by decide)

theorem holds_charsOfAll {extra : List Char} (ms : List Markup) (h : TidyAll extra ms) :
    ∀ c ∈ charsOfAll ms, isPlain c = true ∨ c ∈ extra := by
  intro c hc
  match ms with
  | [] => cases hc
  | m :: ms =>
    rw [charsOfAll, List.mem_append] at hc
    obtain hc | hc := hc
    · exact holds_chars m h.1 c hc
    · exact holds_charsOfAll ms h.2.1 c hc

end

end Markup

end Bata
