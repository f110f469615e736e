import Bata.Notation
import Bata.Proofs.Text.Basic
import Mathlib.Data.List.Basic
import Mathlib.Data.List.Induction
import Mathlib.Data.List.TakeWhile
import Mathlib.Tactic.Common

namespace Bata.Notation

def IsName (l : List Char) : Prop :=
  nameLabel.toList <+: l

def IsTime (l : List Char) : Prop :=
  ¬IsName l ∧ timeLabel.toList <+: l

def IsHeading (d : Drum) (l : List Char) : Prop :=
  ¬IsName l ∧ ¬IsTime l ∧ String.ofList l = d.name

def IsContent (l : List Char) : Prop :=
  ¬IsName l ∧ ¬IsTime l ∧ ∀ d ∈ Drum.all, ¬IsHeading d l

instance : DecidablePred IsName := fun l => inferInstanceAs (Decidable (nameLabel.toList <+: l))

instance : DecidablePred IsTime := fun l =>
  inferInstanceAs (Decidable (¬IsName l ∧ timeLabel.toList <+: l))

instance (d : Drum) : DecidablePred (IsHeading d) := fun l =>
  inferInstanceAs (Decidable (¬IsName l ∧ ¬IsTime l ∧ String.ofList l = d.name))

instance : DecidablePred IsContent := fun l =>
  inferInstanceAs (Decidable (¬IsName l ∧ ¬IsTime l ∧ ∀ d ∈ Drum.all, ¬IsHeading d l))

def heading? (l : List Char) : Option Drum :=
  Drum.all.find? fun d => IsHeading d l

/-- The drum of the last heading. -/
def sectionOf (ls : List (List Char)) : Option Drum :=
  (ls.filterMap heading?).getLast?

/-- The content lines with `d` as the nearest heading before them. -/
def contentLines (ls : List (List Char)) (d : Drum) : List (List Char) :=
  ls.zipIdx.filterMap fun (l, i) =>
    if IsContent l ∧ sectionOf (ls.take i) = some d then some l else none

/-- What stands after a label, trimmed. -/
def valueAfter (label : String) (l : List Char) : String :=
  String.ofList (Text.trim (l.drop label.toList.length))

/-- The line that is a signature alone, in a text that states it so. -/
def bareLine? (text : String) : Option (List Char) :=
  match Header.ofText text with
  | .labelled => none
  | .bare => (trimmedLines text).find? (!·.isEmpty)

def bodyLines (text : String) : List (List Char) :=
  match Header.ofText text with
  | .labelled => trimmedLines text
  | .bare => ((trimmedLines text).dropWhile List.isEmpty).tail

/-- Nothing has been read but the signature that stands alone. -/
def startOf (text : String) : Toque :=
  { Toque.blank with timeSignature := (bareLine? text).elim "" String.ofList }

theorem isPrefixOf?_label {label : String} {l : List Char} (h : label.toList <+: l) :
    label.toList.isPrefixOf? l = some (l.drop label.toList.length) := by
  obtain ⟨rest, rfl⟩ := h
  simp

theorem isPrefixOf?_eq_none {label : String} {l : List Char} (h : ¬label.toList <+: l) :
    label.toList.isPrefixOf? l = none := by
  rw [Option.eq_none_iff_forall_ne_some]
  intro rest hr
  exact h ⟨rest, List.isPrefixOf?_eq_some_iff_append_eq.1 hr⟩

theorem ofChars_of_isName {l : List Char} (h : IsName l) :
    Line.ofChars l = .name (valueAfter nameLabel l) := by
  rw [Line.ofChars, isPrefixOf?_label h]
  rfl

theorem ofChars_of_isTime {l : List Char} (h : IsTime l) :
    Line.ofChars l = .time (valueAfter timeLabel l) := by
  rw [Line.ofChars, isPrefixOf?_eq_none h.1, isPrefixOf?_label h.2]
  rfl

theorem ofChars_of_no_label {l : List Char} (hn : ¬IsName l) (ht : ¬IsTime l) :
    Line.ofChars l = match Drum.ofName? (String.ofList l) with
      | some d => .heading d
      | none => .content (String.ofList l) := by
  have htime : ¬timeLabel.toList <+: l := fun h => ht ⟨hn, h⟩
  cases hdrum : Drum.ofName? (String.ofList l) with
  | none => rw [Line.ofChars, isPrefixOf?_eq_none hn, isPrefixOf?_eq_none htime, hdrum]
  | some d => rw [Line.ofChars, isPrefixOf?_eq_none hn, isPrefixOf?_eq_none htime, hdrum]

theorem ofChars_of_isHeading {d : Drum} {l : List Char} (h : IsHeading d l) :
    Line.ofChars l = .heading d := by
  obtain ⟨hn, ht, hd⟩ := h
  rw [ofChars_of_no_label hn ht, hd, Drum.ofName?_name]

theorem ofChars_of_isContent {l : List Char} (h : IsContent l) :
    Line.ofChars l = .content (String.ofList l) := by
  obtain ⟨hn, ht, hd⟩ := h
  have hnone : Drum.ofName? (String.ofList l) = none := by
    rw [Option.eq_none_iff_forall_ne_some]
    intro d hs
    exact hd d (Drum.mem_all d) ⟨hn, ht, (Drum.name_of_ofName? hs).symm⟩
  rw [ofChars_of_no_label hn ht, hnone]

theorem isName_or_isTime_or_isHeading_or_isContent (l : List Char) :
    IsName l ∨ IsTime l ∨ (∃ d, IsHeading d l) ∨ IsContent l := by
  by_cases hn : IsName l
  · exact .inl hn
  by_cases ht : IsTime l
  · exact .inr (.inl ht)
  by_cases hd : ∃ d, IsHeading d l
  · exact .inr (.inr (.inl hd))
  · exact .inr (.inr (.inr ⟨hn, ht, fun d _ h => hd ⟨d, h⟩⟩))

theorem heading?_eq_some_iff {d : Drum} {l : List Char} :
    heading? l = some d ↔ IsHeading d l := by
  constructor
  · intro h
    simpa using List.find?_some h
  · intro h
    cases hf : heading? l with
    | none =>
      have := List.find?_eq_none.1 hf d (Drum.mem_all d)
      exact absurd h (by simpa using this)
    | some e =>
      have he : IsHeading e l := by simpa using List.find?_some hf
      rw [Drum.name_inj.1 (he.2.2.symm.trans h.2.2)]

theorem IsHeading.eq_name {d : Drum} {l : List Char} (h : IsHeading d l) : l = d.name.toList := by
  rw [← h.2.2, String.toList_ofList]

theorem isHeading_name (d : Drum) : IsHeading d d.name.toList := by
  cases d <;> decide

theorem heading?_eq_none {l : List Char} (h : ∀ d, ¬IsHeading d l) : heading? l = none := by
  rw [Option.eq_none_iff_forall_ne_some]
  exact fun d hd => h d (heading?_eq_some_iff.1 hd)

theorem getLast?_filter_concat (p : List Char → Prop) [DecidablePred p] (ls : List (List Char))
    (l : List Char) :
    ((ls ++ [l]).filter p).getLast? = if p l then some l else (ls.filter p).getLast? := by
  rw [List.filter_append]
  split <;> simp_all

theorem sectionOf_concat (ls : List (List Char)) (l : List Char) :
    sectionOf (ls ++ [l]) = (heading? l).or (sectionOf ls) := by
  rw [sectionOf, List.filterMap_append, List.getLast?_append, sectionOf]
  cases h : heading? l <;> simp [h]

theorem contentLines_concat (ls : List (List Char)) (l : List Char) (d : Drum) :
    contentLines (ls ++ [l]) d =
      contentLines ls d ++ if IsContent l ∧ sectionOf ls = some d then [l] else [] := by
  rw [contentLines, List.zipIdx_append, List.filterMap_append]
  congr 1
  · -- what stands before an earlier line does not change
    apply List.filterMap_congr
    rintro ⟨l', i⟩ hi
    have hlt : i < ls.length := by
      have := List.snd_lt_of_mem_zipIdx hi
      omega
    dsimp only
    rw [List.take_append_of_le_length (Nat.le_of_lt hlt)]
  · by_cases h : IsContent l ∧ sectionOf ls = some d
    · simp [h]
    · rw [if_neg h]
      simpa using h

/-- What a reading of the lines `ls` holds, from a start where every drum has an empty part. -/
structure Tells (start : Toque) (ls : List (List Char)) (r : Reading) : Prop where
  name : r.toque.name = (ls.filter IsName).getLast?.elim start.name (valueAfter nameLabel)
  time : r.toque.timeSignature =
    (ls.filter IsTime).getLast?.elim start.timeSignature (valueAfter timeLabel)
  drum : r.drum? = sectionOf ls
  parts : ∀ d, r.toque.parts.get? d = some (String.ofList (contentLines ls d).flatten)

theorem tells_start {start : Toque} (h : start.parts = .blank) : Tells start [] ⟨start, none⟩ :=
  ⟨rfl, rfl, rfl, fun d => by rw [h]; cases d <;> rfl⟩

/-- A line only changes what its kind is about, and a header leaves the section open. -/
theorem Tells.next {start : Toque} {ls : List (List Char)} {r : Reading} (h : Tells start ls r)
    (l : List Char) : Tells start (ls ++ [l]) (r.next (Line.ofChars l)) := by
  rcases isName_or_isTime_or_isHeading_or_isContent l with hl | hl | ⟨d, hl⟩ | hl
  · have hother : ¬IsTime l ∧ heading? l = none ∧ ¬IsContent l :=
      ⟨fun ht => ht.1 hl, heading?_eq_none fun _ hd => hd.1 hl, fun hc => hc.1 hl⟩
    rw [ofChars_of_isName hl]
    constructor
    · simp [Reading.next, hl]
    · simpa [Reading.next, getLast?_filter_concat, hother] using h.time
    · simpa [Reading.next, sectionOf_concat, hother] using h.drum
    · simpa [Reading.next, contentLines_concat, hother] using h.parts
  · have hother : ¬IsName l ∧ heading? l = none ∧ ¬IsContent l :=
      ⟨hl.1, heading?_eq_none fun _ hd => hd.2.1 hl, fun hc => hc.2.1 hl⟩
    rw [ofChars_of_isTime hl]
    constructor
    · simpa [Reading.next, getLast?_filter_concat, hother] using h.name
    · simp [Reading.next, hl]
    · simpa [Reading.next, sectionOf_concat, hother] using h.drum
    · simpa [Reading.next, contentLines_concat, hother] using h.parts
  · have hother : ¬IsName l ∧ ¬IsTime l ∧ ¬IsContent l :=
      ⟨hl.1, hl.2.1, fun hc => hc.2.2 d (Drum.mem_all d) hl⟩
    rw [ofChars_of_isHeading hl]
    constructor
    · simpa [Reading.next, getLast?_filter_concat, hother] using h.name
    · simpa [Reading.next, getLast?_filter_concat, hother] using h.time
    · simp [Reading.next, sectionOf_concat, heading?_eq_some_iff.2 hl]
    · simpa [Reading.next, contentLines_concat, hother] using h.parts
  · have hother : ¬IsName l ∧ ¬IsTime l ∧ heading? l = none :=
      ⟨hl.1, hl.2.1, heading?_eq_none fun d => hl.2.2 d (Drum.mem_all d)⟩
    rw [ofChars_of_isContent hl]
    -- before the first heading the line is a remark, after it the section of that drum grows
    cases hs : r.drum? with
    | none =>
      have hs' : sectionOf ls = none := h.drum.symm.trans hs
      constructor
      · simpa [Reading.next, getLast?_filter_concat, hother, hs] using h.name
      · simpa [Reading.next, getLast?_filter_concat, hother, hs] using h.time
      · simpa [Reading.next, sectionOf_concat, hother, hs] using hs'.symm
      · simpa [Reading.next, contentLines_concat, hs, hs'] using h.parts
    | some d =>
      have hs' : sectionOf ls = some d := h.drum.symm.trans hs
      constructor
      · simpa [Reading.next, getLast?_filter_concat, hother, hs] using h.name
      · simpa [Reading.next, getLast?_filter_concat, hother, hs] using h.time
      · simpa [Reading.next, sectionOf_concat, hother, hs] using hs'.symm
      · intro e
        simp only [Reading.next, hs, Parts.get?_append, h.parts, contentLines_concat, hs', hl]
        by_cases he : e = d
        · subst he
          simp [String.ofList_append]
        · simp [he, Ne.symm he]

theorem tells_foldl {start : Toque} (h : start.parts = .blank) (ls : List (List Char)) :
    Tells start ls ((ls.map Line.ofChars).foldl Reading.next ⟨start, none⟩) := by
  induction ls using List.reverseRecOn with
  | nil => exact tells_start h
  | append_singleton ls l ih =>
    rw [List.map_append, List.foldl_append]
    exact ih.next l

section readLines

variable {start : Toque} (h : start.parts = .blank) (ls : List (List Char))
include h

theorem name_readLines :
    (readLines start ls).name =
      (ls.filter IsName).getLast?.elim start.name (valueAfter nameLabel) :=
  (tells_foldl h ls).name

theorem timeSignature_readLines :
    (readLines start ls).timeSignature =
      (ls.filter IsTime).getLast?.elim start.timeSignature (valueAfter timeLabel) :=
  (tells_foldl h ls).time

theorem get?_parts_readLines (d : Drum) :
    (readLines start ls).parts.get? d = some (String.ofList (contentLines ls d).flatten) :=
  (tells_foldl h ls).parts d

theorem part_readLines (d : Drum) :
    (readLines start ls).part d = String.ofList (contentLines ls d).flatten := by
  rw [Toque.part, get?_parts_readLines h, Option.getD_some]

end readLines

theorem lines_of_labelled {text : String} (h : bareSignature? (trimmedLines text) = none) :
    bareLine? text = none ∧ bodyLines text = trimmedLines text := by
  have hh : Header.ofText text = .labelled := by rw [Header.ofText, h]
  rw [bareLine?, bodyLines, hh]
  exact ⟨rfl, rfl⟩

theorem lines_of_bare {text : String} {l : List Char} {rest : List (List Char)}
    (h : bareSignature? (trimmedLines text) = some (l, rest)) :
    bareLine? text = some l ∧ bodyLines text = rest := by
  have hh : Header.ofText text = .bare := by rw [Header.ofText, h]
  have hdrop : (trimmedLines text).dropWhile List.isEmpty = l :: rest := by
    rw [bareSignature?_eq] at h
    split at h
    · cases h
    · rename_i l' rest' hd
      rw [hd]
      split at h <;> simp_all
  rw [bareLine?, bodyLines, hh]
  constructor
  · rw [List.find?_eq_head?_dropWhile_not]
    simp [hdrop]
  · simp [hdrop]

theorem mem_trimmedLines_of_bareLine? {text : String} {l : List Char} (h : bareLine? text = some l) :
    l ∈ trimmedLines text := by
  unfold bareLine? at h
  split at h
  · cases h
  · exact List.mem_of_find?_eq_some h

theorem bodyLines_subset (text : String) : bodyLines text ⊆ trimmedLines text := by
  unfold bodyLines
  split
  · exact List.Subset.refl _
  · exact fun _ h => List.dropWhile_subset _ (List.mem_of_mem_tail h)

theorem ofText_eq_readLines (text : String) :
    Toque.ofText text = readLines (startOf text) (bodyLines text) := by
  rw [Toque.ofText, startOf]
  cases h : bareSignature? (trimmedLines text) with
  | none =>
    rw [(lines_of_labelled h).1, (lines_of_labelled h).2]
    rfl
  | some b =>
    rw [(lines_of_bare h).1, (lines_of_bare h).2]
    rfl

/-- The last name header gives the name, the last time header or else the signature alone gives the
time, and each drum plays its content lines in their order. -/
theorem ofText_told_by_lines (text : String) :
    (Toque.ofText text).name =
        ((bodyLines text).filter IsName).getLast?.elim "" (valueAfter nameLabel) ∧
      (Toque.ofText text).timeSignature =
        ((bodyLines text).filter IsTime).getLast?.elim ((bareLine? text).elim "" String.ofList)
          (valueAfter timeLabel) ∧
      ∀ d, (Toque.ofText text).parts.get? d =
        some (String.ofList (contentLines (bodyLines text) d).flatten) := by
  rw [ofText_eq_readLines]
  have h := tells_foldl (show (startOf text).parts = .blank from rfl) (bodyLines text)
  exact ⟨h.name, h.time, h.parts⟩

theorem mem_text_of_mem_trimmedLines {text : String} {l : List Char} (h : l ∈ trimmedLines text)
    {c : Char} (hc : c ∈ l) : c ∈ text.toList := by
  obtain ⟨l', hl', rfl⟩ := List.mem_map.1 h
  exact Text.mem_of_mem_lines hl' (Text.mem_of_mem_trim hc)

theorem mem_of_mem_valueAfter {label : String} {l : List Char} {c : Char}
    (h : c ∈ (valueAfter label l).toList) : c ∈ l := by
  rw [valueAfter, String.toList_ofList] at h
  exact List.mem_of_mem_drop (Text.mem_of_mem_trim h)

theorem mem_of_mem_last {label start : String} {ls : List (List Char)} {c : Char}
    (h : c ∈ (ls.getLast?.elim start (valueAfter label)).toList) :
    c ∈ start.toList ∨ ∃ l ∈ ls, c ∈ l := by
  cases hlast : ls.getLast? with
  | none => exact .inl (by simpa [hlast] using h)
  | some l =>
    rw [hlast] at h
    exact .inr ⟨l, List.mem_of_getLast? hlast, mem_of_mem_valueAfter h⟩

theorem mem_text_of_mem_bareLine? {text : String} {c : Char}
    (h : c ∈ ((bareLine? text).elim "" String.ofList).toList) : c ∈ text.toList := by
  cases hbare : bareLine? text with
  | none => simp [hbare] at h
  | some l =>
    rw [hbare, Option.elim_some, String.toList_ofList] at h
    exact mem_text_of_mem_trimmedLines (mem_trimmedLines_of_bareLine? hbare) h

/-- Neither header is made up. -/
theorem mem_text_of_mem_headers {text : String} {c : Char}
    (h : c ∈ (Toque.ofText text).name.toList ∨ c ∈ (Toque.ofText text).timeSignature.toList) :
    c ∈ text.toList := by
  have htells := tells_foldl (show (startOf text).parts = .blank from rfl) (bodyLines text)
  have hline : ∀ l ∈ bodyLines text, c ∈ l → c ∈ text.toList :=
    fun l hl => mem_text_of_mem_trimmedLines (bodyLines_subset text hl)
  rw [ofText_eq_readLines, readLines, htells.name, htells.time] at h
  rcases h with h | h
  · obtain h | ⟨l, hl, hc⟩ := mem_of_mem_last h
    · simp [startOf, Toque.blank] at h
    · exact hline l (List.mem_of_mem_filter hl) hc
  · obtain h | ⟨l, hl, hc⟩ := mem_of_mem_last h
    · exact mem_text_of_mem_bareLine? h
    · exact hline l (List.mem_of_mem_filter hl) hc

end Bata.Notation
