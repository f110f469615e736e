import Bata.Proofs.Markup.Entity
import Bata.Proofs.Markup.Tidy
import Bata.Text.Basic
import Mathlib.Data.List.TakeWhile
import Mathlib.Tactic.Common

namespace Bata.Markup

/-- An element that is open, with what stands before it in the element around it. -/
structure Frame where
  tag : String
  attributes : List (String × String)
  before : List Markup

inductive Place where
  | text (cs : List Char)
  /-- After a `<`; `quoted` inside the value of an attribute. -/
  | tag (cs : List Char) (quoted : Bool)

structure Scan where
  around : List Frame
  inside : List Markup
  place : Place

/-- Ends a run of text. An empty run leaves nothing behind. -/
def flush (inside : List Markup) (cs : List Char) : Option (List Markup) :=
  if cs = [] then some inside
  else (unescape cs).map fun value => inside ++ [.text (String.ofList value)]

def attributeName? : List Char → Option String
  | ' ' :: cs => if cs.getLast? = some '=' then some (String.ofList cs.dropLast) else none
  | _ => none

/-- Attributes from the pieces between quotation marks, which are names and values in turn. -/
def attributes? : List (List Char) → Option (List (String × String))
  | [] => none
  | [last] => if last.all (· = ' ') then some [] else none
  | name :: value :: pieces =>
    match attributeName? name, unescape value, attributes? pieces with
    | some n, some v, some more => some ((n, String.ofList v) :: more)
    | _, _, _ => none

def tag? (cs : List Char) : Option (String × List (String × String)) :=
  (attributes? ((cs.dropWhile (· ≠ ' ')).splitOn '"')).map
    (String.ofList (cs.takeWhile (· ≠ ' ')), ·)

namespace Scan

/-- Ends a tag: it closes the innermost element, is an element without content, or opens one. -/
def endTag (around : List Frame) (inside : List Markup) : List Char → Option Scan
  | '/' :: name =>
    match around with
    | [] => none
    | f :: fs =>
      if f.tag.toList = name then
        some ⟨fs, f.before ++ [.element f.tag f.attributes inside], .text []⟩
      else none
  | cs =>
    if cs.getLast? = some '/' then
      (tag? cs.dropLast).map fun (tag, attributes) =>
        ⟨around, inside ++ [.closed tag attributes], .text []⟩
    else
      (tag? cs).map fun (tag, attributes) => ⟨⟨tag, attributes, inside⟩ :: around, [], .text []⟩

def step : Scan → Char → Option Scan
  | ⟨around, inside, .text cs⟩, c =>
    if c = '<' then (flush inside cs).map (⟨around, ·, .tag [] false⟩)
    else some ⟨around, inside, .text (cs ++ [c])⟩
  | ⟨around, inside, .tag cs quoted⟩, c =>
    if c = '<' then none
    else if c = '>' ∧ quoted = false then endTag around inside cs
    else some ⟨around, inside, .tag (cs ++ [c]) (if c = '"' then !quoted else quoted)⟩

def run (s : Scan) (cs : List Char) : Option Scan :=
  cs.foldlM step s

def result : Scan → Option Markup
  | ⟨[], [m], .text cs⟩ => if cs.all Text.isBlank then some m else none
  | _ => none

end Scan

def read? (cs : List Char) : Option Markup :=
  (Scan.run ⟨[], [], .text []⟩ cs).bind Scan.result

variable {extra : List Char}

namespace Scan

theorem run_append (s : Scan) (xs ys : List Char) :
    s.run (xs ++ ys) = (s.run xs).bind fun s' => s'.run ys :=
  List.foldlM_append ..

theorem run_cons (s : Scan) (c : Char) (cs : List Char) :
    s.run (c :: cs) = (s.step c).bind fun s' => s'.run cs :=
  List.foldlM_cons ..

theorem run_text {around : List Frame} {inside : List Markup} {cs : List Char} (h : '<' ∉ cs)
    (t : List Char) :
    run ⟨around, inside, .text t⟩ cs = some ⟨around, inside, .text (t ++ cs)⟩ := by
  induction cs generalizing t with
  | nil => simp [run]
  | cons c cs ih =>
    rw [List.mem_cons, not_or] at h
    have hstep : step ⟨around, inside, .text t⟩ c = some ⟨around, inside, .text (t ++ [c])⟩ :=
      if_neg (Ne.symm h.1)
    rw [run_cons, hstep, Option.bind_some, ih h.2, List.append_assoc, List.singleton_append]

def quotedAfter (quoted : Bool) (cs : List Char) : Bool :=
  cs.foldl (fun q c => if c = '"' then !q else q) quoted

theorem run_tag {around : List Frame} {inside : List Markup} {cs : List Char} (hl : '<' ∉ cs)
    (hg : '>' ∉ cs) (t : List Char) (quoted : Bool) :
    run ⟨around, inside, .tag t quoted⟩ cs =
      some ⟨around, inside, .tag (t ++ cs) (quotedAfter quoted cs)⟩ := by
  induction cs generalizing t quoted with
  | nil => simp [run, quotedAfter]
  | cons c cs ih =>
    rw [List.mem_cons, not_or] at hl hg
    have hstep : step ⟨around, inside, .tag t quoted⟩ c =
        some ⟨around, inside, .tag (t ++ [c]) (if c = '"' then !quoted else quoted)⟩ := by
      rw [step, if_neg (Ne.symm hl.1), if_neg fun h => hg.1 h.1.symm]
    rw [run_cons, hstep, Option.bind_some, ih hl.2 hg.2, List.append_assoc, List.singleton_append,
      quotedAfter, quotedAfter, List.foldl_cons]

end Scan

theorem attributeChars_append (n v : String) (rest : List Char) :
    attributeChars (n, v) ++ rest =
      (' ' :: (n.toList ++ ['='])) ++ '"' :: (escape v ++ '"' :: rest) := by
  simp [attributeChars]

theorem quote_not_mem_name {n : String} (h : IsTagName n) : '"' ∉ ' ' :: (n.toList ++ ['=']) := by
  have hn := h.not_mem (c := '"') (by decide)
  simpa using hn

theorem quote_not_mem_escape (v : String) : '"' ∉ escape v :=
  fun h => (mem_escape h).2.2.1 rfl

theorem attributeName?_written (n : String) :
    attributeName? (' ' :: (n.toList ++ ['='])) = some n := by
  simp [attributeName?]

/-- The pieces between the quotation marks are a name and a value for each attribute. -/
theorem attributes?_splitOn {attributes : List (String × String)}
    (h : ∀ a ∈ attributes, IsTagName a.1) {tail : List Char} (ht : ∀ c ∈ tail, c = ' ') :
    attributes? ((attributes.flatMap attributeChars ++ tail).splitOn '"') = some attributes := by
  induction attributes with
  | nil =>
    have hq : '"' ∉ tail := fun hq => absurd (ht _ hq) (by decide)
    rw [List.flatMap_nil, List.nil_append, List.splitOn_eq_singleton hq, attributes?, if_pos]
    simpa using ht
  | cons a attributes ih =>
    obtain ⟨n, v⟩ := a
    rw [List.forall_mem_cons] at h
    -- no quotation mark is left in a name or an escaped value, so the cuts come after both
    rw [List.flatMap_cons, List.append_assoc, attributeChars_append,
      List.splitOn_append_cons_self_of_not_mem (quote_not_mem_name h.1),
      List.splitOn_append_cons_self_of_not_mem (quote_not_mem_escape v),
      attributes?, attributeName?_written, unescape_escape, ih h.2]
    simp

theorem tag?_written {tag : String} {attributes : List (String × String)} (ht : IsTagName tag)
    (ha : ∀ a ∈ attributes, IsTagName a.1) {tail : List Char} (hs : ∀ c ∈ tail, c = ' ') :
    tag? (tag.toList ++ (attributes.flatMap attributeChars ++ tail)) = some (tag, attributes) := by
  have hblank : ' ' ∉ tag.toList := ht.not_mem (by decide)
  have htag : ∀ c ∈ tag.toList, decide (c ≠ ' ') = true := by
    intro c hc
    simpa using fun he : c = ' ' => hblank (he ▸ hc)
  have hrest : (attributes.flatMap attributeChars ++ tail).takeWhile (· ≠ ' ') = [] ∧
      (attributes.flatMap attributeChars ++ tail).dropWhile (· ≠ ' ') =
        attributes.flatMap attributeChars ++ tail := by
    cases attributes with
    | nil =>
      cases tail with
      | nil => simp
      | cons c tail => simp [hs c List.mem_cons_self]
    | cons a attributes => simp [attributeChars]
  rw [tag?, List.takeWhile_append_of_pos htag, List.dropWhile_append_of_pos htag, hrest.1, hrest.2,
    attributes?_splitOn ha hs, List.append_nil, String.ofList_toList, Option.map_some]

theorem bracket_not_mem_attributes {attributes : List (String × String)}
    (h : ∀ a ∈ attributes, IsTagName a.1) {c : Char} (hc : c = '<' ∨ c = '>') :
    c ∉ attributes.flatMap attributeChars := by
  intro hm
  obtain ⟨⟨n, v⟩, ha, hcs⟩ := List.mem_flatMap.1 hm
  rcases hc with rfl | rfl
  · have hname : '<' ∉ n.toList := (h _ ha).not_mem (by decide)
    have hvalue : '<' ∉ escape v := fun hv => (mem_escape hv).1 rfl
    simp [attributeChars, hname, hvalue] at hcs
  · have hname : '>' ∉ n.toList := (h _ ha).not_mem (by decide)
    have hvalue : '>' ∉ escape v := fun hv => (mem_escape hv).2.1 rfl
    simp [attributeChars, hname, hvalue] at hcs

namespace Scan

theorem quotedAfter_append (quoted : Bool) (xs ys : List Char) :
    quotedAfter quoted (xs ++ ys) = quotedAfter (quotedAfter quoted xs) ys :=
  List.foldl_append ..

theorem quotedAfter_quote (quoted : Bool) (cs : List Char) :
    quotedAfter quoted ('"' :: cs) = quotedAfter (!quoted) cs := rfl

theorem quotedAfter_of_not_mem {cs : List Char} (h : '"' ∉ cs) (quoted : Bool) :
    quotedAfter quoted cs = quoted := by
  induction cs with
  | nil => rfl
  | cons c cs ih =>
    rw [List.mem_cons, not_or] at h
    rw [quotedAfter, List.foldl_cons, if_neg (Ne.symm h.1)]
    exact ih h.2

theorem quotedAfter_attributes {attributes : List (String × String)}
    (h : ∀ a ∈ attributes, IsTagName a.1) :
    quotedAfter false (attributes.flatMap attributeChars) = false := by
  induction attributes with
  | nil => rfl
  | cons a attributes ih =>
    obtain ⟨n, v⟩ := a
    rw [List.forall_mem_cons] at h
    rw [List.flatMap_cons, attributeChars_append, quotedAfter_append,
      quotedAfter_of_not_mem (quote_not_mem_name h.1), quotedAfter_quote, quotedAfter_append,
      quotedAfter_of_not_mem (quote_not_mem_escape v), quotedAfter_quote]
    exact ih h.2

theorem step_less {around : List Frame} {inside inside' : List Markup} {t : List Char}
    (hf : flush inside t = some inside') :
    step ⟨around, inside, .text t⟩ '<' = some ⟨around, inside', .tag [] false⟩ := by
  rw [step, if_pos rfl, hf, Option.map_some]

theorem step_greater (around : List Frame) (inside : List Markup) (cs : List Char) :
    step ⟨around, inside, .tag cs false⟩ '>' = endTag around inside cs := by
  rw [step, if_neg (by decide), if_pos ⟨rfl, rfl⟩]

theorem run_opening (around : List Frame) {inside inside' : List Markup} {t : List Char}
    (hf : flush inside t = some inside') {tag : String} {attributes : List (String × String)}
    (ht : IsTagName tag) (ha : ∀ a ∈ attributes, IsTagName a.1) {tail : List Char}
    (hs : ∀ c ∈ tail, c ∈ [' ', '/']) :
    run ⟨around, inside, .text t⟩ (openingChars tag attributes ++ tail) =
      some ⟨around, inside',
        .tag (tag.toList ++ (attributes.flatMap attributeChars ++ tail)) false⟩ := by
  have htail : '<' ∉ tail ∧ '>' ∉ tail ∧ '"' ∉ tail :=
    ⟨fun h => absurd (hs _ h) (by decide), fun h => absurd (hs _ h) (by decide),
      fun h => absurd (hs _ h) (by decide)⟩
  have hless : '<' ∉ tag.toList ++ (attributes.flatMap attributeChars ++ tail) := by
    simp only [List.mem_append, not_or]
    exact ⟨ht.not_mem (by decide), bracket_not_mem_attributes ha (.inl rfl), htail.1⟩
  have hgreater : '>' ∉ tag.toList ++ (attributes.flatMap attributeChars ++ tail) := by
    simp only [List.mem_append, not_or]
    exact ⟨ht.not_mem (by decide), bracket_not_mem_attributes ha (.inr rfl), htail.2.1⟩
  have hquoted : quotedAfter false (tag.toList ++ (attributes.flatMap attributeChars ++ tail)) =
      false := by
    rw [quotedAfter_append, quotedAfter_of_not_mem (ht.not_mem (by decide)), quotedAfter_append,
      quotedAfter_attributes ha, quotedAfter_of_not_mem htail.2.2]
  have hchars : openingChars tag attributes ++ tail =
      '<' :: (tag.toList ++ (attributes.flatMap attributeChars ++ tail)) := by
    simp [openingChars]
  rw [hchars, run_cons, step_less hf, Option.bind_some,
    run_tag hless hgreater, hquoted, List.nil_append]

theorem endTag_cons {c : Char} (hc : c ≠ '/') (around : List Frame) (inside : List Markup)
    (cs : List Char) :
    endTag around inside (c :: cs) =
      if (c :: cs).getLast? = some '/' then
        (tag? (c :: cs).dropLast).map fun (tag, attributes) =>
          ⟨around, inside ++ [.closed tag attributes], .text []⟩
      else
        (tag? (c :: cs)).map fun (tag, attributes) =>
          ⟨⟨tag, attributes, inside⟩ :: around, [], .text []⟩ := by
  rw [endTag]
  exact fun _ h => hc (List.cons.inj h).1

/-- A tag with something to open ends in a letter of its name or in a quotation mark. -/
theorem getLast?_opening {tag : String} (ht : IsTagName tag) (attributes : List (String × String)) :
    (tag.toList ++ attributes.flatMap attributeChars).getLast? ≠ some '/' := by
  intro h
  rcases attributes.eq_nil_or_concat with rfl | ⟨as, ⟨n, v⟩, rfl⟩
  · rw [List.flatMap_nil, List.append_nil] at h
    exact ht.not_mem (c := '/') (by decide) (List.mem_of_getLast? h)
  · have hquote : tag.toList ++ (as.concat (n, v)).flatMap attributeChars =
        (tag.toList ++ as.flatMap attributeChars ++ ' ' :: (n.toList ++ '=' :: '"' :: escape v)) ++
          ['"'] := by
      simp [attributeChars]
    rw [hquote, List.getLast?_concat] at h
    exact absurd h (by decide)

theorem endTag_opening {around : List Frame} {inside : List Markup} {tag : String}
    {attributes : List (String × String)} (ht : IsTagName tag)
    (ha : ∀ a ∈ attributes, IsTagName a.1) :
    endTag around inside (tag.toList ++ (attributes.flatMap attributeChars ++ [])) =
      some ⟨⟨tag, attributes, inside⟩ :: around, [], .text []⟩ := by
  have htag := tag?_written ht ha (List.forall_mem_nil _)
  have hlast := getLast?_opening ht attributes
  obtain ⟨c, cs, hcs, hc⟩ := exists_cons_of_isTagName ht
  rw [List.append_nil] at htag ⊢
  rw [hcs, List.cons_append] at htag hlast ⊢
  rw [endTag_cons hc, if_neg hlast, htag, Option.map_some]

theorem endTag_closed {around : List Frame} {inside : List Markup} {tag : String}
    {attributes : List (String × String)} (ht : IsTagName tag)
    (ha : ∀ a ∈ attributes, IsTagName a.1) :
    endTag around inside (tag.toList ++ (attributes.flatMap attributeChars ++ [' ', '/'])) =
      some ⟨around, inside ++ [.closed tag attributes], .text []⟩ := by
  have htag := tag?_written ht ha (List.forall_mem_singleton.2 rfl)
  have hsplit : tag.toList ++ (attributes.flatMap attributeChars ++ [' ', '/']) =
      (tag.toList ++ (attributes.flatMap attributeChars ++ [' '])) ++ ['/'] := by
    simp
  obtain ⟨c, cs, hcs, hc⟩ := exists_cons_of_isTagName ht
  rw [hsplit]
  rw [hcs, List.cons_append] at htag ⊢
  rw [List.cons_append, endTag_cons hc, ← List.cons_append, List.getLast?_concat, if_pos rfl,
    List.dropLast_concat, htag, Option.map_some]

theorem run_element_start (around : List Frame) {inside inside' : List Markup} {t : List Char}
    (hf : flush inside t = some inside') {tag : String} {attributes : List (String × String)}
    (ht : IsTagName tag) (ha : ∀ a ∈ attributes, IsTagName a.1) :
    run ⟨around, inside, .text t⟩ (openingChars tag attributes ++ ['>']) =
      some ⟨⟨tag, attributes, inside'⟩ :: around, [], .text []⟩ := by
  have hopen := run_opening around hf ht ha (List.forall_mem_nil _)
  rw [List.append_nil] at hopen
  rw [run_append, hopen, Option.bind_some, run_cons, step_greater, endTag_opening ht ha]
  rfl

theorem run_closed (around : List Frame) {inside inside' : List Markup} {t : List Char}
    (hf : flush inside t = some inside') {tag : String} {attributes : List (String × String)}
    (ht : IsTagName tag) (ha : ∀ a ∈ attributes, IsTagName a.1) :
    run ⟨around, inside, .text t⟩ (chars (.closed tag attributes)) =
      some ⟨around, inside' ++ [.closed tag attributes], .text []⟩ := by
  have hopen := run_opening around hf ht ha
    (show ∀ c ∈ [' ', '/'], c ∈ [' ', '/'] from fun _ h => h)
  have hchars : chars (.closed tag attributes) =
      (openingChars tag attributes ++ [' ', '/']) ++ ['>'] := by
    simp [chars]
  rw [hchars, run_append, hopen, Option.bind_some, run_cons, step_greater, endTag_closed ht ha]
  rfl

theorem run_closing {around : List Frame} {inside inside' before : List Markup} {t : List Char}
    (hf : flush inside t = some inside') {tag : String} {attributes : List (String × String)}
    (ht : IsTagName tag) :
    run ⟨⟨tag, attributes, before⟩ :: around, inside, .text t⟩ (closingChars tag) =
      some ⟨around, before ++ [.element tag attributes inside'], .text []⟩ := by
  have hless : '<' ∉ '/' :: tag.toList := by simpa using ht.not_mem (c := '<') (by decide)
  have hgreater : '>' ∉ '/' :: tag.toList := by simpa using ht.not_mem (c := '>') (by decide)
  have hquote : '"' ∉ '/' :: tag.toList := by simpa using ht.not_mem (c := '"') (by decide)
  have hchars : closingChars tag = '<' :: (('/' :: tag.toList) ++ ['>']) := by
    simp [closingChars]
  rw [hchars, run_cons, step_less hf, Option.bind_some, run_append, run_tag hless hgreater,
    quotedAfter_of_not_mem hquote, Option.bind_some, run_cons, step_greater, List.nil_append,
    endTag, if_pos rfl]
  rfl

theorem flush_escape {value : String} (h : value ≠ "") (inside : List Markup) :
    flush inside (escape value) = some (inside ++ [.text value]) := by
  rw [flush, if_neg (mt escape_eq_nil_iff.1 h), unescape_escape, Option.map_some,
    String.ofList_toList]

end Scan

open Scan

mutual

/-- An element is read as itself, behind the text that stands before it. -/
theorem run_chars (m : Markup) (hm : Tidy extra m) (hn : isText m = false) (around : List Frame)
    {inside inside' : List Markup} {t : List Char} (hf : flush inside t = some inside') :
    run ⟨around, inside, .text t⟩ m.chars = some ⟨around, inside' ++ [m], .text []⟩ := by
  match m with
  | .text _ => cases hn
  | .closed tag attributes => exact run_closed around hf hm.tag hm.names
  | .element tag attributes children =>
    obtain ⟨⟨ht, ha, -, -⟩, hc⟩ := hm
    have hstart : flush [] [] = some [] := rfl
    obtain ⟨i, t', hrun, hflush⟩ :=
      run_charsOfAll children hc (⟨tag, attributes, inside'⟩ :: around) hstart (.inr rfl)
    have hchars : chars (.element tag attributes children) =
        (openingChars tag attributes ++ ['>']) ++ (charsOfAll children ++ closingChars tag) := by
      simp [chars]
    rw [hchars, run_append, run_element_start around hf ht ha, Option.bind_some, run_append, hrun,
      Option.bind_some, run_closing hflush ht, List.nil_append]

/-- A list of trees is read as itself; a text at its end is still open. -/
theorem run_charsOfAll (ms : List Markup) (hms : TidyAll extra ms) (around : List Frame)
    {inside inside' : List Markup} {t : List Char} (hf : flush inside t = some inside')
    (ht : startsWithText ms = false ∨ t = []) :
    ∃ i t', run ⟨around, inside, .text t⟩ (charsOfAll ms) = some ⟨around, i, .text t'⟩ ∧
      flush i t' = some (inside' ++ ms) := by
  match ms with
  | [] => exact ⟨inside, t, rfl, by rw [hf, List.append_nil]⟩
  | m :: ms =>
    obtain ⟨hm, hms, hnext⟩ := hms
    by_cases htext : isText m = true
    · -- The text stays open, and nothing but an element can come after it.
      obtain ⟨value, rfl⟩ := exists_of_isText htext
      obtain rfl : t = [] := ht.resolve_left (by simp [startsWithText, isText])
      obtain rfl : inside = inside' := Option.some.inj hf
      have hless : '<' ∉ escape value := fun h => (mem_escape h).1 rfl
      obtain ⟨i, t', hrun, hflush⟩ :=
        run_charsOfAll ms hms around (flush_escape hm.1 inside) (.inl (hnext rfl))
      refine ⟨i, t', ?_, by rw [hflush, List.append_assoc, List.singleton_append]⟩
      rw [charsOfAll, chars, run_append, run_text hless, Option.bind_some, List.nil_append, hrun]
    · have helement : isText m = false := by simpa using htext
      have hrest : flush (inside' ++ [m]) [] = some (inside' ++ [m]) := rfl
      obtain ⟨i, t', hrun, hflush⟩ := run_charsOfAll ms hms around hrest (.inr rfl)
      refine ⟨i, t', ?_, by rw [hflush, List.append_assoc, List.singleton_append]⟩
      rw [charsOfAll, run_append, run_chars m hm helement around hf, Option.bind_some, hrun]

end

theorem read?_chars {m : Markup} (hm : Tidy extra m) (hn : isText m = false) :
    read? (m.chars ++ ['\n']) = some m := by
  have hstart : flush [] [] = some [] := rfl
  have hless : '<' ∉ ['\n'] := by decide
  rw [read?, run_append, run_chars m hm hn [] hstart, Option.bind_some, run_text hless]
  rfl

end Bata.Markup
