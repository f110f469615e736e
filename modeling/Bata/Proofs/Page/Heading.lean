import Bata.Proofs.Page.Table
import Bata.Proofs.Text.Basic

namespace Bata

namespace Markup

open Text

def openingMark (tag : String) : List Char :=
  '<' :: (tag.toList ++ ['>'])

theorem chars_text (value : String) : chars (.text value) = escape value := rfl

theorem chars_plain (tag : String) (ms : List Markup) :
    chars (.element tag [] ms) = openingMark tag ++ (charsOfAll ms ++ closingChars tag) := by
  simp [chars, openingChars, openingMark]

theorem charsOfAll_onLines (ms : List Markup) :
    charsOfAll (onLines ms) = ms.flatMap (fun m => '\n' :: m.chars) ++ ['\n'] := by
  have hnewline : escape "\n" = ['\n'] := by decide
  induction ms with
  | nil => simp [onLines, charsOfAll, chars, hnewline]
  | cons m ms ih => simp [onLines_cons, charsOfAll, chars, hnewline, ih]

theorem avoids_escape (tag value : String) : Avoids (openingMark tag) (escape value) :=
  avoids_of_not_mem fun h => (mem_escape h).1 rfl

theorem takeWhile_tag {tag : String} (ht : IsTagName tag) {c : Char} (hc : c = ' ' ∨ c = '>')
    (rest : List Char) :
    (tag.toList ++ c :: rest).takeWhile (fun c => c ≠ ' ' ∧ c ≠ '>') = tag.toList := by
  have hname : ∀ d ∈ tag.toList, decide (d ≠ ' ' ∧ d ≠ '>') = true := by
    intro d hd
    have hblank : d ≠ ' ' := fun he => ht.not_mem (c := ' ') (by decide) (he ▸ hd)
    have hend : d ≠ '>' := fun he => ht.not_mem (c := '>') (by decide) (he ▸ hd)
    exact decide_eq_true ⟨hblank, hend⟩
  have hstop : decide (c ≠ ' ' ∧ c ≠ '>') = false := by
    rcases hc with rfl | rfl <;> decide
  rw [List.takeWhile_append_of_pos hname, List.takeWhile_cons_of_neg (by simp [hstop]),
    List.append_nil]

theorem exists_after_name (attributes : List (String × String)) {ending : List Char}
    (he : ending = ['>'] ∨ ending = [' ', '/', '>']) :
    ∃ c rest, attributes.flatMap attributeChars ++ ending = c :: rest ∧ (c = ' ' ∨ c = '>') := by
  cases attributes with
  | nil =>
    rcases he with rfl | rfl
    · exact ⟨'>', [], rfl, .inr rfl⟩
    · exact ⟨' ', ['/', '>'], rfl, .inl rfl⟩
  | cons a attributes => exact ⟨' ', _, rfl, .inl rfl⟩

theorem avoids_opening {tag name : String} (ht : IsTagName tag) (hn : IsTagName name)
    (hne : name ≠ tag) {attributes : List (String × String)}
    (ha : ∀ a ∈ attributes, IsTagName a.1) {ending : List Char}
    (he : ending = ['>'] ∨ ending = [' ', '/', '>']) :
    Avoids (openingMark tag) (openingChars name attributes ++ ending) := by
  obtain ⟨c, rest, hrest, hc⟩ := exists_after_name attributes he
  have hless : '<' ∉ name.toList ++ (attributes.flatMap attributeChars ++ ending) := by
    have hending : '<' ∉ ending := by rcases he with rfl | rfl <;> decide
    simp only [List.mem_append, not_or]
    exact ⟨hn.not_mem (by decide), bracket_not_mem_attributes ha (.inl rfl), hending⟩
  have hchars : openingChars name attributes ++ ending =
      '<' :: (name.toList ++ (attributes.flatMap attributeChars ++ ending)) := by
    simp [openingChars]
  rw [hchars]
  refine Avoids.cons ?_ (avoids_of_not_mem hless)
  -- the two names would have to be the same up to where they end
  rintro ys ⟨v, hsplit⟩
  rw [openingMark, List.cons_append, List.cons.injEq, hrest] at hsplit
  have hnames := congrArg (List.takeWhile fun c => c ≠ ' ' ∧ c ≠ '>') hsplit.2
  rw [List.append_assoc, List.append_assoc, List.singleton_append, List.cons_append,
    takeWhile_tag ht (.inr rfl), takeWhile_tag hn hc] at hnames
  exact hne (String.toList_inj.1 hnames.symm)

theorem avoids_openingMark {tag name : String} (ht : IsTagName tag) (hn : IsTagName name)
    (hne : name ≠ tag) : Avoids (openingMark tag) (openingMark name) := by
  have hchars : openingMark name = openingChars name [] ++ ['>'] := by
    simp [openingMark, openingChars]
  rw [hchars]
  exact avoids_opening ht hn hne (List.forall_mem_nil _) (.inl rfl)

theorem avoids_closing {tag name : String} (ht : IsTagName tag) (hn : IsTagName name) :
    Avoids (openingMark tag) (closingChars name) := by
  have hless : '<' ∉ '/' :: (name.toList ++ ['>']) := by
    simpa using hn.not_mem (c := '<') (by decide)
  have hchars : closingChars name = '<' :: '/' :: (name.toList ++ ['>']) := by
    simp [closingChars]
  rw [hchars]
  refine Avoids.cons ?_ (avoids_of_not_mem hless)
  rintro ys ⟨v, hsplit⟩
  obtain ⟨c, cs, hcs, hc⟩ := exists_cons_of_isTagName ht
  simp only [openingMark, hcs, List.cons_append, List.cons.injEq] at hsplit
  exact hc hsplit.2.1

mutual

/-- A tag only stands where an element of its name is written. -/
theorem avoids_chars {extra : List Char} {tag : String} (ht : IsTagName tag) (m : Markup)
    (hm : Tidy extra m) (h : m.elements tag = []) : Avoids (openingMark tag) m.chars := by
  match m with
  | .text value => exact avoids_escape tag value
  | .closed name attributes =>
    have hne : name ≠ tag := by
      rintro rfl
      simp [elements] at h
    exact avoids_opening ht hm.tag hne hm.names (.inr rfl)
  | .element name attributes children =>
    have hne : name ≠ tag := by
      rintro rfl
      simp [elements] at h
    rw [elements, if_neg hne] at h
    have hopening := avoids_opening ht hm.1.tag hne hm.1.names (.inl rfl)
    have hinside := avoids_charsOfAll ht children hm.2 h
    have hchars : chars (.element name attributes children) =
        (openingChars name attributes ++ ['>']) ++ (charsOfAll children ++ closingChars name) := by
      simp [chars]
    rw [hchars]
    exact hopening.append (hinside.append (avoids_closing ht hm.1.tag))

theorem avoids_charsOfAll {extra : List Char} {tag : String} (ht : IsTagName tag)
    (ms : List Markup) (hms : TidyAll extra ms) (h : elementsOfAll tag ms = []) :
    Avoids (openingMark tag) (charsOfAll ms) := by
  match ms with
  | [] => exact avoids_nil _
  | m :: ms =>
    rw [elementsOfAll, List.append_eq_nil_iff] at h
    rw [charsOfAll]
    exact (avoids_chars ht m hms.1 h.1).append (avoids_charsOfAll ht ms hms.2.1 h.2)

end

/-- What stands for a text in a page: without brackets and quotation marks, with an entity at every
ampersand, and with nothing lost. -/
structure StandsFor (cs : List Char) (s : String) : Prop where
  plain : ∀ c ∈ cs, c ∉ ['<', '>', '"', '\'']
  entity : ∀ rest, '&' :: rest <:+ cs → ∃ e ∈ entities, e.toList <+: '&' :: rest
  unescaped : unescape cs = some s.toList

theorem standsFor_escape (s : String) : StandsFor (escape s) s := by
  refine ⟨?_, fun _ => exists_entity_of_ampersand, unescape_escape s⟩
  intro c hc
  simpa using mem_escape hc

end Markup

open Markup Text

namespace Page

def beforeTitle : List Char :=
  openingMark "html" ++ '\n' :: (head.chars ++ '\n' :: (openingMark "body" ++ ['\n']))

def afterLegendMark : List Char :=
  escape "Legenda dei simboli:" ++ (closingChars "h3" ++ '\n' :: (legendBox.chars ++
    '\n' :: (closingChars "body" ++ '\n' :: (closingChars "html" ++ ['\n']))))

theorem chars_page (c : Chart) :
    c.page.chars ++ ['\n'] =
      beforeTitle ++ (openingMark "h2" ++ (escape c.title ++ (closingChars "h2" ++
        '\n' :: ((table c).chars ++ '\n' :: (openingMark "h3" ++ afterLegendMark))))) := by
  simp only [Chart.page, body, beforeTitle, afterLegendMark, chars_plain, charsOfAll_onLines,
    charsOfAll, chars_text, List.flatMap_cons, List.flatMap_nil, List.append_assoc,
    List.cons_append, List.nil_append, List.append_nil]

theorem isTagName_of_heading {tag : String} (h : tag = "h2" ∨ tag = "h3") : IsTagName tag := by
  rcases h with rfl | rfl <;> decide

theorem elements_row_of_heading {tag : String} (h : tag = "h2" ∨ tag = "h3")
    (attributes : List (String × String)) {ms : List Markup} (hms : ∀ m ∈ ms, elements tag m = []) :
    elements tag (.element "tr" attributes (onLines ms)) = [] := by
  have hne : "tr" ≠ tag := by rcases h with rfl | rfl <;> decide
  rw [elements, if_neg hne, elementsOfAll_onLines, List.flatMap_eq_nil_iff.2 hms]

theorem elements_table_of_heading (c : Chart) {tag : String} (h : tag = "h2" ∨ tag = "h3") :
    elements tag (table c) = [] := by
  have hupper : ∀ x, elements tag (upperCell x) = [] := by
    rintro ⟨barEnd, content⟩
    rcases h with rfl | rfl <;> cases content <;> rfl
  have hlower : ∀ x, elements tag (lowerCell x) = [] := by
    rcases h with rfl | rfl <;> exact fun _ => rfl
  have hstroke : ∀ fill x, elements tag (strokeCell fill x) = [] := by
    rintro fill ⟨barEnd, s⟩
    rcases h with rfl | rfl <;> cases s <;> rfl
  have hcounts : ∀ kind label cells, (∀ m ∈ cells, elements tag m = []) →
      elements tag (countingRow kind label cells) = [] := by
    intro kind label cells hcells
    have hlabel : elements tag (.element "td" [("class", "count-label")] [.text label]) = [] := by
      rcases h with rfl | rfl <;> rfl
    exact elements_row_of_heading h _ (List.forall_mem_cons.2 ⟨hlabel, hcells⟩)
  have hdrum : ∀ d, elements tag (strokeRow d (c.row d)) = [] := by
    intro d
    have hlabel : elements tag (.element "td" [] [.element "b" [] [.text d.name]]) = [] := by
      rcases h with rfl | rfl <;> rfl
    exact elements_row_of_heading h _
      (List.forall_mem_cons.2 ⟨hlabel, List.forall_mem_map.2 fun x _ => hstroke _ x⟩)
  have htable : "table" ≠ tag := by rcases h with rfl | rfl <;> decide
  rw [table, elements, if_neg htable]
  simp [Drum.all, elementsOfAll, elements, hdrum,
    hcounts _ _ _ (List.forall_mem_map.2 fun x _ => hupper x),
    hcounts _ _ _ (List.forall_mem_map.2 fun x _ => hlower x)]

theorem avoids_beforeTitle {tag : String} (h : tag = "h2" ∨ tag = "h3") :
    Avoids (openingMark tag) beforeTitle := by
  have ht := isTagName_of_heading h
  have hnewline : Avoids (openingMark tag) ['\n'] := avoids_of_not_mem (by decide)
  have hhtml : Avoids (openingMark tag) (openingMark "html") :=
    avoids_openingMark ht (by decide) (by rcases h with rfl | rfl <;> decide)
  have hbody : Avoids (openingMark tag) (openingMark "body") :=
    avoids_openingMark ht (by decide) (by rcases h with rfl | rfl <;> decide)
  have htidy : Tidy [] head := tidy_head
  have hhead : Avoids (openingMark tag) head.chars :=
    avoids_chars ht head htidy (by rcases h with rfl | rfl <;> rfl)
  exact hhtml.append (hnewline.append (hhead.append (hnewline.append (hbody.append hnewline))))

theorem avoids_afterLegendMark {tag : String} (h : tag = "h2" ∨ tag = "h3") :
    Avoids (openingMark tag) afterLegendMark := by
  have ht := isTagName_of_heading h
  have hnewline : Avoids (openingMark tag) ['\n'] := avoids_of_not_mem (by decide)
  have htidy : Tidy [] legendBox := tidy_legendBox
  have hlegend : Avoids (openingMark tag) legendBox.chars :=
    avoids_chars ht legendBox htidy (by rcases h with rfl | rfl <;> rfl)
  have hclosing : ∀ name, IsTagName name → Avoids (openingMark tag) (closingChars name ++ ['\n']) :=
    fun _ hn => (avoids_closing ht hn).append hnewline
  have hend := (hclosing "body" (by decide)).append (hclosing "html" (by decide))
  have hbox := hlegend.append (hnewline.append hend)
  have htitle := (avoids_escape tag "Legenda dei simboli:").append
    ((hclosing "h3" (by decide)).append hbox)
  simpa [afterLegendMark] using htitle

end Page

namespace Toque

/-- The one `<h2>` of a document, with what stands before it, what stands between it and the first
`</h2>` after it, and what stands after that. -/
structure HasHeading (document before inside after : List Char) : Prop where
  split : document = before ++ ("<h2>".toList ++ (inside ++ ("</h2>".toList ++ after)))
  only : ∀ u v, document = u ++ ("<h2>".toList ++ v) → u = before
  first : ∀ u v, inside ++ ("</h2>".toList ++ after) = u ++ ("</h2>".toList ++ v) → inside <+: u

def afterTitle (t : Toque) : List Char :=
  '\n' :: ((Page.table t.chart).chars ++ '\n' :: (openingMark "h3" ++ Page.afterLegendMark))

def upToLegend (t : Toque) : List Char :=
  Page.beforeTitle ++ (openingMark "h2" ++ (escape t.title ++ (closingChars "h2" ++
    '\n' :: ((Page.table t.chart).chars ++ ['\n']))))

theorem toList_document (t : Toque) :
    t.document.toList = Page.beforeTitle ++ (openingMark "h2" ++ (escape t.title ++
      (closingChars "h2" ++ t.afterTitle))) := by
  rw [document, String.toList_ofList, Page.chars_page]
  rfl

theorem avoids_table (t : Toque) {tag : String} (h : tag = "h2" ∨ tag = "h3") :
    Avoids (openingMark tag) (Page.table t.chart).chars := by
  have htidy : Tidy [] (Page.table t.chart) := t.tidy_table
  exact avoids_chars (Page.isTagName_of_heading h) _ htidy
    (Page.elements_table_of_heading t.chart h)

theorem hasHeading_document (t : Toque) :
    HasHeading t.document.toList Page.beforeTitle (escape t.title) t.afterTitle := by
  have hopen : "<h2>".toList = openingMark "h2" := by decide
  have hclose : "</h2>".toList = closingChars "h2" := by decide
  have htag : IsTagName "h2" := by decide
  have hnewline : Avoids (openingMark "h2") ['\n'] := avoids_of_not_mem (by decide)
  have hlegend : Avoids (openingMark "h2") (openingMark "h3") :=
    avoids_openingMark htag (by decide) (by decide)
  have hafter : Avoids (openingMark "h2") t.afterTitle :=
    hnewline.append ((t.avoids_table (.inl rfl)).append (hnewline.append
      (hlegend.append (Page.avoids_afterLegendMark (.inl rfl)))))
  have hrest : Avoids (openingMark "h2") (escape t.title ++ (closingChars "h2" ++ t.afterTitle)) :=
    (avoids_escape "h2" t.title).append ((avoids_closing htag htag).append hafter)
  rw [toList_document]
  refine ⟨by rw [hopen, hclose], ?_, ?_⟩
  · intro u v h
    rw [hopen] at h
    exact eq_of_avoids (by decide) (Page.avoids_beforeTitle (.inl rfl)) hrest h
  · intro u v h
    have hless : Avoids ('<' :: "/h2>".toList) (escape t.title) :=
      avoids_of_not_mem fun hm => (mem_escape hm).1 rfl
    exact hless _ u v h

/-- From the legend's heading on, all documents are one text. -/
theorem dropInfix?_document (t : Toque) :
    t.document.toList.dropInfix? "<h3>".toList = some (t.upToLegend, Page.afterLegendMark) := by
  have hopen : "<h3>".toList = openingMark "h3" := by decide
  have htag : IsTagName "h3" := by decide
  have hnewline : Avoids (openingMark "h3") ['\n'] := avoids_of_not_mem (by decide)
  have htitle : Avoids (openingMark "h3") (openingMark "h2") :=
    avoids_openingMark htag (by decide) (by decide)
  have hfront : Avoids (openingMark "h3") t.upToLegend :=
    (Page.avoids_beforeTitle (.inr rfl)).append (htitle.append
      ((avoids_escape "h3" t.title).append ((avoids_closing htag (by decide)).append
        (hnewline.append ((t.avoids_table (.inr rfl)).append hnewline)))))
  have hchars : t.document.toList = t.upToLegend ++ (openingMark "h3" ++ Page.afterLegendMark) := by
    simp [toList_document, upToLegend, afterTitle]
  rw [hopen, hchars, dropInfix?_of_avoids hfront]

theorem afterTitle_congr {a b : Toque} (hparts : a.parts = b.parts) (hmeter : a.meter = b.meter) :
    a.afterTitle = b.afterTitle := by
  simp only [afterTitle, Page.table, chart, ruling, strokes, columns, part, hparts, hmeter]

/-- Toques that differ in their names and signatures only have documents that differ between the one
`<h2>` and its end only. What stands there is the title and cannot be taken for markup. The legend
is the same in all documents. -/
theorem title_stays_in_heading :
    (∀ a b : Toque, a.parts = b.parts → a.meter = b.meter →
      ∃ before inside inside' after,
        HasHeading a.document.toList before inside after ∧
        HasHeading b.document.toList before inside' after ∧
        StandsFor inside (a.name ++ " in " ++ a.timeSignature) ∧
        StandsFor inside' (b.name ++ " in " ++ b.timeSignature)) ∧
      ∀ t : Toque, ∃ front,
        t.document.toList.dropInfix? "<h3>".toList = some (front, Page.afterLegendMark) := by
  refine ⟨?_, fun t => ⟨_, t.dropInfix?_document⟩⟩
  intro a b hparts hmeter
  have hb := b.hasHeading_document
  rw [← afterTitle_congr hparts hmeter] at hb
  exact ⟨_, _, _, _, a.hasHeading_document, hb, standsFor_escape _, standsFor_escape _⟩

/-- A title full of markup against an empty one. -/
theorem title_stays_in_heading_hostile :
    (⟨"</h2>\x7b\x7btitle\x7d\x7d & \"co\"", "3/4", ⟨none, some "AX-", none⟩⟩ : Toque).meter =
        (⟨"", "", ⟨none, some "AX-", none⟩⟩ : Toque).meter ∧
      ∃ before inside inside' after,
        HasHeading (document ⟨"</h2>\x7b\x7btitle\x7d\x7d & \"co\"", "3/4",
          ⟨none, some "AX-", none⟩⟩).toList before inside after ∧
        HasHeading (document ⟨"", "", ⟨none, some "AX-", none⟩⟩).toList before inside' after ∧
        StandsFor inside "</h2>\x7b\x7btitle\x7d\x7d & \"co\" in 3/4" ∧
        StandsFor inside' " in " :=
  ⟨by decide, title_stays_in_heading.1 _ _ rfl (by decide)⟩

end Toque

end Bata
