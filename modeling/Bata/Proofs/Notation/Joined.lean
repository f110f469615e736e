import Bata.Proofs.Notation.Label
import Bata.Proofs.Notation.Spacing

namespace Bata.Notation

def StartsSection (ls : List (List Char)) : Prop :=
  ∀ l ∈ ls.head?, ∃ d, IsHeading d l

theorem sectionOf_append (xs ys : List (List Char)) :
    sectionOf (xs ++ ys) = (sectionOf ys).or (sectionOf xs) := by
  rw [sectionOf, List.filterMap_append, List.getLast?_append]
  rfl

theorem sectionOf_cons_isSome {l : List Char} {d : Drum} (h : IsHeading d l)
    (ls : List (List Char)) : (sectionOf (l :: ls)).isSome := by
  rw [sectionOf, List.filterMap_cons_some (heading?_eq_some_iff.2 h)]
  simp

theorem contentLines_concat_of_isHeading {e : Drum} {l : List Char} (h : IsHeading e l)
    (ls : List (List Char)) (d : Drum) : contentLines (ls ++ [l]) d = contentLines ls d := by
  rw [contentLines_concat, if_neg fun hc => hc.1.2.2 e (Drum.mem_all e) h, List.append_nil]

/-- Content lines under a heading do not depend on the lines above it. -/
theorem contentLines_append {ys : List (List Char)} (h : StartsSection ys)
    (xs : List (List Char)) (d : Drum) :
    contentLines (xs ++ ys) d = contentLines xs d ++ contentLines ys d := by
  cases ys with
  | nil => simp [contentLines]
  | cons y ys =>
    obtain ⟨e, he⟩ := h y rfl
    clear h
    -- from the end, as a line belongs to the last heading before it
    induction ys using List.reverseRecOn with
    | nil =>
      have hnil : contentLines [y] d = [] := contentLines_concat_of_isHeading he [] d
      rw [contentLines_concat_of_isHeading he, hnil, List.append_nil]
    | append_singleton ys l ih =>
      obtain ⟨f, hf⟩ := Option.isSome_iff_exists.1 (sectionOf_cons_isSome he ys)
      have hsection : sectionOf (xs ++ y :: ys) = sectionOf (y :: ys) := by
        rw [sectionOf_append, hf, Option.some_or]
      rw [← List.cons_append, ← List.append_assoc, contentLines_concat, ih, hsection,
        contentLines_concat, List.append_assoc]

theorem elim_getLast?_filter_append {p : List Char → Prop} [DecidablePred p]
    (xs ys : List (List Char)) (start later : String) (value : List Char → String) :
    ((xs ++ ys).filter p).getLast?.elim start value =
      if ∃ l ∈ ys, p l then (ys.filter p).getLast?.elim later value
      else (xs.filter p).getLast?.elim start value := by
  rw [List.filter_append, List.getLast?_append]
  split_ifs with h
  · obtain ⟨l, hl, hp⟩ := h
    have hne : ys.filter p ≠ [] := List.ne_nil_of_mem (List.mem_filter.2 ⟨hl, by simpa using hp⟩)
    rw [List.getLast?_eq_some_getLast hne]
    rfl
  · have hnil : ys.filter p = [] := by
      rw [List.filter_eq_nil_iff]
      exact fun l hl hp => h ⟨l, hl, by simpa using hp⟩
    rw [hnil]
    rfl

theorem isSignature_of_isHeading {d : Drum} {l : List Char} (h : IsHeading d l) :
    isSignature l = false := by
  rw [h.eq_name]
  cases d <;> exact isSignature_cons (by decide) _

theorem StartsSection.not_isSignature {ls : List (List Char)} (h : StartsSection ls) :
    ∀ l ∈ ls.head?, isSignature l = false := by
  intro l hl
  obtain ⟨d, hd⟩ := h l hl
  exact isSignature_of_isHeading hd

theorem readFilled_of_not_isSignature {ls : List (List Char)}
    (h : ∀ l ∈ ls.head?, isSignature l = false) : readFilled ls = readLines .blank ls := by
  cases ls with
  | nil => rfl
  | cons l ls => rw [readFilled, if_neg (by simp [h l rfl])]

/-- Whatever lines come first, the others are read on from a start that only the first ones set. -/
theorem exists_readFilled_append (xs : List (List Char)) :
    ∃ start rest, start.parts = .blank ∧ ∀ ys, StartsSection ys →
      readFilled (xs ++ ys) = readLines start (rest ++ ys) := by
  cases xs with
  | nil => exact ⟨.blank, [], rfl, fun ys h => readFilled_of_not_isSignature h.not_isSignature⟩
  | cons x xs =>
    cases hx : isSignature x with
    | true =>
      exact ⟨{ Toque.blank with timeSignature := String.ofList x }, xs, rfl,
        fun ys _ => readFilled_signature hx (xs ++ ys)⟩
    | false =>
      refine ⟨.blank, x :: xs, rfl, fun ys _ => readFilled_of_not_isSignature ?_⟩
      rintro _ ⟨rfl⟩
      exact hx

section readLines

variable {start : Toque} (h : start.parts = .blank) (xs ys : List (List Char))
include h

theorem part_readLines_append (hys : StartsSection ys) (d : Drum) :
    (readLines start (xs ++ ys)).part d =
      (readLines start xs).part d ++ (readLines .blank ys).part d := by
  rw [part_readLines h, part_readLines h, part_readLines rfl, contentLines_append hys,
    List.flatten_append, String.ofList_append]

theorem name_readLines_append :
    (readLines start (xs ++ ys)).name =
      if ∃ l ∈ ys, IsName l then (readLines .blank ys).name else (readLines start xs).name := by
  rw [name_readLines h, name_readLines h, name_readLines rfl]
  exact elim_getLast?_filter_append _ _ _ _ _

theorem timeSignature_readLines_append :
    (readLines start (xs ++ ys)).timeSignature =
      if ∃ l ∈ ys, IsTime l then (readLines .blank ys).timeSignature
      else (readLines start xs).timeSignature := by
  rw [timeSignature_readLines h, timeSignature_readLines h, timeSignature_readLines rfl]
  exact elim_getLast?_filter_append _ _ _ _ _

end readLines

theorem isTime_iff {l : List Char} : IsTime l ↔ timeLabel.toList <+: l := by
  refine ⟨fun h => h.2, ?_⟩
  rintro ⟨value, rfl⟩
  exact isTime_append value

theorem exists_mem_filledLines_iff {text : String} {p : List Char → Prop} (h : ¬p []) :
    (∃ l ∈ filledLines text, p l) ↔ ∃ l ∈ trimmedLines text, p l := by
  constructor
  · rintro ⟨l, hl, hp⟩
    exact ⟨l, List.mem_of_mem_filter hl, hp⟩
  · rintro ⟨l, hl, hp⟩
    have hne : l ≠ [] := fun he => h (he ▸ hp)
    exact ⟨l, List.mem_filter.2 ⟨hl, by simpa using hne⟩, hp⟩

theorem filledLines_append {a : String} (h : OpensLine a.toList) (b : String) :
    filledLines (a ++ b) = filledLines a ++ filledLines b := by
  rw [filledLines_eq_filledPieces, filledLines_eq_filledPieces, filledLines_eq_filledPieces,
    String.toList_append, filledPieces_append_of_opensLine h]

theorem startsSection_of_head {ls : List (List Char)} {d : Drum}
    (h : ls.head? = some d.name.toList) : StartsSection ls := by
  intro l hl
  rw [h] at hl
  obtain rfl := Option.some.inj hl
  exact ⟨d, isHeading_name d⟩

theorem exists_ofText_append {a b : String} (ha : OpensLine a.toList)
    (hb : StartsSection (filledLines b)) :
    ∃ start rest, start.parts = .blank ∧ Toque.ofText a = readLines start rest ∧
      Toque.ofText b = readLines .blank (filledLines b) ∧
      Toque.ofText (a ++ b) = readLines start (rest ++ filledLines b) := by
  obtain ⟨start, rest, hblank, hread⟩ := exists_readFilled_append (filledLines a)
  refine ⟨start, rest, hblank, ?_, ?_, ?_⟩
  · have hnone := hread [] (by simp [StartsSection])
    rwa [List.append_nil, List.append_nil, ← ofText_eq_readFilled] at hnone
  · rw [ofText_eq_readFilled, readFilled_of_not_isSignature hb.not_isSignature]
  · rw [ofText_eq_readFilled, filledLines_append ha, hread _ hb]

theorem header_append {a : String} (ha : OpensLine a.toList)
    (hfilled : ∃ l ∈ trimmedLines a, l ≠ []) (b : String) :
    Header.ofText (a ++ b) = Header.ofText a := by
  obtain ⟨l, hl, -⟩ := (exists_mem_filledLines_iff (p := (· ≠ [])) (by simp)).2 hfilled
  apply header_eq_of_head
  rw [filledLines_append ha, List.head?_append_of_ne_nil _ (List.ne_nil_of_mem hl)]

/-- A text that starts with a heading adds to each part and replaces the headers that it has. -/
theorem ofText_append {a b : String} (ha : OpensLine a.toList) {d : Drum}
    (hb : (filledLines b).head? = some d.name.toList) :
    (∀ e, (Toque.ofText (a ++ b)).part e = (Toque.ofText a).part e ++ (Toque.ofText b).part e) ∧
      (Toque.ofText (a ++ b)).name =
        (if ∃ l ∈ trimmedLines b, nameLabel.toList <+: l then (Toque.ofText b).name
        else (Toque.ofText a).name) ∧
      (Toque.ofText (a ++ b)).timeSignature =
        (if ∃ l ∈ trimmedLines b, timeLabel.toList <+: l then (Toque.ofText b).timeSignature
        else (Toque.ofText a).timeSignature) ∧
      ((∃ l ∈ trimmedLines a, l ≠ []) → Header.ofText (a ++ b) = Header.ofText a) := by
  have hstarts : StartsSection (filledLines b) := startsSection_of_head hb
  obtain ⟨start, rest, hblank, hfirst, hsecond, hboth⟩ := exists_ofText_append ha hstarts
  have hname : (∃ l ∈ trimmedLines b, nameLabel.toList <+: l) ↔ ∃ l ∈ filledLines b, IsName l :=
    (exists_mem_filledLines_iff (p := IsName) (by decide)).symm
  have htime : (∃ l ∈ trimmedLines b, timeLabel.toList <+: l) ↔ ∃ l ∈ filledLines b, IsTime l := by
    rw [exists_mem_filledLines_iff (p := IsTime) (by decide)]
    simp only [isTime_iff]
  rw [hfirst, hsecond, hboth]
  simp only [hname, htime]
  exact ⟨part_readLines_append hblank rest _ hstarts, name_readLines_append hblank rest _,
    timeSignature_readLines_append hblank rest _, fun hfilled => header_append ha hfilled b⟩

theorem ofText_append_to_bare_signature :
    (OpensLine "4/4\nToque: Uno\nIya\nA\n".toList ∧
        (filledLines "\n Iya\nP\nTime: 6/8").head? = some Drum.iya.name.toList ∧
        ∃ l ∈ trimmedLines "4/4\nToque: Uno\nIya\nA\n", l ≠ []) ∧
      (Toque.ofText ("4/4\nToque: Uno\nIya\nA\n" ++ "\n Iya\nP\nTime: 6/8")).part .iya =
        (Toque.ofText "4/4\nToque: Uno\nIya\nA\n").part .iya ++
          (Toque.ofText "\n Iya\nP\nTime: 6/8").part .iya ∧
      Header.ofText ("4/4\nToque: Uno\nIya\nA\n" ++ "\n Iya\nP\nTime: 6/8") =
        Header.ofText "4/4\nToque: Uno\nIya\nA\n" := by
  have hopens : OpensLine "4/4\nToque: Uno\nIya\nA\n".toList := .inr (by decide)
  have hhead : (filledLines "\n Iya\nP\nTime: 6/8").head? = some Drum.iya.name.toList := by decide
  have hfilled : ∃ l ∈ trimmedLines "4/4\nToque: Uno\nIya\nA\n", l ≠ [] := by decide
  obtain ⟨hparts, -, -, hheader⟩ := ofText_append hopens hhead
  exact ⟨⟨hopens, hhead, hfilled⟩, hparts .iya, hheader hfilled⟩

end Bata.Notation
