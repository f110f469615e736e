import Bata.Proofs.Notation.Sections
import Bata.Proofs.Text.Basic

namespace Bata.Notation

/-- No line feed, and no white space at the ends. -/
structure FitsLine (cs : List Char) : Prop where
  newline : '\n' ∉ cs
  trimmed : Text.trim cs = cs

structure IsWritable (t : Toque) : Prop where
  name : FitsLine t.name.toList
  time : FitsLine t.timeSignature.toList
  entry : ∀ d, (t.parts.get? d).isSome
  part : ∀ d, FitsLine (t.part d).toList

/-- One line, unless it would be read as a header or a heading: then its first symbol has a line of
its own. -/
def partLines (cs : List Char) : List (List Char) :=
  if IsContent cs then [cs] else [cs.take 1, cs.drop 1]

def sectionLines (t : Toque) (d : Drum) : List (List Char) :=
  d.name.toList :: partLines (t.part d).toList

def writtenLines (t : Toque) : List (List Char) :=
  (nameLabel.toList ++ t.name.toList) :: (timeLabel.toList ++ t.timeSignature.toList) ::
    Drum.all.flatMap (sectionLines t)

def write (t : Toque) : String :=
  String.ofList ((writtenLines t).flatMap (· ++ ['\n']))

theorem fitsLine_nil : FitsLine [] :=
  ⟨List.not_mem_nil, rfl⟩

theorem fitsLine_trim {cs : List Char} (h : '\n' ∉ cs) : FitsLine (Text.trim cs) :=
  ⟨fun hn => h (Text.mem_of_mem_trim hn), Text.trim_trim cs⟩

theorem FitsLine.append {xs ys : List Char} (hx : FitsLine xs) (hy : FitsLine ys) :
    FitsLine (xs ++ ys) :=
  ⟨by simp [hx.newline, hy.newline], Text.trim_append hx.trimmed hy.trimmed⟩

theorem fitsLine_of_mem_trimmedLines {text : String} {l : List Char}
    (h : l ∈ trimmedLines text) : FitsLine l := by
  obtain ⟨l', hl', rfl⟩ := List.mem_map.1 h
  exact fitsLine_trim (Text.newline_not_mem_of_mem_lines hl')

theorem fitsLine_valueAfter {label : String} {l : List Char} (h : FitsLine l) :
    FitsLine (valueAfter label l).toList := by
  rw [valueAfter, String.toList_ofList]
  exact fitsLine_trim fun hn => h.newline (List.mem_of_mem_drop hn)

theorem isWritable_blank {signature : List Char} (h : FitsLine signature) :
    IsWritable { Toque.blank with timeSignature := String.ofList signature } where
  name := fitsLine_nil
  time := by simpa using h
  entry d := by cases d <;> rfl
  part d := by cases d <;> exact fitsLine_nil

/-- A part grows by trimmed lines, and what they are joined to is trimmed again. -/
theorem IsWritable.next {r : Reading} {l : List Char} (h : IsWritable r.toque) (hl : FitsLine l) :
    IsWritable (r.next (Line.ofChars l)).toque := by
  rcases isName_or_isTime_or_isHeading_or_isContent l with hk | hk | ⟨d, hk⟩ | hk
  · rw [ofChars_of_isName hk]
    exact { h with name := fitsLine_valueAfter hl }
  · rw [ofChars_of_isTime hk]
    exact { h with time := fitsLine_valueAfter hl }
  · rw [ofChars_of_isHeading hk]
    exact h
  · rw [ofChars_of_isContent hk]
    cases hd : r.drum? with
    | none => simpa [Reading.next, hd] using h
    | some d =>
      simp only [Reading.next, hd]
      refine ⟨h.name, h.time, ?_, ?_⟩
      · intro e
        rw [Parts.get?_append]
        split
        · rfl
        · exact h.entry e
      · intro e
        simp only [Toque.part, Parts.get?_append]
        split
        · have hp := (h.part d).append hl
          simpa [Toque.part] using hp
        · exact h.part e

theorem IsWritable.foldl {ls : List (List Char)} (hls : ∀ l ∈ ls, FitsLine l) {r : Reading}
    (h : IsWritable r.toque) : IsWritable ((ls.map Line.ofChars).foldl Reading.next r).toque := by
  induction ls generalizing r with
  | nil => exact h
  | cons l ls ih =>
    rw [List.forall_mem_cons] at hls
    exact ih hls.2 (h.next hls.1)

theorem isWritable_ofText (text : String) : IsWritable (Toque.ofText text) := by
  have hall : ∀ l ∈ trimmedLines text, FitsLine l := fun _ => fitsLine_of_mem_trimmedLines
  rw [ofText_eq_readLines, readLines, startOf]
  cases hb : bareSignature? (trimmedLines text) with
  | none =>
    obtain ⟨hbare, hbody⟩ := lines_of_labelled hb
    rw [hbare, hbody]
    exact IsWritable.foldl hall (isWritable_blank fitsLine_nil)
  | some b =>
    obtain ⟨hbare, hbody⟩ := lines_of_bare hb
    have hsig : FitsLine b.1 := hall _ (mem_trimmedLines_of_bareLine? hbare)
    rw [hbare, hbody]
    exact IsWritable.foldl (fun l hl => hall l (bodyLines_subset text (hbody ▸ hl)))
      (isWritable_blank hsig)

/-- A header and a heading start with one of three letters, and go on with a small letter. -/
theorem exists_cons_cons_of_not_isContent {cs : List Char} (h : ¬IsContent cs) :
    ∃ a b rest, cs = a :: b :: rest ∧ a ∈ ['T', 'O', 'I'] ∧ b ∈ ['o', 'i', 'k', 't', 'y'] := by
  rcases isName_or_isTime_or_isHeading_or_isContent cs with hk | hk | ⟨d, hk⟩ | hk
  · obtain ⟨rest, rfl⟩ := hk
    exact ⟨'T', 'o', _, rfl, by decide, by decide⟩
  · obtain ⟨rest, rfl⟩ := hk.2
    exact ⟨'T', 'i', _, rfl, by decide, by decide⟩
  · obtain rfl := hk.eq_name
    cases d
    · exact ⟨'O', 'k', _, rfl, by decide, by decide⟩
    · exact ⟨'I', 't', _, rfl, by decide, by decide⟩
    · exact ⟨'I', 'y', _, rfl, by decide, by decide⟩
  · exact absurd hk h

theorem isContent_cons {b : Char} {rest : List Char} (h : b ∈ ['o', 'i', 'k', 't', 'y']) :
    IsContent (b :: rest) := by
  by_contra hc
  obtain ⟨a, c, rest', he, ha, -⟩ := exists_cons_cons_of_not_isContent hc
  obtain rfl : b = a := (List.cons.inj he).1
  simp only [List.mem_cons, List.not_mem_nil, or_false] at h ha
  rcases h with rfl | rfl | rfl | rfl | rfl <;> revert ha <;> decide

theorem isContent_singleton (a : Char) : IsContent [a] := by
  by_contra hc
  obtain ⟨_, _, _, he, -⟩ := exists_cons_cons_of_not_isContent hc
  simp at he

theorem flatten_partLines (cs : List Char) : (partLines cs).flatten = cs := by
  unfold partLines
  split
  · simp
  · rw [List.flatten_cons, List.flatten_singleton, List.take_append_drop]

theorem isContent_of_mem_partLines {cs l : List Char} (h : l ∈ partLines cs) : IsContent l := by
  unfold partLines at h
  split at h
  · rename_i hc
    rw [List.mem_singleton] at h
    exact h ▸ hc
  · rename_i hc
    obtain ⟨a, b, rest, rfl, -, hb⟩ := exists_cons_cons_of_not_isContent hc
    simp only [List.take_succ_cons, List.take_zero, List.drop_succ_cons, List.drop_zero,
      List.mem_cons, List.not_mem_nil, or_false] at h
    rcases h with rfl | rfl
    · exact isContent_singleton a
    · exact isContent_cons hb

theorem FitsLine.mem_partLines {cs l : List Char} (h : FitsLine cs) (hl : l ∈ partLines cs) :
    FitsLine l := by
  have hmem : ∀ c ∈ l, c ∈ cs := by
    intro c hc
    rw [← flatten_partLines cs]
    exact List.mem_flatten_of_mem hl hc
  refine ⟨fun hn => h.newline (hmem _ hn), ?_⟩
  unfold partLines at hl
  split at hl
  · rw [List.mem_singleton.1 hl, h.trimmed]
  · rename_i hc
    obtain ⟨a, b, rest, rfl, ha, hb⟩ := exists_cons_cons_of_not_isContent hc
    have hends := Text.trim_eq_self_iff.1 h.trimmed
    have hblank : ∀ c ∈ ['T', 'O', 'I', 'o', 'i', 'k', 't', 'y'], Text.isBlank c = false := by
      simp only [List.mem_cons, List.not_mem_nil, or_false, forall_eq_or_imp, forall_eq]
      decide
    simp only [List.take_succ_cons, List.take_zero, List.drop_succ_cons, List.drop_zero,
      List.mem_cons, List.not_mem_nil, or_false] at hl
    rw [Text.trim_eq_self_iff]
    rcases hl with rfl | rfl
    · simpa using hends.1
    · constructor
      · intro c hc'
        obtain rfl : b = c := by simpa using hc'
        exact hblank b (List.mem_append_right ['T', 'O', 'I'] hb)
      · simpa using hends.2

theorem fitsLine_of_mem_writtenLines {t : Toque} (h : IsWritable t) {l : List Char}
    (hl : l ∈ writtenLines t) : FitsLine l := by
  simp only [writtenLines, sectionLines, List.mem_cons, List.mem_flatMap] at hl
  rcases hl with rfl | rfl | ⟨d, -, rfl | hl⟩
  · exact FitsLine.append ⟨by decide, by decide⟩ h.name
  · exact FitsLine.append ⟨by decide, by decide⟩ h.time
  · cases d <;> exact ⟨by decide, by decide⟩
  · exact (h.part d).mem_partLines hl

theorem trimmedLines_write {t : Toque} (h : IsWritable t) :
    trimmedLines (write t) = writtenLines t := by
  have hfit : ∀ l ∈ writtenLines t, FitsLine l := fun _ => fitsLine_of_mem_writtenLines h
  rw [trimmedLines, write, String.toList_ofList,
    Text.lines_of_terminated fun l hl => (hfit l hl).newline, List.map_map]
  refine (List.map_congr_left fun l hl => ?_).trans (List.map_id _)
  have ht := (hfit l hl).trimmed
  rw [Function.comp_apply, Text.withoutReturn_of_trimmed ht, ht, id]

theorem bareSignature?_writtenLines (t : Toque) : bareSignature? (writtenLines t) = none := by
  -- every text that is written starts with the label of its name
  have hname : isSignature ('T' :: ("oque:".toList ++ t.name.toList)) = false :=
    isSignature_cons (by decide) _
  simpa [writtenLines, bareSignature?_eq, nameLabel] using hname

theorem append_append (p : Parts) (d : Drum) (x y : String) :
    (p.append d x).append d y = p.append d (x ++ y) := by
  apply Parts.ext_get?
  intro e
  simp only [Parts.get?_append, if_true, Option.getD_some]
  split <;> simp [String.append_assoc]

theorem foldl_content {t : Toque} {d : Drum} {l : List Char} {ls : List (List Char)}
    (h : ∀ k ∈ l :: ls, IsContent k) :
    ((l :: ls).map Line.ofChars).foldl Reading.next ⟨t, some d⟩ =
      ⟨{ t with parts := t.parts.append d (String.ofList (l :: ls).flatten) }, some d⟩ := by
  induction ls generalizing t l with
  | nil => simp [ofChars_of_isContent (h l List.mem_cons_self), Reading.next]
  | cons k ls ih =>
    rw [List.forall_mem_cons] at h
    rw [List.map_cons, List.foldl_cons, ofChars_of_isContent h.1, Reading.next, ih h.2]
    simp [append_append, String.ofList_append]

theorem foldl_section {t t' : Toque} {s : Option Drum} {d : Drum} :
    ((sectionLines t d).map Line.ofChars).foldl Reading.next ⟨t', s⟩ =
      ⟨{ t' with parts := t'.parts.append d (t.part d) }, some d⟩ := by
  obtain ⟨l, ls, hls⟩ : ∃ l ls, partLines (t.part d).toList = l :: ls := by
    unfold partLines
    split <;> exact ⟨_, _, rfl⟩
  have hheading : Line.ofChars d.name.toList = .heading d := ofChars_of_isHeading (isHeading_name d)
  have hcontent : ∀ k ∈ l :: ls, IsContent k := fun k hk => isContent_of_mem_partLines (hls ▸ hk)
  have hpart : String.ofList (l :: ls).flatten = t.part d := by
    rw [← hls, flatten_partLines, String.ofList_toList]
  rw [sectionLines, hls, List.map_cons, List.foldl_cons, hheading, Reading.next,
    foldl_content hcontent, hpart]

theorem valueAfter_append {label value : String} (h : FitsLine value.toList) :
    valueAfter label (label.toList ++ value.toList) = value := by
  rw [valueAfter, List.drop_left, h.trimmed, String.ofList_toList]

theorem ofText_write {t : Toque} (h : IsWritable t) : Toque.ofText (write t) = t := by
  have hname : Line.ofChars (nameLabel.toList ++ t.name.toList) = .name t.name := by
    rw [ofChars_of_isName (List.prefix_append _ _), valueAfter_append h.name]
  have htime : Line.ofChars (timeLabel.toList ++ t.timeSignature.toList) =
      .time t.timeSignature := by
    have hno : ¬IsName (timeLabel.toList ++ t.timeSignature.toList) := by
      rintro ⟨rest, he⟩
      simp [nameLabel, timeLabel] at he
    rw [ofChars_of_isTime ⟨hno, List.prefix_append _ _⟩, valueAfter_append h.time]
  rw [Toque.ofText, trimmedLines_write h, bareSignature?_writtenLines]
  simp only [readLines, writtenLines, Drum.all, List.flatMap_cons, List.flatMap_nil, List.map_cons,
    List.map_append, List.foldl_cons, List.foldl_append, hname, htime, Reading.next, foldl_section]
  have hparts : (((Parts.blank.append .okonkolo (t.part .okonkolo)).append .itotele
      (t.part .itotele)).append .iya (t.part .iya)) = t.parts := by
    apply Parts.ext_get?
    intro d
    obtain ⟨x, hx⟩ := Option.isSome_iff_exists.1 (h.entry d)
    have hpart : t.part d = x := by rw [Toque.part, hx, Option.getD_some]
    have hblank : ∀ e, Parts.blank.get? e = some "" := fun e => by cases e <;> rfl
    rw [hx, ← hpart]
    cases d <;> simp [Parts.get?_append, hblank]
  cases t
  simpa [Toque.blank] using hparts

/-- The toques that texts can be read as. -/
theorem exists_ofText_eq_iff (t : Toque) : (∃ text, Toque.ofText text = t) ↔ IsWritable t := by
  constructor
  · rintro ⟨text, rfl⟩
    exact isWritable_ofText text
  · exact fun h => ⟨write t, ofText_write h⟩

end Bata.Notation
