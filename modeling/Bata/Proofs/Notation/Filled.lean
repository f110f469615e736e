import Bata.Proofs.Notation.Written

namespace Bata.Notation

def filledLines (text : String) : List (List Char) :=
  (trimmedLines text).filter (!·.isEmpty)

/-- A signature alone, or else headers, headings and content from the first line on. -/
def readFilled : List (List Char) → Toque
  | [] => .blank
  | l :: ls =>
    if isSignature l then readLines { Toque.blank with timeSignature := String.ofList l } ls
    else readLines .blank (l :: ls)

theorem filter_of_dropWhile {ls : List (List Char)} :
    (ls.dropWhile List.isEmpty).filter (!·.isEmpty) = ls.filter (!·.isEmpty) := by
  induction ls with
  | nil => rfl
  | cons l ls ih =>
    by_cases hl : l = []
    · simpa [hl] using ih
    · rw [List.dropWhile_cons_of_neg (by simpa using hl)]

theorem dropWhile_eq_nil_or_cons (ls : List (List Char)) :
    (ls.dropWhile List.isEmpty = [] ∧ ls.filter (!·.isEmpty) = []) ∨
      ∃ l rest, ls.dropWhile List.isEmpty = l :: rest ∧
        ls.filter (!·.isEmpty) = l :: rest.filter (!·.isEmpty) := by
  rw [← filter_of_dropWhile]
  cases hdrop : ls.dropWhile List.isEmpty with
  | nil => exact .inl ⟨rfl, rfl⟩
  | cons l rest =>
    have hfilled : l.isEmpty = false := by
      have hhead := List.head?_dropWhile_not List.isEmpty ls
      simpa [hdrop] using hhead
    exact .inr ⟨l, rest, rfl, List.filter_cons_of_pos (by simp [hfilled])⟩

theorem isSome_get?_next {r : Reading} (h : ∀ d, (r.toque.parts.get? d).isSome) (l : Line) (d : Drum) :
    ((r.next l).toque.parts.get? d).isSome := by
  cases l with
  | content symbols =>
    rw [Reading.next]
    cases r.drum? with
    | none => exact h d
    | some e =>
      rw [Parts.get?_append]
      split
      · rfl
      · exact h d
  | _ => exact h d

/-- With an entry for every drum there is none that an empty line could make. -/
theorem next_blank {r : Reading} (h : ∀ d, (r.toque.parts.get? d).isSome) :
    r.next (Line.ofChars []) = r := by
  have hline : Line.ofChars [] = .content "" := by decide
  obtain ⟨⟨name, time, parts⟩, drum?⟩ := r
  rw [hline, Reading.next]
  cases drum? with
  | none => rfl
  | some d =>
    obtain ⟨part, hpart⟩ := Option.isSome_iff_exists.1 (h d)
    have hparts : parts.append d "" = parts := by
      apply Parts.ext_get?
      intro e
      rw [Parts.get?_append]
      split
      · rename_i he
        rw [he, show parts.get? d = some part from hpart, Option.getD_some, String.append_empty]
      · rfl
    simp only [hparts]

theorem foldl_next_filter {ls : List (List Char)} {r : Reading}
    (h : ∀ d, (r.toque.parts.get? d).isSome) :
    (ls.map Line.ofChars).foldl Reading.next r =
      ((ls.filter (!·.isEmpty)).map Line.ofChars).foldl Reading.next r := by
  induction ls generalizing r with
  | nil => rfl
  | cons l ls ih =>
    by_cases hl : l = []
    · rw [hl, List.map_cons, List.foldl_cons, next_blank h, ih h]
      rfl
    · rw [List.filter_cons_of_pos (by simpa using hl), List.map_cons, List.map_cons, List.foldl_cons,
        List.foldl_cons]
      exact ih fun d => isSome_get?_next h _ d

theorem readLines_filter {start : Toque} (h : ∀ d, (start.parts.get? d).isSome)
    (ls : List (List Char)) : readLines start ls = readLines start (ls.filter (!·.isEmpty)) :=
  congrArg Reading.toque (foldl_next_filter h)

theorem trim_withoutReturn (cs : List Char) : Text.trim (Text.withoutReturn cs) = Text.trim cs := by
  rw [Text.withoutReturn]
  split
  · rename_i hlast
    have hreturn : Text.isBlank '\r' = true := by decide
    obtain ⟨front, rfl⟩ := List.getLast?_eq_some_iff.1 hlast
    rw [List.dropLast_concat, Text.trim_append_blank front (List.forall_mem_singleton.2 hreturn)]
  · rfl

theorem filter_trim_linesOfPieces (ps : List (List Char)) :
    ((Text.linesOfPieces ps).map Text.trim).filter (!·.isEmpty) =
      (ps.map Text.trim).filter (!·.isEmpty) := by
  fun_induction Text.linesOfPieces ps with
  | case1 => rfl
  | case2 p hp =>
    rw [List.isEmpty_iff.1 hp]
    rfl
  | case3 p hp => rfl
  | case4 p ps hps ih => rw [List.map_cons, List.map_cons, List.filter_cons, List.filter_cons, ih,
      trim_withoutReturn]

theorem filledLines_eq_filter_splitOn (text : String) :
    filledLines text = ((text.toList.splitOn '\n').map Text.trim).filter (!·.isEmpty) :=
  filter_trim_linesOfPieces _

theorem header_eq_bare_iff (text : String) :
    Header.ofText text = .bare ↔ ∃ l ∈ (filledLines text).head?, isSignature l = true := by
  rw [Header.ofText, bareSignature?_eq, filledLines]
  obtain ⟨hdrop, hfilter⟩ | ⟨l, rest, hdrop, hfilter⟩ := dropWhile_eq_nil_or_cons (trimmedLines text)
  · simp [hdrop, hfilter]
  · cases hl : isSignature l <;> simp [hdrop, hfilter, hl]

theorem ofText_eq_readFilled (text : String) : Toque.ofText text = readFilled (filledLines text) := by
  have hentry : ∀ d, (Parts.blank.get? d).isSome := fun d => by cases d <;> rfl
  have hall : readLines .blank (trimmedLines text) =
      readLines .blank ((trimmedLines text).filter (!·.isEmpty)) := readLines_filter hentry _
  rw [Toque.ofText, bareSignature?_eq, filledLines]
  obtain ⟨hdrop, hfilter⟩ | ⟨l, rest, hdrop, hfilter⟩ := dropWhile_eq_nil_or_cons (trimmedLines text)
  · rw [hfilter] at hall
    simp only [hdrop, hfilter, readFilled]
    exact hall
  · cases hl : isSignature l with
    | true =>
      have hrest : readLines { Toque.blank with timeSignature := String.ofList l } rest =
          readLines { Toque.blank with timeSignature := String.ofList l }
            (rest.filter (!·.isEmpty)) := readLines_filter hentry _
      simpa [hdrop, hfilter, hl, readFilled] using hrest
    | false =>
      rw [hfilter] at hall
      simpa [hdrop, hfilter, hl, readFilled] using hall

end Bata.Notation
