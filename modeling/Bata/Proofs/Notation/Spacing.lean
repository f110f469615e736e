import Bata.Page
import Bata.Proofs.Notation.Filled
import Bata.Toque
import Mathlib.Logic.Relation

namespace Bata.Notation

/-- What stands between line feeds, trimmed and without what is blank. -/
def filledPieces (cs : List Char) : List (List Char) :=
  ((cs.splitOn '\n').map Text.trim).filter (!·.isEmpty)

/-- Nothing that is read from two texts tells them apart. -/
structure ReadAlike (a b : String) : Prop where
  header : Header.ofText a = Header.ofText b
  toque : Toque.ofText a = Toque.ofText b
  warnings : (Toque.ofText a).warnings = (Toque.ofText b).warnings
  document : (Toque.ofText a).document = (Toque.ofText b).document

/-- White space within one line. -/
def IsSpace (cs : List Char) : Prop :=
  ∀ c ∈ cs, Text.isBlank c = true ∧ c ≠ '\n'

/-- What follows starts a line. -/
def OpensLine (cs : List Char) : Prop :=
  cs = [] ∨ cs.getLast? = some '\n'

def EndsLine (cs : List Char) : Prop :=
  cs = [] ∨ cs.head? = some '\n'

/-- A carriage return before every line feed. -/
def withReturns (cs : List Char) : List Char :=
  cs.flatMap fun c => if c = '\n' then ['\r', '\n'] else [c]

/-- One change of the white space between and around the lines of a text. -/
inductive Respacing : String → String → Prop where
  | returns (cs : List Char) : Respacing (String.ofList cs) (String.ofList (withReturns cs))
  | lineEnd (before space after : List Char) :
    IsSpace space → EndsLine after →
      Respacing (String.ofList (before ++ after)) (String.ofList (before ++ space ++ after))
  | lineStart (before space after : List Char) :
    OpensLine before → IsSpace space →
      Respacing (String.ofList (before ++ after)) (String.ofList (before ++ space ++ after))
  | blankLine (before space after : List Char) :
    OpensLine before → IsSpace space →
      Respacing (String.ofList (before ++ after))
        (String.ofList (before ++ space ++ '\n' :: after))
  | lastEnd (cs : List Char) : Respacing (String.ofList cs) (String.ofList (cs ++ ['\n']))

theorem filledLines_eq_filledPieces (text : String) :
    filledLines text = filledPieces text.toList :=
  filledLines_eq_filter_splitOn text

/-- A text is its first line alone, or that line and another text after a line feed. -/
@[elab_as_elim]
theorem line_induction {motive : List Char → Prop} (last : ∀ l, '\n' ∉ l → motive l)
    (more : ∀ l rest, '\n' ∉ l → motive rest → motive (l ++ '\n' :: rest)) (cs : List Char) :
    motive cs := by
  by_cases h : '\n' ∈ cs
  · obtain ⟨l, rest, hcs, hl⟩ := List.eq_append_cons_of_mem h
    rw [hcs]
    exact more l rest hl (line_induction last more rest)
  · exact last cs h
termination_by cs.length
decreasing_by
  rw [hcs, List.length_append, List.length_cons]
  omega

theorem filledPieces_of_not_mem {l : List Char} (h : '\n' ∉ l) :
    filledPieces l = [Text.trim l].filter (!·.isEmpty) := by
  rw [filledPieces, List.splitOn_eq_singleton h]
  rfl

theorem filledPieces_append_newline (xs ys : List Char) :
    filledPieces (xs ++ '\n' :: ys) = filledPieces xs ++ filledPieces ys := by
  rw [filledPieces, List.splitOn_append_cons_self, List.map_append, List.filter_append]
  rfl

theorem filledPieces_newline_cons (ys : List Char) : filledPieces ('\n' :: ys) = filledPieces ys :=
  filledPieces_append_newline [] ys

theorem filledPieces_append_of_opensLine {xs : List Char} (h : OpensLine xs) (ys : List Char) :
    filledPieces (xs ++ ys) = filledPieces xs ++ filledPieces ys := by
  obtain rfl | h := h
  · rfl
  · obtain ⟨front, rfl⟩ := List.getLast?_eq_some_iff.1 h
    rw [List.append_assoc, List.singleton_append, filledPieces_append_newline,
      filledPieces_append_newline, List.append_assoc]
    rfl

theorem filledPieces_append_of_endsLine (xs : List Char) {ys : List Char} (h : EndsLine ys) :
    filledPieces (xs ++ ys) = filledPieces xs ++ filledPieces ys := by
  obtain rfl | h := h
  · rw [List.append_nil]
    exact (List.append_nil _).symm
  · obtain ⟨rest, rfl⟩ := List.head?_eq_some_iff.1 h
    rw [filledPieces_append_newline, filledPieces_newline_cons]

theorem filledPieces_space_append {space : List Char} (h : IsSpace space) (cs : List Char) :
    filledPieces (space ++ cs) = filledPieces cs := by
  induction space with
  | nil => rfl
  | cons c space ih =>
    rw [IsSpace, List.forall_mem_cons] at h
    obtain ⟨⟨hblank, hfeed⟩, hspace⟩ := h
    obtain ⟨p, ps, hps⟩ := List.exists_cons_of_ne_nil (List.splitOn_ne_nil '\n' (space ++ cs))
    have htrim : Text.trim (c :: p) = Text.trim p :=
      Text.trim_blank_append (List.forall_mem_singleton.2 hblank) p
    rw [← ih hspace, List.cons_append, filledPieces, filledPieces,
      List.splitOn_cons_eq_if_modifyHead, if_neg (by simpa using hfeed), hps,
      List.modifyHead_cons, List.map_cons, List.map_cons, htrim]

theorem filledPieces_append_space (cs : List Char) {space : List Char} (h : IsSpace space) :
    filledPieces (cs ++ space) = filledPieces cs := by
  induction cs using line_induction with
  | last l hl =>
    have hspace : '\n' ∉ space := fun hn => (h _ hn).2 rfl
    rw [filledPieces_of_not_mem hl, filledPieces_of_not_mem (by simp [hl, hspace]),
      Text.trim_append_blank l fun c hc => (h c hc).1]
  | more l rest _ ih =>
    rw [List.append_assoc, List.cons_append, filledPieces_append_newline, ih,
      filledPieces_append_newline]

theorem filledPieces_space {space : List Char} (h : IsSpace space) : filledPieces space = [] :=
  filledPieces_append_space [] h

theorem filledPieces_withReturns (cs : List Char) :
    filledPieces (withReturns cs) = filledPieces cs := by
  have hline : ∀ l : List Char, '\n' ∉ l → withReturns l = l := by
    intro l hl
    induction l with
    | nil => rfl
    | cons c l ih =>
      rw [List.mem_cons, not_or] at hl
      rw [withReturns, List.flatMap_cons, if_neg (Ne.symm hl.1), ← withReturns, ih hl.2]
      rfl
  induction cs using line_induction with
  | last l hl => rw [hline l hl]
  | more l rest hl ih =>
    have hreturns : withReturns (l ++ '\n' :: rest) = l ++ ['\r'] ++ '\n' :: withReturns rest := by
      rw [withReturns, List.flatMap_append, ← withReturns, hline l hl]
      simp [withReturns]
    have hspace : IsSpace ['\r'] := List.forall_mem_singleton.2 (by decide)
    rw [hreturns, filledPieces_append_newline, filledPieces_append_space l hspace, ih,
      filledPieces_append_newline]

theorem readAlike_of_eq {a b : String} (hheader : Header.ofText a = Header.ofText b)
    (htoque : Toque.ofText a = Toque.ofText b) : ReadAlike a b :=
  ⟨hheader, htoque, by rw [htoque], by rw [htoque]⟩

theorem Header.eq_of_bare_iff {g h : Header} (hbare : g = .bare ↔ h = .bare) : g = h := by
  cases g <;> cases h <;> simp_all

theorem header_eq_of_head {a b : String}
    (h : (∃ l ∈ (filledLines a).head?, isSignature l = true) ↔
      ∃ l ∈ (filledLines b).head?, isSignature l = true) : Header.ofText a = Header.ofText b := by
  apply Header.eq_of_bare_iff
  rw [header_eq_bare_iff, header_eq_bare_iff, h]

theorem readAlike_of_filledPieces {a b : String}
    (h : filledPieces a.toList = filledPieces b.toList) : ReadAlike a b := by
  rw [← filledLines_eq_filledPieces, ← filledLines_eq_filledPieces] at h
  refine readAlike_of_eq (header_eq_of_head ?_) ?_
  · rw [h]
  · rw [ofText_eq_readFilled, ofText_eq_readFilled, h]

theorem Respacing.filledPieces_eq {a b : String} (h : Respacing a b) :
    filledPieces a.toList = filledPieces b.toList := by
  cases h with
  | returns cs => rw [String.toList_ofList, String.toList_ofList, filledPieces_withReturns]
  | lineEnd before space after hspace hafter =>
    rw [String.toList_ofList, String.toList_ofList, filledPieces_append_of_endsLine _ hafter,
      filledPieces_append_of_endsLine _ hafter, filledPieces_append_space _ hspace]
  | lineStart before space after hbefore hspace =>
    rw [String.toList_ofList, String.toList_ofList, List.append_assoc,
      filledPieces_append_of_opensLine hbefore, filledPieces_append_of_opensLine hbefore,
      filledPieces_space_append hspace]
  | blankLine before space after hbefore hspace =>
    rw [String.toList_ofList, String.toList_ofList, List.append_assoc,
      filledPieces_append_of_opensLine hbefore, filledPieces_append_of_opensLine hbefore,
      filledPieces_append_newline, filledPieces_space hspace, List.nil_append]
  | lastEnd cs =>
    rw [String.toList_ofList, String.toList_ofList, filledPieces_append_newline]
    exact (List.append_nil _).symm

theorem filledPieces_eq_of_respaced {a b : String} (h : Relation.EqvGen Respacing a b) :
    filledPieces a.toList = filledPieces b.toList := by
  induction h with
  | rel a b h => exact h.filledPieces_eq
  | refl a => rfl
  | symm a b _ ih => exact ih.symm
  | trans a b c _ _ hab hbc => exact hab.trans hbc

/-- Texts are read alike if their trimmed pieces agree where they are not blank, so also after any
number of changes to white space. -/
theorem spacing_makes_no_difference (a b : String) :
    (filledPieces a.toList = filledPieces b.toList → ReadAlike a b) ∧
      (Relation.EqvGen Respacing a b → ReadAlike a b) :=
  ⟨readAlike_of_filledPieces, fun h => readAlike_of_filledPieces (filledPieces_eq_of_respaced h)⟩

theorem spacing_makes_no_difference_blank_line :
    (filledPieces "4/4\nIya\nA".toList = filledPieces "\r\n 4/4\n\n\tIya \n A".toList ∧
        ReadAlike "4/4\nIya\nA" "\r\n 4/4\n\n\tIya \n A") ∧
      Relation.EqvGen Respacing (String.ofList ['\n', 'I', 'y', 'a', '\n', 'A'])
        (String.ofList ['I', 'y', 'a', '\r', '\n', 'A']) ∧
      ReadAlike (String.ofList ['\n', 'I', 'y', 'a', '\n', 'A'])
        (String.ofList ['I', 'y', 'a', '\r', '\n', 'A']) := by
  have hpieces : filledPieces "4/4\nIya\nA".toList =
      filledPieces "\r\n 4/4\n\n\tIya \n A".toList := by decide
  have hblank : Respacing (String.ofList ['I', 'y', 'a', '\n', 'A'])
      (String.ofList ['\n', 'I', 'y', 'a', '\n', 'A']) :=
    .blankLine [] [] ['I', 'y', 'a', '\n', 'A'] (.inl rfl) (List.forall_mem_nil _)
  have hreturns : Respacing (String.ofList ['I', 'y', 'a', '\n', 'A'])
      (String.ofList ['I', 'y', 'a', '\r', '\n', 'A']) := .returns ['I', 'y', 'a', '\n', 'A']
  have hrespaced := ((Relation.EqvGen.rel _ _ hblank).symm).trans _ _ _ (.rel _ _ hreturns)
  exact ⟨⟨hpieces, (spacing_makes_no_difference _ _).1 hpieces⟩, hrespaced,
    (spacing_makes_no_difference _ _).2 hrespaced⟩

end Bata.Notation
