import Bata.Proofs.Notation.Spacing

namespace Bata.Notation

/-- ASCII digits, at least one. -/
def IsNumber (ds : List Char) : Prop :=
  ds ≠ [] ∧ ∀ c ∈ ds, '0' ≤ c ∧ c ≤ '9'

/-- Two numbers around a slash, which only white space sets off from the start of the text, line
feeds among it, and from the end of their line. -/
inductive StatesSignature : List Char → Prop where
  | intro (above upper lower space below : List Char) :
    (∀ c ∈ above, Text.isBlank c = true) → IsNumber upper → IsNumber lower → IsSpace space →
      EndsLine below →
        StatesSignature (above ++ (upper ++ '/' :: lower ++ (space ++ below)))

theorem isDigit_iff {c : Char} : c.isDigit = true ↔ '0' ≤ c ∧ c ≤ '9' := by
  rw [Char.isDigit_iff_toNat]
  exact Iff.rfl

theorem isNumeral_iff {ds : List Char} : isNumeral ds = true ↔ IsNumber ds := by
  simp only [isNumeral, IsNumber, Bool.and_eq_true, List.all_eq_true, isDigit_iff]
  simp

theorem IsNumber.not_blank {ds : List Char} (h : IsNumber ds) : ∀ c ∈ ds, Text.isBlank c = false := by
  intro c hc
  obtain ⟨hlo, hhi⟩ := h.2 c hc
  change 48 ≤ c.toNat at hlo
  change c.toNat ≤ 57 at hhi
  simp only [Text.isBlank, Text.blankRanges, List.any_cons, List.any_nil, Bool.or_false,
    Bool.or_eq_false_iff, Bool.and_eq_false_iff, decide_eq_false_iff_not]
  omega

theorem IsNumber.slash_not_mem {ds : List Char} (h : IsNumber ds) : '/' ∉ ds :=
  fun hs => absurd (h.2 _ hs) (by decide)

/-- The first slash is the only one, as there is none among the digits. -/
theorem isSignature_iff {l : List Char} :
    isSignature l = true ↔
      ∃ upper lower, IsNumber upper ∧ IsNumber lower ∧ l = upper ++ '/' :: lower := by
  constructor
  · intro h
    cases hdrop : l.dropWhile (· ≠ '/') with
    | nil =>
      unfold isSignature at h
      rw [hdrop] at h
      cases h
    | cons c lower =>
      have hslash : c = '/' := by
        have hhead := List.head?_dropWhile_not (· ≠ '/') l
        rw [hdrop] at hhead
        simpa using hhead
      unfold isSignature at h
      rw [hdrop, Bool.and_eq_true, isNumeral_iff, isNumeral_iff] at h
      refine ⟨_, lower, h.1, h.2, ?_⟩
      have hsplit := List.takeWhile_append_dropWhile (p := (· ≠ '/')) (l := l)
      rw [hdrop, hslash] at hsplit
      exact hsplit.symm
  · rintro ⟨upper, lower, hupper, hlower, rfl⟩
    have hbefore : ∀ c ∈ upper, decide (c ≠ '/') = true := by
      intro c hc
      simpa using fun he : c = '/' => hupper.slash_not_mem (he ▸ hc)
    have htake : (upper ++ '/' :: lower).takeWhile (· ≠ '/') = upper := by
      rw [List.takeWhile_append_of_pos hbefore]
      simp
    have hdrop : (upper ++ '/' :: lower).dropWhile (· ≠ '/') = '/' :: lower := by
      rw [List.dropWhile_append_of_pos hbefore]
      simp
    unfold isSignature
    rw [hdrop, htake, Bool.and_eq_true, isNumeral_iff, isNumeral_iff]
    exact ⟨hupper, hlower⟩

theorem not_blank_signature {upper lower : List Char} (hupper : IsNumber upper)
    (hlower : IsNumber lower) : ∀ c ∈ upper ++ '/' :: lower, Text.isBlank c = false := by
  intro c hc
  rw [List.mem_append, List.mem_cons] at hc
  rcases hc with hc | rfl | hc
  · exact hupper.not_blank c hc
  · decide
  · exact hlower.not_blank c hc

theorem filledPieces_blank_append {above : List Char} (h : ∀ c ∈ above, Text.isBlank c = true)
    (cs : List Char) : filledPieces (above ++ cs) = filledPieces cs := by
  induction above with
  | nil => rfl
  | cons c above ih =>
    rw [List.forall_mem_cons] at h
    rw [List.cons_append]
    by_cases hfeed : c = '\n'
    · rw [hfeed, filledPieces_newline_cons, ih h.2]
    · have hspace : IsSpace [c] := List.forall_mem_singleton.2 ⟨h.1, hfeed⟩
      exact (filledPieces_space_append hspace (above ++ cs)).trans (ih h.2)

theorem exists_around_trim {p : List Char} (h : '\n' ∉ p) :
    ∃ above space, p = above ++ (Text.trim p ++ space) ∧
      (∀ c ∈ above, Text.isBlank c = true) ∧ IsSpace space := by
  obtain ⟨above, space, hsplit, habove, hspace⟩ := Text.exists_append_trim_append p
  refine ⟨above, space, hsplit, habove, fun c hc => ⟨hspace c hc, ?_⟩⟩
  rintro rfl
  rw [hsplit] at h
  simp [hc] at h

theorem exists_of_head?_filledPieces {cs l : List Char} (h : (filledPieces cs).head? = some l) :
    ∃ above space below, cs = above ++ (l ++ (space ++ below)) ∧
      (∀ c ∈ above, Text.isBlank c = true) ∧ IsSpace space ∧ EndsLine below := by
  induction cs using line_induction with
  | last p hp =>
    obtain ⟨above, space, hsplit, habove, hspace⟩ := exists_around_trim hp
    rw [filledPieces_of_not_mem hp] at h
    have hl : l = Text.trim p := by
      simpa using List.mem_of_mem_filter (List.mem_of_mem_head? h)
    exact ⟨above, space, [], by rw [hl, List.append_nil]; exact hsplit, habove, hspace, .inl rfl⟩
  | more p rest hp ih =>
    obtain ⟨above, space, hsplit, habove, hspace⟩ := exists_around_trim hp
    rw [filledPieces_append_newline, filledPieces_of_not_mem hp] at h
    by_cases hblank : Text.trim p = []
    · -- a blank line belongs to the white space above
      rw [hblank] at h hsplit
      obtain ⟨above', space', below, hrest, habove', hspace', hbelow⟩ := ih h
      refine ⟨p ++ '\n' :: above', space', below, by rw [hrest]; simp, ?_, hspace', hbelow⟩
      intro c hc
      rw [List.mem_append, List.mem_cons] at hc
      rcases hc with hc | rfl | hc
      · rw [hsplit, List.nil_append, List.mem_append] at hc
        exact hc.elim (habove c) fun hs => (hspace c hs).1
      · decide
      · exact habove' c hc
    · have hl : Text.trim p = l := by simpa [hblank] using h
      refine ⟨above, space, '\n' :: rest, ?_, habove, hspace, .inr rfl⟩
      rw [← hl]
      conv_lhs => rw [hsplit]
      simp

theorem head?_filledPieces {above l space below : List Char}
    (habove : ∀ c ∈ above, Text.isBlank c = true) (hne : l ≠ [])
    (hl : ∀ c ∈ l, Text.isBlank c = false) (hspace : IsSpace space) (hbelow : EndsLine below) :
    (filledPieces (above ++ (l ++ (space ++ below)))).head? = some l := by
  have hfeed : '\n' ∉ l := fun hn => absurd (hl _ hn) (by decide)
  have htrim : Text.trim l = l := Text.trim_eq_self_iff.2
    ⟨fun c hc => hl c (List.mem_of_mem_head? hc), fun c hc => hl c (List.mem_of_mem_getLast? hc)⟩
  have hfirst : filledPieces l = [l] := by
    rw [filledPieces_of_not_mem hfeed, htrim]
    simp [hne]
  rw [filledPieces_blank_append habove, ← List.append_assoc,
    filledPieces_append_of_endsLine _ hbelow, filledPieces_append_space _ hspace, hfirst]
  rfl

/-- The texts of this form, and no others, are taken to state their signature alone. -/
theorem header_eq_bare_iff_statesSignature (text : String) :
    (Header.ofText text = .bare ↔ StatesSignature text.toList) ∧
      (Header.ofText text = .labelled ↔ ¬StatesSignature text.toList) := by
  have hbare : Header.ofText text = .bare ↔ StatesSignature text.toList := by
    rw [header_eq_bare_iff, filledLines_eq_filledPieces]
    constructor
    · rintro ⟨l, hl, hsig⟩
      obtain ⟨above, space, below, hsplit, habove, hspace, hbelow⟩ := exists_of_head?_filledPieces hl
      obtain ⟨upper, lower, hupper, hlower, rfl⟩ := isSignature_iff.1 hsig
      rw [hsplit]
      exact .intro above upper lower space below habove hupper hlower hspace hbelow
    · intro h
      generalize text.toList = cs at h
      cases h with
      | intro above upper lower space below habove hupper hlower hspace hbelow =>
        exact ⟨_, head?_filledPieces habove (by simp) (not_blank_signature hupper hlower) hspace hbelow,
          isSignature_iff.2 ⟨upper, lower, hupper, hlower, rfl⟩⟩
  refine ⟨hbare, ?_⟩
  rw [← hbare]
  cases Header.ofText text <;> simp

example : ["4/4/4", "+4/4", "4 /4", "\u0664/4", "\uFEFF4/4", " \n", "4/4\r4/4"].map Header.ofText =
    List.replicate 7 .labelled := by decide

end Bata.Notation
