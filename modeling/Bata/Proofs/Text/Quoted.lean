import Bata.Proofs.Text.Basic
import Bata.Text.Quoted

namespace Bata.Text

def quotationMarks : List Char :=
  ['"', '\'']

def ofShortEscape (e : Char) : Char :=
  if e = '0' then '\x00'
  else if e = 't' then '\t'
  else if e = 'r' then '\r'
  else if e = 'n' then '\n'
  else e

/-- The character that the first escape stands for, or the first character as it is, and what
follows. -/
def readEscape : List Char → Option (Char × List Char)
  | [] => none
  | '\\' :: 'u' :: '\x7b' :: cs =>
    (ofHexadecimal? (cs.takeWhile (· ≠ '\x7d'))).map fun n =>
      (Char.ofNat n, (cs.dropWhile (· ≠ '\x7d')).tail)
  | '\\' :: e :: cs => some (ofShortEscape e, cs)
  | c :: cs => some (c, cs)

/-- The ASCII characters that show something, and the space. -/
def isPrintable (c : Char) : Bool :=
  ' ' ≤ c && c ≤ '~'

/-- Nothing but printable characters and what is not hidden. -/
def IsShown (hidden : Char → Bool) (cs : List Char) : Prop :=
  ∀ c ∈ cs, isPrintable c = true ∨ hidden c = false

/-- The characters of the Unicode category `Cc`. -/
def IsControl (c : Char) : Prop :=
  c.toNat < 0x20 ∨ 0x7F ≤ c.toNat ∧ c.toNat < 0xA0

/-- A control, or a separator of lines or paragraphs. -/
def BreaksLine (c : Char) : Prop :=
  IsControl c ∨ c = '\u2028' ∨ c = '\u2029'

instance (c : Char) : Decidable (IsControl c) :=
  inferInstanceAs (Decidable (_ ∨ _))

instance (c : Char) : Decidable (BreaksLine c) :=
  inferInstanceAs (Decidable (_ ∨ _))

variable {hidden hidden' : Char → Bool} {mark c : Char}

theorem mem_of_shortEscape? {e : Char} (h : shortEscape? mark c = some e) :
    e ∈ ['0', 't', 'r', 'n', '\\'] ∨ e = mark := by
  unfold shortEscape? at h
  split_ifs at h with hnul htab hreturn hline hself
  all_goals obtain rfl := Option.some.inj h
  · simp
  · simp
  · simp
  · simp
  · exact hself.imp_left fun hc => by simp [hc]

theorem ofShortEscape_of_shortEscape? (hmark : mark ∈ quotationMarks) {e : Char}
    (h : shortEscape? mark c = some e) : ofShortEscape e = c := by
  unfold shortEscape? at h
  split_ifs at h with hnul htab hreturn hline hself
  all_goals obtain rfl := Option.some.inj h
  · exact hnul.symm
  · exact htab.symm
  · exact hreturn.symm
  · exact hline.symm
  · simp only [quotationMarks, List.mem_cons, List.not_mem_nil, or_false] at hmark
    rcases hself with rfl | rfl
    · rfl
    · rcases hmark with rfl | rfl <;> rfl

theorem not_mem_of_shortEscape?_eq_none (h : shortEscape? mark c = none) :
    c ∉ ['\x00', '\t', '\r', '\n', '\\', mark] := by
  unfold shortEscape? at h
  split_ifs at h with hnul htab hreturn hline hself
  simp [hnul, htab, hreturn, hline, not_or.1 hself]

theorem escape_cases (hidden : Char → Bool) (mark c : Char) :
    (∃ e, shortEscape? mark c = some e ∧ escape hidden mark c = ['\\', e]) ∨
      escape hidden mark c = '\\' :: 'u' :: '\x7b' :: (hexadecimal c.toNat ++ ['\x7d']) ∨
      shortEscape? mark c = none ∧ hidden c = false ∧ escape hidden mark c = [c] := by
  rw [escape]
  cases hshort : shortEscape? mark c with
  | some e => exact .inl ⟨e, rfl, rfl⟩
  | none =>
    cases hhidden : hidden c with
    | true => exact .inr (.inl rfl)
    | false => exact .inr (.inr ⟨rfl, rfl, rfl⟩)

theorem readEscape_short {e : Char} (h : e ≠ 'u') (rest : List Char) :
    readEscape ('\\' :: e :: rest) = some (ofShortEscape e, rest) := by
  rw [readEscape]
  exact fun _ hu _ => h hu

theorem readEscape_plain (h : c ≠ '\\') (rest : List Char) :
    readEscape (c :: rest) = some (c, rest) := by
  rw [readEscape]
  · exact fun _ hc _ => h hc
  · exact fun _ _ hc _ => h hc

theorem brace_not_mem_hexadecimal (n : Nat) : '\x7d' ∉ hexadecimal n := by
  intro h
  obtain ⟨d, hd, hbrace⟩ := exists_digitChar_of_mem_hexadecimal h
  have hno : ∀ d < 16, '\x7d' ≠ d.digitChar := by decide
  exact hno d hd hbrace

theorem readEscape_number (c : Char) (rest : List Char) :
    readEscape ('\\' :: 'u' :: '\x7b' :: (hexadecimal c.toNat ++ '\x7d' :: rest)) =
      some (c, rest) := by
  have hdigits : ∀ d ∈ hexadecimal c.toNat, decide (d ≠ '\x7d') = true := by
    intro d hd
    rw [decide_eq_true_eq]
    rintro rfl
    exact brace_not_mem_hexadecimal _ hd
  rw [readEscape, List.takeWhile_append_of_pos hdigits, List.dropWhile_append_of_pos hdigits]
  simp [ofHexadecimal?_hexadecimal, Char.ofNat_toNat]

/-- Which characters are spelled out makes no difference to what is read. -/
theorem readEscape_escape (hidden : Char → Bool) (hmark : mark ∈ quotationMarks) (c : Char)
    (rest : List Char) : readEscape (escape hidden mark c ++ rest) = some (c, rest) := by
  rcases escape_cases hidden mark c with ⟨e, hshort, hescape⟩ | hescape | ⟨hnone, -, hescape⟩
  · have he : e ≠ 'u' := by
      rintro rfl
      rcases mem_of_shortEscape? hshort with hletter | rfl
      · revert hletter
        decide
      · revert hmark
        decide
    rw [hescape, ← ofShortEscape_of_shortEscape? hmark hshort]
    exact readEscape_short he rest
  · rw [hescape]
    simpa using readEscape_number c rest
  · rw [hescape]
    refine readEscape_plain ?_ rest
    rintro rfl
    exact not_mem_of_shortEscape?_eq_none hnone (by simp)

theorem exists_cons_escape (hidden : Char → Bool) (hmark : mark ∈ quotationMarks) (c : Char) :
    ∃ d ds, escape hidden mark c = d :: ds ∧ d ≠ mark := by
  have hbackslash : '\\' ≠ mark := by
    rintro rfl
    revert hmark
    decide
  rcases escape_cases hidden mark c with ⟨e, -, hescape⟩ | hescape | ⟨hnone, -, hescape⟩
  · exact ⟨_, _, hescape, hbackslash⟩
  · exact ⟨_, _, hescape, hbackslash⟩
  · refine ⟨_, _, hescape, ?_⟩
    rintro rfl
    exact not_mem_of_shortEscape?_eq_none hnone (by simp)

theorem flatMap_escape_inj (hmark : mark ∈ quotationMarks) {xs ys rest rest' : List Char}
    (h : xs.flatMap (escape hidden mark) ++ mark :: rest =
      ys.flatMap (escape hidden' mark) ++ mark :: rest') : xs = ys ∧ rest = rest' := by
  -- the mark that closes the shorter text cannot be where the longer one goes on
  induction xs generalizing ys with
  | nil =>
    cases ys with
    | nil => exact ⟨rfl, (List.cons.inj h).2⟩
    | cons y ys =>
      obtain ⟨d, ds, hy, hd⟩ := exists_cons_escape hidden' hmark y
      rw [List.flatMap_cons, hy] at h
      exact absurd (List.cons.inj h).1.symm hd
  | cons x xs ih =>
    cases ys with
    | nil =>
      obtain ⟨d, ds, hx, hd⟩ := exists_cons_escape hidden hmark x
      rw [List.flatMap_cons, hx] at h
      exact absurd (List.cons.inj h).1 hd
    | cons y ys =>
      have hread := congrArg readEscape h
      rw [List.flatMap_cons, List.flatMap_cons, List.append_assoc, List.append_assoc,
        readEscape_escape hidden hmark, readEscape_escape hidden' hmark] at hread
      obtain ⟨rfl, htail⟩ := Prod.mk.inj (Option.some.inj hread)
      obtain ⟨rfl, hrest⟩ := ih htail
      exact ⟨rfl, hrest⟩

/-- A quote tells what is quoted and where it ends, whatever follows it. -/
theorem quote_append_inj (hmark : mark ∈ quotationMarks) {xs ys rest rest' : List Char}
    (h : quote hidden mark xs ++ rest = quote hidden' mark ys ++ rest') :
    xs = ys ∧ rest = rest' := by
  simp only [quote, List.cons_append, List.append_assoc, List.cons.injEq, true_and,
    List.nil_append] at h
  exact flatMap_escape_inj hmark h

theorem toList_quoteText (hidden : Char → Bool) (s : String) :
    (quoteText hidden s).toList = quote hidden '"' s.toList :=
  String.toList_ofList

theorem toList_quoteChar (hidden : Char → Bool) (c : Char) :
    (quoteChar hidden c).toList = quote hidden '\'' [c] :=
  String.toList_ofList

theorem isPrintable_iff : isPrintable c = true ↔ 0x20 ≤ c.toNat ∧ c.toNat ≤ 0x7E := by
  rw [isPrintable, Bool.and_eq_true, decide_eq_true_eq, decide_eq_true_eq]
  exact Iff.rfl

theorem isShown_of_all {cs : List Char} (h : cs.all isPrintable = true) : IsShown hidden cs :=
  fun c hc => .inl (List.all_eq_true.1 h c hc)

theorem IsShown.append {xs ys : List Char} (hx : IsShown hidden xs) (hy : IsShown hidden ys) :
    IsShown hidden (xs ++ ys) :=
  List.forall_mem_append.2 ⟨hx, hy⟩

theorem IsShown.cons {cs : List Char} (hc : isPrintable c = true) (hcs : IsShown hidden cs) :
    IsShown hidden (c :: cs) :=
  List.forall_mem_cons.2 ⟨.inl hc, hcs⟩

theorem isShown_quotationMark (hmark : mark ∈ quotationMarks) : IsShown hidden [mark] := by
  simp only [quotationMarks, List.mem_cons, List.not_mem_nil, or_false] at hmark
  rcases hmark with rfl | rfl <;> exact isShown_of_all (by decide)

theorem isShown_decimal (n : Nat) : IsShown hidden (decimal n) := by
  intro c hc
  obtain ⟨hlow, hhigh⟩ := Char.isDigit_iff_toNat.1 (isDigit_of_mem_decimal hc)
  exact .inl (isPrintable_iff.2 ⟨Nat.le_trans (by decide) hlow, Nat.le_trans hhigh (by decide)⟩)

theorem isShown_hexadecimal (n : Nat) : IsShown hidden (hexadecimal n) := by
  have hdigits : ∀ d < 16, isPrintable d.digitChar = true := by decide
  intro c hc
  obtain ⟨d, hd, rfl⟩ := exists_digitChar_of_mem_hexadecimal hc
  exact .inl (hdigits d hd)

theorem isShown_shortEscape (hmark : mark ∈ quotationMarks) {e : Char}
    (h : shortEscape? mark c = some e) : IsShown hidden ['\\', e] := by
  refine .cons (by decide) ?_
  have hletters : IsShown hidden ['0', 't', 'r', 'n', '\\'] := isShown_of_all (by decide)
  rcases mem_of_shortEscape? h with hletter | rfl
  · exact List.forall_mem_singleton.2 (hletters e hletter)
  · exact isShown_quotationMark hmark

theorem isShown_escape (hmark : mark ∈ quotationMarks) (c : Char) :
    IsShown hidden (escape hidden mark c) := by
  rcases escape_cases hidden mark c with ⟨e, hshort, hescape⟩ | hescape | ⟨-, hshown, hescape⟩
  · rw [hescape]
    exact isShown_shortEscape hmark hshort
  · have hstart : IsShown hidden ['\\', 'u', '\x7b'] := isShown_of_all (by decide)
    have hend : IsShown hidden ['\x7d'] := isShown_of_all (by decide)
    rw [hescape]
    exact hstart.append ((isShown_hexadecimal _).append hend)
  · rw [hescape]
    exact List.forall_mem_singleton.2 (.inr hshown)

theorem isShown_quote (hmark : mark ∈ quotationMarks) (cs : List Char) :
    IsShown hidden (quote hidden mark cs) := by
  have hbody : IsShown hidden (cs.flatMap (escape hidden mark)) := by
    intro x hx
    obtain ⟨c, -, hc⟩ := List.mem_flatMap.1 hx
    exact isShown_escape hmark c x hc
  exact ((isShown_quotationMark hmark).append hbody).append (isShown_quotationMark hmark)

theorem isHidden_of_isControl (h : IsControl c) : isHidden c = true := by
  -- all controls stand before the fourth edge
  obtain ⟨edges, hedges⟩ : ∃ edges, hiddenEdges = 0x0 :: 0x20 :: 0x7F :: 0xA1 :: edges := ⟨_, rfl⟩
  rw [isHidden, hedges]
  simp only [insideEdges, Nat.not_lt_zero, if_false, Bool.not_false, Bool.not_true]
  rcases h with hbelow | ⟨hlow, hhigh⟩
  · simp [hbelow]
  · have hspace : ¬c.toNat < 0x20 := by omega
    have hascii : ¬c.toNat < 0x7F := by omega
    have hlatin : c.toNat < 0xA1 := by omega
    simp [hspace, hascii, hlatin]

theorem isHidden_of_breaksLine (h : BreaksLine c) : isHidden c = true := by
  have hseparators : isHidden '\u2028' = true ∧ isHidden '\u2029' = true := by decide +kernel
  rcases h with h | rfl | rfl
  · exact isHidden_of_isControl h
  · exact hseparators.1
  · exact hseparators.2

theorem not_breaksLine_of_isPrintable (h : isPrintable c = true) : ¬BreaksLine c := by
  obtain ⟨hlow, hhigh⟩ := isPrintable_iff.1 h
  rintro ((hcontrol | hcontrol) | rfl | rfl)
  · omega
  · omega
  · revert hhigh
    decide
  · revert hhigh
    decide

theorem IsShown.not_breaksLine {cs : List Char} (h : IsShown isHidden cs) (hc : c ∈ cs) :
    ¬BreaksLine c := by
  rcases h c hc with hprintable | hshown
  · exact not_breaksLine_of_isPrintable hprintable
  · intro hbreaks
    rw [isHidden_of_breaksLine hbreaks] at hshown
    cases hshown

end Bata.Text
