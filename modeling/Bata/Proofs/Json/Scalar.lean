import Bata.Json
import Bata.Proofs.Text.Basic

namespace Bata.Json

open Text

theorem readStringBody_unescape {e c : Char} (h : unescape? e = some c) (rest : List Char) :
    readStringBody none ('\\' :: e :: rest) = consChar c (readStringBody none rest) := by
  have he : e ≠ 'u' := by
    rintro rfl
    cases h
  rw [readStringBody]
  case heq => exact h
  case x_1 => exact fun _ _ _ _ _ hu _ => he hu

theorem readStringBody_escapeChar (c : Char) (rest : List Char) :
    readStringBody none (escapeChar c ++ rest) = consChar c (readStringBody none rest) := by
  unfold escapeChar
  split_ifs with hquote hbackslash hback hfeed hline hreturn htab hcontrol
  · exact readStringBody_unescape (by subst hquote; rfl) rest
  · exact readStringBody_unescape (by subst hbackslash; rfl) rest
  · exact readStringBody_unescape (by subst hback; rfl) rest
  · exact readStringBody_unescape (by subst hfeed; rfl) rest
  · exact readStringBody_unescape (by subst hline; rfl) rest
  · exact readStringBody_unescape (by subst hreturn; rfl) rest
  · exact readStringBody_unescape (by subst htab; rfl) rest
  · have hn : c.toNat < 32 := hcontrol
    obtain ⟨x, y, z, w, hdigits, hvalue⟩ := ofHexadecimal?_padLeft c.toNat hn
    have hhigh : isHighSurrogate c.toNat = false := by
      simp [isHighSurrogate]
      omega
    have hlow : isLowSurrogate c.toNat = false := by
      simp [isLowSurrogate]
      omega
    simp [hdigits, readStringBody, hvalue, hhigh, hlow, Char.ofNat_toNat]
  · have hprint : ' ' ≤ c := Char.not_lt.1 hcontrol
    rw [List.singleton_append, readStringBody]
    · simp [hprint, hbackslash]
    all_goals simp_all

theorem readString_written (s : String) (rest : List Char) :
    readString (s.toList.flatMap escapeChar ++ '"' :: rest) = some (s, rest) := by
  have hbody : ∀ cs, readStringBody none (cs.flatMap escapeChar ++ '"' :: rest) =
      some (cs, rest) := by
    intro cs
    induction cs with
    | nil => simp [readStringBody]
    | cons c cs ih =>
      rw [List.flatMap_cons, List.append_assoc, readStringBody_escapeChar, ih]
      rfl
  simp [readString, hbody]

/-- Nothing that could go on with a number. -/
def EndsNumber (rest : List Char) : Prop :=
  ∀ c ∈ rest.head?, c.isDigit = false ∧ c ≠ '.' ∧ c ≠ 'e' ∧ c ≠ 'E'

theorem readDigits_decimal (n : Nat) {rest : List Char}
    (hr : ∀ c ∈ rest.head?, c.isDigit = false) :
    readDigits (decimal n ++ rest) = some (decimal n, rest) := by
  have hdigits : ∀ c ∈ decimal n, c.isDigit = true := fun _ => isDigit_of_mem_decimal
  have hstop : rest.takeWhile Char.isDigit = [] ∧ rest.dropWhile Char.isDigit = rest := by
    cases rest with
    | nil => exact ⟨rfl, rfl⟩
    | cons c rest =>
      have hc := hr c rfl
      simp [hc]
  obtain ⟨d, ds, hds⟩ := List.exists_cons_of_ne_nil (decimal_ne_nil n)
  rw [readDigits, List.takeWhile_append_of_pos hdigits, List.dropWhile_append_of_pos hdigits,
    hstop.1, hstop.2, List.append_nil, hds]

theorem readFraction_of_endsNumber {rest : List Char} (h : ∀ c ∈ rest.head?, c ≠ '.') :
    readFraction rest = some ([], rest) := by
  unfold readFraction
  split
  · exact absurd rfl (h '.' rfl)
  · rfl

theorem readExponent_of_endsNumber {rest : List Char} (h : ∀ c ∈ rest.head?, c ≠ 'e' ∧ c ≠ 'E') :
    readExponent rest = some (none, rest) := by
  cases rest with
  | nil => rfl
  | cons c rest => simp [readExponent, h c rfl]

theorem readExponent_integerChars (n : Int) {rest : List Char} (h : EndsNumber rest) :
    readExponent ('e' :: (integerChars n ++ rest)) = some (some n, rest) := by
  have hdigits := readDigits_decimal n.natAbs fun c hc => (h c hc).1
  have hpositive : ∀ sign, readExponentDigits sign (decimal n.natAbs ++ rest) =
      some (some (sign * (n.natAbs : Int)), rest) := by
    intro sign
    simp [readExponentDigits, hdigits, ofDecimal_decimal]
  obtain ⟨d, ds, hds⟩ := List.exists_cons_of_ne_nil (decimal_ne_nil n.natAbs)
  have hd : d.isDigit = true := isDigit_of_mem_decimal (hds ▸ List.mem_cons_self)
  unfold integerChars readExponent
  split_ifs with hneg
  · have hvalue : (-1 : Int) * n.natAbs = n := by omega
    simp only [decide_true, Bool.true_or, if_true, List.cons_append]
    rw [hpositive, hvalue]
  · have hvalue : (1 : Int) * n.natAbs = n := by omega
    rw [hds] at hpositive ⊢
    simp only [decide_true, Bool.true_or, if_true]
    -- a digit is no sign
    split
    · rename_i hcs
      obtain rfl := (List.cons.inj hcs).1
      exact absurd hd (by decide)
    · rename_i hcs
      obtain rfl := (List.cons.inj hcs).1
      exact absurd hd (by decide)
    · rw [hpositive, hvalue]

theorem readUnsigned_decimal (negative : Bool) (n : Nat) {rest : List Char}
    (h : ∀ c ∈ rest.head?, c.isDigit = false) :
    readUnsigned negative (decimal n ++ rest) = (readFraction rest).bind fun (fraction, cs) =>
      (readExponent cs).bind fun (exponent?, cs) =>
        some (.ofParts negative (decimal n) fraction exponent?, cs) := by
  have hzero : ¬((decimal n).head? = some '0' ∧ (decimal n).length ≠ 1) := by
    rintro ⟨hhead, hlength⟩
    rw [eq_zero_of_head?_decimal hhead] at hlength
    exact hlength rfl
  simp [readUnsigned, readDigits_decimal n h, hzero]

theorem readNumber_signed (negative : Bool) (k : Nat) (rest : List Char) :
    readNumber ((if negative then ['-'] else []) ++ (decimal k ++ rest)) =
      readUnsigned negative (decimal k ++ rest) := by
  cases negative with
  | true => rfl
  | false =>
    obtain ⟨d, ds, hds⟩ := List.exists_cons_of_ne_nil (decimal_ne_nil k)
    have hd : d.isDigit = true := isDigit_of_mem_decimal (hds ▸ List.mem_cons_self)
    rw [hds]
    unfold readNumber
    split
    · rename_i hcs
      obtain rfl := (List.cons.inj hcs).1
      exact absurd hd (by decide)
    · rfl

theorem integerChars_eq (n : Int) :
    integerChars n = (if decide (n < 0) then ['-'] else []) ++ decimal n.natAbs := by
  rw [integerChars]
  by_cases hneg : n < 0
  · simp [hneg]
  · simp [hneg]

theorem readNumber_chars (n : Number) {rest : List Char} (h : EndsNumber rest) :
    readNumber (n.chars ++ rest) = some (n, rest) := by
  cases n with
  | integer value =>
    have hdigit : ∀ c ∈ rest.head?, c.isDigit = false := fun c hc => (h c hc).1
    have hfraction := readFraction_of_endsNumber fun c hc => (h c hc).2.1
    have hexponent := readExponent_of_endsNumber fun c hc => (h c hc).2.2
    have hvalue : Number.ofParts (decide (value < 0)) (decimal value.natAbs) [] none =
        .integer value := by
      by_cases hneg : value < 0
      · have hne : value.natAbs ≠ 0 := by omega
        have habs : -(value.natAbs : Int) = value := by omega
        simp only [Number.ofParts, List.append_nil, ofDecimal_decimal, hneg, hne, habs,
          List.isEmpty_nil, Option.isNone_none, decide_true, decide_false, Bool.and_false,
          Bool.and_self, Bool.not_false, if_true]
      · have habs : (value.natAbs : Int) = value := by omega
        simp only [Number.ofParts, List.append_nil, ofDecimal_decimal, hneg, habs,
          List.isEmpty_nil, Option.isNone_none, decide_false, Bool.false_and, Bool.and_self,
          Bool.not_false, Bool.false_eq_true, if_true, if_false]
    rw [Number.chars, integerChars_eq, List.append_assoc, readNumber_signed,
      readUnsigned_decimal _ _ hdigit, hfraction]
    simp [hexponent, hvalue]
  | decimal negative digits exponent =>
    have he : ∀ c ∈ ('e' :: (integerChars exponent ++ rest)).head?,
        c.isDigit = false ∧ c ≠ '.' := by
      intro c hc
      obtain rfl : 'e' = c := Option.some.inj hc
      decide
    have hfraction := readFraction_of_endsNumber fun c hc => (he c hc).2
    have hvalue : Number.ofParts negative (decimal digits) [] (some exponent) =
        .decimal negative digits exponent := by
      simp [Number.ofParts, ofDecimal_decimal]
    rw [Number.chars, List.append_assoc, List.append_assoc, List.cons_append,
      readNumber_signed, readUnsigned_decimal _ _ fun c hc => (he c hc).1, hfraction]
    simp [readExponent_integerChars exponent h, hvalue]

end Bata.Json
