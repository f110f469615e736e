import Bata.Text.Basic
import Mathlib.Data.List.Basic
import Mathlib.Data.List.DropRight
import Mathlib.Tactic.Common

namespace Bata

theorem bind_eq_ok_iff {ε α β : Type} {x : Except ε α} {f : α → Except ε β} {b : β} :
    x >>= f = .ok b ↔ ∃ a, x = .ok a ∧ f a = .ok b := by
  cases x with
  | error fault =>
    constructor
    · intro h
      cases h
    · rintro ⟨a, h, -⟩
      cases h
  | ok a =>
    constructor
    · intro h
      exact ⟨a, rfl, h⟩
    · rintro ⟨a, ha, h⟩
      cases ha
      exact h

namespace Text

theorem trimEnd_eq_rdropWhile (cs : List Char) : trimEnd cs = cs.rdropWhile isBlank := rfl

theorem trim_isInfix (cs : List Char) : trim cs <:+: cs :=
  (List.rdropWhile_prefix isBlank (trimStart cs)).isInfix.trans
    (List.dropWhile_suffix isBlank).isInfix

theorem mem_of_mem_trim {c : Char} {cs : List Char} (h : c ∈ trim cs) : c ∈ cs :=
  (trim_isInfix cs).subset h

theorem trim_eq_self_iff {cs : List Char} :
    trim cs = cs ↔ (∀ c ∈ cs.head?, isBlank c = false) ∧ ∀ c ∈ cs.getLast?, isBlank c = false := by
  constructor
  · intro h
    have hstart : trimStart cs = cs := by
      apply (List.dropWhile_suffix isBlank).eq_of_length
      have h₁ := (List.rdropWhile_prefix isBlank (trimStart cs)).length_le
      have h₂ := List.length_dropWhile_le isBlank cs
      have h₃ : (trim cs).length = cs.length := by rw [h]
      simp only [trim, trimEnd_eq_rdropWhile, trimStart] at h₁ h₃ ⊢
      omega
    have hend : cs.rdropWhile isBlank = cs := by
      rw [← trimEnd_eq_rdropWhile]
      simpa only [trim, hstart] using h
    constructor
    · intro c hc
      rw [trimStart, List.dropWhile_eq_self_iff] at hstart
      obtain ⟨rest, rfl⟩ := List.head?_eq_some_iff.1 hc
      exact Bool.eq_false_iff.2 (hstart (by simp))
    · intro c hc
      obtain ⟨hne, hlast⟩ := List.mem_getLast?_eq_getLast hc
      have := List.rdropWhile_eq_self_iff.1 hend hne
      rw [← hlast] at this
      simpa using this
  · rintro ⟨hhead, hlast⟩
    have hstart : trimStart cs = cs := by
      rw [trimStart, List.dropWhile_eq_self_iff]
      intro hpos
      rw [hhead _ (by rw [List.head?_eq_getElem?, List.getElem?_eq_getElem hpos]; rfl)]
      decide
    rw [trim, hstart, trimEnd_eq_rdropWhile, List.rdropWhile_eq_self_iff]
    intro hne
    rw [hlast _ (List.getLast?_eq_some_getLast hne)]
    decide

theorem isBlank_of_getLast?_trimEnd {cs : List Char} {c : Char}
    (h : (trimEnd cs).getLast? = some c) : isBlank c = false := by
  obtain ⟨hne, hlast⟩ := List.mem_getLast?_eq_getLast h
  rw [hlast]
  simpa [trimEnd_eq_rdropWhile] using List.rdropWhile_last_not isBlank cs hne

theorem trim_trim (cs : List Char) : trim (trim cs) = trim cs := by
  rw [trim_eq_self_iff]
  constructor
  · intro c hc
    -- what stands at the front of the trimmed text already stood there before its end was cut
    obtain ⟨more, hmore⟩ := List.rdropWhile_prefix isBlank (trimStart cs)
    obtain ⟨rest, hrest⟩ := List.head?_eq_some_iff.1 hc
    have hfront : (trimStart cs).head? = some c := by
      rw [← hmore, ← trimEnd_eq_rdropWhile]
      change (trim cs ++ more).head? = some c
      rw [hrest]; rfl
    have := List.head?_dropWhile_not isBlank cs
    rw [← trimStart, hfront] at this
    simpa using this
  · exact fun c hc => isBlank_of_getLast?_trimEnd hc

theorem trim_append {xs ys : List Char} (hx : trim xs = xs) (hy : trim ys = ys) :
    trim (xs ++ ys) = xs ++ ys := by
  rcases xs.eq_nil_or_concat with rfl | ⟨xs', x, rfl⟩
  · simpa using hy
  rcases ys with _ | ⟨y, ys'⟩
  · simpa using hx
  rw [trim_eq_self_iff] at hx hy ⊢
  constructor
  · intro c hc
    exact hx.1 c (by simpa [List.head?_append] using hc)
  · intro c hc
    exact hy.2 c (by simpa [List.getLast?_append] using hc)

theorem trim_blank_append {xs : List Char} (h : ∀ c ∈ xs, isBlank c = true) (ys : List Char) :
    trim (xs ++ ys) = trim ys := by
  rw [trim, trimStart, List.dropWhile_append_of_pos h]
  rfl

theorem trimEnd_append_blank (xs : List Char) {ys : List Char} (h : ∀ c ∈ ys, isBlank c = true) :
    trimEnd (xs ++ ys) = trimEnd xs := by
  rw [trimEnd, List.reverse_append, List.dropWhile_append_of_pos]
  · rfl
  · simpa using h

theorem trim_append_blank (xs : List Char) {ys : List Char} (h : ∀ c ∈ ys, isBlank c = true) :
    trim (xs ++ ys) = trim xs := by
  rw [trim, trim, trimStart, trimStart, List.dropWhile_append]
  split
  · rename_i hxs
    rw [List.isEmpty_iff.1 hxs, List.dropWhile_eq_nil_iff.2 h]
  · exact trimEnd_append_blank _ h

theorem exists_trimEnd_append (cs : List Char) :
    ∃ ys, cs = trimEnd cs ++ ys ∧ ∀ c ∈ ys, isBlank c = true := by
  refine ⟨(cs.reverse.takeWhile isBlank).reverse, ?_, ?_⟩
  · rw [trimEnd, ← List.reverse_append, List.takeWhile_append_dropWhile, List.reverse_reverse]
  · intro c hc
    exact List.mem_takeWhile_imp (List.mem_reverse.1 hc)

theorem exists_append_trim_append (cs : List Char) :
    ∃ xs ys, cs = xs ++ (trim cs ++ ys) ∧ (∀ c ∈ xs, isBlank c = true) ∧
      ∀ c ∈ ys, isBlank c = true := by
  obtain ⟨ys, hys, hblank⟩ := exists_trimEnd_append (trimStart cs)
  refine ⟨cs.takeWhile isBlank, ys, ?_, fun c => List.mem_takeWhile_imp, hblank⟩
  change cs = cs.takeWhile isBlank ++ (trimEnd (trimStart cs) ++ ys)
  rw [← hys, trimStart, List.takeWhile_append_dropWhile]

theorem trim_trimEnd (cs : List Char) : trim (trimEnd cs) = trim cs := by
  obtain ⟨ys, hcs, hblank⟩ := exists_trimEnd_append cs
  conv_rhs => rw [hcs]
  exact (trim_append_blank _ hblank).symm

theorem trim_append_of_trimmed {xs : List Char} (hne : xs ≠ []) (h : trim xs = xs)
    (ys : List Char) : trim (xs ++ ys) = xs ++ trimEnd ys := by
  obtain ⟨hfirst, hlast⟩ := trim_eq_self_iff.1 h
  obtain ⟨blanks, hys, hblank⟩ := exists_trimEnd_append ys
  have hend : trim (xs ++ ys) = trim (xs ++ trimEnd ys) := by
    conv_lhs => rw [hys, ← List.append_assoc]
    exact trim_append_blank _ hblank
  rw [hend, trim_eq_self_iff]
  constructor
  · intro c hc
    rw [List.head?_append_of_ne_nil xs hne] at hc
    exact hfirst c hc
  · intro c hc
    rw [List.getLast?_append, Option.mem_def, Option.or_eq_some_iff] at hc
    obtain hc | ⟨-, hc⟩ := hc
    · exact isBlank_of_getLast?_trimEnd hc
    · exact hlast c hc

theorem withoutReturn_isPrefix (cs : List Char) : withoutReturn cs <+: cs := by
  unfold withoutReturn
  split
  · exact List.dropLast_prefix cs
  · exact List.prefix_rfl

theorem withoutReturn_of_trimmed {cs : List Char} (h : trim cs = cs) : withoutReturn cs = cs := by
  rw [withoutReturn, if_neg]
  intro hr
  have := (trim_eq_self_iff.1 h).2 _ hr
  exact absurd this (by decide)

theorem of_mem_splitOn {a : Char} {cs p : List Char} (h : p ∈ cs.splitOn a) : a ∉ p ∧ p ⊆ cs := by
  induction cs generalizing p with
  | nil => simp_all
  | cons c cs ih =>
    rw [List.splitOn_cons_eq_if_modifyHead] at h
    split at h
    · rcases List.mem_cons.1 h with rfl | h
      · exact ⟨List.not_mem_nil, List.nil_subset _⟩
      · exact (ih h).imp_right (List.subset_cons_of_subset c)
    · rename_i hc
      obtain ⟨q, qs, hqs⟩ := List.exists_cons_of_ne_nil (List.splitOn_ne_nil a cs)
      rw [hqs, List.modifyHead_cons, List.mem_cons] at h
      rcases h with rfl | h
      · obtain ⟨hq, hsub⟩ := ih (p := q) (by simp [hqs])
        simp only [List.mem_cons, not_or]
        exact ⟨⟨fun he => hc (by simp [he]), hq⟩, List.cons_subset_cons c hsub⟩
      · have hp := ih (p := p) (by simp [hqs, h])
        exact hp.imp_right (List.subset_cons_of_subset c)

theorem not_mem_of_mem_splitOn {a : Char} {cs p : List Char} (h : p ∈ cs.splitOn a) : a ∉ p :=
  (of_mem_splitOn h).1

theorem mem_of_mem_intercalate {separator : List Char} {ls : List (List Char)} {c : Char}
    (h : c ∈ separator.intercalate ls) : c ∈ separator ∨ ∃ l ∈ ls, c ∈ l := by
  induction ls with
  | nil => cases h
  | cons l ls ih =>
    by_cases hls : ls = []
    · subst hls
      rw [List.intercalate_singleton] at h
      exact .inr ⟨l, List.mem_cons_self, h⟩
    · rw [List.intercalate_cons_of_ne_nil hls, List.mem_append, List.mem_append] at h
      rcases h with (h | h) | h
      · exact .inr ⟨l, List.mem_cons_self, h⟩
      · exact .inl h
      · exact (ih h).imp_right fun ⟨m, hm, hc⟩ => ⟨m, List.mem_cons_of_mem _ hm, hc⟩

theorem prefix_of_mem_linesOfPieces {l : List Char} {ps : List (List Char)}
    (h : l ∈ linesOfPieces ps) : ∃ p ∈ ps, l <+: p := by
  fun_induction linesOfPieces ps with
  | case1 => simp at h
  | case2 p => simp at h
  | case3 p =>
    rw [List.mem_singleton] at h
    exact ⟨p, List.mem_cons_self, h ▸ List.prefix_rfl⟩
  | case4 p ps _ ih =>
    rcases List.mem_cons.1 h with rfl | h
    · exact ⟨p, List.mem_cons_self, withoutReturn_isPrefix p⟩
    · obtain ⟨q, hq, hl⟩ := ih h
      exact ⟨q, List.mem_cons_of_mem _ hq, hl⟩

theorem newline_not_mem_of_mem_lines {cs l : List Char} (h : l ∈ lines cs) : '\n' ∉ l := by
  obtain ⟨p, hp, hl⟩ := prefix_of_mem_linesOfPieces h
  exact fun hn => not_mem_of_mem_splitOn hp (hl.subset hn)

theorem mem_of_mem_lines {cs l : List Char} (h : l ∈ lines cs) {c : Char} (hc : c ∈ l) : c ∈ cs := by
  obtain ⟨p, hp, hl⟩ := prefix_of_mem_linesOfPieces h
  exact (of_mem_splitOn hp).2 (hl.subset hc)

theorem lines_append_newline {l : List Char} (h : '\n' ∉ l) (rest : List Char) :
    lines (l ++ '\n' :: rest) = withoutReturn l :: lines rest := by
  obtain ⟨q, qs, hqs⟩ := List.exists_cons_of_ne_nil (List.splitOn_ne_nil '\n' rest)
  rw [lines, lines, List.splitOn_append_cons_self_of_not_mem h, hqs]
  rfl

/-- Lines that each end in a line feed are read back, less their carriage returns. -/
theorem lines_of_terminated {ls : List (List Char)} (h : ∀ l ∈ ls, '\n' ∉ l) :
    lines (ls.flatMap (· ++ ['\n'])) = ls.map withoutReturn := by
  induction ls with
  | nil => rfl
  | cons l ls ih =>
    rw [List.forall_mem_cons] at h
    change lines (l ++ ['\n'] ++ ls.flatMap (· ++ ['\n'])) = withoutReturn l :: ls.map withoutReturn
    rw [← ih h.2, ← lines_append_newline h.1, List.append_assoc, List.singleton_append]

theorem ofDecimal_decimal (n : Nat) : ofDecimal (decimal n) = n :=
  Nat.ofDigitChars_toDigits (by decide) (by decide)

theorem decimal_injective : Function.Injective decimal := by
  intro m n h
  rw [← ofDecimal_decimal m, h, ofDecimal_decimal]

theorem decimal_ne_nil (n : Nat) : decimal n ≠ [] :=
  Nat.toDigits_ne_nil

theorem isDigit_of_mem_decimal {n : Nat} {c : Char} (h : c ∈ decimal n) : c.isDigit = true :=
  Nat.isDigit_of_mem_toDigits (by decide) (by decide) h

theorem eq_zero_of_head?_decimal {n : Nat} (h : (decimal n).head? = some '0') : n = 0 := by
  induction n using Nat.strongRecOn with
  | ind n ih =>
    by_cases hn : n < 10
    · rw [decimal, Nat.toDigits_of_lt_base hn] at h
      have hdigit : ∀ d < 10, d.digitChar = '0' → d = 0 := by decide
      exact hdigit n hn (Option.some.inj h)
    · obtain ⟨c, cs, hcs⟩ := List.exists_cons_of_ne_nil (decimal_ne_nil (n / 10))
      rw [decimal, Nat.toDigits_of_base_le (by decide) (by omega), ← decimal, hcs] at h
      have hzero := ih (n / 10) (by omega) (hcs ▸ h)
      omega

theorem hexValue?_digitChar : ∀ d < 16, hexValue? d.digitChar = some d := by decide

theorem exists_digitChar_of_mem_hexadecimal {n : Nat} {c : Char} (h : c ∈ hexadecimal n) :
    ∃ d < 16, c = d.digitChar := by
  induction n using Nat.strongRecOn with
  | ind n ih =>
    rw [hexadecimal, Nat.toDigits_eq_if (by decide)] at h
    split at h
    · rename_i hn
      exact ⟨n, hn, List.mem_singleton.1 h⟩
    · rcases List.mem_append.1 h with h | h
      · exact ih (n / 16) (by omega) h
      · exact ⟨n % 16, Nat.mod_lt n (by decide), List.mem_singleton.1 h⟩

theorem ofHexadecimal?_hexadecimal (n : Nat) : ofHexadecimal? (hexadecimal n) = some n := by
  induction n using Nat.strongRecOn with
  | ind n ih =>
    rw [hexadecimal, Nat.toDigits_eq_if (by decide)]
    split
    · rename_i hn
      simp [ofHexadecimal?, hexValue?_digitChar n hn]
    · have hhigh := ih (n / 16) (by omega)
      have hlow := hexValue?_digitChar (n % 16) (Nat.mod_lt n (by decide))
      rw [ofHexadecimal?, hexadecimal] at hhigh
      rw [ofHexadecimal?, List.foldlM_append, hhigh]
      simp [hlow, Nat.div_add_mod]

theorem ofHexadecimal?_padLeft : ∀ n < 32, ∃ a b c d,
    padLeft 4 '0' (hexadecimal n) = [a, b, c, d] ∧ ofHexadecimal? [a, b, c, d] = some n := by
  have hfour : ∀ n < 32, (padLeft 4 '0' (hexadecimal n)).length = 4 ∧
      ofHexadecimal? (padLeft 4 '0' (hexadecimal n)) = some n := by decide
  intro n hn
  obtain ⟨hlength, hvalue⟩ := hfour n hn
  match padLeft 4 '0' (hexadecimal n), hlength, hvalue with
  | [a, b, c, d], _, hvalue => exact ⟨a, b, c, d, rfl, hvalue⟩

/-- No occurrence of `mark` begins in `xs`, whatever follows `xs`. -/
def Avoids (mark xs : List Char) : Prop :=
  ∀ ys u v, xs ++ ys = u ++ (mark ++ v) → xs <+: u

theorem avoids_nil (mark : List Char) : Avoids mark [] :=
  fun _ _ _ _ => List.nil_prefix

theorem Avoids.append {mark xs ys : List Char} (hx : Avoids mark xs) (hy : Avoids mark ys) :
    Avoids mark (xs ++ ys) := by
  intro zs u v h
  rw [List.append_assoc] at h
  obtain ⟨u', rfl⟩ := hx _ u v h
  rw [List.append_assoc] at h
  obtain ⟨u'', rfl⟩ := hy zs u' v (List.append_cancel_left h)
  exact ⟨u'', by simp⟩

theorem Avoids.cons {mark xs : List Char} {c : Char} (hc : ∀ ys, ¬mark <+: c :: (xs ++ ys))
    (hx : Avoids mark xs) : Avoids mark (c :: xs) := by
  intro ys u v h
  cases u with
  | nil => exact absurd ⟨v, h.symm⟩ (hc ys)
  | cons d u =>
    rw [List.cons_append, List.cons_append, List.cons.injEq] at h
    obtain ⟨rfl, h⟩ := h
    exact List.cons_prefix_cons.2 ⟨rfl, hx ys u v h⟩

theorem avoids_of_not_mem {c : Char} {mark xs : List Char} (h : c ∉ xs) :
    Avoids (c :: mark) xs := by
  induction xs with
  | nil => exact avoids_nil _
  | cons d xs ih =>
    rw [List.mem_cons, not_or] at h
    exact Avoids.cons (fun ys hp => h.1 (List.cons_prefix_cons.1 hp).1) (ih h.2)

theorem dropInfix?_of_avoids {mark xs : List Char} (h : Avoids mark xs) (ys : List Char) :
    (xs ++ (mark ++ ys)).dropInfix? mark = some (xs, ys) := by
  rw [List.dropInfix?_eq_some_iff]
  refine ⟨⟨mark, by rw [List.append_assoc], by simp⟩, ?_⟩
  intro u i v hsplit hi
  obtain rfl : i = mark := by simpa using hi
  rw [List.append_assoc] at hsplit
  exact (h _ u v hsplit).length_le

theorem Avoids.not_isInfix {mark xs : List Char} (h : Avoids mark xs) (hm : mark ≠ []) :
    ¬mark <:+: xs := by
  rintro ⟨u, v, hsplit⟩
  have hle := (h [] u v (by simpa using hsplit.symm)).length_le
  have hlength := congrArg List.length hsplit
  have hpos := List.length_pos_iff.2 hm
  simp only [List.length_append] at hlength
  omega

/-- With no other occurrence before or after it, an occurrence of a mark is the only one. -/
theorem eq_of_avoids {c : Char} {mark xs ys u v : List Char} (hc : c ∉ mark)
    (hx : Avoids (c :: mark) xs) (hy : Avoids (c :: mark) ys)
    (h : xs ++ (c :: mark ++ ys) = u ++ (c :: mark ++ v)) : u = xs := by
  obtain ⟨w, rfl⟩ := hx _ u v h
  rw [List.append_assoc] at h
  have hrest := List.append_cancel_left h
  cases w with
  | nil => exact List.append_nil xs
  | cons d w =>
    rw [List.cons_append, List.cons_append, List.cons.injEq] at hrest
    have hafter : Avoids (c :: mark) (mark ++ ys) := (avoids_of_not_mem hc).append hy
    exact absurd ⟨w, v, by rw [hrest.2, List.append_assoc]⟩
      (hafter.not_isInfix (List.cons_ne_nil c mark))

end Text

end Bata
