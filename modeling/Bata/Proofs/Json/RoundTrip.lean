import Bata.Proofs.Json.Scalar
import Mathlib.Data.List.DropRight

namespace Bata.Json

def IsSpace (cs : List Char) : Prop :=
  ∀ c ∈ cs, c ∈ [' ', '\n', '\r', '\t']

theorem skipSpace_append {ws : List Char} (h : IsSpace ws) (cs : List Char) :
    skipSpace (ws ++ cs) = skipSpace cs := by
  refine List.dropWhile_append_of_pos fun c hc => ?_
  have := h c hc
  simpa [or_assoc] using this

theorem skipSpace_cons {c : Char} (h : c ∉ [' ', '\n', '\r', '\t']) (cs : List Char) :
    skipSpace (c :: cs) = c :: cs := by
  refine List.dropWhile_cons_of_neg ?_
  simpa [or_assoc] using h

theorem skipSpace_skipSpace (cs : List Char) : skipSpace (skipSpace cs) = skipSpace cs :=
  List.dropWhile_idempotent _ cs

theorem readValue_skipSpace (fuel : Nat) (cs : List Char) :
    readValue fuel (skipSpace cs) = readValue fuel cs := by
  cases fuel with
  | zero => rfl
  | succ fuel => rw [readValue, readValue, skipSpace_skipSpace]

theorem readValue_append {ws : List Char} (h : IsSpace ws) (fuel : Nat) (cs : List Char) :
    readValue fuel (ws ++ cs) = readValue fuel cs := by
  rw [← readValue_skipSpace, skipSpace_append h, readValue_skipSpace]

theorem readItems_skipSpace (fuel : Nat) (cs : List Char) :
    readItems fuel (skipSpace cs) = readItems fuel cs := by
  cases fuel with
  | zero => rfl
  | succ fuel => rw [readItems, readItems, readValue_skipSpace]

theorem readMembers_skipSpace (fuel : Nat) (cs : List Char) :
    readMembers fuel (skipSpace cs) = readMembers fuel cs := by
  cases fuel with
  | zero => rfl
  | succ fuel => rw [readMembers, readMembers, skipSpace_skipSpace]

theorem endsNumber_comma (rest : List Char) : EndsNumber (',' :: rest) := by
  intro c hc
  obtain rfl : ',' = c := Option.some.inj hc
  decide

namespace Layout

theorem isSpace_lineBreak (l : Layout) (depth : Nat) : IsSpace (l.lineBreak depth) := by
  intro c hc
  cases l with
  | compact => cases hc
  | indented width =>
    rcases List.mem_cons.1 hc with rfl | hc
    · decide
    · rw [List.eq_of_mem_replicate hc]
      decide

def joined (l : Layout) (depth : Nat) (items : List (List Char)) : List Char :=
  [','].intercalate (items.map (l.lineBreak depth ++ ·))

theorem joined_singleton (l : Layout) (depth : Nat) (x : List Char) :
    l.joined depth [x] = l.lineBreak depth ++ x := by
  simp [joined]

theorem joined_cons_cons (l : Layout) (depth : Nat) (x y : List Char) (ys : List (List Char)) :
    l.joined depth (x :: y :: ys) =
      l.lineBreak depth ++ (x ++ ',' :: l.joined depth (y :: ys)) := by
  simp [joined]

theorem bracketed_cons (l : Layout) (depth : Nat) (first last : Char) (x : List Char)
    (xs : List (List Char)) :
    l.bracketed depth first last (x :: xs) =
      first :: (l.joined (depth + 1) (x :: xs) ++ (l.lineBreak depth ++ [last])) := by
  simp [bracketed, joined]

theorem skipSpace_joined (l : Layout) (depth : Nat) {x : List Char} {c : Char} {cs : List Char}
    (hx : x = c :: cs) (hc : c ∉ [' ', '\n', '\r', '\t']) (xs : List (List Char))
    (rest : List Char) : ∃ more, skipSpace (l.joined depth (x :: xs) ++ rest) = c :: more := by
  cases xs with
  | nil =>
    rw [joined_singleton, List.append_assoc, skipSpace_append (l.isSpace_lineBreak depth), hx]
    exact ⟨_, skipSpace_cons hc _⟩
  | cons y ys =>
    rw [joined_cons_cons, List.append_assoc, skipSpace_append (l.isSpace_lineBreak depth), hx]
    exact ⟨_, skipSpace_cons hc _⟩

theorem skipSpace_ending (l : Layout) (depth : Nat) (last : Char)
    (h : last ∉ [' ', '\n', '\r', '\t']) (rest : List Char) :
    skipSpace (l.lineBreak depth ++ last :: rest) = last :: rest := by
  rw [skipSpace_append (l.isSpace_lineBreak depth), skipSpace_cons h]

theorem endsNumber_ending (l : Layout) (depth : Nat) (last : Char)
    (h : last ∈ [']', '\x7d']) (rest : List Char) :
    EndsNumber (l.lineBreak depth ++ last :: rest) := by
  intro c hc
  cases l with
  | compact =>
    obtain rfl : last = c := Option.some.inj hc
    simp only [List.mem_cons, List.not_mem_nil, or_false] at h
    rcases h with rfl | rfl <;> decide
  | indented width =>
    obtain rfl : '\n' = c := Option.some.inj hc
    decide

end Layout

theorem exists_colon (l : Layout) : ∃ gap, l.colon = ':' :: gap ∧ IsSpace gap := by
  cases l with
  | compact => exact ⟨[], rfl, fun _ h => nomatch h⟩
  | indented width => exact ⟨[' '], rfl, by simp [IsSpace]⟩

theorem readMembers_member (l : Layout) (depth fuel : Nat) (name : String) {v : Json}
    {text tail : List Char} (hv : readValue fuel (text ++ tail) = some (v, tail)) :
    let cs := l.lineBreak depth ++ (stringChars name ++ l.colon ++ text ++ tail)
    (∀ rest, skipSpace tail = ',' :: rest → readMembers (fuel + 1) cs =
      (readMembers fuel rest).map fun (ms, rest) => ((name, v) :: ms, rest)) ∧
    (∀ rest, skipSpace tail = '\x7d' :: rest →
      readMembers (fuel + 1) cs = some ([(name, v)], rest)) := by
  intro cs
  obtain ⟨gap, hcolon, hgap⟩ := exists_colon l
  have hcs : skipSpace cs =
      '"' :: (name.toList.flatMap escapeChar ++ '"' :: ':' :: (gap ++ (text ++ tail))) := by
    have hname : stringChars name ++ l.colon ++ text ++ tail =
        '"' :: (name.toList.flatMap escapeChar ++ '"' :: ':' :: (gap ++ (text ++ tail))) := by
      simp [stringChars, hcolon]
    rw [skipSpace_append (l.isSpace_lineBreak depth), hname, skipSpace_cons (by decide)]
  have hvalue : readValue fuel (gap ++ (text ++ tail)) = some (v, tail) := by
    rw [readValue_append hgap, hv]
  refine ⟨fun rest hrest => ?_, fun rest hrest => ?_⟩
  all_goals
    simp only [readMembers, hcs, readString_written, skipSpace_cons (c := ':') (by decide), hvalue,
      hrest]

theorem exists_cons_numberChars (n : Number) :
    ∃ c cs, n.chars = c :: cs ∧ (c = '-' ∨ c.isDigit = true) := by
  have hsigned : ∀ (negative : Bool) (k : Nat) (more : List Char),
      ∃ c cs, (if negative then ['-'] else []) ++ Text.decimal k ++ more = c :: cs ∧
        (c = '-' ∨ c.isDigit = true) := by
    intro negative k more
    obtain ⟨d, ds, hds⟩ := List.exists_cons_of_ne_nil (Text.decimal_ne_nil k)
    have hd : d.isDigit = true := Text.isDigit_of_mem_decimal (hds ▸ List.mem_cons_self)
    cases negative with
    | true => exact ⟨'-', _, rfl, .inl rfl⟩
    | false => exact ⟨d, _, by rw [hds]; rfl, .inr hd⟩
  cases n with
  | integer value =>
    have h := hsigned (decide (value < 0)) value.natAbs []
    rwa [List.append_nil, ← integerChars_eq] at h
  | decimal negative digits exponent => exact hsigned negative digits _

def starts : List Char :=
  ['n', 't', 'f', '"', '[', '\x7b']

theorem not_mem_of_number {c : Char} (h : c = '-' ∨ c.isDigit = true) {ds : List Char}
    (hd : (ds.all fun d => d != '-' && !d.isDigit) = true) : c ∉ ds := by
  intro hc
  have hc' := List.all_eq_true.1 hd c hc
  rcases h with rfl | h
  · cases hc'
  · rw [h, Bool.not_true, Bool.and_false] at hc'
    cases hc'

theorem readValue_number (fuel : Nat) (n : Number) {rest : List Char} (h : EndsNumber rest) :
    readValue (fuel + 1) (n.chars ++ rest) = some (.number n, rest) := by
  obtain ⟨c, cs, hcs, hc⟩ := exists_cons_numberChars n
  have hspace : c ∉ [' ', '\n', '\r', '\t'] := not_mem_of_number hc (by decide)
  have hstart : c ∉ starts := not_mem_of_number hc (by decide)
  have hread := readNumber_chars n h
  rw [hcs, List.cons_append] at hread ⊢
  rw [readValue, skipSpace_cons hspace]
  -- none of the other kinds of value starts so
  split <;> rename_i hsplit
  case h_7 => rw [hread]; rfl
  all_goals
    obtain rfl := (List.cons.inj hsplit).1
    exact absurd (by decide) hstart

theorem exists_cons_chars (l : Layout) (depth : Nat) (v : Json) :
    ∃ c cs, v.chars l depth = c :: cs ∧ c ∉ [' ', '\n', '\r', '\t'] ∧ c ≠ ']' := by
  cases v with
  | null => exact ⟨'n', _, rfl, by decide, by decide⟩
  | bool value =>
    cases value with
    | true => exact ⟨'t', _, rfl, by decide, by decide⟩
    | false => exact ⟨'f', _, rfl, by decide, by decide⟩
  | number n =>
    obtain ⟨c, cs, hcs, hc⟩ := exists_cons_numberChars n
    have hbracket : c ∉ [']'] := not_mem_of_number hc (by decide)
    exact ⟨c, cs, hcs, not_mem_of_number hc (by decide), by simpa using hbracket⟩
  | string s => exact ⟨'"', _, rfl, by decide, by decide⟩
  | array vs =>
    cases vs with
    | nil => exact ⟨'[', _, rfl, by decide, by decide⟩
    | cons v vs =>
      exact ⟨'[', _, by rw [chars, itemChars, Layout.bracketed_cons], by decide, by decide⟩
  | object ms =>
    cases ms with
    | nil => exact ⟨'\x7b', _, rfl, by decide, by decide⟩
    | cons m ms =>
      exact ⟨'\x7b', _, by rw [chars, memberChars, Layout.bracketed_cons], by decide, by decide⟩

mutual

/-- Each value and each bracket takes a character, so twice as much fuel as there are characters is
enough. -/
theorem readValue_chars (l : Layout) (v : Json) (depth fuel : Nat) {rest : List Char}
    (hf : 2 * (v.chars l depth).length ≤ fuel) (hr : EndsNumber rest) :
    readValue fuel (v.chars l depth ++ rest) = some (v, rest) := by
  obtain ⟨fuel, rfl⟩ : ∃ k, fuel = k + 1 := by
    obtain ⟨c, cs, hcs, -⟩ := exists_cons_chars l depth v
    rw [hcs, List.length_cons] at hf
    exact Nat.exists_eq_add_one.2 (by omega)
  match v with
  | .null => rfl
  | .bool true => rfl
  | .bool false => rfl
  | .number n => exact readValue_number fuel n hr
  | .string s =>
    have hchars : chars l depth (.string s) ++ rest =
        '"' :: (s.toList.flatMap escapeChar ++ '"' :: rest) := by
      simp [chars, stringChars]
    rw [hchars, readValue, skipSpace_cons (by decide)]
    simp only [readString_written, Option.map_some]
  | .array [] => rfl
  | .object [] => rfl
  | .array (v :: vs) =>
    rw [chars, itemChars, Layout.bracketed_cons, ← itemChars] at hf ⊢
    simp only [List.length_append, List.length_cons, List.length_nil] at hf
    have hvs := readItems_joined l (v :: vs) (List.cons_ne_nil v vs) (depth + 1) depth fuel rest
      (by omega)
    obtain ⟨c, cs, hcs, hspace, hbracket⟩ := exists_cons_chars l (depth + 1) v
    obtain ⟨more, hmore⟩ := l.skipSpace_joined (depth + 1) hcs hspace
      (itemChars l (depth + 1) vs) (l.lineBreak depth ++ ']' :: rest)
    rw [← itemChars] at hmore
    rw [← readItems_skipSpace, hmore] at hvs
    rw [List.cons_append, List.append_assoc, List.append_assoc, List.singleton_append, readValue,
      skipSpace_cons (by decide)]
    simp only [hmore]
    split
    · rename_i hsplit
      exact absurd (List.cons.inj hsplit).1 hbracket
    · rw [hvs, Option.map_some]
  | .object ((name, v) :: ms) =>
    rw [chars, memberChars, Layout.bracketed_cons, ← memberChars] at hf ⊢
    simp only [List.length_append, List.length_cons, List.length_nil] at hf
    have hms := readMembers_joined l ((name, v) :: ms) (List.cons_ne_nil _ ms) (depth + 1) depth
      fuel rest (by omega)
    have hname : ∃ cs, stringChars name ++ l.colon ++ v.chars l (depth + 1) = '"' :: cs :=
      ⟨_, rfl⟩
    obtain ⟨cs, hcs⟩ := hname
    obtain ⟨more, hmore⟩ := l.skipSpace_joined (depth + 1) hcs (by decide)
      (memberChars l (depth + 1) ms) (l.lineBreak depth ++ '\x7d' :: rest)
    rw [← memberChars] at hmore
    rw [← readMembers_skipSpace, hmore] at hms
    rw [List.cons_append, List.append_assoc, List.append_assoc, List.singleton_append, readValue,
      skipSpace_cons (by decide)]
    simp only [hmore]
    change (readMembers fuel ('"' :: more)).map _ = _
    rw [hms]
    rfl

theorem readItems_joined (l : Layout) (vs : List Json) (hvs : vs ≠ []) (depth outer fuel : Nat)
    (rest : List Char) (hf : 2 * (l.joined depth (itemChars l depth vs)).length + 1 ≤ fuel) :
    readItems fuel (l.joined depth (itemChars l depth vs) ++
      (l.lineBreak outer ++ ']' :: rest)) = some (vs, rest) := by
  obtain ⟨fuel, rfl⟩ : ∃ k, fuel = k + 1 := Nat.exists_eq_add_one.2 (by omega)
  match vs with
  | [] => exact absurd rfl hvs
  | [v] =>
    rw [itemChars, itemChars, Layout.joined_singleton] at hf ⊢
    rw [List.length_append] at hf
    have hv := readValue_chars l v depth fuel (by omega)
      (l.endsNumber_ending outer ']' (by decide) rest)
    rw [readItems, List.append_assoc, readValue_append (l.isSpace_lineBreak depth), hv]
    simp only [l.skipSpace_ending outer ']' (by decide)]
  | v :: w :: ws =>
    rw [itemChars, itemChars, Layout.joined_cons_cons, ← itemChars] at hf ⊢
    simp only [List.length_append, List.length_cons] at hf
    have hv := readValue_chars l v depth fuel (by omega)
      (endsNumber_comma (l.joined depth (itemChars l depth (w :: ws)) ++
        (l.lineBreak outer ++ ']' :: rest)))
    have hws := readItems_joined l (w :: ws) (List.cons_ne_nil w ws) depth outer fuel rest
      (by omega)
    rw [readItems, List.append_assoc, readValue_append (l.isSpace_lineBreak depth),
      List.append_assoc, List.cons_append, hv]
    simp only [skipSpace_cons (c := ',') (by decide), hws, Option.map_some]

theorem readMembers_joined (l : Layout) (ms : List (String × Json)) (hms : ms ≠ [])
    (depth outer fuel : Nat) (rest : List Char)
    (hf : 2 * (l.joined depth (memberChars l depth ms)).length + 1 ≤ fuel) :
    readMembers fuel (l.joined depth (memberChars l depth ms) ++
      (l.lineBreak outer ++ '\x7d' :: rest)) = some (ms, rest) := by
  obtain ⟨fuel, rfl⟩ : ∃ k, fuel = k + 1 := Nat.exists_eq_add_one.2 (by omega)
  match ms with
  | [] => exact absurd rfl hms
  | [(name, v)] =>
    rw [memberChars, memberChars, Layout.joined_singleton] at hf ⊢
    simp only [List.length_append] at hf
    have hv := readValue_chars l v depth fuel (by omega)
      (l.endsNumber_ending outer '\x7d' (by decide) rest)
    rw [List.append_assoc]
    exact (readMembers_member l depth fuel name hv).2 rest
      (l.skipSpace_ending outer '\x7d' (by decide) rest)
  | (name, v) :: (n, w) :: ms =>
    rw [memberChars, memberChars, Layout.joined_cons_cons, ← memberChars] at hf ⊢
    simp only [List.length_append, List.length_cons] at hf
    have hv := readValue_chars l v depth fuel (by omega)
      (endsNumber_comma (l.joined depth (memberChars l depth ((n, w) :: ms)) ++
        (l.lineBreak outer ++ '\x7d' :: rest)))
    have hrest := readMembers_joined l ((n, w) :: ms) (List.cons_ne_nil _ ms) depth outer fuel rest
      (by omega)
    rw [List.append_assoc, List.append_assoc, List.cons_append,
      (readMembers_member l depth fuel name hv).1 _ (skipSpace_cons (by decide) _), hrest]
    rfl

end

/-- Nothing of a value is lost in its text, in either layout. -/
theorem read?_write (l : Layout) (v : Json) : read? (v.write l) = some v := by
  have hend : EndsNumber [] := by
    intro c hc
    cases hc
  have hread := readValue_chars l v 0 (2 * (v.chars l 0).length + 2) (by omega) hend
  rw [List.append_nil] at hread
  simp [read?, write, hread, skipSpace]

end Bata.Json
