import Bata.Pattern
import Mathlib.Data.List.Basic
import Mathlib.Logic.Function.Iterate
import Mathlib.Data.Nat.Init
import Mathlib.Tactic.Common

namespace Bata.Pattern

/-- A condition on a stretch of a text, with what stands before and after it. -/
abbrev Matching := List Char → List Char → List Char → Prop

namespace Matching

def stay : Matching :=
  fun _ s _ => s = []

def andThen (m m' : Matching) : Matching :=
  fun b s a => ∃ u v, s = u ++ v ∧ m b u (v ++ a) ∧ m' (b ++ u) v a

theorem stay_andThen (m : Matching) : stay.andThen m = m := by
  funext b s a
  simp [stay, andThen]

theorem andThen_stay (m : Matching) : m.andThen stay = m := by
  funext b s a
  simp [stay, andThen]

theorem andThen_assoc (m m' m'' : Matching) :
    (m.andThen m').andThen m'' = m.andThen (m'.andThen m'') := by
  funext b s a
  apply propext
  constructor
  · rintro ⟨_, v₂, rfl, ⟨u, v₁, rfl, hu, h₁⟩, h₂⟩
    exact ⟨u, v₁ ++ v₂, by simp, by simpa using hu, v₁, v₂, rfl, h₁, by simpa using h₂⟩
  · rintro ⟨u, _, rfl, hu, v₁, v₂, rfl, h₁, h₂⟩
    exact ⟨u ++ v₁, v₂, by simp, ⟨u, v₁, rfl, by simpa using hu, h₁⟩, by simpa using h₂⟩

end Matching

open Matching

/-- Matches side by side, `n` of them. -/
def Rounds (body : Matching) : Nat → Matching
  | 0 => stay
  | n + 1 => body.andThen (Rounds body n)

/-- The stretches that a pattern matches. Of a repetition no more rounds than `most` are made, but
never fewer than `least`. -/
def Matches : Pattern → Matching
  | .empty => stay
  | .literal cs => fun _ s _ => s = cs
  | .set chars _ => fun _ s _ => ∃ c, s = [c] ∧ chars.contains c = true
  | .assertion x => fun b s a => s = [] ∧ x.holds b.getLast? a.head? = true
  | .repeated p least most _ => fun b s a =>
    ∃ n, least ≤ n ∧ (∀ m ∈ most, n ≤ max least m) ∧ Rounds p.Matches n b s a
  | .group _ p => p.Matches
  | .both p q => p.Matches.andThen q.Matches
  | .either p q => fun b s a => p.Matches b s a ∨ q.Matches b s a

variable {body : Matching} {b s a : List Char}

theorem rounds_add (body : Matching) (i k : Nat) :
    Rounds body (i + k) = (Rounds body i).andThen (Rounds body k) := by
  induction i with
  | zero => rw [Nat.zero_add, Rounds, stay_andThen]
  | succ i ih => rw [Nat.succ_add, Rounds, Rounds, ih, andThen_assoc]

/-- More rounds than there are characters are not needed, since one of them is empty. -/
theorem rounds_of_succ {n : Nat} (hn : s.length ≤ n) (h : Rounds body (n + 1) b s a) :
    Rounds body n b s a := by
  induction n generalizing b s with
  | zero => exact List.eq_nil_of_length_eq_zero (Nat.le_zero.1 hn)
  | succ n ih =>
    obtain ⟨u, v, rfl, hu, hv⟩ := h
    by_cases hempty : u = []
    · subst hempty
      simpa using hv
    · have hlength : 0 < u.length := List.length_pos_of_ne_nil hempty
      rw [List.length_append] at hn
      exact ⟨u, v, rfl, hu, ih (by omega) hv⟩

theorem rounds_succ {n : Nat} (hn : s.length < n) (h : Rounds body n b s a) :
    Rounds body (n + 1) b s a := by
  induction n generalizing b s with
  | zero => exact absurd hn (Nat.not_lt_zero _)
  | succ n ih =>
    obtain ⟨u, v, rfl, hu, hv⟩ := h
    by_cases hempty : u = []
    · subst hempty
      have hrounds : Rounds body (n + 1) (b ++ []) v a := by
        rw [List.append_nil]
        exact ⟨[], v, rfl, hu, hv⟩
      exact ⟨[], v, rfl, hu, hrounds⟩
    · have hlength : 0 < u.length := List.length_pos_of_ne_nil hempty
      rw [List.length_append] at hn
      exact ⟨u, v, rfl, hu, ih (by omega) hv⟩

theorem rounds_iff_of_le {m n : Nat} (hm : s.length < m) (hn : m ≤ n) :
    Rounds body n b s a ↔ Rounds body m b s a := by
  induction n, hn using Nat.le_induction with
  | base => exact Iff.rfl
  | succ n hn ih =>
    rw [← ih]
    exact ⟨rounds_of_succ (by omega), rounds_succ (by omega)⟩

theorem rounds_min {places : Nat} (h : s.length < places) (n : Nat) :
    Rounds body (min n places) b s a ↔ Rounds body n b s a := by
  by_cases hn : n ≤ places
  · rw [Nat.min_eq_left hn]
  · rw [Nat.min_eq_right (by omega)]
    exact (rounds_iff_of_le h (by omega)).symm

/-- A round or none, again and again. -/
theorem rounds_or_stay (n : Nat) :
    Rounds (fun b s a => s = [] ∨ body b s a) n b s a ↔ ∃ k ≤ n, Rounds body k b s a := by
  induction n generalizing b s with
  | zero => simp [Rounds]
  | succ n ih =>
    constructor
    · rintro ⟨u, v, rfl, hu, hv⟩
      obtain ⟨k, hk, hrounds⟩ := ih.1 hv
      rcases hu with rfl | hu
      · exact ⟨k, by omega, by simpa using hrounds⟩
      · exact ⟨k + 1, by omega, u, v, rfl, hu, hrounds⟩
    · rintro ⟨k, hk, hrounds⟩
      cases k with
      | zero =>
        obtain rfl : s = [] := hrounds
        exact ⟨[], [], rfl, .inl rfl, ih.2 ⟨0, Nat.zero_le n, rfl⟩⟩
      | succ k =>
        obtain ⟨u, v, rfl, hu, hv⟩ := hrounds
        exact ⟨u, v, rfl, .inr hu, ih.2 ⟨k, by omega, hv⟩⟩

theorem exists_rounds_iff {places least : Nat} {most : Option Nat} (hs : s.length < places) :
    (Rounds body (min least places)).andThen (Rounds (fun b s a => s = [] ∨ body b s a)
        (match most with
          | none => places
          | some n => min (n - least) places)) b s a ↔
      ∃ n, least ≤ n ∧ (∀ m ∈ most, n ≤ max least m) ∧ Rounds body n b s a := by
  constructor
  · rintro ⟨u, v, rfl, hu, hv⟩
    obtain ⟨k, hk, hv⟩ := (rounds_or_stay _).1 hv
    rw [List.length_append] at hs
    rw [rounds_min (by omega)] at hu
    have hrounds : Rounds body (least + k) b (u ++ v) a := by
      rw [rounds_add]
      exact ⟨u, v, rfl, hu, hv⟩
    refine ⟨least + k, by omega, ?_, hrounds⟩
    rintro m rfl
    dsimp only at hk
    omega
  · rintro ⟨n, hleast, hmost, hrounds⟩
    rw [← Nat.add_sub_of_le hleast, rounds_add] at hrounds
    obtain ⟨u, v, rfl, hu, hv⟩ := hrounds
    rw [List.length_append] at hs
    refine ⟨u, v, rfl, (rounds_min (by omega) least).2 hu, (rounds_or_stay _).2
      ⟨min (n - least) places, ?_, (rounds_min (by omega) _).2 hv⟩⟩
    cases most with
    | none => exact Nat.min_le_right _ _
    | some m =>
      have := hmost m rfl
      dsimp only
      omega

/-- A step on the marks of a text that goes from where a stretch begins to where it ends. -/
structure Leads (text : List Char) (step : Marks → Marks) (body : Matching) : Prop where
  length {m : Marks} (hm : m.length = text.length + 1) : (step m).length = text.length + 1
  marked_iff {m : Marks} (hm : m.length = text.length + 1) {b a : List Char} (h : text = b ++ a) :
    (step m)[b.length]? = some true ↔
      ∃ b' s, b = b' ++ s ∧ m[b'.length]? = some true ∧ body b' s a

namespace Leads

variable {text : List Char} {step step' : Marks → Marks} {body body' : Matching}

theorem congr (hl : Leads text step body)
    (h : ∀ b s a, text = b ++ s ++ a → (body b s a ↔ body' b s a)) : Leads text step body' := by
  refine ⟨hl.length, fun {m} hm b a ht => ?_⟩
  rw [hl.marked_iff hm ht]
  constructor
  · rintro ⟨b', s, rfl, hmark, hbody⟩
    exact ⟨b', s, rfl, hmark, (h b' s a ht).1 hbody⟩
  · rintro ⟨b', s, rfl, hmark, hbody⟩
    exact ⟨b', s, rfl, hmark, (h b' s a ht).2 hbody⟩

theorem stay : Leads text id Matching.stay := by
  refine ⟨fun hm => hm, fun _ _ _ _ => ⟨fun h => ⟨_, [], by simp, h, rfl⟩, ?_⟩⟩
  rintro ⟨b', s, rfl, hmark, rfl⟩
  simpa using hmark

theorem comp (hl : Leads text step body) (hl' : Leads text step' body') :
    Leads text (fun m => step' (step m)) (body.andThen body') := by
  refine ⟨fun hm => hl'.length (hl.length hm), fun hm b a ht => ?_⟩
  rw [hl'.marked_iff (hl.length hm) ht]
  constructor
  · rintro ⟨b₁, v, rfl, hmark, hv⟩
    obtain ⟨b', u, rfl, hmark, hu⟩ := (hl.marked_iff hm (by rw [ht, List.append_assoc])).1 hmark
    exact ⟨b', u ++ v, by simp, hmark, u, v, rfl, hu, hv⟩
  · rintro ⟨b', _, rfl, hmark, u, v, rfl, hu, hv⟩
    refine ⟨b' ++ u, v, by simp, (hl.marked_iff hm (a := v ++ a) ?_).2 ⟨b', u, rfl, hmark, hu⟩, hv⟩
    simp [ht]

theorem union (hl : Leads text step body) (hl' : Leads text step' body') :
    Leads text (fun m => (step m).union (step' m)) fun b s a => body b s a ∨ body' b s a := by
  refine ⟨fun hm => ?_, fun {m} hm b a ht => ?_⟩
  · rw [Marks.union, List.length_zipWith, hl.length hm, hl'.length hm, Nat.min_self]
  · have hb : b.length < text.length + 1 := by rw [ht, List.length_append]; omega
    have hor : ((step m).union (step' m))[b.length]? = some true ↔
        (step m)[b.length]? = some true ∨ (step' m)[b.length]? = some true := by
      rw [Marks.union, List.getElem?_zipWith,
        List.getElem?_eq_getElem (show b.length < (step m).length by rw [hl.length hm]; exact hb),
        List.getElem?_eq_getElem (show b.length < (step' m).length by rw [hl'.length hm]; exact hb)]
      simp
    rw [hor, hl.marked_iff hm ht, hl'.marked_iff hm ht]
    constructor
    · rintro (⟨b', s, hb', hmark, hbody⟩ | ⟨b', s, hb', hmark, hbody⟩)
      · exact ⟨b', s, hb', hmark, .inl hbody⟩
      · exact ⟨b', s, hb', hmark, .inr hbody⟩
    · rintro ⟨b', s, hb', hmark, hbody | hbody⟩
      · exact .inl ⟨b', s, hb', hmark, hbody⟩
      · exact .inr ⟨b', s, hb', hmark, hbody⟩

theorem iterate (hl : Leads text step body) (n : Nat) : Leads text step^[n] (Rounds body n) := by
  induction n with
  | zero => exact stay
  | succ n ih => exact hl.comp ih

theorem onward (accepts : Char → Bool) :
    Leads text (Marks.onward accepts text) fun _ s _ => ∃ c, s = [c] ∧ accepts c = true := by
  refine ⟨fun hm => by simp [Marks.onward, hm], fun {m} hm b a ht => ?_⟩
  obtain rfl | ⟨b, c, rfl⟩ := List.eq_nil_or_concat' b
  · simp [Marks.onward]
  · have hc : text[b.length]? = some c := by simp [ht]
    have hmark : (Marks.onward accepts text m)[(b ++ [c]).length]? = some true ↔
        m[b.length]? = some true ∧ accepts c = true := by
      rw [List.length_append, List.length_singleton, Marks.onward, List.getElem?_cons_succ,
        List.getElem?_zipWith, hc]
      cases m[b.length]? <;> simp
    rw [hmark]
    constructor
    · rintro ⟨hm, hc⟩
      exact ⟨b, [c], rfl, hm, c, rfl, hc⟩
    · rintro ⟨b', s, hb', hm, d, rfl, hd⟩
      obtain ⟨rfl, hcd⟩ := List.append_inj' hb' rfl
      obtain rfl := List.cons.inj hcd |>.1
      exact ⟨hm, hd⟩

theorem literal (cs : List Char) :
    Leads text (fun m => cs.foldl (fun m c => Marks.onward (· = c) text m) m)
      fun _ s _ => s = cs := by
  induction cs with
  | nil => exact stay
  | cons c cs ih =>
    have hfirst : Leads text (Marks.onward (· = c) text) _ := onward _
    refine (hfirst.comp ih).congr fun b s a _ => ?_
    constructor
    · rintro ⟨u, v, rfl, ⟨d, rfl, hd⟩, rfl⟩
      rw [of_decide_eq_true hd, List.singleton_append]
    · rintro rfl
      exact ⟨[c], cs, rfl, ⟨c, rfl, decide_eq_true rfl⟩, rfl⟩

end Leads

theorem length_satisfying (x : Assertion) (before : Option Char) (text : List Char) {m : Marks}
    (hm : m.length = text.length + 1) : (Marks.satisfying x before text m).length = m.length := by
  induction text generalizing before m with
  | nil =>
    obtain ⟨marked, rfl⟩ := List.length_eq_one_iff.1 hm
    rfl
  | cons c cs ih =>
    cases m with
    | nil => cases hm
    | cons marked m =>
      rw [Marks.satisfying, List.length_cons, List.length_cons, ih _ (Nat.succ.inj hm)]

theorem getElem?_satisfying (x : Assertion) (before : Option Char) {b a : List Char} {m : Marks}
    (hm : m.length = (b ++ a).length + 1) :
    (Marks.satisfying x before (b ++ a) m)[b.length]? = some true ↔
      m[b.length]? = some true ∧ x.holds (b.getLast?.or before) a.head? = true := by
  induction b generalizing before m with
  | nil =>
    cases m with
    | nil => cases hm
    | cons marked m => cases a <;> simp [Marks.satisfying]
  | cons c b ih =>
    cases m with
    | nil => cases hm
    | cons marked m =>
      have hlast : (c :: b).getLast?.or before = b.getLast?.or (some c) := by
        cases b with
        | nil => rfl
        | cons d b => simp [List.getLast?_cons]
      rw [List.cons_append, Marks.satisfying, List.length_cons, List.getElem?_cons_succ,
        List.getElem?_cons_succ, hlast]
      exact ih (some c) (Nat.succ.inj hm)

theorem leads_satisfying (text : List Char) (x : Assertion) :
    Leads text (Marks.satisfying x none text)
      fun b s a => s = [] ∧ x.holds b.getLast? a.head? = true := by
  refine ⟨fun hm => by rw [length_satisfying x none text hm, hm], fun {m} hm b a ht => ?_⟩
  subst ht
  rw [getElem?_satisfying x none hm, Option.or_none]
  constructor
  · rintro ⟨hmark, hx⟩
    exact ⟨b, [], by simp, hmark, rfl, hx⟩
  · rintro ⟨b', s, rfl, hmark, rfl, hx⟩
    simpa using ⟨hmark, hx⟩

theorem after_eq_iterate (step : Marks → Marks) (n : Nat) (m : Marks) :
    Marks.after step n m = step^[n] m := by
  induction n generalizing m with
  | zero => rfl
  | succ n ih =>
    rw [Marks.after, Function.iterate_succ_apply]
    split
    · -- nothing changes any more
      rename_i hfixed
      rw [hfixed, Function.iterate_fixed hfixed]
    · exact ih _

/-- A pattern leads from where a match begins to where it ends. -/
theorem leads_reach (text : List Char) (p : Pattern) : Leads text (reach text p) p.Matches := by
  induction p with
  | empty => exact .stay
  | literal cs => exact .literal cs
  | set chars wide => exact .onward chars.contains
  | assertion x => exact leads_satisfying text x
  | group number p ih => exact ih
  | both p q ihp ihq => exact ihp.comp ihq
  | either p q ihp ihq => exact ihp.union ihq
  | repeated p least most greedy ih =>
    let places := text.length + 1
    let more := match most with
      | none => places
      | some n => min (n - least) places
    have hreach : reach text (.repeated p least most greedy) = fun m =>
        (fun m => Marks.union (id m) (reach text p m))^[more]
          ((reach text p)^[min least places] m) := by
      funext m
      rw [← after_eq_iterate, ← after_eq_iterate]
      rfl
    rw [hreach]
    refine ((ih.iterate (min least places)).comp ((Leads.stay.union ih).iterate more)).congr
      fun b s a ht => ?_
    have hs : s.length < places := by
      have := congrArg List.length ht
      simp only [List.length_append] at this
      omega
    exact exists_rounds_iff hs

/-- A pattern occurs in a text that has a stretch which it matches. -/
theorem occursIn_iff {p : Pattern} {text : List Char} :
    p.occursIn text = true ↔ ∃ b s a, text = b ++ s ++ a ∧ p.Matches b s a := by
  have hl := leads_reach text p
  have hall : (List.replicate (text.length + 1) true).length = text.length + 1 :=
    List.length_replicate
  rw [occursIn, List.any_eq_true]
  constructor
  · rintro ⟨marked, hmem, hmarked⟩
    obtain ⟨i, hi, rfl⟩ := List.mem_iff_getElem.1 hmem
    rw [hl.length hall] at hi
    have hi' : (text.take i).length = i := List.length_take_of_le (Nat.le_of_lt_succ hi)
    have hmark : (reach text p (List.replicate (text.length + 1) true))[(text.take i).length]? =
        some true := by
      rw [hi', List.getElem?_eq_getElem (by rw [hl.length hall]; exact hi)]
      exact congrArg some hmarked
    obtain ⟨b, s, htake, -, hmatch⟩ :=
      (hl.marked_iff hall (List.take_append_drop i text).symm).1 hmark
    exact ⟨b, s, text.drop i, by rw [← htake, List.take_append_drop], hmatch⟩
  · rintro ⟨b, s, a, rfl, hmatch⟩
    have hstart : (List.replicate ((b ++ s ++ a).length + 1) true)[b.length]? = some true := by
      rw [List.getElem?_replicate, if_pos (by simp only [List.length_append]; omega)]
    have hmark := (hl.marked_iff hall rfl).2 ⟨b, s, rfl, hstart, hmatch⟩
    exact ⟨true, List.mem_of_getElem? hmark, rfl⟩

theorem occursIn_literal_iff {cs text : List Char} :
    (literal cs).occursIn text = true ↔ cs <:+: text := by
  rw [occursIn_iff]
  constructor
  · rintro ⟨b, s, a, htext, hs⟩
    obtain rfl : s = cs := hs
    exact ⟨b, a, htext.symm⟩
  · rintro ⟨b, a, rfl⟩
    exact ⟨b, cs, a, rfl, rfl⟩

end Bata.Pattern
