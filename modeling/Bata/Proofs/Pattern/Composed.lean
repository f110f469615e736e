import Bata.Pattern.Meaning
import Bata.Proofs.Pattern
import Bata.Proofs.Text.Basic
import Mathlib.Tactic.Common

namespace Bata

namespace CharSet

theorem contains_cons (r : CharRange) (s : CharSet) (c : Char) :
    CharSet.contains (r :: s) c = true ↔ r.contains c = true ∨ s.contains c = true := by
  rw [CharSet.contains, List.any_cons, Bool.or_eq_true]
  rfl

theorem contains_range_iff {r : CharRange} {c : Char} :
    r.contains c = true ↔ r.first.toNat ≤ c.toNat ∧ c.toNat ≤ r.last.toNat := by
  rw [CharRange.contains, Bool.and_eq_true, decide_eq_true_iff, decide_eq_true_iff]
  exact Iff.rfl

theorem toNat_earlierChar (c d : Char) : (earlierChar c d).toNat = min c.toNat d.toNat := by
  have hle : c ≤ d ↔ c.toNat ≤ d.toNat := Iff.rfl
  rw [earlierChar]
  split <;> rename_i h <;> rw [hle] at h <;> omega

theorem toNat_laterChar (c d : Char) : (laterChar c d).toNat = max c.toNat d.toNat := by
  have hle : c ≤ d ↔ c.toNat ≤ d.toNat := Iff.rfl
  rw [laterChar]
  split <;> rename_i h <;> rw [hle] at h <;> omega

/-- Nothing stands between two ranges that touch. -/
theorem contains_hull {r s : CharRange} (h : r.touches s = true) (c : Char) :
    (r.hull s).contains c = true ↔ r.contains c = true ∨ s.contains c = true := by
  rw [CharRange.touches, decide_eq_true_iff] at h
  simp only [contains_range_iff, CharRange.hull, toNat_earlierChar, toNat_laterChar]
  omega

theorem contains_insert (r : CharRange) (s : CharSet) (c : Char) :
    (insert r s).contains c = true ↔ r.contains c = true ∨ s.contains c = true := by
  induction s generalizing r with
  | nil => exact contains_cons r [] c
  | cons q s ih =>
    rw [insert]
    split_ifs with htouches hbefore
    · rw [ih, contains_hull htouches, contains_cons, or_assoc]
    · exact contains_cons r _ c
    · rw [contains_cons, contains_cons, ih]
      exact or_left_comm

theorem contains_union (s t : CharSet) (c : Char) :
    (s.union t).contains c = true ↔ s.contains c = true ∨ t.contains c = true := by
  rw [union]
  induction t generalizing s with
  | nil => simp [CharSet.contains]
  | cons r t ih =>
    rw [List.foldl_cons, ih, contains_insert, contains_cons, or_assoc]
    exact or_left_comm

theorem contains_single (c d : Char) :
    CharRange.contains ⟨d, d⟩ c = true ↔ c = d := by
  rw [contains_range_iff, ← Char.toNat_inj]
  exact ⟨fun h => Nat.le_antisymm h.2 h.1, fun h => ⟨Nat.le_of_eq h.symm, Nat.le_of_eq h⟩⟩

theorem contains_ofChars (cs : List Char) (c : Char) :
    (ofChars cs).contains c = true ↔ c ∈ cs := by
  have hunion : ofChars cs = CharSet.union [] (cs.map fun c => ⟨c, c⟩) := rfl
  rw [hunion, contains_union]
  simp [CharSet.contains, contains_single]

theorem contains_foldl_union (ss : List CharSet) (c : Char) :
    (ss.foldl union []).contains c = true ↔ ∃ s ∈ ss, s.contains c = true := by
  have hfold : ∀ t : CharSet, (ss.foldl union t).contains c = true ↔
      t.contains c = true ∨ ∃ s ∈ ss, s.contains c = true := by
    induction ss with
    | nil => simp
    | cons s ss ih => simp [ih, contains_union, or_assoc]
  rw [hfold]
  simp [CharSet.contains]

end CharSet

namespace Pattern

open Matching

theorem rounds_one (body : Matching) : Rounds body 1 = body :=
  andThen_stay body

theorem matches_literal_append (cs ds : List Char) :
    (literal (cs ++ ds)).Matches = (literal cs).Matches.andThen (literal ds).Matches := by
  funext b s a
  simp [Matches, andThen]

/-- Patterns in a row. -/
def RowMatches : List Pattern → Matching
  | [] => stay
  | p :: ps => p.Matches.andThen (RowMatches ps)

theorem rowMatches_singleton (p : Pattern) : RowMatches [p] = p.Matches :=
  andThen_stay _

theorem rowMatches_append (ps qs : List Pattern) :
    RowMatches (ps ++ qs) = (RowMatches ps).andThen (RowMatches qs) := by
  induction ps with
  | nil => exact (stay_andThen _).symm
  | cons p ps ih => rw [List.cons_append, RowMatches, RowMatches, ih, andThen_assoc]

theorem rowMatches_parts (p : Pattern) : RowMatches p.parts = p.Matches := by
  induction p with
  | empty => rfl
  | both p q _ ih => rw [parts, RowMatches, ih, Matches]
  | literal | set | assertion | repeated | group | either => exact rowMatches_singleton _

theorem rowMatches_flatMap_parts (ps : List Pattern) :
    RowMatches (ps.flatMap parts) = RowMatches ps := by
  induction ps with
  | nil => rfl
  | cons p ps ih => rw [List.flatMap_cons, rowMatches_append, rowMatches_parts, ih, RowMatches]

theorem rowMatches_joinLiteral (p : Pattern) (ps : List Pattern) :
    RowMatches (joinLiteral p ps) = RowMatches (p :: ps) := by
  unfold joinLiteral
  split
  · rw [RowMatches, RowMatches, RowMatches, matches_literal_append, andThen_assoc]
  · rfl

theorem rowMatches_foldr_joinLiteral (ps : List Pattern) :
    RowMatches (ps.foldr joinLiteral []) = RowMatches ps := by
  induction ps with
  | nil => rfl
  | cons p ps ih => rw [List.foldr_cons, rowMatches_joinLiteral, RowMatches, ih, RowMatches]

theorem matches_ofParts (ps : List Pattern) : (ofParts ps).Matches = RowMatches ps := by
  induction ps with
  | nil => rfl
  | cons p ps ih =>
    cases ps with
    | nil => exact (rowMatches_singleton p).symm
    | cons q qs => exact congrArg p.Matches.andThen ih

theorem matches_sequence (ps : List Pattern) : (sequence ps).Matches = RowMatches ps := by
  rw [sequence, matches_ofParts, rowMatches_foldr_joinLiteral, rowMatches_flatMap_parts]

theorem eq_nil_of_onlyEmpty {p : Pattern} (h : p.onlyEmpty = true) {b s a : List Char}
    (hm : p.Matches b s a) : s = [] := by
  induction p generalizing b s a with
  | empty => exact hm
  | literal | set => cases h
  | assertion => exact hm.1
  | group number p ih => exact ih h hm
  | both p q ihp ihq =>
    rw [onlyEmpty, Bool.and_eq_true] at h
    obtain ⟨u, v, rfl, hu, hv⟩ := hm
    rw [ihp h.1 hu, ihq h.2 hv, List.append_nil]
  | either p q ihp ihq =>
    rw [onlyEmpty, Bool.and_eq_true] at h
    exact hm.elim (ihp h.1) (ihq h.2)
  | repeated p least most greedy ih =>
    rw [onlyEmpty, Bool.and_eq_true] at h
    obtain ⟨n, -, -, hrounds⟩ := hm
    induction n generalizing b s with
    | zero => exact hrounds
    | succ n ihn =>
      obtain ⟨u, v, rfl, hu, hv⟩ := hrounds
      rw [ih h.2 hu, ihn hv, List.append_nil]

/-- Of what is empty one round is as good as many. -/
theorem rounds_of_onlyEmpty {p : Pattern} (h : p.onlyEmpty = true) (n : Nat) :
    Rounds p.Matches (n + 1) = p.Matches := by
  induction n with
  | zero => exact rounds_one _
  | succ n ih =>
    funext b s a
    rw [Rounds, ih]
    apply propext
    constructor
    · rintro ⟨u, v, rfl, hu, hv⟩
      obtain rfl := eq_nil_of_onlyEmpty h hu
      simpa using hv
    · intro hs
      obtain rfl := eq_nil_of_onlyEmpty h hs
      exact ⟨[], [], rfl, hs, by simpa using hs⟩

theorem matches_repeated_of_onlyEmpty {p : Pattern} (h : p.onlyEmpty = true) (least : Nat)
    (most : Option Nat) (greedy : Bool) {b s a : List Char} :
    (repeated p least most greedy).Matches b s a ↔
      if least = 0 then s = [] else p.Matches b s a := by
  cases least with
  | zero =>
    constructor
    · rintro ⟨n, -, -, hrounds⟩
      cases n with
      | zero => exact hrounds
      | succ n =>
        rw [rounds_of_onlyEmpty h] at hrounds
        exact eq_nil_of_onlyEmpty h hrounds
    · exact fun hs => ⟨0, Nat.le_refl 0, fun _ _ => Nat.zero_le _, hs⟩
  | succ least =>
    constructor
    · rintro ⟨n, hleast, -, hrounds⟩
      obtain ⟨n, rfl⟩ := Nat.exists_eq_add_of_le' hleast
      rwa [← Nat.add_assoc, rounds_of_onlyEmpty h] at hrounds
    · intro hs
      refine ⟨least + 1, Nat.le_refl _, fun m _ => Nat.le_max_left _ m, ?_⟩
      rwa [rounds_of_onlyEmpty h]

theorem matches_repeated_exactly (p : Pattern) (n : Nat) (greedy : Bool) :
    (repeated p n (some n) greedy).Matches = Rounds p.Matches n := by
  funext b s a
  apply propext
  constructor
  · rintro ⟨k, hleast, hmost, hrounds⟩
    have hk : k ≤ max n n := hmost n rfl
    obtain rfl : k = n := by omega
    exact hrounds
  · intro hrounds
    exact ⟨n, Nat.le_refl n, fun m _ => Nat.le_max_left n m, hrounds⟩

/-- How often something is repeated is only simplified where that makes no difference. -/
theorem matches_times (p : Pattern) (least : Nat) (most : Option Nat) (greedy : Bool) :
    (p.times least most greedy).Matches = (repeated p least most greedy).Matches := by
  have hsimple : ∀ least most, (if least = 0 ∧ most = some 0 then .empty
      else if least = 1 ∧ most = some 1 then p
      else .repeated p least most greedy : Pattern).Matches =
        (repeated p least most greedy).Matches := by
    intro least most
    split_ifs with hzero hone
    · obtain ⟨rfl, rfl⟩ := hzero
      exact (matches_repeated_exactly p 0 greedy).symm
    · obtain ⟨rfl, rfl⟩ := hone
      rw [matches_repeated_exactly, rounds_one]
    · rfl
  rw [times]
  by_cases hempty : p.onlyEmpty = true
  · have hzero : min least 1 = 0 ↔ least = 0 := by omega
    rw [if_pos hempty]
    refine (hsimple _ _).trans ?_
    funext b s a
    apply propext
    simp only [matches_repeated_of_onlyEmpty hempty, hzero]
  · rw [if_neg hempty]
    exact hsimple least most

/-- One of several patterns. -/
def AnyMatches (ps : List Pattern) : Matching :=
  fun b s a => ∃ p ∈ ps, p.Matches b s a

theorem anyMatches_cons {p : Pattern} {ps : List Pattern} {b s a : List Char} :
    AnyMatches (p :: ps) b s a ↔ p.Matches b s a ∨ AnyMatches ps b s a := by
  simp [AnyMatches]

theorem anyMatches_singleton (p : Pattern) {b s a : List Char} :
    AnyMatches [p] b s a ↔ p.Matches b s a := by
  simp [AnyMatches]

theorem anyMatches_alternatives (p : Pattern) {b s a : List Char} :
    AnyMatches p.alternatives b s a ↔ p.Matches b s a := by
  induction p with
  | either p q _ ih => rw [alternatives, anyMatches_cons, ih, Matches]
  | empty | literal | set | assertion | repeated | group | both => exact anyMatches_singleton _

theorem anyMatches_flatMap_alternatives (ps : List Pattern) {b s a : List Char} :
    AnyMatches (ps.flatMap alternatives) b s a ↔ AnyMatches ps b s a := by
  simp only [AnyMatches, List.mem_flatMap]
  constructor
  · rintro ⟨q, ⟨p, hp, hq⟩, hm⟩
    exact ⟨p, hp, (anyMatches_alternatives p).1 ⟨q, hq, hm⟩⟩
  · rintro ⟨p, hp, hm⟩
    obtain ⟨q, hq, hm⟩ := (anyMatches_alternatives p).2 hm
    exact ⟨q, ⟨p, hp, hq⟩, hm⟩

theorem not_matches_never {b s a : List Char} : ¬never.Matches b s a := by
  rintro ⟨c, -, hc⟩
  cases hc

theorem matches_ofAlternatives (ps : List Pattern) {b s a : List Char} :
    (ofAlternatives ps).Matches b s a ↔ AnyMatches ps b s a := by
  induction ps with
  | nil => simp [ofAlternatives, AnyMatches, not_matches_never]
  | cons p ps ih =>
    cases ps with
    | nil => exact (anyMatches_singleton p).symm
    | cons q qs =>
      rw [anyMatches_cons, ← ih]
      exact Iff.rfl

theorem matches_ofSet (chars : CharSet) (wide : Bool) :
    (ofSet chars wide).Matches = (set chars wide).Matches := by
  unfold ofSet
  split
  · rfl
  · rename_i r
    split_ifs with hr
    · obtain ⟨first, last⟩ := r
      obtain rfl : first = last := hr
      funext b s a
      simp [Matches, CharSet.contains, CharSet.contains_single]
    · rfl
  · rfl

theorem anyMatches_of_mapM {α : Type} {f : Pattern → Option α} {ps : List Pattern} {xs : List α}
    (h : ps.mapM f = some xs) {b s a : List Char} {holds : α → Prop}
    (hf : ∀ p x, f p = some x → (p.Matches b s a ↔ holds x)) :
    AnyMatches ps b s a ↔ ∃ x ∈ xs, holds x := by
  induction ps generalizing xs with
  | nil =>
    obtain rfl : [] = xs := by simpa using h
    simp [AnyMatches]
  | cons p ps ih =>
    rw [List.mapM_cons] at h
    obtain ⟨x, hx, h⟩ := Option.bind_eq_some_iff.1 h
    obtain ⟨rest, hrest, h⟩ := Option.bind_eq_some_iff.1 h
    obtain rfl : x :: rest = xs := Option.some.inj h
    rw [anyMatches_cons, hf p x hx, ih hrest]
    simp

theorem matches_of_singleChar? {p : Pattern} {c : Char} (h : singleChar? p = some c)
    {b s a : List Char} : p.Matches b s a ↔ s = [c] := by
  unfold singleChar? at h
  split at h
  · obtain rfl := Option.some.inj h
    exact Iff.rfl
  · cases h

theorem matches_of_charSet? {p : Pattern} {chars : CharSet} (h : charSet? p = some chars)
    {b s a : List Char} : p.Matches b s a ↔ ∃ c, s = [c] ∧ chars.contains c = true := by
  unfold charSet? at h
  split at h
  · obtain rfl := Option.some.inj h
    exact Iff.rfl
  · cases h

theorem matches_of_commonSet? {ps : List Pattern} {chars : CharSet} (wide : Bool)
    (h : commonSet? ps = some chars) {b s a : List Char} :
    (set chars wide).Matches b s a ↔ AnyMatches ps b s a := by
  unfold commonSet? at h
  split at h
  · rename_i cs hcs
    obtain rfl := Option.some.inj h
    rw [anyMatches_of_mapM hcs fun _ _ hc => matches_of_singleChar? hc]
    simp [Matches, CharSet.contains_ofChars, and_comm]
  · obtain ⟨ss, hss, rfl⟩ := Option.map_eq_some_iff.1 h
    rw [anyMatches_of_mapM hss fun _ _ hc => matches_of_charSet? hc]
    simp only [Matches, CharSet.contains_foldl_union]
    constructor
    · rintro ⟨c, hs, t, ht, hc⟩
      exact ⟨t, ht, c, hs, hc⟩
    · rintro ⟨t, ht, c, hs, hc⟩
      exact ⟨c, hs, t, ht, hc⟩

theorem matches_choiceOf (ps : List Pattern) {b s a : List Char} :
    (choiceOf ps).Matches b s a ↔ AnyMatches ps b s a := by
  unfold choiceOf
  split
  · simp [AnyMatches, not_matches_never]
  · exact (anyMatches_singleton _).symm
  · split
    · rename_i hs
      rw [matches_ofSet, matches_of_commonSet? true hs]
    · exact matches_ofAlternatives _

theorem commonStart_prefix (ps qs : List Pattern) :
    commonStart ps qs <+: ps ∧ commonStart ps qs <+: qs := by
  induction ps generalizing qs with
  | nil => exact ⟨List.prefix_rfl, List.nil_prefix⟩
  | cons p ps ih =>
    cases qs with
    | nil => exact ⟨List.nil_prefix, List.prefix_rfl⟩
    | cons q qs =>
      rw [commonStart]
      split_ifs with h
      · obtain rfl := h
        exact ⟨List.cons_prefix_cons.2 ⟨rfl, (ih qs).1⟩, List.cons_prefix_cons.2 ⟨rfl, (ih qs).2⟩⟩
      · exact ⟨List.nil_prefix, List.nil_prefix⟩

theorem foldl_commonStart_prefix (ps : List Pattern) (start : List Pattern) :
    ps.foldl (fun start q => commonStart start q.parts) start <+: start ∧
      ∀ p ∈ ps, ps.foldl (fun start q => commonStart start q.parts) start <+: p.parts := by
  induction ps generalizing start with
  | nil => exact ⟨List.prefix_rfl, List.forall_mem_nil _⟩
  | cons p ps ih =>
    obtain ⟨hstart, hrest⟩ := ih (commonStart start p.parts)
    obtain ⟨hleft, hright⟩ := commonStart_prefix start p.parts
    exact ⟨hstart.trans hleft, List.forall_mem_cons.2 ⟨hstart.trans hright, hrest⟩⟩

theorem sharedStart_prefix {ps : List Pattern} {p : Pattern} (hp : p ∈ ps) :
    sharedStart ps <+: p.parts := by
  unfold sharedStart
  split
  · exact List.nil_prefix
  · exact List.nil_prefix
  · rename_i q qs _
    split_ifs
    · obtain ⟨hfirst, hrest⟩ := foldl_commonStart_prefix qs q.parts
      obtain rfl | hp := List.mem_cons.1 hp
      · exact hfirst
      · exact hrest p hp
    · exact List.nil_prefix

/-- What rows begin with can be matched once for all of them. -/
theorem rowMatches_shared {start : List Pattern} {ps : List Pattern}
    (h : ∀ p ∈ ps, start <+: p.parts) {b s a : List Char} :
    RowMatches (start ++ [choiceOf ((ps.map fun p =>
        sequence (p.parts.drop start.length)).flatMap alternatives)]) b s a ↔
      AnyMatches ps b s a := by
  have hsplit : ∀ p ∈ ps,
      p.Matches = (RowMatches start).andThen (RowMatches (p.parts.drop start.length)) := by
    intro p hp
    obtain ⟨rest, hrest⟩ := h p hp
    rw [← rowMatches_parts p, ← hrest, rowMatches_append, List.drop_left]
  rw [rowMatches_append, rowMatches_singleton]
  constructor
  · rintro ⟨u, v, rfl, hu, hv⟩
    rw [matches_choiceOf, anyMatches_flatMap_alternatives] at hv
    obtain ⟨q, hq, hv⟩ := hv
    obtain ⟨p, hp, rfl⟩ := List.mem_map.1 hq
    rw [matches_sequence] at hv
    refine ⟨p, hp, ?_⟩
    rw [hsplit p hp]
    exact ⟨u, v, rfl, hu, hv⟩
  · rintro ⟨p, hp, hm⟩
    rw [hsplit p hp] at hm
    obtain ⟨u, v, rfl, hu, hv⟩ := hm
    refine ⟨u, v, rfl, hu, ?_⟩
    rw [matches_choiceOf, anyMatches_flatMap_alternatives]
    exact ⟨_, List.mem_map.2 ⟨p, hp, rfl⟩, by rwa [matches_sequence]⟩

/-- A choice matches what one of its alternatives matches, however it has been rearranged. -/
theorem matches_choice (ps : List Pattern) {b s a : List Char} :
    (choice ps).Matches b s a ↔ AnyMatches ps b s a := by
  rw [← anyMatches_flatMap_alternatives, choice]
  split
  · exact matches_choiceOf _
  · rw [matches_sequence]
    exact rowMatches_shared fun p hp => sharedStart_prefix hp

namespace Tree

mutual

/-- What a written pattern matches by its form: characters, sets and assertions match as they are
meant, and everything else as its parts do. -/
def Matches : Tree → Matching
  | .repeated body least most _ _ => fun b s a =>
    ∃ n, least ≤ n ∧ (∀ m ∈ most, n ≤ max least m) ∧ Rounds body.Matches n b s a
  | .group _ body _ => body.Matches
  | .sequence parts _ => AllMatch parts
  | .choice alternatives _ => SomeMatches alternatives
  | t => fun b s a => ∃ p, t.meaning = .ok p ∧ p.Matches b s a

def AllMatch : List Tree → Matching
  | [] => stay
  | t :: ts => t.Matches.andThen (AllMatch ts)

def SomeMatches : List Tree → Matching
  | [] => fun _ _ _ => False
  | t :: ts => fun b s a => t.Matches b s a ∨ SomeMatches ts b s a

end

theorem matches_leaf {t : Tree} {p : Pattern} (h : t.meaning = .ok p) :
    p.Matches = fun b s a => ∃ p, t.meaning = .ok p ∧ p.Matches b s a := by
  funext b s a
  simp [h]

mutual

/-- A pattern matches what it is written for, whatever has been put together differently. -/
theorem matches_of_meaning (t : Tree) {p : Pattern} (h : t.meaning = .ok p) :
    p.Matches = t.Matches := by
  match t with
  | .empty | .flags | .item _ _ | .dot _ _ | .assertion _ | .set _ _ => exact matches_leaf h
  | .repeated body least most greedy _ =>
    rw [meaning] at h
    obtain ⟨q, hq, h⟩ := bind_eq_ok_iff.1 h
    obtain rfl := Except.ok.inj h
    rw [matches_times, Pattern.Matches, matches_of_meaning body hq, Tree.Matches]
  | .group number body _ =>
    rw [meaning] at h
    obtain ⟨q, hq, h⟩ := bind_eq_ok_iff.1 h
    obtain rfl := Except.ok.inj h
    rw [Tree.Matches, ← matches_of_meaning body hq]
    cases number <;> rfl
  | .sequence parts _ =>
    rw [meaning] at h
    obtain ⟨ps, hps, h⟩ := bind_eq_ok_iff.1 h
    obtain rfl := Except.ok.inj h
    rw [matches_sequence, rowMatches_of_meanings parts hps, Tree.Matches]
  | .choice alternatives _ =>
    rw [meaning] at h
    obtain ⟨ps, hps, h⟩ := bind_eq_ok_iff.1 h
    obtain rfl := Except.ok.inj h
    funext b s a
    apply propext
    rw [matches_choice, anyMatches_of_meanings alternatives hps, Tree.Matches]

theorem rowMatches_of_meanings (ts : List Tree) {ps : List Pattern} (h : meanings ts = .ok ps) :
    RowMatches ps = AllMatch ts := by
  match ts with
  | [] =>
    obtain rfl := Except.ok.inj h
    rfl
  | t :: ts =>
    rw [meanings] at h
    obtain ⟨p, hp, h⟩ := bind_eq_ok_iff.1 h
    obtain ⟨qs, hqs, h⟩ := bind_eq_ok_iff.1 h
    obtain rfl := Except.ok.inj h
    rw [RowMatches, AllMatch, matches_of_meaning t hp, rowMatches_of_meanings ts hqs]

theorem anyMatches_of_meanings (ts : List Tree) {ps : List Pattern} (h : meanings ts = .ok ps)
    {b s a : List Char} : AnyMatches ps b s a ↔ SomeMatches ts b s a := by
  match ts with
  | [] =>
    obtain rfl := Except.ok.inj h
    simp [AnyMatches, SomeMatches]
  | t :: ts =>
    rw [meanings] at h
    obtain ⟨p, hp, h⟩ := bind_eq_ok_iff.1 h
    obtain ⟨qs, hqs, h⟩ := bind_eq_ok_iff.1 h
    obtain rfl := Except.ok.inj h
    rw [anyMatches_cons, SomeMatches, matches_of_meaning t hp, anyMatches_of_meanings ts hqs]

end

end Tree

end Pattern

end Bata
