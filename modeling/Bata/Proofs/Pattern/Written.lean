import Bata.Pattern.Written
import Bata.Proofs.Pattern.Composed
import Mathlib.Tactic.Common

namespace Bata.Pattern

open Reader

/-- A written pattern that is accepted matches what its form says. -/
theorem exists_tree_of_ofChars {cs : List Char} {p : Pattern} (h : ofChars cs = .ok p) :
    ∃ t, Tree.ofChars cs = .ok t ∧ p.Matches = t.Matches := by
  unfold ofChars at h
  split at h
  · cases h
  · rename_i q hq
    split at h
    · cases h
    · obtain rfl := Except.ok.inj h
      obtain ⟨t, hchecked, hmeaning⟩ := bind_eq_ok_iff.1 hq
      obtain ⟨t', hread, hchecked⟩ := bind_eq_ok_iff.1 hchecked
      unfold Tree.checked at hchecked
      split at hchecked
      · cases hchecked
      · obtain rfl := Except.ok.inj hchecked
        exact ⟨_, hread, Tree.matches_of_meaning _ hmeaning⟩

theorem readPart_plain {c : Char} (hc : c ∉ metaCharacters) (p : Progress) (place : Nat)
    (rest : List Char) :
    (p.readPart c).run ⟨place, c :: rest, .initial⟩ =
      .ok (p.add (.item .initial (.literal (plainLiteral c place))) place,
        ⟨place + 1, rest, .initial⟩) := by
  unfold Progress.readPart
  -- in every case but the last one of both, `c` is a meta character
  split
  case h_10 =>
    split
    case h_4 => rfl
    all_goals exact absurd (by decide) hc
  all_goals exact absurd (by decide) hc

/-- What is read of characters that mean nothing in a pattern, with the places where they stand. -/
def plainParts : Nat → List Char → List (Tree × Nat)
  | _, [] => []
  | place, c :: cs =>
    (.item .initial (.literal (plainLiteral c place)), place) :: plainParts (place + 1) cs

theorem read_end (fuel : Nat) {p : Progress} (hgroups : p.groups = []) (place : Nat) :
    (Progress.read (fuel + 1) p).run ⟨place, [], .initial⟩ =
      .ok (p.draft.finish place, ⟨place, [], .initial⟩) := by
  obtain ⟨groups, draft, numbered, names⟩ := p
  obtain rfl : groups = [] := hgroups
  rfl

theorem read_next (fuel : Nat) (p : Progress) (c : Char) (cs : List Char) (place : Nat) :
    (Progress.read (fuel + 1) p).run ⟨place, c :: cs, .initial⟩ =
      (p.readPart c >>= Progress.read fuel).run ⟨place, c :: cs, .initial⟩ := rfl

theorem read_plain {cs : List Char} (hcs : ∀ c ∈ cs, c ∉ metaCharacters) {p : Progress}
    (hgroups : p.groups = []) {fuel : Nat} (hfuel : cs.length < fuel) (place : Nat) :
    (Progress.read fuel p).run ⟨place, cs, .initial⟩ =
      .ok ({ p.draft with parts := (plainParts place cs).reverse ++ p.draft.parts }.finish
        (place + cs.length), ⟨place + cs.length, [], .initial⟩) := by
  induction cs generalizing p fuel place with
  | nil =>
    obtain ⟨fuel, rfl⟩ := Nat.exists_eq_add_of_lt hfuel
    rw [read_end _ hgroups]
    rfl
  | cons c cs ih =>
    rw [List.forall_mem_cons] at hcs
    cases fuel with
    | zero => cases hfuel
    | succ fuel =>
      have hplace : place + 1 + cs.length = place + (cs.length + 1) := by omega
      have hrest := ih (p := p.add (.item .initial (.literal (plainLiteral c place))) place) hcs.2
        hgroups (Nat.lt_of_succ_lt_succ hfuel) (place + 1)
      rw [read_next, StateT.run_bind, readPart_plain hcs.1]
      refine Eq.trans hrest ?_
      rw [hplace]
      simp [plainParts, Progress.add, Draft.add]

theorem length_plainParts (place : Nat) (cs : List Char) :
    (plainParts place cs).length = cs.length := by
  induction cs generalizing place with
  | nil => rfl
  | cons c cs ih => rw [plainParts, List.length_cons, List.length_cons, ih]

theorem meanings_plainParts (place : Nat) (cs : List Char) :
    Tree.meanings ((plainParts place cs).map Prod.fst) = .ok (cs.map fun c => literal [c]) := by
  induction cs generalizing place with
  | nil => rfl
  | cons c cs ih =>
    rw [plainParts, List.map_cons, Tree.meanings, ih]
    rfl

theorem anyTooDeep?_plainParts (room place : Nat) (cs : List Char) :
    Tree.anyTooDeep? room ((plainParts place cs).map Prod.fst) = none := by
  induction cs generalizing place with
  | nil => rfl
  | cons c cs ih =>
    rw [plainParts, List.map_cons, Tree.anyTooDeep?, ih]
    rfl

theorem foldr_joinLiteral_literals (c : Char) (cs : List Char) :
    ((c :: cs).map fun c => literal [c]).foldr joinLiteral [] = [literal (c :: cs)] := by
  induction cs generalizing c with
  | nil => rfl
  | cons d cs ih =>
    rw [List.map_cons, List.foldr_cons, ih]
    rfl

theorem sequence_literals {cs : List Char} (hne : cs ≠ []) :
    sequence (cs.map fun c => literal [c]) = literal cs := by
  have hparts : (cs.map fun c => literal [c]).flatMap parts = cs.map fun c => literal [c] := by
    rw [List.flatMap_map]
    exact List.map_eq_flatMap.symm
  obtain ⟨c, cs, rfl⟩ := List.exists_cons_of_ne_nil hne
  rw [sequence, hparts, foldr_joinLiteral_literals]
  rfl

theorem sequence_of_length {d : Draft} (h : 2 ≤ d.parts.length) (stop : Nat) :
    d.sequence stop = .sequence (d.parts.reverse.map (·.1)) ⟨d.place, stop⟩ := by
  unfold Draft.sequence
  split
  · rename_i hnone
    rw [hnone] at h
    exact absurd h (by simp)
  · rename_i hone
    rw [hone] at h
    exact absurd h (by simp)
  · rfl

def plainTree (cs : List Char) : Tree :=
  Draft.finish { Draft.blank 0 with parts := (plainParts 0 cs).reverse } cs.length

theorem ofChars_plainTree {cs : List Char} (hcs : ∀ c ∈ cs, c ∉ metaCharacters) :
    Tree.ofChars cs = .ok (plainTree cs) := by
  have hread := read_plain hcs (p := ⟨[], .blank 0, 0, []⟩) rfl (Nat.lt_succ_self _) 0
  dsimp only [Draft.blank] at hread
  rw [Nat.zero_add, List.append_nil] at hread
  exact congrArg (Except.map Prod.fst) hread

theorem plainTree_eq_sequence {cs : List Char} (h : 2 ≤ cs.length) :
    plainTree cs = .sequence ((plainParts 0 cs).map Prod.fst) ⟨0, cs.length⟩ := by
  have hlength : 2 ≤ (plainParts 0 cs).reverse.length := by
    rwa [List.length_reverse, length_plainParts]
  have hparts : (plainParts 0 cs).reverse.reverse.map (·.1) = (plainParts 0 cs).map Prod.fst := by
    rw [List.reverse_reverse]
  rw [← hparts]
  exact sequence_of_length (d := { Draft.blank 0 with parts := (plainParts 0 cs).reverse })
    hlength _

theorem tooDeep?_plainTree (cs : List Char) : (plainTree cs).tooDeep? deepest = none := by
  by_cases h : 2 ≤ cs.length
  · rw [plainTree_eq_sequence h]
    exact anyTooDeep?_plainParts 249 0 cs
  · match cs with
    | [] => rfl
    | [c] => rfl
    | c :: d :: cs => exact absurd (Nat.le_add_left 2 _) h

theorem meaning_plainTree {cs : List Char} (hne : cs ≠ []) :
    (plainTree cs).meaning = .ok (.literal cs) := by
  by_cases h : 2 ≤ cs.length
  · rw [plainTree_eq_sequence h, Tree.meaning, meanings_plainParts, ← sequence_literals hne]
    rfl
  · match cs with
    | [] => exact absurd rfl hne
    | [c] => rfl
    | c :: d :: cs => exact absurd (Nat.le_add_left 2 _) h

theorem isWordSearch_literal {cs : List Char} (hne : bytes cs ≠ [])
    (hlength : (bytes cs).length ≤ Words.longestWord) : isWordSearch (.literal cs) = true := by
  have hcut : Word.cut Words.longestWord ⟨bytes cs, true⟩ = ⟨bytes cs, true⟩ :=
    if_neg (Nat.not_lt.2 hlength)
  have hcutAll : Word.cut (bytes cs).length ⟨bytes cs, true⟩ = ⟨bytes cs, true⟩ :=
    if_neg (Nat.lt_irrefl _)
  have hwords : (wordsAfter .nothing (.literal cs)).map Word.merge = some [⟨bytes cs, true⟩] := by
    rw [wordsAfter, hcut]
    rfl
  have hwhole : Word.searchIsWhole [⟨bytes cs, true⟩] = true := by
    simp [Word.searchIsWhole, Word.preferred, Word.common, Word.merge, Word.mergeInto, hcutAll,
      Word.shortened, Word.allWhole]
  rw [isWordSearch, hwords]
  simp [hwhole, isPlain, Word.shortest?, hne]

theorem bytes_ne_nil {cs : List Char} (hne : cs ≠ []) : bytes cs ≠ [] := by
  obtain ⟨c, cs, rfl⟩ := List.exists_cons_of_ne_nil hne
  simp [bytes, utf8Bytes, String.utf8EncodeChar_ne_nil]

/-- Without meta characters a text stands for itself. -/
theorem ofChars_plain {cs : List Char} (hne : cs ≠ []) (hcs : ∀ c ∈ cs, c ∉ metaCharacters)
    (hlength : (bytes cs).length ≤ Words.longestWord) : ofChars cs = .ok (.literal cs) := by
  have htree : Tree.ofChars cs >>= Tree.checked >>= Tree.meaning = .ok (.literal cs) := by
    rw [ofChars_plainTree hcs]
    change Tree.checked (plainTree cs) >>= Tree.meaning = _
    rw [Tree.checked, tooDeep?_plainTree]
    exact meaning_plainTree hne
  have hsearch := isWordSearch_literal (bytes_ne_nil hne) hlength
  have hrefusal : refusal? (.literal cs) = none := by
    rw [refusal?, withoutMachine?, if_pos hsearch]
    simp [hasWideWords]
  rw [ofChars, htree]
  dsimp only
  rw [hrefusal]

end Bata.Pattern
