import Bata.Chart
import Mathlib.Data.List.GetD
import Mathlib.Data.List.Range
import Mathlib.Tactic.Common

namespace Bata

theorem pairwise_zipIdx {α : Type} (l : List α) : l.zipIdx.Pairwise fun a b => a.2 < b.2 := by
  have hrange : (l.zipIdx.map Prod.snd).Pairwise (· < ·) := by
    rw [List.zipIdx_map_snd]
    exact List.pairwise_lt_range'
  exact List.pairwise_map.1 hrange

theorem take_map_range {α : Type} (f : Nat → α) {m n : Nat} (h : m ≤ n) :
    ((List.range n).map f).take m = (List.range m).map f := by
  rw [← List.map_take, List.take_range, Nat.min_eq_left h]

namespace Ruling

theorem row_map_range {α : Type} (r : Ruling) (n : Nat) (f : Nat → α) :
    r.row ((List.range n).map f) = (List.range n).map fun i => ⟨r.endsBar i, f i⟩ := by
  apply List.ext_getElem
  · simp [row]
  · intro i hi _
    simp [row]

theorem fit_eq_map_range (r : Ruling) (filler : Char) (symbols : List Char) :
    r.fit filler symbols = (List.range r.columns).map fun i => symbols.getD i filler := by
  apply List.ext_getElem
  · simp [fit]
  · intro i hi _
    have hcolumn : i < r.columns := by simp [fit] at hi; omega
    simp only [fit, List.getElem_take, List.getElem_map, List.getElem_range]
    -- a column is before or after the end of the symbols
    by_cases hsymbol : i < symbols.length
    · rw [List.getElem_append_left hsymbol, List.getD_eq_getElem _ _ hsymbol]
    · rw [List.getElem_append_right (by omega), List.getElem_replicate,
        List.getD_eq_default _ _ (by omega)]

end Ruling

namespace Toque

/-- The symbol in a column of a drum; a rest where its part has ended. -/
def symbolAt (t : Toque) (d : Drum) (i : Nat) : Char :=
  (t.part d).toList.getD i Stroke.rest.symbol

theorem strokes_eq_map_range (t : Toque) (d : Drum) :
    t.strokes d = (List.range t.columns).map fun i => Stroke.drawn (t.symbolAt d i) := by
  rw [strokes, Ruling.fit_eq_map_range, List.map_map]
  rfl

theorem columns_le_iff {t : Toque} {n : Nat} :
    t.columns ≤ n ↔ ∀ d, (t.part d).length ≤ n := by
  simp only [columns, Drum.all, List.map_cons, List.map_nil, List.foldr_cons, List.foldr_nil]
  constructor
  · intro h d
    cases d <;> omega
  · intro h
    have hokonkolo := h .okonkolo
    have hitotele := h .itotele
    have hiya := h .iya
    omega

theorem length_part_le_columns (t : Toque) (d : Drum) : (t.part d).length ≤ t.columns :=
  columns_le_iff.1 (Nat.le_refl _) d

theorem map_symbolAt_range (t : Toque) (d : Drum) :
    (List.range t.columns).map (t.symbolAt d) =
      (t.part d).toList ++ List.replicate (t.columns - (t.part d).length) Stroke.rest.symbol := by
  have hlength : (t.part d).toList.length ≤ t.columns := by
    rw [String.length_toList]
    exact t.length_part_le_columns d
  have hfit : t.ruling.fit Stroke.rest.symbol (t.part d).toList =
      (List.range t.columns).map (t.symbolAt d) :=
    Ruling.fit_eq_map_range ..
  have hcolumns : t.ruling.columns = t.columns := rfl
  rw [← hfit, Ruling.fit, List.take_append, hcolumns, List.take_of_length_le hlength,
    List.take_replicate, String.length_toList]
  congr 2
  omega

theorem symbolAt_of_getElem? {t : Toque} {d : Drum} {i : Nat} {c : Char}
    (h : (t.part d).toList[i]? = some c) : i < t.columns ∧ t.symbolAt d i = c := by
  have hi : i < (t.part d).length := by
    rw [← String.length_toList]
    exact (List.getElem?_eq_some_iff.1 h).1
  have hle := t.length_part_le_columns d
  refine ⟨by omega, ?_⟩
  rw [symbolAt, List.getD_eq_getElem?_getD, h, Option.getD_some]

end Toque

namespace Ruling

structure GroupsAreBars (r : Ruling) : Prop where
  pos : 0 < r.groupLength
  barLength_eq : r.barLength = r.groupLength

/-- The first column, and the columns right behind a bar line. -/
def StartsBar (r : Ruling) : Nat → Prop
  | 0 => True
  | i + 1 => r.endsBar i = true

variable {r : Ruling}

theorem endsBar_iff (h : r.GroupsAreBars) {i : Nat} :
    r.endsBar i = true ↔ (i + 1) % r.groupLength = 0 := by
  rw [endsBar, decide_eq_true_eq, h.barLength_eq]

theorem startsBar_iff (h : r.GroupsAreBars) {i : Nat} :
    r.StartsBar i ↔ i % r.groupLength = 0 := by
  cases i with
  | zero => simp [StartsBar]
  | succ i => exact endsBar_iff h

theorem isSome_groupNumber? {i : Nat} :
    (r.groupNumber? i).isSome = true ↔ i % r.groupLength = 0 := by
  unfold groupNumber?
  split_ifs with hi <;> simp [hi]

theorem placeInGroup_eq_barLength_iff (h : r.GroupsAreBars) {i : Nat} :
    r.placeInGroup i = r.barLength ↔ r.endsBar i = true := by
  have hlt := Nat.mod_lt i h.pos
  rw [endsBar_iff h, h.barLength_eq, placeInGroup, ← Nat.mod_add_mod]
  constructor
  · intro hlast
    rw [hlast, Nat.mod_self]
  · intro hnext
    by_contra hne
    rw [Nat.mod_eq_of_lt (by omega)] at hnext
    omega

theorem placeInGroup_succ (h : r.GroupsAreBars) {i : Nat} (hi : ¬r.StartsBar (i + 1)) :
    r.placeInGroup (i + 1) = r.placeInGroup i + 1 := by
  have hlt := Nat.mod_lt i h.pos
  have hlast : r.placeInGroup i ≠ r.barLength := mt (placeInGroup_eq_barLength_iff h).1 hi
  rw [h.barLength_eq, placeInGroup] at hlast
  rw [placeInGroup, placeInGroup, ← Nat.mod_add_mod, Nat.mod_eq_of_lt (by omega)]

theorem placeInGroup_eq_one_iff (h : r.GroupsAreBars) {i : Nat} :
    r.placeInGroup i = 1 ↔ r.StartsBar i := by
  rw [startsBar_iff h, placeInGroup]
  omega

theorem filterMap_groupNumber?_range (h : 0 < r.groupLength) (n : Nat) :
    (List.range n).filterMap r.groupNumber? =
      List.range' 1 ((n + r.groupLength - 1) / r.groupLength) := by
  induction n with
  | zero =>
    rw [Nat.zero_add, Nat.div_eq_of_lt (by omega)]
    rfl
  | succ n ih =>
    have hend : n + r.groupLength - 1 + 1 = n + r.groupLength := by omega
    have hbegins : r.groupLength ∣ n + r.groupLength - 1 + 1 ↔ n % r.groupLength = 0 := by
      rw [hend, Nat.dvd_add_self_right, Nat.dvd_iff_mod_eq_zero]
    rw [List.range_succ, List.filterMap_append, ih,
      show n + 1 + r.groupLength - 1 = n + r.groupLength - 1 + 1 by omega]
    by_cases hn : n % r.groupLength = 0
    · -- column `n` begins a group, whose number is the next one
      have hnext := Nat.succ_div_of_dvd (hbegins.2 hn)
      have hquotient : (n + r.groupLength - 1 + 1) / r.groupLength = n / r.groupLength + 1 := by
        rw [hend, Nat.add_div_right n h]
      have hnumber : r.groupNumber? n = some (1 + (n + r.groupLength - 1) / r.groupLength) := by
        rw [groupNumber?, if_pos hn, ← hquotient, hnext, Nat.add_comm]
      rw [hnext, List.range'_concat, Nat.one_mul, List.filterMap_cons_some hnumber,
        List.filterMap_nil]
    · have hnumber : r.groupNumber? n = none := by rw [groupNumber?, if_neg hn]
      rw [Nat.succ_div_of_not_dvd (mt hbegins.1 hn), List.filterMap_cons_none hnumber,
        List.filterMap_nil, List.append_nil]

theorem getLast?_groupNumber?_range (h : 0 < r.groupLength) (i : Nat) :
    ((List.range (i + 1)).filterMap r.groupNumber?).getLast? = some (i / r.groupLength + 1) := by
  rw [filterMap_groupNumber?_range h, show i + 1 + r.groupLength - 1 = i + r.groupLength by omega,
    Nat.add_div_right i h, List.range'_concat, List.getLast?_concat, Nat.one_mul, Nat.add_comm]

theorem countP_endsBar_range (r : Ruling) (n : Nat) :
    (List.range n).countP r.endsBar = n / r.barLength := by
  induction n with
  | zero => simp
  | succ n ih =>
    rw [List.range_succ, List.countP_append, ih, Nat.succ_div, List.countP_singleton, endsBar]
    simp [Nat.dvd_iff_mod_eq_zero]

end Ruling

end Bata
