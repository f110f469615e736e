import Bata.Proofs.Page.Table
import Bata.Toque
import Mathlib.Tactic.Common

namespace Bata

namespace Stroke

theorem ofSymbol?_eq_none_iff {c : Char} :
    ofSymbol? c = none ↔ c ∉ ['-', 'A', 'P', 'S', 'I'] := by
  rw [ofSymbol?, List.find?_eq_none]
  simp [all, symbol, eq_comm]

end Stroke

namespace Warning

/-- Where a warning belongs: the signature before the rows of the drums, then the column. -/
def place : Warning → Nat × Nat
  | .unknownSignature _ => (0, 0)
  | .noSymbols d => (d.rank + 1, 0)
  | .unknownSymbol d column _ => (d.rank + 1, column)

def Before (v w : Warning) : Prop :=
  v.place.1 < w.place.1 ∨ v.place.1 = w.place.1 ∧ v.place.2 < w.place.2

def isUnknownSymbolOf (d : Drum) : Warning → Bool
  | .unknownSymbol e _ _ => e = d
  | _ => false

theorem Before.ne {v w : Warning} (h : Before v w) : v ≠ w := by
  rintro rfl
  obtain h | ⟨-, h⟩ := h
  · exact lt_irrefl _ h
  · exact lt_irrefl _ h

end Warning

open Markup

def DataCell.isDrawn (cell : DataCell) : Bool :=
  cell.content.any fun m => m.hasTag "svg" && !m.children.isEmpty

/-- The row that has the name of a drum in front. -/
def rowOf? (document : String) (d : Drum) : Option TableRow :=
  (tableRows? document).bind fun rows => rows.find? (·.label = d.name)

namespace Toque

theorem unknownSymbols_eq (symbols : List Char) :
    unknownSymbols symbols =
      (symbols.zipIdx.filter fun p => (Stroke.ofSymbol? p.1).isNone).map Prod.swap := by
  rw [unknownSymbols]
  induction symbols.zipIdx with
  | nil => rfl
  | cons p ps ih =>
    obtain ⟨c, i⟩ := p
    rw [List.filterMap_cons, List.filter_cons, ih]
    by_cases hnone : (Stroke.ofSymbol? c).isNone
    · simp [hnone]
    · simp [hnone]

theorem mem_unknownSymbols {symbols : List Char} {i : Nat} {c : Char} :
    (i, c) ∈ unknownSymbols symbols ↔ symbols[i]? = some c ∧ Stroke.ofSymbol? c = none := by
  rw [unknownSymbols_eq, List.mem_map]
  constructor
  · rintro ⟨⟨x, j⟩, hmem, hswap⟩
    obtain ⟨rfl, rfl⟩ := Prod.mk.inj hswap
    rw [List.mem_filter, List.mk_mem_zipIdx_iff_getElem?, Option.isNone_iff_eq_none] at hmem
    exact hmem
  · rintro ⟨hget, hnone⟩
    refine ⟨(c, i), ?_, rfl⟩
    rw [List.mem_filter, List.mk_mem_zipIdx_iff_getElem?, Option.isNone_iff_eq_none]
    exact ⟨hget, hnone⟩

theorem pairwise_unknownSymbols (symbols : List Char) :
    (unknownSymbols symbols).Pairwise (fun a b => a.1 < b.1) := by
  rw [unknownSymbols_eq, List.pairwise_map]
  exact (pairwise_zipIdx symbols).filter _

theorem mem_partWarnings {t : Toque} {d : Drum} {w : Warning} :
    w ∈ t.partWarnings d ↔ t.part d = "" ∧ w = .noSymbols d ∨
      ∃ i c, (i, c) ∈ unknownSymbols (t.part d).toList ∧ w = .unknownSymbol d i c := by
  rw [partWarnings]
  split_ifs with hpart
  · rw [hpart]
    simp [unknownSymbols]
  · simp [hpart, eq_comm]

theorem place_of_mem_partWarnings {t : Toque} {d : Drum} {w : Warning}
    (h : w ∈ t.partWarnings d) : w.place.1 = d.rank + 1 := by
  obtain ⟨-, rfl⟩ | ⟨i, c, -, rfl⟩ := mem_partWarnings.1 h
  · rfl
  · rfl

theorem pairwise_partWarnings (t : Toque) (d : Drum) : (t.partWarnings d).Pairwise Warning.Before := by
  rw [partWarnings]
  split_ifs with hpart
  · exact List.pairwise_singleton _ _
  · rw [List.pairwise_map]
    exact (pairwise_unknownSymbols _).imp fun hlt => .inr ⟨rfl, hlt⟩

theorem pairwise_warnings (t : Toque) : t.warnings.Pairwise Warning.Before := by
  have hsignature : ∀ v ∈ t.signatureWarnings, v.place.1 = 0 := by
    intro v hv
    rw [signatureWarnings] at hv
    split_ifs at hv with hmeter
    · obtain rfl := List.mem_singleton.1 hv
      rfl
    · cases hv
  rw [warnings, List.pairwise_append, List.pairwise_flatMap]
  refine ⟨?_, ⟨fun d _ => t.pairwise_partWarnings d, ?_⟩, ?_⟩
  · rw [signatureWarnings]
    split_ifs <;> simp
  · -- from one drum to a later one, whatever their columns are
    have hranks : Drum.all.Pairwise (fun d e => d.rank < e.rank) := by decide
    refine hranks.imp fun hlt v hv w hw => .inl ?_
    rw [place_of_mem_partWarnings hv, place_of_mem_partWarnings hw]
    omega
  · intro v hv w hw
    obtain ⟨d, -, hd⟩ := List.mem_flatMap.1 hw
    left
    rw [hsignature v hv, place_of_mem_partWarnings hd]
    omega

theorem mem_warnings {t : Toque} {w : Warning} :
    w ∈ t.warnings ↔ w ∈ t.signatureWarnings ∨ ∃ d, w ∈ t.partWarnings d := by
  rw [warnings, List.mem_append, List.mem_flatMap]
  simp [Drum.mem_all]

theorem mem_signatureWarnings {t : Toque} {w : Warning} :
    w ∈ t.signatureWarnings ↔ t.meter = .other ∧ w = .unknownSignature t.timeSignature := by
  rw [signatureWarnings]
  by_cases hmeter : t.meter = .other
  · simp [hmeter]
  · simp [hmeter]

theorem unknownSignature_mem_warnings {t : Toque} {s : String} :
    .unknownSignature s ∈ t.warnings ↔ s = t.timeSignature ∧ s ≠ "4/4" ∧ s ≠ "6/8" := by
  have hparts : ¬∃ d, Warning.unknownSignature s ∈ t.partWarnings d := by
    rintro ⟨d, hd⟩
    have hplace := place_of_mem_partWarnings hd
    simp [Warning.place] at hplace
  rw [mem_warnings, or_iff_left hparts, mem_signatureWarnings, meter, Meter.ofSignature_eq_other,
    Warning.unknownSignature.injEq]
  constructor
  · rintro ⟨hne, rfl⟩
    exact ⟨rfl, hne⟩
  · rintro ⟨rfl, hne⟩
    exact ⟨hne, rfl⟩

theorem part_eq_empty_iff {t : Toque} {d : Drum} :
    t.part d = "" ↔ t.parts.get? d = none ∨ t.parts.get? d = some "" := by
  rw [part]
  cases t.parts.get? d <;> simp

theorem noSymbols_mem_warnings {t : Toque} {d : Drum} :
    .noSymbols d ∈ t.warnings ↔ t.parts.get? d = none ∨ t.parts.get? d = some "" := by
  rw [← part_eq_empty_iff, mem_warnings, mem_signatureWarnings]
  constructor
  · rintro (⟨-, h⟩ | ⟨e, he⟩)
    · cases h
    · obtain ⟨hpart, h⟩ | ⟨_, _, -, h⟩ := mem_partWarnings.1 he
      · obtain rfl := Warning.noSymbols.inj h
        exact hpart
      · cases h
  · intro hpart
    exact .inr ⟨d, mem_partWarnings.2 (.inl ⟨hpart, rfl⟩)⟩

theorem unknownSymbol_mem_warnings {t : Toque} {d : Drum} {i : Nat} {c : Char} :
    .unknownSymbol d i c ∈ t.warnings ↔
      (t.part d).toList[i]? = some c ∧ Stroke.ofSymbol? c = none := by
  rw [← mem_unknownSymbols, mem_warnings, mem_signatureWarnings]
  constructor
  · rintro (⟨-, h⟩ | ⟨e, he⟩)
    · cases h
    · obtain ⟨-, h⟩ | ⟨_, _, hmem, h⟩ := mem_partWarnings.1 he
      · cases h
      · obtain ⟨rfl, rfl, rfl⟩ := Warning.unknownSymbol.inj h
        exact hmem
  · intro hmem
    exact .inr ⟨d, mem_partWarnings.2 (.inr ⟨i, c, hmem, rfl⟩)⟩

theorem warnings_eq_nil_iff {t : Toque} :
    t.warnings = [] ↔ (t.timeSignature = "4/4" ∨ t.timeSignature = "6/8") ∧
      (∀ d, t.part d ≠ "") ∧ ∀ d, ∀ c ∈ (t.part d).toList, c ∈ ['-', 'A', 'P', 'S', 'I'] := by
  constructor
  · intro h
    have hno : ∀ w, w ∉ t.warnings := by simp [h]
    refine ⟨?_, fun d hpart => ?_, fun d c hc => ?_⟩
    · by_contra hsignature
      exact hno (.unknownSignature t.timeSignature)
        (unknownSignature_mem_warnings.2 ⟨rfl, not_or.1 hsignature⟩)
    · exact hno (.noSymbols d) (noSymbols_mem_warnings.2 (part_eq_empty_iff.1 hpart))
    · by_contra hsymbol
      obtain ⟨i, hi⟩ := List.getElem?_of_mem hc
      exact hno (.unknownSymbol d i c)
        (unknownSymbol_mem_warnings.2 ⟨hi, Stroke.ofSymbol?_eq_none_iff.2 hsymbol⟩)
  · rintro ⟨hsignature, hpart, hsymbols⟩
    rw [List.eq_nil_iff_forall_not_mem]
    intro w hw
    cases w with
    | unknownSignature s =>
      obtain ⟨rfl, hne⟩ := unknownSignature_mem_warnings.1 hw
      exact not_or.2 hne hsignature
    | unknownSymbol d i c =>
      obtain ⟨hi, hnone⟩ := unknownSymbol_mem_warnings.1 hw
      exact Stroke.ofSymbol?_eq_none_iff.1 hnone (hsymbols d c (List.mem_of_getElem? hi))
    | noSymbols d => exact hpart d (part_eq_empty_iff.2 (noSymbols_mem_warnings.1 hw))

theorem length_unknownSymbols (symbols : List Char) :
    (unknownSymbols symbols).length = symbols.countP fun c => (Stroke.ofSymbol? c).isNone := by
  have hsymbols : symbols.zipIdx.map Prod.fst = symbols := List.zipIdx_map_fst 0 symbols
  rw [unknownSymbols_eq, List.length_map, ← List.countP_eq_length_filter]
  conv_rhs => rw [← hsymbols, List.countP_map]
  rfl

theorem countP_partWarnings (t : Toque) (d e : Drum) :
    (t.partWarnings e).countP (Warning.isUnknownSymbolOf d) =
      if e = d then (t.part d).toList.countP fun c => (Stroke.ofSymbol? c).isNone else 0 := by
  rw [partWarnings]
  by_cases hpart : t.part e = ""
  · rw [if_pos hpart]
    split_ifs with he
    · rw [← he, hpart]
      rfl
    · rfl
  · rw [if_neg hpart, List.countP_map]
    split_ifs with he
    · subst he
      rw [← length_unknownSymbols, List.countP_eq_length]
      intro _ _
      simp [Warning.isUnknownSymbolOf]
    · rw [List.countP_eq_zero]
      intro _ _
      simp [Warning.isUnknownSymbolOf, he]

theorem countP_warnings (t : Toque) (d : Drum) :
    t.warnings.countP (Warning.isUnknownSymbolOf d) =
      (t.part d).toList.countP fun c => (Stroke.ofSymbol? c).isNone := by
  have hsignature : t.signatureWarnings.countP (Warning.isUnknownSymbolOf d) = 0 := by
    rw [List.countP_eq_zero]
    intro w hw
    rw [(mem_signatureWarnings.1 hw).2]
    simp [Warning.isUnknownSymbolOf]
  rw [warnings, List.countP_append, hsignature, List.countP_flatMap]
  simp only [Function.comp_def, countP_partWarnings]
  cases d <;> simp [Drum.all]

theorem glyph_eq_nil_iff {d : Drum} {c : Char} :
    glyph d c = [] ↔ c = '-' ∨ Stroke.ofSymbol? c = none := by
  rw [glyph]
  cases h : Stroke.ofSymbol? c with
  | none => simp
  | some s =>
    obtain rfl := Stroke.symbol_of_ofSymbol? h
    cases s <;> simp [Stroke.figure, Stroke.symbol]

theorem isDrawn_drumCell (t : Toque) (d : Drum) (i : Nat) :
    (t.drumCell d i).isDrawn = !(glyph d (t.symbolAt d i)).isEmpty := by
  simp [DataCell.isDrawn, drumCell, hasTag, children]

theorem rowOf?_document (t : Toque) (d : Drum) : rowOf? t.document d = some (t.drumRow d) := by
  have hupper : decide (t.upperRow.label = d.name) = false := by
    rw [upperRow]
    cases t.meter <;> cases d <;> rfl
  have hlower : decide (t.lowerRow.label = d.name) = false := by
    rw [lowerRow]
    cases t.meter <;> cases d <;> rfl
  rw [rowOf?, tableRows?_eq, Option.bind_some, List.find?_cons, hupper, List.find?_cons, hlower]
  cases d <;> rfl

/-- A symbol is drawn, a rest, or unknown. -/
theorem countP_glyph_add (d : Drum) (symbols : List Char) :
    symbols.countP (fun c => !(glyph d c).isEmpty) + symbols.count '-' +
      symbols.countP (fun c => (Stroke.ofSymbol? c).isNone) = symbols.length := by
  induction symbols with
  | nil => rfl
  | cons c cs ih =>
    rw [List.countP_cons, List.count_cons, List.countP_cons, List.length_cons]
    by_cases hrest : c = '-'
    · have hsymbol : Stroke.ofSymbol? '-' = some .rest := by decide
      simp [glyph_eq_nil_iff, hrest, hsymbol]
      omega
    · by_cases hnone : Stroke.ofSymbol? c = none
      · simp [glyph_eq_nil_iff, hrest, hnone]
        omega
      · simp [glyph_eq_nil_iff, hrest, hnone]
        omega

theorem countP_isDrawn (t : Toque) (d : Drum) :
    (t.drumRow d).cells.countP DataCell.isDrawn =
      (t.part d).toList.countP fun c => !(glyph d c).isEmpty := by
  -- the columns after the end of the part are filled with rests, which are not drawn
  have hblank : (List.replicate (t.columns - (t.part d).length) Stroke.rest.symbol).countP
      (fun c => !(glyph d c).isEmpty) = 0 := by
    rw [List.countP_eq_zero]
    intro c hc
    rw [List.eq_of_mem_replicate hc]
    simp [glyph_eq_nil_iff, Stroke.symbol]
  have hcells : (t.drumRow d).cells.countP DataCell.isDrawn =
      ((List.range t.columns).map (t.symbolAt d)).countP fun c => !(glyph d c).isEmpty := by
    rw [drumRow, List.countP_map, List.countP_map]
    exact List.countP_congr fun i _ => by rw [Function.comp_apply, isDrawn_drumCell]; rfl
  rw [hcells, map_symbolAt_range, List.countP_append, hblank, Nat.add_zero]

/-- A cell is empty exactly where there is nothing to draw or a warning says so. -/
theorem isDrawn_eq_false_iff {t : Toque} {d : Drum} {i : Nat} :
    (t.drumCell d i).isDrawn = false ↔
      (t.part d).length ≤ i ∨ (t.part d).toList[i]? = some '-' ∨
        ∃ c, .unknownSymbol d i c ∈ t.warnings := by
  have hdrawn : (t.drumCell d i).isDrawn = false ↔
      t.symbolAt d i = '-' ∨ Stroke.ofSymbol? (t.symbolAt d i) = none := by
    rw [isDrawn_drumCell, ← glyph_eq_nil_iff (d := d)]
    simp
  rw [hdrawn, ← String.length_toList, ← List.getElem?_eq_none_iff, symbolAt,
    List.getD_eq_getElem?_getD]
  simp only [unknownSymbol_mem_warnings]
  cases h : (t.part d).toList[i]? with
  | none => simp [Stroke.symbol]
  | some c => simp

/-- Warnings are complete, without repetition and in order, and agree with what a document shows. -/
theorem warnings_tell_document (t : Toque) :
    t.warnings.Pairwise Warning.Before ∧ t.warnings.Nodup ∧
      (∀ s, .unknownSignature s ∈ t.warnings ↔ s = t.timeSignature ∧ s ≠ "4/4" ∧ s ≠ "6/8") ∧
      (∀ d, .noSymbols d ∈ t.warnings ↔ t.parts.get? d = none ∨ t.parts.get? d = some "") ∧
      (∀ d i c, .unknownSymbol d i c ∈ t.warnings ↔
        (t.part d).toList[i]? = some c ∧ c ∉ ['-', 'A', 'P', 'S', 'I']) ∧
      ∀ d, ∃ row, rowOf? t.document d = some row ∧ row.cells.length = t.columns ∧
        (∀ i cell, row.cells[i]? = some cell →
          (cell.isDrawn = false ↔ (t.part d).length ≤ i ∨ (t.part d).toList[i]? = some '-' ∨
            ∃ c, .unknownSymbol d i c ∈ t.warnings)) ∧
        row.cells.countP DataCell.isDrawn + (t.part d).toList.count '-' +
          t.warnings.countP (Warning.isUnknownSymbolOf d) = (t.part d).length := by
  refine ⟨t.pairwise_warnings, t.pairwise_warnings.imp Warning.Before.ne, fun s => ?_, fun d => ?_,
    fun d i c => ?_, fun d => ⟨t.drumRow d, t.rowOf?_document d, ?_, ?_, ?_⟩⟩
  · exact unknownSignature_mem_warnings
  · exact noSymbols_mem_warnings
  · rw [← Stroke.ofSymbol?_eq_none_iff]
    exact unknownSymbol_mem_warnings
  · rw [drumRow, List.length_map, List.length_range]
  · intro i cell hcell
    have hi : i < t.columns := by
      have hlength := (List.getElem?_eq_some_iff.1 hcell).1
      rwa [drumRow, List.length_map, List.length_range] at hlength
    obtain rfl := Option.some.inj ((getElem?_drumRow hi d).symm.trans hcell)
    exact isDrawn_eq_false_iff
  · rw [countP_isDrawn, countP_warnings, countP_glyph_add, String.length_toList]

end Toque

end Bata
