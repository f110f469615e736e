import Bata.Proofs.Chart
import Bata.Proofs.Notation.Joined
import Mathlib.Data.List.Perm.Basic

namespace Bata.Notation

/-- A heading with the lines up to the next one, as they are written. -/
structure Block where
  drum : Drum
  heading : List Char
  lines : List (List Char)
  heading_eq : heading? (Text.trim heading) = some drum
  lines_eq : ∀ l ∈ lines, heading? (Text.trim l) = none

/-- The lines before the first heading, and the blocks after them. -/
structure Division where
  preamble : List (List Char)
  blocks : List Block
  preamble_eq : ∀ l ∈ preamble, heading? (Text.trim l) = none

namespace Block

def pieces (b : Block) : List (List Char) :=
  b.heading :: b.lines

def HasName (b : Block) : Prop :=
  ∃ l ∈ b.lines, nameLabel.toList <+: Text.trim l

def HasTime (b : Block) : Prop :=
  ∃ l ∈ b.lines, timeLabel.toList <+: Text.trim l

/-- Their order matters: they have a drum or a kind of header in common. -/
def Tied (b c : Block) : Prop :=
  b.drum = c.drum ∨ (b.HasName ∧ c.HasName) ∨ (b.HasTime ∧ c.HasTime)

instance : DecidablePred HasName := fun b =>
  inferInstanceAs (Decidable (∃ l ∈ b.lines, nameLabel.toList <+: Text.trim l))

instance : DecidablePred HasTime := fun b =>
  inferInstanceAs (Decidable (∃ l ∈ b.lines, timeLabel.toList <+: Text.trim l))

instance (b c : Block) : Decidable (b.Tied c) :=
  inferInstanceAs (Decidable (b.drum = c.drum ∨ (b.HasName ∧ c.HasName) ∨ (b.HasTime ∧ c.HasTime)))

end Block

def Division.ofPieces : List (List Char) → Division
  | [] => ⟨[], [], List.forall_mem_nil _⟩
  | l :: ls =>
    match h : heading? (Text.trim l) with
    | none => ⟨l :: (ofPieces ls).preamble, (ofPieces ls).blocks,
        List.forall_mem_cons.2 ⟨h, (ofPieces ls).preamble_eq⟩⟩
    | some d => ⟨[], ⟨d, l, (ofPieces ls).preamble, h, (ofPieces ls).preamble_eq⟩ ::
        (ofPieces ls).blocks, List.forall_mem_nil _⟩

def Division.ofText (text : String) : Division :=
  .ofPieces (text.toList.splitOn '\n')

def joinBlocks (preamble : List (List Char)) (bs : List Block) : String :=
  String.ofList (['\n'].intercalate (preamble ++ bs.flatMap Block.pieces))

/-- The blocks in another order, each with the place that it had, and tied ones as they were. -/
structure IsReordering (bs : List Block) (ps : List (Block × Nat)) : Prop where
  perm : ps.Perm bs.zipIdx
  tied : ps.Pairwise fun p q => p.1.Tied q.1 → p.2 < q.2

theorem pieces_ofPieces (ls : List (List Char)) :
    (Division.ofPieces ls).preamble ++ (Division.ofPieces ls).blocks.flatMap Block.pieces = ls := by
  induction ls with
  | nil => rfl
  | cons l ls ih =>
    rw [Division.ofPieces]
    split
    · rw [List.cons_append, ih]
    · rw [List.nil_append, List.flatMap_cons, Block.pieces, List.cons_append, ih]

theorem joinBlocks_ofText (text : String) :
    joinBlocks (Division.ofText text).preamble (Division.ofText text).blocks = text := by
  rw [joinBlocks, Division.ofText, pieces_ofPieces, List.intercalate_splitOn, String.ofList_toList]

theorem filledPieces_intercalate {ls : List (List Char)} (h : ∀ l ∈ ls, '\n' ∉ l) :
    filledPieces (['\n'].intercalate ls) = (ls.map Text.trim).filter (!·.isEmpty) := by
  cases ls with
  | nil => rfl
  | cons l ls => rw [filledPieces, List.splitOn_intercalate '\n' h (List.cons_ne_nil _ _)]

namespace Block

def filled (b : Block) : List (List Char) :=
  (b.pieces.map Text.trim).filter (!·.isEmpty)

theorem isHeading_trim_heading (b : Block) : IsHeading b.drum (Text.trim b.heading) :=
  heading?_eq_some_iff.1 b.heading_eq

theorem filled_eq_cons (b : Block) :
    b.filled = Text.trim b.heading :: (b.lines.map Text.trim).filter (!·.isEmpty) := by
  have hne : Text.trim b.heading ≠ [] := by
    rw [b.isHeading_trim_heading.eq_name]
    cases b.drum <;> decide
  rw [filled, pieces, List.map_cons, List.filter_cons_of_pos (by simpa using hne)]

theorem startsSection_filled_append (b : Block) (ls : List (List Char)) :
    StartsSection (b.filled ++ ls) := by
  rw [filled_eq_cons]
  rintro _ ⟨rfl⟩
  exact ⟨b.drum, b.isHeading_trim_heading⟩

theorem forall_mem_filled {b : Block} {p : List Char → Prop} (hheading : p (Text.trim b.heading))
    (hlines : ∀ l ∈ b.lines, p (Text.trim l)) : ∀ l ∈ b.filled, p l := by
  rw [filled_eq_cons, List.forall_mem_cons]
  refine ⟨hheading, fun l hl => ?_⟩
  obtain ⟨l', hl', rfl⟩ := List.mem_map.1 (List.mem_of_mem_filter hl)
  exact hlines l' hl'

theorem filter_filled_eq_nil {b : Block} {p : List Char → Prop} [DecidablePred p]
    (hheading : ¬p (Text.trim b.heading)) (hlines : ¬∃ l ∈ b.lines, p (Text.trim l)) :
    b.filled.filter p = [] := by
  rw [List.filter_eq_nil_iff]
  have hno : ∀ l ∈ b.filled, ¬p l :=
    forall_mem_filled hheading fun l hl hp => hlines ⟨l, hl, hp⟩
  simpa using hno

theorem filter_isName_filled {b : Block} (h : ¬b.HasName) : b.filled.filter IsName = [] :=
  filter_filled_eq_nil b.isHeading_trim_heading.1 h

theorem filter_isTime_filled {b : Block} (h : ¬b.HasTime) : b.filled.filter IsTime = [] :=
  filter_filled_eq_nil b.isHeading_trim_heading.2.1 fun ⟨l, hl, htime⟩ => h ⟨l, hl, htime.2⟩

end Block

theorem contentLines_eq_nil {ls : List (List Char)} {d : Drum} (h : ∀ l ∈ ls, ¬IsHeading d l) :
    contentLines ls d = [] := by
  rw [contentLines, List.filterMap_eq_nil_iff]
  rintro ⟨l, i⟩ -
  dsimp only
  rw [if_neg]
  rintro ⟨-, hsection⟩
  obtain ⟨l', hl', hd⟩ := List.mem_filterMap.1 (List.mem_of_getLast? hsection)
  exact h l' (List.mem_of_mem_take hl') (heading?_eq_some_iff.1 hd)

theorem Block.contentLines_filled {b : Block} {d : Drum} (h : b.drum ≠ d) :
    contentLines b.filled d = [] := by
  apply contentLines_eq_nil
  apply forall_mem_filled
  · intro hd
    exact h (Option.some.inj (b.heading_eq.symm.trans (heading?_eq_some_iff.2 hd)))
  · intro l hl hd
    have hnone := b.lines_eq l hl
    rw [heading?_eq_some_iff.2 hd] at hnone
    cases hnone

theorem startsSection_flatMap_filled (bs : List Block) :
    StartsSection (bs.flatMap Block.filled) := by
  cases bs with
  | nil => simp [StartsSection]
  | cons b bs => exact b.startsSection_filled_append _

theorem contentLines_flatMap_filled (bs : List Block) (d : Drum) :
    contentLines (bs.flatMap Block.filled) d = bs.flatMap fun b => contentLines b.filled d := by
  induction bs with
  | nil => rfl
  | cons b bs ih =>
    rw [List.flatMap_cons, contentLines_append (startsSection_flatMap_filled bs), ih,
      List.flatMap_cons]

theorem filledLines_joinBlocks {preamble : List (List Char)} {bs : List Block}
    (h : ∀ l ∈ preamble ++ bs.flatMap Block.pieces, '\n' ∉ l) :
    filledLines (joinBlocks preamble bs) =
      (preamble.map Text.trim).filter (!·.isEmpty) ++ bs.flatMap Block.filled := by
  rw [filledLines_eq_filledPieces, joinBlocks, String.toList_ofList, filledPieces_intercalate h,
    List.map_append, List.filter_append, List.map_flatMap, List.filter_flatMap]
  rfl

theorem readLines_congr {start : Toque} (h : start.parts = .blank) {xs ys : List (List Char)}
    (hname : xs.filter IsName = ys.filter IsName) (htime : xs.filter IsTime = ys.filter IsTime)
    (hcontent : ∀ d, contentLines xs d = contentLines ys d) :
    readLines start xs = readLines start ys := by
  apply Toque.ext_get?
  · rw [name_readLines h, name_readLines h, hname]
  · rw [timeSignature_readLines h, timeSignature_readLines h, htime]
  · intro d
    rw [get?_parts_readLines h, get?_parts_readLines h, hcontent]

theorem flatMap_filter_of_eq_nil {α β : Type} {p : α → Prop} [DecidablePred p] {f : α → List β}
    (h : ∀ a, ¬p a → f a = []) (l : List α) : (l.filter p).flatMap f = l.flatMap f := by
  induction l with
  | nil => rfl
  | cons a l ih =>
    by_cases ha : p a
    · rw [List.filter_cons_of_pos (by simpa using ha), List.flatMap_cons, List.flatMap_cons, ih]
    · rw [List.filter_cons_of_neg (by simpa using ha), List.flatMap_cons, h a ha, ih,
        List.nil_append]

namespace IsReordering

variable {bs : List Block} {ps : List (Block × Nat)}

theorem perm_blocks (h : IsReordering bs ps) : (ps.map Prod.fst).Perm bs := by
  have hmap := h.perm.map Prod.fst
  rwa [List.zipIdx_map_fst] at hmap

/-- Blocks that are all tied to each other come in the order that they had. -/
theorem filter_eq (h : IsReordering bs ps) {p : Block → Prop} [DecidablePred p]
    (hp : ∀ b c, p b → p c → b.Tied c) : (ps.map Prod.fst).filter p = bs.filter p := by
  have hordered : (ps.filter fun q => decide (p q.1)).Pairwise fun q r => q.2 < r.2 := by
    rw [List.pairwise_filter]
    exact h.tied.imp fun htied hq hr => htied (hp _ _ (by simpa using hq) (by simpa using hr))
  have hpairs : ps.filter (fun q => decide (p q.1)) = bs.zipIdx.filter fun q => decide (p q.1) :=
    List.Perm.eq_of_pairwise (fun _ _ _ _ hqr hrq => absurd hqr (Nat.lt_asymm hrq)) hordered
      ((pairwise_zipIdx bs).filter _) (h.perm.filter _)
  have hbs : bs.zipIdx.map Prod.fst = bs := List.zipIdx_map_fst 0 bs
  rw [List.filter_map]
  conv_rhs => rw [← hbs, List.filter_map]
  exact congrArg (List.map Prod.fst) hpairs

theorem flatMap_eq {β : Type} (h : IsReordering bs ps) {p : Block → Prop} [DecidablePred p]
    (hp : ∀ b c, p b → p c → b.Tied c) {f : Block → List β} (hf : ∀ b, ¬p b → f b = []) :
    (ps.map Prod.fst).flatMap f = bs.flatMap f := by
  rw [← flatMap_filter_of_eq_nil hf, h.filter_eq hp, flatMap_filter_of_eq_nil hf]

theorem readLines_eq (h : IsReordering bs ps) {start : Toque} (hstart : start.parts = .blank)
    (ls : List (List Char)) :
    readLines start (ls ++ (ps.map Prod.fst).flatMap Block.filled) =
      readLines start (ls ++ bs.flatMap Block.filled) := by
  apply readLines_congr hstart
  · rw [List.filter_append, List.filter_append, List.filter_flatMap, List.filter_flatMap]
    congr 1
    exact h.flatMap_eq (fun _ _ hb hc => .inr (.inl ⟨hb, hc⟩)) fun _ => Block.filter_isName_filled
  · rw [List.filter_append, List.filter_append, List.filter_flatMap, List.filter_flatMap]
    congr 1
    exact h.flatMap_eq (fun _ _ hb hc => .inr (.inr ⟨hb, hc⟩)) fun _ => Block.filter_isTime_filled
  · intro d
    rw [contentLines_append (startsSection_flatMap_filled _),
      contentLines_append (startsSection_flatMap_filled _), contentLines_flatMap_filled,
      contentLines_flatMap_filled]
    congr 1
    exact h.flatMap_eq (p := fun b => b.drum = d) (fun _ _ hb hc => .inl (hb.trans hc.symm))
      fun _ => Block.contentLines_filled

end IsReordering

theorem head?_isSignature_iff {bs cs : List Block} (ls : List (List Char)) :
    (∃ l ∈ (ls ++ bs.flatMap Block.filled).head?, isSignature l = true) ↔
      ∃ l ∈ (ls ++ cs.flatMap Block.filled).head?, isSignature l = true := by
  cases ls with
  | nil =>
    have hno : ∀ ds : List Block,
        ¬∃ l ∈ (ds.flatMap Block.filled).head?, isSignature l = true := by
      rintro ds ⟨l, hl, hsig⟩
      have hnot := (startsSection_flatMap_filled ds).not_isSignature l hl
      exact Bool.eq_false_iff.1 hnot hsig
    exact iff_of_false (hno bs) (hno cs)
  | cons l ls => rfl

theorem readAlike_joinBlocks {preamble : List (List Char)} {bs : List Block}
    (hfeed : ∀ l ∈ preamble ++ bs.flatMap Block.pieces, '\n' ∉ l) {ps : List (Block × Nat)}
    (h : IsReordering bs ps) :
    ReadAlike (joinBlocks preamble (ps.map Prod.fst)) (joinBlocks preamble bs) := by
  have hfeed' : ∀ l ∈ preamble ++ (ps.map Prod.fst).flatMap Block.pieces, '\n' ∉ l := by
    intro l hl
    exact hfeed l (((h.perm_blocks.flatMap_right Block.pieces).append_left preamble).mem_iff.1 hl)
  have hlines := filledLines_joinBlocks hfeed
  have hlines' := filledLines_joinBlocks hfeed'
  obtain ⟨start, rest, hblank, hread⟩ :=
    exists_readFilled_append ((preamble.map Text.trim).filter (!·.isEmpty))
  apply readAlike_of_eq
  · apply header_eq_of_head
    rw [hlines, hlines']
    exact head?_isSignature_iff _
  · rw [ofText_eq_readFilled, ofText_eq_readFilled, hlines, hlines',
      hread _ (startsSection_flatMap_filled _), hread _ (startsSection_flatMap_filled _),
      h.readLines_eq hblank]

/-- A text can be cut into its preamble and blocks, and is read alike with the blocks in any order
that leaves blocks of one drum, of name headers and of time headers as they were. -/
theorem section_order_makes_no_difference (text : String) :
    joinBlocks (Division.ofText text).preamble (Division.ofText text).blocks = text ∧
      ∀ ps, IsReordering (Division.ofText text).blocks ps →
        ReadAlike (joinBlocks (Division.ofText text).preamble (ps.map Prod.fst)) text := by
  refine ⟨joinBlocks_ofText text, fun ps h => ?_⟩
  have hfeed : ∀ l ∈ (Division.ofText text).preamble ++
      (Division.ofText text).blocks.flatMap Block.pieces, '\n' ∉ l := by
    rw [Division.ofText, pieces_ofPieces]
    exact fun l => Text.not_mem_of_mem_splitOn
  have halike := readAlike_joinBlocks hfeed h
  rwa [joinBlocks_ofText] at halike

theorem section_order_makes_no_difference_reversed :
    IsReordering (Division.ofText "4/4\nIya\nA\nToque: Uno\nOkonkolo\nP\nTime: 6/8").blocks
        (Division.ofText "4/4\nIya\nA\nToque: Uno\nOkonkolo\nP\nTime: 6/8").blocks.zipIdx.reverse ∧
      ReadAlike "4/4\nOkonkolo\nP\nTime: 6/8\nIya\nA\nToque: Uno"
        "4/4\nIya\nA\nToque: Uno\nOkonkolo\nP\nTime: 6/8" := by
  have hjoin : joinBlocks
      (Division.ofText "4/4\nIya\nA\nToque: Uno\nOkonkolo\nP\nTime: 6/8").preamble
      ((Division.ofText "4/4\nIya\nA\nToque: Uno\nOkonkolo\nP\nTime: 6/8").blocks.zipIdx.reverse.map
        Prod.fst) = "4/4\nOkonkolo\nP\nTime: 6/8\nIya\nA\nToque: Uno" := by decide
  have hreversed : IsReordering
      (Division.ofText "4/4\nIya\nA\nToque: Uno\nOkonkolo\nP\nTime: 6/8").blocks
      (Division.ofText "4/4\nIya\nA\nToque: Uno\nOkonkolo\nP\nTime: 6/8").blocks.zipIdx.reverse :=
    ⟨List.reverse_perm _, by decide⟩
  refine ⟨hreversed, ?_⟩
  rw [← hjoin]
  exact (section_order_makes_no_difference _).2 _ hreversed

end Bata.Notation
