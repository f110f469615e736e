import Bata.Proofs.Notation.Filled

namespace Bata.Notation

def mapFilled (f : List Char → List Char) : List (List Char) → List (List Char)
  | [] => []
  | p :: ps => if Text.trim p = [] then p :: mapFilled f ps else f p :: ps

/-- Changes the first line that is not blank, and nothing else of a text. -/
def editFirst (f : List Char → List Char) (text : String) : String :=
  String.ofList (['\n'].intercalate (mapFilled f (text.toList.splitOn '\n')))

/-- The label of a signature, with `space` after it, in front of the first line that is not
blank. -/
def putLabel (space : List Char) : String → String :=
  editFirst fun p => timeLabel.toList ++ (space ++ p)

/-- The first line that is not blank, without the label that it starts with. -/
def takeLabel : String → String :=
  editFirst fun p =>
    p.takeWhile Text.isBlank ++ (p.dropWhile Text.isBlank).drop timeLabel.toList.length

theorem mem_mapFilled {f : List Char → List Char} {ps : List (List Char)} {q : List Char}
    (h : q ∈ mapFilled f ps) : q ∈ ps ∨ ∃ p ∈ ps, q = f p := by
  induction ps with
  | nil => exact .inl h
  | cons p ps ih =>
    rw [mapFilled] at h
    split at h
    · rcases List.mem_cons.1 h with rfl | h
      · exact .inl List.mem_cons_self
      · exact (ih h).imp (List.mem_cons_of_mem _) fun ⟨p', hp', he⟩ =>
          ⟨p', List.mem_cons_of_mem _ hp', he⟩
    · rcases List.mem_cons.1 h with rfl | h
      · exact .inr ⟨p, List.mem_cons_self, rfl⟩
      · exact .inl (List.mem_cons_of_mem _ h)

theorem splitOn_editFirst {f : List Char → List Char} (hf : ∀ p, '\n' ∉ p → '\n' ∉ f p)
    (text : String) :
    (editFirst f text).toList.splitOn '\n' = mapFilled f (text.toList.splitOn '\n') := by
  rw [editFirst, String.toList_ofList]
  apply List.splitOn_intercalate
  · intro q hq
    obtain hq | ⟨p, hp, rfl⟩ := mem_mapFilled hq
    · exact Text.not_mem_of_mem_splitOn hq
    · exact hf p (Text.not_mem_of_mem_splitOn hp)
  · obtain ⟨p, ps, hps⟩ := List.exists_cons_of_ne_nil (List.splitOn_ne_nil '\n' text.toList)
    rw [hps, mapFilled]
    split <;> exact List.cons_ne_nil _ _

theorem exists_first_piece {ps rest : List (List Char)} {l : List Char}
    (h : (ps.map Text.trim).filter (!·.isEmpty) = l :: rest) :
    ∃ p, Text.trim p = l ∧ ∀ f : List Char → List Char, Text.trim (f p) ≠ [] →
      ((mapFilled f ps).map Text.trim).filter (!·.isEmpty) = Text.trim (f p) :: rest := by
  induction ps with
  | nil => cases h
  | cons p ps ih =>
    by_cases hp : Text.trim p = []
    · -- a blank piece stays as it is and is left out of both sides
      rw [List.map_cons, List.filter_cons_of_neg (by simp [hp])] at h
      obtain ⟨p', htrim, hedit⟩ := ih h
      refine ⟨p', htrim, fun f hf => ?_⟩
      rw [mapFilled, if_pos hp, List.map_cons, List.filter_cons_of_neg (by simp [hp]), hedit f hf]
    · rw [List.map_cons, List.filter_cons_of_pos (by simpa using hp), List.cons.injEq] at h
      refine ⟨p, h.1, fun f hf => ?_⟩
      rw [mapFilled, if_neg hp, List.map_cons, List.filter_cons_of_pos (by simpa using hf), h.2]

theorem exists_first_line {text : String} {l : List Char} {rest : List (List Char)}
    (h : filledLines text = l :: rest) :
    ∃ p, Text.trim p = l ∧ ∀ f : List Char → List Char, (∀ p, '\n' ∉ p → '\n' ∉ f p) →
      Text.trim (f p) ≠ [] → filledLines (editFirst f text) = Text.trim (f p) :: rest := by
  rw [filledLines_eq_filter_splitOn] at h
  obtain ⟨p, hp, hedit⟩ := exists_first_piece h
  refine ⟨p, hp, fun f hf hne => ?_⟩
  rw [filledLines_eq_filter_splitOn, splitOn_editFirst hf, hedit f hne]

theorem isTime_append (value : List Char) : IsTime (timeLabel.toList ++ value) := by
  refine ⟨?_, List.prefix_append _ _⟩
  rintro ⟨rest, h⟩
  simp [nameLabel, timeLabel] at h

theorem isSignature_label (value : List Char) :
    isSignature (timeLabel.toList ++ value) = false :=
  isSignature_cons (by decide) _

theorem valueAfter_label (value : List Char) :
    valueAfter timeLabel (timeLabel.toList ++ value) = String.ofList (Text.trim value) := by
  rw [valueAfter, List.drop_left]

theorem readFilled_label (value : List Char) (rest : List (List Char)) :
    readFilled ((timeLabel.toList ++ value) :: rest) =
      readLines { Toque.blank with timeSignature := String.ofList (Text.trim value) } rest := by
  rw [readFilled, if_neg (by simp [isSignature_label]), readLines, List.map_cons, List.foldl_cons,
    ofChars_of_isTime (isTime_append value), valueAfter_label]
  rfl

theorem readFilled_signature {l : List Char} (h : isSignature l = true) (rest : List (List Char)) :
    readFilled (l :: rest) =
      readLines { Toque.blank with timeSignature := String.ofList l } rest := by
  rw [readFilled, if_pos h]

theorem header_of_filledLines {text : String} {l : List Char} {rest : List (List Char)}
    (h : filledLines text = l :: rest) :
    Header.ofText text = if isSignature l then .bare else .labelled := by
  cases hl : isSignature l with
  | true => exact (header_eq_bare_iff text).2 ⟨l, by rw [h]; rfl, hl⟩
  | false =>
    have hbare : Header.ofText text ≠ .bare := by
      rw [Ne, header_eq_bare_iff, h]
      rintro ⟨_, ⟨rfl⟩, hsig⟩
      exact Bool.eq_false_iff.1 hl hsig
    cases hheader : Header.ofText text with
    | bare => exact absurd hheader hbare
    | labelled => rfl

theorem trim_label (space p : List Char) :
    Text.trim (timeLabel.toList ++ (space ++ p)) =
      timeLabel.toList ++ Text.trimEnd (space ++ p) :=
  Text.trim_append_of_trimmed (by decide) (by decide) _

theorem trim_takeLabel {p value : List Char} (h : Text.trim p = timeLabel.toList ++ value) :
    Text.trim (p.takeWhile Text.isBlank ++
      (p.dropWhile Text.isBlank).drop timeLabel.toList.length) = Text.trim value := by
  obtain ⟨blanks, hp, hblank⟩ := Text.exists_trimEnd_append (Text.trimStart p)
  have hline : p.dropWhile Text.isBlank = timeLabel.toList ++ (value ++ blanks) := by
    rw [← List.append_assoc, ← h]
    exact hp
  rw [hline, List.drop_left, Text.trim_blank_append (fun _ => List.mem_takeWhile_imp),
    Text.trim_append_blank _ hblank]

theorem putLabel_agrees {text : String} (h : Header.ofText text = .bare) {space : List Char}
    (hspace : ∀ c ∈ space, Text.isBlank c = true ∧ c ≠ '\n') :
    Header.ofText (putLabel space text) = .labelled ∧
      Toque.ofText (putLabel space text) = Toque.ofText text := by
  obtain ⟨l, hl, hsig⟩ := (header_eq_bare_iff text).1 h
  obtain ⟨rest, hfilled⟩ := List.head?_eq_some_iff.1 hl
  obtain ⟨p, hp, hedit⟩ := exists_first_line hfilled
  have hput : filledLines (putLabel space text) =
      (timeLabel.toList ++ Text.trimEnd (space ++ p)) :: rest := by
    rw [← trim_label]
    refine hedit (fun p => timeLabel.toList ++ (space ++ p)) (fun p hp => ?_) ?_
    · have hlabel : '\n' ∉ timeLabel.toList := by decide
      have hno : '\n' ∉ space := fun hn => (hspace _ hn).2 rfl
      simp [hlabel, hno, hp]
    · rw [trim_label]
      simp [timeLabel]
  have hvalue : Text.trim (Text.trimEnd (space ++ p)) = l := by
    rw [Text.trim_trimEnd, Text.trim_blank_append (fun c hc => (hspace c hc).1), hp]
  constructor
  · rw [header_of_filledLines hput, isSignature_label]
    rfl
  · rw [ofText_eq_readFilled, ofText_eq_readFilled, hput, hfilled, readFilled_label, hvalue,
      readFilled_signature hsig]

theorem takeLabel_agrees {text : String} {value : List Char}
    (h : (filledLines text).head? = some (timeLabel.toList ++ value))
    (hsig : isSignature (Text.trim value) = true) :
    Header.ofText (takeLabel text) = .bare ∧
      Toque.ofText (takeLabel text) = Toque.ofText text := by
  obtain ⟨rest, hfilled⟩ := List.head?_eq_some_iff.1 h
  obtain ⟨p, hp, hedit⟩ := exists_first_line hfilled
  have htake : filledLines (takeLabel text) = Text.trim value :: rest := by
    rw [← trim_takeLabel hp]
    refine hedit _ (fun p hp hn => hp ?_) ?_
    · rw [← List.takeWhile_append_dropWhile (p := Text.isBlank) (l := p)]
      exact (List.mem_append.1 hn).elim (List.mem_append_left _) fun hn =>
        List.mem_append_right _ (List.mem_of_mem_drop hn)
    · rw [trim_takeLabel hp]
      rintro hempty
      rw [hempty] at hsig
      exact absurd hsig (by decide)
  constructor
  · rw [header_of_filledLines htake, hsig]
    rfl
  · rw [ofText_eq_readFilled, ofText_eq_readFilled, htake, hfilled, readFilled_label,
      readFilled_signature hsig]

/-- A signature at the top says the same alone and behind its label, whatever follows it. -/
theorem label_makes_no_difference (text : String) :
    (Header.ofText text = .bare →
      ∀ space : List Char, (∀ c ∈ space, Text.isBlank c = true ∧ c ≠ '\n') →
        Header.ofText (putLabel space text) = .labelled ∧
          Toque.ofText (putLabel space text) = Toque.ofText text) ∧
      ∀ value : List Char, (filledLines text).head? = some (timeLabel.toList ++ value) →
        isSignature (Text.trim value) = true →
          Header.ofText (takeLabel text) = .bare ∧
            Toque.ofText (takeLabel text) = Toque.ofText text :=
  ⟨fun h _ hspace => putLabel_agrees h hspace, fun _ h hsig => takeLabel_agrees h hsig⟩

theorem label_makes_no_difference_before_another :
    Toque.ofText (putLabel ['\t'] "\n 6/8\nTime: 4/4\nIya\nA") =
        Toque.ofText "\n 6/8\nTime: 4/4\nIya\nA" ∧
      Toque.ofText (takeLabel "\n\tTime: 6/8 \r\nTime: 4/4\nIya\nA") =
        Toque.ofText "\n\tTime: 6/8 \r\nTime: 4/4\nIya\nA" :=
  ⟨((label_makes_no_difference _).1 (by decide) ['\t']
      (List.forall_mem_singleton.2 (by decide))).2,
    ((label_makes_no_difference _).2 " 6/8".toList (by decide) (by decide)).2⟩

end Bata.Notation
