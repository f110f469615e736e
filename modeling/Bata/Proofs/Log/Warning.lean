import Bata.Command
import Bata.Proofs.Text.Basic
import Bata.Proofs.Text.Quoted

namespace Bata

namespace Text

theorem plainFrom_ground {cs : List Char} (h : ∀ c ∈ cs, ControlState.ground.keeps c = true)
    (run : Bool) : plainFrom .ground run cs = cs := by
  induction cs generalizing run with
  | nil => rfl
  | cons c cs ih =>
    rw [List.forall_mem_cons] at h
    rw [plainFrom, ite_self, if_pos h.1, ite_self, ih h.2]

theorem keeps_ground_of_not_breaksLine {c : Char} (h : ¬BreaksLine c) :
    ControlState.ground.keeps c = true := by
  have hspace : ' ' ≤ c := Nat.not_lt.1 fun hlow => h (.inl (.inl hlow))
  have hdelete : c ≠ '\x7f' := by
    rintro rfl
    exact h (by decide)
  simp [ControlState.keeps, hspace, hdelete]

end Text

open Text

theorem Drum.name_colon_inj {d e : Drum} {xs ys : List Char}
    (h : d.name.toList ++ ':' :: xs = e.name.toList ++ ':' :: ys) : d = e ∧ xs = ys := by
  cases d <;> cases e <;> simp_all [name]

namespace Warning

variable {hidden hidden' : Char → Bool}

theorem toList_unknownSignature (hidden : Char → Bool) (s : String) :
    ((unknownSignature s).messageHiding hidden).toList = "unrecognized time signature ".toList ++
      (quote hidden '"' s.toList ++ ", bar lines assume 4/4".toList) := by
  have hmessage : (unknownSignature s).messageHiding hidden =
      "unrecognized time signature " ++ quoteText hidden s ++ ", bar lines assume 4/4" := rfl
  rw [hmessage, String.toList_append, String.toList_append, toList_quoteText, List.append_assoc]

theorem toList_unknownSymbol (hidden : Char → Bool) (d : Drum) (column : Nat) (c : Char) :
    ((unknownSymbol d column c).messageHiding hidden).toList = d.name.toList ++ ':' ::
      (" unrecognized symbol ".toList ++ (quote hidden '\'' [c] ++
        (" at column ".toList ++ (decimal column ++ ", rendered blank".toList)))) := by
  have hmessage : (unknownSymbol d column c).messageHiding hidden =
      d.name ++ ": unrecognized symbol " ++ quoteChar hidden c ++ " at column " ++
        String.ofList (decimal column) ++ ", rendered blank" := rfl
  have hcolumn : (String.ofList (decimal column)).toList = decimal column := String.toList_ofList
  simp only [hmessage, String.toList_append, toList_quoteChar, hcolumn, List.append_assoc]
  rfl

theorem toList_noSymbols (hidden : Char → Bool) (d : Drum) :
    ((noSymbols d).messageHiding hidden).toList =
      d.name.toList ++ ':' :: " no symbols, rendered as an empty row".toList := by
  have hmessage : (noSymbols d).messageHiding hidden =
      d.name ++ ": no symbols, rendered as an empty row" := rfl
  rw [hmessage, String.toList_append]
  rfl

/-- What is said of the signature does not start with the name of a drum. -/
theorem signature_append_ne_name_append (d : Drum) (xs ys : List Char) :
    "unrecognized time signature ".toList ++ xs ≠ d.name.toList ++ ys := by
  cases d <;> simp [Drum.name]

/-- A message tells its warning, whichever characters are spelled out in it. -/
theorem messageHiding_inj {v w : Warning}
    (h : v.messageHiding hidden = w.messageHiding hidden') : v = w := by
  have hchars := congrArg String.toList h
  -- the first letters tell what a message is about, and the words after them what is said of it
  cases v with
  | unknownSignature s =>
    rw [toList_unknownSignature] at hchars
    cases w with
    | unknownSignature s' =>
      rw [toList_unknownSignature] at hchars
      obtain ⟨hs, -⟩ := quote_append_inj (by decide) (List.append_cancel_left hchars)
      rw [String.toList_inj.1 hs]
    | unknownSymbol e column c =>
      rw [toList_unknownSymbol] at hchars
      exact absurd hchars (signature_append_ne_name_append e _ _)
    | noSymbols e =>
      rw [toList_noSymbols] at hchars
      exact absurd hchars (signature_append_ne_name_append e _ _)
  | unknownSymbol d column c =>
    rw [toList_unknownSymbol] at hchars
    cases w with
    | unknownSignature s =>
      rw [toList_unknownSignature] at hchars
      exact absurd hchars.symm (signature_append_ne_name_append d _ _)
    | unknownSymbol e column' c' =>
      rw [toList_unknownSymbol] at hchars
      obtain ⟨rfl, hsaid⟩ := Drum.name_colon_inj hchars
      obtain ⟨hc, hcolumn⟩ := quote_append_inj (by decide) (List.append_cancel_left hsaid)
      have hdigits := List.append_cancel_right (List.append_cancel_left hcolumn)
      rw [List.singleton_inj.1 hc, decimal_injective hdigits]
    | noSymbols e =>
      rw [toList_noSymbols] at hchars
      obtain ⟨-, hsaid⟩ := Drum.name_colon_inj hchars
      simp at hsaid
  | noSymbols d =>
    rw [toList_noSymbols] at hchars
    cases w with
    | unknownSignature s =>
      rw [toList_unknownSignature] at hchars
      exact absurd hchars.symm (signature_append_ne_name_append d _ _)
    | unknownSymbol e column c =>
      rw [toList_unknownSymbol] at hchars
      obtain ⟨-, hsaid⟩ := Drum.name_colon_inj hchars
      simp at hsaid
    | noSymbols e =>
      rw [toList_noSymbols] at hchars
      rw [(Drum.name_colon_inj hchars).1]

theorem isShown_message (w : Warning) : IsShown hidden (w.messageHiding hidden).toList := by
  have hname : ∀ d : Drum, IsShown hidden d.name.toList := by
    intro d
    cases d <;> exact isShown_of_all (by decide)
  cases w with
  | unknownSignature s =>
    rw [toList_unknownSignature]
    exact (isShown_of_all (by decide)).append
      ((isShown_quote (by decide) _).append (isShown_of_all (by decide)))
  | unknownSymbol d column c =>
    rw [toList_unknownSymbol]
    refine (hname d).append (.cons (by decide) ?_)
    exact (isShown_of_all (by decide)).append
      ((isShown_quote (by decide) _).append ((isShown_of_all (by decide)).append
        ((isShown_decimal _).append (isShown_of_all (by decide)))))
  | noSymbols d =>
    rw [toList_noSymbols]
    exact (hname d).append (.cons (by decide) (isShown_of_all (by decide)))

def line (w : Warning) : List Char :=
  "[WARN  tubs] ".toList ++ w.message.toList

def shownAll (ws : List Warning) : List Char :=
  ws.flatMap fun w => (Record.warning w).shown.toList

theorem isShown_line (w : Warning) : IsShown isHidden w.line :=
  (isShown_of_all (by decide)).append w.isShown_message

theorem not_mem_line {c : Char} (hc : BreaksLine c) (w : Warning) : c ∉ w.line :=
  fun h => w.isShown_line.not_breaksLine h hc

theorem line_eq (w : Warning) : w.line = '[' :: "WARN".toList ++
    List.replicate (5 - "WARN".toList.length) ' ' ++ ' ' :: "tubs".toList ++
      ']' :: ' ' :: w.message.toList := by
  have hlabel : "[WARN  tubs] ".toList = '[' :: "WARN".toList ++
      List.replicate (5 - "WARN".toList.length) ' ' ++ ' ' :: "tubs".toList ++ [']', ' '] := by
    decide
  exact (congrArg (· ++ w.message.toList) hlabel).trans (List.append_assoc _ [']', ' '] _)

/-- A message has no further line to be indented. -/
theorem shown_eq_plain (w : Warning) :
    (Record.warning w).shown = plain (String.ofList (w.line ++ ['\n'])) := by
  have hmessage : w.message.toList.flatMap (fun c => if c = '\n' then "\n    ".toList else [c]) =
      w.message.toList := by
    refine (List.flatMap_congr fun c hc => if_neg ?_).trans (List.flatMap_singleton' _)
    rintro rfl
    exact w.isShown_message.not_breaksLine hc (by decide)
  have hshown : (Record.warning w).shown = plain (String.ofList ('[' :: "WARN".toList ++
      List.replicate (5 - "WARN".toList.length) ' ' ++ ' ' :: "tubs".toList ++ ']' :: ' ' ::
        w.message.toList.flatMap (fun c => if c = '\n' then "\n    ".toList else [c]) ++
          ['\n'])) := rfl
  rw [hshown, hmessage, line_eq]

theorem toList_shown (w : Warning) : (Record.warning w).shown.toList = w.line ++ ['\n'] := by
  have hkept : ∀ c ∈ w.line ++ ['\n'], ControlState.ground.keeps c = true := by
    rw [List.forall_mem_append]
    exact ⟨fun c hc => keeps_ground_of_not_breaksLine (w.isShown_line.not_breaksLine hc),
      List.forall_mem_singleton.2 (by decide)⟩
  rw [shown_eq_plain, plain, String.toList_ofList, String.toList_ofList, plainFrom_ground hkept]

theorem withoutReturn_line (w : Warning) : withoutReturn w.line = w.line :=
  if_neg fun h => not_mem_line (by decide) w (List.mem_of_getLast? h)

/-- Each warning has a line of its own, and leaves that of what is shown next as it is. -/
theorem lines_shownAll_append (ws : List Warning) (rest : List Char) :
    lines (shownAll ws ++ rest) = ws.map line ++ lines rest := by
  induction ws with
  | nil => rfl
  | cons w ws ih =>
    have hfirst : shownAll (w :: ws) ++ rest = w.line ++ '\n' :: (shownAll ws ++ rest) := by
      rw [shownAll, List.flatMap_cons, toList_shown, List.append_assoc, List.append_assoc]
      rfl
    have hnewline : '\n' ∉ w.line := w.not_mem_line (by decide)
    rw [hfirst, lines_append_newline hnewline, withoutReturn_line, ih]
    rfl

theorem line_injective : Function.Injective line := by
  intro v w h
  exact messageHiding_inj (String.toList_inj.1 (List.append_cancel_left h))

theorem shownAll_injective : Function.Injective shownAll := by
  have hlines : ∀ ws, lines (shownAll ws) = ws.map line := by
    intro ws
    simpa [lines, linesOfPieces] using lines_shownAll_append ws []
  intro vs ws h
  have hmap := congrArg lines h
  rw [hlines, hlines] at hmap
  exact List.map_injective_iff.2 line_injective hmap

/-- Messages are as different as their warnings, whichever characters are spelled out, and none goes
beyond its line. So a log shows each warning on one line, whatever is shown next, and no other
warnings are shown as these are. -/
theorem message_tells_warning :
    (∀ (hidden hidden' : Char → Bool) (v w : Warning),
      v.messageHiding hidden = w.messageHiding hidden' → v = w) ∧
    (∀ v w : Warning, v.message = w.message ↔ v = w) ∧
    (∀ w : Warning, ∀ c ∈ w.message.toList,
      c ≠ '\n' ∧ c ≠ '\r' ∧ ¬IsControl c ∧ c ≠ '\u2028' ∧ c ≠ '\u2029') ∧
    (∀ (ws : List Warning) (rest : List Char),
      lines (shownAll ws ++ rest) = ws.map line ++ lines rest) ∧
    ∀ vs ws : List Warning, shownAll vs = shownAll ws ↔ vs = ws := by
  refine ⟨fun _ _ _ _ => messageHiding_inj, fun v w => ⟨messageHiding_inj, congrArg message⟩,
    fun w c hc => ?_, lines_shownAll_append, fun vs ws => shownAll_injective.eq_iff⟩
  have hbreaks := w.isShown_message.not_breaksLine hc
  refine ⟨?_, ?_, fun h => hbreaks (.inl h), fun h => hbreaks (.inr (.inl h)),
    fun h => hbreaks (.inr (.inr h))⟩
  · rintro rfl
    exact hbreaks (by decide)
  · rintro rfl
    exact hbreaks (by decide)

example : (unknownSignature "3/4\n\u2028").message =
    "unrecognized time signature \"3/4\\n\\u\x7b2028\x7d\", bar lines assume 4/4" := by
  decide +kernel

end Warning

end Bata
