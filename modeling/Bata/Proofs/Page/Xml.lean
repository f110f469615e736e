import Bata.Proofs.Markup.Xml
import Bata.Proofs.Notation.Sections
import Bata.Proofs.Page.Heading
import Bata.Proofs.Text.Basic

namespace Bata

open Markup

namespace Toque

open Xml

theorem isDocument_document (t : Toque) : IsDocument t.document.toList := by
  have hpage := t.tidy_page
  rw [document, String.toList_ofList]
  exact ⟨_, ['\n'], rfl, isElement_element hpage.1 (isContent_charsOfAll _ hpage.2), by decide⟩

theorem isChar_of_isPlain {c : Char} (h : isPlain c = true) : isChar c = true := by
  simp only [isPlain, Bool.or_eq_true, Bool.and_eq_true, decide_eq_true_eq] at h
  rcases h with rfl | h
  · decide
  · simp only [isChar, charRanges, List.any_cons, Bool.or_eq_true, Bool.and_eq_true,
      decide_eq_true_eq]
    omega

theorem mem_document_of_mem_title {t : Toque} {c : Char} (h : c ∈ t.title.toList)
    (hp : isPlain c = false) : c ∈ t.document.toList := by
  have hescape : c ∈ escape t.title :=
    List.mem_flatMap.2 ⟨c, h, by simp [escapeChar_of_not_isPlain hp]⟩
  rw [toList_document]
  simp [hescape]

/-- The characters of a document are legal if and only if those of its title are. -/
theorem wellFormed_document (t : Toque) :
    WellFormed t.document.toList ↔
      ∀ c, c ∈ t.name.toList ∨ c ∈ t.timeSignature.toList → isChar c = true := by
  have htitle : ∀ c, c ∈ t.title.toList ↔
      c ∈ t.name.toList ∨ c ∈ " in ".toList ∨ c ∈ t.timeSignature.toList := by
    intro c
    simp only [title, String.toList_append, List.mem_append, or_assoc]
  constructor
  · intro h c hc
    cases hp : isPlain c with
    | true => exact isChar_of_isPlain hp
    | false => exact h.legal c (mem_document_of_mem_title ((htitle c).2 (hc.imp_right .inr)) hp)
  · intro h
    have hin : " in ".toList.all isChar = true := by decide
    have hall : ∀ c ∈ t.title.toList, isChar c = true := by
      intro c hc
      rcases (htitle c).1 hc with hc | hc | hc
      · exact h c (.inl hc)
      · exact List.all_eq_true.1 hin c hc
      · exact h c (.inr hc)
    refine ⟨t.isDocument_document, fun c hc => ?_⟩
    rw [document, String.toList_ofList, List.mem_append, List.mem_singleton] at hc
    rcases hc with hc | rfl
    · exact (holds_chars _ t.tidy_page c hc).elim isChar_of_isPlain (hall c)
    · decide

/-- What of well-formedness does not depend on a text, what does, and that illegal characters in a
document were illegal in the text. -/
theorem wellFormed_of_text (text : String) :
    IsDocument (ofText text).document.toList ∧
      (WellFormed (ofText text).document.toList ↔
        ∀ c, c ∈ (ofText text).name.toList ∨ c ∈ (ofText text).timeSignature.toList →
          isChar c = true) ∧
      ((∀ c ∈ text.toList, isChar c = true) → WellFormed (ofText text).document.toList) :=
  ⟨isDocument_document _, wellFormed_document _, fun h =>
    (wellFormed_document _).2 fun c hc => h c (Notation.mem_text_of_mem_headers hc)⟩

theorem not_wellFormed_control_character :
    ¬WellFormed (ofText "Toque: A\x01B\nTime: 4/4\n").document.toList := by
  rw [wellFormed_document]
  intro h
  exact absurd (h '\x01' (.inl (by decide))) (by decide)

end Toque

end Bata
