import Bata.Conversion
import Bata.Proofs.Notation.Written
import Bata.Proofs.Toque.Exchange

namespace Bata

/-- With an entry for every drum, empty where there was none. -/
def Parts.completed (p : Parts) : Parts :=
  ⟨some (p.okonkolo.getD ""), some (p.itotele.getD ""), some (p.iya.getD "")⟩

theorem Parts.get?_completed (p : Parts) (d : Drum) :
    p.completed.get? d = some ((p.get? d).getD "") := by
  cases d <;> rfl

namespace Toque

def completed (t : Toque) : Toque :=
  { t with parts := t.parts.completed }

/-- Two toques that differ at most in whether an empty part has an entry. -/
structure ReadsAs (a b : Toque) : Prop where
  name : a.name = b.name
  timeSignature : a.timeSignature = b.timeSignature
  part : ∀ d, a.part d = b.part d

section readsAs

variable {a b : Toque} (h : ReadsAs a b)
include h

theorem ReadsAs.columns_eq : a.columns = b.columns := by
  simp only [columns, h.part]

theorem ReadsAs.meter_eq : a.meter = b.meter := by
  rw [meter, meter, h.timeSignature]

theorem ReadsAs.ruling_eq : a.ruling = b.ruling := by
  rw [ruling, ruling, h.columns_eq, h.meter_eq]

theorem ReadsAs.chart_eq : a.chart = b.chart := by
  have hstrokes : a.strokes = b.strokes := by
    funext d
    rw [strokes, strokes, h.ruling_eq, h.part]
  simp only [chart, title, h.name, h.timeSignature, h.columns_eq, h.meter_eq, h.ruling_eq,
    hstrokes]

theorem ReadsAs.document_eq : a.document = b.document := by
  rw [document, document, h.chart_eq]

theorem ReadsAs.warnings_eq : a.warnings = b.warnings := by
  have hsignature : a.signatureWarnings = b.signatureWarnings := by
    rw [signatureWarnings, signatureWarnings, h.meter_eq, h.timeSignature]
  have hparts : a.partWarnings = b.partWarnings := by
    funext d
    rw [partWarnings, partWarnings, h.part]
  rw [warnings, warnings, hsignature, hparts]

theorem ReadsAs.drawing_eq : a.drawing = b.drawing := by
  rw [drawing, drawing, h.name, h.ruling_eq]

end readsAs

theorem foldr_max_entries (p : Parts) (ds : List Drum) :
    ((ds.filterMap fun d => (p.get? d).map (d, ·)).map fun entry => entry.2.length).foldr max 0 =
      (ds.map fun d => ((p.get? d).getD "").length).foldr max 0 := by
  induction ds with
  | nil => rfl
  | cons d ds ih =>
    cases hd : p.get? d with
    | none => simp [hd, ih]
    | some part => simp [hd, ih]

theorem columns_eq_foldr_entries (t : Toque) :
    t.columns = (t.parts.toList.map fun entry => entry.2.length).foldr max 0 :=
  (foldr_max_entries t.parts Drum.all).symm

theorem part_completed (t : Toque) (d : Drum) : t.completed.part d = t.part d := by
  rw [part, completed, Parts.get?_completed]
  rfl

theorem readsAs_completed (t : Toque) : ReadsAs t.completed t :=
  ⟨rfl, rfl, t.part_completed⟩

theorem completed_eq_self_iff {t : Toque} :
    t.completed = t ↔ ∀ d, (t.parts.get? d).isSome := by
  constructor
  · intro h d
    rw [← h, completed, Parts.get?_completed]
    rfl
  · intro h
    refine ext_get? rfl rfl fun d => ?_
    obtain ⟨part, hpart⟩ := Option.isSome_iff_exists.1 (h d)
    rw [completed, Parts.get?_completed, hpart, Option.getD_some]

/-- A drum without an entry is drawn, warned of and logged like one with an empty part. Toques and
their JSON texts tell the two apart, but no text is read as a toque without an entry for a drum. -/
theorem absent_reads_as_empty (t : Toque) :
    (∀ d, t.completed.parts.get? d = some (t.part d) ∧ t.completed.part d = t.part d) ∧
      t.columns = (t.parts.toList.map fun entry => entry.2.length).foldr max 0 ∧
      t.completed.columns = t.columns ∧ t.completed.meter = t.meter ∧
      t.completed.warnings = t.warnings ∧ t.completed.document = t.document ∧
      t.completed.drawing = t.drawing ∧
      ofJson t.toJson = .ok t ∧
      (t.completed = t ↔ ∀ d, (t.parts.get? d).isSome) ∧
      (t.completed.toJsonText = t.toJsonText ↔ ∀ d, (t.parts.get? d).isSome) ∧
      ∀ text, (ofText text).completed = ofText text := by
  have hreads := t.readsAs_completed
  refine ⟨fun d => ⟨t.parts.get?_completed d, t.part_completed d⟩, t.columns_eq_foldr_entries,
    hreads.columns_eq, hreads.meter_eq, hreads.warnings_eq, hreads.document_eq, hreads.drawing_eq,
    t.ofJson_toJson, completed_eq_self_iff, ?_, fun text => ?_⟩
  · rw [toJsonText_injective.eq_iff, completed_eq_self_iff]
  · exact completed_eq_self_iff.2 (Notation.isWritable_ofText text).entry

end Toque

end Bata
