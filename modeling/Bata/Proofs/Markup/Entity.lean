import Bata.Markup
import Mathlib.Tactic.Common

namespace Bata.Markup

/-- Undoes escaping. An ampersand that starts none of the five entities is refused. -/
def unescape : List Char → Option (List Char)
  | [] => some []
  | '&' :: 'a' :: 'm' :: 'p' :: ';' :: cs => (unescape cs).map ('&' :: ·)
  | '&' :: 'l' :: 't' :: ';' :: cs => (unescape cs).map ('<' :: ·)
  | '&' :: 'g' :: 't' :: ';' :: cs => (unescape cs).map ('>' :: ·)
  | '&' :: 'q' :: 'u' :: 'o' :: 't' :: ';' :: cs => (unescape cs).map ('"' :: ·)
  | '&' :: '#' :: '3' :: '9' :: ';' :: cs => (unescape cs).map ('\'' :: ·)
  | '&' :: _ => none
  | c :: cs => (unescape cs).map (c :: ·)

theorem unescape_cons {c : Char} (h : c ≠ '&') (cs : List Char) :
    unescape (c :: cs) = (unescape cs).map (c :: ·) := by
  rw [unescape]
  all_goals simp_all

theorem unescape_escapeChar_append (c : Char) (cs : List Char) :
    unescape (escapeChar c ++ cs) = (unescape cs).map (c :: ·) := by
  unfold escapeChar
  split_ifs with hamp hlt hgt hquot hapos
  · subst hamp; rfl
  · subst hlt; rfl
  · subst hgt; rfl
  · subst hquot; rfl
  · subst hapos; rfl
  · exact unescape_cons hamp cs

theorem unescape_escape (s : String) : unescape (escape s) = some s.toList := by
  rw [escape]
  induction s.toList with
  | nil => rfl
  | cons c cs ih => rw [List.flatMap_cons, unescape_escapeChar_append, ih, Option.map_some]

theorem escapeChar_ne_nil (c : Char) : escapeChar c ≠ [] := by
  unfold escapeChar
  split_ifs <;> simp

theorem escape_eq_nil_iff {s : String} : escape s = [] ↔ s = "" := by
  rw [escape, List.flatMap_eq_nil_iff, ← String.toList_eq_nil_iff, List.eq_nil_iff_forall_not_mem]
  exact forall₂_congr fun c _ => by simp [escapeChar_ne_nil]

theorem mem_escapeChar {c d : Char} (h : c ∈ escapeChar d) :
    c ≠ '<' ∧ c ≠ '>' ∧ c ≠ '"' ∧ c ≠ '\'' := by
  have hentity : ["&amp;", "&lt;", "&gt;", "&quot;", "&#39;"].all (fun e => e.toList.all
      fun c => c ≠ '<' ∧ c ≠ '>' ∧ c ≠ '"' ∧ c ≠ '\'') = true := by decide
  simp only [List.all_eq_true, decide_eq_true_eq] at hentity
  unfold escapeChar at h
  split_ifs at h with hamp hlt hgt hquot hapos
  · exact hentity _ (by simp) c h
  · exact hentity _ (by simp) c h
  · exact hentity _ (by simp) c h
  · exact hentity _ (by simp) c h
  · exact hentity _ (by simp) c h
  · obtain rfl := List.mem_singleton.1 h
    exact ⟨hlt, hgt, hquot, hapos⟩

/-- Neither a bracket nor a quotation mark is left in escaped text. -/
theorem mem_escape {c : Char} {s : String} (h : c ∈ escape s) :
    c ≠ '<' ∧ c ≠ '>' ∧ c ≠ '"' ∧ c ≠ '\'' := by
  obtain ⟨_, -, hc⟩ := List.mem_flatMap.1 h
  exact mem_escapeChar hc

def entities : List String :=
  ["&amp;", "&lt;", "&gt;", "&quot;", "&#39;"]

theorem ampersand_suffix_of_append {xs cs rest : List Char} (h : '&' ∉ xs)
    (hs : '&' :: rest <:+ xs ++ cs) : '&' :: rest <:+ cs := by
  induction xs with
  | nil => exact hs
  | cons x xs ih =>
    rw [List.mem_cons, not_or] at h
    rw [List.cons_append, List.suffix_cons_iff] at hs
    exact ih h.2 (hs.resolve_left fun he => h.1 (List.cons.inj he).1)

/-- An entity holds no other ampersand than the one it starts with. -/
theorem ampersand_entity_append {e : String} (he : e ∈ entities) {cs rest : List Char}
    (h : '&' :: rest <:+ e.toList ++ cs) : e.toList <+: '&' :: rest ∨ '&' :: rest <:+ cs := by
  have htail : e.toList = '&' :: e.toList.tail ∧ '&' ∉ e.toList.tail := by
    simp only [entities, List.mem_cons, List.not_mem_nil, or_false] at he
    rcases he with rfl | rfl | rfl | rfl | rfl <;> decide
  rw [htail.1, List.cons_append, List.suffix_cons_iff] at h
  rcases h with hwhole | hlater
  · rw [hwhole, htail.1]
    exact .inl (List.cons_prefix_cons.2 ⟨rfl, List.prefix_append _ cs⟩)
  · exact .inr (ampersand_suffix_of_append htail.2 hlater)

theorem ampersand_escapeChar_append {c : Char} {cs rest : List Char}
    (h : '&' :: rest <:+ escapeChar c ++ cs) :
    (∃ e ∈ entities, e.toList <+: '&' :: rest) ∨ '&' :: rest <:+ cs := by
  have hentity : ∀ e ∈ entities, '&' :: rest <:+ e.toList ++ cs →
      (∃ e ∈ entities, e.toList <+: '&' :: rest) ∨ '&' :: rest <:+ cs :=
    fun e he hsuffix => (ampersand_entity_append he hsuffix).imp_left fun hp => ⟨e, he, hp⟩
  unfold escapeChar at h
  split_ifs at h with hamp hlt hgt hquot hapos
  · exact hentity _ (by simp [entities]) h
  · exact hentity _ (by simp [entities]) h
  · exact hentity _ (by simp [entities]) h
  · exact hentity _ (by simp [entities]) h
  · exact hentity _ (by simp [entities]) h
  · exact .inr (ampersand_suffix_of_append (by simpa using Ne.symm hamp) h)

/-- Every ampersand that is left in escaped text starts an entity. -/
theorem exists_entity_of_ampersand {s : String} {rest : List Char}
    (h : '&' :: rest <:+ escape s) : ∃ e ∈ entities, e.toList <+: '&' :: rest := by
  rw [escape] at h
  generalize s.toList = cs at h
  induction cs with
  | nil => cases List.suffix_nil.1 h
  | cons c cs ih => exact (ampersand_escapeChar_append h).elim id ih

end Bata.Markup
