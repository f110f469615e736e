import Bata.Proofs.Json.RoundTrip
import Bata.Toque.Exchange
import Mathlib.Tactic.Common

namespace Bata

namespace Json

theorem eq_or_mem_of_mem_insertMember {m x : String × Json} {ms : List (String × Json)}
    (h : x ∈ insertMember m ms) : x = m ∨ x ∈ ms := by
  induction ms with
  | nil => exact .inl (List.mem_singleton.1 h)
  | cons a ms ih =>
    rw [insertMember] at h
    split at h
    · exact List.mem_cons.1 h
    · split at h
      · exact (List.mem_cons.1 h).imp_right (List.mem_cons_of_mem a)
      · rcases List.mem_cons.1 h with rfl | h
        · exact .inr List.mem_cons_self
        · exact (ih h).imp_right (List.mem_cons_of_mem a)

theorem mem_names_insertMember (m : String × Json) (ms : List (String × Json)) (name : String) :
    name ∈ (insertMember m ms).map (·.1) ↔ name = m.1 ∨ name ∈ ms.map (·.1) := by
  induction ms with
  | nil => simp [insertMember]
  | cons a ms ih =>
    rw [insertMember]
    split
    · simp
    · split
      · rename_i heq
        simp [heq]
      · rw [List.map_cons, List.mem_cons, ih, List.map_cons, List.mem_cons]
        exact or_left_comm

theorem mem_of_mem_sortedMembers {x : String × Json} {ms : List (String × Json)}
    (h : x ∈ sortedMembers ms) : x ∈ ms := by
  induction ms using List.reverseRecOn with
  | nil => exact h
  | append_singleton ms m ih =>
    rw [sortedMembers, List.foldl_append] at h
    rcases eq_or_mem_of_mem_insertMember h with rfl | h
    · exact List.mem_append_right ms (List.mem_singleton_self x)
    · exact List.mem_append_left [m] (ih h)

theorem mem_names_sortedMembers (ms : List (String × Json)) (name : String) :
    name ∈ (sortedMembers ms).map (·.1) ↔ name ∈ ms.map (·.1) := by
  induction ms using List.reverseRecOn with
  | nil => exact Iff.rfl
  | append_singleton ms m ih =>
    rw [sortedMembers, List.foldl_append]
    change name ∈ (insertMember m (sortedMembers ms)).map _ ↔ _
    rw [mem_names_insertMember, ih, List.map_append, List.mem_append]
    simp [or_comm]

end Json

theorem Parts.mem_toList (p : Parts) (d : Drum) (part : String) :
    (d, part) ∈ p.toList ↔ p.get? d = some part := by
  simp only [toList, List.mem_filterMap, Option.map_eq_some_iff, Prod.mk.injEq]
  constructor
  · rintro ⟨e, -, s, hs, rfl, rfl⟩
    exact hs
  · intro h
    exact ⟨d, d.mem_all, part, h, rfl, rfl⟩

namespace Toque

/-- Members that tell only entries of `p`, in any order, load as the entries that they name. -/
theorem exists_foldlM_loadPart (p : Parts) (ms : List (String × Json))
    (hms : ∀ m ∈ ms, ∃ d part, p.get? d = some part ∧ m = (d.name, .string part)) (q : Parts) :
    ∃ r, ms.foldlM loadPart q = .ok r ∧ ∀ e : Drum,
      (e.name ∈ ms.map (·.1) → r.get? e = p.get? e) ∧
        (e.name ∉ ms.map (·.1) → r.get? e = q.get? e) := by
  induction ms generalizing q with
  | nil => exact ⟨q, rfl, fun e => ⟨fun h => absurd h List.not_mem_nil, fun _ => rfl⟩⟩
  | cons m ms ih =>
    obtain ⟨d, part, hd, rfl⟩ := hms m List.mem_cons_self
    obtain ⟨r, hr, hget⟩ := ih (fun m hm => hms m (List.mem_cons_of_mem _ hm)) (q.insert d part)
    have hload : loadPart q (d.name, .string part) = .ok (q.insert d part) := by
      rw [loadPart, Drum.ofName?_name]
      rfl
    refine ⟨r, ?_, fun e => ⟨fun he => ?_, fun he => ?_⟩⟩
    · rw [List.foldlM_cons, hload]
      exact hr
    · by_cases hmem : e.name ∈ ms.map (·.1)
      · exact (hget e).1 hmem
      · have hed : e = d := Drum.name_inj.1 ((List.mem_cons.1 he).resolve_right hmem)
        rw [(hget e).2 hmem, Parts.get?_insert, if_pos hed, hed, hd]
    · obtain ⟨hed, hmem⟩ := not_or.1 (mt List.mem_cons.2 he)
      rw [(hget e).2 hmem, Parts.get?_insert, if_neg fun h => hed (congrArg Drum.name h)]

theorem exists_partsToJson (p : Parts) :
    ∃ ms, partsToJson p = .object ms ∧
      ∀ m, m ∈ ms ↔ ∃ d part, p.get? d = some part ∧ m = (d.name, .string part) := by
  refine ⟨_, rfl, fun m => List.mem_map.trans ?_⟩
  constructor
  · rintro ⟨⟨d, part⟩, hmem, rfl⟩
    exact ⟨d, part, (p.mem_toList d part).1 hmem, rfl⟩
  · rintro ⟨d, part, hd, rfl⟩
    exact ⟨(d, part), (p.mem_toList d part).2 hd, rfl⟩

theorem loadParts_partsToJson (p : Parts) : loadParts (partsToJson p) = .ok p := by
  obtain ⟨ms, hp, hms⟩ := exists_partsToJson p
  obtain ⟨r, hr, hget⟩ := exists_foldlM_loadPart p (Json.sortedMembers ms)
    (fun m hm => (hms m).1 (Json.mem_of_mem_sortedMembers hm)) .empty
  rw [hp, loadParts, hr]
  refine congrArg Except.ok (Parts.ext_get? fun e => ?_)
  cases he : p.get? e with
  | some part =>
    have hmem := (hms (e.name, .string part)).2 ⟨e, part, he, rfl⟩
    have hname := (Json.mem_names_sortedMembers ms e.name).2 (List.mem_map_of_mem hmem)
    exact ((hget e).1 hname).trans he
  | none =>
    by_cases hname : e.name ∈ (Json.sortedMembers ms).map (·.1)
    · exact ((hget e).1 hname).trans he
    · rw [(hget e).2 hname]
      cases e <;> rfl

theorem ofJson_toJson (t : Toque) : ofJson t.toJson = .ok t := by
  have hsorted : Json.sortedMembers [("name", .string t.name),
        ("time_signature", .string t.timeSignature), ("parts", partsToJson t.parts)] =
      [("name", .string t.name), ("parts", partsToJson t.parts),
        ("time_signature", .string t.timeSignature)] := by
    have hparts : "parts" < "time_signature" := by decide
    have hsignature : ¬"time_signature" < "name" := by decide
    have hname : ¬"parts" < "name" := by decide
    simp only [Json.sortedMembers, List.foldl_cons, List.foldl_nil, Json.insertMember, hparts,
      hsignature, hname, String.reduceEq, if_true, if_false]
  rw [toJson, ofJson, hsorted]
  simp [Draft.add, loadString, loadParts_partsToJson, Except.map]
  rfl

theorem toJsonText_injective : Function.Injective toJsonText := by
  intro a b h
  have hread := congrArg Json.read? h
  rw [toJsonText, toJsonText, Json.read?_write, Json.read?_write] at hread
  have hload := congrArg ofJson (Option.some.inj hread)
  rw [ofJson_toJson, ofJson_toJson] at hload
  exact Except.ok.inj hload

/-- Nothing of a toque is lost in its JSON text, in which an absent part is not an empty one, so
two toques of one text are one toque. -/
theorem ofJsonText?_toJsonText (a b : Toque) :
    ofJsonText? a.toJsonText = some a ∧ (a.toJsonText = b.toJsonText ↔ a = b) := by
  have hread : ∀ t : Toque, ofJsonText? t.toJsonText = some t := by
    intro t
    rw [ofJsonText?, toJsonText, Json.read?_write, Option.bind_some, ofJson_toJson]
    rfl
  refine ⟨hread a, fun h => ?_, congrArg toJsonText⟩
  have hsame := hread a
  rw [h, hread b] at hsame
  exact (Option.some.inj hsame).symm

end Toque

end Bata
