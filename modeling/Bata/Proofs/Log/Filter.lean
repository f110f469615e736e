import Bata.Log
import Bata.Proofs.Pattern
import Mathlib.Data.List.Induction
import Mathlib.Tactic.Common

namespace Bata

/-- Of the directives of a setting, `d` is the one that says up to which level `r` is shown. -/
structure Directive.Decides (ds : List Directive) (r : Record) (d : Directive) : Prop where
  covers : d.covers r = true
  longest : ∀ e ∈ ds, e.covers r = true → e.targetLength ≤ d.targetLength
  last : (ds.filter (·.target = d.target)).getLast? = some d

instance (ds : List Directive) (r : Record) : DecidablePred (Directive.Decides ds r) :=
  fun d => decidable_of_iff
    (d.covers r = true ∧ (∀ e ∈ ds, e.covers r = true → e.targetLength ≤ d.targetLength) ∧
      (ds.filter (·.target = d.target)).getLast? = some d)
    ⟨fun h => ⟨h.1, h.2.1, h.2.2⟩, fun h => ⟨h.covers, h.longest, h.last⟩⟩

theorem Directive.eq_target_of_covers {d e : Directive} {r : Record} (hd : d.covers r = true)
    (he : e.covers r = true) (hlength : d.targetLength = e.targetLength)
    (hd' : d.target ≠ some "") (he' : e.target ≠ some "") : d.target = e.target := by
  obtain ⟨target, limit⟩ := d
  obtain ⟨target', limit'⟩ := e
  cases target with
  | none =>
    cases target' with
    | none => rfl
    | some t' => exact absurd (congrArg some (String.length_eq_zero_iff.1 hlength.symm)) he'
  | some t =>
    cases target' with
    | none => exact absurd (congrArg some (String.length_eq_zero_iff.1 hlength)) hd'
    | some t' =>
      have ht : t.toList <+: r.target.toList := List.isPrefixOf_iff_prefix.1 hd
      have ht' : t'.toList <+: r.target.toList := List.isPrefixOf_iff_prefix.1 he
      have hlist : t.toList = t'.toList :=
        (List.prefix_of_prefix_length_le ht ht' (Nat.le_of_eq hlength)).eq_of_length hlength
      exact congrArg some (String.toList_inj.1 hlist)

namespace LogFilter

/-- The directives that count, at most one for each target. -/
def held (ds : List Directive) : List Directive :=
  ds.foldl (fun held d => insert d held) []

theorem held_concat (ds : List Directive) (d : Directive) :
    held (ds ++ [d]) = insert d (held ds) := by
  rw [held, List.foldl_append]
  rfl

theorem mem_insert {d e : Directive} {es : List Directive}
    (hes : es.Pairwise fun x y => x.target ≠ y.target) :
    e ∈ insert d es ↔ e = d ∨ e ∈ es ∧ e.target ≠ d.target := by
  induction es with
  | nil => simp [insert]
  | cons x xs ih =>
    rw [List.pairwise_cons] at hes
    rw [insert]
    split
    · rename_i hx
      have hrest : e ∈ xs → e.target ≠ d.target := fun he h => hes.1 e he (hx.trans h.symm)
      rw [List.mem_cons, List.mem_cons]
      constructor
      · rintro (rfl | he)
        · exact .inl rfl
        · exact .inr ⟨.inr he, hrest he⟩
      · rintro (rfl | ⟨rfl | he, hne⟩)
        · exact .inl rfl
        · exact absurd hx hne
        · exact .inr he
    · rename_i hx
      rw [List.mem_cons, List.mem_cons, ih hes.2]
      constructor
      · rintro (rfl | rfl | ⟨he, hne⟩)
        · exact .inr ⟨.inl rfl, hx⟩
        · exact .inl rfl
        · exact .inr ⟨.inr he, hne⟩
      · rintro (rfl | ⟨rfl | he, hne⟩)
        · exact .inr (.inl rfl)
        · exact .inl rfl
        · exact .inr (.inr ⟨he, hne⟩)

theorem pairwise_insert {d : Directive} {es : List Directive}
    (hes : es.Pairwise fun x y => x.target ≠ y.target) :
    (insert d es).Pairwise fun x y => x.target ≠ y.target := by
  induction es with
  | nil => exact List.pairwise_singleton _ _
  | cons x xs ih =>
    rw [List.pairwise_cons] at hes
    rw [insert]
    split
    · rename_i hx
      exact List.pairwise_cons.2 ⟨fun e he => hx ▸ hes.1 e he, hes.2⟩
    · rename_i hx
      refine List.pairwise_cons.2 ⟨fun e he => ?_, ih hes.2⟩
      obtain rfl | ⟨he, -⟩ := (mem_insert hes.2).1 he
      · exact hx
      · exact hes.1 e he

theorem pairwise_held (ds : List Directive) :
    (held ds).Pairwise fun x y => x.target ≠ y.target := by
  induction ds using List.reverseRecOn with
  | nil => exact .nil
  | append_singleton ds d ih =>
    rw [held_concat]
    exact pairwise_insert ih

/-- Of several directives for one target the last one counts. -/
theorem mem_held_iff {ds : List Directive} {d : Directive} :
    d ∈ held ds ↔ (ds.filter (·.target = d.target)).getLast? = some d := by
  induction ds using List.reverseRecOn with
  | nil => simp [held]
  | append_singleton ds e ih =>
    rw [held_concat, mem_insert (pairwise_held ds), ih, List.filter_append]
    by_cases h : e.target = d.target
    · have hsame : [e].filter (·.target = d.target) = [e] := by simp [h]
      rw [hsame, List.getLast?_concat, Option.some_inj]
      exact ⟨fun hd => hd.elim Eq.symm fun hd => absurd h.symm hd.2, fun hd => .inl hd.symm⟩
    · have hother : [e].filter (·.target = d.target) = [] := by simp [h]
      rw [hother, List.append_nil]
      exact ⟨fun hd => hd.elim (fun hd => absurd (congrArg Directive.target hd.symm) h) And.left,
        fun hd => .inr ⟨hd, Ne.symm h⟩⟩

theorem exists_mem_held {ds : List Directive} {d : Directive} (h : d ∈ ds) :
    ∃ e ∈ held ds, e.target = d.target := by
  have hne : ds.filter (·.target = d.target) ≠ [] :=
    List.ne_nil_of_mem (List.mem_filter.2 ⟨h, decide_eq_true rfl⟩)
  obtain ⟨e, he⟩ := Option.ne_none_iff_exists'.1 (mt List.getLast?_eq_none_iff.1 hne)
  have htarget : e.target = d.target :=
    of_decide_eq_true (List.mem_filter.1 (List.mem_of_getLast? he)).2
  exact ⟨e, mem_held_iff.2 (by rw [htarget]; exact he), htarget⟩

theorem mem_of_mem_held {ds : List Directive} {d : Directive} (h : d ∈ held ds) : d ∈ ds :=
  List.mem_of_mem_filter (List.mem_of_getLast? (mem_held_iff.1 h))

def longest? (ds : List Directive) : Option Directive :=
  ds.foldl
    (fun best d =>
      match best with
      | none => some d
      | some b => if b.targetLength ≤ d.targetLength then some d else some b)
    none

theorem longest?_concat (ds : List Directive) (d : Directive) :
    longest? (ds ++ [d]) =
      match longest? ds with
      | none => some d
      | some b => if b.targetLength ≤ d.targetLength then some d else some b := by
  rw [longest?, List.foldl_append]
  rfl

theorem longest?_eq_none_iff {ds : List Directive} : longest? ds = none ↔ ds = [] := by
  obtain rfl | ⟨ds, d, rfl⟩ := List.eq_nil_or_concat' ds
  · simp [longest?]
  · rw [longest?_concat]
    split
    · simp
    · split <;> simp

theorem exists_of_longest? {ds : List Directive} {d : Directive} (h : longest? ds = some d) :
    ∃ before after, ds = before ++ d :: after ∧
      (∀ e ∈ before, e.targetLength ≤ d.targetLength) ∧
      ∀ e ∈ after, e.targetLength < d.targetLength := by
  induction ds using List.reverseRecOn generalizing d with
  | nil => cases h
  | append_singleton ds e ih =>
    rw [longest?_concat] at h
    cases hds : longest? ds with
    | none =>
      rw [hds] at h
      obtain rfl := Option.some.inj h
      obtain rfl := longest?_eq_none_iff.1 hds
      exact ⟨[], [], rfl, List.forall_mem_nil _, List.forall_mem_nil _⟩
    | some b =>
      rw [hds] at h
      obtain ⟨before, after, rfl, hbefore, hafter⟩ := ih hds
      dsimp only at h
      split at h
      · rename_i hlength
        obtain rfl := Option.some.inj h
        refine ⟨before ++ b :: after, [], rfl, ?_, List.forall_mem_nil _⟩
        rw [List.forall_mem_append, List.forall_mem_cons]
        exact ⟨fun x hx => Nat.le_trans (hbefore x hx) hlength, hlength,
          fun x hx => Nat.le_trans (Nat.le_of_lt (hafter x hx)) hlength⟩
      · rename_i hlength
        obtain rfl := Option.some.inj h
        refine ⟨before, after ++ [e], by simp, hbefore, ?_⟩
        rw [List.forall_mem_append, List.forall_mem_singleton]
        exact ⟨hafter, Nat.lt_of_not_le hlength⟩

theorem longest?_of_split {before after : List Directive} {d : Directive}
    (hbefore : ∀ e ∈ before, e.targetLength ≤ d.targetLength)
    (hafter : ∀ e ∈ after, e.targetLength < d.targetLength) :
    longest? (before ++ d :: after) = some d := by
  induction after using List.reverseRecOn with
  | nil =>
    rw [longest?_concat]
    cases hlongest : longest? before with
    | none => rfl
    | some b =>
      obtain ⟨front, rest, rfl, -, -⟩ := exists_of_longest? hlongest
      exact if_pos (hbefore b (by simp))
  | append_singleton after e ih =>
    rw [List.forall_mem_append, List.forall_mem_singleton] at hafter
    rw [← List.cons_append, ← List.append_assoc, longest?_concat, ih hafter.1]
    exact if_neg (Nat.not_le_of_lt hafter.2)

/-- The directive with the longest of the targets that cover a record decides, and of several such
the last. -/
theorem decisive?_eq_some_iff {f : LogFilter} {r : Record} {d : Directive} :
    f.decisive? r = some d ↔
      ∃ before after, f.directives.filter (·.covers r) = before ++ d :: after ∧
        (∀ e ∈ before, e.targetLength ≤ d.targetLength) ∧
        ∀ e ∈ after, e.targetLength < d.targetLength := by
  change longest? _ = _ ↔ _
  refine ⟨exists_of_longest?, ?_⟩
  rintro ⟨before, after, hsplit, hbefore, hafter⟩
  rw [hsplit]
  exact longest?_of_split hbefore hafter

/-- Without any directive errors are shown, and no record is one. -/
theorem shows_ofDirectives_nil (pattern : Option Pattern) (r : Record) :
    (ofDirectives [] pattern).shows r = false := by
  cases r <;> rfl

theorem ofDirectives_eq {ds : List Directive} (h : ds ≠ []) (pattern : Option Pattern) :
    ofDirectives ds pattern = ⟨held ds, pattern⟩ := by
  obtain ⟨d, hd⟩ := List.exists_mem_of_ne_nil ds h
  obtain ⟨e, he, -⟩ := exists_mem_held hd
  rw [ofDirectives]
  split
  · rename_i hnil
    change held ds = [] at hnil
    rw [hnil] at he
    cases he
  · rfl

variable {ds : List Directive} {r : Record}

theorem decisive?_ofDirectives (hne : ds ≠ []) (hempty : ∀ d ∈ ds, d.target ≠ some "")
    (pattern : Option Pattern) (d : Directive) :
    (ofDirectives ds pattern).decisive? r = some d ↔ Directive.Decides ds r d := by
  rw [ofDirectives_eq hne, decisive?_eq_some_iff]
  constructor
  · rintro ⟨before, after, hsplit, hbefore, hafter⟩
    have hle : ∀ e ∈ held ds, e.covers r = true → e.targetLength ≤ d.targetLength := by
      intro e he hcovers
      have hmem : e ∈ before ++ d :: after := hsplit ▸ List.mem_filter.2 ⟨he, hcovers⟩
      rw [List.mem_append, List.mem_cons] at hmem
      rcases hmem with hmem | rfl | hmem
      · exact hbefore e hmem
      · exact Nat.le_refl _
      · exact Nat.le_of_lt (hafter e hmem)
    have hd : d ∈ (held ds).filter (·.covers r) := by
      rw [hsplit]
      exact List.mem_append_right _ List.mem_cons_self
    obtain ⟨hheld, hcovers⟩ := List.mem_filter.1 hd
    refine ⟨hcovers, fun e he hecovers => ?_, mem_held_iff.1 hheld⟩
    -- the last directive for the target of `e` speaks for it
    obtain ⟨e', he', htarget⟩ := exists_mem_held he
    have hlength : e'.targetLength = e.targetLength := by
      rw [Directive.targetLength, htarget, Directive.targetLength]
    have hcovers' : e'.covers r = true := by
      rw [Directive.covers, htarget]
      exact hecovers
    exact hlength ▸ hle e' he' hcovers'
  · intro h
    have hheld : d ∈ held ds := mem_held_iff.2 h.last
    have hd : d ∈ (held ds).filter (·.covers r) := List.mem_filter.2 ⟨hheld, h.covers⟩
    obtain ⟨before, after, hsplit⟩ := List.append_of_mem hd
    have hmem : ∀ e ∈ before ++ d :: after, e ∈ ds ∧ e.covers r = true := by
      intro e he
      rw [← hsplit] at he
      exact ⟨mem_of_mem_held (List.mem_filter.1 he).1, (List.mem_filter.1 he).2⟩
    have hpairwise := (pairwise_held ds).filter (·.covers r)
    rw [hsplit, List.pairwise_append, List.pairwise_cons] at hpairwise
    refine ⟨before, after, hsplit, fun e he => ?_, fun e he => ?_⟩
    · obtain ⟨he, hcovers⟩ := hmem e (List.mem_append_left _ he)
      exact h.longest e he hcovers
    · obtain ⟨hds, hcovers⟩ := hmem e (List.mem_append_right _ (List.mem_cons_of_mem _ he))
      refine Nat.lt_of_le_of_ne (h.longest e hds hcovers) fun hlength => ?_
      exact hpairwise.2.1.1 e he (Directive.eq_target_of_covers h.covers hcovers hlength.symm
        (hempty d (mem_of_mem_held hheld)) (hempty e hds))

/-- What directives and a pattern let through. -/
structure Passes (ds : List Directive) (pattern : Option Pattern) (r : Record) : Prop where
  level : ∃ d ∈ ds, Directive.Decides ds r d ∧ d.shows r = true
  found : ∀ p ∈ pattern, ∃ b s a, r.message.toList = b ++ s ++ a ∧ p.Matches b s a

theorem all_occursIn_iff {pattern : Option Pattern} {text : List Char} :
    pattern.all (·.occursIn text) = true ↔
      ∀ p ∈ pattern, ∃ b s a, text = b ++ s ++ a ∧ p.Matches b s a := by
  cases pattern with
  | none => simp
  | some p =>
    rw [Option.all_some, Pattern.occursIn_iff]
    exact ⟨fun h q hq => Option.some.inj hq ▸ h, fun h => h p rfl⟩

instance (ds : List Directive) (pattern : Option Pattern) : DecidablePred (Passes ds pattern) :=
  fun r => decidable_of_iff
    ((∃ d ∈ ds, Directive.Decides ds r d ∧ d.shows r = true) ∧
      pattern.all (·.occursIn r.message.toList) = true)
    ⟨fun h => ⟨h.1, all_occursIn_iff.1 h.2⟩, fun h => ⟨h.level, all_occursIn_iff.2 h.found⟩⟩

/-- A record is shown that the decisive directive shows and whose message contains a match of the
pattern. -/
theorem shows_ofDirectives_iff (hempty : ∀ d ∈ ds, d.target ≠ some "") {pattern : Option Pattern} :
    (ofDirectives ds pattern).shows r = true ↔ Passes ds pattern r := by
  by_cases hne : ds = []
  · subst hne
    rw [shows_ofDirectives_nil]
    refine iff_of_false Bool.false_ne_true ?_
    rintro ⟨⟨d, hd, -⟩, -⟩
    cases hd
  · have hpattern : (ofDirectives ds pattern).pattern = pattern := by rw [ofDirectives_eq hne]
    rw [shows, hpattern, Bool.and_eq_true, all_occursIn_iff, Option.any_eq_true]
    constructor
    · rintro ⟨⟨d, hd, hshows⟩, hfound⟩
      have hdecides := (decisive?_ofDirectives hne hempty pattern d).1 hd
      have hmem := mem_of_mem_held (mem_held_iff.2 hdecides.last)
      exact ⟨⟨d, hmem, hdecides, hshows⟩, hfound⟩
    · rintro ⟨⟨d, -, hdecides, hshows⟩, hfound⟩
      exact ⟨⟨d, (decisive?_ofDirectives hne hempty pattern d).2 hdecides, hshows⟩, hfound⟩

end LogFilter

end Bata
