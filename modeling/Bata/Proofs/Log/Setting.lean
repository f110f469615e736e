import Bata.Proofs.Log.Filter
import Bata.Proofs.Pattern.Written
import Bata.Proofs.Text.Basic
import Mathlib.Tactic.Common

namespace Bata

/-- The records of the targets that begin so, up to a level. -/
def Directive.Keeps (d : Directive) (r : Record) : Prop :=
  (∀ target ∈ d.target, target.toList <+: r.target.toList) ∧
    ∃ limit ∈ d.limit, r.level.rank ≤ limit.rank

theorem Directive.keeps_iff {d : Directive} {r : Record} :
    d.Keeps r ↔ (d.covers r && d.shows r) = true := by
  obtain ⟨target, limit⟩ := d
  cases target <;> cases limit <;> simp [Keeps, covers, shows]

instance (d : Directive) : DecidablePred d.Keeps :=
  fun _ => decidable_of_iff _ Directive.keeps_iff.symm

namespace LogSetting

/-- Where a setting is cut into pieces. -/
def IsCut (c : Char) : Prop :=
  c ∈ [',', '/', '='] ∨ Text.isBlank c = true

structure IsWord (w : List Char) : Prop where
  nonempty : w ≠ []
  uncut : ∀ c ∈ w, ¬IsCut c

instance : DecidablePred IsCut :=
  fun _ => instDecidableOr

theorem isWord_iff {w : List Char} :
    IsWord w ↔ w ≠ [] ∧ (w.all fun c => !decide (IsCut c)) = true := by
  simp only [List.all_eq_true, Bool.not_eq_true', decide_eq_false_iff_not]
  exact ⟨fun h => ⟨h.nonempty, h.uncut⟩, fun h => ⟨h.1, h.2⟩⟩

instance : DecidablePred IsWord :=
  fun _ => decidable_of_iff _ isWord_iff.symm

/-- The settings that are a level, a target, or a target with a level, and those that ask for
nothing. -/
inductive Asks : Option String → Directive → Prop
  | unset : Asks none ⟨none, some .warn⟩
  | empty : Asks (some "") ⟨none, none⟩
  | off {word : String} (h : word.toUpper = "OFF") : Asks (some word) ⟨none, none⟩
  | level {word : String} {limit : Level} (h : word.toUpper = limit.name) :
      Asks (some word) ⟨none, some limit⟩
  | target {target : String} (ht : IsWord target.toList) (hoff : target.toUpper ≠ "OFF")
      (hlevel : ∀ limit : Level, target.toUpper ≠ limit.name) :
      Asks (some target) ⟨some target, some .trace⟩
  | targetLevel {target word : String} {limit : Level} (ht : IsWord target.toList)
      (h : word.toUpper = limit.name) :
      Asks (some (target ++ "=" ++ word)) ⟨some target, some limit⟩

theorem toUpper_of_isCut {c : Char} (h : IsCut c) : c.toUpper = c := by
  rcases h with h | h
  · simp only [List.mem_cons, List.not_mem_nil, or_false] at h
    rcases h with rfl | rfl | rfl <;> decide
  · refine dif_neg ?_
    rintro ⟨hlow, hhigh⟩
    rw [UInt32.le_iff_toNat_le] at hlow hhigh
    change 97 ≤ c.toNat at hlow
    change c.toNat ≤ 122 at hhigh
    simp only [Text.isBlank, Text.blankRanges, List.any_cons, List.any_nil, Bool.or_false,
      Bool.or_eq_true, Bool.and_eq_true, decide_eq_true_eq] at h
    omega

theorem isWord_name {name : String} (h : name = "OFF" ∨ ∃ limit : Level, name = limit.name) :
    IsWord name.toList := by
  rcases h with rfl | ⟨limit, rfl⟩
  · decide
  · cases limit <;> decide

theorem isWord_of_toUpper {w : String} (h : IsWord w.toUpper.toList) : IsWord w.toList := by
  rw [String.toUpper, String.toList_map] at h
  refine ⟨fun he => h.nonempty (by rw [he, List.map_nil]), fun c hc hcut => ?_⟩
  have hmem := List.mem_map_of_mem (f := Char.toUpper) hc
  rw [toUpper_of_isCut hcut] at hmem
  exact h.uncut c hmem hcut

theorem IsWord.not_mem {w : List Char} (h : IsWord w) {c : Char} (hc : c ∈ [',', '/', '=']) :
    c ∉ w :=
  fun hw => h.uncut c hw (.inl hc)

theorem IsWord.not_blank {w : List Char} (h : IsWord w) : ∀ c ∈ w, Text.isBlank c = false :=
  fun c hc => Bool.eq_false_iff.2 fun hblank => h.uncut c hc (.inr hblank)

theorem trim_of_not_blank {cs : List Char} (h : ∀ c ∈ cs, Text.isBlank c = false) :
    Text.trim cs = cs :=
  Text.trim_eq_self_iff.2 ⟨fun c hc => h c (List.mem_of_mem_head? hc),
    fun c hc => h c (List.mem_of_mem_getLast? hc)⟩

theorem limit?_of_off {word : String} (h : word.toUpper = "OFF") :
    Directive.limit? word = some none := by
  rw [Directive.limit?, if_pos h]

theorem limit?_of_level {word : String} {limit : Level} (h : word.toUpper = limit.name) :
    Directive.limit? word = some (some limit) := by
  have hoff : limit.name ≠ "OFF" := by cases limit <;> decide
  have hfind : Level.all.find? (·.name = limit.name) = some limit := by cases limit <;> decide
  rw [Directive.limit?, h, if_neg hoff, hfind, Option.map_some]

theorem limit?_eq_none {word : String} (hoff : word.toUpper ≠ "OFF")
    (hlevel : ∀ limit : Level, word.toUpper ≠ limit.name) : Directive.limit? word = none := by
  have hfind : Level.all.find? (·.name = word.toUpper) = none := by
    rw [List.find?_eq_none]
    intro limit _
    simpa using (hlevel limit).symm
  rw [Directive.limit?, if_neg hoff, hfind, Option.map_none]

theorem ofChars_word {w : String} (h : IsWord w.toList) :
    Directive.ofChars w.toList =
      match Directive.limit? w with
      | some limit => .ok ⟨none, limit⟩
      | none => .ok ⟨some w, some .trace⟩ := by
  have hpiece : w.toList.splitOn '=' = [w.toList] :=
    List.splitOn_eq_singleton (h.not_mem (by decide))
  cases hlimit : Directive.limit? w with
  | none => simp [Directive.ofChars, hpiece, hlimit]
  | some limit => simp [Directive.ofChars, hpiece, hlimit]

theorem ofChars_targetLevel {target word : String} {limit : Level} (ht : IsWord target.toList)
    (hw : IsWord word.toList) (h : word.toUpper = limit.name) :
    Directive.ofChars (target ++ "=" ++ word).toList = .ok ⟨some target, some limit⟩ := by
  have hsplit : (target ++ "=" ++ word).toList.splitOn '=' = [target.toList, word.toList] := by
    rw [String.toList_append, String.toList_append, List.append_assoc]
    change (target.toList ++ '=' :: word.toList).splitOn '=' = _
    rw [List.splitOn_append_cons_self_of_not_mem (ht.not_mem (by decide)),
      List.splitOn_eq_singleton (hw.not_mem (by decide))]
  have hne : word ≠ "" := mt String.toList_eq_nil_iff.2 hw.nonempty
  rw [Directive.ofChars, hsplit]
  simp only [trim_of_not_blank hw.not_blank, String.ofList_toList, if_neg hne, limit?_of_level h]

structure IsPiece (w : List Char) (d : Directive) : Prop where
  read : Directive.ofChars w = .ok d
  nonempty : w ≠ []
  comma : ',' ∉ w
  slash : '/' ∉ w
  not_blank : ∀ c ∈ w, Text.isBlank c = false

theorem isPiece_word {w : String} {d : Directive} (h : IsWord w.toList)
    (hd : Directive.ofChars w.toList = .ok d) : IsPiece w.toList d :=
  ⟨hd, h.nonempty, h.not_mem (by decide), h.not_mem (by decide), h.not_blank⟩

theorem isPiece_targetLevel {target word : String} {limit : Level} (ht : IsWord target.toList)
    (hw : IsWord word.toList) (h : word.toUpper = limit.name) :
    IsPiece (target ++ "=" ++ word).toList ⟨some target, some limit⟩ := by
  have hread := ofChars_targetLevel ht hw h
  have hchars : (target ++ "=" ++ word).toList = target.toList ++ '=' :: word.toList := by simp
  rw [hchars] at hread ⊢
  have hmark : ∀ c ∈ [',', '/'], c ∉ target.toList ++ '=' :: word.toList := by
    intro c hc
    have hcut : c ∈ [',', '/', '='] := List.mem_append_left ['='] hc
    have hne : c ≠ '=' := by
      rintro rfl
      exact absurd hc (by decide)
    simp [ht.not_mem hcut, hw.not_mem hcut, hne]
  refine ⟨hread, by simp, hmark _ (by simp), hmark _ (by simp), ?_⟩
  rw [List.forall_mem_append, List.forall_mem_cons]
  exact ⟨ht.not_blank, by decide, hw.not_blank⟩

theorem isPiece_of_asks {w : String} {d : Directive} (h : Asks (some w) d) :
    w = "" ∧ d = ⟨none, none⟩ ∨ IsPiece w.toList d := by
  cases h with
  | empty => exact .inl ⟨rfl, rfl⟩
  | off h =>
    have hword : IsWord w.toList := isWord_of_toUpper (h ▸ isWord_name (.inl rfl))
    have hd := ofChars_word hword
    rw [limit?_of_off h] at hd
    exact .inr (isPiece_word hword hd)
  | @level _ limit h =>
    have hword : IsWord w.toList := isWord_of_toUpper (h ▸ isWord_name (.inr ⟨limit, rfl⟩))
    have hd := ofChars_word hword
    rw [limit?_of_level h] at hd
    exact .inr (isPiece_word hword hd)
  | target ht hoff hlevel =>
    have hd := ofChars_word ht
    rw [limit?_eq_none hoff hlevel] at hd
    exact .inr (isPiece_word ht hd)
  | @targetLevel target word limit ht h =>
    have hword : IsWord word.toList := isWord_of_toUpper (h ▸ isWord_name (.inr ⟨limit, rfl⟩))
    exact .inr (isPiece_targetLevel ht hword h)

theorem target_ne_empty_of_asks {w : String} {d : Directive} (h : Asks (some w) d) :
    d.target ≠ some "" := by
  cases h with
  | target ht => exact fun he => ht.nonempty (by rw [Option.some.inj he]; rfl)
  | targetLevel ht => exact fun he => ht.nonempty (by rw [Option.some.inj he]; rfl)
  | empty | off | level => exact (Option.some_ne_none _).symm

theorem toUpper_eq_iff {w name : String} :
    w.toUpper = name ↔ w.toList.map Char.toUpper = name.toList := by
  rw [← String.toList_inj, String.toUpper, String.toList_map]

/-- The settings that the program is usually run with. -/
def usual : List (Option String × Directive) :=
  [(none, ⟨none, some .warn⟩), (some "", ⟨none, none⟩), (some "off", ⟨none, none⟩),
    (some "error", ⟨none, some .error⟩), (some "warn", ⟨none, some .warn⟩),
    (some "WARN", ⟨none, some .warn⟩), (some "info", ⟨none, some .info⟩),
    (some "tubs=debug", ⟨some "tubs", some .debug⟩),
    (some "tubs=info", ⟨some "tubs", some .info⟩),
    (some "tubs::parser=debug", ⟨some "tubs::parser", some .debug⟩),
    (some "tubs::renderer=debug", ⟨some "tubs::renderer", some .debug⟩),
    (some "other=trace", ⟨some "other", some .trace⟩), (some "TUBS", ⟨some "TUBS", some .trace⟩)]

theorem asks_of_mem_usual {x : Option String × Directive} (h : x ∈ usual) : Asks x.1 x.2 := by
  have hlevel : ∀ w limit, w.toList.map Char.toUpper = (Level.name limit).toList →
      Asks (some w) ⟨none, some limit⟩ := fun _ _ hw => .level (toUpper_eq_iff.2 hw)
  have htarget : ∀ target w limit, IsWord target.toList →
      w.toList.map Char.toUpper = (Level.name limit).toList →
      Asks (some (target ++ "=" ++ w)) ⟨some target, some limit⟩ :=
    fun _ _ _ ht hw => .targetLevel ht (toUpper_eq_iff.2 hw)
  have hname : ∀ limit : Level, "TUBS".toUpper ≠ limit.name := by
    intro limit
    rw [Ne, toUpper_eq_iff]
    cases limit <;> decide
  simp only [usual, List.mem_cons, List.not_mem_nil, or_false] at h
  rcases h with rfl | rfl | rfl | rfl | rfl | rfl | rfl | rfl | rfl | rfl | rfl | rfl | rfl
  · exact .unset
  · exact .empty
  · exact .off (toUpper_eq_iff.2 (by decide))
  · exact hlevel "error" .error (by decide)
  · exact hlevel "warn" .warn (by decide)
  · exact hlevel "WARN" .warn (by decide)
  · exact hlevel "info" .info (by decide)
  · exact htarget "tubs" "debug" .debug (by decide) (by decide)
  · exact htarget "tubs" "info" .info (by decide) (by decide)
  · exact htarget "tubs::parser" "debug" .debug (by decide) (by decide)
  · exact htarget "tubs::renderer" "debug" .debug (by decide) (by decide)
  · exact htarget "other" "trace" .trace (by decide) (by decide)
  · exact .target (by decide) (by rw [Ne, toUpper_eq_iff]; decide) hname

theorem shows_single (d : Directive) (r : Record) :
    LogFilter.shows ⟨[d], none⟩ r = decide (d.Keeps r) := by
  have hkeeps : decide (d.Keeps r) = (d.covers r && d.shows r) := by
    rw [Bool.eq_iff_iff, decide_eq_true_iff, Directive.keeps_iff]
  rw [hkeeps]
  cases hcovers : d.covers r <;> simp [LogFilter.shows, LogFilter.decisive?, hcovers]

/-- No record tells of an error, so that a filter for errors shows nothing. -/
theorem not_keeps_error (target : Option String) (r : Record) :
    ¬(⟨target, some .error⟩ : Directive).Keeps r := by
  rintro ⟨-, limit, hlimit, hrank⟩
  cases hlimit
  cases r <;> simp [Record.level, Level.rank] at hrank

theorem not_keeps_none (target : Option String) (r : Record) :
    ¬(⟨target, none⟩ : Directive).Keeps r := by
  rintro ⟨-, limit, hlimit, -⟩
  cases hlimit

def listed (ps : List (String × Directive)) : String :=
  ",".intercalate (ps.map Prod.fst)

/-- The settings that list levels, targets and targets with a level, with a pattern or without. A
pattern that is refused counts for nothing. -/
inductive AsksFor : Option String → List Directive → Option Pattern → List SettingFault → Prop
  | directives {ps : List (String × Directive)} (h : ∀ x ∈ ps, x.1 ≠ "" ∧ Asks (some x.1) x.2) :
      AsksFor (some (listed ps)) (ps.map Prod.snd) none []
  | pattern {ps : List (String × Directive)} (h : ∀ x ∈ ps, x.1 ≠ "" ∧ Asks (some x.1) x.2)
      {written : String} {p : Pattern} (hslash : '/' ∉ written.toList)
      (hp : Pattern.ofChars written.toList = .ok p) :
      AsksFor (some (listed ps ++ "/" ++ written)) (ps.map Prod.snd) (some p) []
  | refused {ps : List (String × Directive)} (h : ∀ x ∈ ps, x.1 ≠ "" ∧ Asks (some x.1) x.2)
      {written : String} {refusal : Pattern.Refusal} (hslash : '/' ∉ written.toList)
      (hp : Pattern.ofChars written.toList = .error refusal) :
      AsksFor (some (listed ps ++ "/" ++ written)) (ps.map Prod.snd) none
        [.pattern written.toList refusal]

theorem toList_listed (ps : List (String × Directive)) :
    (listed ps).toList = [','].intercalate (ps.map fun x => x.1.toList) := by
  rw [listed, String.toList_intercalate, List.map_map]
  rfl

section

variable {ps : List (String × Directive)} (h : ∀ x ∈ ps, x.1 ≠ "" ∧ Asks (some x.1) x.2)
include h

theorem isPiece_of_mem {x : String × Directive} (hx : x ∈ ps) : IsPiece x.1.toList x.2 :=
  (isPiece_of_asks (h x hx).2).resolve_left fun hempty => (h x hx).1 hempty.1

theorem directives_listed : directives (listed ps).toList = (ps.map Prod.snd).map .ok := by
  by_cases hps : ps = []
  · subst hps
    rfl
  · have hcomma : ∀ w ∈ ps.map fun x => x.1.toList, ',' ∉ w :=
      List.forall_mem_map.2 fun x hx => (isPiece_of_mem h hx).comma
    have htrim : (ps.map fun x => x.1.toList).map Text.trim = ps.map fun x => x.1.toList := by
      rw [List.map_map]
      exact List.map_congr_left fun x hx => trim_of_not_blank (isPiece_of_mem h hx).not_blank
    have hfilled : (ps.map fun x => x.1.toList).filter (!·.isEmpty) = ps.map fun x => x.1.toList :=
      List.filter_eq_self.2 (List.forall_mem_map.2 fun x hx => by
        simpa using (isPiece_of_mem h hx).nonempty)
    rw [directives, toList_listed, List.splitOn_intercalate ',' hcomma (by simpa using hps), htrim,
      hfilled,
      List.map_map, List.map_map]
    exact List.map_congr_left fun x hx => (isPiece_of_mem h hx).read

theorem slash_not_mem_listed : '/' ∉ (listed ps).toList := by
  rw [toList_listed]
  intro hslash
  obtain hslash | ⟨w, hw, hslash⟩ := Text.mem_of_mem_intercalate hslash
  · exact absurd hslash (by decide)
  · obtain ⟨x, hx, rfl⟩ := List.mem_map.1 hw
    exact (isPiece_of_mem h hx).slash hslash

theorem splitOn_listed {written : String} (hslash : '/' ∉ written.toList) :
    (listed ps ++ "/" ++ written).toList.splitOn '/' = [(listed ps).toList, written.toList] := by
  rw [String.toList_append, String.toList_append, List.append_assoc]
  change ((listed ps).toList ++ '/' :: written.toList).splitOn '/' = _
  rw [List.splitOn_append_cons_self_of_not_mem (slash_not_mem_listed h),
    List.splitOn_eq_singleton hslash]

end

theorem ofDirectives_ok (ds : List Directive) (pattern : Option Pattern)
    (faults : List SettingFault) :
    ofDirectives (ds.map .ok) pattern faults = ⟨.ofDirectives ds pattern, faults⟩ := by
  simp [ofDirectives, List.filterMap_map, Function.comp_def, Except.toOption]

theorem ofSetting_of_asksFor {s : Option String} {ds : List Directive} {pattern : Option Pattern}
    {faults : List SettingFault} (h : AsksFor s ds pattern faults) :
    ofSetting s = ⟨.ofDirectives ds pattern, faults⟩ := by
  cases h with
  | @directives ps h =>
    rw [ofSetting, ofText, List.splitOn_eq_singleton (slash_not_mem_listed h)]
    dsimp only
    rw [directives_listed h, ofDirectives_ok]
  | pattern h hslash hp =>
    rw [ofSetting, ofText, splitOn_listed h hslash]
    dsimp only
    rw [hp, directives_listed h]
    exact ofDirectives_ok _ _ _
  | refused h hslash hp =>
    rw [ofSetting, ofText, splitOn_listed h hslash]
    dsimp only
    rw [hp, directives_listed h]
    exact ofDirectives_ok _ _ _

theorem target_ne_empty_of_asksFor {s : Option String} {ds : List Directive}
    {pattern : Option Pattern} {faults : List SettingFault} (h : AsksFor s ds pattern faults) :
    ∀ d ∈ ds, d.target ≠ some "" := by
  cases h with
  | directives h | pattern h | refused h =>
    exact List.forall_mem_map.2 fun x hx => target_ne_empty_of_asks (h x hx).2

/-- What a setting that lists directives lets through, and what it is warned of. -/
theorem shows_of_asksFor {s : Option String} {ds : List Directive} {pattern : Option Pattern}
    {faults : List SettingFault} (h : AsksFor s ds pattern faults) :
    (ofSetting s).faults = faults ∧
      ∀ r, (ofSetting s).filter.shows r = true ↔ LogFilter.Passes ds pattern r := by
  rw [ofSetting_of_asksFor h]
  exact ⟨rfl, fun r => LogFilter.shows_ofDirectives_iff (target_ne_empty_of_asksFor h)⟩

/-- After a slash a text without meta characters lets those records through that contain it. -/
theorem shows_of_plain {ps : List (String × Directive)}
    (h : ∀ x ∈ ps, x.1 ≠ "" ∧ Asks (some x.1) x.2) {written : String} (hne : written ≠ "")
    (hslash : '/' ∉ written.toList) (hplain : ∀ c ∈ written.toList, c ∉ Pattern.metaCharacters)
    (hlength : (Pattern.bytes written.toList).length ≤ Pattern.Words.longestWord) (r : Record) :
    (ofSetting (some (listed ps ++ "/" ++ written))).filter.shows r = true ↔
      LogFilter.Passes (ps.map Prod.snd) none r ∧ written.toList <:+: r.message.toList := by
  have hp : Pattern.ofChars written.toList = .ok (.literal written.toList) :=
    Pattern.ofChars_plain (by simpa using hne) hplain hlength
  rw [(shows_of_asksFor (.pattern h hslash hp)).2 r, ← Pattern.occursIn_literal_iff,
    Pattern.occursIn_iff]
  constructor
  · rintro ⟨hlevel, hfound⟩
    exact ⟨⟨hlevel, fun _ hq => by cases hq⟩, hfound _ rfl⟩
  · rintro ⟨⟨hlevel, -⟩, hfound⟩
    exact ⟨hlevel, fun q hq => Option.some.inj hq ▸ hfound⟩

theorem single_of_asks {s : Option String} {d : Directive} (h : Asks s d) :
    ∃ d', ofSetting s = ⟨⟨[d'], none⟩, []⟩ ∧ ∀ r, d'.Keeps r ↔ d.Keeps r := by
  cases s with
  | none =>
    cases h
    exact ⟨_, rfl, fun r => Iff.rfl⟩
  | some w =>
    by_cases hne : w = ""
    · subst hne
      obtain ⟨-, rfl⟩ | hpiece := isPiece_of_asks h
      · exact ⟨⟨none, some .error⟩, rfl, fun r =>
          iff_of_false (not_keeps_error none r) (not_keeps_none none r)⟩
      · exact absurd rfl hpiece.nonempty
    · have hps : ∀ x ∈ [(w, d)], x.1 ≠ "" ∧ Asks (some x.1) x.2 :=
        List.forall_mem_singleton.2 ⟨hne, h⟩
      exact ⟨d, ofSetting_of_asksFor (.directives hps), fun r => Iff.rfl⟩

/-- A setting shows what it asks for, and there is nothing wrong with it. -/
theorem shows_of_asks {s : Option String} {d : Directive} (h : Asks s d) :
    (ofSetting s).faults = [] ∧ ∀ r, (ofSetting s).filter.shows r = true ↔ d.Keeps r := by
  obtain ⟨d', hsetting, hkeeps⟩ := single_of_asks h
  rw [hsetting]
  refine ⟨rfl, fun r => ?_⟩
  rw [shows_single, decide_eq_true_iff]
  exact hkeeps r

end LogSetting

end Bata
