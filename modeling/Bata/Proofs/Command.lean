import Bata.Command
import Bata.Proofs.FileSystem.Conversion
import Bata.Proofs.Log.Setting
import Mathlib.Tactic.Common

namespace Bata.Command

open FileSystem

/-- The ways in which a run ends that shows the records `kept`: what comes of it, and the file
system after it. -/
inductive Ends (fs : FileSystem) (kept : Record → Prop) [DecidablePred kept] :
    List String → Outcome → FileSystem → Prop
  | misused {arguments : List String} (hlength : arguments.length ≠ 2) :
      Ends fs kept arguments ⟨2, usage, []⟩ fs
  | unreadable {p q : String} {fault : Fault}
      (hrun : (access.convert p q).run fs = (⟨.error (.read p fault), []⟩, fs)) :
      Ends fs kept [p, q] ⟨1, "", [(Failure.read p fault).shown]⟩ fs
  | unwritable {p q text : String} {fault : Fault}
      (hrun : (access.convert p q).run fs = (⟨.error (.write q fault), drawingLog text⟩, fs)) :
      Ends fs kept [p, q] ⟨1, "", ((drawingLog text).filter kept).map Record.shown ++
        [(Failure.write q fault).shown]⟩ fs
  | written {p q text : String} {after : FileSystem}
      (hrun : (access.convert p q).run fs = (⟨.ok (), drawingLog text ++ [Record.written q]⟩, after)) :
      Ends fs kept [p, q]
        ⟨0, "", ((drawingLog text ++ [Record.written q]).filter kept).map Record.shown⟩ after

variable {fs : FileSystem}

theorem run_of_misuse (setting : Option String) {arguments : List String}
    (h : arguments.length ≠ 2) :
    (run access setting arguments).run fs =
      (⟨2, usage, (LogSetting.ofSetting setting).faults.map SettingFault.shown⟩, fs) := by
  match arguments, h with
  | [], _ => rfl
  | [_], _ => rfl
  | [_, _], h => exact absurd rfl h
  | _ :: _ :: _ :: _, _ => rfl

theorem run_of_convert (setting : Option String) {p q : String} {r : Logged Unit}
    {after : FileSystem} (h : (access.convert p q).run fs = (r, after)) :
    (run access setting [p, q]).run fs =
      (outcome (LogSetting.ofSetting setting) r, after) := by
  rw [run, StateT.run_bind, h]
  rfl

def Outcome.behind (o : Outcome) (faults : List SettingFault) : Outcome :=
  { o with errors := faults.map SettingFault.shown ++ o.errors }

theorem behind_injective (faults : List SettingFault) :
    Function.Injective (Outcome.behind · faults) := by
  intro o o' h
  obtain ⟨hexit, houtput, herrors⟩ := Outcome.mk.inj h
  cases o
  cases o'
  simp_all

theorem Ends.run_eq {s : Option String} {kept : Record → Prop} [DecidablePred kept]
    (hkept : ∀ r, (LogSetting.ofSetting s).filter.shows r = true ↔ kept r)
    {arguments : List String} {o : Outcome} {after : FileSystem}
    (h : Ends fs kept arguments o after) :
    (run access s arguments).run fs = (o.behind (LogSetting.ofSetting s).faults, after) := by
  have hfilter : ∀ log : List Record,
      log.filter (LogSetting.ofSetting s).filter.shows = log.filter kept := fun log =>
    List.filter_congr fun r _ => by rw [Bool.eq_iff_iff, hkept, decide_eq_true_iff]
  cases h with
  | misused hlength =>
    rw [run_of_misuse s hlength, Outcome.behind, List.append_nil]
  | unreadable hrun =>
    rw [run_of_convert s hrun, outcome, hfilter]
    simp [Outcome.behind]
  | unwritable hrun =>
    rw [run_of_convert s hrun, outcome, hfilter]
    simp [Outcome.behind]
  | written hrun =>
    rw [run_of_convert s hrun, outcome, hfilter]
    simp [Outcome.behind]

theorem exists_ends (fs : FileSystem) (kept : Record → Prop) [DecidablePred kept]
    (arguments : List String) : ∃ o after, Ends fs kept arguments o after := by
  by_cases hlength : arguments.length = 2
  · obtain ⟨p, q, rfl⟩ := List.length_eq_two.1 hlength
    obtain ⟨r, after, hending⟩ := exists_ending fs p q
    have hrun := hending.convert_run
    cases hending with
    | unreadable => exact ⟨_, _, .unreadable hrun⟩
    | notText => exact ⟨_, _, .unreadable hrun⟩
    | unwritable => exact ⟨_, _, .unwritable hrun⟩
    | written => exact ⟨_, _, .written hrun⟩
  · exact ⟨_, _, .misused hlength⟩

theorem run_eq_iff_ends {s : Option String} {kept : Record → Prop} [DecidablePred kept]
    (hkept : ∀ r, (LogSetting.ofSetting s).filter.shows r = true ↔ kept r)
    {arguments : List String} {o : Outcome} {after : FileSystem} :
    (run access s arguments).run fs = (o.behind (LogSetting.ofSetting s).faults, after) ↔
      Ends fs kept arguments o after := by
  refine ⟨fun h => ?_, Ends.run_eq hkept⟩
  obtain ⟨o', after', hends⟩ := exists_ends fs kept arguments
  obtain ⟨houtcome, rfl⟩ := Prod.mk.inj ((hends.run_eq hkept).symm.trans h)
  exact behind_injective _ houtcome ▸ hends

/-- The output of a run whose setting lists directives: what is wrong with the setting, the records
that the directives and the pattern let through, and the failure of the run if there is one. -/
theorem run_of_asksFor {s : Option String} {ds : List Directive} {pattern : Option Pattern}
    {faults : List SettingFault} (h : LogSetting.AsksFor s ds pattern faults)
    {arguments : List String} {o : Outcome} {after : FileSystem} :
    (run access s arguments).run fs = (o.behind faults, after) ↔
      Ends fs (LogFilter.Passes ds pattern) arguments o after := by
  obtain ⟨hfaults, hkept⟩ := LogSetting.shows_of_asksFor h
  rw [← hfaults]
  exact run_eq_iff_ends hkept

theorem run_of_asks {s : Option String} {d : Directive} (h : LogSetting.Asks s d)
    {arguments : List String} {o : Outcome} {after : FileSystem} :
    (run access s arguments).run fs = (o, after) ↔ Ends fs d.Keeps arguments o after := by
  obtain ⟨hfaults, hkept⟩ := LogSetting.shows_of_asks h
  have hrun : (run access s arguments).run fs =
      (o.behind (LogSetting.ofSetting s).faults, after) ↔ Ends fs d.Keeps arguments o after :=
    run_eq_iff_ends hkept
  rw [hfaults] at hrun
  exact hrun

theorem outcome_congr_setting (s s' : LogSetting) (r : Logged Unit) :
    (outcome s r).exit = (outcome s' r).exit ∧ (outcome s r).output = (outcome s' r).output := by
  rw [outcome, outcome]
  cases r.result <;> exact ⟨rfl, rfl⟩

theorem outcome_exit_ne_two (s : LogSetting) (r : Logged Unit) : (outcome s r).exit ≠ 2 := by
  rw [outcome]
  cases r.result <;> simp

theorem run_congr_setting (fs : FileSystem) (s s' : Option String) (arguments : List String) :
    ((run access s arguments).run fs).1.exit = ((run access s' arguments).run fs).1.exit ∧
      ((run access s arguments).run fs).1.output = ((run access s' arguments).run fs).1.output ∧
      ((run access s arguments).run fs).2 = ((run access s' arguments).run fs).2 := by
  by_cases hlength : arguments.length = 2
  · obtain ⟨p, q, rfl⟩ := List.length_eq_two.1 hlength
    obtain ⟨r, after, hending⟩ := exists_ending fs p q
    rw [run_of_convert s hending.convert_run, run_of_convert s' hending.convert_run]
    obtain ⟨hexit, houtput⟩ := outcome_congr_setting (.ofSetting s) (.ofSetting s') r
    exact ⟨hexit, houtput, rfl⟩
  · rw [run_of_misuse s hlength, run_of_misuse s' hlength]
    exact ⟨rfl, rfl, rfl⟩

theorem exit_eq_two_iff (fs : FileSystem) (s : Option String) (arguments : List String) :
    ((run access s arguments).run fs).1.exit = 2 ↔ arguments.length ≠ 2 := by
  by_cases hlength : arguments.length = 2
  · obtain ⟨p, q, rfl⟩ := List.length_eq_two.1 hlength
    obtain ⟨r, after, hending⟩ := exists_ending fs p q
    rw [run_of_convert s hending.convert_run]
    exact iff_of_false (outcome_exit_ne_two _ r) (fun h => h rfl)
  · rw [run_of_misuse s hlength]
    exact iff_of_true rfl hlength

/-- A setting of the log changes nothing of a run but what is written to the error output, and there
it only decides which of the records are shown. -/
theorem log_only_shows (fs : FileSystem) (arguments : List String) :
    (∀ s s' : Option String,
      ((run access s arguments).run fs).1.exit = ((run access s' arguments).run fs).1.exit ∧
      ((run access s arguments).run fs).1.output = ((run access s' arguments).run fs).1.output ∧
      ((run access s arguments).run fs).2 = ((run access s' arguments).run fs).2) ∧
    (∀ s, ((run access s arguments).run fs).1.exit = 2 ↔ arguments.length ≠ 2) ∧
    (∀ s d, LogSetting.Asks s d → ∀ o after,
      (run access s arguments).run fs = (o, after) ↔ Ends fs d.Keeps arguments o after) ∧
    (∀ x ∈ LogSetting.usual, LogSetting.Asks x.1 x.2) ∧
    (∀ header, (Record.reading header).level = .debug ∧
      (Record.reading header).target = "tubs::parser") ∧
    (∀ w, (Record.warning w).level = .warn ∧ (Record.warning w).target = "tubs") ∧
    (∀ name columns barLength, (Record.drawing name columns barLength).level = .debug ∧
      (Record.drawing name columns barLength).target = "tubs::renderer") ∧
    (∀ path, (Record.written path).level = .info ∧ (Record.written path).target = "tubs") ∧
    ∀ failure : Failure, failure.shown = "Error: " ++ failure.message ++ "\n" := by
  exact ⟨fun s s' => run_congr_setting fs s s' arguments, fun s => exit_eq_two_iff fs s arguments,
    fun _ _ hasks _ _ => run_of_asks hasks, fun _ => LogSetting.asks_of_mem_usual,
    fun _ => ⟨rfl, rfl⟩, fun _ => ⟨rfl, rfl⟩, fun _ _ _ => ⟨rfl, rfl⟩, fun _ => ⟨rfl, rfl⟩,
    fun _ => rfl⟩

end Bata.Command
