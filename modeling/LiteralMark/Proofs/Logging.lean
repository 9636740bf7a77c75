import LiteralMark.Proofs.Invocation
/-!
# An invocation of the program — logging does not interfere

The journal of a run is written while the run goes, between the steps that
make, fill and promote a scratch buffer and the reports of lines; its filter
and its format decide which events are written and how, and its clock when.
Two runs with two journals go side by side (`Session.run_parallel`). So two
invocations that differ in their logging are one run told in two ways
(`logging_does_not_interfere`): the same events, of which each tells its
part, and the same complaint if the run failed.
-/

namespace LiteralMark

namespace Invocation

variable {settings settings' : Settings} {filter : Log.Filter}

/-- Two invocations differ at most in what they write to the standard error
output. -/
structure SameEffect (i j : Invocation) : Prop where
  code_eq : j.code = i.code
  stdout_eq : j.stdout = i.stdout
  volume_eq : j.volume = i.volume

theorem Logs.sameEffect {i j : Invocation} {r : Run} {filter' : Log.Filter}
    {clock clock' : Log.Clock} (hi : i.Logs r filter settings clock)
    (hj : j.Logs r filter' settings' clock') : i.SameEffect j :=
  ⟨hj.code_eq.trans hi.code_eq.symm, hj.stdout_eq.trans hi.stdout_eq.symm,
    hj.volume_eq.trans hi.volume_eq.symm⟩

/-- **Logging does not interfere.** Two invocations that agree on the path,
the strategy and whether they are dry runs, and whose filters can both be
read, have the same exit code, write the same to the standard output and
leave the same volume, whatever their filters, formats and clocks, and
whatever goes wrong with the device. Both tell one run: the standard error
output of each has the lines of those events of the run that its filter
shows, in its format and with its times, and then the complaint of the
run. -/
theorem logging_does_not_interfere (read : TreeReader) (v : Volume) (device : Device)
    (clock clock' : Log.Clock) (settings settings' : Settings) (filter filter' : Log.Filter)
    (hpath : settings'.path = settings.path) (hstrategy : settings'.strategy = settings.strategy)
    (hdry : settings'.dryRun = settings.dryRun)
    (hfilter : Log.Filter.parse settings.logFilter = .ok filter)
    (hfilter' : Log.Filter.parse settings'.logFilter = .ok filter') :
    (ofSettings read clock v settings device).SameEffect
      (ofSettings read clock' v settings' device) ∧
    (ofSettings read clock v settings device).Logs (runWith read v settings device) filter settings
      clock ∧
    (ofSettings read clock' v settings' device).Logs (runWith read v settings device) filter'
      settings' clock' ∧
    ∀ arguments arguments', Command.parse arguments = .ok settings →
      Command.parse arguments' = .ok settings' →
      (run read clock v arguments device).SameEffect (run read clock' v arguments' device) := by
  have hlogs := ofSettings_logs hfilter read clock v device
  have hlogs' := ofSettings_logs hfilter' read clock' v device
  have hsame : runWith read v settings' device = runWith read v settings device := by
    rw [runWith, runWith, hpath, hstrategy, hdry]
  rw [hsame] at hlogs'
  refine ⟨hlogs.sameEffect hlogs', hlogs, hlogs', fun arguments arguments' hparse hparse' => ?_⟩
  simp only [run, hparse, hparse']
  exact hlogs.sameEffect hlogs'

/-- Of one run over a file, the default filter shows nothing, and another one
shows the events that have a path. -/
theorem logging_does_not_interfere_smallVolume :
    let quiet : Settings := { path := Utf8.ofString "d/f" }
    let loud : Settings := { quiet with
      logFilter := "off,[\x7bpath\x7d]=debug", logFormat := .json }
    let i := ofSettings (fun _ => default) "" smallVolume quiet
    let j := ofSettings (fun _ => default) "" smallVolume loud
    i.SameEffect j ∧ i.code = 0 ∧ i.stdout ≠ [] ∧ i.stderr = [] ∧ j.stderr ≠ [] := by
  intro quiet loud i j
  have hquiet : Log.Filter.parse quiet.logFilter = .ok ⟨[{ threshold := 2 }]⟩ := by decide +kernel
  have hloud : Log.Filter.parse loud.logFilter = .ok
      ⟨[{ fields := ["path".toList], threshold := 4 }, { threshold := 0 }]⟩ := by decide +kernel
  refine ⟨(logging_does_not_interfere (fun _ => default) smallVolume {} "" "" quiet loud _ _ rfl
    rfl rfl hquiet hloud).1, ?_⟩
  decide +kernel

end Invocation

end LiteralMark
