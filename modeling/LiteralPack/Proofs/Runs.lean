import LiteralPack.Proofs.DiskPrograms
import LiteralPack.Proofs.Foretelling

/-!
Runs on a disk. A run is generation from the files as they are at its beginning, and one write of
what was rendered; an inspection is planning from the same files and writes nothing, so it foretells
what a run would generate.
-/

namespace LiteralPack

namespace Disk

theorem perform_run (d : Disk) (options : Options) :
    d.perform options.run =
      match d.manifest options.manifest with
      | .error e => (.error e, d)
      | .ok m =>
        match m.settled options.overrides with
        | .error e => (.error e, d)
        | .ok settings =>
          let g := m.generate settings options.verify (d.loader options.manifest.directory)
          match d.perform (g.container.store settings.target options.output) with
          | (.ok output, after) => (.ok ⟨output, settings.target, g.summaries, g.failures⟩, after)
          | (.error e, after) => (.error e, after) := by
  rw [Options.run, perform_bind, perform_load]
  cases d.manifest options.manifest with
  | error e => rfl
  | ok m =>
      dsimp only
      rw [perform_bind, perform_liftExcept]
      cases m.settled options.overrides with
      | error e => rfl
      | ok settings =>
          dsimp only
          rw [perform_bind, perform_lift, run_loadAll]
          dsimp only
          rw [perform_bind, Manifest.generate]
          generalize Generation.ofLoaded settings options.verify _ = g
          obtain ⟨result, after⟩ := d.perform (g.container.store settings.target options.output)
          cases result <;> rfl

theorem perform_run_eq_ok_iff {d after : Disk} {options : Options} {report : Report} :
    d.perform options.run = (.ok report, after) ↔
      ∃ m settings, d.manifest options.manifest = .ok m ∧
        m.settled options.overrides = .ok settings ∧
        let g := m.generate settings options.verify (d.loader options.manifest.directory)
        ∃ output, d.perform (g.container.store settings.target options.output) =
            (.ok output, after) ∧
          report = ⟨output, settings.target, g.summaries, g.failures⟩ := by
  rw [perform_run]
  cases d.manifest options.manifest with
  | error e => simp
  | ok m =>
      cases hsettings : m.settled options.overrides with
      | error e => simp [hsettings]
      | ok settings =>
          simp only [hsettings, Except.ok.injEq, exists_eq_left', exists_and_left]
          generalize m.generate settings options.verify _ = g
          obtain ⟨result, stored⟩ := d.perform (g.container.store settings.target options.output)
          cases result with
          | error e => simp
          | ok output => simp [and_comm, eq_comm]

theorem perform_run_eq_error_iff {d : Disk} {options : Options} {e : RunError} :
    (d.perform options.run).1 = .error e ↔
      d.manifest options.manifest = .error e ∨
      (∃ m, d.manifest options.manifest = .ok m ∧ m.settled options.overrides = .error e) ∨
      ∃ m settings, d.manifest options.manifest = .ok m ∧
        m.settled options.overrides = .ok settings ∧
        let g := m.generate settings options.verify (d.loader options.manifest.directory)
        (d.perform (g.container.store settings.target options.output)).1 = .error e := by
  rw [perform_run]
  cases d.manifest options.manifest with
  | error e => simp
  | ok m =>
      cases hsettings : m.settled options.overrides with
      | error e => simp [hsettings]
      | ok settings =>
          simp only [hsettings, Except.ok.injEq, exists_eq_left', exists_and_left, reduceCtorEq,
            false_or]
          generalize m.generate settings options.verify _ = g
          obtain ⟨result, stored⟩ := d.perform (g.container.store settings.target options.output)
          cases result <;> simp

theorem perform_inspect (d : Disk) (path : Path) :
    d.perform (inspect path) =
      (do
        let m ← d.manifest path
        let settings ← m.settled {}
        return (settings, m.plan settings (d.loader path.directory)), d) := by
  rw [inspect, perform_bind, perform_load]
  cases d.manifest path with
  | error e => rfl
  | ok m =>
      dsimp only
      rw [perform_bind, perform_liftExcept, ok_bind]
      cases m.settled {} with
      | error e => rfl
      | ok settings =>
          dsimp only
          rw [perform_bind, perform_lift, run_loadAll]
          rfl

end Disk

/-- An inspection foretells what is generated from the same files. It has a plan or a failure for
every entry, in order; plan by plan it tells the types and their summaries, each plan adds up, and
the failures are the same, none of them a fault of the library's own. -/
theorem inspect_foretells (d : Disk) (path : Path) {m : Manifest} {settings : Settings}
    (hload : (d.perform (Manifest.load path)).1 = .ok m) (hsettings : m.settled {} = .ok settings)
    (verify : Bool) :
    let load := d.loader path.directory
    let g := m.generate settings verify load
    ∃ plans, d.perform (inspect path) = (.ok (settings, plans), d) ∧
      m.Fates settings load (fun c p => p = c.plan settings.limits settings.partPrefix) plans ∧
      List.Forall₂ Plan.Foretells (values plans) g.container.types ∧
      List.Forall₂ Plan.ForetellsSummary (values plans) g.summaries ∧
      (∀ p ∈ values plans, p.Adds) ∧
      g.failures = (faults plans).filter Failure.isShape ++
        (faults plans).filter (!·.isShape) ∧
      ∀ f ∈ faults plans, ∀ violation, f.cause ≠ .generate (.invariant violation) := by
  have hmanifest : d.manifest path = .ok m := by rwa [d.perform_load] at hload
  refine ⟨m.plan settings (d.loader path.directory), ?inspected, m.fates_plan settings _,
    m.forall₂_plan_types settings verify _, m.forall₂_plan_summaries settings verify _,
    fun _ => Manifest.adds_of_mem_plan, m.failures_generate settings verify _,
    fun _ => Manifest.ne_invariant_of_mem_faults_plan⟩
  case inspected =>
    rw [d.perform_inspect, hmanifest, ok_bind, hsettings]
    rfl

def noteSource : String :=
  "\x7b\"version\":1,\"limits\":\x7b\"maxLength\":4\x7d,\"declarations\":[" ++
    "\x7b\"interface\":\"demo.Note\",\"member\":\"String text()\"," ++
    "\"path\":\"Embedded.java\"\x7d,\x7b\"interface\":\"Lost\"," ++
    "\"member\":\"\",\"path\":\"\"\x7d]\x7d"

def notes : Manifest where
  version := 1
  caps := { maxLength := 4 }
  entries := [⟨"demo.Note", "String text()", ⟨"Embedded.java"⟩⟩, ⟨"Lost", "", ⟨""⟩⟩]

def noteSettings : Settings where
  target := .java
  package := ""
  container := "Embedded"
  partPrefix := "__"
  limits := { Limits.classFile with maxLength := 4, maxLength_pos := by decide }

/-- The declared file lies where the container is to be written. -/
def noteDisk : Disk :=
  (({} : Disk).put ["manifest.json".toList] (.file noteSource.toUTF8)).put
    ["Embedded.java".toList] (.file "hello".toUTF8)

def noteOptions : Options := { manifest := ⟨"manifest.json"⟩, output := ⟨"."⟩ }

def noteFiles : Loader := noteDisk.loader noteOptions.manifest.directory

theorem perform_load_notes :
    (noteDisk.perform (Manifest.load noteOptions.manifest)).1 = .ok notes := by
  decide +kernel

theorem settled_notes : notes.settled {} = .ok noteSettings := by decide +kernel

theorem inspect_foretells_notes :
    (noteDisk.perform (Manifest.load noteOptions.manifest)).1 = .ok notes ∧
      notes.settled {} = .ok noteSettings ∧
      (values (notes.plan noteSettings noteFiles)).map (·.partNames) = [["__text0", "__text1"]] ∧
      ∃ plans, noteDisk.perform (inspect noteOptions.manifest) =
          (.ok (noteSettings, plans), noteDisk) ∧
        List.Forall₂ Plan.Foretells (values plans)
          (notes.generate noteSettings true noteFiles).container.types ∧
        (notes.generate noteSettings true noteFiles).failures =
          (faults plans).filter Failure.isShape ++ (faults plans).filter (!·.isShape) := by
  obtain ⟨plans, hinspected, -, htypes, -, -, hfailures, -⟩ :=
    inspect_foretells noteDisk noteOptions.manifest perform_load_notes settled_notes true
  exact ⟨perform_load_notes, settled_notes, by decide +kernel, plans, hinspected, htypes, hfailures⟩

section Outcomes

variable {result : Except RunError Report} {report : Report} {e : RunError}

theorem map_completed_eq_ok_iff :
    result.map Outcome.completed = .ok (.completed report) ↔ result = .ok report := by
  cases result <;> simp [Except.map]

theorem map_completed_ne_skipped : result.map Outcome.completed ≠ .ok .skipped := by
  cases result <;> simp [Except.map]

theorem map_completed_eq_error_iff :
    result.map Outcome.completed = .error e ↔ result = .error e := by
  cases result <;> simp [Except.map]

end Outcomes

/-- A used guard does nothing on any store. -/
theorem Guard.run_of_used {m : Type → Type} [Monad m] [FileStore m] {g : Guard}
    (hused : g.hasRun = true) (options : Options) :
    (g.run options : m _) = pure (.ok .skipped, g) := by
  rw [Guard.run, if_pos hused]

theorem Guard.run_skips {g : Guard} (hused : g.hasRun = true) (options : Options) (d : Disk) :
    (g.run options : StateM Disk _).run d = ((.ok .skipped, g), d) := by
  rw [run_of_used hused]
  rfl

theorem Guard.run_of_fresh {g : Guard} (hfresh : g.hasRun = false) (options : Options) (d : Disk) :
    (g.run options : StateM Disk _).run d =
      (((d.perform options.run).1.map .completed, ⟨true⟩), (d.perform options.run).2) := by
  rw [Guard.run, hfresh]
  rfl

/-- A run that begins is generation from the files as they are before it, and one write of what was
rendered; it fails exactly if loading, settling or storing fails, the first of them first. -/
theorem Guard.run_generates {guard : Guard} (hfresh : guard.hasRun = false) (options : Options)
    (d : Disk) :
    let load := d.loader options.manifest.directory
    let loaded := (d.perform (Manifest.load options.manifest)).1
    let ran := (guard.run options : StateM Disk _).run d
    (∀ report, ran.1.1 = .ok (.completed report) →
      ∃ m settings, loaded = .ok m ∧ m.settled options.overrides = .ok settings ∧
        let g := m.generate settings options.verify load
        report.output = g.container.path settings.target options.output ∧
        ran.2.read report.output = .ok (Text.toBytes (g.container.render settings.target)) ∧
        report.generated = g.summaries ∧
        report.failures = g.failures ∧
        report.target = settings.target) ∧
    ran.1.1 ≠ .ok .skipped ∧
    ∀ e, ran.1.1 = .error e ↔
      loaded = .error e ∨
      (∃ m, loaded = .ok m ∧ m.settled options.overrides = .error e) ∨
      ∃ m settings, loaded = .ok m ∧ m.settled options.overrides = .ok settings ∧
        let g := m.generate settings options.verify load
        (d.perform (g.container.store settings.target options.output)).1 = .error e := by
  intro load loaded ran
  have hloaded : loaded = d.manifest options.manifest := congrArg Prod.fst (d.perform_load _)
  have hran : ran =
      (((d.perform options.run).1.map .completed, ⟨true⟩), (d.perform options.run).2) :=
    Guard.run_of_fresh hfresh options d
  rw [hloaded, hran]
  refine ⟨fun report hreport => ?completed, ?skipped, fun e => ?failed⟩
  case completed =>
    have hperform : d.perform options.run = (.ok report, (d.perform options.run).2) :=
      Prod.ext (map_completed_eq_ok_iff.1 hreport) rfl
    obtain ⟨m, settings, hmanifest, hsettings, output, hstore, rfl⟩ :=
      Disk.perform_run_eq_ok_iff.1 hperform
    obtain ⟨houtput, hread⟩ := Disk.read_of_perform_store hstore
    exact ⟨m, settings, hmanifest, hsettings, houtput, hread, rfl, rfl, rfl⟩
  case skipped => exact map_completed_ne_skipped
  case failed => exact map_completed_eq_error_iff.trans Disk.perform_run_eq_error_iff

theorem manifest_notes : noteDisk.manifest noteOptions.manifest = .ok notes := by
  rw [← perform_load_notes, noteDisk.perform_load]

def noteReport : Report where
  output := ⟨"./Embedded.java"⟩
  target := .java
  generated := [⟨"Note", "text", 2, 5, 5, true⟩]
  failures := [⟨"Lost", .shape (.unpackagedInterface "Lost")⟩]

theorem perform_run_notes : (noteDisk.perform noteOptions.run).1 = .ok noteReport := by
  obtain ⟨after, hstored⟩ : ∃ after, noteDisk.perform
      ((notes.generate noteSettings noteOptions.verify noteFiles).container.store
        noteSettings.target noteOptions.output) = (.ok noteReport.output, after) :=
    ⟨_, Prod.ext (by decide +kernel) rfl⟩
  have hreport : noteReport = ⟨noteReport.output, noteSettings.target,
      (notes.generate noteSettings noteOptions.verify noteFiles).summaries,
      (notes.generate noteSettings noteOptions.verify noteFiles).failures⟩ := by
    decide +kernel
  rw [Disk.perform_run_eq_ok_iff.2
    ⟨notes, noteSettings, manifest_notes, settled_notes, noteReport.output, hstored, hreport⟩]

/-- The text of the file is embedded in the file that is written in its place. -/
theorem Guard.run_generates_notes :
    let ran := (Guard.run {} noteOptions : StateM Disk _).run noteDisk
    ran.1.1 = .ok (.completed noteReport) ∧
      ran.2.read noteReport.output = .ok (Text.toBytes
        ((notes.generate noteSettings noteOptions.verify noteFiles).container.render .java)) := by
  have hfresh : ({} : Guard).hasRun = false := rfl
  obtain ⟨hgenerated, -, -⟩ := Guard.run_generates hfresh noteOptions noteDisk
  have hcompleted : ((Guard.run {} noteOptions : StateM Disk _).run noteDisk).1.1 =
      .ok (.completed noteReport) := by
    rw [Guard.run_of_fresh hfresh, perform_run_notes]
    rfl
  obtain ⟨m, settings, hm, hsettings, -, hread, -⟩ := hgenerated noteReport hcompleted
  obtain rfl := Except.ok.inj (perform_load_notes.symm.trans hm)
  obtain rfl := Except.ok.inj (settled_notes.symm.trans hsettings)
  exact ⟨hcompleted, hread⟩

end LiteralPack
