import LiteralPack.Proofs.Runs
import LiteralPack.Proofs.Ways

/-!
What a run leaves alone. Making directories puts directories where nothing was, on the way to the
file that is to be written, and writing puts one file in its place. So a run touches the file of its
container and the way to it, and a run that fails before it stores anything touches nothing.
-/

namespace LiteralPack

namespace Disk

variable {d before after made : Disk} {way other : Location → Prop} {l : Location}

/-- A location keeps what lies there, unless nothing does and a directory is made on the way. -/
def KeepsAt (way : Location → Prop) (before after : Disk) (l : Location) : Prop :=
  after.node? l = before.node? l ∨
    before.node? l = none ∧ after.node? l = some .directory ∧ way l

def Keeps (way : Location → Prop) (before after : Disk) : Prop := ∀ l, KeepsAt way before after l

namespace Keeps

theorem refl (way : Location → Prop) (d : Disk) : Keeps way d d := fun _ => .inl rfl

theorem trans (h : Keeps way before made) (h' : Keeps way made after) : Keeps way before after := by
  intro l
  rcases h' l with hsame | ⟨hnone, hdirectory, hway⟩
  · rcases h l with hbefore | ⟨hnone, hdirectory, hway⟩
    · exact .inl (hsame.trans hbefore)
    · exact .inr ⟨hnone, hsame.trans hdirectory, hway⟩
  · rcases h l with hbefore | ⟨-, hmade, -⟩
    · exact .inr ⟨hbefore ▸ hnone, hdirectory, hway⟩
    · rw [hmade] at hnone
      cases hnone

theorem mono (h : Keeps way before after) (hle : ∀ l, way l → other l) :
    Keeps other before after := by
  intro l
  rcases h l with hsame | ⟨hnone, hdirectory, hway⟩
  · exact .inl hsame
  · exact .inr ⟨hnone, hdirectory, hle l hway⟩

theorem put_directory (hnone : d.node? l = none) (hl : way l) :
    Keeps way d (d.put l .directory) := by
  intro place
  by_cases hplace : place = l
  · subst hplace
    have hgiven : isGiven place = false := isGiven_eq_false (by rw [hnone]; simp)
    exact .inr ⟨hnone, node?_put_self d hgiven _, hl⟩
  · exact .inl (node?_put_of_ne d hplace _)

end Keeps

theorem keeps_makeWay (d : Disk) (l : Location) (segments : List Text) :
    Keeps (Along l segments) d (d.makeWay l segments).2 := by
  fun_induction makeWay d l segments with
  | case1 => exact .refl _ _
  | case2 d l s rest hstays ih =>
      refine ih.mono fun place hplace => Along.cons ?_
      rwa [move, if_pos hstays]
  | case3 d l s rest hstays hup ih =>
      refine ih.mono fun place hplace => Along.cons ?_
      rwa [move, if_neg hstays, if_pos hup]
  | case4 => exact .refl _ _
  | case5 d l s rest hstays hup _ _ ih =>
      refine ih.mono fun place hplace => Along.cons ?_
      rwa [move, if_neg hstays, if_neg hup]
  | case6 => exact .refl _ _
  | case7 d l s rest hstays hup _ hnone ih =>
      have hmove : move l s = l ++ [s] := by rw [move, if_neg hstays, if_neg hup]
      refine .trans (.put_directory hnone (Along.cons ?_)) (ih.mono fun place hplace => ?_)
      · exact ⟨[], List.nil_prefix, hmove⟩
      · exact Along.cons (hmove ▸ hplace)

theorem keeps_makeLast (d : Disk) (l : Location) (segments : List Text) :
    Keeps (Along l segments) d (d.makeLast l segments).2 := by
  have hfront : (segments.reverse.dropWhile (·.isEmpty)).reverse <+: segments := by
    rw [← List.reverse_suffix, List.reverse_reverse]
    exact List.dropWhile_suffix _
  unfold makeLast
  split
  · exact .refl _ _
  · rename_i stop hfollow
    split
    · exact .refl _ _
    · exact .refl _ _
    · rename_i hnone
      exact .put_directory hnone ⟨_, hfront, walk_of_follow hfollow⟩

theorem keeps_makeDirs (d : Disk) (p : Path) :
    Keeps (Along (origin p) p.segments) d (d.makeDirs p).2 := by
  unfold makeDirs
  split
  · exact .refl _ _
  · split
    · exact .refl _ _
    · rename_i l hstart
      obtain rfl := origin_of_start hstart
      have hway : Keeps (Along (origin p) p.segments) d
          (d.makeWay (origin p) (p.parent?.elim [] Path.segments)).2 := by
        refine (d.keeps_makeWay _ _).mono fun place hplace => ?_
        cases hparent : p.parent? with
        | none =>
            rw [hparent] at hplace
            exact hplace.mono List.nil_prefix
        | some q =>
            rw [hparent] at hplace
            exact (hplace.of_parent hparent).mono (List.dropLast_prefix _)
      split
      · rename_i fault made hmade
        rwa [hmade] at hway
      · rename_i made hmade
        rw [hmade] at hway
        exact hway.trans (made.keeps_makeLast _ _)

/-- What is made for a file lies on the way to it. -/
theorem keeps_makeParent (d : Disk) (p : Path) : Keeps (LeadsThrough p) d (d.makeParent p).2 := by
  unfold makeParent
  cases hparent : p.parent? with
  | none => exact .refl _ _
  | some q =>
      rw [Option.map_some, Option.getD_some]
      by_cases hempty : q.text = ""
      · rw [makeDirs, if_pos (by rw [hempty]; rfl)]
        exact .refl _ _
      · exact (d.keeps_makeDirs q).mono fun l => leadsThrough_of_parent hparent hempty

/-- A file was put at the end of a path, in no directory's place, and all else is kept but for
directories on the way. -/
def Stores (before after : Disk) (p : Path) (bytes : ByteArray) : Prop :=
  ∃ l, after.locate p = .ok l ∧ after.node? l = some (.file bytes) ∧
    before.node? l ≠ some .directory ∧
    ∀ place, place ≠ l → KeepsAt (LeadsThrough p) before after place

theorem stores_of_write {p : Path} {bytes : ByteArray} (hmade : Keeps (LeadsThrough p) before made)
    (h : made.write p bytes = .ok after) : Stores before after p bytes := by
  obtain ⟨l, hl, hnode, rfl⟩ := write_eq_ok_iff.1 h
  refine ⟨l, locate_put_of_locate hnode hl, node?_put_self made (isGiven_eq_false hnode) _, ?_, ?_⟩
  · intro hdirectory
    rcases hmade l with hsame | ⟨hnone, -, -⟩
    · exact hnode (hsame.trans hdirectory)
    · rw [hdirectory] at hnone
      cases hnone
  · intro place hplace
    rw [KeepsAt, node?_put_of_ne made hplace]
    exact hmade place

section Store

variable {target : Target} {output path : Path} {c : Container} {e : RunError}

theorem stores_of_perform_store (h : d.perform (c.store target output) = (.ok path, after)) :
    path = c.path target output ∧ Stores d after path (Text.toBytes (c.render target)) := by
  have hkeeps := d.keeps_makeParent (c.path target output)
  rw [perform_store] at h
  dsimp only at h
  split at h
  · cases h
  · rename_i made hmade
    rw [hmade] at hkeeps
    split at h
    · cases h
    · rename_i written hwrite
      cases h
      exact ⟨rfl, stores_of_write hkeeps hwrite⟩

theorem keeps_of_perform_store (h : d.perform (c.store target output) = (.error e, after)) :
    (∃ p fault, e = .write p fault) ∧ Keeps (LeadsThrough (c.path target output)) d after := by
  have hkeeps := d.keeps_makeParent (c.path target output)
  rw [perform_store] at h
  dsimp only at h
  split at h
  · rename_i fault made hmade
    rw [hmade] at hkeeps
    cases h
    exact ⟨⟨_, _, rfl⟩, hkeeps⟩
  · rename_i made hmade
    rw [hmade] at hkeeps
    split at h
    · cases h
      exact ⟨⟨_, _, rfl⟩, hkeeps⟩
    · cases h

end Store

end Disk

/-! ### Runs -/

/-- What a manifest is refused for is never a write. -/
theorem Manifest.ofBytes_ne_write (p q : Path) (bytes : ByteArray) (fault : StoreFault) :
    Manifest.ofBytes p bytes ≠ .error (.write q fault) := by
  unfold Manifest.ofBytes
  cases Text.ofBytes? bytes with
  | none => exact nofun
  | some source =>
      cases hread : Manifest.read source with
      | error cause =>
          simp only [hread, mapError_error, error_bind]
          exact nofun
      | ok m =>
          simp only [hread, mapError_ok, ok_bind]
          split <;> exact nofun

theorem Disk.manifest_ne_write (d : Disk) (p q : Path) (fault : StoreFault) :
    d.manifest p ≠ .error (.write q fault) := by
  unfold manifest
  split
  · exact Manifest.ofBytes_ne_write p q _ fault
  · exact nofun

theorem Manifest.settled_ne_write (m : Manifest) (overrides : Overrides) (q : Path)
    (fault : StoreFault) : m.settled overrides ≠ .error (.write q fault) := by
  unfold settled
  cases m.settings overrides <;> exact nofun

/-- A run fails before it stores anything and touches nothing, or it fails in storing. -/
theorem Disk.perform_run_of_error {d : Disk} {options : Options} {e : RunError}
    (h : (d.perform options.run).1 = .error e) :
    ((∀ path fault, e ≠ .write path fault) ∧ (d.perform options.run).2 = d) ∨
      ∃ m settings, d.manifest options.manifest = .ok m ∧
        m.settled options.overrides = .ok settings ∧ (∃ path fault, e = .write path fault) ∧
        let g := m.generate settings options.verify (d.loader options.manifest.directory)
        Keeps (LeadsThrough (g.container.path settings.target options.output)) d
          (d.perform options.run).2 := by
  rcases perform_run_eq_error_iff.1 h with
    hmanifest | ⟨m, hmanifest, hsettings⟩ | ⟨m, settings, hmanifest, hsettings, hstore⟩
  · refine .inl ⟨fun path fault he => ?_, ?_⟩
    · exact d.manifest_ne_write options.manifest path fault (he ▸ hmanifest)
    · simp only [perform_run, hmanifest]
  · refine .inl ⟨fun path fault he => ?_, ?_⟩
    · exact m.settled_ne_write options.overrides path fault (he ▸ hsettings)
    · simp only [perform_run, hmanifest, hsettings]
  · refine .inr ⟨m, settings, hmanifest, hsettings, ?_⟩
    rw [perform_run]
    simp only [hmanifest, hsettings]
    generalize m.generate settings options.verify _ = g at hstore ⊢
    cases hperform : d.perform (g.container.store settings.target options.output) with
    | mk result after =>
        simp only [hperform] at hstore
        subst hstore
        exact keeps_of_perform_store hperform

/-- A report comes with one file, whatever the declarations came to. -/
theorem Disk.stores_of_perform_run {d after : Disk} {options : Options} {report : Report}
    (h : d.perform options.run = (.ok report, after)) :
    ∃ m settings, d.manifest options.manifest = .ok m ∧
      m.settled options.overrides = .ok settings ∧
      let g := m.generate settings options.verify (d.loader options.manifest.directory)
      report.output = g.container.path settings.target options.output ∧
      report.failures = g.failures ∧
      d.Stores after report.output (Text.toBytes (g.container.render settings.target)) := by
  obtain ⟨m, settings, hmanifest, hsettings, output, hstore, rfl⟩ := perform_run_eq_ok_iff.1 h
  obtain ⟨houtput, hstores⟩ := stores_of_perform_store hstore
  exact ⟨m, settings, hmanifest, hsettings, houtput, rfl, hstores⟩

/-- A run touches the file of its container and the way to it. Skipped, or refused for its manifest
or its settings, it touches nothing; if storing fails, no more than directories are new; and when
it completes, whatever its declarations came to, the container is the one file that may differ.
An inspection touches nothing. -/
theorem Guard.run_touches (guard : Guard) (options : Options) (d : Disk) :
    let load := d.loader options.manifest.directory
    let loaded := (d.perform (Manifest.load options.manifest)).1
    let ran := (guard.run options : StateM Disk _).run d
    (ran.1.1 = .ok .skipped → ran.2 = d) ∧
    (∀ e, ran.1.1 = .error e → (∀ path fault, e ≠ .write path fault) → ran.2 = d) ∧
    (∀ path fault, ran.1.1 = .error (.write path fault) →
      ∃ m settings, loaded = .ok m ∧ m.settled options.overrides = .ok settings ∧
        let g := m.generate settings options.verify load
        d.Keeps (Disk.LeadsThrough (g.container.path settings.target options.output)) ran.2) ∧
    (∀ report, ran.1.1 = .ok (.completed report) →
      ∃ m settings, loaded = .ok m ∧ m.settled options.overrides = .ok settings ∧
        let g := m.generate settings options.verify load
        report.output = g.container.path settings.target options.output ∧
        report.failures = g.failures ∧
        d.Stores ran.2 report.output (Text.toBytes (g.container.render settings.target))) ∧
    ∀ path, (d.perform (inspect path)).2 = d := by
  intro load loaded ran
  have hloaded : loaded = d.manifest options.manifest := congrArg Prod.fst (d.perform_load _)
  have hinspect : ∀ path, (d.perform (inspect path)).2 = d := fun path => by rw [d.perform_inspect]
  rw [hloaded]
  cases hused : guard.hasRun with
  | true =>
      have hran : ran = ((.ok .skipped, guard), d) := Guard.run_skips hused options d
      rw [hran]
      exact ⟨fun _ => rfl, nofun, nofun, nofun, hinspect⟩
  | false =>
      have hran : ran =
          (((d.perform options.run).1.map .completed, ⟨true⟩), (d.perform options.run).2) :=
        Guard.run_of_fresh hused options d
      rw [hran]
      refine ⟨?skipped, ?refused, ?blocked, ?completed, hinspect⟩
      case skipped => exact fun hskipped => absurd hskipped map_completed_ne_skipped
      case refused =>
        intro e he hwrite
        rcases Disk.perform_run_of_error (map_completed_eq_error_iff.1 he) with
          ⟨-, hsame⟩ | ⟨_, _, -, -, ⟨path, fault, rfl⟩, -⟩
        · exact hsame
        · exact absurd rfl (hwrite path fault)
      case blocked =>
        intro path fault he
        rcases Disk.perform_run_of_error (map_completed_eq_error_iff.1 he) with
          ⟨hwrite, -⟩ | ⟨m, settings, hmanifest, hsettings, -, hkeeps⟩
        · exact absurd rfl (hwrite path fault)
        · exact ⟨m, settings, hmanifest, hsettings, hkeeps⟩
      case completed =>
        intro report hreport
        exact Disk.stores_of_perform_run (Prod.ext (map_completed_eq_ok_iff.1 hreport) rfl)

/-- A directory is made before a file turns out to be in the way. -/
def blockedOptions : Options := { noteOptions with output := ⟨"out/../Embedded.java"⟩ }

def lostOptions : Options := { noteOptions with manifest := ⟨"lost.json"⟩ }

theorem perform_run_blocked :
    (noteDisk.perform blockedOptions.run).1 = .error (.write blockedOptions.output .exists) :=
  Disk.perform_run_eq_error_iff.2
    (.inr (.inr ⟨notes, noteSettings, manifest_notes, settled_notes, by decide +kernel⟩))

theorem perform_run_lost :
    (noteDisk.perform lostOptions.run).1 =
      .error (.readManifest ⟨"lost.json"⟩ StoreFault.notFound.message) :=
  Disk.perform_run_eq_error_iff.2 (.inl (by decide +kernel))

theorem Guard.run_touches_notes :
    let skipped := (Guard.run ⟨true⟩ noteOptions : StateM Disk _).run noteDisk
    let lost := (Guard.run {} lostOptions : StateM Disk _).run noteDisk
    let blocked := (Guard.run {} blockedOptions : StateM Disk _).run noteDisk
    let completed := (Guard.run {} noteOptions : StateM Disk _).run noteDisk
    let g := notes.generate noteSettings noteOptions.verify noteFiles
    (skipped.1.1 = .ok .skipped ∧ skipped.2 = noteDisk) ∧
    (lost.1.1 = .error (.readManifest ⟨"lost.json"⟩ StoreFault.notFound.message) ∧
      lost.2 = noteDisk) ∧
    (blocked.1.1 = .error (.write blockedOptions.output .exists) ∧
      noteDisk.Keeps (Disk.LeadsThrough (g.container.path .java blockedOptions.output))
        blocked.2) ∧
    completed.1.1 = .ok (.completed noteReport) ∧
      noteDisk.Stores completed.2 noteReport.output (Text.toBytes (g.container.render .java)) := by
  have hfresh : ({} : Guard).hasRun = false := rfl
  have hskipped : ((Guard.run ⟨true⟩ noteOptions : StateM Disk _).run noteDisk).1.1 =
      .ok .skipped := rfl
  have hlost : ((Guard.run {} lostOptions : StateM Disk _).run noteDisk).1.1 =
      .error (.readManifest ⟨"lost.json"⟩ StoreFault.notFound.message) := by
    rw [Guard.run_of_fresh hfresh, perform_run_lost]
    rfl
  have hblocked : ((Guard.run {} blockedOptions : StateM Disk _).run noteDisk).1.1 =
      .error (.write blockedOptions.output .exists) := by
    rw [Guard.run_of_fresh hfresh, perform_run_blocked]
    rfl
  have hcompleted : ((Guard.run {} noteOptions : StateM Disk _).run noteDisk).1.1 =
      .ok (.completed noteReport) := by
    rw [Guard.run_of_fresh hfresh, perform_run_notes]
    rfl
  obtain ⟨hskips, -⟩ := Guard.run_touches ⟨true⟩ noteOptions noteDisk
  obtain ⟨-, hrefused, -⟩ := Guard.run_touches {} lostOptions noteDisk
  obtain ⟨-, -, hblocks, -⟩ := Guard.run_touches {} blockedOptions noteDisk
  obtain ⟨-, -, -, hcompletes, -⟩ := Guard.run_touches {} noteOptions noteDisk
  refine ⟨⟨hskipped, hskips hskipped⟩, ⟨hlost, hrefused _ hlost nofun⟩, ⟨hblocked, ?_⟩,
    hcompleted, ?_⟩
  · obtain ⟨m, settings, hm, hsettings, hkeeps⟩ := hblocks _ _ hblocked
    obtain rfl := Except.ok.inj (perform_load_notes.symm.trans hm)
    obtain rfl := Except.ok.inj (settled_notes.symm.trans hsettings)
    exact hkeeps
  · obtain ⟨m, settings, hm, hsettings, -, -, hstores⟩ := hcompletes _ hcompleted
    obtain rfl := Except.ok.inj (perform_load_notes.symm.trans hm)
    obtain rfl := Except.ok.inj (settled_notes.symm.trans hsettings)
    exact hstores

end LiteralPack
