import LiteralPack.Proofs.Outcomes
import LiteralPack.Run
import LiteralPack.Store.Disk

/-!
Programs that work on a disk, as functions of the disk. Reading leaves the disk as it is, so what a
program loads is given by a loader; and what was written is read back from the path that it was
written to.
-/

namespace LiteralPack

namespace Disk

/-! ### Reading back -/

variable {d written : Disk} {l : Location} {p : Path} {bytes : ByteArray}

theorem enter_eq_ok_iff {l : Location} : d.enter l = .ok () ↔ d.node? l = some .directory := by
  unfold enter
  split <;> simp_all

theorem isGiven_eq_false (h : d.node? l ≠ some .directory) : isGiven l = false := by
  rw [Bool.eq_false_iff]
  intro hgiven
  exact h (by rw [node?, if_pos hgiven])

/-- A file that takes no directory's place is in nobody's way. -/
theorem follow_put_of_follow {start stop : Location} {segments : List Text} {n : Node}
    (hl : d.node? l ≠ some .directory) (h : d.follow start segments = .ok stop) :
    (d.put l n).follow start segments = .ok stop := by
  induction segments generalizing start with
  | nil => exact h
  | cons s segments ih =>
      simp only [follow, bind_eq_ok_iff] at h ⊢
      obtain ⟨⟨⟩, henter, h⟩ := h
      have hdirectory := enter_eq_ok_iff.1 henter
      have hne : start ≠ l := fun heq => hl (heq ▸ hdirectory)
      refine ⟨(), enter_eq_ok_iff.2 (by rw [node?_put_of_ne d hne, hdirectory]), ?_⟩
      split_ifs at h ⊢
      · exact ih h
      · exact ih h
      · exact ih h

theorem locate_put_of_locate {n : Node} (hl : d.node? l ≠ some .directory)
    (h : d.locate p = .ok l) : (d.put l n).locate p = .ok l := by
  simp only [locate, bind_eq_ok_iff] at h ⊢
  obtain ⟨start, hstart, hfollow⟩ := h
  exact ⟨start, hstart, follow_put_of_follow hl hfollow⟩

theorem write_eq_ok_iff : d.write p bytes = .ok written ↔
    ∃ l, d.locate p = .ok l ∧ d.node? l ≠ some .directory ∧ written = d.put l (.file bytes) := by
  simp only [write, bind_eq_ok_iff]
  refine exists_congr fun l => and_congr_right fun _ => ?_
  cases d.node? l with
  | none => simp [pure, Except.pure, eq_comm]
  | some n =>
      cases n with
      | file old => simp [pure, Except.pure, eq_comm]
      | directory => simp [throw, throwThe, MonadExceptOf.throw]

theorem read_of_write (h : d.write p bytes = .ok written) : written.read p = .ok bytes := by
  obtain ⟨l, hl, hnode, rfl⟩ := write_eq_ok_iff.1 h
  simp only [read, bind_eq_ok_iff]
  refine ⟨l, locate_put_of_locate hnode hl, ?_⟩
  rw [node?_put_self d (isGiven_eq_false hnode)]
  rfl

/-! ### Programs -/

/-- What a program gives, and the disk that it leaves behind. -/
def perform {α : Type} (d : Disk) (program : ExceptT RunError (StateM Disk) α) :
    Except RunError α × Disk :=
  program.run.run d

section Programs

variable {α β : Type} (d : Disk) (p : Path) (bytes : ByteArray)

theorem perform_liftExcept (x : Except RunError α) : d.perform (liftExcept x) = (x, d) := by
  cases x <;> rfl

theorem perform_lift (x : StateM Disk α) :
    d.perform (liftM x) = (.ok (x.run d).1, (x.run d).2) := rfl

theorem perform_bind (x : ExceptT RunError (StateM Disk) α)
    (f : α → ExceptT RunError (StateM Disk) β) :
    d.perform (x >>= f) =
      match d.perform x with
      | (.ok a, after) => after.perform (f a)
      | (.error e, after) => (.error e, after) := by
  change (ExceptT.bindCont f (d.perform x).1).run (d.perform x).2 = _
  obtain ⟨result, after⟩ := d.perform x
  cases result <;> rfl

theorem run_read : (FileStore.read p : StateM Disk _).run d = (d.read p, d) := rfl

theorem run_makeDirs : (FileStore.makeDirs p : StateM Disk _).run d = d.makeDirs p := rfl

theorem run_write : (FileStore.write p bytes : StateM Disk _).run d =
    match d.write p bytes with
    | .ok written => (.ok (), written)
    | .error fault => (.error fault, d) := rfl

end Programs

/-- The manifest that lies at a path. -/
def manifest (d : Disk) (p : Path) : Except RunError Manifest :=
  match d.read p with
  | .ok bytes => Manifest.ofBytes p bytes
  | .error fault => .error (.readManifest p fault.message)

theorem perform_load (d : Disk) (p : Path) : d.perform (Manifest.load p) = (d.manifest p, d) := by
  rw [Manifest.load, perform_bind, perform_lift, run_read, manifest]
  cases d.read p with
  | ok bytes => exact d.perform_liftExcept _
  | error fault => rfl

/-- The files that are seen from the directory `base`. -/
def loader (d : Disk) (base : Path) : Loader := fun path =>
  loadedText (base.join path) (d.read (base.join path))

/-- Loading one file after the other gives what the loader gives, for no file is written. -/
theorem run_loadAll (d : Disk) (base : Path) (checked : List (Except Rejection Declaration)) :
    (LiteralPack.loadAll base checked : StateM Disk _).run d =
      ((d.loader base).loadAll checked, d) := by
  induction checked with
  | nil => rfl
  | cons result checked ih =>
      have hhead : (LiteralPack.loadAll base (result :: checked) : StateM Disk _).run d =
          (do
            let rest ← LiteralPack.loadAll base checked
            return (result.map fun a => (a, d.loader base a.path)) :: rest :
              StateM Disk _).run d := by
        rw [LiteralPack.loadAll, List.mapM_cons]
        cases result <;> rfl
      rw [hhead, StateT.run_bind, ih]
      rfl

/-- Makes the directory that a file is to lie in, if its path names one. -/
def makeParent (d : Disk) (p : Path) : Except StoreFault Unit × Disk :=
  (p.parent?.map d.makeDirs).getD (.ok (), d)

theorem perform_store (d : Disk) (target : Target) (output : Path) (c : Container) :
    d.perform (c.store target output) =
      let path := c.path target output
      match d.makeParent path with
      | (.error fault, made) => (.error (.write (path.parent?.getD path) fault), made)
      | (.ok (), made) =>
        match made.write path (Text.toBytes (c.render target)) with
        | .error fault => (.error (.write path fault), made)
        | .ok written => (.ok path, written) := by
  delta Container.store
  -- With or without a directory to make, the end is one write on what that left behind.
  cases hparent : (c.path target output).parent? with
  | none =>
      simp only [hparent, makeParent, Option.map_none, Option.getD_none]
      rw [perform_bind, perform_lift, run_write]
      cases d.write (c.path target output) (c.render target).toBytes <;> rfl
  | some directory =>
      simp only [hparent, makeParent, Option.map_some, Option.getD_some]
      rw [perform_bind, perform_lift, run_makeDirs]
      obtain ⟨result, made⟩ := d.makeDirs directory
      cases result with
      | error fault => rfl
      | ok _ =>
          dsimp only
          rw [perform_bind, perform_lift, run_write]
          cases made.write (c.path target output) (c.render target).toBytes <;> rfl

/-- A container that was stored lies where its path says. -/
theorem read_of_perform_store {d stored : Disk} {target : Target} {output path : Path}
    {c : Container} (h : d.perform (c.store target output) = (.ok path, stored)) :
    path = c.path target output ∧ stored.read path = .ok (Text.toBytes (c.render target)) := by
  rw [perform_store] at h
  dsimp only at h
  generalize d.makeParent (c.path target output) = parent at h
  obtain ⟨result, made⟩ := parent
  cases result with
  | error fault => simp at h
  | ok _ =>
      cases hwrite : made.write (c.path target output) (c.render target).toBytes with
      | error fault => simp [hwrite] at h
      | ok written =>
          simp only [hwrite, Prod.mk.injEq, Except.ok.injEq] at h
          obtain ⟨rfl, rfl⟩ := h
          exact ⟨rfl, read_of_write hwrite⟩

end Disk

end LiteralPack
