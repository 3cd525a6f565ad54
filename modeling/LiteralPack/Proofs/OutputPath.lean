import Mathlib.Tactic.TFAE
import LiteralPack.Generate
import LiteralPack.Proofs.Names
import LiteralPack.Proofs.Ways

/-!
Where a generated file lies. A name leads down by one directory, whatever stands in front of it, so
a path that is joined with names ends below the place that it led to before. The segments of a
package and the file of a container are names because they are made of identifiers, and they tell
the settings that a file was generated under.
-/

namespace LiteralPack

namespace Path

/-- What may stand for one file or directory in a path, and for nothing else. -/
structure IsName (s : Text) : Prop where
  ne_nil : s ≠ []
  ne_dot : s ≠ ['.']
  ne_up : s ≠ ['.', '.']
  not_separator : ∀ c ∈ s, c ≠ '/' ∧ c ≠ '\\'

/-- What the text of a path in the directory `p` begins with. -/
def opened (p : Path) : Text :=
  if p.text.toList = [] ∨ p.text.toList.getLast? = some '/' then p.text.toList
  else p.text.toList ++ ['/']

variable {p q : Path} {s lead : Text} {names : List Text}

theorem IsName.slash_not_mem (hs : IsName s) : '/' ∉ s := fun hc => (hs.not_separator '/' hc).1 rfl

/-! ### The text of a path below another -/

theorem text_join (p : Path) (hq : q.isAbsolute = false) :
    (p.join q).text.toList = p.opened ++ q.text.toList := by
  have hhead : q.text.toList.head? ≠ some '/' := by simpa [isAbsolute] using hq
  rw [join, append, opened, String.toList_ofList]
  by_cases hnil : p.text.toList = []
  · simp [hnil]
  · by_cases hslash : p.text.toList.getLast? = some '/'
    · simp [hhead, hnil, hslash]
    · simp [hhead, hnil, hslash]

theorem opened_of_text_eq_opened (h : p.text.toList = q.opened) : p.opened = q.opened := by
  rw [opened, h]
  apply if_pos
  rw [opened]
  split_ifs with hopen
  · exact hopen
  · exact .inr List.getLast?_concat

theorem opened_of_isName (hs : IsName s) (h : p.text.toList = lead ++ s) :
    p.opened = p.text.toList ++ ['/'] := by
  apply if_neg
  rw [h, not_or]
  refine ⟨fun hnil => hs.ne_nil (List.append_eq_nil_iff.1 hnil).2, fun hlast => ?_⟩
  rw [List.getLast?_append_of_ne_nil _ hs.ne_nil] at hlast
  exact hs.slash_not_mem (List.mem_of_getLast? hlast)

theorem isAbsolute_ofList_eq_false (hs : IsName s) : isAbsolute ⟨String.ofList s⟩ = false := by
  rw [isAbsolute, String.toList_ofList, beq_eq_false_iff_ne]
  intro hhead
  exact hs.slash_not_mem (List.mem_of_head? hhead)

theorem opened_of_names (h : ∀ n ∈ names, IsName n) (hne : names ≠ [])
    (htext : p.text.toList = lead ++ ['/'].intercalate names) :
    p.opened = p.text.toList ++ ['/'] := by
  rcases names.eq_nil_or_concat with rfl | ⟨init, last, rfl⟩
  · exact absurd rfl hne
  · rw [List.concat_eq_append] at h htext
    have hlast := h last (by simp)
    by_cases hinit : init = []
    · subst hinit
      rw [List.nil_append, List.intercalate_singleton] at htext
      exact opened_of_isName hlast htext
    · rw [Text.intercalate_concat hinit, List.append_cons, ← List.append_assoc] at htext
      exact opened_of_isName hlast htext

theorem text_joinAll (h : ∀ n ∈ names, IsName n) :
    (joinAll names).text.toList = ['/'].intercalate names := by
  induction names using List.reverseRecOn with
  | nil => rfl
  | append_singleton names s ih =>
      rw [List.forall_mem_append] at h
      have hs := isAbsolute_ofList_eq_false (h.2 s (List.mem_singleton_self s))
      have ih := ih h.1
      rw [joinAll_concat, text_join _ hs, String.toList_ofList]
      by_cases hne : names = []
      · subst hne
        simp [joinAll, opened]
      · have hopened : (joinAll names).opened = (joinAll names).text.toList ++ ['/'] :=
          opened_of_names h.1 hne (ih.trans (List.nil_append _).symm)
        rw [hopened, ih, Text.intercalate_concat hne, List.append_assoc]
        rfl

theorem head?_intercalate (h : ∀ s ∈ names, IsName s) :
    (['/'].intercalate names).head? ≠ some '/' := by
  cases names with
  | nil => exact nofun
  | cons s names =>
      have hs := h s List.mem_cons_self
      have hhead : (['/'].intercalate (s :: names)).head? = s.head? := by
        cases names with
        | nil => simp
        | cons n names =>
            rw [List.intercalate_cons_cons, List.append_assoc,
              List.head?_append_of_ne_nil _ hs.ne_nil]
      rw [hhead]
      exact fun hslash => hs.slash_not_mem (List.mem_of_head? hslash)

theorem isAbsolute_joinAll (h : ∀ s ∈ names, IsName s) : (joinAll names).isAbsolute = false := by
  rw [isAbsolute, text_joinAll h, beq_eq_false_iff_ne]
  exact head?_intercalate h

/-- The path of a file in a directory below `p`, which the names lead to. -/
theorem text_join_names (p : Path) (h : ∀ n ∈ names ++ [s], IsName n) :
    ((p.join (joinAll names)).join ⟨String.ofList s⟩).text.toList =
      p.opened ++ ['/'].intercalate (names ++ [s]) := by
  rw [List.forall_mem_append] at h
  have hs := isAbsolute_ofList_eq_false (h.2 s (List.mem_singleton_self s))
  have hdirectory := text_join p (isAbsolute_joinAll h.1)
  rw [text_joinAll h.1] at hdirectory
  rw [text_join _ hs, String.toList_ofList]
  by_cases hne : names = []
  · subst hne
    rw [opened_of_text_eq_opened (hdirectory.trans (List.append_nil _))]
    simp
  · rw [opened_of_names h.1 hne hdirectory, hdirectory, Text.intercalate_concat hne,
      List.append_assoc, List.append_assoc]
    rfl

/-! ### The components of a path below another -/

variable {t : Text}

/-- What stands in front of the segments of `t` are the segments of `p`, but for the empty one at
its end if it ends in a slash. -/
theorem exists_segments_eq (h : q.text.toList = p.opened ++ t) :
    ∃ front, q.segments = front ++ Text.segments (· == '/') t ∧
      (p.segments = front ∨ p.segments = front ++ [[]]) := by
  rw [opened] at h
  rw [segments, segments, h]
  split_ifs at h ⊢ with hopen
  · rcases hopen with hnil | hslash
    · exact ⟨[], by rw [hnil]; rfl, .inr (by rw [hnil]; rfl)⟩
    · obtain ⟨lead, hlead⟩ := List.getLast?_eq_some_iff.1 hslash
      refine ⟨Text.segments (· == '/') lead, ?_, .inr ?_⟩
      · rw [hlead, List.append_assoc]
        exact Text.segments_append_cons (· == '/') (beq_self_eq_true '/') lead t
      · rw [hlead]
        exact Text.segments_append_cons (· == '/') (beq_self_eq_true '/') lead []
  · refine ⟨_, ?_, .inl rfl⟩
    rw [List.append_assoc]
    exact Text.segments_append_cons (· == '/') (beq_self_eq_true '/') _ t

theorem exists_segments_eq_append (h : ∀ n ∈ names, IsName n) (hne : names ≠ [])
    (htext : q.text.toList = p.opened ++ ['/'].intercalate names) :
    ∃ front, q.segments = front ++ names ∧ (p.segments = front ∨ p.segments = front ++ [[]]) := by
  obtain ⟨front, hq, hp⟩ := exists_segments_eq htext
  rw [Text.segments_intercalate hne fun n hn => (h n hn).slash_not_mem] at hq
  exact ⟨front, hq, hp⟩

theorem isAbsolute_eq (h : q.text.toList = p.opened ++ t) (ht : t.head? ≠ some '/') :
    q.isAbsolute = p.isAbsolute := by
  rw [isAbsolute, isAbsolute, h, opened]
  cases htext : p.text.toList with
  | nil => simpa using ht
  | cons c rest => split_ifs <;> rfl

theorem IsName.countsWithin (h : IsName s) : countsWithin s = true := by
  simp [Path.countsWithin, h.ne_nil, h.ne_dot]

theorem filter_countsWithin (h : ∀ n ∈ names, IsName n) : names.filter countsWithin = names :=
  List.filter_eq_self.2 fun n hn => (h n hn).countsWithin

theorem components_eq (h : ∀ n ∈ names, IsName n) (hne : names ≠ [])
    (htext : q.text.toList = p.opened ++ ['/'].intercalate names) :
    q.components = p.components ++ names := by
  have habsolute := isAbsolute_eq htext (head?_intercalate h)
  obtain ⟨front, hq, hp⟩ := exists_segments_eq_append h hne htext
  have hempty : countsWithin [] = false := rfl
  rw [components, components, habsolute, hq]
  split_ifs
  · rw [List.filter_append, filter_countsWithin h]
    rcases hp with hp | hp <;> simp [hp, hempty]
  · -- A relative path keeps its first segment even if that is a dot.
    cases front with
    | nil =>
        cases names with
        | nil => exact absurd rfl hne
        | cons n names =>
            rw [List.forall_mem_cons] at h
            rcases hp with hp | hp
            · exact absurd hp (Text.segments_ne_nil _ _)
            · simp [hp, h.1.ne_nil, filter_countsWithin h.2]
    | cons s front => rcases hp with hp | hp <;> simp [hp, hempty, filter_countsWithin h]

theorem key_eq (h : ∀ n ∈ names, IsName n) (hne : names ≠ [])
    (htext : q.text.toList = p.opened ++ ['/'].intercalate names) : q.key = p.key ++ names := by
  rw [key, key, isAbsolute_eq htext (head?_intercalate h), components_eq h hne htext]
  split_ifs <;> rfl

end Path

namespace Disk

/-- The place that a path leads to when nothing is in the way. -/
def place (p : Path) : Location := walk (origin p) p.segments

variable {d : Disk} {l : Location} {p q : Path} {names : List Text}

theorem place_of_locate (h : d.locate p = .ok l) : place p = l := by
  simp only [locate, bind_eq_ok_iff] at h
  obtain ⟨start, hstart, hfollow⟩ := h
  rw [place, origin_of_start hstart]
  exact walk_of_follow hfollow

theorem walk_names (h : ∀ n ∈ names, Path.IsName n) (l : Location) : walk l names = l ++ names := by
  induction names generalizing l with
  | nil => exact (List.append_nil l).symm
  | cons n names ih =>
      rw [List.forall_mem_cons] at h
      have hmove : move l n = l ++ [n] := by
        simp [move, stays, up, h.1.ne_nil, h.1.ne_dot, h.1.ne_up]
      rw [walk, List.foldl_cons, hmove]
      exact (ih h.2 _).trans (List.append_assoc l [n] names)

theorem walk_append (l : Location) (segments more : List Text) :
    walk l (segments ++ more) = walk (walk l segments) more :=
  List.foldl_append

theorem place_eq (h : ∀ n ∈ names, Path.IsName n) (hne : names ≠ [])
    (htext : q.text.toList = p.opened ++ ['/'].intercalate names) :
    place q = place p ++ names := by
  have horigin : origin q = origin p := by
    rw [origin, origin, Path.isAbsolute_eq htext (Path.head?_intercalate h)]
  obtain ⟨front, hq, hp⟩ := Path.exists_segments_eq_append h hne htext
  have hfront : place p = walk (origin p) front := by
    rcases hp with hp | hp
    · rw [place, hp]
    · rw [place, hp, walk_append]
      exact walk_eq_self (by simp [stays])
  rw [place, horigin, hq, walk_append, walk_names h, hfront]

end Disk

/-! ### Names out of identifiers -/

namespace Identifier

variable {c : Char} {t : Text}

/-- What has a meaning of its own in a path is no part of an identifier. -/
theorem isPart_eq_false : isPart '.' = false ∧ isPart '/' = false ∧ isPart '\\' = false := by
  decide +kernel

theorem ne_dot_of_isPart (h : isPart c = true) : c ≠ '.' := by
  rintro rfl
  exact Bool.eq_false_iff.1 isPart_eq_false.1 h

theorem ne_separator_of_inName (h : InName c) : c ≠ '/' ∧ c ≠ '\\' := by
  rcases h with h | rfl
  · constructor
    · rintro rfl
      exact Bool.eq_false_iff.1 isPart_eq_false.2.1 h
    · rintro rfl
      exact Bool.eq_false_iff.1 isPart_eq_false.2.2 h
  · decide

/-- Dots do no harm as long as there is none in front. -/
theorem isName_of_inName (hhead : ∃ c, t.head? = some c ∧ isPart c = true)
    (h : ∀ c ∈ t, InName c) : Path.IsName t := by
  obtain ⟨first, hfirst, hpart⟩ := hhead
  have hdot : t.head? ≠ some '.' := by
    rw [hfirst, ne_eq, Option.some_inj]
    exact ne_dot_of_isPart hpart
  constructor
  case ne_nil =>
    rintro rfl
    cases hfirst
  case ne_dot =>
    rintro rfl
    exact hdot rfl
  case ne_up =>
    rintro rfl
    exact hdot rfl
  case not_separator => exact fun c hc => ne_separator_of_inName (h c hc)

theorem exists_head?_isPart (h : isIdentifier t = true) :
    ∃ c, t.head? = some c ∧ isPart c = true := by
  obtain ⟨⟨c, hc, hstart⟩, -⟩ := isIdentifier_iff.1 h
  exact ⟨c, hc, isPart_of_isStart c hstart⟩

theorem isName_of_isIdentifier (h : isIdentifier t = true) : Path.IsName t :=
  isName_of_inName (exists_head?_isPart h) fun c hc => .inl (forall_isPart h c hc)

theorem dot_not_mem (h : isIdentifier t = true) : '.' ∉ t := fun hdot =>
  ne_dot_of_isPart (forall_isPart h '.' hdot) rfl

end Identifier

theorem Target.isPart_of_mem_fileExtension {target : Target} :
    ∀ c ∈ target.fileExtension.toList, Identifier.isPart c = true := by
  rw [← List.all_eq_true]
  cases target <;> decide +kernel

theorem Target.fileExtension_injective : Function.Injective fileExtension := by
  intro target other h
  cases target <;> cases other <;> first | rfl | exact absurd h (by decide)

namespace Settings

/-- The directories that a package stands for, one below the other. The empty package stands for
none. -/
def packageSegments (s : Settings) : List Text :=
  if s.package.toList = [] then [] else Identifier.dotSegments s.package.toList

def fileName (s : Settings) : Text := s.container.toList ++ '.' :: s.target.fileExtension.toList

/-- The way from an output directory to the generated file. -/
def wayDown (s : Settings) : List Text := s.packageSegments ++ [s.fileName]

/-- What decides on the place of a generated file. -/
def SamePlace (s t : Settings) : Prop :=
  s.package = t.package ∧ s.container = t.container ∧ s.target = t.target

variable {s t : Settings}

theorem isIdentifier_of_mem_packageSegments (h : isPackage s.package.toList = true) :
    ∀ n ∈ s.packageSegments, Identifier.isIdentifier n = true := by
  rw [isPackage, Bool.or_eq_true, List.isEmpty_iff] at h
  rw [packageSegments]
  split_ifs with hnil
  · simp
  · exact List.all_eq_true.1 (h.resolve_left hnil)

theorem isName_fileName (h : Identifier.isIdentifier s.container.toList = true) :
    Path.IsName s.fileName := by
  obtain ⟨c, hc, hpart⟩ := Identifier.exists_head?_isPart h
  apply Identifier.isName_of_inName
  · exact ⟨c, by rw [fileName, List.head?_append, hc, Option.some_or], hpart⟩
  · rw [fileName, List.forall_mem_append, List.forall_mem_cons]
    refine ⟨fun c hc => .inl (Identifier.forall_isPart h c hc), .inr rfl, fun c hc => ?_⟩
    exact .inl (Target.isPart_of_mem_fileExtension c hc)

theorem isName_of_mem_wayDown (hcontainer : Identifier.isIdentifier s.container.toList = true)
    (hpackage : isPackage s.package.toList = true) : ∀ n ∈ s.wayDown, Path.IsName n := by
  rw [wayDown, List.forall_mem_append, List.forall_mem_singleton]
  refine ⟨fun n hn => ?_, isName_fileName hcontainer⟩
  exact Identifier.isName_of_isIdentifier (isIdentifier_of_mem_packageSegments hpackage n hn)

theorem intercalate_packageSegments (s : Settings) :
    ['.'].intercalate s.packageSegments = s.package.toList := by
  rw [packageSegments]
  split_ifs with hnil
  · exact hnil.symm
  · exact Text.intercalate_segments '.' s.package.toList

theorem samePlace_of_wayDown_eq (hs : Identifier.isIdentifier s.container.toList = true)
    (ht : Identifier.isIdentifier t.container.toList = true) (h : s.wayDown = t.wayDown) :
    s.SamePlace t := by
  obtain ⟨hsegments, hfile⟩ := List.append_inj' h rfl
  have hpackage : s.package.toList = t.package.toList := by
    rw [← intercalate_packageSegments, hsegments, intercalate_packageSegments]
  -- The name of a container has no dot, so the extension stands behind the first one.
  have hsplit := congrArg (Text.splitFirst? (· == '.')) (List.head_eq_of_cons_eq hfile)
  rw [fileName, fileName, Text.splitFirst?_append (Identifier.dot_not_mem hs),
    Text.splitFirst?_append (Identifier.dot_not_mem ht)] at hsplit
  simp only [Option.some_inj, Prod.mk.injEq, String.toList_inj] at hsplit
  exact ⟨String.toList_inj.1 hpackage, hsplit.1, Target.fileExtension_injective hsplit.2⟩

end Settings

/-! ### Generated files -/

/-- The path `q` goes down from `p` through the names, as a text, by its components and on a
disk. -/
structure Path.GoesDown (p q : Path) (names : List Text) : Prop where
  text_eq : q.text.toList = p.opened ++ ['/'].intercalate names
  components_eq : q.components = p.components ++ names
  key_eq : q.key = p.key ++ names
  place_eq : Disk.place q = Disk.place p ++ names

theorem Path.goesDown_join {p : Path} {names : List Text} {s : Text}
    (h : ∀ n ∈ names ++ [s], IsName n) :
    p.GoesDown ((p.join (joinAll names)).join ⟨String.ofList s⟩) (names ++ [s]) := by
  have hne : names ++ [s] ≠ [] := List.append_ne_nil_of_right_ne_nil names (List.cons_ne_nil s [])
  have htext := text_join_names p h
  exact ⟨htext, Path.components_eq h hne htext, Path.key_eq h hne htext, Disk.place_eq h hne htext⟩

namespace Container

/-- A container that takes its package and its name from sound settings. -/
structure Under (s : Settings) (c : Container) : Prop where
  package_eq : c.package = s.package
  name_eq : c.name = s.container
  isPackage : LiteralPack.isPackage s.package.toList = true
  isIdentifier : Identifier.isIdentifier s.container.toList = true

variable {s t : Settings} {c b : Container}

/-- Only the empty package has an empty segment. -/
theorem Under.packagePath_eq (h : c.Under s) : c.packagePath = Path.joinAll s.packageSegments := by
  have hnames := Settings.isIdentifier_of_mem_packageSegments h.isPackage
  rw [packagePath, h.package_eq]
  rw [Settings.packageSegments] at hnames ⊢
  split_ifs at hnames ⊢ with hnil
  · rw [hnil]
    rfl
  · rw [List.filter_eq_self.2]
    intro n hn
    simpa using Identifier.ne_nil_of_isIdentifier (hnames n hn)

theorem Under.fileName_eq (h : c.Under s) : c.fileName s.target = String.ofList s.fileName := by
  rw [fileName, h.name_eq, ← String.toList_inj]
  simp [Settings.fileName]

theorem Under.isName (h : c.Under s) : ∀ n ∈ s.wayDown, Path.IsName n :=
  Settings.isName_of_mem_wayDown h.isIdentifier h.isPackage

theorem Under.goesDown (h : c.Under s) (output : Path) :
    output.GoesDown (c.path s.target output) s.wayDown := by
  rw [path, h.packagePath_eq, h.fileName_eq]
  exact Path.goesDown_join h.isName

theorem Under.path_eq (hc : c.Under s) (hb : b.Under t) (h : t.SamePlace s) (output : Path) :
    b.path t.target output = c.path s.target output := by
  obtain ⟨hpackage, hcontainer, htarget⟩ := h
  rw [path, path, packagePath, packagePath, fileName, fileName, hb.package_eq, hb.name_eq,
    hc.package_eq, hc.name_eq, hpackage, hcontainer, htarget]

theorem Under.samePlace_tfae (hc : c.Under s) (hb : b.Under t) (output : Path) :
    List.TFAE [
      b.path t.target output = c.path s.target output,
      (b.path t.target output).key = (c.path s.target output).key,
      Disk.place (b.path t.target output) = Disk.place (c.path s.target output),
      t.SamePlace s] := by
  have hway : t.wayDown = s.wayDown → t.SamePlace s :=
    Settings.samePlace_of_wayDown_eq hb.isIdentifier hc.isIdentifier
  tfae_have 1 → 2 := congrArg Path.key
  tfae_have 1 → 3 := congrArg Disk.place
  tfae_have 2 → 4 := by
    rw [(hb.goesDown output).key_eq, (hc.goesDown output).key_eq]
    exact fun hkey => hway (List.append_cancel_left hkey)
  tfae_have 3 → 4 := by
    rw [(hb.goesDown output).place_eq, (hc.goesDown output).place_eq]
    exact fun hplace => hway (List.append_cancel_left hplace)
  tfae_have 4 → 1 := fun hsame => hc.path_eq hb hsame output
  tfae_finish

end Container

namespace Manifest

theorem generate_under {m : Manifest} {overrides : Overrides} {settings : Settings}
    (h : m.settings overrides = .ok settings) (verify : Bool) (load : Loader) :
    (m.generate settings verify load).container.Under settings := by
  obtain ⟨hcontainer, hpackage, -⟩ := names_of_settings h
  exact ⟨rfl, rfl, hpackage, hcontainer⟩

/-- The generated file lies below the output directory, as deep as the package has segments and one
more. What leads down to it are names, whatever the output directory may be. The paths of two runs
into one directory are the same, as texts, by their components or on a disk, only if the runs agree
on package, container and target. -/
theorem path_generate (m : Manifest) (overrides : Overrides) {settings : Settings}
    (h : m.settings overrides = .ok settings) (verify : Bool) (load : Loader) (output : Path) :
    let path := (m.generate settings verify load).container.path settings.target output
    (∀ n ∈ settings.wayDown, Path.IsName n) ∧
      output.GoesDown path settings.wayDown ∧
      path.components.length = output.components.length + (settings.packageSegments.length + 1) ∧
      (∀ (d : Disk) l, d.locate path = .ok l → l = Disk.place output ++ settings.wayDown) ∧
      ∀ (other : Manifest) (given : Overrides) (settings' : Settings) (verify' : Bool)
        (load' : Loader), other.settings given = .ok settings' →
        let path' := (other.generate settings' verify' load').container.path settings'.target output
        List.TFAE [path' = path, path'.key = path.key, Disk.place path' = Disk.place path,
          settings'.SamePlace settings] := by
  have hunder := generate_under h verify load
  have hdown := hunder.goesDown output
  refine ⟨hunder.isName, hdown, ?depth, ?located, ?unambiguous⟩
  case depth => simp [hdown.components_eq, Settings.wayDown]
  case located =>
    intro d l hl
    rw [← hdown.place_eq, Disk.place_of_locate hl]
  case unambiguous =>
    intro other given settings' verify' load' h'
    exact hunder.samePlace_tfae (generate_under h' verify' load') output

/-- A package with blanks around it, and letters of more than one script. -/
def placards : Manifest where
  version := 1
  target := .kotlin
  package := " demo.été.Πλάνο "
  container := "Placards"
  entries := [⟨"demo.Placard", "fun text(): String", ⟨"placard.txt"⟩⟩]

def placardSettings : Settings where
  target := .kotlin
  package := "demo.été.Πλάνο"
  container := "Placards"
  partPrefix := placards.partPrefix
  limits := Limits.classFile

def placardFiles : Loader := fun _ => .ok ['a']

theorem path_generate_placards :
    placards.settings {} = .ok placardSettings ∧
      placards.settings { target := some .java } = .ok { placardSettings with target := .java } ∧
      let output : Path := ⟨"build/../out/"⟩
      let path :=
        (placards.generate placardSettings true placardFiles).container.path .kotlin output
      path = ⟨"build/../out/demo/été/Πλάνο/Placards.kt"⟩ ∧
        (∀ n ∈ placardSettings.wayDown, Path.IsName n) ∧
        output.GoesDown path placardSettings.wayDown ∧
        path.components.length = 3 + (3 + 1) ∧
        (∀ (d : Disk) l, d.locate path = .ok l →
          l = Disk.place output ++ placardSettings.wayDown) ∧
        let settings' := { placardSettings with target := .java }
        let path' := (placards.generate settings' false placardFiles).container.path .java output
        List.TFAE [path' = path, path'.key = path.key, Disk.place path' = Disk.place path,
          settings'.SamePlace placardSettings] := by
  have hsettings : placards.settings {} = .ok placardSettings := by decide +kernel
  have hjava : placards.settings { target := some .java } =
      .ok { placardSettings with target := .java } := by decide +kernel
  obtain ⟨hnames, hdown, hdepth, hlocated, hothers⟩ :=
    path_generate placards {} hsettings true placardFiles ⟨"build/../out/"⟩
  exact ⟨hsettings, hjava, by decide +kernel, hnames, hdown, hdepth, hlocated,
    hothers placards _ _ false placardFiles hjava⟩

end Manifest

end LiteralPack
