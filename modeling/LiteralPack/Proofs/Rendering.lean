import LiteralPack.Container.Render
import LiteralPack.Proofs.SourceReading

/-!
Rendered containers are read back. Each line that a renderer writes is traced to the rule that
reads it, and what the lines of a container say is its outline, provided that nothing in a name or
in a literal can be taken for layout.
-/

namespace LiteralPack

open Source

/-! ### What a container declares -/

def Part.method (p : Part) : Method := ⟨false, p.name.toList, .literal p.literal.body⟩

namespace Accessors

def methods : Accessors → List Method
  | direct name literal => [⟨true, name.toList, .literal literal.body⟩]
  | chunked name parts =>
    parts.map Part.method ++ [⟨true, name.toList, .calls (parts.map (·.name.toList))⟩]

/-- Names are bare, bodies keep to their line, and a public accessor returns something. -/
structure Plain (set : Accessors) : Prop where
  name : Bare set.name.toList
  assembly : ∀ name ∈ set.assembly, Bare name.toList
  bodies : ∀ l ∈ set.literals, '\n' ∉ l.body
  literals_ne_nil : set.literals ≠ []

theorem Plain.parts_ne_nil {name : String} {parts : List Part} (h : (chunked name parts).Plain) :
    parts ≠ [] := fun hnil => h.literals_ne_nil (by rw [hnil]; rfl)

theorem Plain.part {name : String} {parts : List Part} (h : (chunked name parts).Plain) {p : Part}
    (hp : p ∈ parts) : Bare p.name.toList ∧ '\n' ∉ p.literal.body :=
  ⟨h.assembly p.name (List.mem_map_of_mem hp), h.bodies p.literal (List.mem_map_of_mem hp)⟩

end Accessors

namespace EmbeddedType

def outline (t : EmbeddedType) : TypeOutline where
  name := t.declaration.typeName.toList
  interface := t.declaration.interface.toList
  methods := t.accessors.methods

structure Plain (t : EmbeddedType) : Prop where
  typeName : Bare t.declaration.typeName.toList
  interface : Bare t.declaration.interface.toList
  accessors : t.accessors.Plain

end EmbeddedType

namespace Container

def outline (c : Container) : Outline where
  package := c.package.toList
  container := c.name.toList
  types := c.types.map EmbeddedType.outline

structure Plain (c : Container) : Prop where
  package : c.package = "" ∨ Bare c.package.toList
  name : Bare c.name.toList
  types : ∀ t ∈ c.types, t.Plain

end Container

/-! ### Reading lines -/

namespace Source

variable {target : Target} {lines others : List Text} {found more : List Sign}

/-- Lines that are lines indeed, and what they say. -/
structure Reads (target : Target) (lines : List Text) (found : List Sign) : Prop where
  single : ∀ l ∈ lines, '\n' ∉ l
  signs_eq : lines.flatMap (signs target) = found

theorem Bare.newline_not_mem {name : Text} (h : Bare name) : '\n' ∉ name := by
  intro hmem
  have hblank := h.not_blank '\n' hmem
  revert hblank
  decide

theorem newline_not_mem_quoted {body : Text} (h : '\n' ∉ body) :
    '\n' ∉ Literal.quote :: (body ++ [Literal.quote]) := by
  simp [h, Literal.quote]

theorem newline_not_mem_joined {names : List Text} (h : ∀ name ∈ names, Bare name) :
    '\n' ∉ joined names := fun hmem =>
  forall_mem_joined (· ≠ '\n') (by simp)
    (fun name hname c hc hcn => (h name hname).newline_not_mem (hcn ▸ hc)) _ hmem rfl

theorem newline_not_mem_rules (target : Target) :
    ∀ rule ∈ rules target, '\n' ∉ rule.front.toList ∧ '\n' ∉ rule.back.toList := by
  cases target <;> simp [rules, Java.rules, Kotlin.rules]

namespace Reads

theorem nil : Reads target [] [] := ⟨by simp, rfl⟩

theorem append (h : Reads target lines found) (h' : Reads target others more) :
    Reads target (lines ++ others) (found ++ more) := by
  refine ⟨fun l hl => ?_, ?_⟩
  · rw [List.mem_append] at hl
    exact hl.elim (h.single l) (h'.single l)
  · rw [List.flatMap_append, h.signs_eq, h'.signs_eq]

theorem flatMap {α : Type} {f : α → List Text} {g : α → List Sign} {items : List α}
    (h : ∀ x ∈ items, Reads target (f x) (g x)) :
    Reads target (items.flatMap f) (items.flatMap g) := by
  induction items with
  | nil => exact nil
  | cons x items ih =>
      obtain ⟨hx, hitems⟩ := List.forall_mem_cons.1 h
      exact hx.append (ih hitems)

theorem line {t : Text} (depth : Nat) (hline : '\n' ∉ t) (hsigns : signs target t = found) :
    Reads target [Container.line depth t] found := by
  refine ⟨?_, ?_⟩
  · simpa [Container.line] using hline
  · have htrim : Text.trimLeft (Container.line depth t) = Text.trimLeft t :=
      List.dropWhile_append_of_pos fun c hc => by
        rw [List.eq_of_mem_replicate hc]
        rfl
    rw [List.flatMap_singleton, ← hsigns, signs, signs, htrim]

/-- A line that some rule is the first to apply to. -/
theorem rule {rule : Rule} {t middle : Text} (depth k : Nat)
    (hrule : (rules target)[k]? = some rule)
    (ht : t = rule.front.toList ++ (middle ++ rule.back.toList))
    (htrim : Text.trimLeft t = t)
    (hearlier : ((rules target).take k).findSome? (·.matched? t) = none)
    (hmiddle : '\n' ∉ middle) (hsigns : rule.signs? middle = some found) :
    Reads target [Container.line depth t] found := by
  obtain ⟨hfront, hback⟩ := newline_not_mem_rules target rule (List.mem_of_getElem? hrule)
  have hline : '\n' ∉ t := by
    rw [ht]
    simp only [List.mem_append, not_or]
    exact ⟨hfront, hmiddle, hback⟩
  refine line depth hline (Source.signs_eq k hrule htrim hearlier ?_)
  rw [ht, rule.matched?_eq, hsigns]

end Reads

end Source

namespace Container

theorem named_around (depth : Nat) (before s behind : String) :
    named depth (toString before ++ toString s ++ toString behind) =
      line depth (before.toList ++ (s.toList ++ behind.toList)) := by
  simp only [named, String.toList_append, List.append_assoc]
  rfl

theorem named_behind (depth : Nat) (before s : String) :
    named depth (toString before ++ toString s) =
      line depth (before.toList ++ (s.toList ++ [])) := by
  simp only [named, String.toList_append, List.append_nil]
  rfl

theorem named_between (depth : Nat) (before first between second behind : String) :
    named depth (toString before ++ toString first ++ toString between ++ toString second ++
        toString behind) =
      line depth (before.toList ++
        ((first.toList ++ (between.toList ++ second.toList)) ++ behind.toList)) := by
  simp only [named, String.toList_append, List.append_assoc]
  rfl

theorem toList_calls (parts : List Part) :
    (calls parts).toList = joined (parts.map (·.name.toList)) := by
  rw [calls, String.toList_intercalate, joined, List.map_map, List.map_map]
  congr 1
  exact List.map_congr_left fun p _ => String.toList_append

theorem reads_blank (target : Target) : Reads target [blank] [] :=
  .line 0 (by simp) (by cases target <;> rfl)

theorem reads_packageLines {target : Target} {c : Container} (h : c.Plain) {l : Text}
    (hline : Bare c.package.toList → Reads target [l] [.package c.package.toList]) :
    Reads target (if c.package.isEmpty then [] else [l, blank])
      (packageSigns c.package.toList) := by
  by_cases hempty : c.package = ""
  · simpa [packageSigns, hempty] using Reads.nil
  · have hname := h.package.resolve_left hempty
    have hlines := (hline hname).append (reads_blank target)
    simpa [packageSigns, hempty] using hlines

namespace Java

variable {name interface : String} {parts : List Part}

theorem reads_silent : ∀ s ∈ [header, "\x7d", "@Override"], ∀ depth,
    Reads .java [named depth s] [] := by
  simp only [List.forall_mem_cons]
  refine ⟨?_, ?_, ?_, by simp⟩
  all_goals exact fun depth => .line depth (by decide) (by rfl)

theorem reads_package (depth : Nat) (h : Bare name.toList) :
    Reads .java [named depth s!"package {name};"] [.package name.toList] := by
  rw [named_around]
  exact .rule depth 0 rfl rfl rfl rfl h.newline_not_mem rfl

theorem reads_container (depth : Nat) (h : Bare name.toList) :
    Reads .java [named depth s!"public final class {name} \x7b"] [.container name.toList] := by
  rw [named_around]
  exact .rule depth 1 rfl rfl rfl rfl h.newline_not_mem rfl

theorem reads_type (depth : Nat) (hname : Bare name.toList) (hinterface : Bare interface.toList) :
    Reads .java [named depth s!"public static final class {name} implements {interface} \x7b"]
      [.type name.toList interface.toList] := by
  rw [named_between]
  have hmiddle : '\n' ∉ name.toList ++ (" implements ".toList ++ interface.toList) := by
    simp [hname.newline_not_mem, hinterface.newline_not_mem]
  have hkeyword : Text.words "implements".toList = ["implements".toList] := by decide
  exact .rule depth 2 rfl rfl rfl rfl hmiddle (type?_eq hkeyword hname hinterface)

theorem reads_method (depth : Nat) (h : Bare name.toList) :
    ∀ head ∈ [("private String ", false), ("public String ", true)],
      Reads .java [named depth s!"{head.1}{name}() \x7b"] [.method head.2 name.toList] := by
  have hmiddle : '\n' ∉ "String ".toList ++ name.toList := by
    simp [h.newline_not_mem]
  -- The first word alone does not choose the rule: a class is public, and a constructor private.
  simp only [List.forall_mem_cons, named_around]
  refine ⟨?_, ?_, by simp⟩
  · exact .rule depth 3 rfl rfl rfl rfl hmiddle (Source.Java.method?_eq false h)
  · exact .rule depth 4 rfl rfl rfl rfl hmiddle (Source.Java.method?_eq true h)

theorem reads_constructor (depth : Nat) (h : Bare name.toList) :
    Reads .java [named depth s!"private {name}() \x7b"] [] := by
  rw [named_around]
  have hline : '\n' ∉ "private ".toList ++ (name.toList ++ "() \x7b".toList) := by
    simp [h.newline_not_mem]
  refine .line depth hline (signs_eq_nil rfl ?_)
  simp only [rules, Source.Java.rules, List.forall_mem_cons]
  refine ⟨rfl, rfl, rfl, ?_, rfl, rfl, by simp⟩
  -- Only the rule of private accessors gets as far as the words, and a single word has no type.
  have hmethod : Source.Java.method? false name.toList = none := by
    rw [Source.Java.method?, h.words_eq]
  exact (Rule.matched?_eq _ _).trans hmethod

theorem reads_returning (l : Literal) (h : '\n' ∉ l.body) :
    Reads .java [returning l] [.returns (.literal l.body)] := by
  have hreturn := Source.Java.return?_eq (expression?_quoted l.body)
  refine .rule 3 5 rfl ?_ rfl rfl (newline_not_mem_quoted h) hreturn
  simp

theorem reads_calls (depth : Nat) (hne : parts ≠ []) (h : ∀ p ∈ parts, Bare p.name.toList) :
    Reads .java [named depth s!"return {calls parts};"]
      [.returns (.calls (parts.map (·.name.toList)))] := by
  have hnames : ∀ name ∈ parts.map (·.name.toList), Bare name := List.forall_mem_map.2 h
  have hmiddle := newline_not_mem_joined hnames
  have hexpression := expression?_joined (by simpa using hne) hnames
  rw [named_around, toList_calls]
  exact .rule depth 5 rfl rfl rfl rfl hmiddle (Source.Java.return?_eq hexpression)

theorem reads_accessor {e : Expression} {body : Text} (hname : Bare name.toList)
    (hbody : Reads .java [body] [.returns e]) :
    Reads .java (accessor name body) (Method.signs ⟨true, name.toList, e⟩) :=
  (reads_silent _ (by simp) 2).append <| (reads_method 2 hname (_, true) (by simp)).append <|
    hbody.append (reads_silent _ (by simp) 2)

theorem reads_part {p : Part} (hname : Bare p.name.toList) (hbody : '\n' ∉ p.literal.body) :
    Reads .java (part p) p.method.signs :=
  (reads_method 2 hname (_, false) (by simp)).append <| (reads_returning p.literal hbody).append <|
    (reads_silent _ (by simp) 2).append (reads_blank .java)

theorem reads_accessors {set : Accessors} (h : set.Plain) :
    Reads .java (accessors set) (set.methods.flatMap Method.signs) := by
  cases set with
  | direct name l =>
      rw [Accessors.methods, List.flatMap_singleton]
      exact reads_accessor h.name (reads_returning l (h.bodies l (List.mem_singleton_self l)))
  | chunked name parts =>
      have hcalls := reads_calls 3 h.parts_ne_nil fun p hp => (h.part hp).1
      rw [Accessors.methods, List.flatMap_append, List.flatMap_map, List.flatMap_singleton]
      refine .append ?_ (reads_accessor h.name hcalls)
      exact .flatMap fun p hp => reads_part (h.part hp).1 (h.part hp).2

theorem reads_typeLines {t : EmbeddedType} (h : t.Plain) :
    Reads .java (typeLines t) t.outline.signs := by
  have haccessors := (reads_accessors h.accessors).append (reads_silent "\x7d" (by simp) 1)
  rw [List.append_nil] at haccessors
  exact (reads_type 1 h.typeName h.interface).append haccessors

theorem reads_lines {c : Container} (h : c.Plain) : Reads .java (lines c) c.outline.signs := by
  have hheader := (reads_silent header (by simp) 0).append (reads_blank .java)
  have hopen := (reads_container 0 h.name).append <|
    (reads_constructor 1 h.name).append (reads_silent "\x7d" (by simp) 1)
  have htypes : Reads .java (c.types.flatMap fun t => blank :: typeLines t)
      (c.types.flatMap fun t => t.outline.signs) :=
    .flatMap fun t ht => (reads_blank .java).append (reads_typeLines (h.types t ht))
  have hpackage := hheader.append (reads_packageLines h (reads_package 0))
  have hlines := ((hpackage.append hopen).append htypes).append (reads_silent "\x7d" (by simp) 0)
  simpa [lines, outline, Outline.signs, List.flatMap_map] using hlines

end Java

namespace Kotlin

variable {name interface : String} {parts : List Part}

theorem reads_silent : ∀ s ∈ [header, "\x7d"], ∀ depth, Reads .kotlin [named depth s] [] := by
  simp only [List.forall_mem_cons]
  refine ⟨?_, ?_, by simp⟩
  all_goals exact fun depth => .line depth (by decide) (by rfl)

theorem reads_package (depth : Nat) (h : Bare name.toList) :
    Reads .kotlin [named depth s!"package {name}"] [.package name.toList] := by
  rw [named_behind]
  exact .rule depth 0 rfl rfl rfl rfl h.newline_not_mem rfl

theorem reads_container (depth : Nat) (h : Bare name.toList) :
    Reads .kotlin [named depth s!"object {name} \x7b"] [.container name.toList] := by
  rw [named_around]
  exact .rule depth 1 rfl rfl rfl rfl h.newline_not_mem rfl

theorem reads_type (depth : Nat) (hname : Bare name.toList) (hinterface : Bare interface.toList) :
    Reads .kotlin [named depth s!"class {name} : {interface} \x7b"]
      [.type name.toList interface.toList] := by
  rw [named_between]
  have hmiddle : '\n' ∉ name.toList ++ (" : ".toList ++ interface.toList) := by
    simp [hname.newline_not_mem, hinterface.newline_not_mem]
  have hkeyword : Text.words ":".toList = [":".toList] := by decide
  exact .rule depth 2 rfl rfl rfl rfl hmiddle (type?_eq hkeyword hname hinterface)

theorem reads_function (depth : Nat) {body : Text} {e : Expression} (h : Bare name.toList)
    (hbody : '\n' ∉ body) (he : expression? body = some e) :
    ∀ head ∈ [("private fun ", false), ("override fun ", true)],
      Reads .kotlin
        [line depth (head.1.toList ++ (name.toList ++ ("(): String = ".toList ++ body)))]
        (Method.signs ⟨head.2, name.toList, e⟩) := by
  have hmiddle : '\n' ∉ name.toList ++ ("(): String = ".toList ++ body) := by
    simp [h.newline_not_mem, hbody]
  simp only [List.forall_mem_cons]
  refine ⟨?_, ?_, by simp⟩
  · refine .rule depth 3 rfl ?_ rfl rfl hmiddle (Source.Kotlin.function?_eq false h.not_paren he)
    simp
  · refine .rule depth 4 rfl ?_ rfl rfl hmiddle (Source.Kotlin.function?_eq true h.not_paren he)
    simp

theorem reads_quoted (depth : Nat) (h : Bare name.toList) {l : Literal} (hbody : '\n' ∉ l.body) :
    ∀ head ∈ [("private fun ", false), ("override fun ", true)],
      Reads .kotlin [quotedLine depth s!"{head.1}{name}(): String = " l ""]
        (Method.signs ⟨head.2, name.toList, .literal l.body⟩) := by
  intro head hhead
  have hline := reads_function depth h (newline_not_mem_quoted hbody) (expression?_quoted l.body)
    head hhead
  simp only [quotedLine, String.toList_append, List.append_assoc]
  exact hline

theorem reads_calls (depth : Nat) (h : Bare name.toList) (hne : parts ≠ [])
    (hparts : ∀ p ∈ parts, Bare p.name.toList) :
    Reads .kotlin [named depth s!"override fun {name}(): String = {calls parts}"]
      (Method.signs ⟨true, name.toList, .calls (parts.map (·.name.toList))⟩) := by
  have hnames : ∀ name ∈ parts.map (·.name.toList), Bare name := List.forall_mem_map.2 hparts
  have hexpression := expression?_joined (by simpa using hne) hnames
  have hline := reads_function depth h (newline_not_mem_joined hnames) hexpression
    ("override fun ", true) (by simp)
  rw [← toList_calls] at hline
  simp only [named, String.toList_append, List.append_assoc]
  exact hline

theorem reads_accessors {set : Accessors} (h : set.Plain) :
    Reads .kotlin (accessors set) (set.methods.flatMap Method.signs) := by
  cases set with
  | direct name l =>
      rw [Accessors.methods, List.flatMap_singleton]
      exact reads_quoted 2 h.name (h.bodies l (List.mem_singleton_self l)) (_, true) (by simp)
  | chunked name parts =>
      have hcalls := reads_calls 2 h.name h.parts_ne_nil fun p hp => (h.part hp).1
      rw [Accessors.methods, List.flatMap_append, List.flatMap_map, List.flatMap_singleton,
        accessors, List.map_eq_flatMap]
      refine .append ?_ ((reads_blank .kotlin).append hcalls)
      exact .flatMap fun p hp => reads_quoted 2 (h.part hp).1 (h.part hp).2 (_, false) (by simp)

theorem reads_typeLines {t : EmbeddedType} (h : t.Plain) :
    Reads .kotlin (typeLines t) t.outline.signs := by
  have haccessors := (reads_accessors h.accessors).append (reads_silent "\x7d" (by simp) 1)
  rw [List.append_nil] at haccessors
  exact (reads_type 1 h.typeName h.interface).append haccessors

theorem reads_types {types : List EmbeddedType} (h : ∀ t ∈ types, t.Plain) :
    Reads .kotlin ((types.map typeLines).intersperse [blank]).flatten
      (types.flatMap fun t => t.outline.signs) := by
  induction types with
  | nil => exact .nil
  | cons t types ih =>
      obtain ⟨ht, htypes⟩ := List.forall_mem_cons.1 h
      cases types with
      | nil => simpa using reads_typeLines ht
      | cons next types =>
          exact (reads_typeLines ht).append ((reads_blank .kotlin).append (ih htypes))

theorem reads_lines {c : Container} (h : c.Plain) : Reads .kotlin (lines c) c.outline.signs := by
  have hheader := (reads_silent header (by simp) 0).append (reads_blank .kotlin)
  have hpackage := hheader.append (reads_packageLines h (reads_package 0))
  have hopen := hpackage.append (reads_container 0 h.name)
  have hlines := (hopen.append (reads_types h.types)).append (reads_silent "\x7d" (by simp) 0)
  simpa [lines, outline, Outline.signs, List.flatMap_map] using hlines

end Kotlin

theorem reads_lines (target : Target) {c : Container} (h : c.Plain) :
    Reads target (c.lines target) c.outline.signs := by
  cases target with
  | java => exact Java.reads_lines h
  | kotlin => exact Kotlin.reads_lines h

/-- A rendered container is read back as it was, whatever its literals say. -/
theorem read_render (target : Target) {c : Container} (h : c.Plain) :
    read target (c.render target) = some c.outline := by
  obtain ⟨hsingle, hsigns⟩ := reads_lines target h
  have hsegments : Text.segments (· == '\n') (c.render target) = c.lines target ++ [[]] :=
    Text.segments_flatMap_concat hsingle
  -- The last line end leaves an empty segment behind it, which says nothing.
  have hlast := (reads_blank target).signs_eq
  rw [blank] at hlast
  rw [Source.read, hsegments, List.flatMap_append, hsigns, hlast, List.append_nil, draft?_signs]

end Container

end LiteralPack
