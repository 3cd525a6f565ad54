import LiteralPack.Literal.Decode
import LiteralPack.Literal.Escape
import LiteralPack.Proofs.Splitting

/-!
A reader of generated source. It goes by lines: a line that declares something is known by its
first words and its end, and any other line says nothing. What the lines say is put together from
the last line to the first, and in the outline that results the public accessor of a type can be
evaluated.
-/

namespace LiteralPack.Source

/-- What an accessor returns: a literal, or what other accessors return, joined. -/
inductive Expression
  | literal (body : Text)
  | calls (names : List Text)
  deriving DecidableEq, Repr

structure Method where
  isPublic : Bool
  name : Text
  returns : Expression
  deriving DecidableEq, Repr

structure TypeOutline where
  name : Text
  interface : Text
  methods : List Method
  deriving DecidableEq, Repr

structure Outline where
  package : Text
  container : Text
  types : List TypeOutline
  deriving DecidableEq, Repr

/-! ### Evaluation -/

namespace TypeOutline

/-- What the private accessor of a name returns, if there is exactly one. -/
def constant? (t : TypeOutline) (name : Text) : Option Text :=
  match t.methods.filter fun m => !m.isPublic && m.name == name with
  | [⟨_, _, .literal body⟩] => (Literal.decode body).toOption
  | _ => none

def value? (t : TypeOutline) : Expression → Option Text
  | .literal body => (Literal.decode body).toOption
  | .calls names => (names.mapM t.constant?).map List.flatten

/-- What the public accessor returns, if there is exactly one. -/
def evaluate? (t : TypeOutline) : Option Text :=
  match t.methods.filter (·.isPublic) with
  | [m] => t.value? m.returns
  | _ => none

end TypeOutline

/-! ### What one line says -/

inductive Sign
  | package (name : Text)
  | container (name : Text)
  | type (name interface : Text)
  | method (isPublic : Bool) (name : Text)
  | returns (e : Expression)
  deriving DecidableEq, Repr

/-- What stands between the first words of a line and its end. -/
def between? (front back : String) (t : Text) : Option Text :=
  (List.isPrefixOf? front.toList t).bind (List.isSuffixOf? back.toList)

/-- The literal between the first quote and the last, if nothing stands beside it. -/
def literal? (t : Text) : Option Text :=
  match Text.splitFirst? (· == Literal.quote) t with
  | some ([], rest) =>
    match Text.splitLast? (· == Literal.quote) rest with
    | some (body, []) => some body
    | _ => none
  | _ => none

/-- The names that are called, where the calls are joined by plus signs. -/
def calls? : List Text → Option (List Text)
  | [call] => (between? "" "()" call).map fun name => [name]
  | call :: ['+'] :: rest =>
    (between? "" "()" call).bind fun name => (calls? rest).map (name :: ·)
  | _ => none

def expression? (t : Text) : Option Expression :=
  match literal? t with
  | some body => some (.literal body)
  | none => (calls? (Text.words t)).map .calls

/-- A kind of line: how it begins, how it ends, and what it says with what is between. -/
structure Rule where
  front : String
  back : String
  signs? : Text → Option (List Sign)

def Rule.matched? (r : Rule) (t : Text) : Option (List Sign) :=
  (between? r.front r.back t).bind r.signs?

/-- The name of a type and, behind a keyword, its interface. -/
def type? (keyword : String) (t : Text) : Option (List Sign) :=
  match Text.words t with
  | [name, k, interface] => if k = keyword.toList then some [.type name interface] else none
  | _ => none

namespace Java

def method? (isPublic : Bool) (t : Text) : Option (List Sign) :=
  match Text.words t with
  | [type, name] => if type = "String".toList then some [.method isPublic name] else none
  | _ => none

def return? (t : Text) : Option (List Sign) := (expression? t).map fun e => [.returns e]

def rules : List Rule :=
  [⟨"package ", ";", fun name => some [.package name]⟩,
   ⟨"public final class ", " \x7b", fun name => some [.container name]⟩,
   ⟨"public static final class ", " \x7b", type? "implements"⟩,
   ⟨"private ", "() \x7b", method? false⟩,
   ⟨"public ", "() \x7b", method? true⟩,
   ⟨"return ", ";", return?⟩]

end Java

namespace Kotlin

/-- A function with its body behind an equals sign. -/
def function? (isPublic : Bool) (t : Text) : Option (List Sign) :=
  (Text.splitFirst? (· == '(') t).bind fun (name, rest) =>
    (between? "): String = " "" rest).bind fun body =>
      (expression? body).map fun e => [.method isPublic name, .returns e]

def rules : List Rule :=
  [⟨"package ", "", fun name => some [.package name]⟩,
   ⟨"object ", " \x7b", fun name => some [.container name]⟩,
   ⟨"class ", " \x7b", type? ":"⟩,
   ⟨"private fun ", "", function? false⟩,
   ⟨"override fun ", "", function? true⟩]

end Kotlin

def rules : Target → List Rule
  | .java => Java.rules
  | .kotlin => Kotlin.rules

/-- A line says what the first rule that applies to it finds, and nothing if none does. -/
def signs (target : Target) (line : Text) : List Sign :=
  ((rules target).findSome? (·.matched? (Text.trimLeft line))).getD []

/-! ### From lines to an outline -/

/-- What is known of a file from the lines below some line. -/
structure Draft where
  package : Option Text := none
  container : Option Text := none
  types : List TypeOutline := []
  methods : List Method := []
  returned : Option Expression := none
  deriving DecidableEq, Repr

/-- Takes in what the line above says. A body stands below its accessor, accessors below their
type, types below their container, and the container below its package. -/
def Draft.put : Sign → Draft → Option Draft
  | .returns e, ⟨none, none, types, methods, none⟩ => some ⟨none, none, types, methods, some e⟩
  | .method isPublic name, ⟨none, none, types, methods, some e⟩ =>
    some ⟨none, none, types, ⟨isPublic, name, e⟩ :: methods, none⟩
  | .type name interface, ⟨none, none, types, methods, none⟩ =>
    some ⟨none, none, ⟨name, interface, methods⟩ :: types, [], none⟩
  | .container name, ⟨none, none, types, [], none⟩ => some ⟨none, some name, types, [], none⟩
  | .package name, ⟨none, some container, types, [], none⟩ =>
    some ⟨some name, some container, types, [], none⟩
  | _, _ => none

/-- A file without a package line belongs to the package without a name. -/
def Draft.outline? : Draft → Option Outline
  | ⟨package, some container, types, [], none⟩ => some ⟨package.getD [], container, types⟩
  | _ => none

/-- Goes from the last line to the first, so what belongs to a line has been collected when the
line is reached. -/
def draft? : List Sign → Option Draft
  | [] => some {}
  | sign :: rest => (draft? rest).bind (Draft.put sign)

/-- Reads the text of a generated file. -/
def read (target : Target) (source : Text) : Option Outline :=
  (draft? ((Text.segments (· == '\n') source).flatMap (signs target))).bind Draft.outline?

variable {t name : Text} {target : Target}

theorem between?_eq (front back : String) (t : Text) :
    between? front back (front.toList ++ (t ++ back.toList)) = some t := by
  rw [between?, List.isPrefixOf?_eq_some_iff_append_eq.2 rfl, Option.bind_some,
    List.isSuffixOf?_eq_some_iff_append_eq.2 rfl]

/-! ### Names and expressions -/

/-- A name that neither layout nor a literal nor a parameter list can be part of. -/
structure Bare (name : Text) : Prop where
  ne_nil : name ≠ []
  not_blank : ∀ c ∈ name, Unicode.isBlank c = false
  not_quote : Literal.quote ∉ name
  not_paren : '(' ∉ name

theorem Bare.words_eq (h : Bare name) : Text.words name = [name] :=
  Text.words_eq_singleton h.ne_nil h.not_blank

theorem literal?_quoted (body : Text) :
    literal? (Literal.quote :: (body ++ [Literal.quote])) = some body := by
  have hfirst : Text.splitFirst? (· == Literal.quote) (Literal.quote :: (body ++ [Literal.quote])) =
      some ([], body ++ [Literal.quote]) :=
    Text.splitFirst?_append List.not_mem_nil (body ++ [Literal.quote])
  have hlast : Text.splitLast? (· == Literal.quote) (body ++ [Literal.quote]) = some (body, []) :=
    Text.splitLast?_append body List.not_mem_nil
  simp only [literal?, hfirst, hlast]

theorem literal?_eq_none (h : Literal.quote ∉ t) : literal? t = none := by
  simp only [literal?, Text.splitFirst?_eq_none h]

theorem expression?_quoted (body : Text) :
    expression? (Literal.quote :: (body ++ [Literal.quote])) = some (.literal body) := by
  rw [expression?, literal?_quoted]

/-- Calls as they are joined. -/
def joined (names : List Text) : Text :=
  List.intercalate " + ".toList (names.map (· ++ "()".toList))

theorem joined_cons_cons (name next : Text) (names : List Text) :
    joined (name :: next :: names) =
      (name ++ "()".toList) ++ ' ' :: (['+'] ++ ' ' :: joined (next :: names)) := by
  simp only [joined, List.map_cons, List.intercalate_cons_cons, List.append_assoc]
  rfl

theorem call_words (h : Bare name) : Text.words (name ++ "()".toList) = [name ++ "()".toList] := by
  apply Text.words_eq_singleton
  · simp
  · intro c hc
    rw [List.mem_append] at hc
    rcases hc with hc | hc
    · exact h.not_blank c hc
    · have hparen : c = '(' ∨ c = ')' := by simpa using hc
      rcases hparen with rfl | rfl <;> rfl

theorem between?_call (name : Text) : between? "" "()" (name ++ "()".toList) = some name :=
  between?_eq "" "()" name

theorem calls?_joined {names : List Text} (hne : names ≠ []) (h : ∀ name ∈ names, Bare name) :
    calls? (Text.words (joined names)) = some names := by
  induction names with
  | nil => exact absurd rfl hne
  | cons name names ih =>
      obtain ⟨hname, hnames⟩ := List.forall_mem_cons.1 h
      cases names with
      | nil =>
          rw [joined, List.map_singleton, List.intercalate_singleton, call_words hname, calls?,
            between?_call]
          rfl
      | cons next names =>
          -- The call and the plus sign behind it are two words; the rest is shorter by one name.
          have hwords : Text.words (joined (name :: next :: names)) =
              (name ++ "()".toList) :: ['+'] :: Text.words (joined (next :: names)) := by
            rw [joined_cons_cons, Text.words_append_cons (by rfl), Text.words_append_cons (by rfl),
              call_words hname, Text.words_eq_singleton (by simp) (by simp; decide)]
            rfl
          rw [hwords, calls?, between?_call, ih (by simp) hnames]
          rfl

/-- Whatever holds of the characters of names and of calls holds throughout the joined calls. -/
theorem forall_mem_joined (p : Char → Prop) {names : List Text} (hfixed : ∀ c ∈ " +()".toList, p c)
    (h : ∀ name ∈ names, ∀ c ∈ name, p c) : ∀ c ∈ joined names, p c := by
  have hcall : ∀ name ∈ names, ∀ c ∈ name ++ "()".toList, p c := by
    intro name hname
    have hparens : ∀ c ∈ "()".toList, c ∈ " +()".toList := by simp
    rw [List.forall_mem_append]
    exact ⟨h name hname, fun c hc => hfixed c (hparens c hc)⟩
  induction names with
  | nil => exact fun c hc => absurd hc List.not_mem_nil
  | cons name names ih =>
      obtain ⟨hname, hnames⟩ := List.forall_mem_cons.1 hcall
      cases names with
      | nil => simpa [joined] using hname
      | cons next names =>
          have hrest := ih (fun n hn => h n (List.mem_cons_of_mem name hn)) hnames
          have hblank := hfixed ' ' (by decide)
          have hplus := hfixed '+' (by decide)
          rw [joined_cons_cons, List.forall_mem_append]
          refine ⟨hname, ?_⟩
          simp only [List.forall_mem_append, List.forall_mem_cons]
          exact ⟨hblank, ⟨hplus, by simp⟩, hblank, hrest⟩

theorem expression?_joined {names : List Text} (hne : names ≠ []) (h : ∀ name ∈ names, Bare name) :
    expression? (joined names) = some (.calls names) := by
  have hquote : Literal.quote ∉ joined names := fun hmem =>
    forall_mem_joined (· ≠ Literal.quote) (by simp [Literal.quote])
      (fun name hname c hc hcq => (h name hname).not_quote (hcq ▸ hc)) _ hmem rfl
  rw [expression?, literal?_eq_none hquote, calls?_joined hne h]
  rfl

/-! ### Lines -/

theorem Rule.matched?_eq (rule : Rule) (t : Text) :
    rule.matched? (rule.front.toList ++ (t ++ rule.back.toList)) = rule.signs? t := by
  rw [matched?, between?_eq, Option.bind_some]

/-- A line falls under the first rule that applies to it. -/
theorem signs_eq (k : Nat) {rule : Rule} {found : List Sign}
    (hrule : (rules target)[k]? = some rule) (htrim : Text.trimLeft t = t)
    (hearlier : ((rules target).take k).findSome? (·.matched? t) = none)
    (happly : rule.matched? t = some found) : signs target t = found := by
  obtain ⟨hk, rfl⟩ := List.getElem?_eq_some_iff.1 hrule
  have hfind : (rules target).findSome? (·.matched? t) = some found := by
    rw [← List.take_append_drop k (rules target), List.findSome?_append, hearlier,
      List.drop_eq_getElem_cons hk, List.findSome?_cons, happly]
    rfl
  rw [signs, htrim, hfind]
  rfl

theorem signs_eq_nil (htrim : Text.trimLeft t = t)
    (h : ∀ rule ∈ rules target, rule.matched? t = none) : signs target t = [] := by
  rw [signs, htrim, List.findSome?_eq_none_iff.2 h]
  rfl

theorem type?_eq {keyword : String} (hkeyword : Text.words keyword.toList = [keyword.toList])
    {interface : Text} (hname : Bare name) (hinterface : Bare interface) :
    type? keyword (name ++ ' ' :: (keyword.toList ++ ' ' :: interface)) =
      some [.type name interface] := by
  have hwords : Text.words (name ++ ' ' :: (keyword.toList ++ ' ' :: interface)) =
      [name, keyword.toList, interface] := by
    rw [Text.words_append_cons (by rfl), Text.words_append_cons (by rfl), hname.words_eq, hkeyword,
      hinterface.words_eq]
    rfl
  rw [type?, hwords]
  exact if_pos rfl

theorem Java.method?_eq (isPublic : Bool) (h : Bare name) :
    method? isPublic ("String ".toList ++ name) = some [.method isPublic name] := by
  have hwords : Text.words ("String ".toList ++ name) = ["String".toList, name] := by
    have hsplit : "String ".toList ++ name = "String".toList ++ ' ' :: name := rfl
    rw [hsplit, Text.words_append_cons (by rfl), h.words_eq]
    rfl
  rw [method?, hwords]
  exact if_pos rfl

theorem Java.return?_eq {e : Expression} (h : expression? t = some e) :
    return? t = some [.returns e] := by
  rw [return?, h]
  rfl

theorem Kotlin.function?_eq (isPublic : Bool) {body : Text} {e : Expression} (h : '(' ∉ name)
    (hbody : expression? body = some e) :
    function? isPublic (name ++ ("(): String = ".toList ++ body)) =
      some [.method isPublic name, .returns e] := by
  have hsplit : Text.splitFirst? (· == '(') (name ++ ("(): String = ".toList ++ body)) =
      some (name, "): String = ".toList ++ body) :=
    Text.splitFirst?_append h ("): String = ".toList ++ body)
  have hbetween : between? "): String = " "" ("): String = ".toList ++ body) = some body := by
    simpa using between?_eq "): String = " "" body
  simp only [function?, hsplit, Option.bind_some, hbetween, hbody, Option.map_some]

/-! ### Outlines from signs -/

def Method.signs (m : Method) : List Sign := [.method m.isPublic m.name, .returns m.returns]

def TypeOutline.signs (t : TypeOutline) : List Sign :=
  .type t.name t.interface :: t.methods.flatMap Method.signs

def packageSigns (name : Text) : List Sign := if name = [] then [] else [.package name]

def Outline.signs (o : Outline) : List Sign :=
  packageSigns o.package ++ .container o.container :: o.types.flatMap TypeOutline.signs

theorem draft?_methods {rest : List Sign} {types : List TypeOutline}
    (h : draft? rest = some { types }) (methods : List Method) :
    draft? (methods.flatMap Method.signs ++ rest) = some { types, methods } := by
  induction methods with
  | nil => exact h
  | cons m methods ih =>
      rw [List.flatMap_cons, List.append_assoc, Method.signs, List.cons_append, List.cons_append,
        draft?, draft?, List.nil_append, ih]
      rfl

theorem draft?_types (types : List TypeOutline) :
    draft? (types.flatMap TypeOutline.signs) = some { types } := by
  induction types with
  | nil => rfl
  | cons t types ih =>
      rw [List.flatMap_cons, TypeOutline.signs, List.cons_append, draft?, draft?_methods ih]
      rfl

theorem draft?_signs (o : Outline) : (draft? o.signs).bind Draft.outline? = some o := by
  obtain ⟨package, container, types⟩ := o
  -- The package without a name has no line.
  by_cases hpackage : package = []
  · rw [Outline.signs, packageSigns, if_pos hpackage, List.nil_append, draft?, draft?_types,
      hpackage]
    rfl
  · rw [Outline.signs, packageSigns, if_neg hpackage, List.singleton_append, draft?, draft?,
      draft?_types]
    rfl

end LiteralPack.Source
