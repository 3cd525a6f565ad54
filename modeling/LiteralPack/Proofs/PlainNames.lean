import LiteralPack.Proofs.Categories
import LiteralPack.Proofs.Generated
import LiteralPack.Proofs.Names

/-!
Which identifiers are plain names of the two languages. The check of a name knows one class of
letters and one of digits, where the languages tell general categories apart. So whatever both of
them take passes the check, while a name that passes may hold numbers that are no digits, enclosed
letters, marks and letter numbers, or nothing but underscores.
-/

namespace LiteralPack

open Unicode

/-- The plain names of a language: the categories of what they begin with and of what they go on
with, and the names that are kept for other uses. The underscore is allowed anywhere. -/
structure Grammar where
  starts : List Category
  parts : List Category
  isReserved : Text → Bool

namespace Grammar

/-- A character of one of the categories, or the underscore. -/
def fits (ks : List Category) (c : Char) : Bool := decide (category c ∈ ks) || c == '_'

def accepts (g : Grammar) : Text → Bool
  | [] => false
  | c :: rest => fits g.starts c && rest.all (fits g.parts) && !g.isReserved (c :: rest)

def isWord (words : List String) (t : Text) : Bool := words.any fun word => word.toList == t

/-- The keywords and literals of Java. The single underscore is a keyword. -/
def javaWords : List String :=
  ["_", "abstract", "assert", "boolean", "break", "byte", "case", "catch", "char", "class", "const",
   "continue", "default", "do", "double", "else", "enum", "extends", "false", "final", "finally",
   "float", "for", "goto", "if", "implements", "import", "instanceof", "int", "interface", "long",
   "native", "new", "null", "package", "private", "protected", "public", "return", "short",
   "static", "strictfp", "super", "switch", "synchronized", "this", "throw", "throws", "transient",
   "true", "try", "void", "volatile", "while"]

/-- The characters that Java ignores inside names are left out. -/
def java : Grammar where
  starts := [.letter, .letterNumber, .currency, .connector]
  parts := [.letter, .letterNumber, .currency, .connector, .decimalDigit, .mark]
  isReserved := isWord javaWords

/-- The hard keywords of Kotlin. -/
def kotlinWords : List String :=
  ["as", "break", "class", "continue", "do", "else", "false", "for", "fun", "if", "in", "interface",
   "is", "null", "object", "package", "return", "super", "this", "throw", "true", "try",
   "typealias", "typeof", "val", "var", "when", "while"]

/-- Kotlin reserves every name that is made of underscores only. -/
def kotlin : Grammar where
  starts := [.letter]
  parts := [.letter, .decimalDigit]
  isReserved t := isWord kotlinWords t || t.all (· == '_')

variable {g : Grammar} {ks : List Category} {c : Char} {t rest : Text} {words : List String}

theorem fits_iff : fits ks c = true ↔ category c ∈ ks ∨ c = '_' := by
  rw [fits, Bool.or_eq_true, decide_eq_true_eq, beq_iff_eq]

theorem accepts_cons_iff : g.accepts (c :: rest) = true ↔
    fits g.starts c = true ∧ (∀ d ∈ rest, fits g.parts d = true) ∧
      g.isReserved (c :: rest) = false := by
  rw [accepts, Bool.and_eq_true, Bool.and_eq_true, List.all_eq_true, Bool.not_eq_true', and_assoc]

theorem isWord_iff : isWord words t = true ↔ ∃ word ∈ words, word.toList = t := by
  simp [isWord]

end Grammar

namespace Identifier

open Grammar

variable {g : Grammar} {ks ls all : List Category} {c : Char} {t : Text}

/-! ### Characters of identifiers -/

def starts : List Category := [.letter, .letterNumber, .mark, .enclosedLetter]

def parts : List Category := starts ++ [.decimalDigit, .otherNumber]

theorem fits_starts (h : isStart c = true) : fits starts c = true := by
  rw [isStart, Bool.or_eq_true, beq_iff_eq] at h
  exact fits_iff.2 (h.imp_left category_of_isAlphabetic)

theorem fits_parts (h : isPart c = true) : fits parts c = true := by
  rw [isPart, Bool.or_eq_true, Bool.or_eq_true, beq_iff_eq] at h
  rw [fits_iff]
  obtain (halphabetic | hnumeric) | hunderscore := h
  · exact .inl (List.mem_append_left _ (category_of_isAlphabetic halphabetic))
  · have hsubset : [.letterNumber, .decimalDigit, .otherNumber] ⊆ parts := by decide
    exact .inl (hsubset (category_of_isNumeric hnumeric))
  · exact .inr hunderscore

theorem isStart_of_fits (h : fits kotlin.starts c = true) : isStart c = true := by
  rw [isStart, Bool.or_eq_true, beq_iff_eq]
  refine (fits_iff.1 h).imp_left fun hcategory => ?_
  have hsubset : kotlin.starts ⊆ [.letter, .letterNumber] := by decide
  exact isAlphabetic_of_category (hsubset hcategory)

theorem isPart_of_fits (h : fits kotlin.parts c = true) : isPart c = true := by
  obtain hcategory | hunderscore := fits_iff.1 h
  · by_cases hdigit : category c = .decimalDigit
    · rw [isPart, isNumeric_of_category hdigit, Bool.or_true, Bool.true_or]
    · have hletter : category c ∈ kotlin.starts := by
        simpa [kotlin, hdigit] using hcategory
      exact isPart_of_isStart c (isStart_of_fits (fits_iff.2 (.inl hletter)))
  · exact isPart_of_isStart c (isStart_of_fits (fits_iff.2 (.inr hunderscore)))

/-- Of some categories, a character fits those that are left when it avoids the others. -/
theorem fits_iff_of_fits (hsplit : ∀ k ∈ all, k ∈ ks ↔ k ∉ ls) (hconnector : .connector ∉ ls)
    (h : fits all c = true) : fits ks c = true ↔ category c ∉ ls := by
  -- The underscore fits whatever the categories are, so its own must not be one to avoid.
  obtain hcategory | rfl := fits_iff.1 h
  · rw [← hsplit _ hcategory, fits_iff]
    refine ⟨?_, .inl⟩
    rintro (hks | rfl)
    · exact hks
    · exact (hsplit _ hcategory).2 hconnector
  · have hunderscore : category '_' = .connector := by decide +kernel
    rw [hunderscore]
    exact ⟨fun _ => hconnector, fun _ => fits_iff.2 (.inr rfl)⟩

/-! ### Reserved words -/

theorem isReserved_eq_false_iff : isReserved t = false ↔
    isWord javaWords t = false ∧ isWord kotlinWords t = false := by
  have hsubset : reserved ⊆ javaWords ++ kotlinWords := by decide +kernel
  have hjava : javaWords ⊆ reserved := by decide +kernel
  have hkotlin : kotlinWords ⊆ reserved := by decide +kernel
  have hreserved (word : String) : word ∈ reserved ↔ word ∈ javaWords ∨ word ∈ kotlinWords := by
    rw [← List.mem_append]
    exact ⟨@hsubset word, fun h => (List.mem_append.1 h).elim (@hjava word) (@hkotlin word)⟩
  have hword : isReserved t = isWord reserved t := rfl
  rw [hword, ← Bool.not_eq_true, ← Bool.not_eq_true, ← Bool.not_eq_true, ← not_or, not_iff_not,
    isWord_iff, isWord_iff, isWord_iff]
  simp only [hreserved, or_and_right, exists_or]

/-! ### Names -/

/-- No character of a text has one of the categories. -/
def Avoids (ks : List Category) (t : Text) : Prop := ∀ c ∈ t, category c ∉ ks

theorem avoids_cons_iff {rest : Text} :
    Avoids ks (c :: rest) ↔ category c ∉ ks ∧ Avoids ks rest := List.forall_mem_cons

/-- An identifier is a plain name of a language if it avoids the categories that the language does
not have, in front and everywhere, and is not reserved there. -/
theorem accepts_iff_avoids {inFront anywhere : List Category}
    (hstarts : ∀ k ∈ starts, k ∈ g.starts ↔ k ∉ inFront ++ anywhere)
    (hparts : ∀ k ∈ parts, k ∈ g.parts ↔ k ∉ anywhere)
    (hconnector : .connector ∉ inFront ++ anywhere) (h : isIdentifier t = true) :
    g.accepts t = true ↔
      Avoids anywhere t ∧ Avoids inFront (t.take 1) ∧ g.isReserved t = false := by
  cases t with
  | nil => cases h
  | cons c rest =>
      simp only [isIdentifier, Bool.and_eq_true, List.all_eq_true] at h
      obtain ⟨⟨hstart, hrest⟩, -⟩ := h
      have hfirst := fits_iff_of_fits hstarts hconnector (fits_starts hstart)
      have hothers : (∀ d ∈ rest, fits g.parts d = true) ↔ Avoids anywhere rest :=
        forall₂_congr fun d hd => fits_iff_of_fits hparts
          (fun hmem => hconnector (List.mem_append_right _ hmem)) (fits_parts (hrest d hd))
      have hnil : Avoids inFront [] := fun _ hd => absurd hd List.not_mem_nil
      rw [accepts_cons_iff, hfirst, hothers, avoids_cons_iff, List.take_succ_cons, List.take_zero,
        avoids_cons_iff, List.mem_append, not_or]
      tauto

theorem avoids_append_iff : Avoids (ks ++ ls) t ↔ Avoids ks t ∧ Avoids ls t := by
  simp only [Avoids, List.mem_append, not_or, forall_and]

/-- Categories that the check of a name lets through and that neither language has in names. -/
def strays : List Category := [.otherNumber, .enclosedLetter]

/-- Among identifiers, those of letters, decimal digits and underscores, and not of underscores
only. -/
def Portable (t : Text) : Prop :=
  Avoids (strays ++ [.mark, .letterNumber]) t ∧ ∃ c ∈ t, c ≠ '_'

theorem java_accepts_iff (h : isIdentifier t = true) :
    java.accepts t = true ↔ Avoids strays t ∧ Avoids [.mark] (t.take 1) := by
  have hstarts : ∀ k ∈ starts, k ∈ java.starts ↔ k ∉ [.mark] ++ strays := by decide
  have hparts : ∀ k ∈ parts, k ∈ java.parts ↔ k ∉ strays := by decide
  have hfree : java.isReserved t = false :=
    (isReserved_eq_false_iff.1 (isIdentifier_iff.1 h).2.2).1
  rw [accepts_iff_avoids hstarts hparts (by decide) h]
  simp only [hfree, and_true]

theorem kotlin_accepts_iff (h : isIdentifier t = true) :
    kotlin.accepts t = true ↔ Portable t := by
  have hstarts : ∀ k ∈ starts, k ∈ kotlin.starts ↔
      k ∉ [] ++ (strays ++ [.mark, .letterNumber]) := by decide
  have hparts : ∀ k ∈ parts, k ∈ kotlin.parts ↔ k ∉ strays ++ [.mark, .letterNumber] := by decide
  have hfree : isWord kotlinWords t = false :=
    (isReserved_eq_false_iff.1 (isIdentifier_iff.1 h).2.2).2
  have hreserved : kotlin.isReserved t = false ↔ ∃ c ∈ t, c ≠ '_' := by
    simp [kotlin, hfree]
  have hfront : Avoids [] (t.take 1) := fun _ _ => List.not_mem_nil
  rw [accepts_iff_avoids hstarts hparts (by decide) h, hreserved, Portable]
  simp only [hfront, true_and]

theorem Portable.java_accepts (h : Portable t) (hidentifier : isIdentifier t = true) :
    java.accepts t = true := by
  obtain ⟨hstrays, hmarks⟩ := avoids_append_iff.1 h.1
  rw [java_accepts_iff hidentifier]
  have hsubset : [Category.mark] ⊆ [.mark, .letterNumber] := by decide
  exact ⟨hstrays, fun c hc hmark => hmarks c (List.mem_of_mem_take hc) (hsubset hmark)⟩

theorem isIdentifier_of_accepts (hjava : java.accepts t = true)
    (hkotlin : kotlin.accepts t = true) : isIdentifier t = true := by
  cases t with
  | nil => cases hjava
  | cons c rest =>
      obtain ⟨-, -, hjavaFree⟩ := accepts_cons_iff.1 hjava
      obtain ⟨hstart, hrest, hkotlinFree⟩ := accepts_cons_iff.1 hkotlin
      have hfree : isReserved (c :: rest) = false :=
        isReserved_eq_false_iff.2 ⟨hjavaFree, (Bool.or_eq_false_iff.1 hkotlinFree).1⟩
      rw [isIdentifier, isStart_of_fits hstart, hfree, Bool.true_and, Bool.not_false, Bool.and_true,
        List.all_eq_true]
      exact fun d hd => isPart_of_fits (hrest d hd)

theorem accepts_both_iff (t : Text) : java.accepts t = true ∧ kotlin.accepts t = true ↔
    isIdentifier t = true ∧ Portable t := by
  constructor
  · rintro ⟨hjava, hkotlin⟩
    have hidentifier := isIdentifier_of_accepts hjava hkotlin
    exact ⟨hidentifier, (kotlin_accepts_iff hidentifier).1 hkotlin⟩
  · rintro ⟨hidentifier, h⟩
    exact ⟨h.java_accepts hidentifier, (kotlin_accepts_iff hidentifier).2 h⟩

end Identifier

/-- The names that a manifest brings into a generated file: that of the container, and of every
accepted declaration those of its type and of its accessor. -/
def Manifest.declaredNames (m : Manifest) (container : String) : List String :=
  container :: (Declaration.accepted (Declaration.check container m.entries)).flatMap fun d =>
    [d.typeName, d.accessor]

theorem Manifest.isIdentifier_of_mem_declaredNames {m : Manifest} {overrides : Overrides}
    {settings : Settings} (h : m.settings overrides = .ok settings) {name : String}
    (hname : name ∈ m.declaredNames settings.container) :
    Identifier.isIdentifier name.toList = true := by
  rw [declaredNames, List.mem_cons, List.mem_flatMap] at hname
  obtain rfl | ⟨d, hd, hname⟩ := hname
  · exact (names_of_settings h).1
  · obtain ⟨result, hresult, hd⟩ := List.mem_filterMap.1 hd
    have hresult : .ok d ∈ Declaration.check settings.container m.entries := by
      cases result with
      | error r => cases hd
      | ok d' =>
          cases hd
          exact hresult
    obtain ⟨e, -, hdeclaration⟩ := Declaration.mem_claimAll hresult
    obtain ⟨htypeName, -, haccessor⟩ := e.names_of_declaration hdeclaration
    obtain rfl | rfl : name = d.typeName ∨ name = d.accessor := by simpa using hname
    · exact htypeName
    · exact haccessor

/-- What both languages take for a plain name is an identifier. An identifier is one in Kotlin
exactly if it is portable, and in Java if it holds no stray and no mark in front. So of the names
that come into a generated file, the portable ones can be written as they are in both languages,
and no others. -/
theorem Identifier.isIdentifier_plain (t : Text) :
    (Grammar.java.accepts t = true ∧ Grammar.kotlin.accepts t = true ↔
      isIdentifier t = true ∧ Portable t) ∧
    (isIdentifier t = true →
      (Grammar.java.accepts t = true ↔ Avoids strays t ∧ Avoids [.mark] (t.take 1)) ∧
      (Grammar.kotlin.accepts t = true ↔ Portable t)) ∧
    ∀ (m : Manifest) (overrides : Overrides) (settings : Settings),
      m.settings overrides = .ok settings →
      t ∈ (m.declaredNames settings.container).map String.toList →
        isIdentifier t = true ∧
          (Grammar.java.accepts t = true ∧ Grammar.kotlin.accepts t = true ↔ Portable t) := by
  refine ⟨accepts_both_iff t, fun h => ⟨java_accepts_iff h, kotlin_accepts_iff h⟩, ?_⟩
  intro m overrides settings hsettings ht
  obtain ⟨name, hname, rfl⟩ := List.mem_map.1 ht
  have hidentifier := m.isIdentifier_of_mem_declaredNames hsettings hname
  exact ⟨hidentifier, (accepts_both_iff _).trans (and_iff_right hidentifier)⟩

/-- A manifest whose names all pass the checks. -/
def curiosities : Manifest where
  version := 1
  container := "Ⓐ"
  entries := [⟨"demo.x²", "String __()", ⟨"text.txt"⟩⟩]

def curiositySettings : Settings where
  target := .java
  package := ""
  container := "Ⓐ"
  partPrefix := defaultPartPrefix
  limits := Limits.classFile

theorem settings_curiosities : curiosities.settings {} = .ok curiositySettings := by
  decide +kernel

/-- A name that both languages take, and one that is an identifier all the same. -/
theorem Identifier.isIdentifier_plain_curiosities :
    (isIdentifier ['g', 'r', 'ö', 'ß', 'e', '_', '2'] = true ∧
      Avoids strays ['g', 'r', 'ö', 'ß', 'e', '_', '2'] ∧ Avoids [.mark] ['g'] ∧
      Portable ['g', 'r', 'ö', 'ß', 'e', '_', '2']) ∧
    curiosities.settings {} = .ok curiositySettings ∧
    ['x', '²'] ∈ (curiosities.declaredNames "Ⓐ").map String.toList ∧
    isIdentifier ['x', '²'] = true ∧ ¬ Portable ['x', '²'] := by
  have hidentifier : isIdentifier ['g', 'r', 'ö', 'ß', 'e', '_', '2'] = true := by decide +kernel
  obtain ⟨-, hplain, -⟩ := isIdentifier_plain ['g', 'r', 'ö', 'ß', 'e', '_', '2']
  obtain ⟨hjava, hkotlin⟩ := hplain hidentifier
  obtain ⟨hstrays, hfront⟩ := hjava.1 (by decide +kernel)
  have hname : ['x', '²'] ∈ (curiosities.declaredNames "Ⓐ").map String.toList := by decide +kernel
  obtain ⟨-, -, hnames⟩ := isIdentifier_plain ['x', '²']
  obtain ⟨hcurious, hboth⟩ := hnames curiosities {} curiositySettings settings_curiosities hname
  exact ⟨⟨hidentifier, hstrays, hfront, hkotlin.1 (by decide +kernel)⟩, settings_curiosities, hname,
    hcurious, hboth.not.1 (by decide +kernel)⟩

/-- An enclosed letter and a superscript pass the check and are plain names of neither language, and
neither is a mark by itself, while two underscores are a name of Java only. Names like these come
into a generated file as those of its container, a type and an accessor. -/
theorem Identifier.isIdentifier_not_plain :
    curiosities.settings {} = .ok curiositySettings ∧
      curiosities.declaredNames "Ⓐ" = ["Ⓐ", "x²", "__"] ∧
      (∀ t ∈ [['Ⓐ'], ['x', '²'], ['\u0345']], isIdentifier t = true ∧
        Grammar.java.accepts t = false ∧ Grammar.kotlin.accepts t = false) ∧
      isIdentifier ['_', '_'] = true ∧ Grammar.java.accepts ['_', '_'] = true ∧
        Grammar.kotlin.accepts ['_', '_'] = false := by
  refine ⟨settings_curiosities, ?_, ?_, ?_⟩ <;> decide +kernel

end LiteralPack
