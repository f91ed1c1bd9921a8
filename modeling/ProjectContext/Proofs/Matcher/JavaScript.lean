import ProjectContext.Proofs.Matcher.Spans
import ProjectContext.Proofs.Pattern.Keyword

/-!
# Declarations behind one keyword

A function of JavaScript is `function`, space, its name and an opening parenthesis, a class of
JavaScript or Java is `class`, space and its name, and the built-in patterns find what a scanner finds
that never goes back (`keyword_declarations_scanned`).
-/

namespace ProjectContext

open Pattern Pattern.Place Pattern.Node

/-- Behind the name of a function. -/
def openingTail? (text : List Char) : Option (List Char) :=
  ['('].isPrefixOf? (text.dropWhile Unicode.isSpace)

theorem openingTail?_suffix {text rest : List Char} (read : openingTail? text = some rest) :
    rest <:+ text := by
  have inner : rest <:+ text.dropWhile Unicode.isSpace :=
    ⟨['('], List.isPrefixOf?_eq_some_iff_append_eq.mp read⟩
  exact inner.trans (List.dropWhile_suffix _)

def javaScriptFunctions : DeclarationReader :=
  .keyword "function".toList openingTail? openingTail?_suffix

theorem suffix_of_some {text rest : List Char} (read : some text = some rest) : rest <:+ text :=
  Option.some.inj read ▸ List.suffix_rfl

/-- Nothing is read behind the name of a class. -/
def classNames : DeclarationReader := .keyword "class".toList some suffix_of_some

/-! ## The patterns -/

def openingTailNodes : List Node := [.run none true .space, literal ['(']]

theorem read_openingPattern : Node.read .standard (Convention.functionPattern .javaScript).toList =
    .ok (sequence (keywordNodes "function".toList ++ openingTailNodes)) := rfl

theorem read_namePattern (c : Convention) (unlike : c ≠ .python) :
    Node.read .standard c.classPattern.toList =
      .ok (sequence (keywordNodes "class".toList ++ [])) := by
  cases c with
  | python => exact absurd rfl unlike
  | javaScript => rfl
  | java => rfl

theorem plain_openingTailNodes : ∀ x ∈ openingTailNodes, Plain x := by
  simp only [openingTailNodes, List.forall_mem_cons]
  exact ⟨.run true _, plain_literal nofun, List.forall_mem_nil _⟩

theorem tracks_openingTail : Tracks (openingTailNodes.foldr attempt some) openingTail? := by
  have opened := tracks_run_literal .space '(' (by decide) [] tracks_some
  simp only [Option.bind_fun_some] at opened
  exact opened

theorem openingTail?_stops (c : Char) (rest : List Char) (word : Unicode.isWord c) :
    openingTail? (c :: rest) = none := by
  have spaceless : ¬ Unicode.isSpace c := by simp [Unicode.not_isSpace_of_isWord word]
  have other : c ≠ '(' := by
    rintro rfl
    exact absurd word (by decide +kernel)
  rw [openingTail?, List.dropWhile_cons_of_neg spaceless, isPrefixOf?_of_ne other]

theorem reads_javaScriptFunctions :
    Reads (sequence (keywordNodes "function".toList ++ openingTailNodes)) javaScriptFunctions :=
  reads_keyword (by decide) plain_openingTailNodes openingTail?_suffix tracks_openingTail
    openingTail?_stops

theorem reads_classNames : Reads (sequence (keywordNodes "class".toList ++ [])) classNames :=
  reads_keyword_carried (by decide) (List.forall_mem_nil _) suffix_of_some tracks_some
    fun _ _ _ _ => rfl

/-! ## What stands in a text -/

/-- What the text in front of a keyword ends with does not matter, nor whether the name is itself
a keyword. -/
theorem scan_classNames {front space name rest : List Char} (spaced : IsRun Unicode.isSpace space)
    (named : IsRun Unicode.isWord name) (stops : Stops Unicode.isWord rest)
    (behind : BeginsBehind "class".toList front ("class".toList ++ (space ++ (name ++ rest)))) :
    classNames.scan (front ++ ("class".toList ++ (space ++ (name ++ rest)))) =
      String.ofList name :: classNames.scan rest := by
  have read : classNames.read ("class".toList ++ (space ++ (name ++ rest))) = some (name, rest) := by
    rw [classNames, read_keyword_eq_some]
    exact ⟨space, rest, rfl, spaced, named, stops, rfl⟩
  rw [classNames, scan_behind behind]
  exact DeclarationReader.scan_of_read read

theorem openingTail?_append {gap : List Char} (spaces : ∀ c ∈ gap, Unicode.isSpace c)
    (rest : List Char) : openingTail? (gap ++ '(' :: rest) = some rest :=
  (isPrefixOf?_dropWhile_eq_some _ '(' (by decide)).mpr ⟨gap, rfl, spaces⟩

theorem scan_javaScriptFunctions {front space name gap rest : List Char}
    (spaced : IsRun Unicode.isSpace space) (named : IsRun Unicode.isWord name)
    (spaces : ∀ c ∈ gap, Unicode.isSpace c)
    (behind : BeginsBehind "function".toList front
      ("function".toList ++ (space ++ (name ++ (gap ++ '(' :: rest))))) :
    javaScriptFunctions.scan
        (front ++ ("function".toList ++ (space ++ (name ++ (gap ++ '(' :: rest))))) =
      String.ofList name :: javaScriptFunctions.scan rest := by
  have stops : Stops Unicode.isWord (gap ++ '(' :: rest) := by
    cases gap with
    | nil =>
      rintro _ ⟨⟩
      decide +kernel
    | cons c gap =>
      rintro _ ⟨⟩
      exact Unicode.not_isWord_of_isSpace (spaces c List.mem_cons_self)
  have read : javaScriptFunctions.read
      ("function".toList ++ (space ++ (name ++ (gap ++ '(' :: rest)))) = some (name, rest) := by
    rw [javaScriptFunctions, read_keyword_eq_some]
    exact ⟨space, _, rfl, spaced, named, stops, openingTail?_append spaces rest⟩
  rw [javaScriptFunctions, scan_behind behind]
  exact DeclarationReader.scan_of_read read

theorem keyword_declarations_scanned :
    ∃ javaScript java, Convention.javaScript.matcher? = .ok javaScript ∧
      Convention.java.matcher? = .ok java ∧
      (∀ text : String, javaScript.classes text = classNames.scan text.toList ∧
        java.classes text = classNames.scan text.toList ∧
        javaScript.functions text = javaScriptFunctions.scan text.toList) ∧
      (∀ front space name rest, IsRun Unicode.isSpace space → IsRun Unicode.isWord name →
        Stops Unicode.isWord rest →
        BeginsBehind "class".toList front ("class".toList ++ (space ++ (name ++ rest))) →
        classNames.scan (front ++ ("class".toList ++ (space ++ (name ++ rest)))) =
          String.ofList name :: classNames.scan rest) ∧
      ∀ front space name gap rest, IsRun Unicode.isSpace space → IsRun Unicode.isWord name →
        (∀ c ∈ gap, Unicode.isSpace c) →
        BeginsBehind "function".toList front
          ("function".toList ++ (space ++ (name ++ (gap ++ '(' :: rest)))) →
        javaScriptFunctions.scan
            (front ++ ("function".toList ++ (space ++ (name ++ (gap ++ '(' :: rest))))) =
          String.ofList name :: javaScriptFunctions.scan rest := by
  obtain ⟨methods, readMethods⟩ : ∃ node,
      Node.read .standard (Convention.functionPattern .java).toList = .ok node := ⟨_, rfl⟩
  refine ⟨_, _, Convention.matcher?_eq read_openingPattern (read_namePattern .javaScript nofun),
    Convention.matcher?_eq readMethods (read_namePattern .java nofun), fun text => ⟨?_, ?_, ?_⟩,
    fun _ _ _ _ => scan_classNames, fun _ _ _ _ _ => scan_javaScriptFunctions⟩
  · exact groupTexts_eq_scan reads_classNames _
  · exact groupTexts_eq_scan reads_classNames _
  · exact groupTexts_eq_scan reads_javaScriptFunctions _

theorem class_named_class :
    ∃ javaScript java, Convention.javaScript.matcher? = .ok javaScript ∧
      Convention.java.matcher? = .ok java ∧
      javaScript.classes "subclass class\nclass Foo" = ["class", "Foo"] ∧
      java.classes "subclass class\nclass Foo" = ["class", "Foo"] ∧
      javaScript.functions "function\nf (" = ["f"] := by
  obtain ⟨javaScript, java, first, second, scanned, named, called⟩ := keyword_declarations_scanned
  have inner : classNames.scan "\nclass Foo".toList = ["Foo"] := by
    refine (named ['\n'] [' '] "Foo".toList [] (by decide) (by decide +kernel) (by decide)
      (by decide)).trans ?_
    rw [DeclarationReader.scan_nil]
    rfl
  have classes : classNames.scan "subclass class\nclass Foo".toList = ["class", "Foo"] := by
    refine (named "sub".toList [' '] "class".toList "\nclass Foo".toList (by decide)
      (by decide +kernel) (by decide +kernel) (by decide)).trans ?_
    rw [inner]
    rfl
  have functions : javaScriptFunctions.scan "function\nf (".toList = ["f"] := by
    refine (called [] ['\n'] ['f'] [' '] [] (by decide) (by decide +kernel)
      (List.forall_mem_singleton.mpr (by decide)) (by decide)).trans ?_
    rw [DeclarationReader.scan_nil]
  refine ⟨javaScript, java, first, second, ?_, ?_, ?_⟩
  · rw [(scanned _).1, classes]
  · rw [(scanned _).2.1, classes]
  · rw [(scanned _).2.2, functions]

end ProjectContext
