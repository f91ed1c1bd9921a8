import ProjectContext.Proofs.Matcher.Java
import ProjectContext.Proofs.Matcher.Python

/-!
# Declared names are words

Whatever the text, the names that the built-in patterns find are made of word characters
(`Convention.matcher?_words`).
-/

namespace ProjectContext

open Pattern Pattern.Node

def IsWord (name : String) : Prop := IsRun Unicode.isWord name.toList

instance (name : String) : Decidable (IsWord name) := inferInstanceAs (Decidable (IsRun _ _))

namespace Pattern

namespace DeclarationReader

variable {r : DeclarationReader}

/-- The reader takes nothing but words for names. -/
def NamesWords (r : DeclarationReader) : Prop :=
  ∀ text name rest, r.read text = some (name, rest) → IsRun Unicode.isWord name

theorem NamesWords.scan (words : r.NamesWords) (text : List Char) :
    ∀ name ∈ r.scan text, IsWord name := by
  induction text using DeclarationReader.scan.induct r with
  | case1 text name rest read ih =>
    rw [scan_of_read read]
    refine List.forall_mem_cons.mpr ⟨?_, ih⟩
    rw [IsWord, String.toList_ofList]
    exact words text name rest read
  | case2 =>
    rw [scan_nil]
    exact List.forall_mem_nil _
  | case3 c rest unread ih =>
    rw [scan_cons_of_none unread]
    exact ih

theorem namesWords_named (lead tail : List Char → Option (List Char))
    (leadShrinks : ∀ {text rest}, lead text = some rest → rest <:+ text)
    (tailShrinks : ∀ {text rest}, tail text = some rest → rest <:+ text) :
    (named lead tail leadShrinks tailShrinks).NamesWords := by
  intro text name rest read
  rw [read_named] at read
  obtain ⟨_, -, read⟩ := Option.bind_eq_some_iff.mp read
  obtain ⟨⟨run, _⟩, found, read⟩ := Option.bind_eq_some_iff.mp read
  obtain ⟨_, -, made⟩ := Option.map_eq_some_iff.mp read
  cases made
  exact (run?_eq_some_iff.mp found).2.1

theorem namesWords_keyword (word : List Char) (tail : List Char → Option (List Char))
    (shrinks : ∀ {text rest}, tail text = some rest → rest <:+ text) :
    (keyword word tail shrinks).NamesWords := by
  intro text name rest read
  obtain ⟨-, -, -, -, words, -⟩ := read_keyword_eq_some.mp read
  exact words

end DeclarationReader

theorem Node.Reads.words {node : Node} {r : DeclarationReader} (reads : node.Reads r)
    (words : r.NamesWords) (text : List Char) : ∀ name ∈ node.groupTexts text, IsWord name := by
  rw [groupTexts_eq_scan reads]
  exact words.scan text

end Pattern

open DeclarationReader

theorem Convention.matcher?_words (c : Convention) : ∃ m, c.matcher? = .ok m ∧ ∀ text : String,
    (∀ name ∈ m.functions text, IsWord name) ∧ ∀ name ∈ m.classes text, IsWord name := by
  cases c with
  | python =>
    exact ⟨_, matcher?_eq read_functionPattern read_classPattern, fun text =>
      ⟨reads_pythonFunctions.words (namesWords_keyword _ _ _) text.toList,
        reads_pythonClasses.words (namesWords_keyword _ _ _) text.toList⟩⟩
  | javaScript =>
    exact ⟨_, matcher?_eq read_openingPattern (read_namePattern .javaScript nofun), fun text =>
      ⟨reads_javaScriptFunctions.words (namesWords_keyword _ _ _) text.toList,
        reads_classNames.words (namesWords_keyword _ _ _) text.toList⟩⟩
  | java =>
    exact ⟨_, matcher?_eq read_methodPattern (read_namePattern .java nofun), fun text =>
      ⟨reads_javaMethods.words (namesWords_named _ _ _ _) text.toList,
        reads_classNames.words (namesWords_keyword _ _ _) text.toList⟩⟩

end ProjectContext
