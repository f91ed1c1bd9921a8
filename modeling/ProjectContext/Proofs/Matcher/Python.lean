import ProjectContext.Proofs.Matcher.Spans
import ProjectContext.Proofs.Pattern.Keyword

/-!
# Declarations of Python

The built-in patterns for Python find what a scanner finds that never goes back
(`python_matcher_scans`): a function is `def`, space, its name, an opening parenthesis and a closing
one with a colon behind it on the same line; a class is `class`, space, its name, and a colon or
parentheses like those of a function.
-/

namespace ProjectContext

open Pattern Pattern.Place Pattern.Node

/-- Behind the name of a function. -/
def functionTail? (text : List Char) : Option (List Char) :=
  (['('].isPrefixOf? (text.dropWhile Unicode.isSpace)).bind (behindOnLine? [')', ':'])

/-- Behind the name of a class. -/
def classTail? : List Char → Option (List Char)
  | ':' :: rest => some rest
  | '(' :: rest => behindOnLine? [')', ':'] rest
  | _ => none

theorem functionTail?_suffix {text rest : List Char} (read : functionTail? text = some rest) :
    rest <:+ text := by
  obtain ⟨behind, opened, closed⟩ := Option.bind_eq_some_iff.mp read
  have inner : behind <:+ text.dropWhile Unicode.isSpace :=
    ⟨['('], List.isPrefixOf?_eq_some_iff_append_eq.mp opened⟩
  exact (behindOnLine?_suffix closed).trans (inner.trans (List.dropWhile_suffix _))

theorem classTail?_suffix {text rest : List Char} (read : classTail? text = some rest) :
    rest <:+ text := by
  unfold classTail? at read
  split at read
  · cases read
    exact List.suffix_cons _ _
  · exact (behindOnLine?_suffix read).trans (List.suffix_cons _ _)
  · cases read

def pythonFunctions : DeclarationReader := .keyword "def".toList functionTail? functionTail?_suffix

def pythonClasses : DeclarationReader := .keyword "class".toList classTail? classTail?_suffix

/-! ## The patterns -/

def functionTailNodes : List Node :=
  [.run none true .space, literal ['('], lazyLine, literal [')', ':']]

def classTailNodes : List Node :=
  [.join none (.upTo true [sequence [literal ['('], lazyLine, literal [')']]]), literal [':']]

theorem read_functionPattern : Node.read .standard (Convention.functionPattern .python).toList =
    .ok (sequence (keywordNodes "def".toList ++ functionTailNodes)) := rfl

theorem read_classPattern : Node.read .standard (Convention.classPattern .python).toList =
    .ok (sequence (keywordNodes "class".toList ++ classTailNodes)) := rfl

theorem plain_functionTailNodes : ∀ x ∈ functionTailNodes, Plain x := by
  simp only [functionTailNodes, List.forall_mem_cons]
  exact ⟨.run true _, plain_literal nofun, plain_lazyLine, plain_literal nofun,
    List.forall_mem_nil _⟩

theorem plain_classTailNodes : ∀ x ∈ classTailNodes, Plain x := by
  simp only [classTailNodes, List.forall_mem_cons]
  exact ⟨.join (.option true (.seq (.seq (plain_literal nofun) plain_lazyLine)
    (plain_literal nofun))), plain_literal nofun, List.forall_mem_nil _⟩

/-! ## The tails -/

theorem tracks_functionTail : Tracks (functionTailNodes.foldr attempt some) functionTail? := by
  have closed : Tracks ((literal [')', ':']).attempt some) [')', ':'].isPrefixOf? := by
    simpa using tracks_literal [')', ':'] tracks_some
  have opened := tracks_literal ['('] (tracks_lazyLine (List.cons_ne_nil _ _) closed)
  have stuck (q r : Place) (read : q.read? .space = some r) :
      (literal ['(']).attempt (lazyLine.attempt ((literal [')', ':']).attempt some)) q = none := by
    obtain ⟨-, -, d, member, text⟩ := reaches_of_read? read
    have other : d ≠ '(' := by
      rintro rfl
      exact absurd member (by decide)
    have unread : (['('].isPrefixOf? q.rest).bind (behindOnLine? [')', ':']) = none := by
      rw [text, isPrefixOf?_of_ne other]
      rfl
    exact (opened q).fails unread
  have ran : functionTailNodes.foldr attempt some = fun p =>
      (literal ['(']).attempt (lazyLine.attempt ((literal [')', ':']).attempt some))
        (p.skip .space) := funext (attempt_run_greedy stuck)
  rw [ran]
  exact opened.skip .space

theorem classTail?_eq : classTail? = fun text =>
    ((['('].isPrefixOf? text).bind (behindOnLine? [')', ':'])).or ([':'].isPrefixOf? text) := by
  -- One character decides between the two, so it does not matter which is tried first.
  funext text
  unfold classTail?
  split
  · have other : ':' ≠ '(' := by decide
    rw [isPrefixOf?_of_ne other]
    rfl
  · have other : '(' ≠ ':' := by decide
    rw [isPrefixOf?_of_ne other, Option.or_none]
    rfl
  · next colon parenthesis =>
    cases text with
    | nil => rfl
    | cons c rest =>
      have first : c ≠ '(' := fun equal => parenthesis rest (equal ▸ rfl)
      have second : c ≠ ':' := fun equal => colon rest (equal ▸ rfl)
      rw [isPrefixOf?_of_ne first, isPrefixOf?_of_ne second]
      rfl

theorem tracks_classTail : Tracks (classTailNodes.foldr attempt some) classTail? := by
  have colon : Tracks ((literal [':']).attempt some) [':'].isPrefixOf? := by
    simpa using tracks_literal [':'] tracks_some
  have closed : Tracks ((literal [')']).attempt ((literal [':']).attempt some))
      [')', ':'].isPrefixOf? := by
    have mark : [')', ':'].isPrefixOf? = _ := funext (isPrefixOf?_append [')'] [':'])
    rw [mark]
    exact tracks_literal [')'] colon
  have opened := tracks_literal ['('] (tracks_lazyLine (List.cons_ne_nil _ _) closed)
  have parameters : ∀ x ∈ [literal ['('], lazyLine, literal [')']], Plain x := by
    simp only [List.forall_mem_cons]
    exact ⟨plain_literal nofun, plain_lazyLine, plain_literal nofun, List.forall_mem_nil _⟩
  have ran : classTailNodes.foldr attempt some = fun p =>
      ((literal ['(']).attempt (lazyLine.attempt ((literal [')']).attempt
        ((literal [':']).attempt some))) p).or ((literal [':']).attempt some p) := by
    funext p
    have optional : Plain (.upTo true [sequence [literal ['('], lazyLine, literal [')']]]) :=
      .option true (.seq (.seq (plain_literal nofun) plain_lazyLine) (plain_literal nofun))
    simp only [classTailNodes, List.foldr_cons, List.foldr_nil]
    rw [attempt_join optional colon.steady, attempt_option, if_pos rfl,
      attempt_sequence parameters colon.steady]
    rfl
  rw [ran, classTail?_eq]
  exact opened.or colon

/-! ## Names are not broken up -/

theorem functionTail?_stops (c : Char) (rest : List Char) (word : Unicode.isWord c) :
    functionTail? (c :: rest) = none := by
  have spaceless : ¬ Unicode.isSpace c := by simp [Unicode.not_isSpace_of_isWord word]
  have other : c ≠ '(' := by
    rintro rfl
    exact absurd word (by decide +kernel)
  rw [functionTail?, List.dropWhile_cons_of_neg spaceless, isPrefixOf?_of_ne other]
  rfl

theorem classTail?_stops (c : Char) (rest : List Char) (word : Unicode.isWord c) :
    classTail? (c :: rest) = none := by
  unfold classTail?
  split
  · next equal =>
    cases equal
    exact absurd word (by decide +kernel)
  · next equal =>
    cases equal
    exact absurd word (by decide +kernel)
  · rfl

theorem reads_pythonFunctions :
    Reads (sequence (keywordNodes "def".toList ++ functionTailNodes)) pythonFunctions :=
  reads_keyword (by decide) plain_functionTailNodes functionTail?_suffix tracks_functionTail
    functionTail?_stops

theorem reads_pythonClasses :
    Reads (sequence (keywordNodes "class".toList ++ classTailNodes)) pythonClasses :=
  reads_keyword (by decide) plain_classTailNodes classTail?_suffix tracks_classTail classTail?_stops

theorem python_matcher_scans :
    ∃ m, Convention.python.matcher? = .ok m ∧ ∀ text : String,
      m.functions text = pythonFunctions.scan text.toList ∧
      m.classes text = pythonClasses.scan text.toList :=
  ⟨_, Convention.matcher?_eq read_functionPattern read_classPattern, fun _ =>
    ⟨groupTexts_eq_scan reads_pythonFunctions _, groupTexts_eq_scan reads_pythonClasses _⟩⟩

end ProjectContext
