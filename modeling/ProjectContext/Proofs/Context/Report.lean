import ProjectContext.Context.Insights
import ProjectContext.Proofs.Json.RoundTrip
import ProjectContext.Proofs.Matcher.Names
import ProjectContext.Proofs.Text.Utf8

/-!
# Reading reports back

A report is made of lines: four on the totals, and where the conversation mentions files, an empty
one, a title and three for each file (`Insights.toList_report`). A path can be told from what is
around it as long as it keeps to its line, and the names behind a label can be told from each other
as long as they are words, so that such a report says what it is a report on (`report_unambiguous`).
-/

namespace ProjectContext

open Pattern

/-! ## Lists with separators -/

theorem intercalate_cons (separator first : List Char) (lines : List (List Char)) :
    separator.intercalate (first :: lines) = first ++ lines.flatMap (separator ++ ·) := by
  induction lines generalizing first with
  | nil => simp
  | cons line lines ih => simp [List.intercalate_cons_cons, ih]

theorem mem_intercalate {c : Char} {separator : List Char} {lines : List (List Char)}
    (member : c ∈ separator.intercalate lines) : c ∈ separator ∨ ∃ line ∈ lines, c ∈ line := by
  cases lines with
  | nil => cases member
  | cons first lines =>
    rw [intercalate_cons, List.mem_append, List.mem_flatMap] at member
    obtain within | ⟨line, later, within⟩ := member
    · exact .inr ⟨first, List.mem_cons_self, within⟩
    · refine (List.mem_append.mp within).imp id fun within => ?_
      exact ⟨line, List.mem_cons_of_mem _ later, within⟩

theorem infix_intercalate {line separator : List Char} {lines : List (List Char)}
    (member : line ∈ lines) : line <:+: separator.intercalate lines := by
  obtain ⟨first, lines, rfl⟩ := List.exists_cons_of_ne_nil (List.ne_nil_of_mem member)
  rw [intercalate_cons]
  rcases List.mem_cons.mp member with rfl | later
  · exact (List.prefix_append _ _).isInfix
  · have whole : separator ++ line <:+: lines.flatMap (separator ++ ·) :=
      List.infix_of_mem_flatten (List.mem_map_of_mem later)
    exact (List.suffix_append separator line).isInfix.trans
      (whole.trans (List.suffix_append _ _).isInfix)

theorem suffix_intercalate (separator last : List Char) (lines : List (List Char)) :
    last <:+ separator.intercalate (lines ++ [last]) := by
  cases lines with
  | nil => simp
  | cons first lines =>
    refine ⟨first ++ lines.flatMap (separator ++ ·) ++ separator, ?_⟩
    simp [intercalate_cons]

/-! ## Words behind one another -/

/-- The words of a text, whatever stands between them. -/
def wordsOf (text : List Char) : List (List Char) :=
  (text.splitOnP fun c => !Unicode.isWord c).filter (· ≠ [])

theorem splitOnP_run {word : List Char} (run : IsRun Unicode.isWord word) :
    (word.splitOnP fun c => !Unicode.isWord c) = [word] :=
  List.splitOnP_eq_singleton fun c member => by simp [run.2 c member]

theorem wordsOf_run {word : List Char} (run : IsRun Unicode.isWord word) : wordsOf word = [word] := by
  simp [wordsOf, splitOnP_run run, run.1]

theorem wordsOf_append {word : List Char} (run : IsRun Unicode.isWord word) {c : Char}
    (breaks : Unicode.isWord c = false) (text : List Char) :
    wordsOf (word ++ c :: text) = word :: wordsOf text := by
  rw [wordsOf, List.splitOnP_append_cons _ _ (by simp [breaks]), splitOnP_run run,
    List.singleton_append, List.filter_cons_of_pos (by simpa using run.1)]
  rfl

theorem wordsOf_cons {c : Char} (breaks : Unicode.isWord c = false) (text : List Char) :
    wordsOf (c :: text) = wordsOf text := by
  simp [wordsOf, List.splitOnP_cons_eq_if_modifyHead, breaks]

/-- Names in a row. -/
def enumeration (names : List String) : List Char :=
  ", ".toList.intercalate (names.map String.toList)

theorem wordsOf_enumeration {names : List String} (words : ∀ name ∈ names, IsWord name) :
    wordsOf (enumeration names) = names.map String.toList := by
  induction names with
  | nil => rfl
  | cons name names ih =>
    obtain ⟨first, others⟩ := List.forall_mem_cons.mp words
    cases names with
    | nil => simpa [enumeration] using wordsOf_run first
    | cons next names =>
      have row : enumeration (name :: next :: names) =
          name.toList ++ ',' :: ' ' :: enumeration (next :: names) := by
        simp [enumeration, List.intercalate_cons_cons]
      rw [row, wordsOf_append first (by decide +kernel), wordsOf_cons (by decide +kernel), ih others]
      rfl

theorem newline_not_mem_enumeration {names : List String} (words : ∀ name ∈ names, IsWord name) :
    '\n' ∉ enumeration names := by
  intro member
  rcases mem_intercalate member with between | ⟨_, named, within⟩
  · exact absurd between (by decide)
  · obtain ⟨name, among, rfl⟩ := List.mem_map.mp named
    exact absurd ((words name among).2 _ within) (by decide +kernel)

/-! ## Lines -/

def behind? (label : String) (line : List Char) : Option (List Char) :=
  label.toList.isPrefixOf? line

theorem behind?_append (label : String) (text : List Char) :
    behind? label (label.toList ++ text) = some text :=
  List.isPrefixOf?_eq_some_iff_append_eq.mpr rfl

namespace ConversationFile

variable {f : ConversationFile} {files : List ConversationFile}

def lines (f : ConversationFile) : List (List Char) :=
  ["- ".toList ++ f.path.display.toList, "  Functions: ".toList ++ enumeration f.functions,
    "  Classes: ".toList ++ enumeration f.classes]

theorem toList_fileLines (f : ConversationFile) :
    (Insights.fileLines f).toList = f.lines.flatMap ('\n' :: ·) := by
  simp [Insights.fileLines, lines, enumeration]

/-- A file whose lines can be read back: its path is a text on one line, its names are words. -/
structure Legible (f : ConversationFile) : Prop where
  path : ∃ text, f.path.toString? = some text ∧ '\n' ∉ text.toList
  functions : ∀ name ∈ f.functions, IsWord name
  classes : ∀ name ∈ f.classes, IsWord name

/-- Reads three lines for each file. -/
def ofLines? : List (List Char) → Option (List ConversationFile)
  | [] => some []
  | path :: functions :: classes :: lines => do
    let path ← behind? "- " path
    let functions ← behind? "  Functions: " functions
    let classes ← behind? "  Classes: " classes
    let files ← ofLines? lines
    return ⟨.ofString (.ofList path), (wordsOf functions).map String.ofList,
      (wordsOf classes).map String.ofList⟩ :: files
  | _ => none

theorem ofLines?_lines (legible : ∀ f ∈ files, f.Legible) :
    ofLines? (files.flatMap lines) = some files := by
  induction files with
  | nil => rfl
  | cons f files ih =>
    obtain ⟨first, others⟩ := List.forall_mem_cons.mp legible
    obtain ⟨text, spelled, -⟩ := first.path
    have path : Path.ofString (.ofList f.path.display.toList) = f.path := by
      rw [Path.toString?_eq_some.mp spelled, Path.display_ofString, String.ofList_toList]
    have names {names : List String} (words : ∀ name ∈ names, IsWord name) :
        (wordsOf (enumeration names)).map String.ofList = names := by
      simp [wordsOf_enumeration words, Function.comp_def]
    simp only [List.flatMap_cons, lines, List.cons_append, List.nil_append, ofLines?, behind?_append,
      ih others, Option.bind_eq_bind, Option.bind_some, path, names first.functions,
      names first.classes]
    rfl

theorem Legible.newline_not_mem_lines (legible : f.Legible) : ∀ line ∈ f.lines, '\n' ∉ line := by
  obtain ⟨text, spelled, within⟩ := legible.path
  have path : '\n' ∉ f.path.display.toList := by
    rwa [Path.toString?_eq_some.mp spelled, Path.display_ofString]
  have functions := newline_not_mem_enumeration legible.functions
  have classes := newline_not_mem_enumeration legible.classes
  simp [lines, path, functions, classes]

end ConversationFile

/-! ## Reports -/

def numberLine (label : String) (n : UInt64) : List Char := label.toList ++ (toString n).toList

def number? (label : String) (line : List Char) : Option UInt64 :=
  (behind? label line).bind fun digits => Json.Value.word? (.number (.ofList digits))

theorem number?_numberLine (label : String) (n : UInt64) :
    number? label (numberLine label n) = some n := by
  rw [number?, numberLine, behind?_append, Option.bind_some, String.ofList_toList]
  exact Json.word?_ofWord n

theorem isDigit_of_mem_toString {n : UInt64} {c : Char} (member : c ∈ (toString n).toList) :
    c.isDigit := by
  rw [Json.toList_toString] at member
  exact Nat.isDigit_of_mem_toDigits (by decide) (by decide) member

namespace Insights

variable {i j : Insights}

def title : String := "Files mentioned in conversation:"

def overview (i : Insights) : List (List Char) :=
  ["Project Overview:".toList, numberLine "- Total files analyzed: " i.totalFiles,
    numberLine "- Total functions found: " i.totalFunctions,
    numberLine "- Total classes found: " i.totalClasses]

def conversation (i : Insights) : List (List Char) :=
  if i.conversationFiles = [] then []
  else [] :: title.toList :: i.conversationFiles.flatMap ConversationFile.lines

theorem toList_report (i : Insights) :
    i.report.toList = ['\n'].intercalate (i.overview ++ i.conversation) := by
  have files : (String.join (i.conversationFiles.map fileLines)).toList =
      (i.conversationFiles.flatMap ConversationFile.lines).flatMap ('\n' :: ·) := by
    rw [String.toList_join, List.flatMap_map, List.flatMap_assoc]
    exact List.flatMap_congr fun f _ => ConversationFile.toList_fileLines f
  unfold report
  by_cases empty : i.conversationFiles = []
  · simp [overview, conversation, numberLine, empty]
  · simp [overview, conversation, numberLine, intercalate_cons, empty, files, title]

/-- Reads a report back, line by line. -/
def ofReport? (text : String) : Option Insights :=
  match text.toList.splitOn '\n' with
  | _ :: files :: functions :: classes :: conversation => do
    return {
      totalFiles := ← number? "- Total files analyzed: " files
      totalFunctions := ← number? "- Total functions found: " functions
      totalClasses := ← number? "- Total classes found: " classes
      conversationFiles := ← ConversationFile.ofLines? (conversation.drop 2) }
  | _ => none

theorem not_mem_numberLine {c : Char} {label : String} (outside : c ∉ label.toList)
    (other : c.isDigit = false) (n : UInt64) : c ∉ numberLine label n := by
  rw [numberLine, List.mem_append, not_or]
  refine ⟨outside, fun member => ?_⟩
  rw [isDigit_of_mem_toString member] at other
  cases other

theorem newline_not_mem_overview (i : Insights) : ∀ line ∈ i.overview, '\n' ∉ line := by
  simp only [overview, List.forall_mem_cons]
  exact ⟨by decide, not_mem_numberLine (by decide) rfl _, not_mem_numberLine (by decide) rfl _,
    not_mem_numberLine (by decide) rfl _, List.forall_mem_nil _⟩

theorem newline_not_mem_conversation (legible : ∀ f ∈ i.conversationFiles, f.Legible) :
    ∀ line ∈ i.conversation, '\n' ∉ line := by
  unfold conversation
  split
  · exact List.forall_mem_nil _
  · simp only [List.forall_mem_cons, List.mem_flatMap]
    refine ⟨List.not_mem_nil, by decide, ?_⟩
    rintro line ⟨f, member, within⟩
    exact (legible f member).newline_not_mem_lines line within

theorem splitOn_report (legible : ∀ f ∈ i.conversationFiles, f.Legible) :
    i.report.toList.splitOn '\n' = i.overview ++ i.conversation := by
  rw [toList_report]
  refine List.splitOn_intercalate '\n' ?_ (by simp [overview])
  exact List.forall_mem_append.mpr
    ⟨newline_not_mem_overview i, newline_not_mem_conversation legible⟩

theorem ofReport?_report (legible : ∀ f ∈ i.conversationFiles, f.Legible) :
    ofReport? i.report = some i := by
  have files : ConversationFile.ofLines? (i.conversation.drop 2) = some i.conversationFiles := by
    unfold conversation
    split
    · next empty =>
      rw [empty]
      rfl
    · exact ConversationFile.ofLines?_lines legible
  unfold ofReport?
  rw [splitOn_report legible]
  simp only [overview, List.cons_append, List.nil_append, number?_numberLine, files,
    Option.bind_eq_bind, Option.bind_some]
  rfl

/-! ## The conversation, and the end -/

theorem title_infix_report (i : Insights) :
    title.toList <:+: i.report.toList ↔ i.conversationFiles ≠ [] := by
  rw [toList_report]
  constructor
  · intro present empty
    -- The lines on the totals have no capital letter but the two of their heading.
    have outside : ∀ line ∈ i.overview, 'F' ∉ line := by
      simp only [overview, List.forall_mem_cons]
      exact ⟨by decide, not_mem_numberLine (by decide) rfl _, not_mem_numberLine (by decide) rfl _,
        not_mem_numberLine (by decide) rfl _, List.forall_mem_nil _⟩
    rw [conversation, if_pos empty, List.append_nil] at present
    rcases mem_intercalate (present.subset (by decide : 'F' ∈ title.toList)) with
      between | ⟨line, member, within⟩
    · exact absurd between (by decide)
    · exact outside line member within
  · intro mentions
    refine infix_intercalate (List.mem_append_right _ ?_)
    rw [conversation, if_neg mentions]
    exact List.mem_cons_of_mem _ List.mem_cons_self

theorem exists_last_line (i : Insights)
    (named : ∀ f ∈ i.conversationFiles, ∀ name ∈ f.classes, IsWord name) :
    ∃ lines last, i.overview ++ i.conversation = lines ++ [last] ∧ last ≠ [] ∧ '\n' ∉ last := by
  rcases List.eq_nil_or_concat i.conversationFiles with empty | ⟨front, f, files⟩
  · refine ⟨i.overview.take 3, numberLine "- Total classes found: " i.totalClasses, ?_, ?_, ?_⟩
    · simp [overview, conversation, empty]
    · simp [numberLine]
    · exact not_mem_numberLine (by decide) rfl _
  · refine ⟨i.overview ++ [] :: title.toList :: (front.flatMap ConversationFile.lines ++
      f.lines.take 2), "  Classes: ".toList ++ enumeration f.classes, ?_, ?_, ?_⟩
    · simp [conversation, files, ConversationFile.lines]
    · simp
    · have inner := newline_not_mem_enumeration (named f (by simp [files]))
      simp [inner]

theorem getLast?_report (i : Insights)
    (named : ∀ f ∈ i.conversationFiles, ∀ name ∈ f.classes, IsWord name) :
    i.report.toList.getLast? ≠ some '\n' := by
  obtain ⟨lines, last, made, nonempty, within⟩ := exists_last_line i named
  obtain ⟨front, whole⟩ := suffix_intercalate ['\n'] last lines
  rw [toList_report, made, ← whole, List.getLast?_append_of_ne_nil _ nonempty]
  exact fun ended => within (List.mem_of_getLast? ended)

/-- Names are words where a built-in matcher found them, so only the paths can make a report
ambiguous. -/
theorem report_unambiguous :
    (∀ i : Insights, (∀ f ∈ i.conversationFiles, f.Legible) → ofReport? i.report = some i) ∧
      (∀ i j : Insights, (∀ f ∈ i.conversationFiles, f.Legible) →
        (∀ f ∈ j.conversationFiles, f.Legible) → i.report = j.report → i = j) ∧
      (∀ c : Convention, ∃ m, c.matcher? = .ok m ∧ ∀ text : String,
        (∀ name ∈ m.functions text, IsWord name) ∧ ∀ name ∈ m.classes text, IsWord name) ∧
      (∀ i : Insights, title.toList <:+: i.report.toList ↔ i.conversationFiles ≠ []) ∧
      ∀ i : Insights, (∀ f ∈ i.conversationFiles, ∀ name ∈ f.classes, IsWord name) →
        i.report.toList.getLast? ≠ some '\n' := by
  refine ⟨fun _ => ofReport?_report, fun i j first second same => ?_, Convention.matcher?_words,
    title_infix_report, getLast?_report⟩
  have read := ofReport?_report first
  rw [same, ofReport?_report second] at read
  exact (Option.some.inj read).symm

/-- A path that looks like a line on functions is read as a path. -/
theorem label_like_path_recovered :
    ofReport? (report ⟨2, 1, 2, [⟨.ofString "  Functions: f, g", [], ["A", "B"]⟩,
        ⟨.ofString "- ", ["f"], []⟩]⟩) =
      some ⟨2, 1, 2, [⟨.ofString "  Functions: f, g", [], ["A", "B"]⟩,
        ⟨.ofString "- ", ["f"], []⟩]⟩ := by
  refine report_unambiguous.1 _ ?_
  simp only [List.forall_mem_cons]
  exact ⟨⟨⟨_, Path.toString?_eq_some.mpr rfl, by decide⟩, by decide, by decide +kernel⟩,
    ⟨⟨_, Path.toString?_eq_some.mpr rfl, by decide⟩, by decide +kernel, by decide⟩,
    List.forall_mem_nil _⟩

end Insights

end ProjectContext
