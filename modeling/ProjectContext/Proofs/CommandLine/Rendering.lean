import ProjectContext.CommandLine.Rendering
import ProjectContext.Proofs.Context.Codec
import ProjectContext.Proofs.Session.Generation

/-!
# What the commands print

All commands open the same session and differ in how they write its context down, so their outputs
can be told from each other (`outputs_agree`).
-/

namespace ProjectContext.CommandLine

namespace Command

variable {c : Command} {fs : FileSystem} {s : Session} {m : ContextMap} {text : String}

theorem render_of_generated (c : Command) (opened : c.session.openSession fs = .ok s)
    (made : (s.generate (Source.ofFiles fs)).1 = .ok m) : (c.render fs).result = c.write m := by
  unfold render
  rw [opened]
  cases done : s.generate (Source.ofFiles fs) with
  | mk result after =>
    rw [done] at made
    cases made
    simp [done]

theorem generated_of_render (printed : (c.render fs).result = .ok text) :
    ∃ s m, c.session.openSession fs = .ok s ∧ (s.generate (Source.ofFiles fs)).1 = .ok m ∧
      c.write m = .ok text := by
  unfold render at printed
  cases opened : c.session.openSession fs with
  | error failure => simp [opened] at printed
  | ok s =>
    cases done : s.generate (Source.ofFiles fs) with
    | mk result after =>
      cases result with
      | error failure => simp [opened, done] at printed
      | ok m => exact ⟨s, m, rfl, by rw [done], by simpa [opened, done] using printed⟩

/-- The text in which a command writes a context map down, if it has one. -/
def written? (m : ContextMap) : Command → Option String
  | .report _ .text => some (Insights.ofContext m).report
  | .report _ .json => (Insights.ofContext m).toJsonText?
  | .context _ => m.toJsonText?

theorem write_eq (c : Command) (m : ContextMap) :
    c.write m = (c.written? m).elim (.error .encoding) .ok := by
  unfold write written?
  cases c with
  | report args format =>
    cases format with
    | text => rfl
    | json => cases (Insights.ofContext m).toJsonText? <;> rfl
  | context args => cases m.toJsonText? <;> rfl

theorem write_eq_ok : c.write m = .ok text ↔ c.written? m = some text := by
  rw [write_eq]
  cases c.written? m <;> simp

theorem write_fails : (∃ failure, c.write m = .error failure) ↔ c.written? m = none := by
  rw [write_eq]
  cases c.written? m <;> simp

theorem written?_json_eq_none (args : SessionArgs)
    (made : (s.generate (Source.ofFiles fs)).1 = .ok m) :
    (report args .json).written? m = none ↔ ∃ p ∈ s.conversationFiles, ∀ text, p ≠ .ofString text := by
  have paths : (Insights.ofContext m).conversationFiles.map (·.path) = s.conversationFiles := by
    rw [← Session.conversationEntries_paths made]
    simp [Insights.ofContext]
  rw [← paths]
  simp [written?, Insights.toJsonText?_eq_none]

theorem written?_json_of_context (args : SessionArgs)
    (made : (s.generate (Source.ofFiles fs)).1 = .ok m) (printed : m.toJsonText? = some text) :
    ∃ json, (report args .json).written? m = some json := by
  apply Option.ne_none_iff_exists'.mp
  rw [Ne, written?_json_eq_none args made, ← Session.conversationEntries_paths made]
  rintro ⟨p, listed, foreign⟩
  obtain ⟨e, member, rfl⟩ := List.mem_map.mp listed
  have unwritten : m.toJsonText? = none := ContextMap.toJsonText?_eq_none.mpr
    ⟨e.1, PathMap.mem_keys.mpr ⟨e, List.mem_of_mem_filter member, rfl⟩, foreign⟩
  rw [unwritten] at printed
  cases printed

end Command

/-- Where the context command prints a text, the context can be read from it, and the two reports are
those of that context. A command that has built the context fails when a path it has to print is not
UTF-8, and only then: the context command prints the paths of all files, the report in JSON those of
the registered ones, and the report in text prints paths as far as they are text. -/
theorem outputs_agree (fs : FileSystem) (args : SessionArgs) :
    (∀ text, ((Command.context args).render fs).result = .ok text →
      ∃ s m, args.openSession fs = .ok s ∧ (s.generate (Source.ofFiles fs)).1 = .ok m ∧
        ContextMap.readJson text = some m ∧
        ((Command.report args .text).render fs).result = .ok (Insights.ofContext m).report ∧
        ∃ json, ((Command.report args .json).render fs).result = .ok json ∧
          ∃ i, Insights.readJson json = some i ∧ i = .ofContext m ∧
            ((Command.report args .text).render fs).result = .ok i.report) ∧
    ∀ s m, args.openSession fs = .ok s → (s.generate (Source.ofFiles fs)).1 = .ok m →
      ((∃ failure, ((Command.context args).render fs).result = .error failure) ↔
        ∃ key ∈ m.keys, ∀ text, key ≠ .ofString text) ∧
      ((∃ failure, ((Command.report args .json).render fs).result = .error failure) ↔
        ∃ p ∈ s.conversationFiles, ∀ text, p ≠ .ofString text) ∧
      ∃ text, ((Command.report args .text).render fs).result = .ok text := by
  constructor
  · intro text printed
    obtain ⟨s, m, opened, made, written⟩ := Command.generated_of_render printed
    have context : m.toJsonText? = some text := Command.write_eq_ok.mp written
    have report : ((Command.report args .text).render fs).result =
        .ok (Insights.ofContext m).report := by
      rw [Command.render_of_generated (.report args .text) opened made]
      exact Command.write_eq_ok.mpr rfl
    obtain ⟨json, encoded⟩ := Command.written?_json_of_context args made context
    have printed : ((Command.report args .json).render fs).result = .ok json := by
      rw [Command.render_of_generated (.report args .json) opened made]
      exact Command.write_eq_ok.mpr encoded
    exact ⟨s, m, opened, made, ContextMap.readJson_of_written context, report, json, printed,
      .ofContext m, Insights.readJson_of_written encoded, rfl, report⟩
  · intro s m opened made
    refine ⟨?_, ?_, (Insights.ofContext m).report, ?_⟩
    · rw [Command.render_of_generated (.context args) opened made, Command.write_fails]
      exact ContextMap.toJsonText?_eq_none
    · rw [Command.render_of_generated (.report args .json) opened made, Command.write_fails]
      exact Command.written?_json_eq_none args made
    · rw [Command.render_of_generated (.report args .text) opened made]
      exact Command.write_eq_ok.mpr rfl

def namedProject : FileSystem where
  top := [(.ofString "d", .directory [(.ofString "a.py", .file (.ofString "def f(): pass"))])]

/-- A project with a file whose name is no text. -/
def unnamedProject : FileSystem where
  top := [(.ofString "d", .directory [(0xFF :: Bytes.ofString ".py", .file [])])]

theorem namedProject_printed :
    ∃ text, ((Command.context { path := .ofString "d" }).render namedProject).result = .ok text := by
  have printed : ((Command.context { path := .ofString "d" }).render
      namedProject).result.toBool = true := by decide +kernel
  cases result : ((Command.context { path := .ofString "d" }).render namedProject).result with
  | error failure => simp [result, Except.toBool] at printed
  | ok text => exact ⟨text, rfl⟩

theorem unnamedProject_generated :
    ∃ s m, SessionArgs.openSession { path := .ofString "d" } unnamedProject = .ok s ∧
      (s.generate (Source.ofFiles unnamedProject)).1 = .ok m ∧
      m.keys = [⟨Bytes.ofString "d/" ++ 0xFF :: Bytes.ofString ".py"⟩] ∧
      s.conversationFiles = [] := by
  have checked : (match SessionArgs.openSession { path := .ofString "d" } unnamedProject with
      | .error _ => false
      | .ok s => match (s.generate (Source.ofFiles unnamedProject)).1 with
        | .error _ => false
        | .ok m => decide (m.keys = [⟨Bytes.ofString "d/" ++ 0xFF :: Bytes.ofString ".py"⟩] ∧
          s.conversationFiles = [])) = true := by decide +kernel
  split at checked
  · cases checked
  · next s opened =>
    split at checked
    · cases checked
    · next m made => exact ⟨s, m, opened, made, of_decide_eq_true checked⟩

theorem named_and_unnamed_printed :
    (∃ text m, ((Command.context { path := .ofString "d" }).render namedProject).result = .ok text ∧
      ContextMap.readJson text = some m ∧
      ((Command.report { path := .ofString "d" } .text).render namedProject).result =
        .ok (Insights.ofContext m).report) ∧
    (∃ failure,
      ((Command.context { path := .ofString "d" }).render unnamedProject).result = .error failure) ∧
    ¬ ∃ failure, ((Command.report { path := .ofString "d" } .json).render unnamedProject).result =
      .error failure := by
  constructor
  · obtain ⟨text, printed⟩ := namedProject_printed
    obtain ⟨s, m, -, -, read, report, -⟩ :=
      (outputs_agree namedProject { path := .ofString "d" }).1 text printed
    exact ⟨text, m, printed, read, report⟩
  · obtain ⟨s, m, opened, made, keys, unmentioned⟩ := unnamedProject_generated
    obtain ⟨context, json, -⟩ :=
      (outputs_agree unnamedProject { path := .ofString "d" }).2 s m opened made
    rw [context, json, keys, unmentioned]
    refine ⟨⟨_, .head _, Path.toString?_eq_none.mp (by decide +kernel)⟩, ?_⟩
    rintro ⟨p, listed, -⟩
    cases listed

end ProjectContext.CommandLine
