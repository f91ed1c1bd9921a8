import ProjectContext.Proofs.Context.Codec

/-!
# Reading and writing undo each other

The readers build every path from a text of the JSON value (`ContextMap.keys_of_readJson`,
`Insights.paths_of_readJson`), so what they accept has a JSON text again. With the way back of what
was written this gives the round trips of both kinds of values (`json_round_trips`); that a text is
settled once it has been read and written follows for any reader and writer (`RoundTrips.of_back`).
-/

namespace ProjectContext

open Json

/-! ## Readers and writers -/

/-- The text in which the value that a text spells is written. -/
def rewrite? {α : Type*} (read : String → Option α) (write : α → Option String) (text : String) :
    Option String :=
  (read text).bind write

/-- A value is written exactly when all its paths are UTF-8, the reader gives back what was written,
what the reader accepts can be written, and writing what was read changes a text at most once. -/
structure RoundTrips {α : Type*} (read : String → Option α) (write : α → Option String)
    (paths : α → List Path) : Prop where
  writes : ∀ a, (∃ text, write a = some text) ↔ ∀ p ∈ paths a, ∃ name, p = .ofString name
  back : ∀ a text, write a = some text → read text = some a
  again : ∀ text a, read text = some a → ∃ written, write a = some written ∧ read written = some a
  settled : ∀ text written, rewrite? read write text = some written →
    rewrite? read write written = some written

theorem RoundTrips.of_back {α : Type*} {read : String → Option α} {write : α → Option String}
    {paths : α → List Path}
    (fails : ∀ a, write a = none ↔ ∃ p ∈ paths a, ∀ name, p ≠ .ofString name)
    (back : ∀ a text, write a = some text → read text = some a)
    (named : ∀ text a, read text = some a → ∀ p ∈ paths a, ∃ name, p = .ofString name) :
    RoundTrips read write paths := by
  have writes (a : α) :
      (∃ text, write a = some text) ↔ ∀ p ∈ paths a, ∃ name, p = .ofString name := by
    rw [← Option.ne_none_iff_exists', Ne, fails]
    push Not
    rfl
  refine ⟨writes, back, fun text a spelled => ?_, fun text written rewritten => ?_⟩
  · obtain ⟨written, encoded⟩ := (writes a).mpr (named text a spelled)
    exact ⟨written, encoded, back a written encoded⟩
  · obtain ⟨a, -, encoded⟩ := Option.bind_eq_some_iff.mp rewritten
    rw [rewrite?, back a written encoded]
    exact encoded

/-! ## Context maps -/

/-- Every key of a map comes, with its spelling, from one of the entries it was made of. -/
theorem PathMap.exists_of_key_ofList {entries : List (Path × α)} {key : Path}
    (listed : key ∈ (ofList entries).keys) : ∃ e ∈ entries, e.1 = key := by
  have spelled := spelling?_eq_self.mpr listed
  have fresh : (empty : PathMap α).spelling? key = none := rfl
  rw [ofList, spelling?_insertAll, fresh, Option.none_or] at spelled
  exact List.mem_map.mp (List.mem_of_find?_eq_some spelled)

namespace ContextMap

theorem ofJson?_eq_some {v : Value} {m : ContextMap} (read : ofJson? v = some m) :
    ∃ entries, m = PathMap.ofList entries ∧ ∀ e ∈ entries, ∃ name, e.1 = .ofString name := by
  cases v with
  | object members =>
    obtain ⟨entries, decoded, made⟩ := Option.bind_eq_some_iff.mp read
    refine ⟨entries, (Option.some.inj made).symm, fun e member => ?_⟩
    obtain ⟨⟨name, value⟩, here⟩ := exists_of_forall₂ (mapM_eq_some_iff.mp decoded) member
    simp only [Option.bind_eq_bind, Option.bind_eq_some_iff, Option.pure_def,
      Option.some.injEq] at here
    obtain ⟨name, -, facts, -, rfl⟩ := here
    exact ⟨name, rfl⟩
  | null => cases read
  | boolean b => cases read
  | number literal => cases read
  | text s => cases read
  | array items => cases read

theorem keys_of_readJson {text : String} {m : ContextMap} (read : readJson text = some m) :
    ∀ key ∈ m.keys, ∃ name, key = .ofString name := by
  obtain ⟨v, -, decoded⟩ := Option.bind_eq_some_iff.mp read
  obtain ⟨entries, rfl, named⟩ := ofJson?_eq_some decoded
  intro key listed
  obtain ⟨e, member, rfl⟩ := PathMap.exists_of_key_ofList listed
  exact named e member

end ContextMap

/-! ## Insights -/

theorem ConversationFile.path_of_ofJson? {v : Value} {f : ConversationFile}
    (read : ofJson? v = some f) : ∃ name, f.path = .ofString name := by
  obtain ⟨fields, -, decoded⟩ := Option.bind_eq_some_iff.mp read
  match fields, decoded with
  | [path, functions, classes], decoded =>
    simp only [Option.bind_eq_bind, Option.bind_eq_some_iff, Option.pure_def,
      Option.some.injEq] at decoded
    obtain ⟨name, -, -, -, -, -, rfl⟩ := decoded
    exact ⟨name, rfl⟩

namespace Insights

def paths (i : Insights) : List Path := i.conversationFiles.map (·.path)

theorem ofJson?_eq_some {v : Value} {i : Insights} (read : ofJson? v = some i) :
    ∃ item : Value, item.list? ConversationFile.ofJson? = some i.conversationFiles := by
  obtain ⟨fields, -, decoded⟩ := Option.bind_eq_some_iff.mp read
  match fields, decoded with
  | [files, functions, classes, conversation], decoded =>
    simp only [Option.bind_eq_bind, Option.bind_eq_some_iff, Option.pure_def,
      Option.some.injEq] at decoded
    obtain ⟨-, -, -, -, -, -, listed, found, rfl⟩ := decoded
    exact ⟨conversation, found⟩

theorem paths_of_readJson {text : String} {i : Insights} (read : readJson text = some i) :
    ∀ p ∈ i.paths, ∃ name, p = .ofString name := by
  obtain ⟨v, -, decoded⟩ := Option.bind_eq_some_iff.mp read
  obtain ⟨item, listed⟩ := ofJson?_eq_some decoded
  intro p member
  obtain ⟨f, mentioned, rfl⟩ := List.mem_map.mp member
  cases item with
  | array items =>
    obtain ⟨value, here⟩ := exists_of_forall₂ (mapM_eq_some_iff.mp listed) mentioned
    exact ConversationFile.path_of_ofJson? here
  | null => cases listed
  | boolean b => cases listed
  | number literal => cases listed
  | text s => cases listed
  | object members => cases listed

end Insights

theorem json_round_trips :
    RoundTrips ContextMap.readJson ContextMap.toJsonText? PathMap.keys ∧
      RoundTrips Insights.readJson Insights.toJsonText? Insights.paths := by
  constructor
  · exact .of_back (fun _ => ContextMap.toJsonText?_eq_none)
      (fun _ _ => ContextMap.readJson_of_written) fun _ _ => ContextMap.keys_of_readJson
  · refine .of_back (fun i => ?_) (fun _ _ => Insights.readJson_of_written)
      fun _ _ => Insights.paths_of_readJson
    simp [Insights.toJsonText?_eq_none, Insights.paths]

/-- Two spellings of one path; the facts are a list in one place and out of order in the other. -/
theorem respelled_key_round_trips :
    let text := "\x7B\"d/a.py\": [[], [], false, \"0\"], " ++
      "\"d//a.py\": \x7B\"classes\": [\"\\u0043\\n\"], " ++
      "\"functions\": [], \"content_hash\": \"1\", \"is_conversation_file\": true\x7D\x7D"
    ∃ m, ContextMap.readJson text = some m ∧
      m.entries = [(.ofString "d/a.py", ⟨[], ["C\n"], true, "1"⟩)] ∧
      ∃ written, m.toJsonText? = some written ∧ ContextMap.readJson written = some m := by
  intro text
  have read : ContextMap.readJson text =
      some (.ofList [(.ofString "d/a.py", ⟨[], ["C\n"], true, "1"⟩)]) := by
    decide +kernel
  exact ⟨_, read, rfl, json_round_trips.1.again text _ read⟩

end ProjectContext
