import ProjectContext.Context.Codec
import ProjectContext.Proofs.Json.RoundTrip
import ProjectContext.Proofs.Path.Lookup
import ProjectContext.Proofs.Text.Utf8

/-!
# The JSON form and back

Context maps and insights have a JSON text when their paths are texts
(`ContextMap.toJsonText?_eq_none`, `Insights.toJsonText?_eq_none`), and what is read from the text is
the value itself, with every path as it is spelled (`ContextMap.readJson_of_written`,
`Insights.readJson_of_written`).
-/

namespace ProjectContext

open Json

/-! ## Lists and fields -/

theorem mapM_eq_none {α β : Type*} {f : α → Option β} {as : List α} :
    as.mapM f = none ↔ ∃ a ∈ as, f a = none := by
  induction as with
  | nil => simp
  | cons a as ih =>
    rw [List.mapM_cons, List.exists_mem_cons_iff, ← ih]
    cases f a <;> cases as.mapM f <;> simp

theorem exists_of_forall₂ {α β : Type*} {R : α → β → Prop} {as : List α} {bs : List β}
    (related : List.Forall₂ R as bs) {b : β} (member : b ∈ bs) : ∃ a, R a b := by
  induction related with
  | nil => cases member
  | @cons a _ _ _ here _ ih =>
    rcases List.mem_cons.mp member with rfl | later
    · exact ⟨a, here⟩
    · exact ih later

theorem mapM_inverse {α β : Type*} {encode : α → Option β} {decode : β → Option α}
    {as : List α} {bs : List β} (written : as.mapM encode = some bs)
    (inverse : ∀ a b, encode a = some b → decode b = some a) : bs.mapM decode = some as := by
  rw [mapM_eq_some_iff] at written ⊢
  exact (written.imp inverse).flip

theorem list?_ofStrings (texts : List String) :
    (Value.ofStrings texts).list? Value.text? = some texts := by
  unfold Value.ofStrings Value.list?
  rw [mapM_eq_some_iff, List.forall₂_map_left_iff]
  exact List.forall₂_same.mpr fun _ _ => rfl

theorem printable_ofStrings (texts : List String) : Printable (Value.ofStrings texts) := by
  apply Printable.array
  intro item member
  obtain ⟨text, -, rfl⟩ := List.mem_map.mp member
  exact .text text

theorem printable_record {members : List (String × Value)}
    (each : ∀ member ∈ members, Printable member.2) : Printable (Value.record members) := by
  apply Printable.object
  · intro member listed
    obtain ⟨source, -, rfl⟩ := List.mem_map.mp listed
    rfl
  · intro member listed
    obtain ⟨source, present, rfl⟩ := List.mem_map.mp listed
    exact each source present

/-! ## Facts of a file -/

namespace FileFacts

theorem ofJson?_toJson (f : FileFacts) : ofJson? f.toJson = some f := by
  have fields : f.toJson.fields? fieldNames = some [.ofStrings f.functions, .ofStrings f.classes,
      .boolean f.isConversationFile, .ofString f.contentHash] := by
    rfl
  unfold ofJson?
  simp only [fields, list?_ofStrings, Option.bind_eq_bind, Option.bind_some]
  rfl

theorem printable_toJson (f : FileFacts) : Printable f.toJson := by
  apply printable_record
  intro member listed
  simp only [List.mem_cons, List.not_mem_nil, or_false] at listed
  rcases listed with rfl | rfl | rfl | rfl
  · exact printable_ofStrings f.functions
  · exact printable_ofStrings f.classes
  · exact .boolean f.isConversationFile
  · exact .text f.contentHash

end FileFacts

/-! ## Context maps -/

theorem PathMap.ofList_entries (m : PathMap α) : ofList m.entries = m := by
  have same := entries_ofList m.ascending
  generalize ofList m.entries = n at same
  cases m
  cases n
  cases same
  rfl

namespace ContextMap

theorem toJson?_eq_some {m : ContextMap} {v : Value} (written : toJson? m = some v) :
    ∃ members : List (String × Value), v = .record members ∧
      List.Forall₂ (fun (e : Path × FileFacts) member =>
        e.1 = .ofString member.1 ∧ member.2 = e.2.toJson) m.entries members := by
  unfold toJson? at written
  simp only [Option.bind_eq_bind, Option.bind_eq_some_iff, Option.pure_def, Option.some.injEq,
    mapM_eq_some_iff] at written
  obtain ⟨members, written, rfl⟩ := written
  refine ⟨members, rfl, written.imp ?_⟩
  intro e member found
  obtain ⟨text, spelled, rfl⟩ := Option.map_eq_some_iff.mp found
  exact ⟨Path.toString?_eq_some.mp spelled, rfl⟩

theorem toJson?_eq_none {m : ContextMap} :
    toJson? m = none ↔ ∃ key ∈ m.keys, ∀ text, key ≠ .ofString text := by
  have failed : toJson? m = none ↔
      m.entries.mapM (fun e => e.1.toString?.map fun name => (name, e.2.toJson)) = none := by
    unfold toJson?
    cases m.entries.mapM fun e => e.1.toString?.map fun name => (name, e.2.toJson) <;> simp
  rw [failed, mapM_eq_none]
  simp [PathMap.keys, Path.toString?_eq_none]

theorem ofJson?_toJson {m : ContextMap} {v : Value} (written : toJson? m = some v) :
    ofJson? v = some m := by
  obtain ⟨members, rfl, related⟩ := toJson?_eq_some written
  have read : (members.map fun member => (some member.1, member.2)).mapM
      (fun (member : Option String × Value) => do
        return (Path.ofString (← member.1), ← FileFacts.ofJson? member.2)) = some m.entries := by
    rw [mapM_eq_some_iff, List.forall₂_map_left_iff]
    refine related.flip.imp ?_
    rintro member e ⟨spelled, facts⟩
    simp [facts, FileFacts.ofJson?_toJson, ← spelled]
  have bound := congrArg (Option.bind · fun entries => some (PathMap.ofList entries)) read
  exact bound.trans (congrArg some (PathMap.ofList_entries m))

theorem printable_toJson {m : ContextMap} {v : Value} (written : toJson? m = some v) :
    Printable v := by
  obtain ⟨members, rfl, related⟩ := toJson?_eq_some written
  apply printable_record
  intro member listed
  obtain ⟨e, -, facts⟩ := exists_of_forall₂ related listed
  rw [facts]
  exact FileFacts.printable_toJson e.2

theorem readJson_of_written {m : ContextMap} {text : String} (written : toJsonText? m = some text) :
    readJson text = some m := by
  obtain ⟨v, encoded, rfl⟩ := Option.map_eq_some_iff.mp written
  unfold readJson
  rw [Value.read_pretty (printable_toJson encoded)]
  exact ofJson?_toJson encoded

theorem toJsonText?_eq_none {m : ContextMap} :
    toJsonText? m = none ↔ ∃ key ∈ m.keys, ∀ text, key ≠ .ofString text := by
  unfold toJsonText?
  rw [Option.map_eq_none_iff, toJson?_eq_none]

end ContextMap

/-! ## Insights -/

namespace ConversationFile

theorem toJson?_eq_some {f : ConversationFile} {v : Value} (written : f.toJson? = some v) :
    ∃ path, f.path = .ofString path ∧ v = .record [("path", .ofString path),
      ("functions", .ofStrings f.functions), ("classes", .ofStrings f.classes)] := by
  unfold toJson? at written
  simp only [Option.bind_eq_bind, Option.bind_eq_some_iff, Option.pure_def,
    Option.some.injEq] at written
  obtain ⟨path, spelled, rfl⟩ := written
  exact ⟨path, Path.toString?_eq_some.mp spelled, rfl⟩

theorem ofJson?_toJson {f : ConversationFile} {v : Value} (written : f.toJson? = some v) :
    ofJson? v = some f := by
  obtain ⟨path, spelled, rfl⟩ := toJson?_eq_some written
  have fields : (Value.record [("path", .ofString path), ("functions", .ofStrings f.functions),
      ("classes", .ofStrings f.classes)]).fields? fieldNames =
      some [.ofString path, .ofStrings f.functions, .ofStrings f.classes] := by
    rfl
  unfold ofJson?
  simp only [fields, list?_ofStrings, Option.bind_eq_bind, Option.bind_some]
  cases f
  cases spelled
  rfl

theorem printable_toJson {f : ConversationFile} {v : Value} (written : f.toJson? = some v) :
    Printable v := by
  obtain ⟨path, -, rfl⟩ := toJson?_eq_some written
  apply printable_record
  intro member listed
  simp only [List.mem_cons, List.not_mem_nil, or_false] at listed
  rcases listed with rfl | rfl | rfl
  · exact .text path
  · exact printable_ofStrings f.functions
  · exact printable_ofStrings f.classes

end ConversationFile

namespace Insights

theorem toJson?_eq_some {i : Insights} {v : Value} (written : i.toJson? = some v) :
    ∃ files, i.conversationFiles.mapM ConversationFile.toJson? = some files ∧
      v = .record [("total_files", .ofWord i.totalFiles),
        ("total_functions", .ofWord i.totalFunctions), ("total_classes", .ofWord i.totalClasses),
        ("conversation_files", .array files)] := by
  unfold toJson? at written
  simp only [Option.bind_eq_bind, Option.bind_eq_some_iff, Option.pure_def,
    Option.some.injEq] at written
  obtain ⟨files, encoded, rfl⟩ := written
  exact ⟨files, encoded, rfl⟩

theorem toJson?_eq_none {i : Insights} :
    i.toJson? = none ↔ ∃ f ∈ i.conversationFiles, ∀ text, f.path ≠ .ofString text := by
  have failed : i.toJson? = none ↔ i.conversationFiles.mapM ConversationFile.toJson? = none := by
    unfold toJson?
    cases i.conversationFiles.mapM ConversationFile.toJson? <;> simp
  have path (f : ConversationFile) : f.toJson? = none ↔ ∀ text, f.path ≠ .ofString text := by
    rw [← Path.toString?_eq_none]
    unfold ConversationFile.toJson?
    cases f.path.toString? <;> simp
  simp only [failed, mapM_eq_none, path]

theorem ofJson?_toJson {i : Insights} {v : Value} (written : i.toJson? = some v) :
    ofJson? v = some i := by
  obtain ⟨files, encoded, rfl⟩ := toJson?_eq_some written
  have fields : (Value.record [("total_files", .ofWord i.totalFiles),
      ("total_functions", .ofWord i.totalFunctions), ("total_classes", .ofWord i.totalClasses),
      ("conversation_files", .array files)]).fields? fieldNames =
      some [.ofWord i.totalFiles, .ofWord i.totalFunctions, .ofWord i.totalClasses,
        .array files] := by
    rfl
  have conversation : (Value.array files).list? ConversationFile.ofJson? =
      some i.conversationFiles :=
    mapM_inverse encoded fun _ _ => ConversationFile.ofJson?_toJson
  unfold ofJson?
  simp only [fields, word?_ofWord, conversation, Option.bind_eq_bind, Option.bind_some]
  rfl

theorem printable_toJson {i : Insights} {v : Value} (written : i.toJson? = some v) :
    Printable v := by
  obtain ⟨files, encoded, rfl⟩ := toJson?_eq_some written
  apply printable_record
  intro member listed
  simp only [List.mem_cons, List.not_mem_nil, or_false] at listed
  rcases listed with rfl | rfl | rfl | rfl
  · exact .natural i.totalFiles.toNat
  · exact .natural i.totalFunctions.toNat
  · exact .natural i.totalClasses.toNat
  · apply Printable.array
    intro item member
    obtain ⟨f, encoded⟩ := exists_of_forall₂ (mapM_eq_some_iff.mp encoded) member
    exact ConversationFile.printable_toJson encoded

theorem readJson_of_written {i : Insights} {text : String} (written : i.toJsonText? = some text) :
    readJson text = some i := by
  obtain ⟨v, encoded, rfl⟩ := Option.map_eq_some_iff.mp written
  unfold readJson
  rw [Value.read_pretty (printable_toJson encoded)]
  exact ofJson?_toJson encoded

theorem toJsonText?_eq_none {i : Insights} :
    i.toJsonText? = none ↔ ∃ f ∈ i.conversationFiles, ∀ text, f.path ≠ .ofString text := by
  unfold toJsonText?
  rw [Option.map_eq_none_iff, toJson?_eq_none]

end Insights

end ProjectContext
