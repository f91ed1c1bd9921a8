import Mathlib.Data.List.Nodup
import ProjectContext.Proofs.CommandLine.Argument

/-!
# Command lines that write an invocation

An invocation can be written with its arguments in any order and any form, and it is read back as it
was written; what is written with an argument too often or without the root is refused
(`written_invocation_read`).
-/

namespace ProjectContext.CommandLine

def Command.word : Command → Bytes
  | .report _ _ => .ofString "report"
  | .context _ => .ofString "context"

/-- The values of an option that can be left out when its value is the default. -/
def Chosen {β : Type} (values : List β) (default choice : β) : Prop :=
  values = [choice] ∨ values = [] ∧ choice = default

def Command.FormatChosen (formats : List OutputFormat) : Command → Prop
  | .report _ format => Chosen formats .text format
  | .context _ => formats = []

def Command.takesFormat : Command → Bool
  | .report _ _ => true
  | .context _ => false

/-- The command of the same name with the arguments that have been read. -/
def Command.remade : Command → SessionArgs × Reading → Command
  | .report _ _, (session, a) => .report session (a.format.getD .text)
  | .context _, (session, _) => .context session

def Command.start (command : Command) : Reading := { withFormat := command.takesFormat }

theorem Command.start_has (command : Command) (name : OptionName) :
    command.start.has name = false := by
  rcases name with _ | _ | _ | _ | (_ | _ | _ | _) <;> rfl

/-- The words in front of the subcommand and the arguments behind it write the invocation, in
whatever order. -/
structure Writes (i : Invocation) (front : List Bytes) (args : List Argument) : Prop where
  switches : ∀ w ∈ front, w ∈ verboseWords
  verbose : front.length + (Argument.singles args).count .verbose = i.verbose.toNat
  root : args.filterMap Argument.root? = [i.command.session.path]
  conversationFiles :
    args.filterMap Argument.conversationFile? = i.command.session.conversationFiles
  strict : (Argument.singles args).count .strict = i.command.session.strict.toNat
  gitignore : (Argument.singles args).count .gitignore = i.command.session.gitignore.toNat
  convention : Chosen (args.filterMap Argument.convention?) .python i.command.session.convention
  format : i.command.FormatChosen (args.filterMap Argument.format?)

theorem Chosen.length_le {β : Type} {values : List β} {default choice : β}
    (chosen : Chosen values default choice) : values.length ≤ 1 := by
  rcases chosen with rfl | ⟨rfl, -⟩ <;> simp

theorem Chosen.getD {β : Type} {values : List β} {default choice : β}
    (chosen : Chosen values default choice) : (values.getLast?.or none).getD default = choice := by
  rcases chosen with rfl | ⟨rfl, rfl⟩ <;> rfl

theorem Command.FormatChosen.length_le {formats : List OutputFormat} {command : Command}
    (chosen : command.FormatChosen formats) : formats.length ≤ 1 := by
  cases command with
  | report session format => exact Chosen.length_le chosen
  | context session =>
    rw [show formats = [] from chosen]
    simp

theorem Command.FormatChosen.takesFormat {formats : List OutputFormat} {command : Command}
    (chosen : command.FormatChosen formats) (given : 0 < formats.length) : command.takesFormat := by
  cases command with
  | report session format => rfl
  | context session =>
    rw [show formats = [] from chosen] at given
    cases given

theorem Command.FormatChosen.remade {formats : List OutputFormat} {command : Command}
    (chosen : command.FormatChosen formats) {a : Reading}
    (given : a.format = formats.getLast?.or none) :
    command.remade (command.session, a) = command := by
  cases command with
  | report session format =>
    have same : a.format.getD .text = format := by rw [given, Chosen.getD chosen]
    rw [Command.remade, same]
    rfl
  | context session => rfl

namespace Writes

variable {i : Invocation} {front : List Bytes} {args : List Argument}

theorem count_le_one (writes : Writes i front args) (name : OptionName) :
    (Argument.singles args).count name ≤ 1 := by
  have never {name : OptionName} (other : ∀ x : Argument, x.single? ≠ some name) :
      (Argument.singles args).count name = 0 := by
    rw [List.count_eq_zero]
    intro listed
    obtain ⟨x, -, single⟩ := List.mem_filterMap.mp listed
    exact other x single
  match name with
  | .verbose =>
    have total := writes.verbose
    have bound := i.verbose.toNat_le
    omega
  | .strict =>
    rw [writes.strict]
    exact Bool.toNat_le _
  | .gitignore =>
    rw [writes.gitignore]
    exact Bool.toNat_le _
  | .slot .path =>
    rw [Argument.picks_root?.count, writes.root]
    simp
  | .slot .convention =>
    rw [Argument.picks_convention?.count]
    exact writes.convention.length_le
  | .slot .format =>
    rw [Argument.picks_format?.count]
    exact writes.format.length_le
  | .slot .conversationFile => rw [never (by rintro (_ | _ | _ | _ | _ | _ | _) <;> nofun)]; simp
  | .help => rw [never (by rintro (_ | _ | _ | _ | _ | _ | _) <;> nofun)]; simp

theorem separable (writes : Writes i front args) (root : Separable i.command.session.path)
    (files : ∀ p ∈ i.command.session.conversationFiles, Separable p) :
    ∀ x ∈ args, x.Separable := by
  intro x member
  cases x with
  | root p =>
    have listed : p ∈ args.filterMap Argument.root? := List.mem_filterMap.mpr ⟨_, member, rfl⟩
    rw [writes.root, List.mem_singleton] at listed
    exact listed ▸ root
  | conversationFile form p =>
    refine files p ?_
    rw [← writes.conversationFiles]
    exact List.mem_filterMap.mpr ⟨_, member, rfl⟩
  | _ => trivial

theorem accepts (writes : Writes i front args) : i.command.start.AcceptsAll args := by
  refine ⟨?_, fun name _ => i.command.start_has name, fun listed => ?_⟩
  · exact List.nodup_iff_count_le_one.mpr writes.count_le_one
  · refine writes.format.takesFormat ?_
    rw [← Argument.picks_format?.count, List.count_pos_iff]
    exact listed

theorem session_read (writes : Writes i front args) (separable : ∀ x ∈ args, x.Separable) :
    i.command.start.readSession (args.flatMap Argument.words) =
      .ok (i.command.session, i.command.start.takeAll args) := by
  have path : (i.command.start.takeAll args).path = some i.command.session.path := by
    rw [Reading.takeAll_path, writes.root]
    rfl
  have files : (i.command.start.takeAll args).conversationFiles =
      i.command.session.conversationFiles := by
    rw [Reading.takeAll_conversationFiles, writes.conversationFiles]
    rfl
  have strict : (i.command.start.takeAll args).strict = i.command.session.strict :=
    Reading.takeAll_of_count (i.command.start_has .strict) writes.strict
  have gitignore : (i.command.start.takeAll args).gitignore = i.command.session.gitignore :=
    Reading.takeAll_of_count (i.command.start_has .gitignore) writes.gitignore
  have convention : (i.command.start.takeAll args).convention.getD .python =
      i.command.session.convention := by
    rw [Reading.takeAll_convention]
    exact writes.convention.getD
  rw [Reading.readSession_arguments rfl separable,
    Reading.finish_eq_ok (Reading.takeAll_pending ..)]
  refine ⟨writes.accepts, _, path, ?_⟩
  rw [files, strict, gitignore, convention]

theorem verbose_read (writes : Writes i front args) :
    (!front.isEmpty || (i.command.start.takeAll args).verbose) = i.verbose := by
  have behind : (i.command.start.takeAll args).verbose ↔
      0 < (Argument.singles args).count .verbose := by
    refine (Reading.takeAll_has i.command.start args .verbose).trans ?_
    rw [i.command.start_has, List.count_pos_iff]
    simp
  have total := writes.verbose
  have switched : front ≠ [] ↔ 0 < front.length := List.length_pos_iff.symm
  rw [Bool.eq_iff_iff, Bool.or_eq_true, behind, Bool.not_eq_true', List.isEmpty_eq_false_iff,
    switched]
  cases on : i.verbose with
  | false =>
    rw [on, Bool.toNat_false] at total
    simp only [Bool.false_eq_true, iff_false]
    omega
  | true =>
    rw [on, Bool.toNat_true] at total
    simp only [iff_true]
    omega

end Writes

theorem readFrom_command (verbose : Bool) (command : Command) (words : List Bytes) :
    readFrom verbose (command.word :: words) =
      (command.start.readSession words).map fun r =>
        ⟨verbose || r.2.verbose, command.remade r⟩ := by
  cases command with
  | report session format =>
    have named : Subcommand.ofBytes? (.ofString "report") = some .report := by decide +kernel
    rw [Command.word, readFrom, named]
    exact readSession_made { withFormat := true } (Command.report session format).remade verbose
      words
  | context session =>
    have named : Subcommand.ofBytes? (.ofString "context") = some .context := by decide +kernel
    rw [Command.word, readFrom, named]
    exact readSession_made { withFormat := false } (Command.context session).remade verbose words

theorem read_front {front : List Bytes} (switches : ∀ w ∈ front, w ∈ verboseWords)
    (words : List Bytes) :
    (front.length ≤ 1 ∧ read (front ++ words) = readFrom (!front.isEmpty) words) ∨
      2 ≤ front.length ∧ ∃ e, read (front ++ words) = .error e := by
  match front, switches with
  | [], _ => exact .inl ⟨by simp, rfl⟩
  | [w], switches =>
    have switch := switches w List.mem_cons_self
    exact .inl ⟨by simp, (readFrom_switch switch words).1⟩
  | w :: w' :: front, switches =>
    obtain ⟨first, others⟩ := List.forall_mem_cons.mp switches
    obtain ⟨second, -⟩ := List.forall_mem_cons.mp others
    obtain ⟨e, failed⟩ := (readFrom_switch second (front ++ words)).2
    exact .inr ⟨by simp, e, ((readFrom_switch first _).1).trans failed⟩

theorem read_of_writes {i : Invocation} {front : List Bytes} {args : List Argument}
    (writes : Writes i front args) (separable : ∀ x ∈ args, x.Separable) :
    read (front ++ i.command.word :: args.flatMap Argument.words) = .ok i := by
  have session := writes.session_read separable
  have command : i.command.remade (i.command.session, i.command.start.takeAll args) = i.command :=
    writes.format.remade (Reading.takeAll_format ..)
  rcases read_front writes.switches (i.command.word :: args.flatMap Argument.words) with
    ⟨-, read⟩ | ⟨many, -⟩
  · rw [read, readFrom_command, session, Except.map]
    simp only [command, writes.verbose_read]
  · -- Two switches in front are more than the invocation has.
    have total := writes.verbose
    have bound := i.verbose.toNat_le
    omega

theorem written_invocation_read :
    (∀ i : Invocation, Separable i.command.session.path →
      (∀ p ∈ i.command.session.conversationFiles, Separable p) → ∀ front args, Writes i front args →
        read (front ++ i.command.word :: args.flatMap Argument.words) = .ok i) ∧
    ∀ (command : Command) front (args : List Argument), (∀ w ∈ front, w ∈ verboseWords) →
      (∀ x ∈ args, x.Separable) →
      (∃ name, 2 ≤ (Argument.singles args).count name) ∨ args.filterMap Argument.root? = [] →
        ∃ e, read (front ++ command.word :: args.flatMap Argument.words) = .error e := by
  constructor
  · intro i root files front args writes
    exact read_of_writes writes (writes.separable root files)
  · intro command front args switches separable wrong
    rcases read_front switches (command.word :: args.flatMap Argument.words) with
      ⟨-, read⟩ | ⟨-, failed⟩
    · rw [read, readFrom_command]
      cases session : command.start.readSession (args.flatMap Argument.words) with
      | error e => exact ⟨e, rfl⟩
      | ok r =>
        exfalso
        rw [Reading.readSession_arguments rfl separable,
          Reading.finish_eq_ok (Reading.takeAll_pending ..)] at session
        obtain ⟨accepts, p, path, -⟩ := session
        rcases wrong with ⟨name, twice⟩ | rootless
        · have once := List.nodup_iff_count_le_one.mp accepts.nodup name
          omega
        · rw [Reading.takeAll_path, rootless] at path
          cases path
    · exact failed

/-- Options around the root, in all their forms; a second root is one too many. -/
theorem scattered_arguments_read :
    let front : List Bytes := [.ofString "-v", .ofString "report", .ofString "-c", .ofString "a.py",
      .ofString "--format=json", .ofString "d", .ofString "--strict",
      .ofString "--conversation-file=b.py", .ofString "--convention", .ofString "auto"]
    let back : List Bytes :=
      [.ofString "--gitignore", .ofString "--conversation-file", .ofString "c.py"]
    read (front ++ back) = .ok ⟨true, .report
      { path := .ofString "d", strict := true, gitignore := true, convention := .auto
        conversationFiles := [.ofString "a.py", .ofString "b.py", .ofString "c.py"] } .json⟩ ∧
    ∃ e, read (front ++ .ofString "e" :: back) = .error e := by
  let session : SessionArgs := {
    path := .ofString "d", strict := true, gitignore := true, convention := .auto
    conversationFiles := [.ofString "a.py", .ofString "b.py", .ofString "c.py"] }
  let front : List Argument := [.conversationFile .short (.ofString "a.py"), .format true .json,
    .root (.ofString "d"), .strict, .conversationFile .attached (.ofString "b.py"),
    .convention false .auto]
  let back : List Argument := [.gitignore, .conversationFile .long (.ofString "c.py")]
  have writes : Writes ⟨true, .report session .json⟩ [.ofString "-v"] (front ++ back) :=
    ⟨by decide, rfl, rfl, rfl, rfl, rfl, .inl rfl, Or.inl rfl⟩
  constructor
  · exact written_invocation_read.1 ⟨true, .report session .json⟩ (by decide) (by decide) _ _ writes
  · exact written_invocation_read.2 (.report session .json) [.ofString "-v"]
      (front ++ .root (.ofString "e") :: back) (by decide) (by decide)
      (.inl ⟨.slot .path, by decide⟩)

end ProjectContext.CommandLine
