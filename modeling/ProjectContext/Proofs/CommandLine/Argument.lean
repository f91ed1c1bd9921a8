import Mathlib.Data.List.TakeDrop
import ProjectContext.Proofs.CommandLine.Switch

/-!
# The arguments of a subcommand

Each argument that is written in one of its forms is read as a whole, wherever it stands: it changes
what has been read in its own place (`Reading.given`), unless it has come already
(`Reading.readSession_argument`). So arguments in any order are read one after the other
(`Reading.readSession_arguments`).
-/

namespace ProjectContext.CommandLine

/-! ## Arguments as they are written -/

inductive FileForm
  | short
  | long
  | attached
deriving DecidableEq, Repr

inductive Argument
  | root (path : Path)
  | conversationFile (form : FileForm) (path : Path)
  | convention (attached : Bool) (choice : ConventionChoice)
  | format (attached : Bool) (choice : OutputFormat)
  | strict
  | gitignore
  | verbose (long : Bool)
deriving DecidableEq, Repr

def longWord (name : String) : Bytes := hyphen :: hyphen :: Bytes.ofString name

def attachedWord (name : String) (value : Bytes) : Bytes := longWord name ++ equalsSign :: value

/-- A long option with its value, behind an equals sign or as a word of its own. -/
def optionWords (name : String) (attached : Bool) (value : Bytes) : List Bytes :=
  if attached then [attachedWord name value] else [longWord name, value]

namespace Argument

def words : Argument → List Bytes
  | .root path => [path.bytes]
  | .conversationFile .short path => [.ofString "-c", path.bytes]
  | .conversationFile .long path => optionWords "conversation-file" false path.bytes
  | .conversationFile .attached path => optionWords "conversation-file" true path.bytes
  | .convention attached choice => optionWords "convention" attached (.ofString choice.name)
  | .format attached choice => optionWords "format" attached (.ofString choice.name)
  | .strict => [longWord "strict"]
  | .gitignore => [longWord "gitignore"]
  | .verbose false => [.ofString "-v"]
  | .verbose true => [.ofString "--verbose"]

/-- What the argument is, unless it can be given many times. -/
def single? : Argument → Option OptionName
  | .root _ => some (.slot .path)
  | .conversationFile _ _ => none
  | .convention _ _ => some (.slot .convention)
  | .format _ _ => some (.slot .format)
  | .strict => some .strict
  | .gitignore => some .gitignore
  | .verbose _ => some .verbose

def root? : Argument → Option Path
  | .root path => some path
  | _ => none

def conversationFile? : Argument → Option Path
  | .conversationFile _ path => some path
  | _ => none

def convention? : Argument → Option ConventionChoice
  | .convention _ choice => some choice
  | _ => none

def format? : Argument → Option OutputFormat
  | .format _ choice => some choice
  | _ => none

end Argument

/-- A path that can stand as a word of its own. -/
def Separable (p : Path) : Prop := p.bytes ≠ [] ∧ p.bytes.head? ≠ some hyphen

instance (p : Path) : Decidable (Separable p) := inferInstanceAs (Decidable (_ ∧ _))

def Argument.Separable : Argument → Prop
  | .root path | .conversationFile _ path => CommandLine.Separable path
  | _ => True

instance (x : Argument) : Decidable x.Separable :=
  match x with
  | .root path | .conversationFile _ path =>
    inferInstanceAs (Decidable (CommandLine.Separable path))
  | .convention _ _ | .format _ _ | .strict | .gitignore | .verbose _ => isTrue trivial

theorem Word.ofBytes_separable {p : Path} (separable : Separable p) :
    Word.ofBytes p.bytes = .plain p.bytes := by
  obtain ⟨-, first⟩ := separable
  unfold Word.ofBytes
  split
  next a b rest same =>
    have other : a ≠ hyphen := by
      rintro rfl
      rw [same] at first
      exact first rfl
    simp [other, same]
  next => rfl

theorem splitValue_eq {name : Bytes} (unsplit : equalsSign ∉ name) :
    splitValue name = (name, none) ∧
      ∀ value, splitValue (name ++ equalsSign :: value) = (name, some value) := by
  have all : ∀ b ∈ name, (b != equalsSign) = true := by
    intro b member
    exact bne_iff_ne.mpr fun same => unsplit (same ▸ member)
  have cut (tail : Bytes) : (name ++ tail).span (· != equalsSign) =
      (name ++ tail.takeWhile (· != equalsSign), tail.dropWhile (· != equalsSign)) := by
    rw [List.span_eq_takeWhile_dropWhile, List.takeWhile_append_of_pos all,
      List.dropWhile_append_of_pos all]
  constructor
  · have whole := cut []
    rw [List.append_nil] at whole
    rw [splitValue, whole]
    simp
  · intro value
    rw [splitValue, cut]
    simp

def IsOptionName (name : String) : Prop :=
  Bytes.ofString name ≠ [] ∧ equalsSign ∉ Bytes.ofString name

instance (name : String) : Decidable (IsOptionName name) := inferInstanceAs (Decidable (_ ∧ _))

theorem Word.ofBytes_longWord {name : String} (isName : IsOptionName name) :
    Word.ofBytes (longWord name) = .long (.ofString name) none := by
  obtain ⟨nonempty, unsplit⟩ := isName
  simp [longWord, Word.ofBytes, nonempty, (splitValue_eq unsplit).1]

theorem Word.ofBytes_attachedWord {name : String} (isName : IsOptionName name) (value : Bytes) :
    Word.ofBytes (attachedWord name value) = .long (.ofString name) (some value) := by
  simp [attachedWord, longWord, Word.ofBytes, (splitValue_eq isName.2).2]

namespace Reading

variable {a : Reading} {r : SessionArgs × Reading} {words : List Bytes}

/-! ## Values that wait -/

/-- A value that waits to be checked is set before anything else is read. -/
theorem readSession_waiting {slot : Slot} {value : Bytes} (pending : a.pending = none) :
    ({ a with pending := some (slot, some value) } : Reading).readSession words = .ok r ↔
      ∃ b, a.store slot value = .ok b ∧ b.readSession words = .ok r := by
  have settle : ({ a with pending := some (slot, some value) } : Reading).settle =
      a.store slot value := by
    have same : ({ a with pending := none } : Reading) = a := by rw [← pending]
    rw [Reading.settle]
    exact congrArg (·.store slot value) same
  rw [← settle]
  constructor
  · intro read
    refine readSession_settles ?_ read
    rintro ⟨other, awaits⟩
    cases awaits
  · rintro ⟨b, settled, read⟩
    rw [← readSession_of_settled settled, read]

theorem settle_of_pending (pending : a.pending = none) : a.settle = .ok a := by
  rw [settle, pending]

theorem readSession_word {word : Bytes} (unescaped : Word.ofBytes word ≠ .escape) :
    a.readSession (word :: words) = a.readWord (Word.ofBytes word) >>= (·.readSession words) := by
  rw [readSession, readWords_cons unescaped]
  cases a.readWord (Word.ofBytes word) <;> rfl

/-! ## Reading an argument -/

theorem readSession_valued {slot : Slot} {word value : Bytes} (pending : a.pending = none)
    (unescaped : Word.ofBytes word ≠ .escape)
    (awaits : a.readWord (Word.ofBytes word) = .ok { a with pending := some (slot, none) })
    (plain : Word.ofBytes value = .plain value) :
    a.readSession (word :: value :: words) = .ok r ↔
      ∃ b, a.store slot value = .ok b ∧ b.readSession words = .ok r := by
  rw [readSession_word unescaped, awaits, ok_bind, readSession_word (by simp [plain]), plain,
    ← readSession_waiting pending]
  rfl

theorem readSession_option {slot : Slot} {name : String} (pending : a.pending = none)
    (isName : IsOptionName name) (named : a.longOption? (.ofString name) = some (.slot slot))
    {value : Bytes} (plain : Word.ofBytes value = .plain value) (attached : Bool) :
    a.readSession (optionWords name attached value ++ words) = .ok r ↔
      ∃ b, a.store slot value = .ok b ∧ b.readSession words = .ok r := by
  have settled := settle_of_pending pending
  cases attached with
  | true =>
    have shape := Word.ofBytes_attachedWord isName value
    simp only [optionWords, if_true, List.singleton_append]
    rw [readSession_word (by simp [shape]), shape, bind_eq_ok]
    simp only [readWord, readLong, named, settled, ok_bind]
  | false =>
    have shape := Word.ofBytes_longWord isName
    refine readSession_valued pending (by simp [shape]) ?_ plain
    simp only [shape, readWord, readLong, named, settled, ok_bind]
    rfl

theorem readSession_unknown {name : String} (isName : IsOptionName name)
    (unknown : a.longOption? (.ofString name) = none) (value : Bytes) (attached : Bool) :
    a.readSession (optionWords name attached value ++ words) ≠ .ok r := by
  cases attached with
  | true =>
    have shape := Word.ofBytes_attachedWord isName value
    simp only [optionWords, if_true, List.singleton_append]
    rw [readSession_word (by simp [shape]), shape]
    simp [readWord, readLong, unknown, bind_eq_ok]
  | false =>
    have shape := Word.ofBytes_longWord isName
    simp only [optionWords, Bool.false_eq_true, if_false, List.cons_append]
    rw [readSession_word (by simp [shape]), shape]
    simp [readWord, readLong, unknown, bind_eq_ok]

theorem longOption?_switches (a : Reading) :
    a.longOption? (.ofString "strict") = some .strict ∧
      a.longOption? (.ofString "gitignore") = some .gitignore ∧
      a.longOption? (.ofString "conversation-file") = some (.slot .conversationFile) ∧
      a.longOption? (.ofString "convention") = some (.slot .convention) ∧
      a.longOption? (.ofString "format") = if a.withFormat then some (.slot .format) else none := by
  unfold longOption?
  cases a.withFormat <;> decide +kernel

def has (a : Reading) : OptionName → Bool
  | .verbose => a.verbose
  | .strict => a.strict
  | .gitignore => a.gitignore
  | .slot .path => a.positional
  | .slot .convention => a.convention.isSome
  | .slot .format => a.format.isSome
  | .slot .conversationFile | .help => false

/-- What an argument makes of a reading in which nothing waits. -/
def given (a : Reading) : Argument → Reading
  | .root path => { a with path := some path, positional := true }
  | .conversationFile _ path => { a with conversationFiles := a.conversationFiles ++ [path] }
  | .convention _ choice => { a with convention := some choice }
  | .format _ choice => { a with format := some choice }
  | .strict => { a with strict := true }
  | .gitignore => { a with gitignore := true }
  | .verbose _ => { a with verbose := true }

/-- The subcommand has the argument, and it is new if it can be given only once. -/
structure Accepts (a : Reading) (x : Argument) : Prop where
  fresh : ∀ name ∈ x.single?, a.has name = false
  known : x.single? = some (.slot .format) → a.withFormat

theorem accepts_single {x : Argument} {name : OptionName} (single : x.single? = some name)
    (other : name ≠ .slot .format) : a.Accepts x ↔ a.has name = false := by
  constructor
  · exact fun accepts => accepts.fresh name single
  · refine fun fresh => ⟨fun same here => ?_, fun here => ?_⟩
    · rw [single] at here
      cases here
      exact fresh
    · rw [single] at here
      exact absurd (Option.some.inj here) other

theorem accepts_conversationFile (form : FileForm) (p : Path) :
    a.Accepts (.conversationFile form p) :=
  ⟨nofun, nofun⟩

theorem accepts_format (attached : Bool) (choice : OutputFormat) :
    a.Accepts (.format attached choice) ↔ a.format.isSome = false ∧ a.withFormat := by
  constructor
  · exact fun accepts => ⟨accepts.fresh _ rfl, accepts.known rfl⟩
  · rintro ⟨fresh, known⟩
    refine ⟨fun name here => ?_, fun _ => known⟩
    cases here
    exact fresh

theorem store_path {p : Path} (separable : Separable p) (a : Reading) :
    a.store .path p.bytes = .ok { a with path := some p } := by
  simp [store, checkPath, separable.1]

theorem store_conversationFile {p : Path} (separable : Separable p) (a : Reading) :
    a.store .conversationFile p.bytes =
      .ok { a with conversationFiles := a.conversationFiles ++ [p] } := by
  simp [store, checkPath, separable.1]

theorem store_convention (a : Reading) (choice : ConventionChoice) :
    a.store .convention (.ofString choice.name) =
      if a.convention.isSome then .error .argumentConflict
      else .ok { a with convention := some choice } := by
  have checked :
      checkChoice ConventionChoice.all (·.name) (.ofString choice.name) = .ok choice := by
    cases choice <;> decide
  simp only [store, checked]
  split <;> rfl

theorem store_format (a : Reading) (choice : OutputFormat) :
    a.store .format (.ofString choice.name) =
      if a.format.isSome then .error .argumentConflict
      else .ok { a with format := some choice } := by
  have checked : checkChoice OutputFormat.all (·.name) (.ofString choice.name) = .ok choice := by
    cases choice <;> decide
  simp only [store, checked]
  split <;> rfl

theorem exists_unless {came : Bool} {e : UsageError} {next : Reading} {p : Reading → Prop} :
    (∃ b, (if came then .error e else .ok next : Except UsageError Reading) = .ok b ∧ p b) ↔
      came = false ∧ p next := by
  cases came <;> simp

theorem readSession_switch {word : Bytes} {next : Reading} {came : Bool}
    (unescaped : Word.ofBytes word ≠ .escape)
    (read : a.readWord (Word.ofBytes word) = if came then .error .argumentConflict else .ok next) :
    a.readSession ([word] ++ words) = .ok r ↔ came = false ∧ next.readSession words = .ok r := by
  rw [List.singleton_append, readSession_word unescaped, read, bind_eq_ok, exists_unless]

theorem readSession_longSwitch {name : String} {next : Reading} {came : Bool}
    (isName : IsOptionName name)
    (read : a.readLong (.ofString name) none =
      if came then .error .argumentConflict else .ok next) :
    a.readSession ([longWord name] ++ words) = .ok r ↔
      came = false ∧ next.readSession words = .ok r := by
  have shape := Word.ofBytes_longWord isName
  refine readSession_switch (by simp [shape]) ?_
  rw [shape, readWord, read]

theorem readSession_root (pending : a.pending = none) {p : Path} (separable : Separable p) :
    a.readSession (p.bytes :: words) = .ok r ↔
      a.positional = false ∧
        ({ a with path := some p, positional := true } : Reading).readSession words = .ok r := by
  have plain := Word.ofBytes_separable separable
  have read : a.readWord (.plain p.bytes) = a.readPositional p.bytes := by
    simp only [readWord, pending]
  have waits : a.readPositional p.bytes = if a.positional then .error .unknownArgument
      else .ok { a with pending := some (.path, some p.bytes), positional := true } := by
    simp only [readPositional, settle_of_pending pending]
    split <;> rfl
  let next : Reading := { a with positional := true }
  have settled : ({ next with pending := some (.path, some p.bytes) } : Reading).readSession words =
      .ok r ↔ ({ next with path := some p } : Reading).readSession words = .ok r := by
    have free : next.pending = none := pending
    rw [readSession_waiting free]
    simp [store_path separable]
  rw [readSession_word (by simp [plain]), plain, read, waits, bind_eq_ok, exists_unless]
  exact and_congr_right fun _ => settled

theorem readSession_conversationFile (pending : a.pending = none) {p : Path}
    (separable : Separable p) (form : FileForm) :
    a.readSession ((Argument.conversationFile form p).words ++ words) = .ok r ↔
      ({ a with conversationFiles := a.conversationFiles ++ [p] } : Reading).readSession words =
        .ok r := by
  have plain := Word.ofBytes_separable separable
  have named := (longOption?_switches a).2.2.1
  have stored : (∃ b, a.store .conversationFile p.bytes = .ok b ∧ b.readSession words = .ok r) ↔
      ({ a with conversationFiles := a.conversationFiles ++ [p] } : Reading).readSession words =
        .ok r := by
    simp [store_conversationFile separable]
  rw [← stored]
  cases form with
  | short =>
    have shape : Word.ofBytes (.ofString "-c") = .short [0x63] := by decide
    have letter : shortOption? 0x63 = some (.slot .conversationFile) := by decide
    refine readSession_valued pending (by simp [shape]) ?_ plain
    simp only [shape, readWord, readShort, letter, settle_of_pending pending, ok_bind]
    rfl
  | long => exact readSession_option pending (by decide) named plain false
  | attached => exact readSession_option pending (by decide) named plain true

theorem readSession_format (pending : a.pending = none) (attached : Bool) (choice : OutputFormat) :
    a.readSession ((Argument.format attached choice).words ++ words) = .ok r ↔
      (a.format.isSome = false ∧ a.withFormat) ∧
        ({ a with format := some choice } : Reading).readSession words = .ok r := by
  have plain : Word.ofBytes (.ofString choice.name) = .plain (.ofString choice.name) := by
    cases choice <;> decide
  obtain ⟨-, -, -, -, named⟩ := longOption?_switches a
  by_cases known : a.withFormat
  · rw [if_pos known] at named
    rw [and_iff_left known]
    refine (readSession_option pending (by decide) named plain attached).trans ?_
    rw [store_format, exists_unless]
  · rw [if_neg known] at named
    have refused :
        a.readSession (optionWords "format" attached (.ofString choice.name) ++ words) ≠ .ok r :=
      readSession_unknown (by decide) named _ attached
    exact iff_of_false refused fun ⟨⟨_, here⟩, _⟩ => known here

theorem readSession_argument (pending : a.pending = none) {x : Argument} (separable : x.Separable) :
    a.readSession (x.words ++ words) = .ok r ↔
      a.Accepts x ∧ (a.given x).readSession words = .ok r := by
  have settled := settle_of_pending pending
  obtain ⟨strict, gitignore, -, convention, -⟩ := longOption?_switches a
  cases x with
  | root path =>
    rw [accepts_single rfl (by decide)]
    exact readSession_root pending separable
  | conversationFile form path =>
    rw [and_iff_right (accepts_conversationFile form path)]
    exact readSession_conversationFile pending separable form
  | convention attached choice =>
    have plain : Word.ofBytes (.ofString choice.name) = .plain (.ofString choice.name) := by
      cases choice <;> decide
    rw [accepts_single rfl (by decide)]
    refine (readSession_option pending (by decide) convention plain attached).trans ?_
    rw [store_convention, exists_unless]
    rfl
  | format attached choice =>
    rw [accepts_format]
    exact readSession_format pending attached choice
  | strict =>
    rw [accepts_single rfl (by decide)]
    refine readSession_longSwitch (by decide) ?_
    simp only [readLong, strict, settled, ok_bind]
    rfl
  | gitignore =>
    rw [accepts_single rfl (by decide)]
    refine readSession_longSwitch (by decide) ?_
    simp only [readLong, gitignore, settled, ok_bind]
    rfl
  | verbose long =>
    obtain ⟨word, written, listed⟩ :
        ∃ word, (Argument.verbose long).words = [word] ∧ word ∈ verboseWords := by
      cases long
      · exact ⟨_, rfl, by decide⟩
      · exact ⟨_, rfl, by decide⟩
    rw [written, accepts_single rfl (by decide)]
    refine readSession_switch ?_ ?_
    · rcases verboseWords_shape listed with shape | shape <;> simp [shape]
    · rw [readWord_verbose listed, settled, ok_bind]
      rfl

end Reading

/-! ## Arguments taken together -/

namespace Argument

variable {β : Type} {f : Argument → Option β} {name : OptionName}

def singles (args : List Argument) : List OptionName := args.filterMap single?

def Picks (f : Argument → Option β) (name : OptionName) : Prop :=
  ∀ x, (f x).isSome ↔ x.single? = some name

theorem picks_root? : Picks root? (.slot .path) := by
  rintro (_ | _ | _ | _ | _ | _ | _) <;> simp [root?, single?]

theorem picks_convention? : Picks convention? (.slot .convention) := by
  rintro (_ | _ | _ | _ | _ | _ | _) <;> simp [convention?, single?]

theorem picks_format? : Picks format? (.slot .format) := by
  rintro (_ | _ | _ | _ | _ | _ | _) <;> simp [format?, single?]

theorem Picks.count (picks : Picks f name) (args : List Argument) :
    (singles args).count name = (args.filterMap f).length := by
  induction args with
  | nil => rfl
  | cons x args ih =>
    rw [singles] at ih ⊢
    rw [List.filterMap_cons, List.filterMap_cons]
    have here := picks x
    cases picked : f x with
    | none =>
      rw [picked] at here
      cases single : x.single? with
      | none => exact ih
      | some other =>
        have apart : other ≠ name := by
          rintro rfl
          exact Bool.false_ne_true (here.mpr single)
        simp [List.count_cons_of_ne apart, ih]
    | some v =>
      rw [picked] at here
      simp [here.mp rfl, ih]

end Argument

namespace Reading

open Argument

variable {a : Reading} {r : SessionArgs × Reading} {args : List Argument} {x : Argument}

theorem given_has (a : Reading) (x : Argument) (name : OptionName) :
    (a.given x).has name ↔ a.has name ∨ x.single? = some name := by
  cases x <;> rcases name with _ | _ | _ | _ | (_ | _ | _ | _) <;> simp [given, has, single?]

def takeAll (a : Reading) (args : List Argument) : Reading := args.foldl given a

structure AcceptsAll (a : Reading) (args : List Argument) : Prop where
  nodup : (singles args).Nodup
  fresh : ∀ name ∈ singles args, a.has name = false
  known : .slot .format ∈ singles args → a.withFormat

theorem singles_cons (x : Argument) (args : List Argument) :
    singles (x :: args) = x.single?.toList ++ singles args := by
  rw [singles, List.filterMap_cons]
  cases x.single? <;> rfl

theorem given_withFormat (a : Reading) (x : Argument) : (a.given x).withFormat = a.withFormat := by
  cases x <;> rfl

theorem acceptsAll_nil (a : Reading) : a.AcceptsAll [] := ⟨List.nodup_nil, nofun, nofun⟩

theorem acceptsAll_cons : a.AcceptsAll (x :: args) ↔ a.Accepts x ∧ (a.given x).AcceptsAll args := by
  -- Behind an argument that has come, what else is new is what was new and is not that argument.
  have fresh (name : OptionName) : (a.given x).has name = false ↔
      a.has name = false ∧ x.single? ≠ some name := by
    have given := given_has a x name
    cases here : (a.given x).has name <;> cases came : a.has name <;> simp_all
  constructor
  · rintro ⟨nodup, unseen, known⟩
    rw [singles_cons] at nodup unseen known
    obtain ⟨-, nodup, apart⟩ := List.nodup_append.mp nodup
    refine ⟨⟨fun name here => ?_, fun here => ?_⟩, nodup, fun name later => ?_, fun later => ?_⟩
    · exact unseen name (List.mem_append_left _ (Option.mem_toList.mpr here))
    · exact known (List.mem_append_left _ (Option.mem_toList.mpr here))
    · refine (fresh name).mpr ⟨unseen name (List.mem_append_right _ later), fun here => ?_⟩
      exact apart name (Option.mem_toList.mpr here) name later rfl
    · rw [given_withFormat]
      exact known (List.mem_append_right _ later)
  · rintro ⟨⟨new, has⟩, nodup, unseen, known⟩
    refine ⟨?_, fun name listed => ?_, fun listed => ?_⟩
    · rw [singles_cons, List.nodup_append]
      refine ⟨?_, nodup, ?_⟩
      · cases x.single? <;> simp
      · rintro name here _ later rfl
        exact ((fresh name).mp (unseen name later)).2 (Option.mem_toList.mp here)
    · rw [singles_cons] at listed
      rcases List.mem_append.mp listed with here | later
      · exact new name (Option.mem_toList.mp here)
      · exact ((fresh name).mp (unseen name later)).1
    · rw [singles_cons] at listed
      rcases List.mem_append.mp listed with here | later
      · exact has (Option.mem_toList.mp here)
      · rw [← given_withFormat a x]
        exact known later

theorem readSession_arguments (pending : a.pending = none)
    (separable : ∀ x ∈ args, x.Separable) :
    a.readSession (args.flatMap Argument.words) = .ok r ↔
      a.AcceptsAll args ∧ (a.takeAll args).finish = .ok r := by
  induction args generalizing a with
  | nil => exact (and_iff_right (acceptsAll_nil a)).symm
  | cons x args ih =>
    obtain ⟨first, others⟩ := List.forall_mem_cons.mp separable
    have free : (a.given x).pending = none := by cases x <;> exact pending
    rw [List.flatMap_cons, readSession_argument pending first, ih free others, acceptsAll_cons,
      and_assoc]
    rfl

/-! ### The values of the arguments -/

theorem takeAll_has (a : Reading) (args : List Argument) (name : OptionName) :
    (a.takeAll args).has name ↔ a.has name ∨ name ∈ singles args := by
  induction args generalizing a with
  | nil => simp [takeAll, singles]
  | cons x args ih =>
    have rest : a.takeAll (x :: args) = (a.given x).takeAll args := rfl
    rw [rest, ih, given_has, singles_cons, List.mem_append, Option.mem_toList, or_assoc]

theorem takeAll_conversationFiles (a : Reading) (args : List Argument) :
    (a.takeAll args).conversationFiles =
      a.conversationFiles ++ args.filterMap conversationFile? := by
  induction args generalizing a with
  | nil => simp [takeAll]
  | cons x args ih =>
    have rest : a.takeAll (x :: args) = (a.given x).takeAll args := rfl
    rw [rest, ih]
    cases x <;> simp [given, List.filterMap_cons, conversationFile?]

/-- The last value of a kind decides what is read of it. -/
theorem takeAll_value {β : Type} {f : Argument → Option β} {value : Reading → Option β}
    (step : ∀ a x, value (a.given x) = (f x).or (value a)) (a : Reading) (args : List Argument) :
    value (a.takeAll args) = (args.filterMap f).getLast?.or (value a) := by
  induction args generalizing a with
  | nil => rfl
  | cons x args ih =>
    have rest : a.takeAll (x :: args) = (a.given x).takeAll args := rfl
    rw [rest, ih, step, List.filterMap_cons]
    cases f x with
    | none => rfl
    | some v => cases args.filterMap f <;> simp [List.getLast?_cons]

theorem takeAll_path (a : Reading) (args : List Argument) :
    (a.takeAll args).path = (args.filterMap root?).getLast?.or a.path :=
  takeAll_value (by rintro a (_ | _ | _ | _ | _ | _ | _) <;> rfl) a args

theorem takeAll_convention (a : Reading) (args : List Argument) :
    (a.takeAll args).convention = (args.filterMap convention?).getLast?.or a.convention :=
  takeAll_value (by rintro a (_ | _ | _ | _ | _ | _ | _) <;> rfl) a args

theorem takeAll_format (a : Reading) (args : List Argument) :
    (a.takeAll args).format = (args.filterMap format?).getLast?.or a.format :=
  takeAll_value (by rintro a (_ | _ | _ | _ | _ | _ | _) <;> rfl) a args

theorem takeAll_pending (a : Reading) (args : List Argument) :
    (a.takeAll args).pending = a.pending := by
  induction args generalizing a with
  | nil => rfl
  | cons x args ih =>
    have rest : a.takeAll (x :: args) = (a.given x).takeAll args := rfl
    rw [rest, ih]
    cases x <;> rfl

theorem finish_eq_ok (pending : a.pending = none) : a.finish = .ok r ↔
    ∃ p, a.path = some p ∧ r = ({ path := p, conversationFiles := a.conversationFiles
                                  strict := a.strict, gitignore := a.gitignore
                                  convention := a.convention.getD .python }, a) := by
  rw [finish, settle_of_pending pending, ok_bind]
  cases a.path with
  | none => simp [throw, throwThe, MonadExceptOf.throw]
  | some p => simp [pure, Except.pure, eq_comm]

theorem takeAll_of_count {name : OptionName} {on : Bool} (fresh : a.has name = false)
    (count : (singles args).count name = on.toNat) : (a.takeAll args).has name = on := by
  have has := takeAll_has a args name
  rw [fresh, ← List.count_pos_iff, count] at has
  cases on
  · simpa using has
  · simpa using has

end Reading

end ProjectContext.CommandLine
