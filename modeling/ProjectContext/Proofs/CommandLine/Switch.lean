import ProjectContext.CommandLine.Outcome

/-!
# The switch for a verbose log

The switch can stand wherever an option can: put in front of a word it changes what is read in
nothing else (`readFrom_insert`), unless it has come already, or what stands in front of it waits for
a value. What follows is read as without the switch, because nothing reads it (`Reading.Oblivious`);
that the switch settles an argument which waits to be checked makes no difference, because the next
word does so as well (`Reading.readSession_settles`).
-/

namespace ProjectContext.CommandLine

theorem bind_eq_ok {ε α β : Type} {x : Except ε α} {f : α → Except ε β} {b : β} :
    (x >>= f) = .ok b ↔ ∃ a, x = .ok a ∧ f a = .ok b := by
  cases x with
  | error e => simp [bind, Except.bind]
  | ok a => simp [bind, Except.bind]

theorem ok_bind {ε α β : Type} (a : α) (f : α → Except ε β) : (.ok a >>= f) = f a := rfl

def verboseWords : List Bytes := [.ofString "-v", .ofString "--verbose"]

theorem verboseWords_shape {w : Bytes} (switch : w ∈ verboseWords) :
    Word.ofBytes w = .short [0x76] ∨ Word.ofBytes w = .long (.ofString "verbose") none := by
  simp only [verboseWords, List.mem_cons, List.not_mem_nil, or_false] at switch
  rcases switch with rfl | rfl
  · exact .inl (by decide)
  · exact .inr (by decide)

theorem verboseWords_no_subcommand {w : Bytes} (switch : w ∈ verboseWords) :
    Subcommand.ofBytes? w = none := by
  simp only [verboseWords, List.mem_cons, List.not_mem_nil, or_false] at switch
  rcases switch with rfl | rfl <;> decide

theorem Word.ofBytes_ne_short (word : Bytes) : Word.ofBytes word ≠ .short [] := by
  intro equal
  unfold Word.ofBytes at equal
  repeat' split at equal
  all_goals cases equal

namespace Reading

variable {a b c : Reading} {r : SessionArgs × Reading} {w : Bytes} {front back words : List Bytes}

/-- The same with the switch for a verbose log on. -/
def loud (a : Reading) : Reading := { a with verbose := true }

/-- An option has come that needs a value. -/
def Awaits (a : Reading) : Prop := ∃ slot, a.pending = some (slot, none)

def readSession (a : Reading) (words : List Bytes) : Except UsageError (SessionArgs × Reading) :=
  a.readWords words >>= finish

/-! ## Settling -/

/-- The readings agree on the switch and on what decides how the next word is read. -/
structure Alike (a b : Reading) : Prop where
  withFormat : b.withFormat = a.withFormat
  verbose : b.verbose = a.verbose
  positional : b.positional = a.positional

theorem store_alike {slot : Slot} {value : Bytes} (stored : a.store slot value = .ok b) :
    Alike a b ∧ b.pending = a.pending := by
  cases slot with
  | path =>
    obtain ⟨path, -, made⟩ := bind_eq_ok.mp stored
    cases made
    exact ⟨⟨rfl, rfl, rfl⟩, rfl⟩
  | conversationFile =>
    obtain ⟨path, -, made⟩ := bind_eq_ok.mp stored
    cases made
    exact ⟨⟨rfl, rfl, rfl⟩, rfl⟩
  | convention =>
    simp only [store] at stored
    split at stored
    · cases stored
    · obtain ⟨choice, -, made⟩ := bind_eq_ok.mp stored
      cases made
      exact ⟨⟨rfl, rfl, rfl⟩, rfl⟩
  | format =>
    simp only [store] at stored
    split at stored
    · cases stored
    · obtain ⟨choice, -, made⟩ := bind_eq_ok.mp stored
      cases made
      exact ⟨⟨rfl, rfl, rfl⟩, rfl⟩

theorem settle_alike (settled : a.settle = .ok b) : Alike a b ∧ b.pending = none := by
  unfold settle at settled
  split at settled
  · next none =>
    cases settled
    exact ⟨⟨rfl, rfl, rfl⟩, none⟩
  · cases settled
  · obtain ⟨⟨withFormat, verbose, positional⟩, pending⟩ := store_alike settled
    exact ⟨⟨withFormat, verbose, positional⟩, pending⟩

theorem settle_of_settled (settled : a.settle = .ok b) : b.settle = .ok b := by
  rw [settle, (settle_alike settled).2]

theorem settle_of_awaits (awaits : a.Awaits) : a.settle = .error .invalidValue := by
  obtain ⟨slot, pending⟩ := awaits
  rw [settle, pending]

/-! ## The switch beside other words -/

/-- Of two readings the second has the switch on. What the first comes to, the second comes to as
well with the switch on, or it fails because the switch has come once more. -/
def Follows (a : Reading) (quiet loud : Except UsageError Reading) : Prop :=
  ∀ b, quiet = .ok b →
    (a.verbose → b.verbose) ∧ (loud = .ok b.loud ∨ b.verbose ∧ ∃ e, loud = .error e)

def Oblivious (f : Reading → Except UsageError Reading) : Prop :=
  ∀ a : Reading, Follows a (f a) (f a.loud)

theorem Follows.error {e : UsageError} {loud : Except UsageError Reading} :
    Follows a (.error e) loud := by
  intro b done
  cases done

theorem Follows.bind {quiet loud : Except UsageError Reading}
    {f : Reading → Except UsageError Reading} (follows : Follows a quiet loud)
    (oblivious : Oblivious f) : Follows a (quiet >>= f) (loud >>= f) := by
  intro c done
  obtain ⟨b, first, second⟩ := bind_eq_ok.mp done
  obtain ⟨kept, louder⟩ := follows b first
  obtain ⟨kept', louder'⟩ := oblivious b c second
  refine ⟨fun verbose => kept' (kept verbose), ?_⟩
  rcases louder with rfl | ⟨verbose, e, rfl⟩
  · exact louder'
  · exact .inr ⟨kept' verbose, e, rfl⟩

theorem Oblivious.of_map {f : Reading → Except UsageError Reading}
    (same : ∀ a, f a.loud = (f a).map loud) (keeps : ∀ a b, f a = .ok b → b.verbose = a.verbose) :
    Oblivious f := by
  intro a b done
  refine ⟨fun verbose => (keeps a b done).trans verbose, .inl ?_⟩
  rw [same, done]
  rfl

theorem store_loud (a : Reading) (slot : Slot) (value : Bytes) :
    a.loud.store slot value = (a.store slot value).map loud := by
  cases slot with
  | path =>
    simp only [store]
    cases checkPath value <;> rfl
  | conversationFile =>
    simp only [store]
    cases checkPath value <;> rfl
  | convention =>
    have same : a.loud.convention = a.convention := rfl
    simp only [store, same]
    cases a.convention.isSome with
    | true => rfl
    | false => cases checkChoice ConventionChoice.all (·.name) value <;> rfl
  | format =>
    have same : a.loud.format = a.format := rfl
    simp only [store, same]
    cases a.format.isSome with
    | true => rfl
    | false => cases checkChoice OutputFormat.all (·.name) value <;> rfl

theorem store_oblivious (slot : Slot) (value : Bytes) : Oblivious (store · slot value) :=
  .of_map (fun a => store_loud a slot value) fun _ _ stored => (store_alike stored).1.verbose

theorem settle_loud (a : Reading) : a.loud.settle = a.settle.map loud := by
  have same : a.loud.pending = a.pending := rfl
  rw [settle, settle, same]
  split
  · rfl
  · rfl
  · exact store_loud { a with pending := none } _ _

theorem settle_oblivious : Oblivious settle :=
  .of_map settle_loud fun _ _ settled => (settle_alike settled).1.verbose

theorem set_oblivious {f : Reading → Reading} (same : ∀ a, f a.loud = (f a).loud)
    (keeps : ∀ a, (f a).verbose = a.verbose) : Oblivious fun a => pure (f a) :=
  .of_map (fun a => congrArg Except.ok (same a)) fun a b set => by
    cases set
    exact keeps a

theorem switchOn_oblivious (switch : OptionName) : Oblivious (switchOn · switch) := by
  intro a b done
  cases switch with
  | verbose =>
    simp only [switchOn] at done ⊢
    split at done
    · cases done
    · cases done
      exact ⟨fun _ => rfl, .inr ⟨rfl, .argumentConflict, rfl⟩⟩
  | strict =>
    simp only [switchOn] at done ⊢
    split at done
    · cases done
    · next off =>
      cases done
      exact ⟨id, .inl (if_neg off)⟩
  | gitignore =>
    simp only [switchOn] at done ⊢
    split at done
    · cases done
    · next off =>
      cases done
      exact ⟨id, .inl (if_neg off)⟩
  | help =>
    cases done
    exact ⟨id, .inl rfl⟩
  | slot slot =>
    cases done
    exact ⟨id, .inl rfl⟩

theorem readLong_oblivious (name : Bytes) (value : Option Bytes) :
    Oblivious (readLong · name value) := by
  intro a
  have same : a.loud.longOption? name = a.longOption? name := rfl
  have settled := settle_oblivious a
  simp only [readLong, same]
  split
  · exact .error
  · exact settled.bind (store_oblivious _ _)
  · exact settled.bind (set_oblivious (fun _ => rfl) fun _ => rfl)
  · exact .error
  · intro b done
    obtain ⟨c, -, refused⟩ := bind_eq_ok.mp done
    cases refused
  · exact settled.bind (switchOn_oblivious _)

theorem readShort_oblivious (letters : Bytes) : Oblivious (readShort · letters) := by
  induction letters with
  | nil => exact set_oblivious (f := id) (fun _ => rfl) fun _ => rfl
  | cons letter rest ih =>
    intro a
    have settled := settle_oblivious a
    simp only [readShort]
    split
    · exact .error
    · split
      · exact settled.bind (set_oblivious (fun _ => rfl) fun _ => rfl)
      · exact settled.bind (store_oblivious _ _)
    · intro b done
      obtain ⟨c, -, refused⟩ := bind_eq_ok.mp done
      cases refused
    · exact settled.bind fun b => (switchOn_oblivious _ b).bind ih

theorem readPositional_oblivious (value : Bytes) : Oblivious (readPositional · value) := by
  intro a
  have same : a.loud.positional = a.positional := rfl
  simp only [readPositional, same]
  split
  · exact .error
  · exact (settle_oblivious a).bind (set_oblivious (fun _ => rfl) fun _ => rfl)

theorem readWord_oblivious (shape : Word) : Oblivious (readWord · shape) := by
  cases shape with
  | escape => exact set_oblivious (f := id) (fun _ => rfl) fun _ => rfl
  | long name value => exact readLong_oblivious name value
  | short letters => exact readShort_oblivious letters
  | plain bytes =>
    intro a
    have same : a.loud.pending = a.pending := rfl
    simp only [readWord, same]
    split
    · next slot _ =>
      let waiting (a : Reading) : Reading := { a with pending := some (slot, some bytes) }
      exact set_oblivious (f := waiting) (fun _ => rfl) (fun _ => rfl) a
    · exact readPositional_oblivious bytes a

theorem foldlM_oblivious (words : List Bytes) : Oblivious (words.foldlM readPositional ·) := by
  induction words with
  | nil => exact set_oblivious (f := id) (fun _ => rfl) fun _ => rfl
  | cons word words ih =>
    intro a
    exact (readPositional_oblivious word a).bind ih

theorem readWords_oblivious (words : List Bytes) : Oblivious (readWords · words) := by
  induction words with
  | nil => exact set_oblivious (f := id) (fun _ => rfl) fun _ => rfl
  | cons word words ih =>
    intro a
    simp only [readWords]
    split
    · exact foldlM_oblivious words a
    · exact (readWord_oblivious _ a).bind ih

/-! ## The switch between other words -/

theorem readWords_cons {word : Bytes} (unescaped : Word.ofBytes word ≠ .escape) (a : Reading)
    (words : List Bytes) :
    a.readWords (word :: words) = a.readWord (Word.ofBytes word) >>= (·.readWords words) := by
  rw [readWords]
  split
  · next escape => exact absurd escape unescaped
  · rfl

theorem readWords_append (unescaped : ∀ word ∈ front, Word.ofBytes word ≠ .escape) (a : Reading)
    (back : List Bytes) :
    a.readWords (front ++ back) = a.readWords front >>= (·.readWords back) := by
  induction front generalizing a with
  | nil => rfl
  | cons word front ih =>
    obtain ⟨first, others⟩ := List.forall_mem_cons.mp unescaped
    rw [List.cons_append, readWords_cons first, readWords_cons first]
    cases a.readWord (Word.ofBytes word) with
    | error e => rfl
    | ok b => exact ih others b

theorem readSession_append (unescaped : ∀ word ∈ front, Word.ofBytes word ≠ .escape) (a : Reading)
    (back : List Bytes) :
    a.readSession (front ++ back) = a.readWords front >>= (·.readSession back) := by
  rw [readSession, readWords_append unescaped]
  cases a.readWords front <;> rfl

theorem readWord_verbose (switch : w ∈ verboseWords) (a : Reading) :
    a.readWord (Word.ofBytes w) = a.settle >>= (·.switchOn .verbose) := by
  rcases verboseWords_shape switch with shape | shape
  · rw [shape]
    have letters : a.readWord (.short [0x76]) =
        a.settle >>= fun b => b.switchOn .verbose >>= (·.readShort []) := rfl
    exact letters.trans (bind_congr fun b => bind_pure _)
  · rw [shape]
    rfl

/-! ### What comes next settles an argument that waits to be checked -/

theorem readLong_of_settled (settled : a.settle = .ok c) (name : Bytes) (value : Option Bytes) :
    c.readLong name value = a.readLong name value := by
  have same : c.longOption? name = a.longOption? name := by
    rw [longOption?, longOption?, (settle_alike settled).1.withFormat]
  simp only [readLong, same, settled, settle_of_settled settled, topic,
    (settle_alike settled).1.withFormat]

theorem settles_of_readLong {name : Bytes} {value : Option Bytes}
    (read : a.readLong name value = .ok b) : ∃ c, a.settle = .ok c := by
  unfold readLong at read
  split at read
  · cases read
  · exact (bind_eq_ok.mp read).imp fun _ => And.left
  · exact (bind_eq_ok.mp read).imp fun _ => And.left
  · cases read
  · exact (bind_eq_ok.mp read).imp fun _ => And.left
  · exact (bind_eq_ok.mp read).imp fun _ => And.left

theorem readShort_of_settled (settled : a.settle = .ok c) (letter : UInt8) (rest : Bytes) :
    c.readShort (letter :: rest) = a.readShort (letter :: rest) := by
  simp only [readShort, settled, settle_of_settled settled, topic,
    (settle_alike settled).1.withFormat]

theorem settles_of_readShort {letter : UInt8} {rest : Bytes}
    (read : a.readShort (letter :: rest) = .ok b) : ∃ c, a.settle = .ok c := by
  unfold readShort at read
  split at read
  · cases read
  · split at read <;> exact (bind_eq_ok.mp read).imp fun _ => And.left
  all_goals exact (bind_eq_ok.mp read).imp fun _ => And.left

theorem readPositional_of_settled (settled : a.settle = .ok c) (value : Bytes) :
    c.readPositional value = a.readPositional value := by
  simp only [readPositional, (settle_alike settled).1.positional, settled,
    settle_of_settled settled]

theorem settles_of_readPositional {value : Bytes} (read : a.readPositional value = .ok b) :
    ∃ c, a.settle = .ok c := by
  unfold readPositional at read
  split at read
  · cases read
  · exact (bind_eq_ok.mp read).imp fun _ => And.left

theorem finish_of_settled (settled : a.settle = .ok c) : c.finish = a.finish := by
  simp only [finish, settled, settle_of_settled settled]

theorem readWord_plain (settled : a.settle = .ok c) (bytes : Bytes) :
    a.readWord (.plain bytes) = a.readPositional bytes := by
  unfold readWord
  simp only
  split
  · next slot pending =>
    rw [settle_of_awaits ⟨slot, pending⟩] at settled
    cases settled
  · rfl

theorem readWord_of_settled (settled : a.settle = .ok c) {word : Bytes}
    (unescaped : Word.ofBytes word ≠ .escape) :
    c.readWord (Word.ofBytes word) = a.readWord (Word.ofBytes word) := by
  cases shape : Word.ofBytes word with
  | escape => exact absurd shape unescaped
  | long name value => exact readLong_of_settled settled name value
  | short letters =>
    cases letters with
    | nil => exact absurd shape (Word.ofBytes_ne_short word)
    | cons letter rest => exact readShort_of_settled settled letter rest
  | plain bytes =>
    rw [readWord_plain settled, readWord_plain (settle_of_settled settled)]
    exact readPositional_of_settled settled bytes

theorem settles_of_readWord {word : Bytes} (unescaped : Word.ofBytes word ≠ .escape)
    (complete : ¬ a.Awaits) (read : a.readWord (Word.ofBytes word) = .ok b) :
    ∃ c, a.settle = .ok c := by
  cases shape : Word.ofBytes word with
  | escape => exact absurd shape unescaped
  | long name value =>
    rw [shape] at read
    exact settles_of_readLong read
  | short letters =>
    rw [shape] at read
    cases letters with
    | nil => exact absurd shape (Word.ofBytes_ne_short word)
    | cons letter rest => exact settles_of_readShort read
  | plain bytes =>
    rw [shape, readWord] at read
    split at read
    · next slot pending => exact absurd ⟨slot, pending⟩ complete
    · exact settles_of_readPositional read

theorem readSession_escape {word : Bytes} (escape : Word.ofBytes word = .escape) (a : Reading)
    (words : List Bytes) :
    a.readSession (word :: words) = words.foldlM readPositional a >>= finish := by
  rw [readSession, readWords, escape]

theorem readSession_of_settled (settled : a.settle = .ok c) (words : List Bytes) :
    c.readSession words = a.readSession words := by
  cases words with
  | nil => exact finish_of_settled settled
  | cons word words =>
    by_cases escape : Word.ofBytes word = .escape
    · rw [readSession_escape escape, readSession_escape escape]
      cases words with
      | nil => exact finish_of_settled settled
      | cons value values =>
        rw [List.foldlM_cons, List.foldlM_cons, readPositional_of_settled settled]
    · rw [readSession, readSession, readWords_cons escape, readWords_cons escape,
        readWord_of_settled settled escape]

theorem readSession_settles (complete : ¬ a.Awaits) (read : a.readSession words = .ok r) :
    ∃ c, a.settle = .ok c ∧ c.readSession words = .ok r := by
  have settles : ∃ c, a.settle = .ok c := by
    cases words with
    | nil =>
      have finished : a.finish = .ok r := read
      exact (bind_eq_ok.mp finished).imp fun _ => And.left
    | cons word words =>
      by_cases escape : Word.ofBytes word = .escape
      · rw [readSession_escape escape] at read
        obtain ⟨b, parsed, finished⟩ := bind_eq_ok.mp read
        cases words with
        | nil =>
          cases parsed
          exact (bind_eq_ok.mp finished).imp fun _ => And.left
        | cons value values =>
          rw [List.foldlM_cons] at parsed
          obtain ⟨d, first, -⟩ := bind_eq_ok.mp parsed
          exact settles_of_readPositional first
      · obtain ⟨b, parsed, -⟩ := bind_eq_ok.mp read
        rw [readWords_cons escape] at parsed
        obtain ⟨d, first, -⟩ := bind_eq_ok.mp parsed
        exact settles_of_readWord escape complete first
  obtain ⟨c, settled⟩ := settles
  exact ⟨c, settled, (readSession_of_settled settled words).trans read⟩

/-! ### The switch -/

theorem finish_loud {session : SessionArgs} (finished : a.finish = .ok (session, b)) :
    b.verbose = a.verbose ∧ a.loud.finish = .ok (session, b.loud) := by
  obtain ⟨c, settled, made⟩ := bind_eq_ok.mp finished
  have loudly : a.loud.settle = .ok c.loud := by
    rw [settle_loud, settled]
    rfl
  rw [finish, loudly, ok_bind]
  have same : c.loud.path = c.path := rfl
  rw [same]
  cases given : c.path with
  | none =>
    rw [given] at made
    cases made
  | some path =>
    rw [given] at made
    cases made
    exact ⟨(settle_alike settled).1.verbose, rfl⟩

theorem readSession_loud {session : SessionArgs}
    (read : a.readSession words = .ok (session, c)) :
    (a.verbose → c.verbose) ∧ (a.loud.readSession words = .ok (session, c.loud) ∨
      c.verbose ∧ ∃ e, a.loud.readSession words = .error e) := by
  obtain ⟨b, parsed, finished⟩ := bind_eq_ok.mp read
  obtain ⟨verbose, loudly⟩ := finish_loud finished
  obtain ⟨kept, followed⟩ := readWords_oblivious words a b parsed
  rw [verbose]
  refine ⟨kept, ?_⟩
  rcases followed with followed | ⟨verbose, e, failed⟩
  · exact .inl (bind_eq_ok.mpr ⟨_, followed, loudly⟩)
  · exact .inr ⟨verbose, e, congrArg (· >>= finish) failed⟩

/-- Where the switch is put between words that are read, it is read as well, unless it has come
already, or the words in front of it end with an option whose value has not come. -/
theorem readSession_insert (switch : w ∈ verboseWords)
    (unescaped : ∀ word ∈ front, Word.ofBytes word ≠ .escape) {session : SessionArgs}
    (read : a.readSession (front ++ back) = .ok (session, c)) :
    a.readSession (front ++ w :: back) = .ok (session, c.loud) ∨
      (∃ e, a.readSession (front ++ w :: back) = .error e) ∧
        (c.verbose ∨ a.readSession front = .error .invalidValue) := by
  have shape : Word.ofBytes w ≠ .escape := by
    rcases verboseWords_shape switch with shape | shape <;> rw [shape] <;> nofun
  rw [readSession_append unescaped] at read
  obtain ⟨m, parsed, rest⟩ := bind_eq_ok.mp read
  have inserted : a.readSession (front ++ w :: back) =
      (m.settle >>= (·.switchOn .verbose)) >>= (·.readSession back) := by
    rw [readSession_append unescaped, parsed, ok_bind, readSession, readWords_cons shape,
      readWord_verbose switch]
    exact bind_assoc ..
  rw [inserted]
  -- The switch settles what waits to be checked, as the next word or the end would have done.
  by_cases awaits : m.Awaits
  · have incomplete : a.readSession front = .error .invalidValue := by
      rw [readSession, parsed, ok_bind, finish, settle_of_awaits awaits]
      rfl
    rw [settle_of_awaits awaits]
    exact .inr ⟨⟨_, rfl⟩, .inr incomplete⟩
  · obtain ⟨n, settled, rest⟩ := readSession_settles awaits rest
    obtain ⟨kept, followed⟩ := readSession_loud rest
    rw [settled, ok_bind, switchOn]
    split
    · next verbose => exact .inr ⟨⟨_, rfl⟩, .inl (kept verbose)⟩
    · rw [ok_bind]
      exact followed.imp_right fun ⟨verbose, failed⟩ => ⟨failed, .inl verbose⟩

end Reading

/-! ## Whole command lines -/

def Invocation.loud (i : Invocation) : Invocation := { i with verbose := true }

variable {i : Invocation} {w : Bytes} {front back words : List Bytes} {verbose : Bool}

theorem readSession_made (start : Reading) (command : SessionArgs × Reading → Command)
    (verbose : Bool) (words : List Bytes) :
    (do
      let a ← start.readWords words
      let (session, a) ← a.finish
      return ⟨verbose || a.verbose, command (session, a)⟩) =
    (start.readSession words).map fun r =>
      (⟨verbose || r.2.verbose, command r⟩ : Invocation) := by
  rw [Reading.readSession]
  cases start.readWords words with
  | error e => rfl
  | ok a =>
    rw [ok_bind, ok_bind]
    cases a.finish <;> rfl

/-- The subcommands with a session read its arguments and make a command of them. -/
theorem readSubcommand_cases (subcommand : Subcommand) :
    (∀ verbose words, ∃ e, readSubcommand verbose subcommand words = .error e) ∨
    ∃ (start : Reading) (command : SessionArgs × Reading → Command),
      (∀ session a, command (session, a.loud) = command (session, a)) ∧
      ∀ verbose words, readSubcommand verbose subcommand words =
        (start.readSession words).map fun r => ⟨verbose || r.2.verbose, command r⟩ := by
  cases subcommand with
  | help => exact .inl fun _ words => ⟨_, rfl⟩
  | report =>
    let command (r : SessionArgs × Reading) : Command := .report r.1 (r.2.format.getD .text)
    exact .inr ⟨_, command, fun _ _ => rfl, readSession_made { withFormat := true } command⟩
  | context =>
    let command (r : SessionArgs × Reading) : Command := .context r.1
    exact .inr ⟨_, command, fun _ _ => rfl, readSession_made { withFormat := false } command⟩

theorem readSubcommand_insert (switch : w ∈ verboseWords)
    (unescaped : ∀ word ∈ front, Word.ofBytes word ≠ .escape) {subcommand : Subcommand}
    (read : readSubcommand verbose subcommand (front ++ back) = .ok i) :
    readSubcommand verbose subcommand (front ++ w :: back) = .ok i.loud ∨
      (∃ e, readSubcommand verbose subcommand (front ++ w :: back) = .error e) ∧
        (i.verbose ∨ readSubcommand verbose subcommand front = .error .invalidValue) := by
  rcases readSubcommand_cases subcommand with none | ⟨start, command, same, reads⟩
  · obtain ⟨e, failed⟩ := none verbose (front ++ back)
    rw [failed] at read
    cases read
  · rw [reads] at read
    cases parsed : start.readSession (front ++ back) with
    | error e => rw [parsed] at read; cases read
    | ok r =>
      obtain ⟨session, a⟩ := r
      rw [parsed] at read
      cases read
      rcases Reading.readSession_insert switch unescaped parsed with added | ⟨⟨e, failed⟩, cause⟩
      · left
        have verbosely : (verbose || a.loud.verbose) = true := Bool.or_true verbose
        rw [reads, added, Except.map]
        simp only [verbosely, same, Invocation.loud]
      · right
        rw [reads, failed, reads]
        refine ⟨⟨e, rfl⟩, cause.imp (fun verbose => ?_) fun incomplete => ?_⟩
        · simp [verbose]
        · rw [incomplete]
          rfl

theorem readSubcommand_loud {subcommand : Subcommand}
    (read : readSubcommand false subcommand words = .ok i) :
    readSubcommand true subcommand words = .ok i.loud := by
  rcases readSubcommand_cases subcommand with none | ⟨start, command, same, reads⟩
  · obtain ⟨e, failed⟩ := none false words
    rw [failed] at read
    cases read
  · rw [reads] at read ⊢
    cases parsed : start.readSession words with
    | error e => rw [parsed] at read; cases read
    | ok r =>
      rw [parsed] at read
      cases read
      rfl

theorem readSubcommand_keeps {subcommand : Subcommand}
    (read : readSubcommand true subcommand words = .ok i) : i.verbose := by
  rcases readSubcommand_cases subcommand with none | ⟨start, command, -, reads⟩
  · obtain ⟨e, failed⟩ := none true words
    rw [failed] at read
    cases read
  · rw [reads] at read
    cases parsed : start.readSession words with
    | error e => rw [parsed] at read; cases read
    | ok r =>
      rw [parsed] at read
      cases read
      rfl

/-! ### The words in front of the subcommand -/

theorem readProgramLetters_on {letters : Bytes} (some : letters ≠ []) :
    ∃ e, readProgramLetters true letters = .error e := by
  obtain ⟨letter, rest, rfl⟩ := List.exists_cons_of_ne_nil some
  unfold readProgramLetters
  split
  · exact ⟨_, rfl⟩
  · split
    · exact ⟨_, rfl⟩
    · split <;> exact ⟨_, rfl⟩

theorem readProgramLetters_cases (letter : UInt8) (rest : Bytes) :
    (∀ verbose, ∃ e, readProgramLetters verbose (letter :: rest) = .error e) ∨
      readProgramLetters false (letter :: rest) = .ok true := by
  by_cases switch : letter = 0x76
  · cases rest with
    | nil => exact .inr (by rw [switch]; rfl)
    | cons next rest =>
      -- With the switch on, no letter is read behind it.
      obtain ⟨e, failed⟩ := readProgramLetters_on (List.cons_ne_nil next rest)
      refine .inl fun verbose => ?_
      rw [readProgramLetters, if_pos switch, failed]
      split <;> exact ⟨_, rfl⟩
  · refine .inl fun verbose => ?_
    rw [readProgramLetters, if_neg switch]
    split
    · exact ⟨_, rfl⟩
    · split <;> exact ⟨_, rfl⟩

theorem readProgramOption_cases (name : Bytes) (value : Option Bytes) :
    (∀ verbose, ∃ e, readProgramOption verbose name value = .error e) ∨
      (readProgramOption false name value = .ok true ∧
        ∃ e, readProgramOption true name value = .error e) := by
  unfold readProgramOption
  by_cases switch : name = .ofString "verbose"
  · simp only [if_pos switch]
    cases value with
    | none => exact .inr ⟨rfl, _, rfl⟩
    | some value => exact .inl fun _ => ⟨_, rfl⟩
  · simp only [if_neg switch]
    refine .inl fun _ => ?_
    split
    · split <;> exact ⟨_, rfl⟩
    · split
      · split <;> exact ⟨_, rfl⟩
      · exact ⟨_, rfl⟩

/-- The first word is the subcommand, or the switch, or nothing can be made of it. -/
theorem readFrom_cases (word : Bytes) :
    (∃ subcommand, ∀ verbose words,
      readFrom verbose (word :: words) = readSubcommand verbose subcommand words) ∨
    ((∀ words, readFrom false (word :: words) = readFrom true words) ∧
      ∀ words, ∃ e, readFrom true (word :: words) = .error e) ∨
    ∀ verbose words, ∃ e, readFrom verbose (word :: words) = .error e := by
  cases named : Subcommand.ofBytes? word with
  | some subcommand => exact .inl ⟨subcommand, fun _ _ => by rw [readFrom, named]⟩
  | none =>
    right
    cases shape : Word.ofBytes word with
    | escape =>
      refine .inr fun verbose words => ?_
      rw [readFrom, named, shape]
      simp only
      split <;> exact ⟨_, rfl⟩
    | plain bytes => exact .inr fun verbose words => ⟨_, by rw [readFrom, named, shape]⟩
    | long name value =>
      have read (verbose : Bool) (words : List Bytes) : readFrom verbose (word :: words) =
          readProgramOption verbose name value >>= (readFrom · words) := by
        rw [readFrom, named, shape]
      rcases readProgramOption_cases name value with failed | ⟨on, e, failed⟩
      · refine .inr fun verbose words => ?_
        obtain ⟨e, failed⟩ := failed verbose
        exact ⟨e, by rw [read, failed]; rfl⟩
      · exact .inl ⟨fun words => by rw [read, on]; rfl,
          fun words => ⟨e, by rw [read, failed]; rfl⟩⟩
    | short letters =>
      have read (verbose : Bool) (words : List Bytes) : readFrom verbose (word :: words) =
          readProgramLetters verbose letters >>= (readFrom · words) := by
        rw [readFrom, named, shape]
      cases letters with
      | nil => exact absurd shape (Word.ofBytes_ne_short word)
      | cons letter rest =>
        rcases readProgramLetters_cases letter rest with failed | on
        · refine .inr fun verbose words => ?_
          obtain ⟨e, failed⟩ := failed verbose
          exact ⟨e, by rw [read, failed]; rfl⟩
        · obtain ⟨e, failed⟩ := readProgramLetters_on (List.cons_ne_nil letter rest)
          exact .inl ⟨fun words => by rw [read, on]; rfl,
            fun words => ⟨e, by rw [read, failed]; rfl⟩⟩

theorem readFrom_switch (switch : w ∈ verboseWords) (words : List Bytes) :
    readFrom false (w :: words) = readFrom true words ∧
      ∃ e, readFrom true (w :: words) = .error e := by
  have named := verboseWords_no_subcommand switch
  simp only [readFrom, named]
  rcases verboseWords_shape switch with shape | shape <;> rw [shape] <;> exact ⟨rfl, _, rfl⟩

theorem readFrom_keeps (read : readFrom true words = .ok i) : i.verbose := by
  cases words with
  | nil => cases read
  | cons word words =>
    rcases readFrom_cases word with ⟨subcommand, reads⟩ | ⟨-, fails⟩ | fails
    · rw [reads] at read
      exact readSubcommand_keeps read
    · obtain ⟨e, failed⟩ := fails words
      rw [failed] at read
      cases read
    · obtain ⟨e, failed⟩ := fails true words
      rw [failed] at read
      cases read

theorem readFrom_loud (read : readFrom false words = .ok i) :
    readFrom true words = .ok i.loud ∨ (∃ e, readFrom true words = .error e) ∧ i.verbose := by
  cases words with
  | nil => cases read
  | cons word words =>
    rcases readFrom_cases word with ⟨subcommand, reads⟩ | ⟨on, fails⟩ | fails
    · rw [reads] at read ⊢
      exact .inl (readSubcommand_loud read)
    · rw [on] at read
      exact .inr ⟨fails words, readFrom_keeps read⟩
    · obtain ⟨e, failed⟩ := fails false words
      rw [failed] at read
      cases read

theorem readFrom_insert (switch : w ∈ verboseWords)
    (unescaped : ∀ word ∈ front, Word.ofBytes word ≠ .escape)
    (read : readFrom verbose (front ++ back) = .ok i) :
    readFrom verbose (front ++ w :: back) = .ok i.loud ∨
      (∃ e, readFrom verbose (front ++ w :: back) = .error e) ∧
        (i.verbose ∨ readFrom verbose front = .error .invalidValue) := by
  induction front generalizing verbose with
  | nil =>
    obtain ⟨on, fails⟩ := readFrom_switch switch back
    cases verbose with
    | true => exact .inr ⟨fails, .inl (readFrom_keeps read)⟩
    | false =>
      rw [List.nil_append, on]
      exact (readFrom_loud read).imp_right (And.imp_right .inl)
  | cons word front ih =>
    obtain ⟨-, unescaped⟩ := List.forall_mem_cons.mp unescaped
    rw [List.cons_append] at read ⊢
    rcases readFrom_cases word with ⟨subcommand, reads⟩ | ⟨on, fails⟩ | fails
    · rw [reads] at read ⊢
      rw [reads]
      exact readSubcommand_insert switch unescaped read
    · cases verbose with
      | true =>
        obtain ⟨e, failed⟩ := fails (front ++ back)
        rw [failed] at read
        cases read
      | false =>
        rw [on] at read ⊢
        rw [on]
        exact ih unescaped read
    · obtain ⟨e, failed⟩ := fails verbose (front ++ back)
      rw [failed] at read
      cases read

end ProjectContext.CommandLine
