import Mathlib.Data.List.Infix
import ProjectContext.Proofs.Pattern.Tracking

/-!
# Declared names

A declaration is what leads to a name, the name and a tail. A name is read to its end, because what
follows it fails inside a name or succeeds behind it as well, and so a pattern of a lead, a name and
a tail reads the declarations of that form (`Node.reads_named`), if its lead and its tail go on in
the text as the readers of these do. Where the lead is a keyword and space, this is
`Node.reads_keyword`.
-/

namespace ProjectContext.Pattern

/-- Reads the keyword, space, the name and the tail of a declaration. -/
def DeclarationReader.keyword (word : List Char) (tail : List Char → Option (List Char))
    (shrinks : ∀ {text rest}, tail text = some rest → rest <:+ text) : DeclarationReader where
  read text := do
    let text ← word.isPrefixOf? text
    let (_, text) ← run? Unicode.isSpace text
    let (name, text) ← run? Unicode.isWord text
    return (name, ← tail text)
  shortens := by
    intro text name rest read
    simp only [Option.bind_eq_bind, Option.bind_eq_some_iff, Option.pure_def] at read
    obtain ⟨behind, first, ⟨space, text₁⟩, second, ⟨name', text₂⟩, third, rest', fourth, made⟩ :=
      read
    cases made
    obtain ⟨named, nonempty⟩ := run?_eq_some third
    have whole : text = word ++ (space ++ (name' ++ text₂)) := by
      rw [← List.isPrefixOf?_eq_some_iff_append_eq.mp first, (run?_eq_some second).1, ← named]
    have shorter : rest.length ≤ text₂.length := (shrinks fourth).length_le
    have := List.length_pos_iff.mpr nonempty
    rw [whole]
    simp only [List.length_append]
    omega

/-- Reads what leads to a name, the name and the tail of a declaration. -/
def DeclarationReader.named (lead tail : List Char → Option (List Char))
    (leadShrinks : ∀ {text rest}, lead text = some rest → rest <:+ text)
    (tailShrinks : ∀ {text rest}, tail text = some rest → rest <:+ text) : DeclarationReader where
  read text := do
    let text ← lead text
    let (name, text) ← run? Unicode.isWord text
    return (name, ← tail text)
  shortens := by
    intro text name rest read
    simp only [Option.bind_eq_bind, Option.bind_eq_some_iff, Option.pure_def] at read
    obtain ⟨behind, first, ⟨name', text'⟩, second, rest', third, made⟩ := read
    cases made
    obtain ⟨named, nonempty⟩ := run?_eq_some second
    have shorter : rest.length ≤ text'.length := (tailShrinks third).length_le
    have whole : behind.length ≤ text.length := (leadShrinks first).length_le
    have := List.length_pos_iff.mpr nonempty
    rw [named, List.length_append] at whole
    omega

namespace Node

open Place

variable {k : Place → Option Place} {tail : List Char → Option (List Char)} {nodes : List Node}

/-- The patterns go on as the step does, where a word follows. -/
def Leads (nodes : List Node) (step : Place → Option Place) : Prop :=
  ∀ k, Steady k → Begins .word k → ∀ p, nodes.foldr attempt k p = (step p).bind k

variable {leadNodes : List Node} {step : Place → Option Place}
  {lead : List Char → Option (List Char)}

/-- A name is read to its end: what follows fails in the midst of a word, or succeeds further on
as well. -/
theorem attempt_named (plain : ∀ x ∈ leadNodes ++ group (many .word) :: nodes, Plain x)
    (leads : Leads leadNodes step) (tracks : Tracks (nodes.foldr attempt some) tail)
    (carries : ∀ c rest, Unicode.isWord c → (tail (c :: rest)).isSome → (tail rest).isSome)
    (p : Place) :
    (sequence (leadNodes ++ group (many .word) :: nodes)).attempt some p =
      (step p).bind fun c => (c.over? .word).bind fun e =>
        nodes.foldr attempt some { e with group := some (c.index, e.index) } := by
  have isSome_behind (q : Place) : (nodes.foldr attempt some q).isSome = (tail q.rest).isSome := by
    cases read : tail q.rest with
    | none =>
      rw [(tracks q).fails read]
      rfl
    | some rest =>
      obtain ⟨r, found, -⟩ := (tracks q).succeeds rest read
      rw [found]
      rfl
  have name (c : Place) : (group (many .word)).attempt (nodes.foldr attempt some) c =
      (c.over? .word).bind fun e =>
        nodes.foldr attempt some { e with group := some (c.index, e.index) } := by
    have steady : Steady fun e =>
        nodes.foldr attempt some { e with group := some (c.index, e.index) } :=
      fun p q alike => tracks.steady _ _ ⟨alike.1, alike.2⟩
    rw [attempt_group]
    refine attempt_many_carried steady (fun q r read success => ?_) c
    obtain ⟨-, -, d, member, text⟩ := reaches_of_read? read
    rw [isSome_behind] at success ⊢
    rw [text] at success
    exact carries d r.rest member success
  have named : Steady ((group (many .word)).attempt (nodes.foldr attempt some)) :=
    (Plain.group (plain_many _)).steady_attempt tracks.steady
  rw [attempt_sequence plain steady_some, List.foldr_append, List.foldr_cons]
  rw [leads _ named (funext name ▸ begins_over? .word _), funext name]

theorem read_named (lead tail : List Char → Option (List Char))
    (leadShrinks : ∀ {text rest}, lead text = some rest → rest <:+ text)
    (tailShrinks : ∀ {text rest}, tail text = some rest → rest <:+ text) (text : List Char) :
    (DeclarationReader.named lead tail leadShrinks tailShrinks).read text =
      (lead text).bind fun text => (run? Unicode.isWord text).bind fun found =>
        (tail found.2).map (found.1, ·) := by
  simp only [DeclarationReader.named]
  cases lead text with
  | none => rfl
  | some text =>
    cases named : run? Unicode.isWord text with
    | none => simp [named]
    | some found => cases tailed : tail found.2 <;> simp [named, tailed]

/-- A pattern of a lead, a name and a tail reads the declarations of that form. -/
theorem reads_named (plain : ∀ x ∈ leadNodes ++ group (many .word) :: nodes, Plain x)
    (leadShrinks : ∀ {text rest}, lead text = some rest → rest <:+ text)
    (tailShrinks : ∀ {text rest}, tail text = some rest → rest <:+ text)
    (leads : Leads leadNodes step) (led : Tracks step lead)
    (tracks : Tracks (nodes.foldr attempt some) tail)
    (carries : ∀ c rest, Unicode.isWord c → (tail (c :: rest)).isSome → (tail rest).isSome) :
    (sequence (leadNodes ++ group (many .word) :: nodes)).Reads
      (.named lead tail leadShrinks tailShrinks) := by
  intro p
  let fresh : Place := { p with passed := [], group := none }
  have attempted : (sequence (leadNodes ++ group (many .word) :: nodes)).preferred? p =
      (step fresh).bind fun c => (c.over? .word).bind fun e =>
        nodes.foldr attempt some { e with group := some (c.index, e.index) } := by
    rw [preferred?_eq]
    exact attempt_named plain leads tracks carries fresh
  have start : fresh.Arrives (step fresh) (lead p.rest) := led fresh
  have name (c : Place) : c.Arrives (c.over? .word) ((run? Unicode.isWord c.rest).map (·.2)) :=
    tracks_over? .word c
  -- The three stages of the reader: to the name, the name, and the tail behind it.
  rw [attempted, read_named]
  cases leading : lead p.rest with
  | none =>
    rw [start.fails leading]
    exact ⟨fun _ => rfl, nofun⟩
  | some text =>
    obtain ⟨c, found, rfl, ⟨front, before, start⟩, -⟩ := start.succeeds text leading
    rw [found, Option.bind_some, Option.bind_some]
    cases named : run? Unicode.isWord c.rest with
    | none =>
      rw [(name c).fails (by rw [named]; rfl)]
      exact ⟨fun _ => rfl, nofun⟩
    | some run =>
      obtain ⟨word, behind⟩ := run
      obtain ⟨e, found, rfl, ⟨read, text, stop⟩, -⟩ := (name c).succeeds behind (by rw [named]; rfl)
      obtain rfl : read = word :=
        List.append_cancel_right (text.symm.trans (run?_eq_some named).1)
      have tracked := tracks { e with group := some (c.index, e.index) }
      rw [found, Option.bind_some, Option.bind_some]
      refine ⟨fun unread => tracked.fails (Option.map_eq_none_iff.mp unread), fun _ rest made => ?_⟩
      obtain ⟨rest, tailed, made⟩ := Option.map_eq_some_iff.mp made
      cases made
      obtain ⟨q, done, same, further, group⟩ := tracked.succeeds rest tailed
      have whole : p.rest = front ++ read ++ e.rest := by
        rw [List.append_assoc, ← text]
        exact before
      have onward : p.Reaches e :=
        ⟨front ++ read, whole, by rw [stop, start, List.length_append, Nat.add_assoc]⟩
      refine ⟨q, front, e.rest, done, same, onward.trans further, whole, ?_⟩
      rw [group, stop, start]

/-! ## Keywords -/

/-- The keyword, space and the name of a declaration. -/
def keywordNodes (word : List Char) : List Node :=
  [literal word, many .space, .group (many .word)]

theorem plain_keywordNodes {word : List Char} (nonempty : word ≠ []) :
    ∀ x ∈ keywordNodes word, Plain x := by
  simp only [keywordNodes, List.forall_mem_cons]
  exact ⟨plain_literal nonempty, plain_many _, .group (plain_many _), List.forall_mem_nil _⟩

theorem leads_keyword (word : List Char) :
    Leads [literal word, many .space] fun p => (p.literal? word).bind (over? .space) := by
  intro k steady begins p
  have spaced : Steady ((many .space).attempt k) := (plain_many _).steady_attempt steady
  have spaces (q : Place) : (many .space).attempt k q = (q.over? .space).bind k := by
    refine attempt_many steady begins (fun c space => ?_) q
    exact Unicode.not_isWord_of_isSpace space
  simp only [List.foldr_cons, List.foldr_nil]
  rw [attempt_literal spaced, funext spaces, Option.bind_assoc]

theorem read_keyword (word : List Char) (tail : List Char → Option (List Char))
    (shrinks : ∀ {text rest}, tail text = some rest → rest <:+ text) (text : List Char) :
    (DeclarationReader.keyword word tail shrinks).read text =
      ((word.isPrefixOf? text).bind fun text => (run? Unicode.isSpace text).map (·.2)).bind
        fun text => (run? Unicode.isWord text).bind fun found =>
          (tail found.2).map (found.1, ·) := by
  simp only [DeclarationReader.keyword]
  cases word.isPrefixOf? text with
  | none => rfl
  | some text =>
    cases spaced : run? Unicode.isSpace text with
    | none => simp [spaced]
    | some found =>
      cases named : run? Unicode.isWord found.2 with
      | none => simp [spaced, named]
      | some found => cases tailed : tail found.2 <;> simp [spaced, named, tailed]

theorem read_keyword_eq_some {word text name rest : List Char}
    {shrinks : ∀ {text rest}, tail text = some rest → rest <:+ text} :
    (DeclarationReader.keyword word tail shrinks).read text = some (name, rest) ↔
      ∃ space behind, text = word ++ (space ++ (name ++ behind)) ∧ IsRun Unicode.isSpace space ∧
        IsRun Unicode.isWord name ∧ Stops Unicode.isWord behind ∧ tail behind = some rest := by
  rw [read_keyword]
  simp only [Option.bind_eq_some_iff, Option.map_eq_some_iff, Prod.exists, Prod.mk.injEq,
    List.isPrefixOf?_eq_some_iff_append_eq, run?_eq_some_iff]
  constructor
  · rintro ⟨_, ⟨_, rfl, space, _, ⟨rfl, spaced, -⟩, rfl⟩, _, behind, ⟨rfl, named, stops⟩, _, tailed,
      rfl, rfl⟩
    exact ⟨space, behind, rfl, spaced, named, stops, tailed⟩
  · rintro ⟨space, behind, rfl, spaced, named, stops, tailed⟩
    -- A name does not begin with a space, so that the space is read up to it and no further.
    have apart : Stops Unicode.isSpace (name ++ behind) :=
      stops_of_run (fun _ => Unicode.not_isSpace_of_isWord) named behind
    exact ⟨_, ⟨_, rfl, space, _, ⟨rfl, spaced, apart⟩, rfl⟩, name, behind, ⟨rfl, named, stops⟩, rest,
      tailed, rfl, rfl⟩

theorem keyword_shrinks {word text rest : List Char}
    (read : ((word.isPrefixOf? text).bind fun text => (run? Unicode.isSpace text).map (·.2)) =
      some rest) : rest <:+ text := by
  obtain ⟨behind, first, second⟩ := Option.bind_eq_some_iff.mp read
  obtain ⟨⟨space, rest⟩, spaced, rfl⟩ := Option.map_eq_some_iff.mp second
  have inner : rest <:+ behind := ⟨space, (run?_eq_some spaced).1.symm⟩
  exact inner.trans ⟨word, List.isPrefixOf?_eq_some_iff_append_eq.mp first⟩

/-- The keyword does not begin in `front`, where `text` follows. -/
def BeginsBehind (word front text : List Char) : Prop :=
  ∀ last, last <:+ front → last ≠ [] → ¬ word <+: last ++ text

instance (word front text : List Char) : Decidable (BeginsBehind word front text) :=
  decidable_of_iff (∀ last ∈ front.tails, last ≠ [] → ¬ word <+: last ++ text)
    (forall_congr' fun last => by rw [List.mem_tails])

theorem scan_behind {word front text : List Char} (behind : BeginsBehind word front text)
    (shrinks : ∀ {text rest}, tail text = some rest → rest <:+ text) :
    (DeclarationReader.keyword word tail shrinks).scan (front ++ text) =
      (DeclarationReader.keyword word tail shrinks).scan text := by
  induction front with
  | nil => rfl
  | cons c front ih =>
    have absent : word.isPrefixOf? (c :: (front ++ text)) = none := by
      rw [Option.eq_none_iff_forall_ne_some]
      intro rest found
      exact behind (c :: front) List.suffix_rfl (List.cons_ne_nil c front)
        ⟨rest, List.isPrefixOf?_eq_some_iff_append_eq.mp found⟩
    have unread : (DeclarationReader.keyword word tail shrinks).read (c :: (front ++ text)) =
        none := by
      rw [read_keyword, absent]
      rfl
    rw [List.cons_append, DeclarationReader.scan_cons_of_none unread]
    exact ih fun last within => behind last (within.trans (List.suffix_cons c front))

/-- The pattern of a keyword, space, a name and a tail reads the declarations of that form. -/
theorem reads_keyword_carried {word : List Char} (nonempty : word ≠ [])
    (plain : ∀ x ∈ nodes, Plain x)
    (shrinks : ∀ {text rest}, tail text = some rest → rest <:+ text)
    (tracks : Tracks (nodes.foldr attempt some) tail)
    (carries : ∀ c rest, Unicode.isWord c → (tail (c :: rest)).isSome → (tail rest).isSome) :
    (sequence (keywordNodes word ++ nodes)).Reads (.keyword word tail shrinks) := by
  have all : ∀ x ∈ keywordNodes word ++ nodes, Plain x :=
    List.forall_mem_append.mpr ⟨plain_keywordNodes nonempty, plain⟩
  have reads := reads_named all keyword_shrinks shrinks (leads_keyword word)
    ((tracks_literal? word).bind (tracks_over? .space)) tracks carries
  unfold Reads at reads ⊢
  simp only [read_named] at reads
  simp only [read_keyword]
  exact reads

/-- Where no tail begins inside a name, a name is not broken up. -/
theorem reads_keyword {word : List Char} (nonempty : word ≠ []) (plain : ∀ x ∈ nodes, Plain x)
    (shrinks : ∀ {text rest}, tail text = some rest → rest <:+ text)
    (tracks : Tracks (nodes.foldr attempt some) tail)
    (stops : ∀ c rest, Unicode.isWord c → tail (c :: rest) = none) :
    (sequence (keywordNodes word ++ nodes)).Reads (.keyword word tail shrinks) := by
  refine reads_keyword_carried nonempty plain shrinks tracks fun c rest word success => ?_
  rw [stops c rest word] at success
  cases success

end Node

end ProjectContext.Pattern
