import Mathlib.Data.List.Forall2
import ProjectContext.Path.Basic

/-!
# Decoding UTF-8

The strict decoder accepts the encodings of texts and nothing else, and gives the text back
(`decode?_eq_some`). One character is the unit of the proof: its bytes take the decoder from one
fresh start to the next (`piecesFrom_encodeChar`), and where the decoder finds no fault, the bytes
begin with those of a character (`encodeChar_of_sound`).
-/

namespace ProjectContext

theorem mapM_eq_some_iff {α β : Type*} {f : α → Option β} {as : List α} {bs : List β} :
    as.mapM f = some bs ↔ List.Forall₂ (fun a b => f a = some b) as bs := by
  induction as generalizing bs with
  | nil => cases bs <;> simp
  | cons a as ih =>
    rw [List.mapM_cons, List.forall₂_cons_left_iff]
    simp only [Option.bind_eq_bind, Option.bind_eq_some_iff, Option.pure_def, Option.some.injEq, ih]
    constructor
    · rintro ⟨b, found, bs, later, rfl⟩
      exact ⟨b, bs, found, later, rfl⟩
    · rintro ⟨b, bs, found, later, rfl⟩
      exact ⟨b, found, bs, later, rfl⟩

namespace Utf8

/-! ## First bytes -/

def two (k : Nat) : Pending := { bits := k, owed := 0 }

def three (k : Nat) : Pending where
  bits := k
  owed := 1
  low := if k = 0 then 0xA0 else 0x80
  high := if k = 13 then 0x9F else 0xBF

def four (k : Nat) : Pending where
  bits := k
  owed := 2
  low := if k = 0 then 0x90 else 0x80
  high := if k = 4 then 0x8F else 0xBF

theorem three_bounds (k : Nat) : 0x80 ≤ (three k).low.toNat ∧ (three k).high.toNat ≤ 0xBF := by
  unfold three
  split_ifs <;> simp

theorem four_bounds (k : Nat) : 0x80 ≤ (four k).low.toNat ∧ (four k).high.toNat ≤ 0xBF := by
  unfold four
  split_ifs <;> simp

theorem ofByte_one : ∀ k < 0x80, Lead.ofByte k.toUInt8 = .complete (some (Char.ofNat k)) := by
  decide

theorem ofByte_two : ∀ k < 32, 2 ≤ k → Lead.ofByte (0xC0 + k).toUInt8 = .opens (two k) := by
  decide

theorem ofByte_three : ∀ k < 16, Lead.ofByte (0xE0 + k).toUInt8 = .opens (three k) := by
  decide

theorem ofByte_four : ∀ k < 5, Lead.ofByte (0xF0 + k).toUInt8 = .opens (four k) := by
  decide

theorem byte_cases (b : UInt8) :
    (∃ k < 0x80, b = k.toUInt8) ∨ (∃ k < 32, 2 ≤ k ∧ b = (0xC0 + k).toUInt8) ∨
      (∃ k < 16, b = (0xE0 + k).toUInt8) ∨ (∃ k < 5, b = (0xF0 + k).toUInt8) ∨
      Lead.ofByte b = .complete none := by
  have kinds : ∀ n < 256, (n < 0x80 ∨ 0xC2 ≤ n ∧ n < 0xE0 ∨ 0xE0 ≤ n ∧ n < 0xF0 ∨
      0xF0 ≤ n ∧ n < 0xF5) ∨ Lead.ofByte n.toUInt8 = .complete none := by decide +kernel
  have same : b.toNat.toUInt8 = b := UInt8.ofNat_toNat
  rcases kinds b.toNat b.toNat_lt with (one | two | three | four) | fault
  · exact .inl ⟨b.toNat, one, same.symm⟩
  · refine .inr (.inl ⟨b.toNat - 0xC0, by omega, by omega, ?_⟩)
    rw [Nat.add_sub_of_le (by omega), same]
  · refine .inr (.inr (.inl ⟨b.toNat - 0xE0, by omega, ?_⟩))
    rw [Nat.add_sub_of_le three.1, same]
  · refine .inr (.inr (.inr (.inl ⟨b.toNat - 0xF0, by omega, ?_⟩)))
    rw [Nat.add_sub_of_le four.1, same]
  · rw [same] at fault
    exact .inr (.inr (.inr (.inr fault)))

/-! ## Later bytes -/

theorem toNat_later {k : Nat} (small : k < 64) : (0x80 + k).toUInt8.toNat = 0x80 + k := by
  have fits : (0x80 + k).toUInt8.toNat = (0x80 + k) % 256 := UInt8.toNat_ofNat'
  omega

theorem piecesFrom_opens {b : UInt8} {p : Pending} (opens : Lead.ofByte b = .opens p)
    (rest : List UInt8) : piecesFrom none (b :: rest) = piecesFrom (some p) rest := by
  rw [piecesFrom, opens]

theorem within_bounds {p : Pending} {k : Nat} (small : k < 64) (low : p.low.toNat ≤ 0x80 + k)
    (high : 0x80 + k ≤ p.high.toNat) :
    (p.low ≤ (0x80 + k).toUInt8 && (0x80 + k).toUInt8 ≤ p.high) = true := by
  simp only [UInt8.le_iff_toNat_le, toNat_later small, low, high, decide_true, Bool.and_self]

theorem piecesFrom_last {p : Pending} {k : Nat} (owed : p.owed = 0) (small : k < 64)
    (low : p.low.toNat ≤ 0x80 + k) (high : 0x80 + k ≤ p.high.toNat) (rest : List UInt8) :
    piecesFrom (some p) ((0x80 + k).toUInt8 :: rest) =
      some (Char.ofNat (p.bits * 64 + k)) :: piecesFrom none rest := by
  rw [piecesFrom]
  simp only [within_bounds small low high, if_true, toNat_later small, Nat.add_sub_cancel_left, owed]

theorem piecesFrom_more {p : Pending} {k n : Nat} (owed : p.owed = n + 1) (small : k < 64)
    (low : p.low.toNat ≤ 0x80 + k) (high : 0x80 + k ≤ p.high.toNat) (rest : List UInt8) :
    piecesFrom (some p) ((0x80 + k).toUInt8 :: rest) =
      piecesFrom (some { bits := p.bits * 64 + k, owed := n }) rest := by
  rw [piecesFrom]
  simp only [within_bounds small low high, if_true, toNat_later small, Nat.add_sub_cancel_left, owed]

theorem later_of_sound {p : Pending} {bytes : List UInt8} (low : 0x80 ≤ p.low.toNat)
    (high : p.high.toNat ≤ 0xBF) (sound : none ∉ piecesFrom (some p) bytes) :
    ∃ k rest, k < 64 ∧ p.low.toNat ≤ 0x80 + k ∧ 0x80 + k ≤ p.high.toNat ∧
      bytes = (0x80 + k).toUInt8 :: rest := by
  cases bytes with
  | nil => simp [piecesFrom] at sound
  | cons b rest =>
    by_cases within : (p.low ≤ b && b ≤ p.high) = true
    · have bounds : p.low.toNat ≤ b.toNat ∧ b.toNat ≤ p.high.toNat := by
        simpa [UInt8.le_iff_toNat_le] using within
      refine ⟨b.toNat - 0x80, rest, by omega, by omega, by omega, ?_⟩
      rw [Nat.add_sub_of_le (by omega)]
      exact congrArg (· :: rest) UInt8.ofNat_toNat.symm
    · rw [piecesFrom] at sound
      simp [within] at sound

theorem plain_bounds (bits owed k : Nat) (small : k < 64) :
    ({ bits, owed } : Pending).low.toNat ≤ 0x80 + k ∧
      0x80 + k ≤ ({ bits, owed } : Pending).high.toNat := by
  have low : ({ bits, owed } : Pending).low.toNat = 0x80 := rfl
  have high : ({ bits, owed } : Pending).high.toNat = 0xBF := rfl
  omega

theorem plain_last (bits : Nat) {k : Nat} (small : k < 64) (rest : List UInt8) :
    piecesFrom (some { bits, owed := 0 }) ((0x80 + k).toUInt8 :: rest) =
      some (Char.ofNat (bits * 64 + k)) :: piecesFrom none rest := by
  obtain ⟨low, high⟩ := plain_bounds bits 0 k small
  exact piecesFrom_last rfl small low high rest

theorem plain_more (bits owed : Nat) {k : Nat} (small : k < 64) (rest : List UInt8) :
    piecesFrom (some { bits, owed := owed + 1 }) ((0x80 + k).toUInt8 :: rest) =
      piecesFrom (some { bits := bits * 64 + k, owed }) rest := by
  obtain ⟨low, high⟩ := plain_bounds bits (owed + 1) k small
  exact piecesFrom_more rfl small low high rest

theorem plain_of_sound {bits owed : Nat} {bytes : List UInt8}
    (sound : none ∉ piecesFrom (some { bits, owed }) bytes) :
    ∃ k rest, k < 64 ∧ bytes = (0x80 + k).toUInt8 :: rest := by
  obtain ⟨k, rest, small, -, -, later⟩ := later_of_sound (Nat.le_refl _) (Nat.le_refl _) sound
  exact ⟨k, rest, small, later⟩

/-- The second of three bytes keeps out overlong forms and surrogates. -/
theorem three_within {k j : Nat} (first : k < 16) (second : j < 64) :
    (three k).low.toNat ≤ 0x80 + j ∧ 0x80 + j ≤ (three k).high.toNat ↔
      0x20 ≤ k * 64 + j ∧ (k * 64 + j < 0x360 ∨ 0x380 ≤ k * 64 + j) := by
  unfold three
  by_cases least : k = 0
  · simp [least]
    omega
  · by_cases surrogates : k = 13
    · simp [surrogates]
      omega
    · simp [least, surrogates]
      omega

/-- The second of four bytes keeps out overlong forms and what is above `10FFFF`. -/
theorem four_within {k j : Nat} (first : k < 5) (second : j < 64) :
    (four k).low.toNat ≤ 0x80 + j ∧ 0x80 + j ≤ (four k).high.toNat ↔
      0x10 ≤ k * 64 + j ∧ k * 64 + j < 0x110 := by
  unfold four
  by_cases least : k = 0
  · simp [least]
    omega
  · by_cases greatest : k = 4
    · simp [greatest]
      omega
    · simp [least, greatest]
      omega

/-! ## One character -/

theorem toNat_ofNat {n : Nat} (valid : n < 0xD800 ∨ 0xDFFF < n ∧ n < 0x110000) :
    (Char.ofNat n).toNat = n := by
  rw [Char.ofNat, dif_pos valid]
  rfl

theorem piecesFrom_encodeChar (c : Char) (rest : List UInt8) :
    piecesFrom none (encodeChar c ++ rest) = some c :: piecesFrom none rest := by
  obtain ⟨n, valid, rfl⟩ : ∃ n, n.isValidChar ∧ Char.ofNat n = c :=
    ⟨c.toNat, c.valid, c.ofNat_toNat⟩
  have valid : n < 0xD800 ∨ 0xDFFF < n ∧ n < 0x110000 := valid
  have last : n / 64 * 64 + n % 64 = n := by omega
  rw [encodeChar, toNat_ofNat valid]
  by_cases ascii : n < 0x80
  · simp [ascii, piecesFrom, ofByte_one n ascii]
  by_cases short : n < 0x800
  · have first := ofByte_two (n / 64) (by omega) (by omega)
    simp only [ascii, short, if_true, if_false, List.cons_append, List.nil_append]
    rw [piecesFrom_opens first, two, plain_last _ (by omega), last]
  by_cases middle : n < 0x10000
  · have first := ofByte_three (n / 4096) (by omega)
    have second : n / 4096 * 64 + n / 64 % 64 = n / 64 := by omega
    obtain ⟨low, high⟩ := (three_within (k := n / 4096) (j := n / 64 % 64) (by omega)
      (by omega)).mpr (by omega)
    simp only [ascii, short, middle, if_true, if_false, List.cons_append, List.nil_append]
    rw [piecesFrom_opens first, piecesFrom_more rfl (by omega) low high]
    simp only [three, second]
    rw [plain_last _ (by omega), last]
  · have first := ofByte_four (n / 262144) (by omega)
    have second : n / 262144 * 64 + n / 4096 % 64 = n / 4096 := by omega
    have third : n / 4096 * 64 + n / 64 % 64 = n / 64 := by omega
    obtain ⟨low, high⟩ := (four_within (k := n / 262144) (j := n / 4096 % 64) (by omega)
      (by omega)).mpr (by omega)
    simp only [ascii, short, middle, if_false, List.cons_append, List.nil_append]
    rw [piecesFrom_opens first, piecesFrom_more rfl (by omega) low high]
    simp only [four, second]
    rw [plain_more _ _ (by omega), third, plain_last _ (by omega), last]

theorem encodeChar_two {k j : Nat} (least : 2 ≤ k) (first : k < 32) (second : j < 64) :
    encodeChar (Char.ofNat (k * 64 + j)) = [(0xC0 + k).toUInt8, (0x80 + j).toUInt8] := by
  have number : (Char.ofNat (k * 64 + j)).toNat = k * 64 + j := toNat_ofNat (by omega)
  have high : (k * 64 + j) / 64 = k := by omega
  have low : (k * 64 + j) % 64 = j := by omega
  rw [encodeChar, number, if_neg (by omega), if_pos (by omega), high, low]

theorem encodeChar_three {m i : Nat} (least : 0x20 ≤ m) (valid : m < 0x360 ∨ 0x380 ≤ m)
    (most : m < 0x400) (third : i < 64) :
    encodeChar (Char.ofNat (m * 64 + i)) =
      [(0xE0 + m / 64).toUInt8, (0x80 + m % 64).toUInt8, (0x80 + i).toUInt8] := by
  have number : (Char.ofNat (m * 64 + i)).toNat = m * 64 + i := toNat_ofNat (by omega)
  have high : (m * 64 + i) / 4096 = m / 64 := by omega
  have middle : (m * 64 + i) / 64 % 64 = m % 64 := by omega
  have low : (m * 64 + i) % 64 = i := by omega
  rw [encodeChar, number, if_neg (by omega), if_neg (by omega), if_pos (by omega), high, middle, low]

theorem encodeChar_four {m i h : Nat} (least : 0x10 ≤ m) (most : m < 0x110) (third : i < 64)
    (fourth : h < 64) :
    encodeChar (Char.ofNat ((m * 64 + i) * 64 + h)) =
      [(0xF0 + m / 64).toUInt8, (0x80 + m % 64).toUInt8, (0x80 + i).toUInt8,
        (0x80 + h).toUInt8] := by
  have number : (Char.ofNat ((m * 64 + i) * 64 + h)).toNat = (m * 64 + i) * 64 + h :=
    toNat_ofNat (by omega)
  have high : ((m * 64 + i) * 64 + h) / 262144 = m / 64 := by omega
  have upper : ((m * 64 + i) * 64 + h) / 4096 % 64 = m % 64 := by omega
  have lower : ((m * 64 + i) * 64 + h) / 64 % 64 = i := by omega
  have low : ((m * 64 + i) * 64 + h) % 64 = h := by omega
  rw [encodeChar, number, if_neg (by omega), if_neg (by omega), if_neg (by omega), high, upper,
    lower, low]

theorem encodeChar_of_sound (b : UInt8) (bytes : List UInt8)
    (sound : none ∉ piecesFrom none (b :: bytes)) :
    ∃ c rest, b :: bytes = encodeChar c ++ rest := by
  -- The first byte says how many follow, and each of these would be a fault out of its bounds.
  rcases byte_cases b with ⟨k, small, rfl⟩ | ⟨k, small, least, rfl⟩ | ⟨k, small, rfl⟩ |
    ⟨k, small, rfl⟩ | fault
  · refine ⟨Char.ofNat k, bytes, ?_⟩
    rw [encodeChar, toNat_ofNat (by omega), if_pos small]
    rfl
  · rw [piecesFrom_opens (ofByte_two k small least)] at sound
    obtain ⟨j, rest, second, rfl⟩ := plain_of_sound sound
    exact ⟨Char.ofNat (k * 64 + j), rest, by rw [encodeChar_two least small second]; rfl⟩
  · rw [piecesFrom_opens (ofByte_three k small)] at sound
    obtain ⟨j, rest, second, low, high, rfl⟩ :=
      later_of_sound (three_bounds k).1 (three_bounds k).2 sound
    obtain ⟨least, valid⟩ := (three_within small second).mp ⟨low, high⟩
    rw [piecesFrom_more rfl second low high] at sound
    obtain ⟨i, rest, third, rfl⟩ := plain_of_sound sound
    refine ⟨Char.ofNat ((k * 64 + j) * 64 + i), rest, ?_⟩
    have head : (k * 64 + j) / 64 = k := by omega
    have tail : (k * 64 + j) % 64 = j := by omega
    rw [encodeChar_three least valid (by omega) third, head, tail]
    rfl
  · rw [piecesFrom_opens (ofByte_four k small)] at sound
    obtain ⟨j, rest, second, low, high, rfl⟩ :=
      later_of_sound (four_bounds k).1 (four_bounds k).2 sound
    obtain ⟨least, most⟩ := (four_within small second).mp ⟨low, high⟩
    rw [piecesFrom_more rfl second low high] at sound
    obtain ⟨i, rest, third, rfl⟩ := plain_of_sound sound
    simp only [four] at sound
    rw [plain_more _ _ third] at sound
    obtain ⟨h, rest, fourth, rfl⟩ := plain_of_sound sound
    refine ⟨Char.ofNat (((k * 64 + j) * 64 + i) * 64 + h), rest, ?_⟩
    have head : (k * 64 + j) / 64 = k := by omega
    have tail : (k * 64 + j) % 64 = j := by omega
    rw [encodeChar_four least most third fourth, head, tail]
    rfl
  · rw [piecesFrom, fault] at sound
    exact absurd List.mem_cons_self sound

/-! ## Texts -/

theorem pieces_encode (chars : List Char) :
    piecesFrom none (chars.flatMap encodeChar) = chars.map some := by
  induction chars with
  | nil => rfl
  | cons c chars ih => rw [List.flatMap_cons, piecesFrom_encodeChar, ih, List.map_cons]

theorem mapM_id_eq_some {α : Type*} {pieces : List (Option α)} {values : List α} :
    pieces.mapM id = some values ↔ pieces = values.map some := by
  rw [mapM_eq_some_iff, ← List.forall₂_eq_eq_eq, List.forall₂_map_right_iff]
  rfl

theorem encode_of_sound {bytes : List UInt8} {chars : List Char}
    (found : piecesFrom none bytes = chars.map some) : bytes = chars.flatMap encodeChar := by
  induction chars generalizing bytes with
  | nil =>
    cases bytes with
    | nil => rfl
    | cons b bytes =>
      obtain ⟨c, rest, start⟩ := encodeChar_of_sound b bytes (by simp [found])
      rw [start, piecesFrom_encodeChar] at found
      cases found
  | cons first chars ih =>
    cases bytes with
    | nil => cases found
    | cons b bytes =>
      obtain ⟨c, rest, start⟩ := encodeChar_of_sound b bytes (by simp [found])
      rw [start, piecesFrom_encodeChar, List.map_cons, List.cons.injEq, Option.some.injEq] at found
      rw [start, List.flatMap_cons, found.1, ih found.2]

theorem decode?_eq_some {bytes : List UInt8} {text : String} :
    decode? bytes = some text ↔ bytes = encode text := by
  unfold decode? encode pieces
  rw [Option.map_eq_some_iff]
  constructor
  · rintro ⟨chars, found, rfl⟩
    rw [String.toList_ofList]
    exact encode_of_sound (mapM_id_eq_some.mp found)
  · rintro rfl
    refine ⟨text.toList, mapM_id_eq_some.mpr (pieces_encode _), ?_⟩
    exact String.ofList_toList

end Utf8

namespace Path

theorem toString?_eq_some {p : Path} {text : String} : p.toString? = some text ↔ p = .ofString text := by
  unfold toString? ofString Bytes.ofString
  rw [Utf8.decode?_eq_some]
  cases p
  simp

theorem display_ofString (text : String) : (ofString text).display = text := by
  have pieces : (Utf8.pieces (Utf8.encode text)).map (·.getD '\uFFFD') = text.toList := by
    rw [Utf8.pieces, Utf8.encode, Utf8.pieces_encode, List.map_map]
    exact List.map_id' _
  rw [display, Utf8.decodeLossy, ofString, Bytes.ofString, pieces, String.ofList_toList]

theorem toString?_eq_none {p : Path} : p.toString? = none ↔ ∀ text, p ≠ .ofString text := by
  rw [Option.eq_none_iff_forall_ne_some]
  exact forall_congr' fun text => not_congr toString?_eq_some

end Path

end ProjectContext
