import Mathlib.Data.List.Basic
import ProjectContext.Cache

/-!
# Digests as text

A digest is written with two hexadecimal digits a byte, all of them in lower case
(`Bytes.mem_toHex`), which makes sixty-four digits (`hexDigest_length`).
-/

namespace ProjectContext

namespace Bytes

def lowerHexDigits : List Char := "0123456789abcdef".toList

theorem hexDigit_mem {n : Nat} (small : n < 16) : hexDigit n ∈ lowerHexDigits := by
  have all : ∀ n < 16, hexDigit n ∈ lowerHexDigits := by decide
  exact all n small

theorem toHex_length (bytes : Bytes) : (toHex bytes).length = 2 * bytes.length := by
  rw [toHex, String.length_ofList, List.length_flatMap]
  simp [Nat.mul_comm]

theorem mem_toHex {bytes : Bytes} {c : Char} (member : c ∈ (toHex bytes).toList) :
    c ∈ lowerHexDigits := by
  rw [toHex, String.toList_ofList] at member
  obtain ⟨b, -, digit⟩ := List.mem_flatMap.mp member
  have bound : b.toNat < 256 := b.toNat_lt
  rcases List.mem_cons.mp digit with rfl | digit
  · exact hexDigit_mem (by omega)
  · rw [List.mem_singleton.mp digit]
    exact hexDigit_mem (by omega)

end Bytes

namespace Sha256

theorem digest_length (message : Bytes) : (digest message).length = 32 := by
  simp [digest, Words.toBytes, bigEndian]

theorem hexDigest_length (text : String) : (hexDigest text).length = 64 := by
  rw [hexDigest, Bytes.toHex_length, digest_length]

example : hexDigest "abc" = "ba7816bf8f01cfea414140de5dae2223b00361a396177a9cb410ff61f20015ad" := by
  decide +kernel

end Sha256

end ProjectContext
