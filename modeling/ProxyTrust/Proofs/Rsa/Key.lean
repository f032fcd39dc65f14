/-
  The private form of a key says every number of the key.

  1. **One number** — the content of a written number spells it: the zero byte that may stand
     before a set sign bit counts for nothing.

  2. **A row of numbers** — numbers written one after the other are read back one after the other,
     and what stands behind them is not looked at.  The induction is on the numbers, since each
     one is read off the front of the bytes that the one before it left.

  3. **The key** — modulus, exponents and primes are the numbers after the version, so the private
     form gives back the key it was written from.  The three numbers that speed up signing follow
     from these and are not read.
-/
import ProxyTrust.Rsa.Key
import ProxyTrust.Proofs.Der.Element

namespace ProxyTrust.Rsa

open Bytes (ofBigEndian)

/-- A zero byte in front counts for nothing. -/
theorem ofBigEndian_zero_cons (bytes : List UInt8) :
    ofBigEndian (0 :: bytes) = ofBigEndian bytes := by
  rw [Bytes.ofBigEndian_cons, UInt8.toNat_zero, Nat.zero_mul, Nat.zero_add]

/-- The content of a written number spells the number. -/
theorem ofBigEndian_naturalContent (n : Nat) : ofBigEndian (Der.naturalContent n) = n := by
  have hshortest : ofBigEndian (Bytes.minimalBytes n) = n := Bytes.ofBigEndian_minimalBytes n
  rw [Der.naturalContent]
  cases hbytes : Bytes.minimalBytes n with
  | nil =>
    rw [hbytes] at hshortest
    exact (ofBigEndian_zero_cons []).trans hshortest
  | cons b rest =>
    rw [hbytes] at hshortest
    show ofBigEndian (if b < 0x80 then b :: rest else 0 :: b :: rest) = n
    split
    · exact hshortest
    · exact (ofBigEndian_zero_cons _).trans hshortest

namespace Key

/-- Numbers that were written one after the other are read back, whatever stands behind them. -/
theorem readNaturals_natural (numbers : List Nat)
    (hlength : ∀ n ∈ numbers, (Der.naturalContent n).length < Der.lengthBound) (rest : List UInt8) :
    readNaturals numbers.length ((numbers.map Der.natural).flatten ++ rest) = numbers := by
  induction numbers with
  | nil => rfl
  | cons n numbers ih =>
    have hfirst : Der.contentOf 2 (Der.natural n ++ ((numbers.map Der.natural).flatten ++ rest))
        = .ok (Der.naturalContent n, (numbers.map Der.natural).flatten ++ rest) :=
      Der.contentOf_write rfl (by decide) (hlength n List.mem_cons_self) _
    have hothers := ih fun m hm => hlength m (List.mem_cons_of_mem n hm)
    rw [List.map_cons, List.flatten_cons, List.append_assoc, List.length_cons, readNaturals, hfirst]
    simp only [ofBigEndian_naturalContent, hothers]

/-- The private form of a key is read as that key. -/
theorem ofPrivateBytes?_privateBytes (k : Key) (hlength : k.privateBytes.length < Der.lengthBound) :
    ofPrivateBytes? k.privateBytes = some k := by
  have hcontent : ∀ n ∈ k.privateNumbers, (Der.naturalContent n).length < Der.lengthBound := by
    intro n hn
    exact Der.content_lt (Der.part_lt hlength (List.mem_map_of_mem hn))
  have hopen :
      Der.contentOf 16 k.privateBytes = .ok ((k.privateNumbers.map Der.natural).flatten, []) := by
    have hread := Der.contentOf_write (show (0x30 : UInt8).toNat % 32 = 16 from rfl) (by decide)
      (Der.content_lt hlength) []
    rwa [List.append_nil] at hread
  -- six numbers are read, and three stand behind them
  have hsplit : (k.privateNumbers.map Der.natural).flatten
      = ((k.privateNumbers.take 6).map Der.natural).flatten
        ++ ((k.privateNumbers.drop 6).map Der.natural).flatten := by
    rw [← List.flatten_append, ← List.map_append, List.take_append_drop]
  have hnumbers : readNaturals 6 (k.privateNumbers.map Der.natural).flatten
      = k.privateNumbers.take 6 := by
    rw [hsplit]
    exact readNaturals_natural (k.privateNumbers.take 6)
      (fun n hn => hcontent n (List.mem_of_mem_take hn)) _
  rw [ofPrivateBytes?, hopen]
  simp only [hnumbers]
  rfl

end Key

end ProxyTrust.Rsa
