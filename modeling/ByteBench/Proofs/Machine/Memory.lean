import ByteBench.Machine.Memory

/-!
# Writing words into a memory

A memory has fewer bytes than its addresses, so that of several words that are written the last one
for each byte is kept. Main statements: `getElem_store_of_last` and `getElem_store_of_ne`.
-/

namespace ByteBench.Memory

theorem index_ofNat (address : Nat) : (index (.ofNat address)).val = address % 256 := by
  have hdvd : 256 ∣ 2 ^ 16 := by decide
  show (UInt16.ofNat address).toNat % 256 = address % 256
  rw [UInt16.toNat_ofNat']
  exact Nat.mod_mod_of_dvd address hdvd

theorem index_eq_iff {a a' : UInt16} : index a = index a' ↔ a.toNat % 256 = a'.toNat % 256 := by
  rw [Fin.ext_iff]
  rfl

theorem getElem_set (m : Memory) (address : UInt16) (byte : UInt8) (j : Fin 256) :
    (m.set address byte).bytes[j] = if index address = j then byte else m.bytes[j] := by
  simp only [set, Fin.getElem_fin, Vector.getElem_set, Fin.ext_iff]

theorem getElem_zeros (j : Fin 256) : zeros.bytes[j] = 0 := by
  simp [zeros]

theorem get_ofNat (m : Memory) (address : Nat) :
    m.get (.ofNat address) = m.bytes[address % 256] := by
  simp only [get, Fin.getElem_fin, index_ofNat]

/-- Words written from an address on. -/
def store (address : Nat) : List UInt8 → Memory → Memory
  | [], m => m
  | word :: words, m => store (address + 1) words (m.set (.ofNat address) word)

variable {j : Fin 256}

theorem getElem_set_of_ne {address : Nat} (m : Memory) (byte : UInt8) (h : address % 256 ≠ j.val) :
    (m.set (.ofNat address) byte).bytes[j] = m.bytes[j] := by
  have hindex : index (.ofNat address) ≠ j := by
    intro he
    rw [← he, index_ofNat] at h
    exact h rfl
  rw [getElem_set, if_neg hindex]

theorem getElem_set_of_eq {address : Nat} (m : Memory) (byte : UInt8) (h : address % 256 = j.val) :
    (m.set (.ofNat address) byte).bytes[j] = byte := by
  have hindex : index (.ofNat address) = j := by
    apply Fin.ext
    rw [index_ofNat]
    exact h
  rw [getElem_set, if_pos hindex]

theorem getElem_store_of_ne {address : Nat} {words : List UInt8} (m : Memory)
    (h : ∀ i, i < words.length → (address + i) % 256 ≠ j.val) :
    (m.store address words).bytes[j] = m.bytes[j] := by
  induction words generalizing address m with
  | nil => rfl
  | cons word words ih =>
    have hfirst : address % 256 ≠ j.val := h 0 (Nat.succ_pos _)
    have hrest : ∀ i, i < words.length → (address + 1 + i) % 256 ≠ j.val := by
      intro i hi
      have hnext := h (i + 1) (by rw [List.length_cons]; omega)
      rwa [← Nat.add_assoc, Nat.add_right_comm] at hnext
    rw [store, ih _ hrest, getElem_set_of_ne m word hfirst]

theorem getElem_store_of_last {address k : Nat} {words : List UInt8} {word : UInt8} (m : Memory)
    (hk : words[k]? = some word) (hj : (address + k) % 256 = j.val)
    (hlast : ∀ i, k < i → i < words.length → (address + i) % 256 ≠ j.val) :
    (m.store address words).bytes[j] = word := by
  induction words generalizing address k m with
  | nil => cases hk
  | cons first words ih =>
    have hlater : ∀ i, k < i + 1 → i < words.length → (address + 1 + i) % 256 ≠ j.val := by
      intro i hki hi
      have hnext := hlast (i + 1) hki (by rw [List.length_cons]; omega)
      rwa [← Nat.add_assoc, Nat.add_right_comm] at hnext
    rw [store]
    cases k with
    | zero =>
      have hword : first = word := Option.some.inj hk
      have hhere : address % 256 = j.val := hj
      have hrest : ∀ i, i < words.length → (address + 1 + i) % 256 ≠ j.val := by
        intro i hi
        exact hlater i (Nat.succ_pos i) hi
      rw [getElem_store_of_ne _ hrest, getElem_set_of_eq m first hhere, hword]
    | succ k =>
      have hk' : words[k]? = some word := hk
      have hj' : (address + 1 + k) % 256 = j.val := by
        rwa [← Nat.add_assoc, Nat.add_right_comm] at hj
      have hlast' : ∀ i, k < i → i < words.length → (address + 1 + i) % 256 ≠ j.val := by
        intro i hki hi
        exact hlater i (by omega) hi
      exact ih _ hk' hj' hlast'

end ByteBench.Memory
