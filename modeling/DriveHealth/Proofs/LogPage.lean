import DriveHealth.Nvme.Command
import Mathlib.Algebra.Group.Nat.Defs
set_option autoImplicit false

namespace DriveHealth.Nvme.Command

/-- How many octets the word of a log page command asks for: its upper half counts 32-bit words, less one. -/
def transfer (c : Command) : Nat := 4 * ((c.cdw10 >>> 16) + 1)

/-- The two halves of the word. The count is cut to 32 bits with the length, and to 16 bits by the shift. -/
theorem cdw10_halves {page : Nat} (hp : page < 2 ^ 16) (length : Nat) :
    (logPage page length).cdw10 = ((length % 2 ^ 32 / 4 - 1) % 2 ^ 16) <<< 16 + page := by
  have hcut (count : Nat) : count <<< 16 % (1 <<< 32) = (count % 2 ^ 16) <<< 16 := by
    simp only [Nat.shiftLeft_eq]
    omega
  rw [cdw10, hcut, Nat.or_comm, Nat.shiftLeft_add_eq_or_of_lt hp, Nat.one_shiftLeft]

theorem transfer_logPage {page : Nat} (hp : page < 2 ^ 16) (length : Nat) :
    (logPage page length).transfer = 4 * ((length % 2 ^ 32 / 4 - 1) % 2 ^ 16 + 1) := by
  have hupper (count : Nat) : (count <<< 16 + page) >>> 16 = count := by
    simp only [Nat.shiftLeft_eq, Nat.shiftRight_eq_div_pow]
    omega
  rw [transfer, cdw10_halves hp, hupper]

/-- The word has 32 bits, and its lower half is the page, for every length. From four octets on a command never
asks for more than its length, and for all of it exactly if that is whole 32-bit words, as many as sixteen bits
can count. -/
theorem transfer_within_length {page : Nat} (hp : page < 2 ^ 16) (length : Nat) :
    (logPage page length).cdw10 < 2 ^ 32 ∧ (logPage page length).cdw10 % 2 ^ 16 = page ∧
      (4 ≤ length → (logPage page length).transfer ≤ length ∧
        ((logPage page length).transfer = length ↔ 4 ∣ length ∧ length ≤ 262144)) := by
  have hcount : (length % 2 ^ 32 / 4 - 1) % 2 ^ 16 < 2 ^ 16 := Nat.mod_lt _ (by decide)
  refine ⟨?_, ?_, fun hlength => ?_⟩
  · rw [cdw10_halves hp, Nat.shiftLeft_eq]
    omega
  · rw [cdw10_halves hp, Nat.shiftLeft_eq]
    omega
  · -- a length that the first cut leaves below four asks for four octets, and these are there
    rw [transfer_logPage hp]
    omega

/-- A length of 32 bits and eight octets more: the cut length is asked for, which is less. -/
theorem transfer_within_length_cut :
    (2 : Nat) < 2 ^ 16 ∧ 4 ≤ 2 ^ 32 + 8 ∧ (logPage 2 (2 ^ 32 + 8)).cdw10 % 2 ^ 16 = 2 ∧
      (logPage 2 (2 ^ 32 + 8)).transfer ≤ 2 ^ 32 + 8 ∧ (logPage 2 (2 ^ 32 + 8)).transfer ≠ 2 ^ 32 + 8 := by
  obtain ⟨-, hpage, htransfer⟩ := transfer_within_length (show 2 < 2 ^ 16 by decide) (2 ^ 32 + 8)
  obtain ⟨hle, hall⟩ := htransfer (by decide)
  exact ⟨by decide, by decide, hpage, hle, fun h => absurd (hall.1 h).2 (by decide)⟩

end DriveHealth.Nvme.Command
