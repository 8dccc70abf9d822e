import GpuTelemetry.Drm.Driver
import GpuTelemetry.Proofs.Numeral.Writing
import Mathlib.Algebra.GroupWithZero.Nat

/-!
# Different devices have different addresses

The address of a PCI device is its domain, bus, device and function in a fixed
notation: three numbers in hexadecimal digits of fixed width and one in decimal
digits. Nothing is lost in writing it down.
-/

namespace GpuTelemetry

namespace Numeral

theorem hexDigit_inj {n m : Nat} (hn : n < 16) (hm : m < 16) (h : hexDigit n = hexDigit m) :
    n = m := by
  have hvalue := congrArg hexValue? h
  rw [hexValue?_hexDigit n hn, hexValue?_hexDigit m hm] at hvalue
  exact Option.some.inj hvalue

theorem writeHex_inj (width : Nat) {n m : Nat} (hn : n < 16 ^ width) (hm : m < 16 ^ width)
    (h : writeHex width n = writeHex width m) : n = m := by
  induction width generalizing n m with
  | zero => omega
  | succ width ih =>
      rw [Nat.pow_succ] at hn hm
      obtain ⟨hfront, hlast⟩ := List.append_inj' h rfl
      have htenth : n / 16 = m / 16 := ih (by omega) (by omega) hfront
      have hdigit : n % 16 = m % 16 :=
        hexDigit_inj (by omega) (by omega) (List.singleton_inj.mp hlast)
      omega

theorem write_inj {n m : Nat} (h : write n = write m) : n = m := by
  have hn := takeDigits_write n []
  have hm := takeDigits_write m []
  rw [h, hm] at hn
  exact (congrArg Prod.fst hn).symm

end Numeral

theorem Drm.PciAddress.text_injective {a b : PciAddress} (h : a.text = b.text) : a = b := by
  simp only [text] at h
  -- all parts but the last have a fixed length
  obtain ⟨h, hfunction⟩ := List.append_inj h (by simp [Numeral.length_writeHex])
  obtain ⟨h, hdevice⟩ := List.append_inj h (by simp [Numeral.length_writeHex])
  obtain ⟨hdomain, hbus⟩ := List.append_inj h (by simp [Numeral.length_writeHex])
  have hdomain := Numeral.writeHex_inj 4 a.domain.toNat_lt b.domain.toNat_lt hdomain
  have hbus := Numeral.writeHex_inj 2 a.bus.toNat_lt b.bus.toNat_lt
    ((List.cons_inj_right _).mp hbus)
  have hdevice := Numeral.writeHex_inj 2 a.device.toNat_lt b.device.toNat_lt
    ((List.cons_inj_right _).mp hdevice)
  have hfunction := Numeral.write_inj ((List.cons_inj_right _).mp hfunction)
  cases a
  cases b
  simp only [PciAddress.mk.injEq]
  exact ⟨UInt16.toNat_inj.mp hdomain, UInt8.toNat_inj.mp hbus, UInt8.toNat_inj.mp hdevice,
    UInt8.toNat_inj.mp hfunction⟩

end GpuTelemetry
